import Mathlib.Data.List.Basic
import Playout.Proofs.Poll.Windows

/-!
# `Playout.Proofs.Poll.Heeding` — which stops a playback heeds

A play sets its mark only once the device is ready for it. A stop that looks before that does nothing, although the play
has begun; one that looks after it leaves a wakeup, which ends the next wait of the play.

## Contents
- `waits`, `writes`, `acts` — what a trace has waited for, written, and done to what the threads share.
- `Script` — what a stop has done.
- `Phase.past` — the mark is set once.
- `Phase.worth`, `Quick` — what is left of a play whose waits are ended by a stop.
- `found_iff_marked`, `unheard` — which stops find the mark, and what the others do.
- `wait_stopped` — a wait that begins after a stop has found the mark ends by it.

## Main statements
- `heard_iff_marked` — a stop is heard if and only if the play has set its mark before the look.
- `heard_while_writing` — so it is in a run in which the stop comes before the first write.
- `stop_before_mark` — a play of which a stop goes unheard.
-/

namespace Playout.Poll

open Interleaving Transport Program

/-! ## Traces -/

/-- How a wait has ended. -/
def waited : (Σ r : Poll.Request, Poll.Request.Answer r) → Option (Except Failure Readiness)
  | ⟨.wait _ _ _, outcome⟩ => some outcome
  | _ => none

/-- How the waits of a trace have ended. -/
def waits (trace : Trace Poll.Interface) : List (Except Failure Readiness) := trace.filterMap waited

/-- The bytes of a write. -/
def written : (Σ r : Poll.Request, Poll.Request.Answer r) → Option (List UInt8)
  | ⟨.write _ bytes, _⟩ => some bytes
  | _ => none

/-- What a trace has begun to write. -/
def writes (trace : Trace Poll.Interface) : List (List UInt8) := trace.filterMap written

/-- The requests of a trace that touch a lock or the wakeup. -/
def acts (trace : Trace Poll.Interface) : Trace Poll.Interface := trace.filter fun x => !x.1.aloof

theorem waits_snoc (trace : Trace Poll.Interface) (x : Σ r : Poll.Request, Poll.Request.Answer r) :
    waits (trace ++ [x]) = waits trace ++ (waited x).toList := filterMap_snoc ..

theorem writes_snoc (trace : Trace Poll.Interface) (x : Σ r : Poll.Request, Poll.Request.Answer r) :
    writes (trace ++ [x]) = writes trace ++ (written x).toList := filterMap_snoc ..

theorem acts_snoc (trace : Trace Poll.Interface) (x : Σ r : Poll.Request, Poll.Request.Answer r) :
    acts (trace ++ [x]) = acts trace ++ if x.1.aloof then [] else [x] := by
  unfold acts
  rw [List.filter_append]
  cases aloof : x.1.aloof <;> simp [aloof]

theorem mem_acts {T : Type} [DecidableEq T] {t : T} {n : Nat} {history : Past T} {r : Poll.Request}
    {answer : Poll.Request.Answer r} :
    ⟨r, answer⟩ ∈ acts (own t n history) ↔ .asked t n r answer ∈ history ∧ r.aloof = false := by
  unfold acts
  rw [List.mem_filter, mem_own]
  simp

/-! ## What a stop does -/

/-- What a stop has done in a phase, messages apart. -/
def Script : Phase → Trace Poll.Interface → Prop
  | .called, trace => trace = []
  | .locked active, trace => trace = [⟨.takeActive, active⟩]
  | .notified, trace => trace = [⟨.takeActive, true⟩, ⟨.notifyWakeup, ()⟩]
  | .heard, trace => trace = [⟨.takeActive, true⟩, ⟨.notifyWakeup, ()⟩, ⟨.putActive true, ()⟩] ∨
      trace = [⟨.takeActive, false⟩, ⟨.putActive false, ()⟩]
  | _, _ => False

variable {φ φ' : Phase} {s s₀ : Stage} {r : Poll.Request} {answer : Poll.Request.Answer r}
  {trace : Trace Poll.Interface}

theorem Turn.script (turn : Turn φ r answer φ') (script : Script φ (acts trace)) :
    Script φ' (acts (trace ++ [⟨r, answer⟩])) := by
  rw [acts_snoc]
  cases turn with
  | enter =>
    have nothing : acts trace = [] := script
    rw [nothing]
    rfl
  | notify =>
    have looked : acts trace = [⟨.takeActive, true⟩] := script
    rw [looked]
    rfl
  | heeded =>
    have woke : acts trace = [⟨.takeActive, true⟩, ⟨.notifyWakeup, ()⟩] := script
    rw [woke]
    exact .inl rfl
  | unheeded =>
    have looked : acts trace = [⟨.takeActive, false⟩] := script
    rw [looked]
    exact .inr rfl
  | _ => cases script

/-- A stop keeps to the script. -/
theorem script_of_path (path : Path moves (.reach .called) trace s) : Script s.phase (acts trace) := by
  refine path.keeps (fun trace s => Script s.phase (acts trace)) ?_ ?_
  · exact rfl
  · rintro trace _ r answer _ script (turn | _)
    · exact turn.script script
    · rw [acts_snoc]
      simpa [Request.aloof] using script

/-! ## The mark is set once -/

/-- Whether the mark has been set, or the slot is done with. -/
def Phase.past : Phase → Bool
  | feeding _ | waiting .. | ceased .. | unmarking .. | tidying .. | tidied .. | emptied | gone _ | heard => true
  | _ => false

theorem Turn.past (turn : Turn φ r answer φ') :
    (φ.past = true → φ'.past = true) ∧ (r = .putActive true → φ.past = false ∧ φ'.past = true) := by
  cases turn with
  | mark | heeded => exact ⟨fun _ => rfl, fun _ => ⟨rfl, rfl⟩⟩
  | enter => exact ⟨nofun, nofun⟩
  | _ => first | exact ⟨fun _ => rfl, nofun⟩ | exact ⟨nofun, nofun⟩

theorem past_of_path (path : Path moves s₀ trace s) (marked : ⟨.putActive true, ()⟩ ∈ trace) :
    s.phase.past = true := by
  refine path.keeps (fun trace s => ⟨.putActive true, ()⟩ ∈ trace → s.phase.past = true) nofun ?_ marked
  rintro trace _ r answer _ held (turn | _) mem
  · rcases List.mem_append.1 mem with earlier | now
    · exact turn.past.1 (held earlier)
    · rw [List.mem_singleton] at now
      cases now
      exact (turn.past.2 rfl).2
  · rcases List.mem_append.1 mem with earlier | now
    · exact held earlier
    · rw [List.mem_singleton] at now
      cases now

/-! ## What is left of a play -/

/-- How many requests may come after the messages of a phase, if every wait is ended by a stop. -/
def Phase.worth : Phase → Nat
  | entered => 21
  | vacant => 20
  | held _ => 19
  | granted _ => 17
  | agreed _ => 15
  | marking _ => 14
  | swept _ => 13
  | feeding _ => 12
  | waiting .. => 11
  | ceased .. => 9
  | unmarking .. => 8
  | tidying .. => 6
  | tidied .. | spurned _ => 3
  | called => 5
  | locked _ | doomed _ => 3
  | closing => 5
  | notified | emptied => 1
  | bare => 2
  | barred | gone _ | heard | shut => 0

/-- How many writes may come, if every wait is ended by a stop. -/
def Phase.due : Phase → Nat
  | waiting .. | ceased .. | unmarking .. | tidying .. | tidied .. | emptied | gone _ => 0
  | _ => 1

/-- Whether the loop has been left without a failure. -/
def Phase.fine : Phase → Bool
  | ceased _ fine | unmarking _ fine | tidying _ fine | tidied _ fine => fine
  | gone kept => kept
  | _ => false

/-- How many requests a call can still make, if every wait is ended by a stop. -/
def Stage.cost (s : Stage) : Nat := s.phase.worth + s.patience

theorem Phase.due_le (φ : Phase) : φ.due ≤ 1 := by
  cases φ <;> simp [due]

/-- Every turn of such a call leaves it fewer requests, and a write leaves it no other one. -/
theorem Turn.less (turn : Turn φ r answer φ')
    (alert : ∀ outcome, waited ⟨r, answer⟩ = some outcome → outcome = .ok .stopped) :
    φ'.worth + φ'.patience < φ.worth ∧ (written ⟨r, answer⟩).toList.length + φ'.due ≤ φ.due := by
  cases turn with
  | ready | drained | stalled | lost => cases alert _ rfl
  | _ => simp [Phase.worth, Phase.patience, Phase.due, written]

/-- The wait that is ended by a stop is the last one. -/
theorem Turn.waits (turn : Turn φ r answer φ')
    (alert : ∀ outcome, waited ⟨r, answer⟩ = some outcome → outcome = .ok .stopped) :
    (waited ⟨r, answer⟩ = none ∧ (φ.fine = true → φ'.fine = true)) ∨
      (waited ⟨r, answer⟩ = some (.ok .stopped) ∧ φ.fine = false ∧ φ'.fine = true) := by
  cases turn with
  | ready | drained | stalled | lost => cases alert _ rfl
  | halted => exact .inr ⟨rfl, rfl, rfl⟩
  | relock | unmark | tidied => exact .inl ⟨rfl, id⟩
  | kept => exact .inl ⟨rfl, fun _ => rfl⟩
  | _ => exact .inl ⟨rfl, nofun⟩

/-- What a call has done since some stage, if its waits were ended by a stop. -/
structure Quick (s₀ : Stage) (trace : Trace Poll.Interface) (s : Stage) : Prop where
  length : trace.length + s.cost ≤ s₀.cost
  writes : (writes trace).length + s.phase.due ≤ s₀.phase.due
  waits : waits trace = [] ∨ waits trace = [.ok .stopped] ∧ s.phase.fine = true

theorem quick_of_path (path : Path moves s₀ trace s) (alert : ∀ outcome ∈ waits trace, outcome = .ok .stopped) :
    Quick s₀ trace s := by
  refine path.keeps (fun trace s => (∀ outcome ∈ waits trace, outcome = .ok .stopped) → Quick s₀ trace s)
    (fun _ => ⟨Nat.le_of_eq (Nat.zero_add _), Nat.le_of_eq (Nat.zero_add _), .inl rfl⟩) ?_ alert
  rintro trace _ r answer _ quick move alert
  have earlier : ∀ outcome ∈ Poll.waits trace, outcome = .ok .stopped := by
    intro outcome mem
    refine alert outcome ?_
    rw [waits_snoc]
    exact List.mem_append_left _ mem
  have now : ∀ outcome, waited ⟨r, answer⟩ = some outcome → outcome = .ok .stopped := by
    intro outcome is
    refine alert outcome ?_
    rw [waits_snoc, is]
    exact List.mem_append_right _ List.mem_cons_self
  obtain ⟨length, writes, waits⟩ := quick earlier
  cases move with
  | turn turn =>
    obtain ⟨less, due⟩ := turn.less now
    refine ⟨?_, ?_, ?_⟩
    · simp only [Stage.cost, Stage.reach, List.length_append, List.length_cons, List.length_nil] at length ⊢
      omega
    · rw [writes_snoc, List.length_append]
      simp only [Stage.reach] at writes ⊢
      omega
    · rw [waits_snoc]
      rcases turn.waits now with ⟨none, keeps⟩ | ⟨stopped, running, fine⟩
      · rw [none]
        simp only [Option.toList_none, List.append_nil]
        exact waits.imp id fun halted => ⟨halted.1, keeps halted.2⟩
      · rw [stopped]
        rcases waits with none | ⟨-, waiting⟩
        · rw [none]
          exact .inr ⟨rfl, fine⟩
        · -- There is no wait after the loop.
          rw [running] at waiting
          cases waiting
  | log =>
    refine ⟨?_, ?_, ?_⟩
    · simp only [Stage.cost, List.length_append, List.length_cons, List.length_nil] at length ⊢
      omega
    · rw [writes_snoc]
      simpa [written] using writes
    · rw [waits_snoc]
      simpa [waited] using waits

/-- No more messages are left than a phase allows. -/
theorem patience_of_path {φ₀ : Phase} (path : Path moves (.reach φ₀) trace s) : s.patience ≤ s.phase.patience := by
  refine path.keeps (fun _ s => s.patience ≤ s.phase.patience) (Nat.le_refl _) ?_
  rintro _ _ r answer _ held (turn | _)
  · exact Nat.le_refl _
  · exact Nat.le_of_succ_le held

/-- What a play does once its mark is set and every wait is ended by a stop. -/
theorem quick_of_marked {φ₀ : Phase} {front back : Trace Poll.Interface}
    (path : Path moves (.reach φ₀) (front ++ back) s) (marked : ⟨.putActive true, ()⟩ ∈ front)
    (alert : ∀ outcome ∈ waits back, outcome = .ok .stopped) (waiting : waits back ≠ []) :
    waits back = [.ok .stopped] ∧ (writes back).length ≤ 1 ∧ back.length ≤ 12 ∧ s.phase.fine = true := by
  obtain ⟨mid, early, late⟩ := path.split
  obtain ⟨length, writes, waits⟩ := quick_of_path late alert
  have past := past_of_path early marked
  have patience := patience_of_path early
  obtain ⟨stopped, fine⟩ := waits.resolve_left waiting
  refine ⟨stopped, ?_, ?_, fine⟩
  · have due := mid.phase.due_le
    omega
  · have cheap : mid.phase.worth + mid.phase.patience ≤ 12 := by
      generalize mid.phase = φ at past
      cases φ <;> simp_all [Phase.past, Phase.worth, Phase.patience]
    unfold Stage.cost at length
    omega

/-! ## In a run -/

section Runs

variable {T : Type} [DecidableEq T] {cfg : Config} {watch : Watch} {commands : T → Nat → Command}
  {shared : Shared T} {history before after mid rest : Past T}
  {now : State (fun _ => Poll.Interface) (fun _ => Except PlayError Unit) (Shared T)} {t player : T} {k n : Nat}

/-- The traces of all calls are paths of the protocol. -/
theorem followed (run : Run (calls (output cfg) commands) (reacts watch) shared history now) :
    ∃ φ : T → Stage, (∀ t, (now.call t).rest.Follows moves Ended (φ t)) ∧
      Traced (fun _ => moves) (fun _ => Ended) (fun t n => .reach (enter (commands t n)))
        (fun t => (now.call t).number) φ history := by
  refine Run.followed (fun t n => ?_) run
  exact (follows cfg (commands t n)).weaken fun _ _ => Ends.ended

/-- Before a request the traces of all calls are paths, and the request is a move. -/
theorem followed_asked {r : Poll.Request} {answer : Poll.Request.Answer r}
    (run : Run (calls (output cfg) commands) (reacts watch) shared (before ++ .asked t n r answer :: after) now) :
    ∃ s s', Path moves (.reach (enter (commands t n))) (own t n before) s ∧ Move s r answer s' := by
  obtain ⟨here, _, _, front, rfl, asks, -⟩ := run.asked
  obtain ⟨φ, follow, traced⟩ := followed front
  obtain ⟨s', move⟩ := (follow t).asked asks answer
  exact ⟨φ t, s', traced.running t, move⟩

/-- A play sets its mark once. -/
theorem mark_once (run : Run (calls (output cfg) commands) (reacts watch) shared
    (before ++ .asked t n (.putActive true) () :: after) now) : .asked t n (.putActive true) () ∉ before := by
  obtain ⟨s, s', path, move⟩ := followed_asked run
  intro mem
  have past := past_of_path path (mem_own.2 mem)
  cases move with
  | turn turn =>
    have early := (turn.past.2 rfl).1
    exact absurd (early.symm.trans past) Bool.false_ne_true

/-- Nor does it set its mark again. -/
theorem mark_not_again (run : Run (calls (output cfg) commands) (reacts watch) shared
    (before ++ .asked t n (.putActive true) () :: after) now) : .asked t n (.putActive true) () ∉ after := by
  intro mem
  obtain ⟨front, back, rfl⟩ := List.append_of_mem mem
  rw [← List.cons_append, ← List.append_assoc] at run
  exact mark_once run (List.mem_append_right _ List.mem_cons_self)

/-- A window can begin in one place only. -/
theorem opened_once {before' after' : Past T}
    (run : Run (calls (output cfg) commands) (reacts watch) shared
      (before ++ .asked t n (.putActive true) () :: after) now)
    (same : before ++ .asked t n (.putActive true) () :: after =
      before' ++ .asked t n (.putActive true) () :: after') : before = before' ∧ after = after' := by
  obtain ⟨front, -, back⟩ := (List.append_cons_inj_of_notMem (mark_once run) (mark_not_again run)).1 same
  exact ⟨front, back⟩

/-- A stop has done nothing before it looks at the mark. -/
theorem acts_before_look {found : Bool}
    (run : Run (calls (output cfg) commands) (reacts watch) shared
      (before ++ .asked t k .takeActive found :: after) now) (stops : commands t k = .stop) :
    acts (own t k before) = [] := by
  obtain ⟨s, s', path, move⟩ := followed_asked run
  rw [stops] at path
  have script := script_of_path path
  cases move with
  | turn turn =>
    cases turn with
    | enter => exact script
    | lock | relock => cases script

/-- A stop that has returned has been heard, or has found no mark. -/
theorem script_of_returned (run : Run (calls (output cfg) commands) (reacts watch) shared history now)
    (stops : commands t k = .stop) {result : Except PlayError Unit} (returned : .returned t k result ∈ history) :
    Script .heard (acts (own t k history)) := by
  obtain ⟨φ, -, traced⟩ := followed run
  obtain ⟨-, ⟨φ, left⟩, path, ended⟩ := traced.ended t k result returned
  rw [stops] at path
  have script := script_of_path path
  cases φ with
  | heard => exact script
  | gone | barred | shut => cases script
  | _ => cases ended

/-- A stop that has returned has given the mark back, and not before its look. -/
theorem given_back {found : Bool} {result : Except PlayError Unit}
    (run : Run (calls (output cfg) commands) (reacts watch) shared (before ++ .asked t k .takeActive found :: mid) now)
    (stops : commands t k = .stop) (returned : .returned t k result ∈ mid) :
    ∃ active, .asked t k (.putActive active) () ∈ .asked t k .takeActive found :: mid := by
  have back : ∃ active, .asked t k (.putActive active) () ∈ before ++ .asked t k .takeActive found :: mid := by
    have script := script_of_returned run stops (List.mem_append_right _ (List.mem_cons_of_mem _ returned))
    rcases script with done | done
    · exact ⟨true, (mem_acts.1 (by rw [done]; simp)).1⟩
    · exact ⟨false, (mem_acts.1 (by rw [done]; simp)).1⟩
  obtain ⟨active, back⟩ := back
  rcases List.mem_append.1 back with early | late
  · have act : ⟨.putActive active, ()⟩ ∈ acts (own t k before) := mem_acts.2 ⟨early, rfl⟩
    rw [acts_before_look run stops] at act
    cases act
  · exact ⟨active, late⟩

/-- A stop that has found no mark and has returned has done nothing else. -/
theorem unheard (run : Run (calls (output cfg) commands) (reacts watch) shared history now)
    (stops : commands t k = .stop) {result : Except PlayError Unit} (looked : .asked t k .takeActive false ∈ history)
    (returned : .returned t k result ∈ history) :
    acts (own t k history) = [⟨.takeActive, false⟩, ⟨.putActive false, ()⟩] := by
  rcases script_of_returned run stops returned with heard | unheard
  · have act : ⟨.takeActive, false⟩ ∈ acts (own t k history) := mem_acts.2 ⟨looked, rfl⟩
    rw [heard] at act
    simp at act
  · exact unheard

/-- A stop that has found the mark has left a wakeup once it has returned, so that the next wait ends by it. -/
theorem wait_stopped (reports : ∀ outcome, watch true outcome → outcome = .ok .stopped) (idle : Idle shared)
    {h : Handle} {draining : Bool} {timeout : Seconds} {outcome : Except Failure Readiness}
    (run : Run (calls (output cfg) commands) (reacts watch) shared
      ((before ++ .asked t k .takeActive true :: mid) ++ .asked player n (.wait h draining timeout) outcome :: rest)
      now) (stops : commands t k = .stop) (window : Window commands player n before after)
    {result : Except PlayError Unit} (returned : .returned t k result ∈ mid) : outcome = .ok .stopped := by
  obtain ⟨s, opened, front, -, watched, window'⟩ := window_of_wait cfg idle run
  -- The window that the stop has looked in is still going on.
  have same : opened = after ++ .asked t k .takeActive true :: mid := by
    obtain ⟨b, begins⟩ := window.opened
    obtain ⟨b', begins'⟩ := window'.opened
    have whole : b' ++ .asked player n (.putActive true) () :: opened =
        b ++ .asked player n (.putActive true) () :: (after ++ .asked t k .takeActive true :: mid) := by
      rw [← begins', begins, List.append_assoc, List.cons_append]
    rw [begins'] at front
    exact (opened_once front whole).2
  obtain ⟨active, back⟩ := given_back front stops returned
  have inside : .asked t k (.putActive active) () ∈ opened := by
    rw [same]
    exact List.mem_append_right _ back
  obtain ⟨held, whole, -⟩ := told_in_window cfg idle front window'
  have readable : s.shared.wakeup.signalled = true :=
    (Wakeup.signalled_iff _).2 (held.2 ⟨t, k, whole t k active stops inside⟩)
  rw [readable] at watched
  exact reports outcome watched

omit [DecidableEq T] in
/-- The requests behind the waits of a call. -/
theorem exists_wait [DecidableEq T] {outcome : Except Failure Readiness} (mem : outcome ∈ waits (own player n rest)) :
    ∃ h draining timeout front back, rest = front ++ .asked player n (.wait h draining timeout) outcome :: back := by
  unfold waits at mem
  rw [List.mem_filterMap] at mem
  obtain ⟨⟨r, answer⟩, mem, is⟩ := mem
  cases r with
  | wait h draining timeout =>
    cases is
    obtain ⟨front, back, rfl⟩ := List.append_of_mem (mem_own.1 mem)
    exact ⟨h, draining, timeout, front, back, rfl⟩
  | _ => cases is

/-- A play that waits later and has been entered is the one that its thread is at. -/
theorem number_of_wait (idle : Idle shared) {h : Handle} {draining : Bool} {timeout : Seconds}
    {outcome : Except Failure Readiness}
    {s : State (fun _ => Poll.Interface) (fun _ => Except PlayError Unit) (Shared T)}
    (front : Run (calls (output cfg) commands) (reacts watch) shared before s)
    (run : Run (calls (output cfg) commands) (reacts watch) shared
      ((before ++ mid) ++ .asked player n (.wait h draining timeout) outcome :: rest) now)
    (entered : ∀ m < n, ∃ result, .returned player m result ∈ before) : (s.call player).number = n := by
  obtain ⟨_, -, traced⟩ := followed front
  obtain ⟨s', -, later, there, -⟩ := window_of_wait cfg idle run
  obtain ⟨_, -, traced'⟩ := followed later
  refine Nat.le_antisymm (Nat.le_of_not_lt fun beyond => ?_) (Nat.le_of_not_lt fun behind => ?_)
  · -- It would have returned before the wait.
    obtain ⟨result, returned⟩ := traced.returned player n beyond
    have earlier := (traced'.ended player n result (List.mem_append_left _ returned)).1
    rw [there] at earlier
    exact Nat.lt_irrefl _ earlier
  · obtain ⟨result, returned⟩ := entered _ behind
    exact Nat.lt_irrefl _ (traced.ended player _ result returned).1

/-- A play that has set its mark and waits later has been in its window since. -/
theorem window_of_marked (idle : Idle shared) {h : Handle} {draining : Bool} {timeout : Seconds}
    {outcome : Except Failure Readiness}
    (run : Run (calls (output cfg) commands) (reacts watch) shared
      ((before ++ mid) ++ .asked player n (.wait h draining timeout) outcome :: rest) now)
    (marked : .asked player n (.putActive true) () ∈ before) : ∃ after, Window commands player n before after := by
  obtain ⟨_, opened, front, -, -, window⟩ := window_of_wait cfg idle run
  obtain ⟨b, begins⟩ := window.opened
  obtain ⟨b', after, rfl⟩ := List.append_of_mem marked
  -- The mark is set only once, so that the window that the wait is in is the one that has begun by then.
  rw [List.append_assoc, List.cons_append] at begins front
  obtain ⟨-, rfl⟩ := opened_once front begins
  refine ⟨after, window.plays, ⟨b', rfl⟩, ?_⟩
  intro off
  exact window.still (List.mem_append_left _ off)

/-- A stop finds the mark of a play that waits later if and only if the play has set it before. -/
theorem found_iff_marked (idle : Idle shared)
    (alone : ∀ u m track settings, u ≠ player → commands u m ≠ .play track settings) {found : Bool} {h : Handle}
    {draining : Bool} {timeout : Seconds} {outcome : Except Failure Readiness}
    (run : Run (calls (output cfg) commands) (reacts watch) shared
      ((before ++ .asked t k .takeActive found :: mid) ++ .asked player n (.wait h draining timeout) outcome :: rest)
      now) (entered : ∀ m < n, ∃ result, .returned player m result ∈ before) :
    found = true ↔ .asked player n (.putActive true) () ∈ before := by
  obtain ⟨_, _, looking, -⟩ := window_of_wait cfg idle run
  have finds := found_iff_window cfg idle looking
  constructor
  · intro found
    obtain ⟨u, m, after, window⟩ := finds.1 found
    obtain ⟨_, _, c, _, front, -, kept, -⟩ := run_asked cfg idle looking
    obtain ⟨rfl, -, -⟩ := kept.windows u m after window
    obtain ⟨⟨track, settings, plays⟩, ⟨b, rfl⟩, -⟩ := window
    by_cases same : u = player
    · subst same
      rw [number_of_wait idle front run entered]
      exact List.mem_append_right _ List.mem_cons_self
    · exact absurd plays (alone u _ track settings same)
  · intro marked
    obtain ⟨after, window⟩ := window_of_marked idle run marked
    exact finds.2 ⟨player, n, after, window⟩

/-- What a play does from some moment on after it has set its mark, when its waits are ended by a stop. -/
theorem quick_of_run (run : Run (calls (output cfg) commands) (reacts watch) shared (before ++ rest) now)
    (marked : .asked player n (.putActive true) () ∈ before)
    (alert : ∀ outcome ∈ waits (own player n rest), outcome = .ok .stopped) (waiting : waits (own player n rest) ≠ []) :
    waits (own player n rest) = [.ok .stopped] ∧ (writes (own player n rest)).length ≤ 1 ∧
      (own player n rest).length ≤ 12 ∧ ∀ result, .returned player n result ∈ before ++ rest → result = .ok () := by
  have marked : ⟨.putActive true, ()⟩ ∈ own player n before := mem_own.2 marked
  obtain ⟨φ, -, traced⟩ := followed run
  obtain ⟨_, path⟩ := traced.path (t := player) (n := n) (by
    rw [own_append]
    exact List.append_ne_nil_of_left_ne_nil (List.ne_nil_of_mem marked) _)
  rw [own_append] at path
  obtain ⟨halted, few, short, -⟩ := quick_of_marked path marked alert waiting
  refine ⟨halted, few, short, ?_⟩
  intro result returned
  obtain ⟨-, ⟨φ, left⟩, path, ended⟩ := traced.ended player n result returned
  rw [own_append] at path
  obtain ⟨-, -, -, fine⟩ := quick_of_marked path marked alert waiting
  cases φ with
  | gone kept =>
    obtain rfl : kept = true := fine
    cases result with
    | ok => rfl
    | error => cases ended
  | barred | heard | shut => cases fine
  | _ => cases ended

/-- **A stop is heard if and only if it finds the mark.** Let one thread play, and let a stop look at the mark after a
    play was entered and return before the last wait of that play begins. It finds the mark if and only if the play has
    set it before that look. Then the play ends by the stop at its next wait, with at most one further write, and
    without a failure. Otherwise the stop does nothing. -/
theorem heard_iff_marked (cfg : Config) {watch : Watch}
    (reports : ∀ outcome, watch true outcome → outcome = .ok .stopped) {commands : T → Nat → Command} {player : T}
    (alone : ∀ u m track settings, u ≠ player → commands u m ≠ .play track settings) {shared : Shared T}
    (idle : Idle shared) {history : Past T}
    {now : State (fun _ => Poll.Interface) (fun _ => Except PlayError Unit) (Shared T)}
    (run : Run (calls (output cfg) commands) (reacts watch) shared history now) {t : T} {k n : Nat}
    (stops : commands t k = .stop) {before during rest : Past T} {found : Bool} {result : Except PlayError Unit}
    (split : history = before ++ .asked t k .takeActive found :: (during ++ .returned t k result :: rest))
    (entered : ∀ m < n, ∃ result, .returned player m result ∈ before) (waiting : waits (own player n rest) ≠ []) :
    (found = true ↔ .asked player n (.putActive true) () ∈ before) ∧
    (found = true → waits (own player n rest) = [.ok .stopped] ∧ (writes (own player n rest)).length ≤ 1 ∧
      (own player n rest).length ≤ 12 ∧ ∀ result, .returned player n result ∈ history → result = .ok ()) ∧
    (found = false → acts (own t k history) = [⟨.takeActive, false⟩, ⟨.putActive false, ()⟩]) := by
  subst split
  -- What lies between the look and a later wait of the play.
  have later {outcome : Except Failure Readiness} (mem : outcome ∈ waits (own player n rest)) :
      ∃ h draining timeout front back, Run (calls (output cfg) commands) (reacts watch) shared
        ((before ++ .asked t k .takeActive found :: (during ++ .returned t k result :: front)) ++
          .asked player n (.wait h draining timeout) outcome :: back) now := by
    obtain ⟨h, draining, timeout, front, back, rfl⟩ := exists_wait mem
    refine ⟨h, draining, timeout, front, back, ?_⟩
    simpa only [List.append_assoc, List.cons_append] using run
  have marked : found = true ↔ .asked player n (.putActive true) () ∈ before := by
    obtain ⟨outcome, mem⟩ := List.exists_mem_of_ne_nil _ waiting
    obtain ⟨h, draining, timeout, front, back, whole⟩ := later mem
    exact found_iff_marked idle alone whole entered
  refine ⟨marked, ?_, ?_⟩
  · rintro rfl
    have mark := marked.1 rfl
    have alert : ∀ outcome ∈ waits (own player n rest), outcome = .ok .stopped := by
      intro outcome mem
      obtain ⟨h, draining, timeout, front, back, whole⟩ := later mem
      obtain ⟨after, window⟩ := window_of_marked idle whole mark
      exact wait_stopped reports idle whole stops window (List.mem_append_right _ List.mem_cons_self)
    have cut : before ++ .asked t k .takeActive true :: (during ++ .returned t k result :: rest) =
        (before ++ .asked t k .takeActive true :: (during ++ [.returned t k result])) ++ rest := by
      simp
    rw [cut] at run ⊢
    exact quick_of_run run (List.mem_append_left _ mark) alert waiting
  · rintro rfl
    apply unheard run stops
    · exact List.mem_append_right _ List.mem_cons_self
    · exact List.mem_append_right _ (List.mem_cons_of_mem _ (List.mem_append_right _ List.mem_cons_self))

end Runs

theorem playAndStop_alone : ∀ u m track settings, u ≠ true → playAndStop u m ≠ .play track settings := by
  intro u m track settings other
  cases u with
  | true => exact absurd rfl other
  | false => nofun

/-- The play of the sample has set its mark when the stop comes; it writes once more, and its wait is ended. -/
theorem run_heard : ∃ (before during rest : Past Bool)
      (now : State (fun _ => Poll.Interface) (fun _ => Except PlayError Unit) (Shared Bool)),
    Run (calls (output sim) playAndStop) (reacts polling) furnished
      (before ++ .asked false 0 .takeActive true :: (during ++ .returned false 0 (.ok ()) :: rest)) now ∧
    waits (own true 0 rest) ≠ [] ∧ (writes (own true 0 rest)).length = 1 := by
  obtain ⟨a, b, bytes⟩ := bytes_oneSample 0
  have playing := congrArg (playBytes sim 0) bytes
  have run : Run (calls (output sim) playAndStop) (reacts polling) furnished [] _ := .start
  rw [pair_start] at run
  replace run := run.first rfl (some 0) .takeDevice
  replace run := run.first rfl (Except.ok ⟨16, 1, 8000⟩ : Except Failure Paced.StreamParams) rfl
  replace run := run.first rfl (0 : Nat) rfl
  replace run := run.first (playing.trans rfl) () rfl
  replace run := run.first rfl false .takeActive
  replace run := run.first rfl () .clearWakeup
  replace run := run.first rfl () .putActive
  replace run := run.second rfl true .takeActive
  replace run := run.second rfl () rfl
  replace run := run.second rfl () .notifyWakeup
  replace run := run.second rfl () .putActive
  replace run := run.secondDone rfl
  replace run := run.first rfl (Except.ok 2 : Except Failure Nat) rfl
  replace run := run.first rfl (Except.ok .stopped : Except Failure Readiness)
    (.wait (iff_of_true rfl (Wakeup.signalled_notify (by simp))))
  simp only [List.nil_append, List.cons_append] at run
  refine ⟨[_, _, _, _, _, _, _], [_, _, _], [_, _], _, run, ?_, rfl⟩
  exact List.cons_ne_nil _ _

/-- The stop is heard. -/
theorem heard_while_writing : ∃ (before during rest : Past Bool)
      (now : State (fun _ => Poll.Interface) (fun _ => Except PlayError Unit) (Shared Bool)),
    Run (calls (output sim) playAndStop) (reacts polling) furnished
      (before ++ .asked false 0 .takeActive true :: (during ++ .returned false 0 (.ok ()) :: rest)) now ∧
    .asked true 0 (.putActive true) () ∈ before ∧ waits (own true 0 rest) = [.ok .stopped] ∧
    (writes (own true 0 rest)).length = 1 := by
  obtain ⟨before, during, rest, now, run, waiting, wrote⟩ := run_heard
  obtain ⟨marked, heard, -⟩ := heard_iff_marked sim (fun _ told => told.2 rfl) playAndStop_alone idle_furnished run
    (rfl : playAndStop false 0 = .stop) rfl (fun _ before => absurd before (Nat.not_lt_zero _)) waiting
  exact ⟨before, during, rest, now, run, marked.1 rfl, (heard rfl).1, wrote⟩

/-- The play of the sample has taken its device when a stop comes and returns. It goes on to write all of the sample, in
    two pieces, lets the device drain, and no wait of it is ended by the stop. -/
theorem stop_before_mark : ∃ (before during rest : Past Bool)
      (now : State (fun _ => Poll.Interface) (fun _ => Except PlayError Unit) (Shared Bool)),
    Run (calls (output sim) playAndStop) (reacts polling) furnished
      (before ++ .asked false 0 .takeActive false :: (during ++ .returned false 0 (.ok ()) :: rest)) now ∧
    .asked true 0 .takeDevice (some 0) ∈ before ∧
    waits (own true 0 rest) = [.ok .ready, .ok .ready, .ok .ready] ∧ (writes (own true 0 rest)).length = 2 ∧
    .returned true 0 (.ok ()) ∈ rest := by
  obtain ⟨a, b, bytes⟩ := bytes_oneSample 0
  have playing := congrArg (playBytes sim 0) bytes
  have run : Run (calls (output sim) playAndStop) (reacts polling) furnished [] _ := .start
  rw [pair_start] at run
  replace run := run.first rfl (some 0) .takeDevice
  replace run := run.second rfl false .takeActive
  replace run := run.second rfl () .putActive
  replace run := run.secondDone rfl
  replace run := run.first rfl (Except.ok ⟨16, 1, 8000⟩ : Except Failure Paced.StreamParams) rfl
  replace run := run.first rfl (0 : Nat) rfl
  replace run := run.first (playing.trans rfl) () rfl
  replace run := run.first rfl false .takeActive
  replace run := run.first rfl () .clearWakeup
  replace run := run.first rfl () .putActive
  replace run := run.first rfl (Except.ok 1 : Except Failure Nat) rfl
  replace run := run.first rfl (Except.ok .ready : Except Failure Readiness)
    (.wait (iff_of_false nofun (by simp [Wakeup.signalled])))
  replace run := run.first rfl (Except.ok 1 : Except Failure Nat) rfl
  replace run := run.first rfl (Except.ok .ready : Except Failure Readiness)
    (.wait (iff_of_false nofun (by simp [Wakeup.signalled])))
  replace run := run.first rfl () rfl
  replace run := run.first rfl (Except.ok .ready : Except Failure Readiness)
    (.wait (iff_of_false nofun (by simp [Wakeup.signalled])))
  replace run := run.first rfl true .takeActive
  replace run := run.first rfl () .putActive
  replace run := run.first rfl (Except.ok () : Except Failure Unit) rfl
  replace run := run.first rfl () .putDevice
  replace run := run.firstDone rfl
  simp only [List.nil_append, List.cons_append] at run
  refine ⟨[_], [_], [_, _, _, _, _, _, _, _, _, _, _, _, _, _, _, _, _], _, run, ?_, ?_, ?_, ?_⟩
  · exact List.mem_cons_self
  · rfl
  · rfl
  · simp

end Playout.Poll
