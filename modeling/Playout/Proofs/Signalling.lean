import Playout.Proofs.Traces

/-!
# `Playout.Proofs.Signalling` — a signal that stays set is seen

Threads share a signal. One of them takes it back at the beginning of each of its calls, any thread may set it, and
nobody else takes it back. Then a call that goes on after the signal was set sees it at every look.

## Contents
- `Touch`, `Signalled` — what requests do with a signal, and surroundings that keep it.
- `Lowered`, `Alert` — what a trace says about the signal.
- `Lowers` — protocols in which the signal is taken back by one thread only, at the beginning of its calls.
- `Noticed` — a signal that stays set while a call lasts, and is seen by it.
- `Run.alert` — after the signal was set, the call of that thread sees it.
- `Found`, `Sticky`, `Run.sticky` — once a call has found the signal set, it finds it so ever after.
- `Run.calm_of_lowered`, `Run.calm` — as long as nobody sets the signal, a call does not find it set.
-/

namespace Playout.Interleaving

/-! ## Signals -/

/-- What a request does with a signal. -/
inductive Touch where
  | lower
  | raise
  /-- It is looked at, and may be found set. -/
  | look (stopped : Bool)
  | none
  deriving DecidableEq

variable {T : Type} [DecidableEq T] {I : Interface} {α σ Φ : Type} {touch : (r : I.Request) → I.Answer r → Touch}

/-- The surroundings keep the signal as the requests leave it, and a look tells what it is. -/
structure Signalled (touch : (r : I.Request) → I.Answer r → Touch) (answers : Surroundings (fun _ : T => I) σ)
    (raised : σ → Bool) : Prop where
  lower : ∀ {t r s answer s'}, answers t r s answer s' → touch r answer = .lower → raised s' = false
  raise : ∀ {t r s answer s'}, answers t r s answer s' → touch r answer = .raise → raised s' = true
  look : ∀ {t r s answer s' stopped}, answers t r s answer s' → touch r answer = .look stopped →
    stopped = raised s ∧ raised s' = raised s
  keep : ∀ {t r s answer s'}, answers t r s answer s' → touch r answer = .none → raised s' = raised s

/-- An event that sets the signal. -/
def Raises (touch : (r : I.Request) → I.Answer r → Touch) :
    Event (fun _ : T => I) (fun _ : T => α) → Prop
  | .asked _ _ r answer => touch r answer = .raise
  | .returned .. => False

/-- The signal has been taken back in a trace. -/
def Lowered (touch : (r : I.Request) → I.Answer r → Touch) (trace : Trace I) : Prop :=
  ∃ x ∈ trace, touch x.1 x.2 = .lower

/-- A request that does something else does not take the signal back. -/
theorem not_lowered_snoc {trace : Trace I} {r : I.Request} {answer : I.Answer r} (never : ¬ Lowered touch trace)
    (other : touch r answer ≠ .lower) : ¬ Lowered touch (trace ++ [⟨r, answer⟩]) := by
  rintro ⟨x, mem, lower⟩
  rcases List.mem_append.1 mem with mem | mem
  · exact never ⟨x, mem, lower⟩
  · obtain rfl := List.mem_singleton.1 mem
    exact other lower

/-- No look in a trace misses a signal. -/
def Alert (touch : (r : I.Request) → I.Answer r → Touch) (trace : Trace I) : Prop :=
  ∀ x ∈ trace, touch x.1 x.2 ≠ .look false

theorem Alert.append {front back : Trace I} (front_alert : Alert touch front) (back_alert : Alert touch back) :
    Alert touch (front ++ back) := by
  intro x mem
  rcases List.mem_append.1 mem with mem | mem
  · exact front_alert x mem
  · exact back_alert x mem

/-- One request adds no missed look to a call, unless it is one itself. -/
theorem alert_asked {t u : T} {n m : Nat} {r : I.Request} {answer : I.Answer r}
    (sees : u = t ∧ m = n → touch r answer ≠ .look false) :
    Alert touch (own t n ([.asked u m r answer] : History T I α)) := by
  intro x mem
  by_cases here : u = t ∧ m = n
  · obtain ⟨rfl, rfl⟩ := here
    rw [own_asked_self, List.mem_singleton] at mem
    subst mem
    exact sees ⟨rfl, rfl⟩
  · rw [own_asked_other here] at mem
    cases mem

/-- What sets the signal is no look at it. -/
theorem Raises.alert {e : Event (fun _ : T => I) fun _ : T => α} (raises : Raises touch e) (t : T) (n : Nat) :
    Alert touch (own t n [e]) := by
  cases e with
  | returned => exact nofun
  | asked u m r answer =>
    refine alert_asked fun _ missed => ?_
    exact absurd (raises.symm.trans missed) nofun

/-- The signal is taken back only from phases in `lowers`, which are left by that and not reached again. Only the
    calls of one thread begin there. -/
structure Lowers (touch : (r : I.Request) → I.Answer r → Touch) (moves : T → Moves I Φ) (first : T → Nat → Φ)
    (player : T) (lowers : Φ → Prop) : Prop where
  only : ∀ {t φ r answer φ'}, moves t φ r answer φ' → touch r answer = .lower → lowers φ ∧ ¬ lowers φ'
  back : ∀ {t φ r answer φ'}, moves t φ r answer φ' → lowers φ' → lowers φ
  alone : ∀ t n, t ≠ player → ¬ lowers (first t n)

namespace Lowers

variable {moves : T → Moves I Φ} {first : T → Nat → Φ} {player : T} {lowers : Φ → Prop}

omit [DecidableEq T] in
/-- A call in which the signal was taken back does not do so again, and no call of another thread does. -/
theorem spent (l : Lowers touch moves first player lowers) {t : T} {n : Nat} {trace : Trace I} {φ : Φ}
    (path : Path (moves t) (first t n) trace φ) (before : Lowered touch trace ∨ t ≠ player) : ¬ lowers φ := by
  induction path with
  | start =>
    rcases before with ⟨x, mem, -⟩ | other
    · cases mem
    · exact l.alone t n other
  | @step trace φ r answer φ' path move ih =>
    intro again
    refine ih ?_ (l.back move again)
    rcases before with ⟨x, mem, lower⟩ | other
    · rcases List.mem_append.1 mem with earlier | now
      · exact .inl ⟨x, earlier, lower⟩
      · obtain rfl := List.mem_singleton.1 now
        exact absurd again (l.only move lower).2
    · exact .inr other

end Lowers

/-! ## Who sees it -/

section Seen

variable {calls : Calls (fun _ : T => I) fun _ : T => α} {answers : Surroundings (fun _ : T => I) σ}
  {shared shared' : σ} {raised : σ → Bool} {allowed : T → Allowed I Φ} {moves : T → Moves I Φ}
  {ends : T → Φ → α → Prop} {first : T → Nat → Φ} {player : T} {lowers : Φ → Prop} {number : T → Nat} {φ : T → Φ}
  {history before after : History T I α} {s : State (fun _ => I) (fun _ => α) σ} {n : Nat}
  {e : Event (fun _ : T => I) fun _ : T => α}

/-- While the call in which the signal was taken back is running, no request takes it back again. -/
theorem Lowers.still (l : Lowers touch moves first player lowers)
    (traced : Traced moves ends first number φ history) (lowered : Lowered touch (own player n history))
    (running : number player = n) {t : T} {r : I.Request} {answer : I.Answer r} {φ' : Φ}
    (move : moves t (φ t) r answer φ') : touch r answer ≠ .lower := by
  intro lower
  refine absurd (l.only move lower).1 (l.spent (traced.running t) ?_)
  by_cases same : t = player
  · subst same
    rw [running]
    exact .inl lowered
  · exact .inr same

/-- After the signal was set it stays set for as long as the call lasts, and the call sees it. -/
structure Noticed (touch : (r : I.Request) → I.Answer r → Touch) (raised : σ → Bool) (player : T) (n : Nat)
    (shared : σ) (number : T → Nat) (after : History T I α) : Prop where
  stays : number player = n → raised shared = true
  alert : Alert touch (own player n after)

namespace Noticed

/-- A request that does not take the signal back. -/
theorem ask (h : Noticed touch raised player n shared number after) (signalled : Signalled touch answers raised)
    {t : T} {r : I.Request} {answer : I.Answer r} (answered : answers t r shared answer shared')
    (still : number player = n → touch r answer ≠ .lower) :
    Noticed touch raised player n shared' number (after ++ [.asked t (number t) r answer]) where
  stays running := by
    have set := h.stays running
    cases touched : touch r answer with
    | lower => exact absurd touched (still running)
    | raise => exact signalled.raise answered touched
    | look stopped => exact (signalled.look answered touched).2.trans set
    | none => exact (signalled.keep answered touched).trans set
  alert := by
    rw [own_append]
    refine h.alert.append (alert_asked ?_)
    rintro ⟨rfl, running⟩ missed
    have set := h.stays running
    rw [← (signalled.look answered missed).1] at set
    cases set

/-- The end of a call. When it is the one that plays, it comes after call `n`, or ends it. -/
theorem finish (h : Noticed touch raised player n shared number after) (begun : n ≤ number player) (t : T)
    (result : α) : Noticed touch raised player n shared (Function.update number t (number t + 1))
      (after ++ [.returned t (number t) result]) where
  stays running := by
    by_cases same : t = player
    · subst same
      rw [Function.update_self] at running
      omega
    · rw [Function.update_of_ne (Ne.symm same)] at running
      exact h.stays running
  alert := by
    rw [own_append, own_returned, List.append_nil]
    exact h.alert

end Noticed

/-- From the moment the signal was set it is noticed. -/
theorem Run.noticed (signalled : Signalled touch answers raised) (l : Lowers touch moves first player lowers)
    (tracked : Tracked calls answers shared allowed moves ends first)
    (run : Run calls answers shared history s) (split : history = before ++ e :: after)
    (raises : Raises touch e) (lowered : Lowered touch (own player n before)) :
    Noticed touch raised player n s.shared (fun t => (s.call t).number) after := by
  induction run generalizing before e after with
  | start => simp at split
  | @step history s event s' run next ih =>
    obtain ⟨φ, completes, may, traced⟩ := tracked history s run
    rcases List.eq_nil_or_concat after with rfl | ⟨after, last, rfl⟩
    · -- The signal is set only now.
      obtain ⟨rfl, same⟩ := List.append_inj' split rfl
      obtain rfl := List.singleton_inj.1 same
      refine ⟨fun _ => ?_, nofun⟩
      cases next with
      | ask asks answered => exact signalled.raise answered raises
      | finish => exact raises.elim
    · rw [List.concat_eq_append] at split ⊢
      have split : history ++ [event] = (before ++ e :: after) ++ [last] := by
        rw [split, List.append_assoc, List.cons_append]
      obtain ⟨earlier, same⟩ := List.append_inj' split rfl
      obtain rfl := List.singleton_inj.1 same
      have noticed := ih earlier raises lowered
      have lowered : Lowered touch (own player n history) := by
        obtain ⟨x, mem, lower⟩ := lowered
        rw [earlier, own_append]
        exact ⟨x, List.mem_append_left _ mem, lower⟩
      cases next with
      | @ask t r next answer shared' asks answered =>
        have here := completes t
        rw [asks] at here
        obtain ⟨φ', move, -⟩ := here answer (may answered)
        rw [numbers_update, Function.update_eq_self]
        exact noticed.ask signalled answered fun running => l.still traced lowered running move
      | @finish t result done =>
        -- The call has asked something, so that it has begun.
        have begun : n ≤ (s.call player).number := by
          refine Nat.le_of_not_lt fun later => ?_
          obtain ⟨x, mem, -⟩ := lowered
          rw [traced.begun player n later] at mem
          cases mem
        rw [numbers_update]
        exact noticed.finish begun t result

/-- **A signal that was set is seen.** Let the calls of a run keep to protocols in which only one thread takes the
    signal back. When the signal is set after a call of that thread has taken it back, the path of this call can be cut
    there, and misses the signal at no look that comes later. -/
theorem Run.alert (signalled : Signalled touch answers raised) (l : Lowers touch moves first player lowers)
    (tracked : Tracked calls answers shared allowed moves ends first)
    (run : Run calls answers shared history s) (split : history = before ++ e :: after)
    (raises : Raises touch e) (lowered : Lowered touch (own player n before)) :
    ∃ φ φ', Path (moves player) (first player n) (own player n before) φ ∧
      Path (moves player) φ (own player n (e :: after)) φ' ∧ Alert touch (own player n (e :: after)) := by
  have asked : own player n before ≠ [] := by
    obtain ⟨x, mem, -⟩ := lowered
    exact List.ne_nil_of_mem mem
  obtain ⟨φ, φ', front, back⟩ := tracked.cut run split asked
  refine ⟨φ, φ', front, back, ?_⟩
  rw [own_cons]
  exact (raises.alert player n).append (run.noticed signalled l tracked split raises lowered).alert

/-- What comes later is no longer than all that comes from there on. -/
theorem length_own_le (t : T) (n : Nat) (e : Event (fun _ : T => I) fun _ : T => α) (after : History T I α) :
    (own t n after).length ≤ (own t n (e :: after)).length := by
  rw [own_cons, List.length_append]
  exact Nat.le_add_left _ _

end Seen

/-! ## What its looks find -/

/-- A look in a trace has found the signal set. -/
def Found (touch : (r : I.Request) → I.Answer r → Touch) (trace : Trace I) : Prop :=
  ∃ x ∈ trace, touch x.1 x.2 = .look true

/-- In a trace no look misses the signal after one has found it set. -/
def Sticky (touch : (r : I.Request) → I.Answer r → Touch) (trace : Trace I) : Prop :=
  ∀ front x back, trace = front ++ x :: back → Found touch front → touch x.1 x.2 ≠ .look false

theorem found_snoc {trace : Trace I} {r : I.Request} {answer : I.Answer r} :
    Found touch (trace ++ [⟨r, answer⟩]) ↔ Found touch trace ∨ touch r answer = .look true := by
  simp [Found, or_and_right, exists_or]

/-- What has been found has been found. -/
theorem Found.snoc {trace : Trace I} (found : Found touch trace) (x : Σ r : I.Request, I.Answer r) :
    Found touch (trace ++ [x]) := found_snoc.2 (.inl found)

theorem sticky_snoc {trace : Trace I} {r : I.Request} {answer : I.Answer r} :
    Sticky touch (trace ++ [⟨r, answer⟩]) ↔
      Sticky touch trace ∧ (Found touch trace → touch r answer ≠ .look false) := by
  constructor
  · intro sticky
    refine ⟨fun front x back split => ?_, sticky trace _ [] rfl⟩
    refine sticky front x (back ++ [⟨r, answer⟩]) ?_
    rw [split, List.append_assoc, List.cons_append]
  · rintro ⟨sticky, last⟩ front x back split
    rcases List.eq_nil_or_concat back with rfl | ⟨back, y, rfl⟩
    · obtain ⟨rfl, same⟩ := List.append_inj' split rfl
      obtain rfl := List.singleton_inj.1 same
      exact last
    · rw [List.concat_eq_append, ← List.cons_append, ← List.append_assoc] at split
      exact sticky front x back (List.append_inj' split rfl).1

/-- As long as no look has found the signal set, none misses it after that. -/
theorem sticky_of_not_found {trace : Trace I} (never : ¬ Found touch trace) : Sticky touch trace := by
  rintro front x back rfl ⟨y, mem, found⟩
  exact absurd ⟨y, List.mem_append_left _ mem, found⟩ never

section Looks

variable {calls : Calls (fun _ : T => I) fun _ : T => α} {answers : Surroundings (fun _ : T => I) σ}
  {shared : σ} {raised : σ → Bool} {moves : T → Moves I Φ} {ends : T → Φ → α → Prop} {first : T → Nat → Φ} {player : T}
  {lowers : Φ → Prop} {number : T → Nat} {shared' : σ} {history : History T I α}
  {s : State (fun _ => I) (fun _ => α) σ} {n : Nat}

/-- The trace of a call after one more request. -/
theorem own_asked (t u : T) (n m : Nat) (history : History T I α) (r : I.Request) (answer : I.Answer r) :
    own t n (history ++ [.asked u m r answer]) =
      own t n history ++ if u = t ∧ m = n then [⟨r, answer⟩] else [] := by
  rw [own_append]
  split
  · next here =>
    obtain ⟨rfl, rfl⟩ := here
    rw [own_asked_self]
  · next other => rw [own_asked_other other]

omit [DecidableEq T] in
/-- Whoever has found the signal set does not take it back any more. -/
theorem Lowers.spent_of_found (l : Lowers touch moves first player lowers)
    (blind : ∀ {t φ r answer φ' stopped}, moves t φ r answer φ' → touch r answer = .look stopped → ¬ lowers φ)
    {t : T} {φ φ' : Φ} {trace : Trace I} (path : Path (moves t) φ trace φ') (found : Found touch trace) : ¬ lowers φ' := by
  induction path with
  | start =>
    obtain ⟨x, mem, -⟩ := found
    cases mem
  | step path move ih =>
    rcases found_snoc.1 found with earlier | now
    · exact fun again => ih earlier (l.back move again)
    · exact fun again => blind move now (l.back move again)

/-- What has become of a signal that a call has found set. -/
structure Stuck (touch : (r : I.Request) → I.Answer r → Touch) (raised : σ → Bool) (player : T) (n : Nat) (shared : σ)
    (number : T → Nat) (history : History T I α) : Prop where
  stays : number player = n → Found touch (own player n history) → raised shared = true
  sticky : Sticky touch (own player n history)

/-- A look of the call itself that comes after one that has found the signal set, or any other request. -/
theorem Stuck.ask (h : Stuck touch raised player n shared number history) (signalled : Signalled touch answers raised)
    {t : T} {r : I.Request} {answer : I.Answer r} (answered : answers t r shared answer shared')
    (still : number player = n → Found touch (own player n history) → touch r answer ≠ .lower) :
    Stuck touch raised player n shared' number (history ++ [.asked t (number t) r answer]) where
  stays current found := by
    rw [own_asked] at found
    have either : Found touch (own player n history) ∨ touch r answer = .look true := by
      split at found
      · exact found_snoc.1 found
      · exact .inl (by rwa [List.append_nil] at found)
    rcases either with earlier | now
    · have set := h.stays current earlier
      cases touched : touch r answer with
      | lower => exact absurd touched (still current earlier)
      | raise => exact signalled.raise answered touched
      | look stopped => exact (signalled.look answered touched).2.trans set
      | none => exact (signalled.keep answered touched).trans set
    · obtain ⟨set, same⟩ := signalled.look answered now
      exact same.trans set.symm
  sticky := by
    rw [own_asked]
    split
    · next here =>
      refine sticky_snoc.2 ⟨h.sticky, fun found missed => ?_⟩
      obtain ⟨rfl, current⟩ := here
      have set := h.stays current found
      rw [← (signalled.look answered missed).1] at set
      cases set
    · rw [List.append_nil]
      exact h.sticky

/-- The end of a call. The next one has found nothing yet. -/
theorem Stuck.finish (h : Stuck touch raised player n shared number history)
    (begun : ∀ t n, number t < n → own t n history = []) (t : T) (result : α) :
    Stuck touch raised player n shared (Function.update number t (number t + 1))
      (history ++ [.returned t (number t) result]) where
  stays current found := by
    rw [own_append, own_returned, List.append_nil] at found
    by_cases same : t = player
    · subst same
      rw [Function.update_self] at current
      obtain ⟨x, mem, -⟩ := found
      rw [begun t n (by omega)] at mem
      cases mem
    · rw [Function.update_of_ne (Ne.symm same)] at current
      exact h.stays current found
  sticky := by
    rw [own_append, own_returned, List.append_nil]
    exact h.sticky

theorem Run.stuck (signalled : Signalled touch answers raised) (l : Lowers touch moves first player lowers)
    (blind : ∀ {t φ r answer φ' stopped}, moves t φ r answer φ' → touch r answer = .look stopped → ¬ lowers φ)
    (follow : ∀ t n, (calls t n).Follows (moves t) (ends t) (first t n)) (run : Run calls answers shared history s) :
    Stuck touch raised player n s.shared (fun t => (s.call t).number) history := by
  induction run with
  | start => exact ⟨fun _ ⟨x, mem, _⟩ => absurd mem List.not_mem_nil, sticky_of_not_found nofun⟩
  | @step history s event s' run next ih =>
    obtain ⟨φ, follows, traced⟩ := run.followed follow
    cases next with
    | @ask t r next answer shared' asks answered =>
      obtain ⟨φ', move⟩ := (follows t).asked asks answer
      rw [numbers_update, Function.update_eq_self]
      refine ih.ask signalled answered fun current found lower => ?_
      by_cases same : t = player
      · subst same
        subst current
        exact l.spent_of_found blind (traced.running t) found (l.only move lower).1
      · exact l.spent (traced.running t) (.inr same) (l.only move lower).1
    | @finish t result done =>
      rw [numbers_update]
      exact ih.finish traced.begun t result

/-- **A signal that was found set is found set ever after.** Let the calls of a run keep to protocols in which only one
    thread takes the signal back, and looks at it only after that. -/
theorem Run.sticky (signalled : Signalled touch answers raised) (l : Lowers touch moves first player lowers)
    (blind : ∀ {t φ r answer φ' stopped}, moves t φ r answer φ' → touch r answer = .look stopped → ¬ lowers φ)
    (follow : ∀ t n, (calls t n).Follows (moves t) (ends t) (first t n)) (run : Run calls answers shared history s)
    (n : Nat) : Sticky touch (own player n history) :=
  (run.stuck signalled l blind follow).sticky

/-! ### Calm -/

/-- The signal has not been set since a call took it back, and the call has not found it set. -/
structure Calm (touch : (r : I.Request) → I.Answer r → Touch) (raised : σ → Bool) (t : T) (n : Nat) (shared : σ)
    (number : T → Nat) (history : History T I α) : Prop where
  unset : number t = n → Lowered touch (own t n history) → raised shared = false
  never : ¬ Found touch (own t n history)

/-- A request while nobody sets the signal. -/
theorem Calm.ask {t : T} (h : Calm touch raised t n shared number history) (signalled : Signalled touch answers raised)
    {u : T} {r : I.Request} {answer : I.Answer r} (answered : answers u r shared answer shared')
    (blind : u = t → number u = n → ∀ stopped, touch r answer = .look stopped → Lowered touch (own t n history))
    (quiet : number t = n → Lowered touch (own t n history) → touch r answer ≠ .raise) :
    Calm touch raised t n shared' number (history ++ [.asked u (number u) r answer]) where
  unset current lowered := by
    by_cases before : Lowered touch (own t n history)
    · have unset := h.unset current before
      cases touched : touch r answer with
      | lower => exact signalled.lower answered touched
      | raise => exact absurd touched (quiet current before)
      | look stopped => exact (signalled.look answered touched).2.trans unset
      | none => exact (signalled.keep answered touched).trans unset
    · -- The signal has not been taken back before, so that this is the request that does it.
      rw [own_asked] at lowered
      split at lowered
      · have lower : touch r answer = .lower := by
          by_contra other
          exact not_lowered_snoc before other lowered
        exact signalled.lower answered lower
      · rw [List.append_nil] at lowered
        exact absurd lowered before
  never found := by
    rw [own_asked] at found
    split at found
    · next here =>
      refine (found_snoc.1 found).elim h.never fun set => ?_
      have unset := h.unset (here.1 ▸ here.2) (blind here.1 here.2 _ set)
      rw [← (signalled.look answered set).1] at unset
      cases unset
    · rw [List.append_nil] at found
      exact h.never found

/-- The end of a call. -/
theorem Calm.finish {t : T} (h : Calm touch raised t n shared number history)
    (begun : ∀ t n, number t < n → own t n history = []) (u : T) (result : α) :
    Calm touch raised t n shared (Function.update number u (number u + 1))
      (history ++ [.returned u (number u) result]) where
  unset current lowered := by
    rw [own_append, own_returned, List.append_nil] at lowered
    by_cases same : u = t
    · subst same
      rw [Function.update_self] at current
      obtain ⟨x, mem, -⟩ := lowered
      rw [begun u n (by omega)] at mem
      cases mem
    · rw [Function.update_of_ne (Ne.symm same)] at current
      exact h.unset current lowered
  never := by
    rw [own_append, own_returned, List.append_nil]
    exact h.never

/-- **As long as nobody sets the signal, it is not found set.** Let a call look at the signal only after it has taken it
    back. -/
theorem Run.calm_of_lowered (signalled : Signalled touch answers raised) {t : T}
    (blind : ∀ {trace r next answer stopped}, Path goesOn (calls t n) trace (.ask r next) →
      touch r answer = .look stopped → Lowered touch trace)
    (run : Run calls answers shared history s)
    (quiet : ∀ before e after, history = before ++ e :: after → Raises touch e → Running t n before →
      ¬ Lowered touch (own t n before)) :
    Calm touch raised t n s.shared (fun t => (s.call t).number) history := by
  induction run with
  | start =>
    refine ⟨fun _ lowered => ?_, fun found => ?_⟩
    · obtain ⟨x, mem, -⟩ := lowered
      cases mem
    · obtain ⟨x, mem, -⟩ := found
      cases mem
  | @step history s event s' run next ih =>
    have ih := ih fun before e after split => by
      refine quiet before e (after ++ [event]) ?_
      rw [split, List.append_assoc, List.cons_append]
    cases next with
    | @ask u r next answer shared' asks answered =>
      rw [numbers_update, Function.update_eq_self]
      refine ih.ask signalled answered ?_ ?_
      · intro same current stopped look
        subst same
        subst current
        have path := run.gone.running u
        rw [asks] at path
        exact blind path look
      · intro current lowered raise
        have asked : own t n history ≠ [] := by
          obtain ⟨x, mem, -⟩ := lowered
          exact List.ne_nil_of_mem mem
        exact quiet history _ [] rfl raise (run.running current asked) lowered
    | @finish u result done =>
      rw [numbers_update]
      exact ih.finish run.gone.begun u result

/-- In particular if the call begins by taking the signal back. -/
theorem Run.calm (signalled : Signalled touch answers raised) {t : T}
    (opens : ∀ r next answer, calls t n = .ask r next → touch r answer = .lower)
    (run : Run calls answers shared history s)
    (quiet : ∀ before e after, history = before ++ e :: after → Raises touch e → ¬ Running t n before) :
    Calm touch raised t n s.shared (fun t => (s.call t).number) history := by
  refine run.calm_of_lowered signalled ?_ fun before e after split raises running =>
    absurd running (quiet before e after split raises)
  intro trace r next answer stopped path look
  cases trace with
  | nil =>
    have lower := opens r next answer path.eq_of_nil.symm
    rw [look] at lower
    cases lower
  | cons first rest =>
    obtain ⟨r', answer'⟩ := first
    obtain ⟨_, ⟨next', begins, -⟩, -⟩ := path.head
    exact ⟨⟨r', answer'⟩, List.mem_cons_self, opens r' next' answer' begins⟩

end Looks

end Playout.Interleaving
