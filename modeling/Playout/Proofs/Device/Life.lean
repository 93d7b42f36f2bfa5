import Playout.Proofs.Device.Uses

/-!
# `Playout.Proofs.Device.Life` — the life of a device

Whatever the threads do with a device and however their steps lie between each other, it is closed once and for ever, and
its output with it. While only one thread plays at a time, the device says that it is playing exactly as long as it is.

## Contents
- `Effect` — what a request does to what the threads share.
- `Shut`, `closings`, `stored` — what a history says of the device; `Kept` — it is right.
- `Once` — the output is closed once, by the thread that has closed the device.
- `Alone` — one play at a time, and what it has set.
- `Alive`, `Run.alive` — all of it, after every run.
-/

namespace Playout.Device.Life

open Interleaving Program

variable {B : Playout.Interface} {T : Type} {σ : Type} {backend : Surroundings (fun _ : T => Announced B) σ}
  {o : Output B} {commands : T → Nat → Command}

/-! ## What a request does -/

/-- What becomes of what the threads share. -/
inductive Effect (s : Shared) : (r : Device.Request (Announced B)) → Device.Request.Answer r → Shared → Prop where
  | entered (unclosed : s.state ≠ .closed) : Effect s .enter true { s with state := .playing }
  | barred (closed : s.state = .closed) : Effect s .enter false s
  | left (playing : s.state = .playing) : Effect s .leave () { s with state := .open }
  | stayed (other : s.state ≠ .playing) : Effect s .leave () s
  | shut (unclosed : s.state ≠ .closed) : Effect s .shut true { s with state := .closed }
  | shutBefore (closed : s.state = .closed) : Effect s .shut false s
  | marked {value} : Effect s (.setWorking value) () { s with working := value }
  | volume : Effect s .volume s.volume s
  | stored {volume} : Effect s (.storeVolume volume) () { s with volume := volume }
  | log {line answer} : Effect s (.log line) answer s
  | output {r answer} : Effect s (.output r) answer s

theorem Answered.effect {t : T} {r : Device.Request (Announced B)} {answer : Device.Request.Answer r}
    {s s' : Shared × σ} (answered : Answered backend t r s answer s') : Effect s.1 r answer s'.1 := by
  obtain ⟨s, w⟩ := s
  obtain ⟨s', w'⟩ := s'
  cases r with
  | log line =>
    cases answered
    exact .log
  | output r =>
    obtain ⟨same, -⟩ := answered
    cases same
    exact .output
  | enter | shut =>
    obtain ⟨told, -⟩ := answered
    simp only [Shared.answer] at told
    split at told
    · next closed =>
      cases told
      first | exact .barred closed | exact .shutBefore closed
    · next unclosed =>
      cases told
      first | exact .entered unclosed | exact .shut unclosed
  | leave =>
    obtain ⟨told, -⟩ := answered
    simp only [Shared.answer] at told
    split at told
    · next playing =>
      cases told
      exact .left playing
    · next other =>
      cases told
      exact .stayed other
  | setWorking value =>
    obtain ⟨told, -⟩ := answered
    cases told
    exact .marked
  | volume =>
    obtain ⟨told, -⟩ := answered
    cases told
    exact .volume
  | storeVolume volume =>
    obtain ⟨told, -⟩ := answered
    cases told
    exact .stored

/-! ## What a history says of the device -/

/-- Whether an event has closed the device. -/
def shuts : Event (fun _ : T => Device.Interface (Announced B)) (fun _ : T => Except PlayError Unit) → Bool
  | .asked _ _ .shut first => first
  | _ => false

/-- Whether an event is the output being closed. -/
def closes : Event (fun _ : T => Device.Interface (Announced B)) (fun _ : T => Except PlayError Unit) → Bool
  | .asked _ _ (.output (.used .close)) _ => true
  | _ => false

/-- The volume that an event has stored, if any. -/
def stores : Event (fun _ : T => Device.Interface (Announced B)) (fun _ : T => Except PlayError Unit) → Option Int
  | .asked _ _ (.storeVolume volume) _ => some volume
  | _ => none

/-- The device has been closed. -/
def Shut (history : Past T (Announced B)) : Prop := ∃ e ∈ history, shuts e = true

/-- How often the output was closed. -/
def closings (history : Past T (Announced B)) : Nat := history.countP closes

/-- The volume that was stored last. -/
def stored (history : Past T (Announced B)) : Int := ((history.filterMap stores).getLast?).getD Sample.volumeDefault

variable {history : Past T (Announced B)} {e : Event (fun _ : T => Device.Interface (Announced B)) fun _ : T => Except PlayError Unit}
  {t : T} {n : Nat} {r : Device.Request (Announced B)} {answer : Device.Request.Answer r} {s s' : Shared}

theorem shut_snoc : Shut (history ++ [e]) ↔ Shut history ∨ shuts e = true := by
  simp [Shut, or_and_right, exists_or]

theorem closings_snoc : closings (history ++ [e]) = closings history + if closes e then 1 else 0 := by
  simp [closings, List.countP_append, List.countP_singleton]

theorem stored_snoc : stored (history ++ [e]) = (stores e).getD (stored history) := by
  unfold stored
  rw [filterMap_snoc]
  cases stores e <;> simp

theorem stores_eq_some {volume : Int} (stored : stores e = some volume) : ∃ t n, e = .asked t n (.storeVolume volume) () := by
  unfold stores at stored
  split at stored
  · cases stored
    exact ⟨_, _, rfl⟩
  · cases stored

/-- As long as no volume is stored, the last one stays. -/
theorem stored_append {later : Past T (Announced B)} (unstored : ∀ e ∈ later, stores e = none) :
    stored (history ++ later) = stored history := by
  unfold stored
  rw [List.filterMap_append, List.filterMap_eq_nil_iff.2 unstored, List.append_nil]

/-- What the threads share is what the history says. -/
structure Kept (s : Shared) (history : Past T (Announced B)) : Prop where
  closed : s.state = .closed ↔ Shut history
  volume : s.volume = stored history

/-- An event that neither closes the device nor stores a volume. -/
theorem Kept.same (kept : Kept s history) (closed : s'.state = .closed ↔ s.state = .closed)
    (volume : s'.volume = s.volume) (unshut : shuts e = false) (unstored : stores e = none) :
    Kept s' (history ++ [e]) where
  closed := by
    rw [shut_snoc, unshut, closed, kept.closed]
    simp
  volume := by
    rw [stored_snoc, unstored, volume, kept.volume]
    rfl

theorem Kept.ask (kept : Kept s history) (effect : Effect s r answer s') :
    Kept s' (history ++ [.asked t n r answer]) := by
  cases effect with
  | entered unclosed => exact kept.same (iff_of_false nofun unclosed) rfl rfl rfl
  | left playing =>
    refine kept.same (iff_of_false nofun fun closed => ?_) rfl rfl rfl
    rw [playing] at closed
    cases closed
  | shut =>
    refine ⟨iff_of_true rfl (shut_snoc.2 (.inr rfl)), ?_⟩
    rw [stored_snoc]
    exact kept.volume
  | stored =>
    refine ⟨?_, ?_⟩
    · rw [shut_snoc, ← kept.closed]
      simp [shuts]
    · rw [stored_snoc]
      rfl
  | _ => exact kept.same Iff.rfl rfl rfl rfl

/-! ## The output is closed once -/

/-- Before the device is closed its output is not, then one call is about to do it, and then it was done once. -/
inductive Once (x : T → Phase) (history : Past T (Announced B)) : Prop where
  | unclosed (never : ¬ Shut history) (zero : closings history = 0) (nobody : ∀ t, x t ≠ .closing)
  | closing (t : T) (here : x t = .closing) (only : ∀ u, x u = .closing → u = t) (shut : Shut history)
      (zero : closings history = 0)
  | closed (shut : Shut history) (once : closings history = 1) (nobody : ∀ t, x t ≠ .closing)

variable {x : T → Phase} {φ φ' : Phase}

/-- The output is closed at most once. -/
theorem Once.closings_le (once : Once x history) : closings history ≤ 1 := by
  cases once with
  | unclosed _ zero | closing _ _ _ _ zero => omega
  | closed _ once => omega

variable [DecidableEq T]

/-- A request that has nothing to do with closing. -/
theorem Once.same (once : Once x history) (before : x t ≠ .closing) (after : φ' ≠ .closing) (unshut : shuts e = false)
    (unclosed : closes e = false) : Once (Function.update x t φ') (history ++ [e]) := by
  have nobody (nobody : ∀ t, x t ≠ .closing) : ∀ u, Function.update x t φ' u ≠ .closing :=
    (Function.forall_update_iff x fun _ φ => φ ≠ .closing).2 ⟨after, fun u _ => nobody u⟩
  have shut : Shut (history ++ [e]) ↔ Shut history := by
    rw [shut_snoc, unshut]
    simp
  have closings : closings (history ++ [e]) = closings history := by
    rw [closings_snoc, unclosed]
    rfl
  cases once with
  | unclosed never zero nobody' => exact .unclosed (mt shut.1 never) (closings.trans zero) (nobody nobody')
  | closed was once nobody' => exact .closed (shut.2 was) (closings.trans once) (nobody nobody')
  | closing u here only was zero =>
    have other : u ≠ t := by
      rintro rfl
      exact before here
    refine .closing u ((Function.update_of_ne other ..).trans here) ?_ (shut.2 was) (closings.trans zero)
    exact (Function.forall_update_iff x fun v φ => φ = .closing → v = u).2
      ⟨fun there => absurd there after, fun v _ => only v⟩

theorem Once.ask (once : Once x history) (kept : Kept s history) (stands : x t = φ) (move : Lives φ r answer φ')
    (effect : Effect s r answer s') : Once (Function.update x t φ') (history ++ [.asked t n r answer]) := by
  have other (before : φ ≠ .closing) (after : φ' ≠ .closing)
      (unshut : shuts (.asked t n r answer : Event (fun _ : T => Device.Interface (Announced B)) _) = false)
      (unclosed : closes (.asked t n r answer : Event (fun _ : T => Device.Interface (Announced B)) _) = false) :=
    once.same (stands ▸ before) after unshut unclosed
  cases move with
  | shut =>
    cases effect with
    | shut unclosed =>
      -- The device was not closed, so that nobody is about to close its output.
      cases once with
      | unclosed never zero nobody =>
        refine .closing t (Function.update_self ..) ?_ (shut_snoc.2 (.inr rfl)) (closings_snoc.trans zero)
        exact (Function.forall_update_iff x fun u φ => φ = .closing → u = t).2
          ⟨fun _ => rfl, fun u _ there => absurd there (nobody u)⟩
      | closing _ _ _ was | closed was => exact absurd (kept.closed.2 was) unclosed
  | close =>
    cases once with
    | unclosed _ _ nobody | closed _ _ nobody => exact absurd stands (nobody t)
    | closing u here only was zero =>
      refine .closed (shut_snoc.2 (.inl was)) ?_ ?_
      · rw [closings_snoc, zero]
        rfl
      · exact (Function.forall_update_iff x fun _ φ => φ ≠ .closing).2
          ⟨nofun, fun v other there => other ((only v there).trans (only t stands).symm)⟩
  | @use use minor =>
    refine other nofun nofun rfl ?_
    cases use with
    | close => cases minor
    | _ => rfl
  | _ => exact other nofun nofun rfl rfl

/-! ## One play at a time -/

/-- Whether a call plays, and has not given that up. -/
def Phase.engaged : Phase → Bool
  | entered | marked | told _ | playing | played => true
  | _ => false

/-- What a call that plays has made of the device, if no other call plays: it is marked as playing from one step to
    another, and not open before the call has left it. -/
def Fits : Phase → Shared → Prop
  | .entered, s | .played, s => s.working = false ∧ s.state ≠ .open
  | .marked, s | .told _, s | .playing, s => s.working = true ∧ s.state ≠ .open
  | _, _ => False

/-- At most one call plays. -/
inductive Alone (x : T → Phase) (s : Shared) : Prop where
  | resting (nobody : ∀ t, (x t).engaged = false) (unmarked : s.working = false) (still : s.state ≠ .playing)
  | playing (t : T) (fits : Fits (x t) s) (others : ∀ u, u ≠ t → (x u).engaged = false)

theorem Fits.engaged (fits : Fits φ s) : φ.engaged = true := by
  cases φ <;> first | rfl | exact fits.elim

/-- A call that may end does not play. -/
theorem Over.idle {result : Except PlayError Unit} (ended : Over φ result) : φ.engaged = false := by
  cases φ <;> first | rfl | exact ended.elim

/-- What others do to the device may close it, but not open it. -/
theorem Fits.change (fits : Fits φ s) (working : s'.working = s.working) (state : s'.state = s.state ∨ s'.state = .closed) :
    Fits φ s' := by
  have unopen (unopen : s.state ≠ .open) : s'.state ≠ .open := by
    rcases state with same | closed
    · rwa [same]
    · rw [closed]
      exact nofun
  cases φ with
  | entered | played | marked | told | playing => exact ⟨working.trans fits.1, unopen fits.2⟩
  | _ => exact fits.elim

/-- What a call does that does not play: it begins to, or leaves the device as it is but for closing it. -/
theorem Lives.apart (move : Lives φ r answer φ') (effect : Effect s r answer s') (out : φ.engaged = false) :
    (φ' = .entered ∧ s.state ≠ .closed ∧ s' = { s with state := .playing }) ∨
      φ'.engaged = false ∧ s'.working = s.working ∧ (s'.state = s.state ∨ s'.state = .closed) := by
  cases move with
  | enter =>
    cases effect with
    | entered unclosed => exact .inl ⟨rfl, unclosed, rfl⟩
  | mark | read | play | plays | unmark | leave => cases out
  | shut =>
    cases effect
    exact .inr ⟨rfl, rfl, .inr rfl⟩
  | _ =>
    cases effect
    exact .inr ⟨rfl, rfl, .inl rfl⟩

/-- What a call does that plays. -/
theorem Lives.engaged (move : Lives φ r answer φ') (effect : Effect s r answer s') (fits : Fits φ s) :
    Fits φ' s' ∨ φ' = .left ∧ s'.working = false ∧ s'.state ≠ .playing := by
  cases move with
  | mark | unmark =>
    cases effect
    exact .inl ⟨rfl, fits.2⟩
  | read | play | plays =>
    cases effect
    exact .inl fits
  | leave =>
    cases effect with
    | left => exact .inr ⟨rfl, fits.1, nofun⟩
    | stayed other => exact .inr ⟨rfl, fits.1, other⟩
  | _ => exact fits.elim

/-- No volume is stored that is out of range. -/
theorem Lives.inRange (move : Lives φ r answer φ') (effect : Effect s r answer s')
    (before : Sample.volumeInRange s.volume = true) : Sample.volumeInRange s'.volume = true := by
  cases move with
  | store fits =>
    cases effect
    exact fits
  | _ => cases effect <;> exact before

/-- A call that does not play and does not begin to. -/
theorem Alone.aside (alone : Alone x s) (before : (x t).engaged = false) (after : φ'.engaged = false)
    (working : s'.working = s.working) (state : s'.state = s.state ∨ s'.state = .closed) :
    Alone (Function.update x t φ') s' := by
  cases alone with
  | resting nobody unmarked still =>
    have nobody' : ∀ u, (Function.update x t φ' u).engaged = false :=
      (Function.forall_update_iff x fun _ φ => φ.engaged = false).2 ⟨after, fun u _ => nobody u⟩
    refine .resting nobody' (working.trans unmarked) ?_
    rcases state with same | closed
    · rwa [same]
    · rw [closed]
      exact nofun
  | playing v fits others =>
    have other : v ≠ t := by
      rintro rfl
      rw [fits.engaged] at before
      cases before
    refine .playing v ?_ ?_
    · rw [Function.update_of_ne other]
      exact fits.change working state
    · exact (Function.forall_update_iff x fun u φ => u ≠ v → φ.engaged = false).2 ⟨fun _ => after, fun u _ => others u⟩

theorem Alone.ask (alone : Alone x s) (stands : x t = φ) (move : Lives φ r answer φ') (effect : Effect s r answer s')
    (solo : φ' = .entered → ∀ u, (x u).engaged = false) : Alone (Function.update x t φ') s' := by
  -- If the call goes on playing, it is still the only one that may.
  have alone_of_fits (fits : Fits φ' s') (others : ∀ u, u ≠ t → (x u).engaged = false) :
      Alone (Function.update x t φ') s' := by
    refine .playing t ?_ ?_
    · rwa [Function.update_self]
    · exact (Function.forall_update_iff x fun u φ => u ≠ t → φ.engaged = false).2
        ⟨fun no => absurd rfl no, fun u _ => others u⟩
  cases plays : φ.engaged with
  | false =>
    rcases move.apart effect plays with ⟨rfl, -, rfl⟩ | ⟨after, working, state⟩
    · cases alone with
      | resting nobody unmarked => exact alone_of_fits ⟨unmarked, nofun⟩ fun u _ => nobody u
      | playing v fits =>
        have idle := solo rfl v
        rw [fits.engaged] at idle
        cases idle
    · exact alone.aside (stands ▸ plays) after working state
  | true =>
    cases alone with
    | resting nobody =>
      rw [← stands, nobody t] at plays
      cases plays
    | playing v fits others =>
      obtain rfl : t = v := by
        by_contra other
        rw [← stands, others t other] at plays
        cases plays
      rw [stands] at fits
      rcases move.engaged effect fits with fits | ⟨rfl, unmarked, still⟩
      · exact alone_of_fits fits others
      · exact .resting ((Function.forall_update_iff x fun _ φ => φ.engaged = false).2 ⟨rfl, others⟩) unmarked still

/-! ## Calls that have begun -/

/-- A call that has asked something is not where it began, and plays only if it was meant to. -/
structure Begun (command : Command) (trace : Trace (Device.Interface (Announced B))) (φ : Phase) : Prop where
  fresh : ∀ command', φ = .fresh command' → command' = command ∧ trace = []
  plays : φ.engaged = true → ∃ track order, command = .play track order

theorem Begun.of_path {command : Command} {trace : Trace (Device.Interface (Announced B))}
    (path : Path lives (.fresh command) trace φ) : Begun command trace φ := by
  refine path.keeps (Begun command) ⟨?_, nofun⟩ ?_
  · rintro _ ⟨⟩
    exact ⟨rfl, rfl⟩
  · intro trace φ r answer φ' begun move
    cases move with
    | @enter track order =>
      obtain ⟨rfl, -⟩ := begun.fresh _ rfl
      exact ⟨nofun, fun _ => ⟨track, order, rfl⟩⟩
    | mark | read | play | plays | unmark => exact ⟨nofun, fun _ => begun.plays rfl⟩
    | _ => exact ⟨nofun, nofun⟩

/-- A thread's call is one that plays. -/
def Plays (commands : T → Nat → Command) (t : T) (n : Nat) : Prop := ∃ track order, commands t n = .play track order

/-- At no moment do two calls play. -/
def Solo (commands : T → Nat → Command) (history : Past T (Announced B)) : Prop :=
  ∀ before after, history = before ++ after → ∀ t n u m, Plays commands t n → Plays commands u m →
    Running t n before → Running u m before → t = u

theorem Solo.before (solo : Solo commands (history ++ [e])) : Solo commands history := by
  rintro before after rfl
  exact solo before (after ++ [e]) (List.append_assoc ..)

section Running

variable {number : T → Nat}
  (traced : Traced (fun _ => lives) (fun _ => Over) (fun t n => .fresh (commands t n)) number x history)

include traced

/-- A call that is not where it began is being made. -/
theorem running_of_unfresh (unfresh : x t ≠ .fresh (commands t (number t))) : Running t (number t) history := by
  refine traced.isRunning fun silent => ?_
  have path := traced.running t
  rw [silent] at path
  exact unfresh path.eq_of_nil

/-- A call that plays was meant to, and is being made. -/
theorem plays_of_engaged (engaged : (x t).engaged = true) :
    Plays commands t (number t) ∧ Running t (number t) history := by
  refine ⟨(Begun.of_path (traced.running t)).plays engaged, running_of_unfresh traced fun fresh => ?_⟩
  rw [fresh] at engaged
  cases engaged

end Running

/-- All that is known of a device after a run, and of the calls that are being made. -/
structure Alive (commands : T → Nat → Command) (s : Shared × σ) (number : T → Nat) (x : T → Phase)
    (history : Past T (Announced B)) : Prop where
  traced : Traced (fun _ => lives) (fun _ => Over) (fun t n => .fresh (commands t n)) number x history
  kept : Kept s.1 history
  inRange : Sample.volumeInRange s.1.volume = true
  once : Once x history
  alone : Solo commands history → Alone x s.1

namespace Alive

variable {s s' : Shared × σ} {number : T → Nat}

theorem start {w : σ} : Alive (B := B) commands ({}, w) (fun _ => 0) (fun t => .fresh (commands t 0)) [] where
  traced := .start
  kept := ⟨iff_of_false nofun fun ⟨_, no, _⟩ => absurd no List.not_mem_nil, rfl⟩
  inRange := rfl
  once := .unclosed (fun ⟨_, no, _⟩ => absurd no List.not_mem_nil) rfl nofun
  alone _ := .resting (fun _ => rfl) rfl nofun

/-- When a call begins to play, no other one does, if calls play one at a time. -/
theorem solo (alive : Alive commands s number x history) (move : Lives (x t) r answer φ') (enters : φ' = .entered)
    (solo : Solo commands (history ++ [.asked t (number t) r answer])) (u : T) : (x u).engaged = false := by
  subst enters
  have traced := alive.traced.ask (t := t) move
  have idle : (x t).engaged = false := by
    generalize x t = φ at move
    cases move
    rfl
  rw [← Bool.not_eq_true]
  intro engaged
  have other : u ≠ t := by
    rintro rfl
    rw [idle] at engaged
    cases engaged
  obtain ⟨entering, begun⟩ := plays_of_engaged traced (t := t) (by rw [Function.update_self]; rfl)
  obtain ⟨playing, running⟩ := plays_of_engaged traced (t := u) (by rwa [Function.update_of_ne other])
  exact other (solo _ [] (List.append_nil _).symm u _ t _ playing entering running begun)

theorem ask (alive : Alive commands s number x history) (move : Lives (x t) r answer φ')
    (answered : Answered backend t r s answer s') :
    Alive commands s' number (Function.update x t φ') (history ++ [.asked t (number t) r answer]) where
  traced := alive.traced.ask move
  kept := alive.kept.ask answered.effect
  inRange := move.inRange answered.effect alive.inRange
  once := alive.once.ask alive.kept rfl move answered.effect
  alone solo :=
    (alive.alone solo.before).ask rfl move answered.effect fun enters => alive.solo move enters solo

/-- A call ends. -/
theorem finish (alive : Alive commands s number x history) {result : Except PlayError Unit} (ended : Over (x t) result) :
    Alive commands s (Function.update number t (number t + 1))
      (Function.update x t (.fresh (commands t (number t + 1)))) (history ++ [.returned t (number t) result]) where
  traced := alive.traced.finish ended
  kept := alive.kept.same Iff.rfl rfl rfl rfl
  inRange := alive.inRange
  once := by
    refine alive.once.same (fun closing => ?_) nofun rfl rfl
    rw [closing] at ended
    exact ended
  alone solo := (alive.alone solo.before).aside ended.idle rfl rfl (.inl rfl)

end Alive

/-- **Life.** In every run of threads with a device all of this holds. -/
theorem Run.alive {w : σ} {s : Interleaving.State _ _ (Shared × σ)}
    (run : Run (calls (announcing o) commands) (surroundings backend) ({}, w) history s) :
    ∃ x : T → Phase, (∀ t, (s.call t).rest.Follows lives Over (x t)) ∧
      Alive commands s.shared (fun t => (s.call t).number) x history := by
  refine run.invariant (fun t n => lives_follow o (commands t n)) ?_ ?_ ?_
  · exact Alive.start
  · intro s number x history t r answer s' φ' alive move answered
    exact alive.ask move answered
  · intro s number x history t result alive ended
    exact alive.finish ended

end Playout.Device.Life
