import Playout.Proofs.Flow.StopSteps

/-!
# `Playout.Proofs.Flow.Stopping` — every flow that is cut short is stopped exactly once

## Contents
- `Inv.play`, `Inv.stop` — one step of a thread keeps the invariant.
- `run_inv` — so does every run.

## Main statement
- `cut_short_iff_stopped_once`.
-/

namespace Playout.Flow.Stopping

open Interleaving

variable {s s' : Shared} {i : Nat} {c : Nat → Nat} {p p' : PlayPhase} {q : Nat → StopPhase} {m : List Moment}

/-! ## One step keeps the invariant -/

/-- The moments of a run that goes on. -/
theorem moments_snoc (history : List (Interleaving.Event interface Result))
    (event : Interleaving.Event interface Result) :
    moments (history ++ [event]) = moments history ++ (moment? event).toList := filterMap_snoc ..

/-- Every request of a play, however it is answered. -/
theorem Inv.play {r : Player.Request} {answer : r.Answer} (h : Inv s i c p q m)
    (move : PlayMove p r answer p') (answered : answers .player r s answer s') :
    Inv s' i c p' q (m ++ (moment? (.asked .player i r answer)).toList) := by
  cases move with
  | log | clock | addSerial | forget =>
    cases answered
    simpa [moment?] using h
  | start | abandon =>
    obtain ⟨_, rfl⟩ := answered
    simpa [moment?] using h
  | reset =>
    cases answered
    exact h.reset
  | unanswered none =>
    cases answered with
    | started => exact absurd rfl (none _)
    | failed | timedOut | forsaken => simpa [moment?] using h
  | give =>
    cases answered with
    | started nonzero fresh => exact h.give nonzero fresh
  | lock =>
    obtain ⟨free, rfl, rfl⟩ := answered
    simpa [moment?] using h.lock free
  | refuse =>
    obtain ⟨set, rfl⟩ := answered
    exact h.refuse set.symm
  | accept =>
    obtain ⟨unset, rfl⟩ := answered
    simpa [moment?] using h.accept unset.symm
  | order =>
    obtain ⟨_, rfl⟩ := answered
    exact h.order
  | putBack =>
    cases answered
    have zero := h.locks.allowed.2
    subst zero
    exact h.putBack
  | @store flow answer =>
    cases answered
    -- Only zero clears the id, and no flow has it.
    have nonzero : flow ≠ 0 := h.ids.nonzero ((h.plays.present.1 flow).mpr rfl)
    have stored : moment? (.asked .player i (.putFlow flow) answer) = some (.stored i) := by
      simp [moment?, nonzero]
    rw [stored]
    exact h.store
  | pause =>
    obtain ⟨_, rfl⟩ := answered
    simpa [moment?] using h
  | lockAgain =>
    obtain ⟨free, rfl, rfl⟩ := answered
    simpa [moment?] using h.lockAgain free
  | clear =>
    cases answered
    exact h.clear

/-- Every request of a stop, however it is answered. -/
theorem Inv.stop {k : Nat} {φ : StopPhase} {r : Player.Request} {answer : r.Answer} (h : Inv s i c p q m)
    (move : StopMove (q k) r answer φ) (answered : answers (.stopper k) r s answer s') :
    Inv s' i c p (Function.update q k φ) (m ++ (moment? (.asked (.stopper k) (c k) r answer)).toList) := by
  generalize before : q k = ψ at move
  cases move with
  | log | addSerial =>
    cases answered
    rw [← before, Function.update_eq_self]
    simpa [moment?] using h
  | lock =>
    obtain ⟨free, rfl, rfl⟩ := answered
    exact h.stopLock before free
  | order playing =>
    obtain ⟨_, rfl⟩ := answered
    exact h.stopOrder before playing
  | cancelIdle =>
    cases answered
    exact h.stopCancel (by rw [before]; trivial) (Or.inl (h.locks.looked k 0 before).symm)
  | cancel =>
    cases answered
    exact h.stopCancel (by rw [before]; trivial) (Or.inr before)
  | release =>
    cases answered
    simpa [moment?] using h.stopRelease before

/-! ## Every run keeps the invariant -/

/-- The phases of each thread. -/
@[reducible] def Phase : Thread → Type
  | .player => PlayPhase
  | .stopper _ => StopPhase

/-- The protocol of each thread. -/
def moves : (t : Thread) → Moves (interface t) (Phase t)
  | .player => PlayMove
  | .stopper _ => StopMove

/-- Where each thread may end a call. -/
def ends : (t : Thread) → Phase t → Result t → Prop
  | .player => PlayEnds
  | .stopper _ => StopEnds

/-- Where each thread begins a call. -/
def first : (t : Thread) → Nat → Phase t
  | .player, _ => .entered
  | .stopper _, _ => .entered

theorem StopEnds.phase {φ : StopPhase} {result : Unit} (ended : StopEnds φ result) : φ = .finished := by
  cases ended
  rfl

/-- The invariant, for the numbers and phases of all threads. -/
def Holds (s : Shared) (number : Thread → Nat) (φ : (t : Thread) → Phase t)
    (history : List (Interleaving.Event interface Result)) : Prop :=
  Inv s (number .player) (fun k => number (.stopper k)) (φ .player) (fun k => φ (.stopper k)) (moments history)

section

variable {β : Thread → Type}

theorem update_player (f : (t : Thread) → β t) (x : β .player) (k : Nat) :
    Function.update f .player x (.stopper k) = f (.stopper k) :=
  Function.update_of_ne (by simp) x f

theorem update_stopper (f : (t : Thread) → β t) (k : Nat) (x : β (.stopper k)) :
    Function.update f (.stopper k) x .player = f .player :=
  Function.update_of_ne (by simp) x f

theorem update_stoppers (f : (t : Thread) → β t) (k : Nat) (x : β (.stopper k)) :
    (fun l => Function.update f (.stopper k) x (.stopper l))
      = Function.update (fun l => f (.stopper l)) k x := by
  funext l
  by_cases same : l = k
  · subst same
    rw [Function.update_self, Function.update_self]
  · rw [Function.update_of_ne same, Function.update_of_ne (by simpa using same)]

end

theorem run_inv {config : Config} {plays : Nat → Track × PlaySettings}
    {history : List (Interleaving.Event interface Result)} {s : State interface Result Shared}
    (run : Run (calls config plays) answers {} history s) :
    ∃ φ : (t : Thread) → Phase t, Holds s.shared (fun t => (s.call t).number) φ history := by
  have follow (t : Thread) (n : Nat) :
      (calls config plays t n).Follows (moves t) (ends t) (first t n) := by
    cases t with
    | player => exact play_follows config _ _
    | stopper k => exact stop_follows
  suffices invariant : ∃ φ : (t : Thread) → Phase t,
      (∀ t, (s.call t).rest.Follows (moves t) (ends t) (φ t)) ∧
        Holds s.shared (fun t => (s.call t).number) φ history by
    obtain ⟨φ, _, held⟩ := invariant
    exact ⟨φ, held⟩
  refine run.invariant follow inv_start ?ask ?finish
  case ask =>
    intro s number φ history t r answer s' φ' held move answered
    rw [Holds, moments_snoc]
    cases t with
    | player =>
      simp only [Function.update_self, update_player]
      exact Inv.play held move answered
    | stopper k =>
      have kept := Inv.stop (q := fun l => φ (.stopper l)) held move answered
      rw [update_stopper, update_stoppers]
      exact kept
  case finish =>
    intro s number φ history t result held ended
    rw [Holds, moments_snoc]
    cases t with
    | player =>
      simp only [Function.update_self, update_player]
      exact Inv.next held ended
    | stopper k =>
      have kept := Inv.stopNext (k := k) (q := fun l => φ (.stopper l)) held (StopEnds.phase ended)
      rw [update_stopper, update_stopper, update_stoppers, update_stoppers]
      simpa [moment?, first] using kept

/-! ## What the invariant says of the flows -/

/-- A play that needs no more stops to be counted: it has returned, or cleared the id, or its flow is playing
    and nobody holds the lock. -/
def Closed (s : Shared) (m : List Moment) (play : Nat) : Prop :=
  .returned play ∈ m ∨ .cleared play ∈ m ∨ .stored play ∈ m ∧ s.holder = none

variable {flow : UInt32} {play : Nat}

/-- While nobody holds the lock, the playing flow has been stopped when the id is zero, and only then. -/
theorem Inv.idle (h : Inv s i c (.playing flow) q m) (free : s.holder = none) :
    (CutShort m i → m.count (.ordered flow) = 1) ∧ (¬ CutShort m i → m.count (.ordered flow) = 0) := by
  have sounding : Sounding s q m i flow := h.plays.present
  have nobody (k : Nat) : ¬ (q k).Holds := by
    rw [h.locks.stopper, free]
    nofun
  have spent : Spent s q ↔ s.flow = 0 := or_iff_left fun ⟨k, stopping⟩ =>
    nobody k (by rcases stopping with now | now <;> rw [now] <;> trivial)
  have cut : CutShort m i ↔ s.flow = 0 := by
    rw [sounding.cut]
    exact or_iff_left fun ⟨k, cancelled⟩ => nobody k (by rw [cancelled]; trivial)
  rw [cut, ← spent]
  exact ⟨sounding.once, sounding.never⟩

/-- The flow of a play that is closed has been ordered to be stopped once if the play was cut short, and else
    not at all. -/
theorem Inv.closed (h : Inv s i c p q m) (given : .given play flow ∈ m) (closed : Closed s m play) :
    (CutShort m play → m.count (.ordered flow) = 1) ∧ (¬ CutShort m play → m.count (.ordered flow) = 0) := by
  rcases Nat.lt_trichotomy play i with past | rfl | future
  · exact ((h.plays.past play past).2 flow given).2
  · have present := h.plays.present
    -- A play that has not stored its flow, nor cleared the id, is not closed.
    have early (unstored : .stored play ∉ m) (uncleared : .cleared play ∉ m) : False := by
      rcases closed with returned | cleared | ⟨stored, _⟩
      · exact absurd (h.plays.returned play returned) (Nat.lt_irrefl play)
      · exact uncleared cleared
      · exact unstored stored
    have going (unstored : .stored play ∉ m) (going : ¬ Ended m play) : False :=
      early unstored fun cleared => going (Or.inr cleared)
    have sounding {flow : UInt32} (sounding : Sounding s q m play flow) : s.holder = none := by
      rcases closed with returned | cleared | ⟨_, free⟩
      · exact absurd (h.plays.returned play returned) (Nat.lt_irrefl play)
      · exact absurd (Or.inr cleared) sounding.going
      · exact free
    cases p with
    | entered => exact absurd given (present.2.1 flow)
    | asking => exact absurd given (present.2 flow)
    | given | looking => exact (going present.1.unstored present.1.going).elim
    | refusing | refused => exact (early present.unstored present.uncleared).elim
    | storing => exact (going present.2.2.2.1 present.2.2.1).elim
    | playing other =>
      have same : flow = other := (present.owns flow).mp given
      subst same
      exact h.idle (sounding present)
    | clearing =>
      have held := h.locks.player.mp trivial
      rw [sounding present] at held
      cases held
    | finished => exact (present.2 flow given).2
  · exact absurd given ((h.plays.future play future).2.1 flow)

/-- No flow is ordered to be stopped twice. -/
theorem Inv.at_most_once (h : Inv s i c p q m) (flow : UInt32) : m.count (.ordered flow) ≤ 1 := by
  by_cases ordered : .ordered flow ∈ m
  · obtain ⟨play, given⟩ := h.ids.ordered ordered
    have settled {j : Nat} (settled : Settled m j) (given : .given j flow ∈ m) : m.count (.ordered flow) ≤ 1 := by
      obtain ⟨_, once, never⟩ := settled.2 flow given
      by_cases cut : CutShort m j
      · exact Nat.le_of_eq (once cut)
      · exact Nat.le_succ_of_le (Nat.le_of_eq (never cut))
    rcases Nat.lt_trichotomy play i with past | rfl | future
    · exact settled (h.plays.past play past) given
    · have present := h.plays.present
      have sounding {other : UInt32} (sounding : Sounding s q m play other) : m.count (.ordered flow) ≤ 1 := by
        have same : flow = other := (sounding.owns flow).mp given
        subst same
        by_cases spent : Spent s q
        · exact Nat.le_of_eq (sounding.once spent)
        · exact Nat.le_succ_of_le (Nat.le_of_eq (sounding.never spent))
      have owned {other : UInt32} {n : Nat} (owns : Owns m play other) (count : m.count (.ordered other) = n)
          (few : n ≤ 1) : m.count (.ordered flow) ≤ 1 := by
        rw [(owns flow).mp given, count]
        exact few
      cases p with
      | entered => exact absurd given (present.2.1 flow)
      | asking => exact absurd given (present.2 flow)
      | given | looking => exact owned present.2.1 present.2.2 (Nat.zero_le 1)
      | refusing => exact owned present.owns present.count (Nat.zero_le 1)
      | refused => exact owned present.owns present.count (Nat.le_refl 1)
      | storing => exact owned present.1 present.2.2.2.2.2 (Nat.zero_le 1)
      | playing | clearing => exact sounding present
      | finished => exact settled present given
    · exact absurd given ((h.plays.future play future).2.1 flow)
  · rw [List.count_eq_zero.mpr ordered]
    exact Nat.zero_le 1

/-- While no play has its flow stored, the id is zero. -/
theorem Inv.flow_zero (h : Inv s i c p q m) (between : ∀ play, .stored play ∈ m → .cleared play ∈ m) :
    s.flow = 0 := by
  have allowed := h.locks.allowed
  have waiting {flow : UInt32} (sounding : Sounding s q m i flow) : False :=
    sounding.going (Or.inr (between i sounding.stored))
  cases p with
  | playing flow | clearing flow => exact absurd h.plays.present waiting
  | entered | asking | given | storing | finished => exact allowed
  | looking | refusing | refused => exact allowed.1

/-! ## Every flow that is cut short is stopped exactly once -/

section

variable {config : Config} {plays : Nat → Track × PlaySettings}
  {history : List (Interleaving.Event interface Result)} {s : State interface Result Shared}

/-- **Cut short or not, a flow is stopped as it should be.** However plays, stops and the server's answers
    follow each other: no flow is ordered to be stopped twice; the flow of a closed play has been ordered to be
    stopped once if a stop reached the play in time, and else not at all; no other ids are ordered to be
    stopped; and while no play has its flow stored, the shared id is zero. -/
theorem cut_short_iff_stopped_once (run : Run (calls config plays) answers {} history s) :
    (∀ flow, (moments history).count (.ordered flow) ≤ 1) ∧
    (∀ play flow, .given play flow ∈ moments history → Closed s.shared (moments history) play →
      (CutShort (moments history) play → (moments history).count (.ordered flow) = 1) ∧
      (¬ CutShort (moments history) play → (moments history).count (.ordered flow) = 0)) ∧
    (∀ flow, .ordered flow ∈ moments history → ∃ play, .given play flow ∈ moments history) ∧
    ((∀ play, .stored play ∈ moments history → .cleared play ∈ moments history) → s.shared.flow = 0) := by
  obtain ⟨φ, held⟩ := run_inv run
  have inv : Inv _ _ _ _ _ _ := held
  refine ⟨inv.at_most_once, ?_, ?_, inv.flow_zero⟩
  · intro play flow given closed
    exact inv.closed given closed
  · intro flow ordered
    exact inv.ids.ordered ordered

/-- One frame of one second, played again and again. -/
def ticks : Nat → Track × PlaySettings := fun _ => (⟨16, 1, 1, [0]⟩, {})

/-- A stop comes between the id's arrival and its storing: it finds nothing to stop, and the play orders the
    flow to be stopped. -/
theorem run_stopped_before_stored :
    ∃ history s, Run (calls { server := default } ticks) answers {} history s ∧ moments history =
      [.reset 0, .given 0 7, .locked ⟨0, 0⟩, .cancelled ⟨0, 0⟩, .refused 0, .ordered 7, .cleared 0,
        .returned 0] := by
  have run : Run (calls { server := default } ticks) answers {} [] _ := .start
  replace run := run.ask .player rfl () rfl
  replace run := run.ask .player rfl 1 rfl
  replace run := run.ask .player rfl true ⟨rfl, rfl⟩
  replace run := run.ask .player rfl (.answered (.ok 7)) (.started (by decide) List.not_mem_nil)
  replace run := run.ask .player rfl () rfl
  replace run := run.ask (.stopper 0) rfl 0 ⟨rfl, rfl, rfl⟩
  replace run := run.ask (.stopper 0) rfl () rfl
  replace run := run.ask (.stopper 0) rfl () rfl
  replace run := run.ask .player rfl 0 ⟨rfl, rfl, rfl⟩
  replace run := run.ask .player rfl true ⟨rfl, rfl⟩
  replace run := run.ask .player rfl 2 rfl
  replace run := run.ask .player rfl true ⟨rfl, rfl⟩
  replace run := run.ask .player rfl () rfl
  exact ⟨_, _, run.finish .player rfl, rfl⟩

/-- Its flow is ordered to be stopped, and only once. -/
theorem stopped_before_stored :
    ∃ history s, Run (calls { server := default } ticks) answers {} history s ∧
      .given 0 7 ∈ moments history ∧ CutShort (moments history) 0 ∧ (moments history).count (.ordered 7) = 1 := by
  obtain ⟨history, s, run, same⟩ := run_stopped_before_stored
  have given : .given 0 7 ∈ moments history := by simp [same]
  have returned : .returned 0 ∈ moments history := by simp [same]
  have cut : CutShort (moments history) 0 := by
    rw [same]
    exact ⟨⟨0, 0⟩, ⟨[.reset 0, .given 0 7], _, rfl, by simp [Ended]⟩,
      ⟨[.reset 0, .given 0 7, .locked ⟨0, 0⟩], _, rfl, List.mem_cons_self⟩⟩
  obtain ⟨once, _⟩ := (cut_short_iff_stopped_once run).2.1 0 7 given (Or.inl returned)
  exact ⟨history, s, run, given, cut, once cut⟩

end

end Playout.Flow.Stopping
