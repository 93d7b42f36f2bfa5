import Playout.Proofs.Flow.StopProtocol

/-!
# `Playout.Proofs.Flow.StopInvariant` — what playing and stopping keep

A stop can land before the flow is asked for, while its id is awaited, between the id's arrival and its
storing, during the wait, or between the end of the wait and the clearing of the id. The invariant says for
each of these phases whether the play has been cut short, and how often its flow has been ordered to be
stopped.

## Contents
- `cutShort_snoc`, … — how the list of moments may grow.
- `Locks`, `Ids`, `Stops`, `Plays` — the invariant: who holds the lock and what the id is then, whose the ids
  are, which stops are still in time, and how the account of each play stands.
- `Ids.snoc`, `Stops.snoc`, `Untouched.snoc`, `Settled.snoc`, `Plays.own` — what a moment leaves as it is.
-/

namespace Playout.Flow.Stopping

open Interleaving

variable {m : List Moment} {x y : Moment} {play i j : Nat} {stop : StopCall} {flow : UInt32}

/-! ## Moments in a list that grows -/

theorem happens_snoc {when : List Moment → Prop} :
    Happens when x (m ++ [y]) ↔ Happens when x m ∨ y = x ∧ when m := by
  constructor
  · rintro ⟨before, after, same, held⟩
    -- The new moment stands last: it is the one in question, or else the split is one of the old list.
    rcases List.eq_nil_or_concat after with rfl | ⟨rest, last, rfl⟩
    · obtain ⟨rfl, sameLast⟩ := List.append_inj' same rfl
      exact Or.inr ⟨(List.cons.inj sameLast).1, held⟩
    · rw [List.concat_eq_append, ← List.cons_append, ← List.append_assoc] at same
      exact Or.inl ⟨before, rest, (List.append_inj' same rfl).1, held⟩
  · rintro (⟨before, after, rfl, held⟩ | ⟨rfl, held⟩)
    · exact ⟨before, after ++ [y], by rw [List.append_assoc, List.cons_append], held⟩
    · exact ⟨m, [], rfl, held⟩

theorem mem_of_happens {when : List Moment → Prop} (h : Happens when x m) : x ∈ m := by
  obtain ⟨before, after, rfl, _⟩ := h
  exact List.mem_append_right _ List.mem_cons_self

theorem ended_snoc : Ended (m ++ [y]) play ↔ Ended m play ∨ y = .refused play ∨ y = .cleared play := by
  simp only [Ended, List.mem_append, List.mem_singleton, eq_comm (b := y)]
  exact or_or_or_comm

/-- The stop took the lock before the play had ended. -/
def InTime (m : List Moment) (stop : StopCall) (play : Nat) : Prop :=
  Happens (fun before => ¬ Ended before play) (.locked stop) m

theorem inTime_snoc : InTime (m ++ [y]) stop play ↔ InTime m stop play ∨ y = .locked stop ∧ ¬ Ended m play :=
  happens_snoc

/-- Only a stop that takes the lock or sets the signal can change what is cut short. -/
theorem cutShort_snoc (notLocked : ∀ stop, y ≠ .locked stop) (notCancelled : ∀ stop, y ≠ .cancelled stop) :
    CutShort (m ++ [y]) play ↔ CutShort m play := by
  simp only [CutShort, Reaches, happens_snoc, notLocked, notCancelled, false_and, or_false]

/-- Taking the lock changes nothing yet. -/
theorem cutShort_snoc_locked (unset : .cancelled stop ∉ m) :
    CutShort (m ++ [.locked stop]) play ↔ CutShort m play := by
  -- A stop sets the signal after it has taken the lock, so this one has not set it yet.
  have none {other : StopCall} (h : Moment.locked stop = .locked other) :
      ¬ Happens (fun before => .reset play ∈ before) (.cancelled other) m := by
    cases h
    exact fun happens => unset (mem_of_happens happens)
  simp only [CutShort, Reaches, happens_snoc, reduceCtorEq, false_and, or_false]
  constructor
  · rintro ⟨other, inTime | ⟨same, _⟩, after⟩
    · exact ⟨other, inTime, after⟩
    · exact absurd after (none same)
  · rintro ⟨other, inTime, after⟩
    exact ⟨other, Or.inl inTime, after⟩

/-- Setting the signal cuts a play short whose signal has been taken back, if the lock was taken in time. -/
theorem cutShort_snoc_cancelled :
    CutShort (m ++ [.cancelled stop]) play ↔
      CutShort m play ∨ InTime m stop play ∧ .reset play ∈ m := by
  simp only [CutShort, Reaches, happens_snoc, reduceCtorEq, false_and, or_false, InTime]
  constructor
  · rintro ⟨other, inTime, after | ⟨same, after⟩⟩
    · exact Or.inl ⟨other, inTime, after⟩
    · cases same
      exact Or.inr ⟨inTime, after⟩
  · rintro (⟨other, inTime, after⟩ | ⟨inTime, after⟩)
    · exact ⟨other, inTime, Or.inl after⟩
    · exact ⟨stop, inTime, Or.inr ⟨rfl, after⟩⟩

theorem not_cutShort_of_not_reset (h : .reset play ∉ m) : ¬ CutShort m play := by
  rintro ⟨stop, _, before, after, rfl, reset⟩
  exact h (List.mem_append_left _ reset)

/-! ## The invariant -/

/-- Whether a play has the lock in this phase. -/
def PlayPhase.Holds : PlayPhase → Prop
  | .looking _ _ | .refusing _ _ | .refused _ _ | .storing _ | .clearing _ => True
  | .entered | .asking | .given _ | .playing _ | .finished => False

/-- Whether a stop has the lock in this phase. -/
def StopPhase.Holds : StopPhase → Prop
  | .locked _ | .ordered | .cancelled => True
  | .entered | .finished => False

/-- What the shared id can be in each phase of the play. -/
def PlayPhase.Allows (current : UInt32) : PlayPhase → Prop
  | .playing flow | .clearing flow => current = flow ∨ current = 0
  | .looking _ seen | .refusing _ seen | .refused _ seen => current = 0 ∧ seen = 0
  | .entered | .asking | .given _ | .storing _ | .finished => current = 0

/-- Who holds the lock, and what is known of the id. -/
structure Locks (s : Shared) (p : PlayPhase) (q : Nat → StopPhase) : Prop where
  player : p.Holds ↔ s.holder = some .player
  stopper : ∀ k, (q k).Holds ↔ s.holder = some (.stopper k)
  looked : ∀ k current, q k = .locked current → current = s.flow
  allowed : p.Allows s.flow

/-- Whose the flows are, and that no others are ordered to be stopped. -/
structure Ids (s : Shared) (m : List Moment) : Prop where
  assigned : ∀ flow, flow ∈ s.assigned ↔ ∃ play, .given play flow ∈ m
  owner : ∀ {flow i j}, .given i flow ∈ m → .given j flow ∈ m → i = j
  nonzero : ∀ {flow play}, .given play flow ∈ m → flow ≠ 0
  ordered : ∀ {flow}, .ordered flow ∈ m → ∃ play, .given play flow ∈ m

/-- Which calls to stop have done nothing yet, and that a stop with the lock is in time for the plays that have
    not ended. -/
structure Stops (c : Nat → Nat) (q : Nat → StopPhase) (m : List Moment) : Prop where
  later : ∀ k n, c k < n ∨ n = c k ∧ q k = .entered → .locked ⟨k, n⟩ ∉ m ∧ .cancelled ⟨k, n⟩ ∉ m
  inTime : ∀ k, (q k).Holds → ∀ play, InTime m ⟨k, c k⟩ play ↔ ¬ Ended m play

/-- Nothing of the play has happened. -/
def Untouched (m : List Moment) (play : Nat) : Prop :=
  .reset play ∉ m ∧ (∀ flow, .given play flow ∉ m) ∧ ¬ Ended m play ∧ .stored play ∉ m

/-- The account of a play that is over. -/
def Settled (m : List Moment) (play : Nat) : Prop :=
  (.stored play ∈ m → .cleared play ∈ m) ∧
  ∀ flow, .given play flow ∈ m → Ended m play ∧
    (CutShort m play → m.count (.ordered flow) = 1) ∧ (¬ CutShort m play → m.count (.ordered flow) = 0)

/-- The play has been handed this flow, and no other. -/
def Owns (m : List Moment) (play : Nat) (flow : UInt32) : Prop := ∀ f, .given play f ∈ m ↔ f = flow

/-- The play is on its way: the signal tells whether it has been cut short. -/
structure Begun (s : Shared) (m : List Moment) (play : Nat) : Prop where
  reset : .reset play ∈ m
  going : ¬ Ended m play
  unstored : .stored play ∉ m
  signal : s.done.cancelled = true ↔ CutShort m play

/-- The play returns early, and has or has not ordered its flow to be stopped. -/
structure Leaving (m : List Moment) (play : Nat) (flow : UInt32) (orders : Nat) : Prop where
  owns : Owns m play flow
  ended : Ended m play
  uncleared : .cleared play ∉ m
  unstored : .stored play ∉ m
  cut : CutShort m play
  count : m.count (.ordered flow) = orders

/-- The id of the playing flow has been found by a stop. -/
def Spent (s : Shared) (q : Nat → StopPhase) : Prop := s.flow = 0 ∨ ∃ k, q k = .ordered ∨ q k = .cancelled

/-- The flow is playing: a stop that finds its id orders it to be stopped, sets the signal and clears the id. -/
structure Sounding (s : Shared) (q : Nat → StopPhase) (m : List Moment) (play : Nat) (flow : UInt32) : Prop where
  owns : Owns m play flow
  reset : .reset play ∈ m
  going : ¬ Ended m play
  stored : .stored play ∈ m
  once : Spent s q → m.count (.ordered flow) = 1
  never : ¬ Spent s q → m.count (.ordered flow) = 0
  cut : CutShort m play ↔ s.flow = 0 ∨ ∃ k, q k = .cancelled

/-- How the account of the present play stands. -/
def Standing (s : Shared) (q : Nat → StopPhase) (m : List Moment) (play : Nat) : PlayPhase → Prop
  | .entered => Untouched m play
  | .asking => Begun s m play ∧ ∀ flow, .given play flow ∉ m
  | .given flow | .looking flow _ => Begun s m play ∧ Owns m play flow ∧ m.count (.ordered flow) = 0
  | .refusing flow _ => Leaving m play flow 0
  | .refused flow _ => Leaving m play flow 1
  | .storing flow =>
    Owns m play flow ∧ .reset play ∈ m ∧ ¬ Ended m play ∧ .stored play ∉ m ∧ ¬ CutShort m play ∧
      m.count (.ordered flow) = 0
  | .playing flow | .clearing flow => Sounding s q m play flow
  | .finished => Settled m play

/-- The accounts of all plays, of which `i` is the present one. -/
structure Plays (s : Shared) (q : Nat → StopPhase) (m : List Moment) (i : Nat) (p : PlayPhase) : Prop where
  future : ∀ j, i < j → Untouched m j
  returned : ∀ j, .returned j ∈ m → j < i
  past : ∀ j, j < i → Settled m j
  present : Standing s q m i p

/-- The whole invariant. -/
structure Inv (s : Shared) (i : Nat) (c : Nat → Nat) (p : PlayPhase) (q : Nat → StopPhase)
    (m : List Moment) : Prop where
  locks : Locks s p q
  ids : Ids s m
  stops : Stops c q m
  plays : Plays s q m i p

/-! ## The start -/

theorem inv_start : Inv {} 0 (fun _ => 0) .entered (fun _ => .entered) [] where
  locks :=
    { player := by simp [PlayPhase.Holds]
      stopper := by simp [StopPhase.Holds]
      looked := nofun
      allowed := rfl }
  ids :=
    { assigned := by simp
      owner := nofun
      nonzero := nofun
      ordered := nofun }
  stops :=
    { later := fun _ _ _ => ⟨List.not_mem_nil, List.not_mem_nil⟩
      inTime := nofun }
  plays :=
    { future := fun j _ => by simp [Untouched, Ended]
      returned := nofun
      past := nofun
      present := by simp [Standing, Untouched, Ended] }

/-! ## What a moment leaves as it is -/

theorem Ids.snoc {s : Shared} (h : Ids s m) (notGiven : ∀ play flow, y ≠ .given play flow)
    (notOrdered : ∀ flow, y ≠ .ordered flow) : Ids s (m ++ [y]) := by
  have given {play flow} : .given play flow ∈ m ++ [y] ↔ .given play flow ∈ m := by
    simp [(notGiven play flow).symm]
  constructor
  · intro flow
    simp only [given, h.assigned]
  · intro flow i j first second
    exact h.owner (given.mp first) (given.mp second)
  · intro flow play here
    exact h.nonzero (given.mp here)
  · intro flow here
    simp only [List.mem_append, List.mem_singleton, (notOrdered flow).symm, or_false] at here
    simp only [given]
    exact h.ordered here

/-- Only the assigned ids of the shared state matter. -/
theorem Ids.of_assigned {s s' : Shared} (h : Ids s m) (same : s'.assigned = s.assigned) : Ids s' m := by
  constructor
  · rw [same]
    exact h.assigned
  · exact h.owner
  · exact h.nonzero
  · exact h.ordered

theorem Stops.snoc {c : Nat → Nat} {q : Nat → StopPhase} (h : Stops c q m)
    (notLocked : ∀ stop, y ≠ .locked stop) (notCancelled : ∀ stop, y ≠ .cancelled stop)
    (notEnding : (∃ k, (q k).Holds) → ∀ play, y ≠ .refused play ∧ y ≠ .cleared play) :
    Stops c q (m ++ [y]) := by
  constructor
  · intro k n idle
    have := h.later k n idle
    simp [this.1, this.2, (notLocked _).symm, (notCancelled _).symm]
  · intro k holds play
    have going := notEnding ⟨k, holds⟩ play
    simp only [inTime_snoc, ended_snoc, h.inTime k holds play, notLocked, going.1, going.2, false_and, or_false]

/-- The play whose account a moment belongs to. -/
def Moment.play? : Moment → Option Nat
  | reset play | given play _ | refused play | stored play | cleared play => some play
  | locked _ | cancelled _ | ordered _ | returned _ => none

theorem play?_ne (other : y.play? = none) (j : Nat) : y.play? ≠ some j := by
  rw [other]
  exact (Option.some_ne_none j).symm

/-- A moment of no concern to a play of which nothing has happened. -/
theorem Untouched.snoc (h : Untouched m j) (other : y.play? ≠ some j) : Untouched (m ++ [y]) j := by
  obtain ⟨reset, given, going, stored⟩ := h
  refine ⟨?_, ?_, ?_, ?_⟩
  · rw [List.mem_append, List.mem_singleton]
    rintro (before | rfl)
    · exact reset before
    · exact other rfl
  · intro flow
    rw [List.mem_append, List.mem_singleton]
    rintro (before | rfl)
    · exact given flow before
    · exact other rfl
  · rw [ended_snoc]
    rintro (before | rfl | rfl)
    · exact going before
    · exact other rfl
    · exact other rfl
  · rw [List.mem_append, List.mem_singleton]
    rintro (before | rfl)
    · exact stored before
    · exact other rfl

theorem count_ordered_snoc (h : y ≠ .ordered flow) :
    (m ++ [y]).count (.ordered flow) = m.count (.ordered flow) := by
  rw [List.count_append, List.count_singleton, if_neg (by simpa using h), Nat.add_zero]

/-- A moment of no concern to a play that is over. -/
theorem Settled.snoc (h : Settled m j) (other : y.play? ≠ some j)
    (cut : Ended m j → (CutShort (m ++ [y]) j ↔ CutShort m j))
    (notOrdered : ∀ flow, .given j flow ∈ m → y ≠ .ordered flow) : Settled (m ++ [y]) j := by
  refine ⟨?_, ?_⟩
  · intro stored
    rw [List.mem_append, List.mem_singleton] at stored
    rcases stored with before | rfl
    · exact List.mem_append_left _ (h.1 before)
    · exact absurd rfl other
  · intro flow given
    rw [List.mem_append, List.mem_singleton] at given
    rcases given with before | rfl
    · obtain ⟨ended, once, never⟩ := h.2 flow before
      rw [cut ended, count_ordered_snoc (notOrdered flow before)]
      exact ⟨ended_snoc.mpr (Or.inl ended), once, never⟩
    · exact absurd rfl other

/-- A moment of the present play leaves all other accounts as they are. -/
theorem Plays.own {s s' : Shared} {q : Nat → StopPhase} {p p' : PlayPhase} (h : Plays s q m i p)
    (own : y.play? = some i) (present : Standing s' q (m ++ [y]) i p') : Plays s' q (m ++ [y]) i p' := by
  have notLocked (stop : StopCall) : y ≠ .locked stop := by rintro rfl; cases own
  have notCancelled (stop : StopCall) : y ≠ .cancelled stop := by rintro rfl; cases own
  have notOrdered (flow : UInt32) : y ≠ .ordered flow := by rintro rfl; cases own
  have other {j : Nat} (different : j ≠ i) : y.play? ≠ some j := by
    rw [own]
    exact fun same => different (Option.some.inj same).symm
  constructor
  · intro j later
    exact (h.future j later).snoc (other (by omega))
  · intro j returned
    rw [List.mem_append, List.mem_singleton] at returned
    rcases returned with before | rfl
    · exact h.returned j before
    · cases own
  · intro j earlier
    exact (h.past j earlier).snoc (other (by omega)) (fun _ => cutShort_snoc notLocked notCancelled)
      fun flow _ => notOrdered flow
  · exact present

end Playout.Flow.Stopping
