import Playout.Proofs.Flow.StopInvariant

/-!
# `Playout.Proofs.Flow.StopSteps` — every move of a play and of a stop keeps the invariant

## Contents
- `Locks.take`, `Locks.give` — the play takes the lock and gives it back.
- `Inv.reset`, … — every move of a play keeps the invariant.
- `Locks.change`, `Stops.change` — a stop goes on while it has the lock.
- `Inv.stopLock`, … — every move of a stop keeps the invariant.
-/

namespace Playout.Flow.Stopping

variable {m : List Moment} {y : Moment} {play i j : Nat} {flow : UInt32}

/-! ## The moves of a play -/

variable {s : Shared} {c : Nat → Nat} {q : Nat → StopPhase}

/-- The play takes the lock. -/
theorem Locks.take {p p' : PlayPhase} (h : Locks s p q) (free : s.holder = none) (holds : p'.Holds)
    (allowed : p'.Allows s.flow) : Locks { s with holder := some .player } p' q := by
  constructor
  · exact ⟨fun _ => rfl, fun _ => holds⟩
  · intro k
    rw [h.stopper k, free]
    simp
  · exact h.looked
  · exact allowed

/-- While the play holds the lock, no stop does. -/
theorem Locks.alone {p : PlayPhase} (h : Locks s p q) (holds : p.Holds) (k : Nat) : ¬ (q k).Holds := by
  rw [h.stopper k, h.player.mp holds]
  simp

theorem Locks.unspent {s' : Shared} {p : PlayPhase} (h : Locks s p q) (holds : p.Holds)
    (nonzero : s'.flow ≠ 0) : ¬ Spent s' q := by
  rintro (zero | ⟨k, ordered | cancelled⟩)
  · exact nonzero zero
  · exact h.alone holds k (by rw [ordered]; trivial)
  · exact h.alone holds k (by rw [cancelled]; trivial)

/-- The play stores an id, or clears it, and gives the lock back. -/
theorem Locks.give {p p' : PlayPhase} (h : Locks s p q) (holds : p.Holds) (idle : ¬ p'.Holds)
    (allowed : p'.Allows flow) : Locks { s with flow, holder := none } p' q := by
  have alone := h.alone holds
  constructor
  · simp [idle]
  · intro k
    simp [alone k]
  · intro k current locked
    exact absurd (by rw [locked]; trivial) (alone k)
  · exact allowed

theorem Inv.reset (h : Inv s i c .entered q m) :
    Inv { s with done := s.done.reset } i c .asking q (m ++ [.reset i]) where
  locks := ⟨h.locks.player, h.locks.stopper, h.locks.looked, h.locks.allowed⟩
  ids := (h.ids.snoc (y := .reset i) nofun nofun).of_assigned rfl
  stops := h.stops.snoc nofun nofun fun _ _ => ⟨nofun, nofun⟩
  plays := by
    obtain ⟨reset, given, going, stored⟩ := h.plays.present
    refine h.plays.own rfl ⟨?_, ?_⟩
    · constructor
      · exact List.mem_append_right _ List.mem_cons_self
      · simpa [ended_snoc] using going
      · simpa using stored
      · rw [cutShort_snoc (y := .reset i) nofun nofun]
        exact ⟨nofun, fun cut => absurd cut (not_cutShort_of_not_reset reset)⟩
    · intro flow
      simpa using given flow

theorem Inv.give (h : Inv s i c .asking q m) (nonzero : flow ≠ 0) (fresh : flow ∉ s.assigned) :
    Inv { s with assigned := flow :: s.assigned } i c (.given flow) q (m ++ [.given i flow]) where
  locks := ⟨h.locks.player, h.locks.stopper, h.locks.looked, h.locks.allowed⟩
  ids := by
    -- The server assigns no id twice: no play has been handed this one before.
    have unknown (play : Nat) : .given play flow ∉ m :=
      fun given => fresh ((h.ids.assigned flow).mpr ⟨play, given⟩)
    constructor
    · intro other
      simp only [List.mem_cons, h.ids.assigned, List.mem_append, List.not_mem_nil, or_false,
        Moment.given.injEq]
      constructor
      · rintro (rfl | ⟨play, given⟩)
        · exact ⟨i, Or.inr ⟨rfl, rfl⟩⟩
        · exact ⟨play, Or.inl given⟩
      · rintro ⟨play, given | ⟨_, same⟩⟩
        · exact Or.inr ⟨play, given⟩
        · exact Or.inl same
    · intro other first second one two
      simp only [List.mem_append, List.mem_singleton, Moment.given.injEq] at one two
      rcases one with one | ⟨rfl, rfl⟩ <;> rcases two with two | ⟨rfl, same⟩
      · exact h.ids.owner one two
      · exact absurd (same ▸ one) (unknown _)
      · exact absurd two (unknown _)
      · rfl
    · intro other play given
      simp only [List.mem_append, List.mem_singleton, Moment.given.injEq] at given
      rcases given with given | ⟨_, rfl⟩
      · exact h.ids.nonzero given
      · exact nonzero
    · intro other ordered
      simp only [List.mem_append, List.mem_singleton, reduceCtorEq, or_false] at ordered
      obtain ⟨play, given⟩ := h.ids.ordered ordered
      exact ⟨play, List.mem_append_left _ given⟩
  stops := h.stops.snoc nofun nofun fun _ _ => ⟨nofun, nofun⟩
  plays := by
    obtain ⟨begun, none⟩ := h.plays.present
    refine h.plays.own rfl ⟨?_, ?_, ?_⟩
    · constructor
      · exact List.mem_append_left _ begun.reset
      · simpa [ended_snoc] using begun.going
      · simpa using begun.unstored
      · rw [cutShort_snoc (y := .given i flow) nofun nofun]
        exact begun.signal
    · intro other
      simp [none other]
    · rw [count_ordered_snoc (y := .given i flow) nofun, List.count_eq_zero]
      intro ordered
      obtain ⟨play, given⟩ := h.ids.ordered ordered
      exact fresh ((h.ids.assigned flow).mpr ⟨play, given⟩)

theorem Inv.lock (h : Inv s i c (.given flow) q m) (free : s.holder = none) :
    Inv { s with holder := some .player } i c (.looking flow s.flow) q m where
  locks := h.locks.take free trivial ⟨h.locks.allowed, h.locks.allowed⟩
  ids := h.ids.of_assigned rfl
  stops := h.stops
  plays := by
    obtain ⟨begun, owns, count⟩ := h.plays.present
    exact ⟨h.plays.future, h.plays.returned, h.plays.past,
      ⟨begun.reset, begun.going, begun.unstored, begun.signal⟩, owns, count⟩

theorem Inv.refuse {seen : UInt32} (h : Inv s i c (.looking flow seen) q m) (set : s.done.cancelled = true) :
    Inv s i c (.refusing flow seen) q (m ++ [.refused i]) where
  locks := ⟨h.locks.player, h.locks.stopper, h.locks.looked, h.locks.allowed⟩
  ids := h.ids.snoc nofun nofun
  stops := h.stops.snoc nofun nofun fun ⟨k, holds⟩ => absurd holds (h.locks.alone trivial k)
  plays := by
    obtain ⟨begun, owns, count⟩ := h.plays.present
    refine h.plays.own rfl ?_
    constructor
    · intro other
      simpa using owns other
    · exact ended_snoc.mpr (Or.inr (Or.inl rfl))
    · simpa using fun cleared => begun.going (Or.inr cleared)
    · simpa using begun.unstored
    · rw [cutShort_snoc (y := .refused i) nofun nofun]
      exact begun.signal.mp set
    · rw [count_ordered_snoc (y := .refused i) nofun, count]

theorem Inv.accept {seen : UInt32} (h : Inv s i c (.looking flow seen) q m)
    (unset : s.done.cancelled = false) : Inv s i c (.storing flow) q m where
  locks := ⟨h.locks.player, h.locks.stopper, h.locks.looked, h.locks.allowed.1⟩
  ids := h.ids
  stops := h.stops
  plays := by
    obtain ⟨begun, owns, count⟩ := h.plays.present
    refine ⟨h.plays.future, h.plays.returned, h.plays.past, owns, begun.reset, begun.going,
      begun.unstored, ?_, count⟩
    rw [← begun.signal, unset]
    exact Bool.false_ne_true

/-- Ordering the present play's flow to be stopped leaves the ids and the accounts of other plays as they are. -/
theorem Ids.order (h : Ids s m) (given : .given i flow ∈ m) : Ids s (m ++ [.ordered flow]) := by
  constructor
  · intro other
    simpa using h.assigned other
  · intro other first second one two
    exact h.owner (by simpa using one) (by simpa using two)
  · intro other play here
    exact h.nonzero (show .given play other ∈ m by simpa using here)
  · intro other ordered
    simp only [List.mem_append, List.mem_singleton, Moment.ordered.injEq] at ordered
    rcases ordered with ordered | rfl
    · obtain ⟨play, here⟩ := h.ordered ordered
      exact ⟨play, List.mem_append_left _ here⟩
    · exact ⟨i, List.mem_append_left _ given⟩

/-- A moment of no play leaves all accounts but the present one as they are. -/
theorem Plays.other {s' : Shared} {q' : Nat → StopPhase} {p p' : PlayPhase} (h : Plays s q m i p)
    (other : y.play? = none) (notReturned : ∀ j, y ≠ .returned j)
    (notOrdered : ∀ j flow, j < i → .given j flow ∈ m → y ≠ .ordered flow)
    (cut : ∀ j, Ended m j → (CutShort (m ++ [y]) j ↔ CutShort m j))
    (present : Standing s' q' (m ++ [y]) i p') : Plays s' q' (m ++ [y]) i p' := by
  constructor
  · intro j later
    exact (h.future j later).snoc (play?_ne other j)
  · intro j returned
    rw [List.mem_append, List.mem_singleton] at returned
    rcases returned with before | same
    · exact h.returned j before
    · exact absurd same.symm (notReturned j)
  · intro j earlier
    exact (h.past j earlier).snoc (play?_ne other j) (cut j) fun flow given => notOrdered j flow earlier given
  · exact present

theorem Plays.order {s' : Shared} {q' : Nat → StopPhase} {p p' : PlayPhase} (h : Plays s q m i p)
    (ids : Ids s m) (given : .given i flow ∈ m)
    (present : Standing s' q' (m ++ [.ordered flow]) i p') :
    Plays s' q' (m ++ [.ordered flow]) i p' := by
  refine h.other rfl nofun ?_ (fun _ _ => cutShort_snoc nofun nofun) present
  rintro j other earlier givenOther ⟨⟩
  exact absurd (ids.owner givenOther given) (Nat.ne_of_lt earlier)

theorem Inv.order {seen : UInt32} (h : Inv s i c (.refusing flow seen) q m) :
    Inv s i c (.refused flow seen) q (m ++ [.ordered flow]) := by
  have leaving : Leaving m i flow 0 := h.plays.present
  have given : .given i flow ∈ m := (leaving.owns flow).mpr rfl
  refine ⟨⟨h.locks.player, h.locks.stopper, h.locks.looked, h.locks.allowed⟩, h.ids.order given,
    h.stops.snoc nofun nofun fun _ _ => ⟨nofun, nofun⟩, h.plays.order h.ids given ?_⟩
  constructor
  · intro other
    simpa using leaving.owns other
  · exact ended_snoc.mpr (Or.inl leaving.ended)
  · simpa using leaving.uncleared
  · simpa using leaving.unstored
  · rw [cutShort_snoc (y := .ordered flow) nofun nofun]
    exact leaving.cut
  · simp [leaving.count]

theorem Inv.putBack {seen : UInt32} (h : Inv s i c (.refused flow seen) q m) :
    Inv { s with flow := 0, holder := none } i c .finished q (m ++ [.cleared i]) where
  locks := h.locks.give trivial id rfl
  ids := (h.ids.snoc (y := .cleared i) nofun nofun).of_assigned rfl
  stops := h.stops.snoc nofun nofun fun ⟨k, holds⟩ => absurd holds (h.locks.alone trivial k)
  plays := by
    have leaving : Leaving m i flow 1 := h.plays.present
    refine h.plays.own rfl ⟨?_, ?_⟩
    · exact fun _ => List.mem_append_right _ List.mem_cons_self
    · intro other given
      have same : other = flow := (leaving.owns other).mp (by simpa using given)
      subst same
      rw [cutShort_snoc (y := .cleared i) nofun nofun, count_ordered_snoc (y := .cleared i) nofun]
      exact ⟨ended_snoc.mpr (Or.inl leaving.ended), fun _ => leaving.count,
        fun uncut => absurd leaving.cut uncut⟩

theorem Inv.store (h : Inv s i c (.storing flow) q m) :
    Inv { s with flow, holder := none } i c (.playing flow) q (m ++ [.stored i]) where
  locks := h.locks.give trivial id (Or.inl rfl)
  ids := (h.ids.snoc (y := .stored i) nofun nofun).of_assigned rfl
  stops := h.stops.snoc nofun nofun fun _ _ => ⟨nofun, nofun⟩
  plays := by
    obtain ⟨owns, reset, going, unstored, uncut, count⟩ := h.plays.present
    have nonzero : flow ≠ 0 := h.ids.nonzero ((owns flow).mpr rfl)
    have unspent : ¬ Spent { s with flow, holder := none } q := h.locks.unspent trivial nonzero
    refine h.plays.own rfl ?_
    constructor
    · intro other
      simpa using owns other
    · exact List.mem_append_left _ reset
    · simpa [ended_snoc] using going
    · exact List.mem_append_right _ List.mem_cons_self
    · exact fun spent => absurd spent unspent
    · intro _
      rw [count_ordered_snoc (y := .stored i) nofun, count]
    · rw [cutShort_snoc (y := .stored i) nofun nofun]
      constructor
      · exact fun cut => absurd cut uncut
      · exact fun cut => absurd (cut.imp_right fun ⟨k, cancelled⟩ => ⟨k, Or.inr cancelled⟩) unspent

theorem Inv.lockAgain (h : Inv s i c (.playing flow) q m) (free : s.holder = none) :
    Inv { s with holder := some .player } i c (.clearing flow) q m where
  locks := h.locks.take free trivial h.locks.allowed
  ids := h.ids.of_assigned rfl
  stops := h.stops
  plays := by
    have sounding : Sounding s q m i flow := h.plays.present
    exact ⟨h.plays.future, h.plays.returned, h.plays.past, sounding.owns, sounding.reset, sounding.going,
      sounding.stored, sounding.once, sounding.never, sounding.cut⟩

theorem Inv.clear (h : Inv s i c (.clearing flow) q m) :
    Inv { s with flow := 0, holder := none } i c .finished q (m ++ [.cleared i]) where
  locks := h.locks.give trivial id rfl
  ids := (h.ids.snoc (y := .cleared i) nofun nofun).of_assigned rfl
  stops := h.stops.snoc nofun nofun fun ⟨k, holds⟩ => absurd holds (h.locks.alone trivial k)
  plays := by
    have sounding : Sounding s q m i flow := h.plays.present
    refine h.plays.own rfl ⟨?_, ?_⟩
    · exact fun _ => List.mem_append_right _ List.mem_cons_self
    · intro other given
      have same : other = flow := (sounding.owns other).mp (by simpa using given)
      subst same
      rw [cutShort_snoc (y := .cleared i) nofun nofun, count_ordered_snoc (y := .cleared i) nofun, sounding.cut]
      refine ⟨ended_snoc.mpr (Or.inr (Or.inr rfl)), ?_, ?_⟩
      · exact fun cut => sounding.once (cut.imp_right fun ⟨k, cancelled⟩ => ⟨k, Or.inr cancelled⟩)
      · exact fun uncut => sounding.never (h.locks.unspent trivial fun zero => uncut (Or.inl zero))

/-- A play returns where it never got a flow, or where it is over; the next one is about to begin. -/
theorem Inv.next {p : PlayPhase} {result : Except PlayError Unit} (h : Inv s i c p q m)
    (ends : PlayEnds p result) : Inv s (i + 1) c .entered q (m ++ [.returned i]) := by
  have settled : Settled m i ∧ s.flow = 0 ∧ ¬ p.Holds := by
    cases ends with
    | early =>
      obtain ⟨begun, none⟩ := h.plays.present
      exact ⟨⟨fun stored => absurd stored begun.unstored, fun flow given => absurd given (none flow)⟩,
        h.locks.allowed, id⟩
    | late => exact ⟨h.plays.present, h.locks.allowed, id⟩
  obtain ⟨account, zero, idle⟩ := settled
  refine ⟨⟨?_, h.locks.stopper, h.locks.looked, zero⟩, h.ids.snoc nofun nofun,
    h.stops.snoc nofun nofun fun _ _ => ⟨nofun, nofun⟩, ⟨?_, ?_, ?_, ?_⟩⟩
  · rw [← h.locks.player]
    exact ⟨False.elim, fun holds => absurd holds idle⟩
  · intro j later
    exact (h.plays.future j (by omega)).snoc (play?_ne rfl j)
  · intro j returned
    simp only [List.mem_append, List.mem_singleton, Moment.returned.injEq] at returned
    rcases returned with before | rfl
    · exact Nat.lt_succ_of_lt (h.plays.returned j before)
    · exact Nat.lt_succ_self j
  · intro j earlier
    have before : Settled m j := by
      rcases Nat.lt_succ_iff_lt_or_eq.mp earlier with earlier | rfl
      · exact h.plays.past j earlier
      · exact account
    exact before.snoc (play?_ne rfl j) (fun _ => cutShort_snoc nofun nofun) nofun
  · exact (h.plays.future (i + 1) (Nat.lt_succ_self i)).snoc (play?_ne rfl _)

/-! ## The moves of a stop -/

variable {p : PlayPhase} {k : Nat} {φ : StopPhase}

theorem exists_update {P : StopPhase → Prop} (before : ¬ P (q k)) (after : ¬ P φ) :
    (∃ l, P (Function.update q k φ l)) ↔ ∃ l, P (q l) := by
  refine exists_congr fun l => ?_
  by_cases same : l = k
  · subst same
    rw [Function.update_self]
    exact ⟨fun held => absurd held after, fun held => absurd held before⟩
  · rw [Function.update_of_ne same]

/-- A stop that has gone on is not about to begin: what is said of untouched calls held before. -/
theorem untouched_of_update {l n : Nat} (h : c l < n ∨ n = c l ∧ Function.update q k φ l = .entered)
    (begun : φ ≠ .entered) : c l < n ∨ n = c l ∧ q l = .entered := by
  refine h.imp_right fun ⟨same, phase⟩ => ⟨same, ?_⟩
  by_cases here : l = k
  · subst here
    rw [Function.update_self] at phase
    exact absurd phase begun
  · rwa [Function.update_of_ne here] at phase

/-- What a stop has looked at is still the id if the stop that goes on has just looked. -/
theorem looked_of_update (h : ∀ l current, q l = .locked current → current = s.flow)
    (here : ∀ current, φ = .locked current → current = s.flow) :
    ∀ l current, Function.update q k φ l = .locked current → current = s.flow := by
  intro l current locked
  by_cases same : l = k
  · subst same
    rw [Function.update_self] at locked
    exact here current locked
  · rw [Function.update_of_ne same] at locked
    exact h l current locked

theorem Owns.snoc (h : Owns m i flow) (other : y.play? = none) : Owns (m ++ [y]) i flow := by
  intro f
  rw [← h f, List.mem_append, List.mem_singleton, or_iff_left]
  rintro rfl
  cases other

theorem ended_snoc_other (other : y.play? = none) : Ended (m ++ [y]) play ↔ Ended m play := by
  rw [ended_snoc, or_iff_left]
  rintro (rfl | rfl) <;> cases other

theorem Begun.snoc {s' : Shared} (h : Begun s m i) (other : y.play? = none)
    (signal : s'.done.cancelled = true ↔ CutShort (m ++ [y]) i) : Begun s' (m ++ [y]) i := by
  constructor
  · exact List.mem_append_left _ h.reset
  · rw [ended_snoc_other other]
    exact h.going
  · rw [List.mem_append, List.mem_singleton]
    rintro (stored | rfl)
    · exact h.unstored stored
    · cases other
  · exact signal

/-- The playing flow's account, when no flow is ordered to be stopped. -/
theorem Sounding.snoc {s' : Shared} {q' : Nat → StopPhase} (h : Sounding s q m i flow)
    (other : y.play? = none) (notOrdered : ∀ flow, y ≠ .ordered flow) (spent : Spent s' q' ↔ Spent s q)
    (cut : CutShort (m ++ [y]) i ↔ s'.flow = 0 ∨ ∃ k, q' k = .cancelled) :
    Sounding s' q' (m ++ [y]) i flow := by
  constructor
  · exact h.owns.snoc other
  · exact List.mem_append_left _ h.reset
  · rw [ended_snoc_other other]
    exact h.going
  · exact List.mem_append_left _ h.stored
  · rw [spent, count_ordered_snoc (notOrdered flow)]
    exact h.once
  · rw [spent, count_ordered_snoc (notOrdered flow)]
    exact h.never
  · exact cut

/-- A stop goes on while it has the lock. -/
theorem Stops.change (h : Stops c q m) (holds : (q k).Holds) (still : φ.Holds) :
    Stops c (Function.update q k φ) m := by
  constructor
  · intro l n untouched
    refine h.later l n (untouched_of_update untouched ?_)
    rintro rfl
    exact still
  · intro l held
    by_cases here : l = k
    · subst here
      exact h.inTime l holds
    · rw [Function.update_of_ne here] at held
      exact h.inTime l held

/-- A stop alone has the lock: no other stop is between taking and giving it. -/
theorem Locks.only (h : Locks s p q) (holds : (q k).Holds) {l : Nat} (other : (q l).Holds) : l = k := by
  have one := (h.stopper k).mp holds
  have two := (h.stopper l).mp other
  rw [one] at two
  cases two
  rfl

/-- A stop goes on while it has the lock. -/
theorem Locks.change (h : Locks s p q) (holds : (q k).Holds) (still : φ.Holds)
    (looked : ∀ current, φ ≠ .locked current) : Locks s p (Function.update q k φ) := by
  constructor
  · exact h.player
  · intro l
    rw [← h.stopper l]
    by_cases same : l = k
    · subst same
      rw [Function.update_self]
      exact ⟨fun _ => holds, fun _ => still⟩
    · rw [Function.update_of_ne same]
  · exact looked_of_update h.looked fun current same => absurd same (looked current)
  · exact h.allowed

theorem Locks.idle (h : Locks s p q) (holds : (q k).Holds) : ¬ p.Holds := by
  rw [h.player, (h.stopper k).mp holds]
  simp

/-- While a stop has the lock, an id that is not zero is that of the play that is waiting. -/
theorem Locks.playing (h : Locks s p q) (holds : (q k).Holds) (nonzero : s.flow ≠ 0) :
    p = .playing s.flow := by
  have idle := h.idle holds
  have allowed := h.allowed
  cases p with
  | playing flow =>
    rcases allowed with same | zero
    · rw [same]
    · exact absurd zero nonzero
  | entered | asking | given | finished => exact absurd allowed nonzero
  | looking | refusing | refused | storing | clearing => exact absurd trivial idle

/-- A stop takes the lock, and looks at the id. -/
theorem Locks.enter (h : Locks s p q) (free : s.holder = none) :
    Locks { s with holder := some (.stopper k) } p (Function.update q k (.locked s.flow)) := by
  have idle : ¬ p.Holds := by
    rw [h.player, free]
    exact (Option.some_ne_none _).symm
  have nobody (l : Nat) : ¬ (q l).Holds := by
    rw [h.stopper, free]
    exact (Option.some_ne_none _).symm
  constructor
  · simp [idle]
  · intro l
    by_cases same : l = k
    · subst same
      rw [Function.update_self]
      exact ⟨fun _ => rfl, fun _ => trivial⟩
    · rw [Function.update_of_ne same]
      simp [nobody l, Ne.symm same]
  · refine looked_of_update h.looked ?_
    rintro current ⟨⟩
    rfl
  · exact h.allowed

theorem Inv.stopLock (h : Inv s i c p q m) (entered : q k = .entered) (free : s.holder = none) :
    Inv { s with holder := some (.stopper k) } i c p (Function.update q k (.locked s.flow))
      (m ++ [.locked ⟨k, c k⟩]) := by
  have idle : ¬ p.Holds := by rw [h.locks.player, free]; nofun
  have nobody (l : Nat) : ¬ (q l).Holds := by rw [h.locks.stopper, free]; nofun
  obtain ⟨unlocked, unset⟩ := h.stops.later k (c k) (Or.inr ⟨rfl, entered⟩)
  have cut (j : Nat) : CutShort (m ++ [.locked ⟨k, c k⟩]) j ↔ CutShort m j := cutShort_snoc_locked unset
  refine ⟨h.locks.enter free, ?_, ⟨?_, ?_⟩, h.plays.other rfl nofun nofun (fun j _ => cut j) ?_⟩
  · exact (h.ids.snoc (y := .locked ⟨k, c k⟩) nofun nofun).of_assigned rfl
  · intro l n untouched
    have apart : Moment.locked ⟨l, n⟩ ≠ .locked ⟨k, c k⟩ := by
      intro same
      cases same
      rcases untouched with later | ⟨_, phase⟩
      · exact absurd later (Nat.lt_irrefl _)
      · rw [Function.update_self] at phase
        cases phase
    have none := h.stops.later l n (untouched_of_update (k := k) untouched nofun)
    simp [none.1, none.2, show ¬ (l = k ∧ n = c k) by simpa using apart]
  · intro l holds play
    by_cases same : l = k
    · subst same
      have fresh : ¬ InTime m ⟨l, c l⟩ play := fun happens => unlocked (mem_of_happens happens)
      -- A stop that takes the lock now is in time for all plays that have not ended.
      rw [inTime_snoc, ended_snoc_other rfl]
      simp only [fresh, true_and, false_or]
    · rw [Function.update_of_ne same] at holds
      exact absurd holds (nobody l)
  · have present := h.plays.present
    cases p with
    | entered => exact present.snoc (play?_ne rfl i)
    | asking => exact ⟨present.1.snoc rfl (by rw [cut]; exact present.1.signal), fun f => by simp [present.2 f]⟩
    | given flow =>
      refine ⟨present.1.snoc rfl (by rw [cut]; exact present.1.signal), present.2.1.snoc rfl, ?_⟩
      have apart : Moment.locked ⟨k, c k⟩ ≠ .ordered flow := nofun
      rw [count_ordered_snoc apart, present.2.2]
    | finished => exact present.snoc (play?_ne rfl i) (fun _ => cut i) nofun
    | playing flow =>
      have sounding : Sounding s q m i flow := present
      refine sounding.snoc rfl nofun ?_ ?_
      · exact or_congr_right (exists_update (P := fun φ => φ = .ordered ∨ φ = .cancelled)
          (by simp [entered]) (by simp))
      · rw [cut, sounding.cut]
        exact or_congr_right (exists_update (P := (· = .cancelled)) (by simp [entered]) (by simp)).symm
    | looking | refusing | refused | storing | clearing => exact absurd trivial idle

/-- Only the present play's flow can be found by a stop. -/
theorem Inv.stopOrder {current : UInt32} (h : Inv s i c p q m) (locked : q k = .locked current)
    (nonzero : current ≠ 0) :
    Inv s i c p (Function.update q k .ordered) (m ++ [.ordered current]) := by
  have holds : (q k).Holds := by rw [locked]; trivial
  have found : current = s.flow := h.locks.looked k current locked
  subst found
  have waiting := h.locks.playing holds nonzero
  subst waiting
  have sounding : Sounding s q m i s.flow := h.plays.present
  have given : .given i s.flow ∈ m := (sounding.owns s.flow).mpr rfl
  have alone {l : Nat} (other : l ≠ k) : ¬ (q l).Holds := fun held => other (h.locks.only holds held)
  refine ⟨h.locks.change holds trivial nofun, h.ids.order given, ?_,
    h.plays.order h.ids given ⟨?_, ?_, ?_, ?_, ?_, ?_, ?_⟩⟩
  · exact (h.stops.change (φ := .ordered) holds trivial).snoc nofun nofun fun _ _ => ⟨nofun, nofun⟩
  · exact sounding.owns.snoc rfl
  · exact List.mem_append_left _ sounding.reset
  · rw [ended_snoc_other rfl]
    exact sounding.going
  · exact List.mem_append_left _ sounding.stored
  · intro _
    -- No other stop has the lock, and this one has only looked at the id: nobody has found the flow before.
    have unspent : ¬ Spent s q := by
      rintro (zero | ⟨l, spent⟩)
      · exact nonzero zero
      · by_cases same : l = k
        · subst same
          rw [locked] at spent
          rcases spent with spent | spent <;> cases spent
        · refine alone same ?_
          rcases spent with spent | spent <;> rw [spent] <;> trivial
    simp [sounding.never unspent]
  · intro unspent
    exact absurd (Or.inr ⟨k, Or.inl (Function.update_self ..)⟩) unspent
  · rw [cutShort_snoc (y := .ordered s.flow) nofun nofun, sounding.cut]
    exact or_congr_right (exists_update (P := (· = .cancelled)) (by simp [locked]) (by simp)).symm

/-- A stop sets the signal once it has found no id, or has ordered the flow to be stopped. -/
theorem Inv.stopCancel (h : Inv s i c p q m) (holds : (q k).Holds)
    (spent : s.flow = 0 ∨ q k = .ordered) :
    Inv { s with done := s.done.cancel } i c p (Function.update q k .cancelled)
      (m ++ [.cancelled ⟨k, c k⟩]) := by
  have idle := h.locks.idle holds
  have inTime := h.stops.inTime k holds
  -- The lock was taken in time for the plays that have not ended, and only those whose signal has been taken
  -- back are cut short by it.
  have cut (j : Nat) : CutShort (m ++ [.cancelled ⟨k, c k⟩]) j ↔
      CutShort m j ∨ ¬ Ended m j ∧ .reset j ∈ m := by
    rw [cutShort_snoc_cancelled, inTime]
  have kept (j : Nat) (ended : Ended m j) : CutShort (m ++ [.cancelled ⟨k, c k⟩]) j ↔ CutShort m j := by
    rw [cut, or_iff_left]
    exact fun late => late.1 ended
  have locks := h.locks.change (φ := .cancelled) holds trivial nofun
  refine ⟨⟨locks.player, locks.stopper, locks.looked, locks.allowed⟩, ?_, ⟨?_, ?_⟩,
    h.plays.other rfl nofun nofun kept ?_⟩
  · exact (h.ids.snoc (y := .cancelled ⟨k, c k⟩) nofun nofun).of_assigned rfl
  · intro l n untouched
    have before := (h.stops.change (φ := .cancelled) holds trivial).later l n untouched
    refine ⟨by simpa using before.1, ?_⟩
    simp only [List.mem_append, before.2, List.mem_singleton, Moment.cancelled.injEq, StopCall.mk.injEq,
      false_or]
    rintro ⟨rfl, rfl⟩
    rcases untouched with later | ⟨_, phase⟩
    · exact absurd later (Nat.lt_irrefl _)
    · rw [Function.update_self] at phase
      cases phase
  · intro l held play
    have before := (h.stops.change (φ := .cancelled) holds trivial).inTime l held play
    rw [inTime_snoc, ended_snoc_other rfl, or_iff_left nofun]
    exact before
  · have present := h.plays.present
    have begun (begun : Begun s m i) :
        Begun { s with done := s.done.cancel } (m ++ [.cancelled ⟨k, c k⟩]) i := by
      refine begun.snoc rfl ?_
      rw [cut]
      exact ⟨fun _ => Or.inr ⟨begun.going, begun.reset⟩, fun _ => rfl⟩
    cases p with
    | entered => exact present.snoc (play?_ne rfl i)
    | asking => exact ⟨begun present.1, fun f => by simp [present.2 f]⟩
    | given flow =>
      refine ⟨begun present.1, present.2.1.snoc rfl, ?_⟩
      have apart : Moment.cancelled ⟨k, c k⟩ ≠ .ordered flow := nofun
      rw [count_ordered_snoc apart, present.2.2]
    | finished => exact present.snoc (play?_ne rfl i) (kept i) nofun
    | playing flow =>
      have sounding : Sounding s q m i flow := present
      have spentNow : Spent s q := spent.imp_right fun ordered => ⟨k, Or.inl ordered⟩
      refine sounding.snoc rfl nofun ?_ ?_
      · exact ⟨fun _ => spentNow, fun _ => Or.inr ⟨k, Or.inr (Function.update_self ..)⟩⟩
      · rw [cut]
        exact ⟨fun _ => Or.inr ⟨k, Function.update_self ..⟩, fun _ => Or.inr ⟨sounding.going, sounding.reset⟩⟩
    | looking | refusing | refused | storing | clearing => exact absurd trivial idle

theorem PlayPhase.Allows.zero {current : UInt32} (h : p.Allows current) : p.Allows 0 := by
  cases p with
  | playing | clearing => exact Or.inr rfl
  | looking | refusing | refused => exact ⟨rfl, h.2⟩
  | entered | asking | given | storing | finished => rfl

/-- A stop clears the id when it gives the lock back. -/
theorem Inv.stopRelease (h : Inv s i c p q m) (cancelled : q k = .cancelled) :
    Inv { s with flow := 0, holder := none } i c p (Function.update q k .finished) m := by
  have holds : (q k).Holds := by rw [cancelled]; trivial
  have idle := h.locks.idle holds
  have nobody (l : Nat) : ¬ (Function.update q k .finished l).Holds := by
    by_cases same : l = k
    · subst same
      rw [Function.update_self]
      exact id
    · rw [Function.update_of_ne same]
      exact fun held => same (h.locks.only holds held)
  refine ⟨⟨?_, ?_, ?_, h.locks.allowed.zero⟩, h.ids.of_assigned rfl,
    ⟨?_, ?_⟩, h.plays.future, h.plays.returned, h.plays.past, ?_⟩
  · simp [idle]
  · intro l
    simp [nobody l]
  · intro l current locked
    exact absurd (by rw [locked]; trivial) (nobody l)
  · intro l n untouched
    exact h.stops.later l n (untouched_of_update (k := k) untouched nofun)
  · intro l held
    exact absurd held (nobody l)
  · have present := h.plays.present
    cases p with
    | entered => exact present
    | asking => exact ⟨⟨present.1.reset, present.1.going, present.1.unstored, present.1.signal⟩, present.2⟩
    | given flow => exact ⟨⟨present.1.reset, present.1.going, present.1.unstored, present.1.signal⟩, present.2⟩
    | finished => exact present
    | playing flow =>
      have sounding : Sounding s q m i flow := present
      have spent : Spent s q := Or.inr ⟨k, Or.inr cancelled⟩
      exact ⟨sounding.owns, sounding.reset, sounding.going, sounding.stored, fun _ => sounding.once spent,
        fun unspent => absurd (Or.inl rfl) unspent,
        ⟨fun _ => Or.inl rfl, fun _ => sounding.cut.mpr (Or.inr ⟨k, cancelled⟩)⟩⟩
    | looking | refusing | refused | storing | clearing => exact absurd trivial idle

/-- A stop returns; the thread may stop again. -/
theorem Inv.stopNext (h : Inv s i c p q m) (finished : q k = .finished) :
    Inv s i (Function.update c k (c k + 1)) p (Function.update q k .entered) m := by
  have unheld : ¬ (q k).Holds := by rw [finished]; exact id
  have held {l : Nat} : (Function.update q k .entered l).Holds ↔ (q l).Holds := by
    by_cases same : l = k
    · subst same
      rw [Function.update_self]
      exact ⟨False.elim, fun holds => absurd holds unheld⟩
    · rw [Function.update_of_ne same]
  refine ⟨⟨h.locks.player, fun l => held.trans (h.locks.stopper l), ?_, h.locks.allowed⟩, h.ids, ⟨?_, ?_⟩,
    h.plays.future, h.plays.returned, h.plays.past, ?_⟩
  · exact looked_of_update h.locks.looked nofun
  · intro l n untouched
    by_cases same : l = k
    · subst same
      rw [Function.update_self, Function.update_self] at untouched
      -- The call that ends has done its part; those after it have done nothing yet.
      exact h.stops.later l n (Or.inl (by omega))
    · rw [Function.update_of_ne same, Function.update_of_ne same] at untouched
      exact h.stops.later l n untouched
  · intro l holds play
    have before := held.mp holds
    have different : l ≠ k := by
      rintro rfl
      exact unheld before
    rw [Function.update_of_ne different]
    exact h.stops.inTime l before play
  · have present := h.plays.present
    have spent : Spent s (Function.update q k .entered) ↔ Spent s q :=
      or_congr_right (exists_update (P := fun φ => φ = .ordered ∨ φ = .cancelled) (by simp [finished]) (by simp))
    have cancelled : (∃ l, Function.update q k .entered l = .cancelled) ↔ ∃ l, q l = .cancelled :=
      exists_update (P := (· = .cancelled)) (by simp [finished]) (by simp)
    have sounding {flow : UInt32} (old : Sounding s q m i flow) :
        Sounding s (Function.update q k .entered) m i flow :=
      ⟨old.owns, old.reset, old.going, old.stored, fun now => old.once (spent.mp now),
        fun now => old.never (mt spent.mpr now), by rw [cancelled]; exact old.cut⟩
    cases p with
    | playing flow => exact sounding present
    | clearing flow => exact sounding present
    | entered | asking | given | looking | refusing | refused | storing | finished => exact present

end Playout.Flow.Stopping
