import Playout.Proofs.Flow.HandoverInvariant

/-!
# `Playout.Proofs.Flow.HandoverSteps` — what the pump's moves keep

## Contents
- `Account.silent`, `Account.answer` — what an event changes.
- `PumpStands.inner`, `PumpInv.deliver`, `PumpInv.refuse` — acting on events.
- `PumpInv.start`, `PumpInv.forsake` — acting on orders.
- `PumpInv.read`, `PumpInv.stopAll` — reading and writing.
- `PumpStands.asks` — every request of the pump keeps its part.
-/

namespace Playout.Flow.Handover

variable {serial n flow : UInt32} {s s' : Shared} {l : Ledger} {p p' : Pending} {c : CallerPhase} {φ : PumpPhase}
  {todo : List (UInt32 × Event)} {buffer : List UInt8}

/-! ## What an event changes -/

variable {e : Event} {orphans : List (UInt32 × UInt32)} {events : List (UInt32 × Event)}

theorem mem_startedIn : (n, flow) ∈ startedIn events ↔ (n, .started flow) ∈ events := by
  simp only [startedIn, List.mem_filterMap]
  constructor
  · rintro ⟨⟨m, event⟩, here, same⟩
    cases event with
    | started f =>
      cases same
      exact here
    | done | failed => cases same
  · intro here
    exact ⟨_, here, rfl⟩

theorem startedIn_append (events later : List (UInt32 × Event)) :
    startedIn (events ++ later) = startedIn events ++ startedIn later := List.filterMap_append

theorem answersTo_append (events later : List (UInt32 × Event)) :
    answersTo serial (events ++ later) = answersTo serial events ++ answersTo serial later := by
  simp only [answersTo, List.filter_append, List.map_append]

theorem mem_answersTo_of_started (here : (serial, .started flow) ∈ events) :
    .started flow ∈ answersTo serial events := by
  simp only [answersTo, List.mem_map, List.mem_filter]
  exact ⟨_, ⟨here, by simp [IsAnswer]⟩, rfl⟩

theorem answersTo_singleton_other (other : n ≠ serial ∨ IsAnswer e = false) :
    answersTo serial [(n, e)] = [] := by
  rcases other with different | silent
  · simp [answersTo, different]
  · simp [answersTo, silent]

theorem answersTo_singleton_self (answers : IsAnswer e = true) : answersTo serial [(serial, e)] = [e] := by
  simp [answersTo, answers]

/-- For the request, one state of what is pending is as good as another. -/
structure Apart (serial : UInt32) (p p' : Pending) : Prop where
  waiting : serial ∈ p'.waiting ↔ serial ∈ p.waiting
  abandoned : serial ∈ p'.abandoned → serial ∈ p.abandoned
  recent : ∀ others, Recent serial others p.abandoned → Recent serial others p'.abandoned

theorem Recent.erase {others : Nat} {abandoned : List UInt32} (h : Recent serial others abandoned)
    (different : n ≠ serial) : Recent serial others (abandoned.erase n) := by
  obtain ⟨before, after, rfl, few⟩ := h
  by_cases earlier : n ∈ before
  · exact ⟨before.erase n, after, List.erase_append_left _ earlier, few⟩
  · refine ⟨before, after.erase n, ?_, Nat.le_trans List.length_erase_le few⟩
    rw [List.erase_append_right _ earlier, List.erase_cons_tail (by simpa using different.symm)]

theorem Apart.refl (p : Pending) : Apart serial p p := ⟨Iff.rfl, id, fun _ => id⟩

theorem Apart.forget (p : Pending) (different : n ≠ serial) : Apart serial p (p.forget n) :=
  ⟨List.mem_erase_of_ne different.symm, List.mem_of_mem_erase, fun _ recent => recent.erase different⟩

theorem Apart.started (p : Pending) (different : n ≠ serial) : Apart serial p (p.started n).1 := by
  have forget := Apart.forget p different
  by_cases waits : n ∈ p.waiting
  · rw [Pending.started_of_waiting waits]
    exact ⟨forget.waiting, id, fun _ => id⟩
  · by_cases abandoned : n ∈ p.abandoned
    · rw [Pending.started_of_abandoned waits abandoned]
      exact ⟨Iff.rfl, forget.abandoned, forget.recent⟩
    · rw [Pending.started_of_unknown waits abandoned]
      exact .refl p

theorem Apart.expect (p : Pending) (different : n ≠ serial) : Apart serial p (p.expect n) := by
  constructor
  · rw [Pending.mem_waiting_expect]
    exact or_iff_left different.symm
  · rw [Pending.abandoned_expect]
    exact id
  · rw [Pending.abandoned_expect]
    exact fun _ => id

theorem Place.apart (h : Place serial s p) (apart : Apart serial p p') : Place serial s p' := by
  cases h with
  | untaken fresh unclosed idle unknown =>
    exact .untaken fresh unclosed (mt apart.waiting.mp idle) (mt apart.abandoned unknown)
  | waiting known unclosed waits => exact .waiting known unclosed (apart.waiting.mpr waits)
  | abandoned known closed idle recent =>
    exact .abandoned known closed (mt apart.waiting.mp idle) (apart.recent _ recent)
  | forgotten known closed idle many => exact .forgotten known closed (mt apart.waiting.mp idle) many

/-- A ledger with other entries, none of which concerns the request. -/
theorem Account.ledger {l' : Ledger} (h : Account serial s l) (apart : Apart serial l.pending l'.pending)
    (answers : answersTo serial l'.acted = answersTo serial l.acted)
    (orphans : ∀ flow, (serial, flow) ∈ l'.written ++ l'.found ↔ (serial, flow) ∈ l.written ++ l.found) :
    Account serial s l' := by
  constructor
  · intro none
    rw [answers] at none
    have h := h.unanswered none
    exact ⟨h.slot, h.took, h.late, h.place.apart apart⟩
  · intro flow only
    rw [answers] at only
    have alike : Alike s s := ⟨rfl, rfl, rfl, rfl, rfl, rfl, rfl⟩
    exact (h.settled flow only).keep alike (Nat.le_refl _) (fun idle => ⟨rfl, mt apart.waiting.mp idle⟩)
      (orphans flow)

/-- An event that does not answer the request. -/
theorem Account.silent (h : Account serial s l) (other : n ≠ serial ∨ IsAnswer e = false)
    (apart : Apart serial l.pending p') (justified : orphans.Sublist (startedIn [(n, e)])) :
    Account serial s (l.act n e p' orphans) := by
  refine h.ledger apart ?_ ?_
  · show answersTo serial (l.acted ++ [(n, e)]) = _
    rw [answersTo_append, answersTo_singleton_other other, List.append_nil]
  · intro flow
    have foreign : (serial, flow) ∉ orphans := by
      intro here
      have event := mem_startedIn.mp (justified.subset here)
      cases List.mem_singleton.mp event
      rcases other with different | silent
      · exact different rfl
      · cases silent
    show (serial, flow) ∈ l.written ++ (l.found ++ orphans) ↔ _
    rw [← List.append_assoc, List.mem_append, or_iff_left foreign]

/-- The answer to the request. Only a first answer that starts a flow has to be accounted for. -/
theorem Account.answer (answers : IsAnswer e = true)
    (first : answersTo serial l.acted = [] → ∀ flow, e = .started flow →
      Settled serial s (l.act serial e p' orphans) flow) :
    Account serial s (l.act serial e p' orphans) := by
  have acted : answersTo serial (l.act serial e p' orphans).acted = answersTo serial l.acted ++ [e] := by
    show answersTo serial (l.acted ++ [(serial, e)]) = _
    rw [answersTo_append, answersTo_singleton_self answers]
  constructor
  · intro none
    rw [acted] at none
    exact absurd none (by simp)
  · intro flow only
    rw [acted] at only
    have alone : answersTo serial l.acted ++ [e] = [] ++ [.started flow] := only
    obtain ⟨none, same⟩ := List.append_inj' alone rfl
    exact first none flow (List.cons.inj same).1

theorem PumpInv.act (h : PumpInv serial s l ((n, e) :: todo) buffer)
    (justified : orphans.Sublist (startedIn [(n, e)])) (nodup : p'.waiting.Nodup)
    (received : s'.received = s.received) (stops : s'.stops = s.stops) (started : s'.started = s.started)
    (early : s'.early = s.early) (account : Account serial s' (l.act n e p' orphans)) :
    PumpInv serial s' (l.act n e p' orphans) todo buffer := by
  constructor
  · rw [received, h.stream, Ledger.act, List.append_assoc, List.singleton_append]
  · rw [stops]
    exact h.stops
  · show (l.written ++ (l.found ++ orphans)).Sublist (startedIn (l.acted ++ [(n, e)]))
    rw [← List.append_assoc, startedIn_append]
    exact h.orphans.append justified
  · exact nodup
  · rw [started, early, received]
    exact h.untaken
  · rw [started, early]
    exact fun known => (h.taken known).trans (List.prefix_append ..)
  · exact account

/-! ## The pump's part, when the pump moves -/

section

variable {φ' : PumpPhase}

/-- Without an answer no orphan belongs to the request. -/
theorem PumpInv.kept (h : PumpInv serial s l todo buffer) (none : answersTo serial l.acted = []) :
    (serial, flow) ∉ l.written ++ l.found := by
  intro here
  have answer := mem_answersTo_of_started (mem_startedIn.mp (h.orphans.subset here))
  rw [none] at answer
  cases answer

/-- Once the order to start has been taken, a first answer is not early. -/
theorem PumpInv.not_early (h : PumpInv serial s l todo buffer) (none : answersTo serial l.acted = [])
    (known : s.started = true) : ¬ Early serial s flow := by
  intro early
  have answer := mem_answersTo_of_started ((h.taken known).subset early)
  rw [none] at answer
  cases answer

/-- Before that, the answer that is acted on next is early. -/
theorem PumpInv.early_of_untaken (h : PumpInv serial s l ((serial, .started flow) :: todo) buffer)
    (fresh : s.started = false) : Early serial s flow := by
  rw [Early, h.untaken fresh, h.stream]
  exact List.mem_append_right _ List.mem_cons_self

/-- What the pump does without asking keeps its part. -/
theorem PumpStands.inner (h : PumpStands serial s φ) (inner : Inner φ φ') : PumpStands serial s φ' := by
  cases inner with
  | @orphan l n flow todo buffer idle abandoned =>
    obtain ⟨reading, inv⟩ := h
    have justified : [(n, flow)].Sublist (startedIn [(n, .started flow)]) := List.Sublist.refl _
    refine ⟨reading, inv.act justified (Pending.nodup_waiting_started inv.nodup n) rfl rfl rfl rfl ?_⟩
    by_cases same : n = serial
    · subst same
      refine Account.answer rfl fun none f here => ?_
      cases here
      have h := inv.account.unanswered none
      have found : (n, flow) ∈ l.written ++ (l.found ++ [(n, flow)]) := by simp
      have orphan (known : s.started = true) :
          Settled n s (l.act n (.started flow) (l.pending.started n).1 [(n, flow)]) flow :=
        .orphan known (inv.not_early none known) h.slot h.took h.late found
      -- Only a request that has been taken can be remembered as abandoned.
      cases h.place with
      | untaken _ _ _ unknown => exact absurd abandoned unknown
      | waiting _ _ waits => exact absurd waits idle
      | abandoned known => exact orphan known
      | forgotten known => exact orphan known
    · exact inv.account.silent (Or.inl same) (.started _ same) justified
  | @unknown l n flow todo buffer idle unknown =>
    obtain ⟨reading, inv⟩ := h
    refine ⟨reading, inv.act (List.nil_sublist _) inv.nodup rfl rfl rfl rfl ?_⟩
    by_cases same : n = serial
    · subst same
      refine Account.answer rfl fun none f here => ?_
      cases here
      have h := inv.account.unanswered none
      cases h.place with
      | untaken fresh =>
        refine .early (inv.early_of_untaken fresh) h.slot h.took h.late ?_
        show (n, flow) ∉ l.written ++ (l.found ++ [])
        rw [List.append_nil]
        exact inv.kept none
      | waiting _ _ waits => exact absurd waits idle
      | abandoned _ _ _ recent =>
        obtain ⟨before, after, same, _⟩ := recent
        exact absurd (by rw [same]; simp) unknown
      | forgotten _ _ _ many => exact .forgotten many
    · exact inv.account.silent (Or.inl same) (.refl _) (List.nil_sublist _)
  | done =>
    obtain ⟨reading, inv⟩ := h
    refine ⟨reading, inv.act (List.nil_sublist _) inv.nodup rfl rfl rfl rfl ?_⟩
    exact inv.account.silent (Or.inr rfl) (.refl _) (List.nil_sublist _)
  | @failed l n e todo buffer idle =>
    obtain ⟨reading, inv⟩ := h
    refine ⟨reading, inv.act (List.nil_sublist _) (inv.nodup.erase n) rfl rfl rfl rfl ?_⟩
    by_cases same : n = serial
    · subst same
      exact Account.answer rfl nofun
    · exact inv.account.silent (Or.inl same) (.forget _ same) (List.nil_sublist _)
  | acted none => exact ⟨none, h.2⟩
  | known => exact h

/-- What becomes of a flow that is handed over: it waits in the channel, or is refused and so an orphan. -/
theorem PumpInv.deliver {took : Bool} (h : PumpInv serial s l ((n, .started flow) :: todo) buffer)
    (waits : n ∈ l.pending.waiting) (answered : pumpAnswers serial (.reply n (.ok flow)) s took s') :
    PumpInv serial s' (l.act n (.started flow) (l.pending.started n).1 (if took then [] else [(n, flow)]))
      todo buffer := by
  have justified : (if took then [] else [(n, flow)]).Sublist (startedIn [(n, .started flow)]) := by
    split
    · exact List.nil_sublist _
    · exact List.Sublist.refl _
  have nodup := Pending.nodup_waiting_started h.nodup n
  by_cases same : n = serial
  · subst same
    obtain ⟨rfl, rfl⟩ := reply_self answered
    have forgotten : n ∉ (l.pending.started n).1.waiting := by
      rw [Pending.started_of_waiting waits]
      exact h.nodup.not_mem_erase
    have place (none : answersTo n l.acted = []) : s.started = true ∧ s.forsaken = false := by
      cases (h.account.unanswered none).place with
      | untaken _ _ idle | abandoned _ _ idle | forgotten _ _ idle => exact absurd waits idle
      | waiting known unclosed => exact ⟨known, unclosed⟩
    -- The reply is refused when the receiver has been dropped; else it goes into the channel, late or not.
    cases here : s.dropped with
    | true =>
      rw [here] at justified
      refine h.act justified nodup rfl rfl rfl rfl (Account.answer rfl fun none f same => ?_)
      cases same
      have before := h.account.unanswered none
      obtain ⟨known, _⟩ := place none
      refine .orphan known (h.not_early none known) before.slot before.took before.late ?_
      show (n, flow) ∈ l.written ++ (l.found ++ [(n, flow)])
      simp
    | false =>
      rw [here] at justified
      refine h.act justified nodup rfl rfl rfl rfl (Account.answer rfl fun none f same => ?_)
      cases same
      have before := h.account.unanswered none
      obtain ⟨known, unclosed⟩ := place none
      refine .buffered known (h.not_early none known) rfl rfl before.took ?_ unclosed forgotten ?_
      · exact decide_eq_true_iff
      · show (n, flow) ∉ l.written ++ (l.found ++ [])
        rw [List.append_nil]
        exact h.kept none
  · rw [reply_other same answered]
    exact h.act justified nodup rfl rfl rfl rfl
      (h.account.silent (Or.inl same) (.started _ same) justified)

/-- An error that is handed over. -/
theorem PumpInv.refuse {took : Bool} {e : ServerError} (h : PumpInv serial s l ((n, .failed e) :: todo) buffer)
    (answered : pumpAnswers serial (.reply n (.error e)) s took s') :
    PumpInv serial s' (l.act n (.failed e) (l.pending.failed n).1 []) todo buffer := by
  have nodup : (l.pending.failed n).1.waiting.Nodup := h.nodup.erase n
  by_cases same : n = serial
  · subst same
    obtain ⟨_, rfl⟩ := reply_self answered
    split
    · exact h.act (List.nil_sublist _) nodup rfl rfl rfl rfl (Account.answer rfl nofun)
    · exact h.act (List.nil_sublist _) nodup rfl rfl rfl rfl (Account.answer rfl nofun)
  · rw [reply_other same answered]
    exact h.act (List.nil_sublist _) nodup rfl rfl rfl rfl
      (h.account.silent (Or.inl same) (.forget _ same) (List.nil_sublist _))

end

/-! ### Orders -/

section

variable {rest : List Pump.Order} {request : Flow.Request}

/-- The order to start is taken only once. -/
theorem CallerInv.unstarted (h : CallerInv serial s c) (first : s.orders = .start serial request :: rest) :
    s.started = false := by
  have queued (queued : Queued serial s) : s.started = false := by
    rcases queued with ⟨fresh, _⟩ | ⟨_, empty | only⟩
    · exact fresh
    · rw [empty] at first
      cases first
    · rw [only] at first
      cases first
  cases c with
  | entered => exact h.1
  | drawn n => exact h.2.1
  | waiting n => exact queued (Asked.queued h.2.1)
  | givingUp n => exact queued (Asked.queued h.2.1)
  | waitingAgain n => exact queued h.2.1
  | leaving result => exact queued h.1
  | finished result => exact queued h.1
  | gone => exact queued h.1

/-- From now on the request is waited for. -/
theorem PumpInv.start (h : PumpInv serial s l [] buffer) (fresh : s.started = false) :
    PumpInv serial (s.take rest true) { l with pending := l.pending.expect serial } [] buffer := by
  have expected : serial ∈ (l.pending.expect serial).waiting := Pending.mem_waiting_expect.mpr (Or.inr rfl)
  constructor
  · exact h.stream
  · exact h.stops
  · exact h.orphans
  · exact Pending.nodup_waiting_expect h.nodup serial
  · exact nofun
  · intro _
    show (takeEvents s.early).messages <+: l.acted
    refine ⟨[], ?_⟩
    rw [List.append_nil, h.untaken fresh, h.stream, List.append_nil]
  · constructor
    · intro none
      have before := h.account.unanswered none
      cases before.place with
      | untaken _ unclosed => exact ⟨before.slot, before.took, before.late, .waiting rfl unclosed expected⟩
      | waiting known | abandoned known | forgotten known =>
        rw [fresh] at known
        cases known
    · intro flow only
      cases h.account.settled flow only with
      | early first empty none onTime kept => exact .early first empty none onTime kept
      | forgotten many => exact .forgotten many
      | buffered known | received known | lost known | orphan known =>
        rw [fresh] at known
        cases known

theorem recent_abandon {others : Nat} (h : Recent serial others p.abandoned) (waits : n ∈ p.waiting) :
    Recent serial (others + 1) (p.abandon n).abandoned ∨ Pending.abandonedLimit ≤ others + 1 := by
  obtain ⟨before, after, same, few⟩ := h
  rw [Pending.abandon_of_mem waits]
  by_cases full : p.abandoned.length = Pending.abandonedLimit
  · cases before with
    | nil =>
      -- This request is the oldest, and gives way.
      right
      rw [same, List.nil_append, List.length_cons] at full
      omega
    | cons oldest before =>
      left
      refine ⟨before, after ++ [n], ?_, by simpa using few⟩
      rw [Pending.remembered, if_pos full, same]
      simp
  · left
    refine ⟨before, after ++ [n], ?_, by simpa using few⟩
    rw [Pending.remembered, if_neg full, same]
    simp

/-- This request is abandoned: the pump has waited for it, and drops the sender. -/
theorem Account.abandon (h : Account serial s l) (nodup : l.pending.waiting.Nodup)
    (waits : serial ∈ l.pending.waiting) :
    Account serial { s with forsaken := true } { l with pending := l.pending.abandon serial } := by
  constructor
  · intro none
    have before := h.unanswered none
    refine ⟨before.slot, before.took, before.late, ?_⟩
    cases before.place with
    | waiting known =>
      rw [Pending.abandon_of_mem waits]
      exact .abandoned known rfl nodup.not_mem_erase ⟨l.pending.remembered, [], rfl, Nat.zero_le _⟩
    | untaken _ _ idle | abandoned _ _ idle | forgotten _ _ idle => exact absurd waits idle
  · intro flow only
    have alike : Alike s { s with forsaken := true } := ⟨rfl, rfl, rfl, rfl, rfl, rfl, rfl⟩
    -- Nothing waits in the channel while the pump waits for the answer.
    exact (h.settled flow only).keep alike (Nat.le_refl _) (fun idle => absurd waits idle) Iff.rfl

/-- Another request is abandoned, and counted if this one has been. -/
theorem Account.abandonOther (h : Account serial s l) (different : n ≠ serial)
    (waits : n ∈ l.pending.waiting) :
    Account serial (if s.forsaken then { s with others := s.others + 1 } else s)
      { l with pending := l.pending.abandon n } := by
  have abandon := Pending.abandon_of_mem waits
  have idle (idle : serial ∉ l.pending.waiting) : serial ∉ (l.pending.abandon n).waiting := by
    rw [abandon]
    exact fun here => idle (List.mem_of_mem_erase here)
  constructor
  · intro none
    have before := h.unanswered none
    cases before.place with
    | untaken fresh unclosed notWaiting unknown =>
      rw [if_neg (by rw [unclosed]; nofun)]
      refine ⟨before.slot, before.took, before.late, .untaken fresh unclosed (idle notWaiting) ?_⟩
      rw [abandon, List.mem_append, List.mem_singleton]
      rintro (here | same)
      · exact unknown ((Pending.remembered_sublist _).subset here)
      · exact different same.symm
    | waiting known unclosed stillWaits =>
      rw [if_neg (by rw [unclosed]; nofun)]
      refine ⟨before.slot, before.took, before.late, .waiting known unclosed ?_⟩
      rw [abandon]
      exact (List.mem_erase_of_ne different.symm).mpr stillWaits
    | abandoned known closed notWaiting recent =>
      rw [if_pos closed]
      rcases recent_abandon recent waits with recent | many
      · exact ⟨before.slot, before.took, before.late, .abandoned known closed (idle notWaiting) recent⟩
      · exact ⟨before.slot, before.took, before.late, .forgotten known closed (idle notWaiting) many⟩
    | forgotten known closed notWaiting many =>
      rw [if_pos closed]
      exact ⟨before.slot, before.took, before.late,
        .forgotten known closed (idle notWaiting) (Nat.le_succ_of_le many)⟩
  · intro flow only
    have settled := h.settled flow only
    split
    · exact settled.keep ⟨rfl, rfl, rfl, rfl, rfl, rfl, rfl⟩ (Nat.le_succ _)
        (fun notWaiting => ⟨rfl, idle notWaiting⟩) Iff.rfl
    · exact settled.keep ⟨rfl, rfl, rfl, rfl, rfl, rfl, rfl⟩ (Nat.le_refl _)
        (fun notWaiting => ⟨rfl, idle notWaiting⟩) Iff.rfl

/-- A request is abandoned, this one or another. -/
theorem PumpInv.forsake {u : Unit} (h : PumpInv serial s l [] buffer) (waits : n ∈ l.pending.waiting)
    (answered : pumpAnswers serial (.forsake n) s u s') :
    PumpInv serial s' { l with pending := l.pending.abandon n } [] buffer := by
  have nodup : (l.pending.abandon n).waiting.Nodup := by
    rw [Pending.abandon_of_mem waits]
    exact h.nodup.erase n
  by_cases same : n = serial
  · subst same
    rw [forsake_self answered]
    exact h.update rfl rfl rfl rfl rfl rfl rfl nodup (h.account.abandon h.nodup waits)
  · have account := h.account.abandonOther same waits
    rw [forsake_other same answered]
    split at account
    · next closed =>
      rw [if_pos closed]
      exact h.update rfl rfl rfl rfl rfl rfl rfl nodup account
    · next unclosed =>
      rw [if_neg unclosed]
      exact h.update rfl rfl rfl rfl rfl rfl rfl nodup account

/-! ### Reading and writing -/

/-- Reading on, from where the reading stood. -/
theorem PumpInv.read {bytes : List UInt8} (h : PumpInv serial s l [] buffer)
    (whole : (takeEvents (buffer ++ bytes)).fault = none) :
    PumpInv serial
      { s with
        received := s.received ++ bytes
        early := if s.started then s.early else s.early ++ bytes
        reading := true }
      l (takeEvents (buffer ++ bytes)).messages (takeEvents (buffer ++ bytes)).rest := by
  have grown (bytes' : List UInt8) : takeEvents (s.received ++ bytes') =
      { takeEvents (buffer ++ bytes') with
        messages := l.acted ++ (takeEvents (buffer ++ bytes')).messages } := by
    have stream := h.stream
    rw [List.append_nil] at stream
    rw [takeEvents] at stream ⊢
    rw [takeAll_append, stream]
    rfl
  constructor
  · rw [grown bytes, ← whole]
  · exact h.stops
  · exact h.orphans
  · exact h.nodup
  · intro fresh
    have fresh : s.started = false := fresh
    simp [fresh, h.untaken fresh]
  · intro known
    have known : s.started = true := known
    simpa [known] using h.taken known
  · cases known : s.started with
    | true =>
      exact h.account.same ⟨known.symm, by simp, rfl, rfl, rfl, rfl, rfl⟩ rfl rfl
    | false =>
      -- All that has been read so far was read before the order to start was taken.
      constructor
      · intro none
        have before := h.account.unanswered none
        exact ⟨before.slot, before.took, before.late, before.place.same known.symm rfl rfl⟩
      · intro flow only
        cases h.account.settled flow only with
        | early first empty none onTime kept =>
          refine .early ?_ empty none onTime kept
          show (serial, .started flow) ∈ (takeEvents (s.early ++ bytes)).messages
          rw [Early, h.untaken known, h.stream, List.append_nil] at first
          rw [h.untaken known, grown bytes]
          exact List.mem_append_left _ first
        | forgotten many => exact .forgotten many
        | buffered taken | received taken | lost taken | orphan taken =>
          rw [known] at taken
          cases taken

/-- The orphans of a reading are ordered to be stopped. -/
theorem PumpInv.stopAll {bytes : List UInt8} (h : PumpInv serial s l [] buffer)
    (frames : StopFrames bytes l.found) :
    PumpInv serial { s with stops := s.stops ++ bytes }
      { l with written := l.written ++ l.found, found := [] } [] buffer := by
  have orphans : (l.written ++ l.found) ++ [] = l.written ++ l.found := List.append_nil _
  constructor
  · exact h.stream
  · obtain ⟨requests, same, flows⟩ := h.stops
    obtain ⟨more, sameMore, flowsMore⟩ := frames
    refine ⟨requests ++ more, ?_, ?_⟩
    · show s.stops ++ bytes = encodeRequests (requests ++ more)
      rw [same, sameMore, encodeRequests, encodeRequests, encodeRequests, List.flatMap_append]
    · rw [List.map_append, List.map_append, flows, flowsMore]
  · show ((l.written ++ l.found) ++ []).Sublist (startedIn l.acted)
    rw [orphans]
    exact h.orphans
  · exact h.nodup
  · exact h.untaken
  · exact h.taken
  · have account : Account serial { s with stops := s.stops ++ bytes } l :=
      h.account.same ⟨rfl, rfl, rfl, rfl, rfl, rfl, rfl⟩ rfl rfl
    refine account.ledger (.refl _) rfl fun flow => ?_
    show (serial, flow) ∈ (l.written ++ l.found) ++ [] ↔ _
    rw [orphans]

/-! ### Every request of the pump -/

/-- Only what the pump reads and whether it does so has changed. -/
theorem PumpInv.awake {orders : List Pump.Order} {reading : Bool} (h : PumpInv serial s l todo buffer) :
    PumpInv serial { s with orders, reading } l todo buffer :=
  h.update rfl rfl rfl rfl rfl rfl rfl h.nodup (h.account.same ⟨rfl, rfl, rfl, rfl, rfl, rfl, rfl⟩ rfl rfl)

/-- Every request of the pump keeps its part. -/
theorem PumpStands.asks {φ φ' : PumpPhase} {r : Pump.Request} {answer : r.Answer} (h : PumpStands serial s φ)
    (call : CallerInv serial s c) (asks : PumpAsks φ r answer φ') (answered : pumpAnswers serial r s answer s') :
    PumpStands serial s' φ' := by
  cases asks with
  | log | addSerial =>
    cases answered
    exact h
  | @start l buffer n request =>
    obtain ⟨settled, inv⟩ := h
    cases answered with
    | start first => exact ⟨rfl, settled, inv.start (call.unstarted first)⟩
    | other foreign =>
      refine ⟨rfl, settled, inv.awake.update rfl rfl rfl rfl rfl rfl rfl ?_ ?_⟩
      · exact Pending.nodup_waiting_expect inv.nodup n
      · exact inv.awake.account.ledger (.expect _ foreign) rfl fun _ => Iff.rfl
  | stop =>
    cases answered with
    | other => exact ⟨rfl, h.1, h.2.awake⟩
  | abandon =>
    cases answered with
    | abandon => exact ⟨h.1, h.2.awake⟩
    | other => exact ⟨h.1, h.2.awake⟩
  | read whole =>
    cases answered with
    | received => exact ⟨rfl, h.2.read whole⟩
  | misread | shutdown | noOrders | closed | readFailed | ended | fail => trivial
  | send =>
    obtain ⟨obeying, settled, inv⟩ := h
    obtain ⟨_, rfl⟩ := answered
    rw [if_neg (by rw [obeying]; nofun)]
    exact ⟨settled, inv⟩
  | forsake waits => exact ⟨h.1, h.2.forsake waits answered⟩
  | deliver waits => exact ⟨(reply_reading answered).trans h.1, h.2.deliver waits answered⟩
  | refuse => exact ⟨(reply_reading answered).trans h.1, h.2.refuse answered⟩
  | stopAll frames =>
    obtain ⟨reading, inv⟩ := h
    obtain ⟨_, rfl⟩ := answered
    rw [if_pos reading]
    exact ⟨rfl, inv.stopAll frames⟩

end

end Playout.Flow.Handover
