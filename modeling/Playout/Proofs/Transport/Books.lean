import Playout.Proofs.Transport.Ledger

/-!
# `Playout.Proofs.Transport.Books` — what holds of all streams while plays and stops interleave

Whoever holds the lock of the slot is the only one that uses a stream, and only one. All other streams are settled,
and the one in the slot can be played on. A step of any thread concerns one stream at most.

## Contents
- `Part` — what a play has made of the stream it uses.
- `Books` — the invariant.
- `Books.frame` — a step that concerns one stream leaves all others as they are.
- `Books.quiet`, `Books.take`, `Books.board`, `Books.opening`, `Books.write`, `Books.give` — one rule for each kind
  of step.
- `Books.turn`, `Books.finish` — every turn and every end of a call keeps the invariant.

## Main statements
- `Keeper.run_books` — every run keeps it.
-/

namespace Playout.Transport

open Interleaving

variable {T Spec : Type} [DecidableEq Spec]

/-! ## The invariant -/

/-- What a play has made of the stream that it uses. -/
def Part (l : Ledger T Spec) (w : World T Spec) (call : T × Nat) (errand : Errand Spec) : Phase Spec → Prop
  | .greeting h => ∃ plan, errand = .play plan ∧ h ∈ w.opened ∧ Fresh l call h (w.sent h)
  | .streaming h rest => ∃ plan, errand = .play plan ∧ h ∈ w.opened ∧ Underway l call plan h (w.sent h) rest
  | .cleared h chunk rest =>
    ∃ plan, errand = .play plan ∧ h ∈ w.opened ∧ Underway l call plan h (w.sent h) (chunk :: rest)
  | .leaving h => ∃ plan, errand = .play plan ∧ h ∈ w.opened ∧ Healthy l plan.spec h (w.sent h)
  | _ => True

/-- What holds of the streams, the slot and the calls. -/
structure Books (l : Ledger T Spec) (w : World T Spec) (number : T → Nat) (φ : T → Stage Spec) : Prop where
  errand : ∀ t, (φ t).errand = l.errands t (number t)
  lock : ∀ t, w.holder = some t ↔ (φ t).phase.inside = true
  unopened : ∀ h, h ∉ w.opened → w.sent h = [] ∧ Unused l h
  slot : w.holder = none → ∀ spec h, w.slot = some (spec, h) → h ∈ w.opened ∧ Healthy l spec h (w.sent h)
  part : ∀ t, Part l w (t, number t) (φ t).errand (φ t).phase
  settled : ∀ h ∈ w.opened, (∀ t, (φ t).phase.hand ≠ some h) → Settled l h (w.sent h)

variable {l : Ledger T Spec} {w w' : World T Spec} {number : T → Nat} {φ : T → Stage Spec} {t : T}

/-- An entry that does not concern the stream that a play uses leaves its part as it is. -/
theorem Part.aside {e : Entry T Spec} {call : T × Nat} {errand : Errand Spec} {phase : Phase Spec}
    (part : Part l w call errand phase) (opened : ∀ h ∈ w.opened, h ∈ w'.opened)
    (uses : ∀ h, phase.hand = some h → e.Aside l h ∧ w'.sent h = w.sent h) :
    Part (l.add e) w' call errand phase := by
  cases phase with
  | greeting | streaming | cleared | leaving =>
    obtain ⟨aside, same⟩ := uses _ rfl
    obtain ⟨plan, plays, mem, fact⟩ := part
    refine ⟨plan, plays, opened _ mem, ?_⟩
    rw [same]
    exact fact.aside aside
  | _ => trivial

namespace Books

/-- While nobody holds the lock, nobody uses a stream. -/
theorem idle (books : Books l w number φ) (free : w.holder = none) (u : T) : (φ u).phase.hand = none := by
  cases uses : (φ u).phase.hand with
  | none => rfl
  | some h =>
    have held := (books.lock u).2 (Phase.inside_of_hand uses)
    rw [free] at held
    cases held

/-- Nobody but the holder of the lock uses a stream. -/
theorem alone (books : Books l w number φ) (held : w.holder = some t) {u : T} (other : u ≠ t) :
    (φ u).phase.hand = none := by
  cases uses : (φ u).phase.hand with
  | none => rfl
  | some h =>
    have also := (books.lock u).2 (Phase.inside_of_hand uses)
    rw [held] at also
    exact absurd (Option.some.inj also).symm other

variable [DecidableEq T] {act : Act Spec} {s' : Stage Spec}

/-- **The frame rule.** A step of one thread that concerns the stream `g` at most: all that is to be shown is what
    becomes of `g` and of the stream that the thread has used. -/
theorem frame (books : Books l w number φ) (g : Option Handle)
    (aside : ∀ h, g ≠ some h → Entry.Aside l h ⟨(t, number t), act⟩ ∧ w'.sent h = w.sent h)
    (opened : ∀ h, h ∈ w'.opened ↔ h ∈ w.opened ∨ g = some h)
    (others : ∀ u, u ≠ t → (w'.holder = some u ↔ w.holder = some u) ∧
      ∀ h, (φ u).phase.hand = some h → g ≠ some h)
    (errand : s'.errand = (φ t).errand) (lock : w'.holder = some t ↔ s'.phase.inside = true)
    (slot : w'.holder = none → ∀ spec h, w'.slot = some (spec, h) →
      h ∈ w'.opened ∧ Healthy (l.add ⟨(t, number t), act⟩) spec h (w'.sent h))
    (part : Part (l.add ⟨(t, number t), act⟩) w' (t, number t) s'.errand s'.phase)
    (settled : ∀ h, g = some h ∨ (φ t).phase.hand = some h → s'.phase.hand ≠ some h →
      Settled (l.add ⟨(t, number t), act⟩) h (w'.sent h)) :
    Books (l.add ⟨(t, number t), act⟩) w' number (Function.update φ t s') where
  errand u := by
    by_cases same : u = t
    · subst same
      rw [Function.update_self, errand]
      exact books.errand u
    · rw [Function.update_of_ne same]
      exact books.errand u
  lock u := by
    by_cases same : u = t
    · subst same
      rw [Function.update_self]
      exact lock
    · rw [Function.update_of_ne same]
      exact (others u same).1.trans (books.lock u)
  unopened h closed := by
    -- A stream that is not open now is not the one concerned, and was not open before.
    have elsewhere : g ≠ some h := fun same => closed ((opened h).2 (.inr same))
    have before : h ∉ w.opened := fun mem => closed ((opened h).2 (.inl mem))
    obtain ⟨apart, same⟩ := aside h elsewhere
    rw [same]
    exact ⟨(books.unopened h before).1, (books.unopened h before).2.aside apart⟩
  slot := slot
  part u := by
    by_cases same : u = t
    · subst same
      rw [Function.update_self]
      exact part
    · rw [Function.update_of_ne same]
      refine (books.part u).aside (fun h mem => (opened h).2 (.inl mem)) ?_
      intro h uses
      exact aside h ((others u same).2 h uses)
  settled h mem unused := by
    have here : s'.phase.hand ≠ some h := by
      have unused := unused t
      rwa [Function.update_self] at unused
    -- Any other stream was not used before either, since only this thread has moved.
    by_cases concerned : g = some h ∨ (φ t).phase.hand = some h
    · exact settled h concerned here
    · rw [not_or] at concerned
      obtain ⟨apart, same⟩ := aside h concerned.1
      rw [same]
      refine (books.settled h (((opened h).1 mem).resolve_right concerned.1) ?_).aside apart
      intro u
      by_cases same : u = t
      · subst same
        exact concerned.2
      · have unused := unused u
        rwa [Function.update_of_ne same] at unused

omit [DecidableEq T] in
/-- A step by which nobody comes to a stream and no write fails concerns no stream. -/
theorem frameAside (stays : ∀ plan h, act.boards plan ≠ some h) (writes : ∀ h bytes whole, act ≠ .write h bytes whole)
    (h : Handle) : Entry.Aside l h ⟨(t, number t), act⟩ :=
  ⟨Entry.boards_eq_false fun plan => stays plan h, writes h⟩

/-- The signal is set, taken back or looked at, or a stream is released: the slot and all that has been sent are
    as before. The thread goes on with the stream that it uses, if any. -/
theorem quiet (books : Books l w number φ) (aside : ∀ h, Entry.Aside l h ⟨(t, number t), act⟩)
    (same : w'.slot = w.slot ∧ w'.holder = w.holder ∧ w'.opened = w.opened ∧ w'.sent = w.sent)
    (errand : s'.errand = (φ t).errand) (inside : s'.phase.inside = (φ t).phase.inside)
    (hand : s'.phase.hand = (φ t).phase.hand)
    (part : Part (l.add ⟨(t, number t), act⟩) w' (t, number t) s'.errand s'.phase) :
    Books (l.add ⟨(t, number t), act⟩) w' number (Function.update φ t s') := by
  obtain ⟨slot, holder, opened, sent⟩ := same
  refine books.frame none (fun h _ => ⟨aside h, by rw [sent]⟩) (fun h => by simp [opened])
    (fun u _ => ⟨by rw [holder], fun _ _ => nofun⟩) errand ?_ ?_ part ?_
  · rw [holder, inside]
    exact books.lock t
  · intro free spec h found
    rw [holder] at free
    rw [slot] at found
    rw [opened, sent]
    obtain ⟨mem, healthy⟩ := books.slot free spec h found
    exact ⟨mem, healthy.aside (aside h)⟩
  · rintro h (no | used) unused
    · cases no
    · rw [hand] at unused
      exact absurd used unused

/-- The slot is locked, and nothing in it is played on. -/
theorem take (books : Books l w number φ) (free : w.holder = none)
    (aside : ∀ h, Entry.Aside l h ⟨(t, number t), act⟩) (errand : s'.errand = (φ t).errand)
    (inside : s'.phase.inside = true)
    (part : Part (l.add ⟨(t, number t), act⟩) { w with holder := some t } (t, number t) s'.errand s'.phase) :
    Books (l.add ⟨(t, number t), act⟩) { w with holder := some t } number (Function.update φ t s') := by
  refine books.frame none (fun h _ => ⟨aside h, rfl⟩) (fun h => by simp)
    (fun u other => ⟨?_, fun _ _ => nofun⟩) errand ?_ nofun part ?_
  · rw [free]
    simp [other.symm]
  · simp [inside]
  · rintro h (no | used)
    · cases no
    · rw [books.idle free t] at used
      cases used

/-- The slot is locked, and its stream is played on. -/
theorem board (books : Books l w number φ) (free : w.holder = none) {plan : Plan Spec} {h : Handle}
    (found : w.slot = some (plan.spec, h)) (wants : (φ t).errand = .play plan) :
    Books (l.add ⟨(t, number t), .take (some (plan.spec, h))⟩) { w with holder := some t } number
      (Function.update φ t (.reach (.play plan) (.streaming h plan.chunks))) := by
  have wanted : l.Wants (t, number t) plan := (books.errand t).symm.trans wants
  obtain ⟨mem, healthy⟩ := books.slot free plan.spec h found
  have stays (g : Handle) (other : some h ≠ some g) :
      Entry.Aside l g ⟨(t, number t), .take (some (plan.spec, h))⟩ := by
    refine ⟨Entry.boards_eq_false ?_, fun _ _ => nofun⟩
    intro plan' comes
    rw [Act.boards_take] at comes
    split at comes
    · exact other comes
    · cases comes
  refine books.frame (some h) (fun g other => ⟨stays g other, rfl⟩) (fun g => ?_)
    (fun u other => ⟨?_, fun g uses => ?_⟩) wants.symm ?_ nofun ?_ ?_
  · constructor
    · exact .inl
    · rintro (mem' | same)
      · exact mem'
      · cases same
        exact mem
  · rw [free]
    simp [other.symm]
  · rw [books.idle free u] at uses
    cases uses
  · simp [Stage.reach, Phase.inside]
  · exact ⟨plan, rfl, mem, healthy.board wanted (if_pos rfl) (fun _ _ => nofun)⟩
  · rintro g (same | used) unused
    · cases same
      exact absurd rfl unused
    · rw [books.idle free t] at used
      cases used

/-- A stream is opened. -/
theorem opening (books : Books l w number φ) (held : w.holder = some t) {plan : Plan Spec} {h : Handle}
    (fresh : h ∉ w.opened) (wants : (φ t).errand = .play plan) (unused : (φ t).phase.hand = none) :
    Books (l.add ⟨(t, number t), .opened h⟩) { w with opened := h :: w.opened, live := h :: w.live } number
      (Function.update φ t (.reach (.play plan) (afterOpening l.header plan h))) := by
  have wanted : l.Wants (t, number t) plan := (books.errand t).symm.trans wants
  obtain ⟨nothing, untouched⟩ := books.unopened h fresh
  have opened := untouched.open wanted
  have inside : (afterOpening l.header plan h).inside = true := by
    unfold afterOpening
    split <;> rfl
  have hand : (afterOpening l.header plan h).hand = some h := by
    unfold afterOpening
    split <;> rfl
  refine books.frame (some h) (fun g other => ⟨⟨Entry.boards_eq_false fun _ => other, fun _ _ => nofun⟩, rfl⟩)
    (fun g => ?_) (fun u other => ⟨Iff.rfl, fun g uses => ?_⟩) wants.symm ?_ ?_ ?_ ?_
  · simp only [List.mem_cons, Option.some.injEq]
    exact ⟨fun mem => mem.elim (fun same => .inr same.symm) .inl, fun mem => mem.elim .inr (fun same => .inl same.symm)⟩
  · rw [books.alone held other] at uses
    cases uses
  · simp [Stage.reach, inside, held]
  · intro free
    rw [held] at free
    cases free
  · -- With a header due the stream is fresh, else it is ready for the chunks.
    cases due : l.header plan.spec with
    | some header =>
      simp only [Stage.reach, afterOpening, due, Part, nothing]
      exact ⟨plan, rfl, List.mem_cons_self, opened⟩
    | none =>
      simp only [Stage.reach, afterOpening, due, Part, nothing]
      exact ⟨plan, rfl, List.mem_cons_self, opened.begin due⟩
  · rintro g (same | used) left
    · cases same
      exact absurd hand left
    · rw [unused] at used
      cases used

/-- Some bytes go to the stream that the thread uses. -/
theorem write (books : Books l w number φ) (held : w.holder = some t) {h : Handle} {bytes part : List UInt8}
    {whole : Bool} (mem : h ∈ w.opened) (uses : (φ t).phase.hand = some h) (errand : s'.errand = (φ t).errand)
    (inside : s'.phase.inside = true)
    (after : Part (l.add ⟨(t, number t), .write h bytes whole⟩) (w.deliver h part) (t, number t) s'.errand
      s'.phase)
    (settled : s'.phase.hand ≠ some h →
      Settled (l.add ⟨(t, number t), .write h bytes whole⟩) h (w.sent h ++ part)) :
    Books (l.add ⟨(t, number t), .write h bytes whole⟩) (w.deliver h part) number (Function.update φ t s') := by
  refine books.frame (some h) (fun g other => ⟨⟨Entry.boards_write .., ?_⟩, ?_⟩) (fun g => ?_)
    (fun u other => ⟨Iff.rfl, fun g used => ?_⟩) errand ?_ ?_ after ?_
  · intro bytes' whole' same
    cases same
    exact other rfl
  · exact w.deliver_sent_other (fun same => other (congrArg some same.symm)) part
  · constructor
    · exact .inl
    · rintro (mem' | same)
      · exact mem'
      · cases same
        exact mem
  · rw [books.alone held other] at used
    cases used
  · simp [inside, held]
  · intro free
    rw [World.deliver_holder, held] at free
    cases free
  · rintro g (same | used) unused
    · cases same
      rw [World.deliver_sent_self]
      exact settled unused
    · rw [uses] at used
      cases used
      rw [World.deliver_sent_self]
      exact settled unused

/-- The slot is filled, with the stream that the thread has used if there was one, and unlocked. -/
theorem give (books : Books l w number φ) (held : w.holder = some t) {errand : Errand Spec}
    {kept : Option (Spec × Handle)} {fine : Bool} (uses : (φ t).phase.hand = kept.map (·.2))
    (same : errand = (φ t).errand)
    (fit : ∀ spec h, kept = some (spec, h) → h ∈ w.opened ∧ Healthy l spec h (w.sent h)) :
    Books (l.add ⟨(t, number t), .put kept⟩) { w with slot := kept, holder := none } number
      (Function.update φ t (.reach errand (.gone fine))) := by
  have aside (h : Handle) : Entry.Aside l h ⟨(t, number t), .put kept⟩ := by
    refine frameAside ?_ ?_ h
    · exact fun _ _ => nofun
    · exact fun _ _ _ => nofun
  refine books.frame none (fun h _ => ⟨aside h, rfl⟩) (fun h => by simp)
    (fun u other => ⟨?_, fun _ _ => nofun⟩) same ?_ ?_ trivial ?_
  · rw [held]
    simp [other.symm]
  · simp [Stage.reach, Phase.inside]
  · intro _ spec h found
    obtain ⟨mem, healthy⟩ := fit spec h found
    exact ⟨mem, healthy.aside (aside h)⟩
  · rintro h (no | used) -
    · cases no
    · rw [uses] at used
      cases kept with
      | none => cases used
      | some stream =>
        obtain rfl := Option.some.inj used
        exact .inl ⟨stream.1, .inl ((fit stream.1 stream.2 rfl).2.aside (aside _))⟩

/-! ## Every step -/

omit [DecidableEq T] in
/-- What a play has made of its stream, by its phase. -/
theorem own (books : Books l w number φ) {plan : Plan Spec} {phase : Phase Spec} {left : Nat}
    (here : φ t = ⟨.play plan, phase, left⟩) : Part l w (t, number t) (.play plan) phase := by
  have part := books.part t
  rwa [here] at part

omit [DecidableEq T] in
/-- A call that plays wants what its plan says. -/
theorem wants (books : Books l w number φ) {plan : Plan Spec} {phase : Phase Spec} {left : Nat}
    (here : φ t = ⟨.play plan, phase, left⟩) : l.Wants (t, number t) plan := by
  refine (books.errand t).symm.trans ?_
  rw [here]

omit [DecidableEq T] in
/-- Within the slot a call holds its lock. -/
theorem held (books : Books l w number φ) {errand : Errand Spec} {phase : Phase Spec} {left : Nat}
    (here : φ t = ⟨errand, phase, left⟩) (inside : phase.inside = true) : w.holder = some t := by
  refine (books.lock t).2 ?_
  rw [here]
  exact inside

/-- A step that leaves the slot, the streams and what has been sent as they are, for a thread that uses no stream
    before and after it. -/
theorem pass (books : Books l w number φ) {errand : Errand Spec} {phase phase' : Phase Spec} {left : Nat}
    (here : φ t = ⟨errand, phase, left⟩) (stays : ∀ plan h, act.boards plan ≠ some h)
    (writes : ∀ h bytes whole, act ≠ .write h bytes whole)
    (same : w'.slot = w.slot ∧ w'.holder = w.holder ∧ w'.opened = w.opened ∧ w'.sent = w.sent)
    (inside : phase'.inside = phase.inside) (unused : phase.hand = none) (unused' : phase'.hand = none) :
    Books (l.add ⟨(t, number t), act⟩) w' number (Function.update φ t (.reach errand phase')) := by
  refine books.quiet (frameAside stays writes) same ?_ ?_ ?_ ?_
  · rw [here]
    rfl
  · rw [here]
    exact inside
  · rw [here]
    exact unused'.trans unused.symm
  · show Part _ _ _ errand phase'
    cases phase' with
    | greeting | streaming | cleared | leaving => cases unused'
    | _ => trivial

/-- The signal is looked at, by a play that is about to write a chunk. -/
theorem look (books : Books l w number φ) {plan : Plan Spec} {h : Handle} {rest : List (List UInt8)}
    {phase' : Phase Spec} {left : Nat} {stopped : Bool} (here : φ t = ⟨.play plan, .streaming h rest, left⟩)
    (inside : phase'.inside = true) (hand : phase'.hand = some h)
    (after : h ∈ w.opened →
      Underway (l.add ⟨(t, number t), .look stopped⟩) (t, number t) plan h (w.sent h) rest →
        Part (l.add ⟨(t, number t), .look stopped⟩) w (t, number t) (.play plan) phase') :
    Books (l.add ⟨(t, number t), .look stopped⟩) w number (Function.update φ t (.reach (.play plan) phase')) := by
  obtain ⟨_, same, mem, underway⟩ := books.own here
  obtain rfl := Errand.play.inj same
  have aside (g : Handle) : Entry.Aside l g ⟨(t, number t), .look stopped⟩ := by
    refine frameAside ?_ ?_ g
    · exact fun _ _ => nofun
    · exact fun _ _ _ => nofun
  refine books.quiet aside ⟨rfl, rfl, rfl, rfl⟩ ?_ ?_ ?_ ?_
  · rw [here]
    rfl
  · rw [here]
    exact inside
  · rw [here]
    exact hand
  · exact after mem (underway.aside (aside h))

/-- **Every turn keeps the books.** -/
theorem turn (books : Books l w number φ) {errand : Errand Spec} {phase phase' : Phase Spec} {left : Nat}
    (here : φ t = ⟨errand, phase, left⟩) (turn : Turn l.header errand phase act phase')
    (answered : Answered t w act w') :
    Books (l.add ⟨(t, number t), act⟩) w' number (Function.update φ t (.reach errand phase')) := by
  have errand_eq : (Stage.reach errand phase').errand = (φ t).errand := by
    rw [here]
    rfl
  cases turn with
  -- Nothing is played on, and nothing is sent.
  | lower | skip | stop | raise | refused =>
    cases answered
    exact books.pass here (fun _ _ => nofun) (fun _ _ _ => nofun) ⟨rfl, rfl, rfl, rfl⟩ rfl rfl rfl
  | released | dropped =>
    cases answered
    exact books.pass here (fun _ _ => nofun) (fun _ _ _ => nofun) ⟨rfl, rfl, rfl, rfl⟩ rfl rfl rfl
  -- The slot is locked; only the stream of the wanted format is played on.
  | unfilled | closed =>
    cases answered with
    | take free same =>
      exact books.take free (frameAside (fun _ _ => nofun) fun _ _ _ => nofun) errand_eq rfl trivial
  | @foreign plan spec h other =>
    cases answered with
    | take free same =>
      refine books.take free (fun g => ⟨?_, fun _ _ => nofun⟩) errand_eq rfl trivial
      exact Entry.boards_of_foreign (books.wants here) other
  | @closing spec h =>
    cases answered with
    | take free same =>
      refine books.take free (fun g => ⟨?_, fun _ _ => nofun⟩) errand_eq rfl trivial
      unfold Entry.boards
      rw [← books.errand t, here]
  | @found plan h =>
    cases answered with
    | take free same =>
      exact books.board free same.symm (by rw [here])
  | @opened plan h =>
    cases answered with
    | opened fresh => exact books.opening (books.held here rfl) fresh (by rw [here]) (by rw [here]; rfl)
  -- A stop that is seen is the reason for the piece to end here.
  | goOn =>
    cases answered
    exact books.look here rfl rfl fun mem underway => ⟨_, rfl, mem, underway⟩
  | halt =>
    cases answered
    refine books.look here rfl rfl fun mem underway => ⟨_, rfl, mem, ?_⟩
    exact underway.leave (books.wants here) (.inr (List.mem_append_right _ List.mem_cons_self))
  | rested =>
    cases answered
    refine books.look here rfl rfl fun mem underway => ⟨_, rfl, mem, ?_⟩
    exact underway.leave (books.wants here) (.inl rfl)
  -- The header or a chunk makes what was sent longer; if only a part of it comes through, the stream is over.
  | @greeted plan h bytes due =>
    cases answered with
    | wrote =>
      obtain ⟨_, same, mem, fresh⟩ := books.own here
      obtain rfl := Errand.play.inj same
      refine books.write (books.held here rfl) mem (by rw [here]; rfl) errand_eq rfl ?_ (absurd rfl)
      refine ⟨_, rfl, mem, ?_⟩
      rw [World.deliver_sent_self]
      exact fresh.greet due
  | @ungreeted plan h bytes due =>
    cases answered with
    | tore first =>
      obtain ⟨_, same, mem, fresh⟩ := books.own here
      obtain rfl := Errand.play.inj same
      refine books.write (books.held here rfl) mem (by rw [here]; rfl) errand_eq rfl trivial ?_
      exact fun _ => .inr (fresh.tear (books.wants here) due first)
  | @wrote plan h chunk rest =>
    cases answered with
    | wrote =>
      obtain ⟨_, same, mem, underway⟩ := books.own here
      obtain rfl := Errand.play.inj same
      refine books.write (books.held here rfl) mem (by rw [here]; rfl) errand_eq rfl ?_ (absurd rfl)
      refine ⟨_, rfl, mem, ?_⟩
      rw [World.deliver_sent_self]
      exact underway.write
  | @tore plan h chunk rest =>
    cases answered with
    | tore first =>
      obtain ⟨_, same, mem, underway⟩ := books.own here
      obtain rfl := Errand.play.inj same
      refine books.write (books.held here rfl) mem (by rw [here]; rfl) errand_eq rfl trivial ?_
      exact fun _ => .inl ⟨plan.spec, .inr (underway.tear (books.wants here) first)⟩
  -- Only a stream that can be played on goes back into the slot.
  | @finished plan h =>
    cases answered
    obtain ⟨_, same, mem, underway⟩ := books.own here
    obtain rfl := Errand.play.inj same
    refine books.give (books.held here rfl) (by rw [here]; rfl) errand_eq ?_
    intro spec g same
    cases same
    exact ⟨mem, underway.leave (books.wants here) (.inl rfl)⟩
  | @kept plan h =>
    cases answered
    refine books.give (books.held here rfl) (by rw [here]; rfl) errand_eq ?_
    intro spec g same
    cases same
    obtain ⟨_, same, fact⟩ := books.own here
    obtain rfl := Errand.play.inj same
    exact fact
  | left | emptied =>
    cases answered
    exact books.give (books.held here rfl) (by rw [here]; rfl) errand_eq nofun

/-- A turn keeps the books, and so does a request that changes nothing. -/
theorem move (books : Books l w number φ) (moved : Move l.header (φ t) act s') (answered : Answered t w act w') :
    Books (l.add ⟨(t, number t), act⟩) w' number (Function.update φ t s') := by
  generalize here : φ t = s at moved
  cases moved with
  | turn turns => exact books.turn here turns answered
  | @wait errand phase left =>
    cases answered
    have aside (g : Handle) : Entry.Aside l g ⟨(t, number t), .other⟩ := by
      refine frameAside ?_ ?_ g
      · exact fun _ _ => nofun
      · exact fun _ _ _ => nofun
    refine books.quiet aside ⟨rfl, rfl, rfl, rfl⟩ ?_ ?_ ?_ ?_
    · rw [here]
    · rw [here]
    · rw [here]
    · have part := books.part t
      rw [here] at part
      exact part.aside (fun _ mem => mem) fun g _ => ⟨aside g, rfl⟩

/-- The end of a call keeps the books. -/
theorem finish (books : Books l w number φ) {result : Except PlayError Unit} (ended : Ends (φ t) result) :
    Books l w (Function.update number t (number t + 1))
      (Function.update φ t (.enter (l.errands t (number t + 1)))) := by
  have outside : (φ t).phase.inside = false ∧ (φ t).phase.hand = none := by
    unfold Ends at ended
    split at ended
    · next done => rw [done]; exact ⟨rfl, rfl⟩
    · next ready => rw [ready]; exact ⟨rfl, rfl⟩
    · exact ended.elim
  refine ⟨?_, ?_, books.unopened, books.slot, ?_, ?_⟩
  · intro u
    by_cases same : u = t
    · subst same
      rw [Function.update_self, Function.update_self]
      rfl
    · rw [Function.update_of_ne same, Function.update_of_ne same]
      exact books.errand u
  · intro u
    by_cases same : u = t
    · subst same
      rw [Function.update_self, books.lock u, outside.1]
      rfl
    · rw [Function.update_of_ne same]
      exact books.lock u
  · intro u
    by_cases same : u = t
    · subst same
      rw [Function.update_self, Function.update_self]
      trivial
    · rw [Function.update_of_ne same, Function.update_of_ne same]
      exact books.part u
  · intro h mem unused
    refine books.settled h mem ?_
    intro u
    by_cases same : u = t
    · subst same
      rw [outside.2]
      nofun
    · have unused := unused u
      rwa [Function.update_of_ne same] at unused

end Books

/-! ## Every run -/

/-- Before the first call the slot is free, and nothing has been opened but the stream that lies in it, over which
    nothing has come but its header. -/
structure Prepared (header : Spec → Option (List UInt8)) (w : World T Spec) : Prop where
  free : w.holder = none
  opened : ∀ h, h ∈ w.opened ↔ ∃ spec, w.slot = some (spec, h)
  greeted : ∀ spec h, w.slot = some (spec, h) → w.sent h = (header spec).getD []
  silent : ∀ h, h ∉ w.opened → w.sent h = []

/-- The books before the first call. -/
theorem Prepared.books (header : Spec → Option (List UInt8)) (errands : T → Nat → Errand Spec)
    (prepared : Prepared header w) :
    Books ⟨header, errands, w.opened, []⟩ w (fun _ => 0) fun t => .enter (errands t 0) := by
  have healthy {spec : Spec} {h : Handle} (found : w.slot = some (spec, h)) :
      Healthy ⟨header, errands, w.opened, []⟩ spec h (w.sent h) := by
    refine ⟨[], ⟨?_, rfl⟩, fun _ no => absurd no List.not_mem_nil, ?_⟩
    · rw [prepared.greeted spec h found]
      simp
    · rintro call ⟨bytes, failed⟩
      exact absurd failed List.not_mem_nil
  refine ⟨fun _ => rfl, ?_, ?_, ?_, fun _ => trivial, ?_⟩
  · intro t
    rw [prepared.free]
    exact ⟨nofun, nofun⟩
  · intro h closed
    refine ⟨prepared.silent h closed, ?_, rfl, ?_⟩
    · rintro (there | ⟨call, bytes, written⟩)
      · exact closed there
      · exact absurd written List.not_mem_nil
    · rintro call ⟨bytes, failed⟩
      exact absurd failed List.not_mem_nil
  · intro _ spec h found
    exact ⟨(prepared.opened h).2 ⟨spec, found⟩, healthy found⟩
  · intro h mem _
    obtain ⟨spec, found⟩ := (prepared.opened h).1 mem
    exact .inl ⟨spec, .inl (healthy found)⟩

/-- What is known after a run in which threads give an output these commands. -/
def Design.ledger {I : Interface} (d : Design I Spec) (commands : T → Nat → Command) (given : List Handle)
    (history : History T I (Except PlayError Unit)) : Ledger T Spec :=
  ⟨d.header, fun t n => d.errand (commands t n), given, journal d.act history⟩

variable [DecidableEq T]

/-- Whether a call has come to a write that failed. -/
def Phase.lost : Phase Spec → Bool
  | .failing _ | .empty | .gone false => true
  | _ => false

omit [DecidableEq Spec] in
/-- A call in which a write has failed is lost from then on. -/
theorem path_lost {I : Interface} {d : Design I Spec} {s s' : Stage Spec} {trace : Trace I} {h : Handle}
    {bytes : List UInt8} (path : Path d.moves s trace s') {x : Σ r : I.Request, I.Answer r} (mem : x ∈ trace)
    (failed : d.act x.1 x.2 = .write h bytes false) : s'.phase.lost = true := by
  have keep : (∃ x ∈ trace, ∃ h bytes, d.act x.1 x.2 = .write h bytes false) → s'.phase.lost = true := by
    refine path.keeps (fun trace s => (∃ x ∈ trace, ∃ h bytes, d.act x.1 x.2 = .write h bytes false) →
      s.phase.lost = true) (fun ⟨_, no, _⟩ => absurd no List.not_mem_nil) ?_
    rintro trace s r answer s' before moved ⟨x, mem, h, bytes, failed⟩
    have move : Move d.header s (d.act r answer) s' := moved
    generalize is : d.act r answer = act at move
    rcases List.mem_append.1 mem with earlier | now
    · -- From a lost phase no turn leads back.
      have lost := before ⟨x, earlier, h, bytes, failed⟩
      cases move with
      | turn turns => cases turns <;> first | rfl | cases lost
      | wait => exact lost
    · obtain rfl := List.mem_singleton.1 now
      obtain rfl : act = .write h bytes false := is.symm.trans failed
      cases move with
      | turn turns => cases turns <;> rfl
  exact keep ⟨x, mem, h, bytes, failed⟩

omit [DecidableEq Spec] in
/-- **A call that ends well has not failed to write.** -/
theorem Keeper.fine_of_ok {I : Interface} (k : Keeper I Spec) (commands : T → Nat → Command)
    {w : World T Spec} {history : History T I (Except PlayError Unit)}
    {s : State (fun _ => I) (fun _ => Except PlayError Unit) (World T Spec)}
    (run : Run (calls k.output commands) (answers k.act) w history s) {t : T} {n : Nat}
    (fine : .returned t n (.ok ()) ∈ history) (h : Handle) :
    ¬ (k.ledger commands w.opened history).Fails h (t, n) := by
  rintro ⟨bytes, failed⟩
  obtain ⟨x, mem, failed⟩ := mem_journal_iff.1 failed
  obtain ⟨φ, -, -, traced⟩ := Run.traced (fun _ _ => True) (fun t n => k.completes (commands t n))
    (fun _ _ _ => trivial) (fun _ _ => trivial) (fun _ _ _ => trivial) (fun _ _ => trivial) run
  obtain ⟨-, s', path, ended⟩ := traced.ended t n _ fine
  have lost := path_lost path mem failed
  unfold Ends at ended
  split at ended
  · next done =>
    rw [done] at lost
    rw [← ended] at lost
    cases lost
  · next ready =>
    rw [ready] at lost
    cases lost
  · exact ended

omit [DecidableEq Spec] in
/-- A call that is being made has not returned. -/
theorem Keeper.unreturned {I : Interface} (k : Keeper I Spec) (commands : T → Nat → Command)
    {w : World T Spec} {history : History T I (Except PlayError Unit)}
    {s : State (fun _ => I) (fun _ => Except PlayError Unit) (World T Spec)}
    (run : Run (calls k.output commands) (answers k.act) w history s) (t : T) (result : Except PlayError Unit) :
    .returned t (s.call t).number result ∉ history := by
  intro returned
  obtain ⟨φ, -, -, traced⟩ := Run.traced (fun _ _ => True) (fun t n => k.completes (commands t n))
    (fun _ _ _ => trivial) (fun _ _ => trivial) (fun _ _ _ => trivial) (fun _ _ => trivial) run
  exact Nat.lt_irrefl _ (traced.ended t _ result returned).1

/-- **The books of a run.** However plays, stops and closes of any number of threads interleave, and whatever the
    native side answers, the books are kept. -/
theorem Keeper.run_books {I : Interface} (k : Keeper I Spec) (commands : T → Nat → Command)
    {w : World T Spec} (prepared : Prepared k.header w) {history : History T I (Except PlayError Unit)}
    {s : State (fun _ => I) (fun _ => Except PlayError Unit) (World T Spec)}
    (run : Run (calls k.output commands) (answers k.act) w history s) :
    ∃ φ : T → Stage Spec, (∀ t, (s.call t).rest.Follows k.moves Ends (φ t)) ∧
      Books (k.ledger commands w.opened history) s.shared (fun t => (s.call t).number) φ := by
  have follow (t : T) (n : Nat) : (calls k.output commands t n).Follows k.moves Ends
      (.enter (k.errand (commands t n))) :=
    (k.completes (commands t n)).follows id (fun _ _ _ _ move => move) fun _ _ ended => ended
  refine Run.rule (fun _ p φ => p.Follows k.moves Ends φ)
    (fun v number φ history => Books (k.ledger commands w.opened history) v number φ) follow
    (prepared.books k.header fun t n => k.errand (commands t n)) ?_ ?_ run
  · intro v number φ history t r next answer v' books here answered
    obtain ⟨s', moved, later⟩ := here answer
    refine ⟨s', later, ?_⟩
    have grown : k.ledger commands w.opened (history ++ [.asked t (number t) r answer])
        = (k.ledger commands w.opened history).add ⟨(t, number t), k.act r answer⟩ := by
      simp [Design.ledger, Ledger.add]
    rw [grown]
    exact books.move moved answered
  · intro v number φ history t result books ended
    have same : k.ledger commands w.opened (history ++ [.returned t (number t) result]) =
        k.ledger commands w.opened history := by
      simp [Design.ledger]
    rw [same]
    exact books.finish ended

end Playout.Transport
