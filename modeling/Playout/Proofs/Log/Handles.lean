import Playout.Log

/-!
# `Playout.Proofs.Log.Handles` — what one step does to handles, groups and levels

A step adds at most one handle and takes none away. The handles that are there keep their sinks and their
groups, and a level changes only for the handles whose group is set.

## Contents
- `Book.Step`, `Book.step_act` — all that a step can do.
- `Book.made?`, `Book.handles_act` — the handle that a step adds.
- `Book.group?`, `Book.level?_eq` — the level of a handle is that of its group.
- `Book.Sound` — every handle has a group with a level; kept by every step.
- `Book.level?_act`, `Book.level?_setLevel_group`, `Book.level?_fork` — levels.
- `Book.delivered_log`, `Book.delivered_aside` — messages; `Book.setLevel_elsewhere` — what other groups see.
- `Book.Grown` — a book after more steps; `Book.Apart` — a handle in a group of its own.
-/

namespace Playout.Log

namespace Book

variable {b : Book} {g h : Nat}

/-! ## Handles -/

/-- The handle that a step makes, if it makes one. -/
def made? (b : Book) : Action → Option Handle
  | .create _ => some ⟨b.sinks.length, b.levels.length⟩
  | .clone h => b.handles[h]?
  | .fork h => (b.handles[h]?).map fun parent => ⟨parent.sink, b.levels.length⟩
  | .setLevel _ _ | .log _ _ => none

/-- All that a step can do. One that uses no handle does nothing, nor does a message that is not severe
    enough. -/
inductive Step (b : Book) : Action → Book → Prop
  | idle {a : Action} : b.made? a = none → Step b a b
  | created {sink : Sink} : Step b (.create sink) (b.create sink)
  | cloned {h : Nat} {handle : Handle} : b.handles[h]? = some handle →
      Step b (.clone h) { b with handles := b.handles ++ [handle] }
  | forked {h : Nat} {handle : Handle} : b.handles[h]? = some handle →
      Step b (.fork h)
        { b with
          levels := b.levels ++ [b.levels[handle.group]?.getD .debug]
          handles := b.handles ++ [⟨handle.sink, b.levels.length⟩] }
  | set {h : Nat} {handle : Handle} {level : Severity} : b.handles[h]? = some handle →
      Step b (.setLevel h level) { b with levels := b.levels.set handle.group level }
  | forwarded {h : Nat} {handle : Handle} {line : Line} : b.handles[h]? = some handle →
      Step b (.log h line) { b with delivered := b.delivered ++ [(handle.sink, line)] }

theorem step_act (b : Book) (a : Action) : Step b a (b.act a) := by
  cases a with
  | create sink => exact .created
  | clone h =>
    show Step b _ (b.clone h)
    unfold clone
    split
    · next found => exact .cloned found
    · next missing => exact .idle missing
  | fork h =>
    show Step b _ (b.fork h)
    unfold fork
    split
    · next found => exact .forked found
    · next missing =>
      apply Step.idle
      rw [made?, missing, Option.map_none]
  | setLevel h level =>
    show Step b _ (b.setLevel h level)
    unfold setLevel
    split
    · next found => exact .set found
    · exact .idle rfl
  | log h line =>
    show Step b _ (b.log h line)
    unfold log
    split
    · next found =>
      split
      · exact .forwarded found
      · exact .idle rfl
    · exact .idle rfl

theorem handles_act (b : Book) (a : Action) : (b.act a).handles = b.handles ++ (b.made? a).toList := by
  have step := step_act b a
  generalize b.act a = c at step ⊢
  cases step with
  | idle none => rw [none, Option.toList_none, List.append_nil]
  | created => rfl
  | cloned found | forked found =>
    rw [made?, found]
    rfl
  | set _ | forwarded _ => exact (List.append_nil _).symm

theorem length_handles_le_act (b : Book) (a : Action) : b.handles.length ≤ (b.act a).handles.length := by
  rw [handles_act, List.length_append]
  exact Nat.le_add_right _ _

/-- A handle that is there stays what it is. -/
theorem handle_act (old : h < b.handles.length) (a : Action) : (b.act a).handles[h]? = b.handles[h]? := by
  rw [handles_act, List.getElem?_append_left old]

/-- The handle that a step makes comes last. -/
theorem handle_made {a : Action} {handle : Handle} (made : b.made? a = some handle) :
    (b.act a).handles[b.handles.length]? = some handle := by
  rw [handles_act, made, List.getElem?_append_right (Nat.le_refl _), Nat.sub_self]
  rfl

theorem length_sinks_act (b : Book) (a : Action) :
    (b.act a).sinks.length = b.sinks.length + if a matches .create _ then 1 else 0 := by
  have step := step_act b a
  generalize b.act a = c at step ⊢
  cases step with
  | idle none =>
    cases a with
    | create sink => cases none
    | clone _ | fork _ | setLevel _ _ | log _ _ => rfl
  | created => exact List.length_append
  | cloned _ | forked _ | set _ | forwarded _ => rfl

/-! ## Groups -/

/-- The group of a handle. -/
def group? (b : Book) (h : Nat) : Option Nat := (b.handles[h]?).map (·.group)

theorem group?_act (old : h < b.handles.length) (a : Action) : (b.act a).group? h = b.group? h := by
  rw [group?, group?, handle_act old]

theorem level?_eq (b : Book) (h : Nat) : b.level? h = (b.group? h).bind (b.levels[·]?) := by
  rw [level?, group?, Option.bind_map]
  rfl

/-- Handles of one group have one level. -/
theorem level?_congr (same : b.group? g = b.group? h) : b.level? g = b.level? h := by
  rw [level?_eq, level?_eq, same]

/-- Only what is a handle shares the group of one. -/
theorem lt_of_group? (same : b.group? g = b.group? h) (known : h < b.handles.length) : g < b.handles.length := by
  apply Nat.not_le.1
  intro missing
  rw [group?, List.getElem?_eq_none missing, group?, List.getElem?_eq_getElem known] at same
  cases same

/-- Every handle has a group with a level. -/
def Sound (b : Book) : Prop := ∀ handle ∈ b.handles, handle.group < b.levels.length

theorem Sound.group_lt (sound : b.Sound) {group : Nat} (found : b.group? h = some group) :
    group < b.levels.length := by
  obtain ⟨handle, here, rfl⟩ := Option.map_eq_some_iff.1 found
  exact sound handle (List.mem_of_getElem? here)

theorem length_levels_le_act (b : Book) (a : Action) : b.levels.length ≤ (b.act a).levels.length := by
  have step := step_act b a
  generalize b.act a = c at step ⊢
  cases step with
  | idle _ | cloned _ | forwarded _ => exact Nat.le_refl _
  | created | forked _ =>
    show _ ≤ (b.levels ++ _).length
    rw [List.length_append]
    exact Nat.le_add_right _ _
  | set _ => exact Nat.le_of_eq List.length_set.symm

theorem Sound.act (sound : b.Sound) (a : Action) : (b.act a).Sound := by
  intro handle here
  rw [handles_act, List.mem_append, Option.mem_toList] at here
  rcases here with old | new
  · exact Nat.lt_of_lt_of_le (sound handle old) (length_levels_le_act b a)
  · cases a with
    | create sink =>
      cases new
      simp [Book.act, create]
    | clone h =>
      exact Nat.lt_of_lt_of_le (sound handle (List.mem_of_getElem? new)) (length_levels_le_act b _)
    | fork h =>
      obtain ⟨parent, found, rfl⟩ := Option.map_eq_some_iff.1 new
      simp [Book.act, fork, found]
    | setLevel h level | log h line => cases new

/-! ## Levels -/

/-- The level of a handle that is there changes only when its group is set. -/
theorem level?_act (sound : b.Sound) (old : h < b.handles.length) {a : Action}
    (unset : ∀ g level, a = .setLevel g level → b.group? g ≠ b.group? h) : (b.act a).level? h = b.level? h := by
  rw [level?_eq, level?_eq, group?_act old]
  have group_old : b.group? h = some b.handles[h].group := by
    rw [group?, List.getElem?_eq_getElem old]
    rfl
  have known : b.handles[h].group < b.levels.length := sound.group_lt group_old
  rw [group_old, Option.bind_some, Option.bind_some]
  have step := step_act b a
  generalize b.act a = c at step ⊢
  cases step with
  | idle _ | cloned _ | forwarded _ => rfl
  | created | forked _ => exact List.getElem?_append_left known
  | @set g handle level found =>
    apply List.getElem?_set_ne
    intro same
    apply unset g level rfl
    rw [group_old, group?, found, Option.map_some, same]

theorem level?_isSome (sound : b.Sound) (known : h < b.handles.length) : (b.level? h).isSome = true := by
  have group_lt := sound _ (List.getElem_mem known)
  simp [level?, known, group_lt]

/-- Setting a level is seen by every handle of the group. -/
theorem level?_setLevel_group (sound : b.Sound) (known : h < b.handles.length) (same : b.group? g = b.group? h)
    (level : Severity) : (b.act (.setLevel g level)).level? h = some level := by
  have there := lt_of_group? same known
  have set : (b.act (.setLevel g level)).level? g = some level := level?_setLevel (level?_isSome sound there)
  rw [← set]
  apply level?_congr
  rw [group?_act there, group?_act known, same]

theorem level?_create (b : Book) (sink : Sink) :
    (b.act (.create sink)).level? b.handles.length = some .debug := by
  simp [act, create, level?]

/-- A forked handle begins at the level of its parent, in a group that no handle is in yet. -/
theorem level?_fork (sound : b.Sound) (known : h < b.handles.length) :
    (b.act (.fork h)).level? b.handles.length = b.level? h := by
  have group_lt := sound _ (List.getElem_mem known)
  simp [act, fork, level?, known, group_lt]

/-! ## Messages -/

theorem delivered_log {handle : Handle} {level : Severity} (found : b.handles[h]? = some handle)
    (known : b.level? h = some level) (line : Line) :
    (b.act (.log h line)).delivered
      = b.delivered ++ if line.severity.rank ≤ level.rank then [(handle.sink, line)] else [] := by
  by_cases passes : line.severity.rank ≤ level.rank <;>
    simp [act, log, found, enabled, known, Severity.passes, passes]

theorem delivered_aside {a : Action} (aside : ∀ h line, a ≠ .log h line) :
    (b.act a).delivered = b.delivered := by
  have step := step_act b a
  generalize b.act a = c at step ⊢
  cases step with
  | idle _ | created | cloned _ | forked _ | set _ => rfl
  | forwarded _ => exact absurd rfl (aside _ _)

/-- Setting a level is not seen by handles of other groups, nor by what is logged on them. -/
theorem setLevel_elsewhere (sound : b.Sound) (known : h < b.handles.length) (apart : b.group? g ≠ b.group? h)
    (level : Severity) :
    (b.act (.setLevel g level)).level? h = b.level? h
      ∧ (∀ severity, (b.act (.setLevel g level)).enabled h severity = b.enabled h severity)
      ∧ ∀ line, ((b.act (.setLevel g level)).act (.log h line)).delivered = (b.act (.log h line)).delivered := by
  have same : (b.act (.setLevel g level)).level? h = b.level? h := by
    apply level?_act sound known
    rintro _ _ ⟨⟩
    exact apart
  refine ⟨same, fun severity => ?_, fun line => ?_⟩
  · rw [enabled, enabled, same]
  · obtain ⟨found, has⟩ := Option.isSome_iff_exists.1 (level?_isSome sound known)
    have there := List.getElem?_eq_getElem known
    rw [delivered_log ((handle_act known _).trans there) (same.trans has), delivered_log there has,
      delivered_aside (fun _ _ same => Action.noConfusion same)]

/-! ## Books that go on -/

/-- A book after some more steps. -/
inductive Grown (b : Book) : Book → Prop
  | same : Grown b b
  | act {c : Book} (a : Action) : Grown b c → Grown b (c.act a)

variable {c d : Book}

theorem Grown.trans (first : Grown b c) (second : Grown c d) : Grown b d := by
  induction second with
  | same => exact first
  | act a _ ih => exact ih.act a

theorem grown_foldl (b : Book) (actions : List Action) : Grown b (actions.foldl Book.act b) := by
  induction actions generalizing b with
  | nil => exact .same
  | cons a actions ih => exact (Grown.same.act a).trans (ih (b.act a))

theorem Grown.sound (grown : Grown b c) (sound : b.Sound) : c.Sound := by
  induction grown with
  | same => exact sound
  | act a _ ih => exact ih.act a

theorem Grown.length_le (grown : Grown b c) : b.handles.length ≤ c.handles.length := by
  induction grown with
  | same => exact Nat.le_refl _
  | act a _ ih => exact Nat.le_trans ih (length_handles_le_act _ a)

theorem Grown.group? (grown : Grown b c) (old : h < b.handles.length) : c.group? h = b.group? h := by
  induction grown with
  | same => rfl
  | act a earlier ih => rw [group?_act (Nat.lt_of_lt_of_le old earlier.length_le), ih]

/-- A handle in a group that no handle of an earlier book is in. -/
def Apart (b later : Book) (h : Nat) : Prop :=
  h < later.handles.length ∧ ∀ g < b.handles.length, later.group? h ≠ later.group? g

/-- A forked handle is in a group of its own. -/
theorem apart_fork (sound : b.Sound) (known : h < b.handles.length) :
    Apart b (b.act (.fork h)) b.handles.length := by
  have there := List.getElem?_eq_getElem known
  have forked : b.made? (.fork h) = some ⟨b.handles[h].sink, b.levels.length⟩ := by
    rw [made?, there]
    rfl
  constructor
  · rw [handles_act, forked, List.length_append]
    exact Nat.lt_succ_self _
  · intro g old same
    rw [group?_act old, Book.group?, handle_made forked] at same
    exact Nat.lt_irrefl _ (sound.group_lt same.symm)

theorem Apart.of_grown (apart : Apart c d h) (grown : Grown b c) : Apart b d h :=
  ⟨apart.1, fun g old => apart.2 g (Nat.lt_of_lt_of_le old grown.length_le)⟩

theorem Apart.grown (apart : Apart b c h) (earlier : Grown b c) (grown : Grown c d) : Apart b d h := by
  refine ⟨Nat.lt_of_lt_of_le apart.1 grown.length_le, fun g old => ?_⟩
  rw [grown.group? apart.1, grown.group? (Nat.lt_of_lt_of_le old earlier.length_le)]
  exact apart.2 g old

end Book

end Playout.Log
