import Mathlib.Data.List.Induction
import Mathlib.Logic.Relation
import Playout.Proofs.Log.Handles

/-!
# `Playout.Proofs.Log.Histories` — levels and deliveries, told from a whole history

A book keeps one level for each group of handles. Here the same is told without any book, from the steps
that were taken: who was cloned from whom, which level was set last on any handle of that kind, and at
which level a forked handle began. The book agrees, after every history in which each step uses a handle
that has been made before.

## Contents
- `made`, `Sensible` — how many handles a history makes, and that it uses none too early.
- `MadeBy`, `Kin`, `Origin`, `HasLevel`, `Delivers` — what the steps say about a handle and about messages.
- `kin_iff`, `sink_of_origin`, `level_of_hasLevel` — the book agrees.
- `exists_origin`, `exists_hasLevel` — the steps always say something.

## Main statement
`levels_follow_history` — groups, levels and deliveries are what the steps say, and setting the level of one
group is not seen by any other.
-/

namespace Playout.Log

/-! ## What the steps say -/

/-- Whether a step makes a handle. -/
def Action.makes : Action → Bool
  | create _ | clone _ | fork _ => true
  | setLevel _ _ | log _ _ => false

/-- Whether a step makes a handle to a new sink. -/
def Action.creates : Action → Bool
  | create _ => true
  | clone _ | fork _ | setLevel _ _ | log _ _ => false

/-- The handle that a step uses, if any. -/
def Action.uses? : Action → Option Nat
  | create _ => none
  | clone h | fork h | setLevel h _ | log h _ => some h

/-- How many handles a history makes. They are numbered in the order in which they are made. -/
def made (history : List Action) : Nat := history.countP Action.makes

/-- How many sinks a history brings in. They are numbered in the order in which they come. -/
def created (history : List Action) : Nat := history.countP Action.creates

/-- Every step uses a handle that was made before it. -/
inductive Sensible : List Action → Prop
  | nil : Sensible []
  | snoc {history : List Action} {a : Action} : Sensible history → (∀ h ∈ a.uses?, h < made history) →
      Sensible (history ++ [a])

/-- The handle was made by a step, after the steps before it. -/
def MadeBy (history : List Action) (h : Nat) (before : List Action) (a : Action) : Prop :=
  ∃ after, history = before ++ a :: after ∧ a.makes = true ∧ made before = h

/-- One handle is a clone of the other. -/
def Cloned (history : List Action) (parent h : Nat) : Prop := ∃ before, MadeBy history h before (.clone parent)

/-- Two handles are related by cloning. -/
def Kin (history : List Action) : Nat → Nat → Prop := Relation.EqvGen (Cloned history)

/-- A step sets the level of a handle, on itself or on one of its kin. -/
def Sets (history : List Action) (h : Nat) (a : Action) : Prop := ∃ g level, a = .setLevel g level ∧ Kin history g h

/-- A handle goes back to the one that was made with a sink. -/
inductive Origin (history : List Action) : Nat → Nat → Prop
  | created {h : Nat} {before : List Action} {sink : Sink} : MadeBy history h before (.create sink) →
      Origin history h (created before)
  | cloned {h parent sink : Nat} {before : List Action} : MadeBy history h before (.clone parent) →
      Origin history parent sink → Origin history h sink
  | forked {h parent sink : Nat} {before : List Action} : MadeBy history h before (.fork parent) →
      Origin history parent sink → Origin history h sink

/-- The level of a handle: the last one set on any of its kin, or else the one that its kin began with. -/
inductive HasLevel : List Action → Nat → Severity → Prop
  | set {before after : List Action} {g h : Nat} {level : Severity} :
      Kin (before ++ .setLevel g level :: after) g h →
      (∀ a ∈ after, ¬ Sets (before ++ .setLevel g level :: after) h a) →
      HasLevel (before ++ .setLevel g level :: after) h level
  | created {history before : List Action} {first h : Nat} {sink : Sink} :
      MadeBy history first before (.create sink) → Kin history first h → (∀ a ∈ history, ¬ Sets history h a) →
      HasLevel history h .debug
  | forked {history before : List Action} {first h parent : Nat} {level : Severity} :
      MadeBy history first before (.fork parent) → Kin history first h → (∀ a ∈ history, ¬ Sets history h a) →
      HasLevel before parent level → HasLevel history h level

/-- What the sinks are given in a history, in order: each message that is at least as severe as the level
    that its handle has at that moment, once, and nothing else. -/
inductive Delivers : List Action → List (Nat × Line) → Prop
  | nil : Delivers [] []
  | aside {history : List Action} {delivered : List (Nat × Line)} {a : Action} : Delivers history delivered →
      (∀ h line, a ≠ .log h line) → Delivers (history ++ [a]) delivered
  | heard {history : List Action} {delivered : List (Nat × Line)} {h sink : Nat} {line : Line} {level : Severity} :
      Delivers history delivered → Origin history h sink → HasLevel history h level →
      line.severity.rank ≤ level.rank → Delivers (history ++ [.log h line]) (delivered ++ [(sink, line)])
  | unheard {history : List Action} {delivered : List (Nat × Line)} {h : Nat} {line : Line} {level : Severity} :
      Delivers history delivered → HasLevel history h level → level.rank < line.severity.rank →
      Delivers (history ++ [.log h line]) delivered

/-! ## Histories that go on -/

variable {history before after : List Action} {a : Action} {g h sink : Nat} {level : Severity}

theorem made_append (before after : List Action) : made (before ++ after) = made before + made after :=
  List.countP_append

theorem Sensible.of_snoc (sensible : Sensible (history ++ [a])) :
    Sensible history ∧ ∀ h ∈ a.uses?, h < made history := by
  generalize whole : history ++ [a] = longer at sensible
  cases sensible with
  | nil => simp at whole
  | snoc sensible uses =>
    obtain ⟨rfl, same⟩ := List.append_inj' whole rfl
    cases same
    exact ⟨sensible, uses⟩

theorem Sensible.of_append (sensible : Sensible (before ++ after)) : Sensible before := by
  induction after using List.reverseRecOn with
  | nil => rwa [List.append_nil] at sensible
  | append_singleton after a ih =>
    rw [← List.append_assoc] at sensible
    exact ih sensible.of_snoc.1

/-- The step that comes next in a history, and the history up to it. -/
theorem Sensible.of_cut (sensible : Sensible (before ++ a :: after)) :
    Sensible (before ++ [a]) ∧ ∀ h ∈ a.uses?, h < made before := by
  rw [List.append_cons] at sensible
  exact ⟨sensible.of_append, sensible.of_append.of_snoc.2⟩

theorem MadeBy.append (by_step : MadeBy history h before a) (more : List Action) :
    MadeBy (history ++ more) h before a := by
  obtain ⟨after, rfl, makes, rfl⟩ := by_step
  exact ⟨after ++ more, by simp, makes, rfl⟩

theorem MadeBy.makes (by_step : MadeBy history h before a) : a.makes = true := by
  obtain ⟨-, -, makes, -⟩ := by_step
  exact makes

theorem MadeBy.number (by_step : MadeBy history h before a) : made before = h := by
  obtain ⟨-, -, -, number⟩ := by_step
  exact number

theorem MadeBy.sensible (by_step : MadeBy history h before a) (sensible : Sensible history) : Sensible before := by
  obtain ⟨after, rfl, -, -⟩ := by_step
  exact sensible.of_append

theorem MadeBy.length_lt (by_step : MadeBy history h before a) : before.length < history.length := by
  obtain ⟨after, rfl, -, -⟩ := by_step
  rw [List.length_append, List.length_cons]
  omega

theorem madeBy_last (makes : a.makes = true) : MadeBy (history ++ [a]) (made history) history a :=
  ⟨[], rfl, makes, rfl⟩

theorem Kin.append (kin : Kin history g h) (more : List Action) : Kin (history ++ more) g h :=
  kin.mono fun _ _ ⟨before, by_step⟩ => ⟨before, by_step.append more⟩

/-- Every handle is made by some step. -/
theorem exists_madeBy (known : h < made history) : ∃ before a, MadeBy history h before a := by
  induction history using List.reverseRecOn with
  | nil => exact absurd known (Nat.not_lt_zero h)
  | append_singleton history a ih =>
    by_cases old : h < made history
    · obtain ⟨before, b, by_step⟩ := ih old
      exact ⟨before, b, by_step.append [a]⟩
    · rw [made_append] at known
      by_cases makes : a.makes = true
      · have last : h = made history := by
          have one : made [a] = 1 := by simp [made, makes]
          omega
        exact ⟨history, a, last ▸ madeBy_last makes⟩
      · have none : made [a] = 0 := by simp [made, makes]
        omega

/-! ## Handles -/

theorem ofHistory_snoc (history : List Action) (a : Action) :
    Book.ofHistory (history ++ [a]) = (Book.ofHistory history).act a := List.foldl_append ..

theorem sound_ofHistory (history : List Action) : (Book.ofHistory history).Sound := by
  induction history using List.reverseRecOn with
  | nil => exact fun _ here => absurd here List.not_mem_nil
  | append_singleton history a ih =>
    rw [ofHistory_snoc]
    exact ih.act a

theorem length_handles (sensible : Sensible history) : (Book.ofHistory history).handles.length = made history := by
  induction history using List.reverseRecOn with
  | nil => rfl
  | append_singleton history a ih =>
    obtain ⟨shorter, uses⟩ := sensible.of_snoc
    rw [ofHistory_snoc, Book.handles_act, List.length_append, ih shorter, made_append]
    congr 1
    cases a with
    | create sink | setLevel h level | log h line => rfl
    | clone h | fork h =>
      have known : h < (Book.ofHistory history).handles.length := (ih shorter).symm ▸ uses h rfl
      simp [Book.made?, known, made, Action.makes]

theorem length_sinks (history : List Action) : (Book.ofHistory history).sinks.length = created history := by
  induction history using List.reverseRecOn with
  | nil => rfl
  | append_singleton history a ih =>
    rw [ofHistory_snoc, created, List.countP_append, ← created, ← ih, Book.length_sinks_act]
    cases a <;> rfl

/-- A handle stays what it is, whatever follows. -/
theorem handle_append (sensible : Sensible (before ++ after)) (known : h < made before) :
    (Book.ofHistory (before ++ after)).handles[h]? = (Book.ofHistory before).handles[h]? := by
  induction after using List.reverseRecOn with
  | nil => rw [List.append_nil]
  | append_singleton after a ih =>
    rw [← List.append_assoc] at sensible ⊢
    have shorter := sensible.of_snoc.1
    rw [ofHistory_snoc, Book.handle_act _ a, ih shorter]
    rw [length_handles shorter, made_append]
    omega

/-- The handle that a step made is, ever after, what the step made it. -/
theorem handle_of_madeBy (sensible : Sensible history) (by_step : MadeBy history h before a) {handle : Handle}
    (made : (Book.ofHistory before).made? a = some handle) : (Book.ofHistory history).handles[h]? = some handle := by
  obtain ⟨after, rfl, makes, rfl⟩ := by_step
  have cut := sensible.of_cut.1
  rw [List.append_cons] at sensible ⊢
  rw [handle_append sensible, ofHistory_snoc, ← length_handles cut.of_append]
  · exact Book.handle_made made
  · simp [Log.made, makes]

/-- A handle that was made from another is what the step made of that. -/
theorem parent_known (sensible : Sensible history) (by_step : MadeBy history h before a) {parent : Nat}
    (uses : a.uses? = some parent) : parent < made before ∧
      (Book.ofHistory history).handles[parent]? = (Book.ofHistory before).handles[parent]? := by
  obtain ⟨after, rfl, -, -⟩ := by_step
  have known := sensible.of_cut.2 parent uses
  exact ⟨known, handle_append sensible known⟩

/-! ## Groups -/

theorem group?_append (sensible : Sensible (before ++ after)) (known : h < made before) :
    (Book.ofHistory (before ++ after)).group? h = (Book.ofHistory before).group? h := by
  rw [Book.group?, Book.group?, handle_append sensible known]

/-- Kin have one group: a clone has its parent's. -/
theorem group?_of_kin (sensible : Sensible history) (kin : Kin history g h) :
    (Book.ofHistory history).group? g = (Book.ofHistory history).group? h := by
  induction kin with
  | rel parent h cloned =>
    obtain ⟨before, by_step⟩ := cloned
    obtain ⟨known, same⟩ := parent_known sensible by_step rfl
    have cut := length_handles (by_step.sensible sensible)
    have there := List.getElem?_eq_getElem (cut ▸ known)
    rw [Book.group?, Book.group?, same, there, handle_of_madeBy sensible by_step there]
  | refl h => rfl
  | symm g h _ ih => exact ih.symm
  | trans g h k _ _ first second => exact first.trans second

/-- A new handle comes into the group of an old one only as a clone of its kin. -/
theorem kin_of_new (sensible : Sensible (history ++ [a])) (makes : a.makes = true) (known : g < made history)
    (same : (Book.ofHistory (history ++ [a])).group? g = (Book.ofHistory (history ++ [a])).group? (made history))
    (old : ∀ h < made history, (Book.ofHistory history).group? g = (Book.ofHistory history).group? h →
      Kin history g h) : Kin (history ++ [a]) g (made history) := by
  obtain ⟨shorter, uses⟩ := sensible.of_snoc
  have length := length_handles shorter
  have by_step : MadeBy (history ++ [a]) (made history) history a := madeBy_last makes
  rw [group?_append sensible known] at same
  -- a group of its own is none that an old handle can be in
  have alone : (Book.ofHistory (history ++ [a])).group? (made history)
      ≠ some (Book.ofHistory history).levels.length := by
    intro fresh
    have within := (sound_ofHistory history).group_lt (same.trans fresh)
    exact Nat.lt_irrefl _ within
  cases a with
  | create sink =>
    exfalso
    apply alone
    rw [Book.group?, handle_of_madeBy sensible by_step rfl]
    rfl
  | clone parent =>
    have there := List.getElem?_eq_getElem (length ▸ uses parent rfl)
    have cloned := handle_of_madeBy sensible by_step there
    apply Relation.EqvGen.trans g parent _
    · apply Kin.append
      apply old parent (uses parent rfl)
      rw [same, Book.group?, Book.group?, cloned, there]
    · exact .rel parent _ ⟨history, by_step⟩
  | fork parent =>
    have there := List.getElem?_eq_getElem (length ▸ uses parent rfl)
    exfalso
    apply alone
    rw [Book.group?, handle_of_madeBy sensible by_step (by rw [Book.made?, there]; rfl)]
    rfl
  | setLevel h level | log h line => cases makes

/-- Only kin have one group. -/
theorem kin_of_group? (sensible : Sensible history) (knownG : g < made history) (knownH : h < made history)
    (same : (Book.ofHistory history).group? g = (Book.ofHistory history).group? h) : Kin history g h := by
  induction history using List.reverseRecOn generalizing g h with
  | nil => exact absurd knownG (Nat.not_lt_zero g)
  | append_singleton history a ih =>
    have shorter := sensible.of_snoc.1
    by_cases old : g < made history ∧ h < made history
    · rw [group?_append sensible old.1, group?_append sensible old.2] at same
      exact (ih shorter old.1 old.2 same).append [a]
    · -- one of them at least is the handle that the last step made
      have makes : a.makes = true := by
        by_contra none
        have : made [a] = 0 := by simp [made, none]
        rw [made_append] at knownG knownH
        omega
      have one : made (history ++ [a]) = made history + 1 := by
        rw [made_append]
        simp [made, makes]
      rw [one] at knownG knownH
      by_cases oldG : g < made history
      · obtain rfl : h = made history := by omega
        exact kin_of_new sensible makes oldG same fun _ known same => ih shorter oldG known same
      · obtain rfl : g = made history := by omega
        by_cases oldH : h < made history
        · exact (kin_of_new sensible makes oldH same.symm fun _ known same => ih shorter oldH known same).symm
        · obtain rfl : h = made history := by omega
          exact .refl _

/-- **Groups are kinships.** -/
theorem kin_iff (sensible : Sensible history) (knownG : g < made history) (knownH : h < made history) :
    (Book.ofHistory history).group? g = (Book.ofHistory history).group? h ↔ Kin history g h :=
  ⟨kin_of_group? sensible knownG knownH, group?_of_kin sensible⟩

/-! ## Levels -/

theorem Sets.append (sets : Sets history h a) (more : List Action) : Sets (history ++ more) h a := by
  obtain ⟨g, level, rfl, kin⟩ := sets
  exact ⟨g, level, rfl, kin.append more⟩

theorem Sets.of_kin (kin : Kin history g h) (sets : Sets history g a) : Sets history h a := by
  obtain ⟨k, level, rfl, other⟩ := sets
  exact ⟨k, level, rfl, other.trans _ _ _ kin⟩

/-- A level stays as long as it is not set on any kin. -/
theorem level?_append (sensible : Sensible (before ++ after)) (known : h < made before)
    (unset : ∀ a ∈ after, ¬ Sets (before ++ after) h a) :
    (Book.ofHistory (before ++ after)).level? h = (Book.ofHistory before).level? h := by
  induction after using List.reverseRecOn with
  | nil => rw [List.append_nil]
  | append_singleton after a ih =>
    rw [← List.append_assoc] at sensible unset ⊢
    obtain ⟨shorter, uses⟩ := sensible.of_snoc
    have still : h < made (before ++ after) := by
      rw [made_append]
      omega
    rw [ofHistory_snoc, Book.level?_act (sound_ofHistory _)]
    · apply ih shorter
      intro b mem sets
      exact unset b (List.mem_append_left _ mem) (sets.append [a])
    · rw [length_handles shorter]
      exact still
    · rintro g level rfl same
      have kin := kin_of_group? shorter (uses g rfl) still same
      exact unset _ (List.mem_append_right _ List.mem_cons_self) ⟨g, level, rfl, kin.append _⟩

/-- As long as no level is set, it is the one that the first of the kin was made with. -/
theorem level?_of_first {first : Nat} (sensible : Sensible history) (by_step : MadeBy history first before a)
    (kin : Kin history first h) (unset : ∀ b ∈ history, ¬ Sets history h b) :
    (Book.ofHistory history).level? h = ((Book.ofHistory before).act a).level? (Book.ofHistory before).handles.length := by
  rw [← Book.level?_congr (group?_of_kin sensible kin)]
  obtain ⟨after, rfl, makes, rfl⟩ := by_step
  have cut := sensible.of_cut.1
  rw [List.append_cons] at sensible unset kin ⊢
  rw [level?_append sensible, ofHistory_snoc, length_handles cut.of_append]
  · simp [made, makes]
  · intro b mem sets
    exact unset b (List.mem_append_right _ mem) (sets.of_kin kin)

/-- **The book has the level that the steps say.** -/
theorem level_of_hasLevel (sensible : Sensible history) (has : HasLevel history h level) :
    (Book.ofHistory history).level? h = some level := by
  induction has with
  | @set before after g h level kin last =>
    rw [← Book.level?_congr (group?_of_kin sensible kin)]
    obtain ⟨cut, uses⟩ := sensible.of_cut
    have known := uses g rfl
    rw [List.append_cons] at sensible kin last ⊢
    rw [level?_append sensible, ofHistory_snoc]
    · apply Book.level?_setLevel_group (sound_ofHistory before) _ rfl
      rw [length_handles cut.of_append]
      exact known
    · rw [made_append]
      omega
    · intro b mem sets
      exact last b mem (sets.of_kin kin)
  | created by_step kin unset =>
    rw [level?_of_first sensible by_step kin unset]
    exact Book.level?_create _ _
  | @forked history before first h parent level by_step kin unset parents ih =>
    have shorter := by_step.sensible sensible
    have known := (parent_known sensible by_step rfl).1
    rw [level?_of_first sensible by_step kin unset, Book.level?_fork (sound_ofHistory before), ih shorter]
    rw [length_handles shorter]
    exact known

/-- Among the entries of a list that are of some kind, one is the last. -/
theorem exists_last {α : Type} {p : α → Prop} {l : List α} (some : ∃ a ∈ l, p a) :
    ∃ front a back, l = front ++ a :: back ∧ p a ∧ ∀ b ∈ back, ¬ p b := by
  induction l using List.reverseRecOn with
  | nil =>
    obtain ⟨a, mem, -⟩ := some
    cases mem
  | append_singleton l last ih =>
    by_cases here : p last
    · exact ⟨l, last, [], rfl, here, fun _ mem => absurd mem List.not_mem_nil⟩
    · have earlier : ∃ a ∈ l, p a := by
        obtain ⟨a, mem, holds⟩ := some
        rcases List.mem_append.1 mem with before | now
        · exact ⟨a, before, holds⟩
        · rw [List.mem_singleton.1 now] at holds
          exact absurd holds here
      obtain ⟨front, a, back, rfl, holds, none⟩ := ih earlier
      refine ⟨front, a, back ++ [last], by simp, holds, ?_⟩
      intro b mem
      rcases List.mem_append.1 mem with before | now
      · exact none b before
      · rwa [List.mem_singleton.1 now]

/-- Every kinship begins with a handle that is no clone. -/
theorem exists_first (sensible : Sensible history) (known : h < made history) :
    ∃ first before a, MadeBy history first before a ∧ Kin history first h ∧ ∀ parent, a ≠ .clone parent := by
  induction h using Nat.strongRecOn with
  | ind h ih =>
    obtain ⟨before, a, by_step⟩ := exists_madeBy known
    by_cases clone : ∃ parent, a = .clone parent
    · obtain ⟨parent, rfl⟩ := clone
      have earlier : parent < h := by_step.number ▸ (parent_known sensible by_step rfl).1
      obtain ⟨first, start, b, by_first, kin, noClone⟩ := ih parent earlier (Nat.lt_trans earlier known)
      exact ⟨first, start, b, by_first, kin.trans _ _ _ (.rel _ _ ⟨before, by_step⟩), noClone⟩
    · exact ⟨h, before, a, by_step, .refl h, fun parent same => clone ⟨parent, same⟩⟩

/-- The steps say some level of every handle. -/
theorem exists_hasLevel (sensible : Sensible history) (known : h < made history) :
    ∃ level, HasLevel history h level := by
  induction length : history.length using Nat.strongRecOn generalizing history h with
  | ind n ih =>
    by_cases set : ∃ a ∈ history, Sets history h a
    · obtain ⟨before, _, after, rfl, ⟨g, level, rfl, kin⟩, last⟩ := exists_last set
      exact ⟨level, .set kin last⟩
    · have unset : ∀ a ∈ history, ¬ Sets history h a := fun a mem sets => set ⟨a, mem, sets⟩
      obtain ⟨first, before, a, by_step, kin, noClone⟩ := exists_first sensible known
      cases a with
      | create sink => exact ⟨.debug, .created by_step kin unset⟩
      | clone parent => exact absurd rfl (noClone parent)
      | fork parent =>
        have earlier := (parent_known sensible by_step rfl).1
        have shorter : before.length < n := length ▸ by_step.length_lt
        obtain ⟨level, parents⟩ := ih before.length shorter (by_step.sensible sensible) earlier rfl
        exact ⟨level, .forked by_step kin unset parents⟩
      | setLevel | log => cases by_step.makes

theorem level?_iff (sensible : Sensible history) (known : h < made history) :
    (Book.ofHistory history).level? h = some level ↔ HasLevel history h level := by
  constructor
  · intro found
    obtain ⟨other, has⟩ := exists_hasLevel sensible known
    have same := (level_of_hasLevel sensible has).symm.trans found
    rwa [Option.some.inj same] at has
  · exact level_of_hasLevel sensible

/-! ## Sinks -/

/-- **The book has the sink that the steps say.** -/
theorem sink_of_origin (sensible : Sensible history) (origin : Origin history h sink) :
    ((Book.ofHistory history).handles[h]?).map (·.sink) = some sink := by
  induction origin with
  | created by_step =>
    rw [handle_of_madeBy sensible by_step rfl, Option.map_some, length_sinks]
  | cloned by_step parents ih =>
    obtain ⟨handle, there, rfl⟩ := Option.map_eq_some_iff.1 ih
    rw [(parent_known sensible by_step rfl).2] at there
    rw [handle_of_madeBy sensible by_step there, Option.map_some]
  | forked by_step parents ih =>
    obtain ⟨handle, there, rfl⟩ := Option.map_eq_some_iff.1 ih
    rw [(parent_known sensible by_step rfl).2] at there
    rw [handle_of_madeBy sensible by_step (by rw [Book.made?, there]; rfl), Option.map_some]

/-- Every handle goes back to a sink. -/
theorem exists_origin (sensible : Sensible history) (known : h < made history) : ∃ sink, Origin history h sink := by
  induction h using Nat.strongRecOn with
  | ind h ih =>
    obtain ⟨before, a, by_step⟩ := exists_madeBy known
    have parents {parent : Nat} (uses : a.uses? = some parent) : ∃ sink, Origin history parent sink := by
      have earlier : parent < h := by_step.number ▸ (parent_known sensible by_step uses).1
      exact ih parent earlier (Nat.lt_trans earlier known)
    cases a with
    | create sink => exact ⟨created before, .created by_step⟩
    | clone parent =>
      obtain ⟨sink, origin⟩ := parents rfl
      exact ⟨sink, .cloned by_step origin⟩
    | fork parent =>
      obtain ⟨sink, origin⟩ := parents rfl
      exact ⟨sink, .forked by_step origin⟩
    | setLevel | log => cases by_step.makes

/-! ## Messages -/

/-- A logged message goes to the sink that its handle goes back to, once, if it is severe enough. -/
theorem delivered_snoc_log (sensible : Sensible history) (origin : Origin history h sink)
    (has : HasLevel history h level) (line : Line) :
    (Book.ofHistory (history ++ [.log h line])).delivered
      = (Book.ofHistory history).delivered ++ if line.severity.rank ≤ level.rank then [(sink, line)] else [] := by
  obtain ⟨handle, there, rfl⟩ := Option.map_eq_some_iff.1 (sink_of_origin sensible origin)
  rw [ofHistory_snoc]
  exact Book.delivered_log there (level_of_hasLevel sensible has) line

theorem delivered_of_delivers {delivered : List (Nat × Line)} (sensible : Sensible history)
    (delivers : Delivers history delivered) : (Book.ofHistory history).delivered = delivered := by
  induction delivers with
  | nil => rfl
  | aside _ aside ih =>
    rw [ofHistory_snoc, Book.delivered_aside aside, ih sensible.of_snoc.1]
  | heard _ origin has severe ih =>
    have shorter := sensible.of_snoc.1
    rw [delivered_snoc_log shorter origin has, if_pos severe, ih shorter]
  | unheard _ has mild ih =>
    obtain ⟨shorter, uses⟩ := sensible.of_snoc
    obtain ⟨sink, origin⟩ := exists_origin shorter (uses _ rfl)
    rw [delivered_snoc_log shorter origin has, if_neg (Nat.not_le.2 mild), List.append_nil, ih shorter]

/-- The steps say of every message what becomes of it. -/
theorem delivers_delivered (sensible : Sensible history) : Delivers history (Book.ofHistory history).delivered := by
  induction sensible with
  | nil => exact .nil
  | @snoc history a sensible uses ih =>
    by_cases log : ∃ h line, a = .log h line
    · obtain ⟨h, line, rfl⟩ := log
      have known := uses h rfl
      obtain ⟨level, has⟩ := exists_hasLevel sensible known
      obtain ⟨sink, origin⟩ := exists_origin sensible known
      rw [delivered_snoc_log sensible origin has]
      by_cases severe : line.severity.rank ≤ level.rank
      · rw [if_pos severe]
        exact .heard ih origin has severe
      · rw [if_neg severe, List.append_nil]
        exact .unheard ih has (Nat.not_le.1 severe)
    · have aside : ∀ h line, a ≠ .log h line := fun h line same => log ⟨h, line, same⟩
      rw [ofHistory_snoc, Book.delivered_aside aside]
      exact .aside ih aside

/-- **Levels follow the history.** Handles share a group exactly when they are related by cloning. Each
    handle has the level that was set last on any of its kin, or else the one its kin began with, and forwards
    what is at least as severe; every message it forwards reaches the sink it goes back to, once. Setting the
    level of a handle changes nothing for those that are not its kin. -/
theorem levels_follow_history (sensible : Sensible history) :
    (∀ g h, g < made history → h < made history →
        ((Book.ofHistory history).group? g = (Book.ofHistory history).group? h ↔ Kin history g h))
      ∧ (∀ h < made history, (∃ level, HasLevel history h level)
          ∧ ∀ level, (Book.ofHistory history).level? h = some level ↔ HasLevel history h level)
      ∧ (∀ h level severity, HasLevel history h level →
          ((Book.ofHistory history).enabled h severity = true ↔ severity.rank ≤ level.rank))
      ∧ (∀ delivered, (Book.ofHistory history).delivered = delivered ↔ Delivers history delivered)
      ∧ ∀ g level, ∀ h < made history, ¬ Kin history g h →
          (Book.ofHistory (history ++ [.setLevel g level])).level? h = (Book.ofHistory history).level? h
            ∧ (∀ severity, (Book.ofHistory (history ++ [.setLevel g level])).enabled h severity
                = (Book.ofHistory history).enabled h severity)
            ∧ ∀ line, (Book.ofHistory (history ++ [.setLevel g level] ++ [.log h line])).delivered
                = (Book.ofHistory (history ++ [.log h line])).delivered := by
  refine ⟨fun g h knownG knownH => kin_iff sensible knownG knownH,
    fun h known => ⟨exists_hasLevel sensible known, fun level => level?_iff sensible known⟩, ?_, ?_, ?_⟩
  · intro h level severity has
    simp [Book.enabled, level_of_hasLevel sensible has, Severity.passes]
  · intro delivered
    constructor
    · rintro rfl
      exact delivers_delivered sensible
    · exact delivered_of_delivers sensible
  · intro g level h known apart
    have old : h < (Book.ofHistory history).handles.length := by rwa [length_handles sensible]
    simp only [ofHistory_snoc]
    apply Book.setLevel_elsewhere (sound_ofHistory history) old
    intro same
    have there := Book.lt_of_group? same old
    rw [length_handles sensible] at there
    exact apart (kin_of_group? sensible there known same)

/-- A log with a clone and a fork. The clone is set to errors only, then both the log and the fork are given a
    notice, and only the fork passes it on. -/
def cloneSet : List Action :=
  [.create .collect, .clone 0, .fork 0, .setLevel 1 .error, .log 0 ⟨.notice, "unheard"⟩, .log 2 ⟨.notice, "heard"⟩]

theorem sensible_cloneSet : Sensible cloneSet :=
  have first := Sensible.nil.snoc (a := .create .collect) (by decide)
  have second := first.snoc (a := .clone 0) (by decide)
  have third := second.snoc (a := .fork 0) (by decide)
  have fourth := third.snoc (a := .setLevel 1 .error) (by decide)
  have fifth := fourth.snoc (a := .log 0 ⟨.notice, "unheard"⟩) (by decide)
  fifth.snoc (a := .log 2 ⟨.notice, "heard"⟩) (by decide)

theorem fork_hears_on : Sensible cloneSet ∧ Kin cloneSet 0 1 ∧ ¬ Kin cloneSet 1 2 ∧ HasLevel cloneSet 0 .error
    ∧ HasLevel cloneSet 2 .debug ∧ Delivers cloneSet [(0, ⟨.notice, "heard"⟩)]
    ∧ (Book.ofHistory (cloneSet ++ [.setLevel 1 .critical])).level? 2 = some .debug := by
  obtain ⟨groups, levels, -, deliveries, apart⟩ := levels_follow_history sensible_cloneSet
  have noKin : ¬ Kin cloneSet 1 2 := by
    rw [← groups 1 2 (by decide) (by decide)]
    decide
  refine ⟨sensible_cloneSet, (groups 0 1 (by decide) (by decide)).1 (by decide), noKin,
    ((levels 0 (by decide)).2 .error).1 (by decide), ((levels 2 (by decide)).2 .debug).1 (by decide),
    (deliveries _).1 (by decide), ?_⟩
  rw [(apart 1 .critical 2 (by decide) noKin).1]
  decide

end Playout.Log
