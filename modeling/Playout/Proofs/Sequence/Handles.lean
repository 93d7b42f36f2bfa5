import Playout.Proofs.Sequence.Life
import Playout.Proofs.Transport.Custody

/-!
# `Playout.Proofs.Sequence.Handles` — which handle is open

Native calls open handles, use them and drop them. After each call at most one handle may be open, and nothing may be
done with one that is not. An output with a slot behind a lock has its handle in the slot between the calls, and during
a call where the custody of the slot says.

## Contents
- `Effect`, `holding`, `Sound` — what native calls do to handles, and the handle that is open after them.
- `Deed`, `Handling` — what requests do to the slot and to handles, and when they may do it.
- `Locker`, `Rests`, `Grasps` — a memory with a slot behind a lock, and what a custody says of it.
- `Locker.grasps_step`, `Locker.answered` — every request keeps it, and is answered.
-/

namespace Playout.Sequence

open Transport Program

variable {I : Interface} {M : Type}

/-! ## The open handle -/

/-- What a native call does to handles. -/
inductive Effect where
  | nothing
  | opened (h : Handle)
  /-- Nothing could be opened. -/
  | refused
  | used (h : Handle)
  | dropped (h : Handle)

/-- Whether something is opened, or was to be. -/
def Effect.opens : Effect → Bool
  | opened _ | refused => true
  | _ => false

/-- The handle that is open after an effect. It is none if another one is to be opened while one is open, or if one is
    used or dropped that is not open. -/
def Effect.on : Effect → Option Handle → Option (Option Handle)
  | nothing, held => some held
  | opened h, none => some (some h)
  | refused, none => some none
  | used h, some g => if h = g then some (some g) else none
  | dropped h, some g => if h = g then some none else none
  | _, _ => none

@[simp] theorem Effect.on_used (h : Handle) : (used h).on (some h) = some (some h) := if_pos rfl

@[simp] theorem Effect.on_dropped (h : Handle) : (dropped h).on (some h) = some none := if_pos rfl

section Ledger

variable {effect : Made I → Effect} {made : List (Made I)}

/-- The handle that is open after some calls, as long as each of them could be made. -/
def holding (effect : Made I → Effect) (made : List (Made I)) : Option (Option Handle) :=
  made.foldlM (fun held call => (effect call).on held) none

theorem holding_snoc (call : Made I) :
    holding effect (made ++ [call]) = (holding effect made).bind (effect call).on := by
  unfold holding
  rw [List.foldlM_append]
  cases List.foldlM (fun held call => (effect call).on held) none made with
  | none => rfl
  | some held => exact bind_pure ((effect call).on held)

/-- At every moment at most one handle is open, and none is used or dropped that is not. -/
def Sound (effect : Made I → Effect) (made : List (Made I)) : Prop :=
  ∀ early, early <+: made → (holding effect early).isSome = true

/-- A list of calls with a handle at its end, or without one, was sound at every moment. -/
theorem sound_of_holding {held : Option Handle} (holds : holding effect made = some held) : Sound effect made := by
  rintro early ⟨late, rfl⟩
  unfold holding at holds ⊢
  rw [List.foldlM_append] at holds
  obtain ⟨held, before, -⟩ := Option.bind_eq_some_iff.1 holds
  rw [before]
  rfl

end Ledger

/-! ## A slot behind a lock -/

/-- What a request does to the slot or to handles. -/
inductive Deed where
  /-- The slot is locked, with what lies in it. -/
  | took (found : Option Handle)
  /-- The slot is filled and unlocked. -/
  | put (kept : Option Handle)
  | does (effect : Effect)

/-- What may be done by a call, and what it then has to do with the slot. -/
inductive Handling : Custody → Deed → Custody → Prop where
  | found {h} : Handling .before (.took (some h)) (.owning h)
  | unfilled : Handling .before (.took none) .vacant
  | closing {h} : Handling .called (.took (some h)) (.owning h)
  | closed : Handling .called (.took none) .vacant
  | opened {h} : Handling .vacant (.does (.opened h)) (.owning h)
  | refused : Handling .vacant (.does .refused) .vacant
  | used {h} : Handling (.owning h) (.does (.used h)) (.owning h)
  | dropped {h} : Handling (.owning h) (.does (.dropped h)) .vacant
  | kept {h} : Handling (.owning h) (.put (some h)) (.left true)
  | emptied : Handling .vacant (.put none) (.left false)
  | nothing {x} : Handling x (.does .nothing) x

/-- How the memory follows a deed. -/
inductive Placed (slot : M → Option Handle) (locked : M → Bool) (m : M) : Deed → M → Prop where
  | nothing {m'} (same : slot m' = slot m) (lock : locked m' = locked m) : Placed slot locked m (.does .nothing) m'
  | took {m'} (free : locked m = false) (lock : locked m' = true) : Placed slot locked m (.took (slot m)) m'
  | put {kept m'} (lies : slot m' = kept) (lock : locked m' = false) : Placed slot locked m (.put kept) m'

/-- A memory with a slot behind a lock. The slot is inside; whatever is done to handles is native. -/
structure Locker (I : Interface) (M : Type) where
  deal : Deal I M
  deed : (r : I.Request) → I.Answer r → Deed
  slot : M → Option Handle
  locked : M → Bool
  inside : ∀ {r answer m m'}, deal r m = .inside answer m' → Placed slot locked m (deed r answer) m'
  native : ∀ {r m handed}, deal r m = .native handed → ∀ answer, ∃ effect, deed r answer = .does effect

namespace Locker

/-- What a native call does to handles. -/
def effect (k : Locker I M) (call : Made I) : Effect :=
  match k.deed call.request call.answer with
  | .does effect => effect
  | _ => .nothing

/-- Between two calls the open handle lies in the slot, and the lock is free. -/
structure Rests (k : Locker I M) (s : M × List (Made I)) : Prop where
  free : k.locked s.1 = false
  lies : holding k.effect s.2 = some (k.slot s.1)

/-- What a custody says of the slot and the open handle. -/
def Grasps (k : Locker I M) (s : M × List (Made I)) : Custody → Prop
  | .owning h => k.locked s.1 = true ∧ holding k.effect s.2 = some (some h)
  | .vacant => k.locked s.1 = true ∧ holding k.effect s.2 = some none
  | .left kept => k.Rests s ∧ (k.slot s.1).isSome = kept
  | .before | .called | .barred => k.Rests s

variable {k : Locker I M} {s s' : M × List (Made I)} {made : List (Made I)} {x x' : Custody}

/-- The protocol of the calls. -/
def moves (k : Locker I M) : Moves I Custody := fun x r answer x' => Handling x (k.deed r answer) x'

/-- Whatever a call has to do with the slot, what was done so far is sound. -/
theorem Grasps.sound (grasps : k.Grasps s x) : Sound k.effect s.2 := by
  cases x with
  | owning | vacant => exact sound_of_holding grasps.2
  | left => exact sound_of_holding grasps.1.lies
  | before | called | barred => exact sound_of_holding grasps.lies

/-- A custody says nothing else of a state with the same slot, lock and handle. -/
theorem Grasps.congr (grasps : k.Grasps s x) (slot : k.slot s'.1 = k.slot s.1) (lock : k.locked s'.1 = k.locked s.1)
    (held : holding k.effect s'.2 = holding k.effect s.2) : k.Grasps s' x := by
  have rests (rests : k.Rests s) : k.Rests s' :=
    ⟨lock.trans rests.free, held.trans (rests.lies.trans (congrArg some slot.symm))⟩
  cases x with
  | owning | vacant => exact ⟨lock.trans grasps.1, held.trans grasps.2⟩
  | left => exact ⟨rests grasps.1, (congrArg Option.isSome slot).trans grasps.2⟩
  | before | called | barred => exact rests grasps

/-- What the memory does. -/
theorem grasps_placed {deed : Deed} {m m' : M} (handling : Handling x deed x') (grasps : k.Grasps (m, made) x)
    (placed : Placed k.slot k.locked m deed m') : k.Grasps (m', made) x' := by
  cases placed with
  | nothing same lock =>
    cases handling
    exact grasps.congr same lock rfl
  | took free lock =>
    generalize lies : k.slot m = found at handling
    cases handling with
    | found | closing => exact ⟨lock, grasps.lies.trans (congrArg some lies)⟩
    | unfilled | closed => exact ⟨lock, grasps.lies.trans (congrArg some lies)⟩
  | put lies lock =>
    cases handling with
    | kept | emptied => exact ⟨⟨lock, grasps.2.trans (congrArg some lies.symm)⟩, by rw [lies]; rfl⟩

/-- What the native side does. -/
theorem grasps_native {r : I.Request} {answer : I.Answer r} {handed : Handed} {effect : Effect} {m : M}
    (does : k.deed r answer = .does effect) (handling : Handling x (.does effect) x') (grasps : k.Grasps (m, made) x) :
    k.Grasps (m, made ++ [⟨r, handed, answer⟩]) x' := by
  have is : k.effect ⟨r, handed, answer⟩ = effect := by
    unfold Locker.effect
    rw [does]
  have held : holding k.effect (made ++ [⟨r, handed, answer⟩]) = (holding k.effect made).bind effect.on := by
    rw [holding_snoc, is]
  cases handling with
  | opened | refused =>
    rw [grasps.2] at held
    exact ⟨grasps.1, held⟩
  | used =>
    rw [grasps.2] at held
    exact ⟨grasps.1, held.trans (Effect.on_used _)⟩
  | dropped =>
    rw [grasps.2] at held
    exact ⟨grasps.1, held.trans (Effect.on_dropped _)⟩
  | nothing => exact grasps.congr rfl rfl (held.trans (Option.bind_fun_some _))

/-- **Every request keeps what the custody says.** -/
theorem grasps_step {native : Native I} {r : I.Request} {answer : I.Answer r}
    (handling : Handling x (k.deed r answer) x') (grasps : k.Grasps s x)
    (told : react k.deal native r s = some (answer, s')) : k.Grasps s' x' := by
  obtain ⟨m, made⟩ := s
  obtain ⟨m', dealt, rfl⟩ | ⟨handed, dealt, rfl⟩ := react_cases told
  · exact grasps_placed handling grasps (k.inside dealt)
  · obtain ⟨effect, does⟩ := k.native dealt answer
    rw [does] at handling
    exact grasps_native does handling grasps

/-- Whoever takes the slot finds its lock free. -/
theorem free_of_took {found : Option Handle} (handling : Handling x (.took found) x') (grasps : k.Grasps s x) :
    k.locked s.1 = false := by
  cases handling with
  | found | unfilled | closing | closed => exact grasps.free

/-- A request that may be made is answered, unless it waits for another lock than that of the slot. -/
theorem answered {native : Native I} {r : I.Request} (grasps : k.Grasps s x)
    (handling : ∀ answer, ∃ x', Handling x (k.deed r answer) x')
    (waits : k.deal r s.1 = .blocks → k.locked s.1 = true ∧ ∃ answer found, k.deed r answer = .took found) :
    ∃ answer s', react k.deal native r s = some (answer, s') := by
  cases dealt : k.deal r s.1 with
  | inside answer m => exact ⟨answer, (m, s.2), by simp [react, dealt]⟩
  | native handed => exact ⟨native s.2 r handed, _, by simp only [react, dealt]; rfl⟩
  | blocks =>
    obtain ⟨locked, answer, found, took⟩ := waits dealt
    obtain ⟨x', handling⟩ := handling answer
    rw [took] at handling
    cases locked.symm.trans (free_of_took handling grasps)

end Locker

end Playout.Sequence
