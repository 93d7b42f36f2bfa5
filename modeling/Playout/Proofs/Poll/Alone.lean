import Playout.Proofs.Sequence.Memories

/-!
# `Playout.Proofs.Poll.Alone` — the locks and the mark while nobody else uses the output

Whoever is alone finds both locks free, and a stop finds no mark, since the play that had set it has taken it off.

## Contents
- `Alone` — what a stance says of the locks and the mark.
- `Alone.answered`, `Shift.alone` — every request is answered, and keeps it.
- `run_alone`, `run_stop` — so does a call, and a stop changes nothing.
-/

namespace Playout.Poll

open Sequence Transport Program

/-- What a stance says of the locks and the mark. -/
structure Alone (c : Stance) (m : Shared Unit) : Prop where
  slot : m.keeper.isSome = c.keeps
  lock : m.holder.isSome = c.inside
  mark : m.active = c.shows
  /-- Nobody has seen the mark. -/
  unseen : c.sees ≠ some true

variable {native : Native Poll.Interface} {m : Shared Unit} {made : List (Made Poll.Interface)} {c c' : Stance}
  {r : Poll.Request} {answer : Poll.Request.Answer r} {s s' : Shared Unit × List (Made Poll.Interface)}

/-- Before a call and after it the locks are free and there is no mark. -/
theorem Alone.idle (alone : Alone .apart m) : m.keeper = none ∧ m.holder = none ∧ m.active = false :=
  ⟨Option.not_isSome_iff_eq_none.1 (Bool.eq_false_iff.1 alone.slot),
    Option.not_isSome_iff_eq_none.1 (Bool.eq_false_iff.1 alone.lock), alone.mark⟩

/-- A call begins so. -/
theorem Alone.enter (alone : Alone .apart m) (command : Command) : Alone (Poll.enter command).stance m := by
  have fresh := fresh_enter command
  refine ⟨alone.slot.trans fresh.keeps.symm, alone.lock.trans fresh.inside.symm, alone.mark.trans fresh.shows.symm, ?_⟩
  rw [fresh.sees]
  exact nofun

/-- Every request is answered. -/
theorem Alone.answered (native : Native Poll.Interface) (alone : Alone c s.1)
    (shifts : ∀ answer, ∃ c', Shift c r answer c') : ∃ answer s', react deal native r s = some (answer, s') := by
  obtain ⟨m, made⟩ := s
  cases r with
  | takeDevice =>
    have free : m.keeper.isSome = false := by
      obtain ⟨c', shift⟩ := shifts none
      rw [alone.slot]
      cases shift with
      | idle aloof => cases aloof
      | take | close => rfl
    exact ⟨m.slot, ({ m with keeper := some () }, made), by simp [react, deal, free]⟩
  | takeActive =>
    have free : m.holder.isSome = false := by
      obtain ⟨c', shift⟩ := shifts false
      rw [alone.lock]
      cases shift with
      | idle aloof => cases aloof
      | lock | relock | enter => rfl
    exact ⟨m.active, ({ m with holder := some () }, made), by simp [react, deal, free]⟩
  | _ => exact ⟨_, _, rfl⟩

/-- What is answered to one who is alone could be answered among others. -/
theorem reacts_of_told (told : react deal native r s = some (answer, s')) :
    Reacts (fun _ _ => True) () s.1 r answer s'.1 := by
  obtain ⟨m, made⟩ := s
  obtain ⟨m', dealt, rfl⟩ | ⟨handed, dealt, rfl⟩ := react_cases told
  · cases r with
    | takeDevice | takeActive =>
      obtain ⟨free, rfl, rfl⟩ := Dealt.taken dealt
      exact ⟨Option.not_isSome_iff_eq_none.1 (Bool.eq_false_iff.1 free), rfl, rfl⟩
    | log | putDevice | putActive | clearWakeup | notifyWakeup =>
      injection dealt with _ changed
      exact changed.symm
    | _ => cases dealt
  · cases r with
    | takeDevice | takeActive => exact absurd dealt Dealt.ne_native
    | log | putDevice | putActive | clearWakeup | notifyWakeup => cases dealt
    | wait => exact ⟨trivial, rfl⟩
    | _ => rfl

/-- Every request keeps it. -/
theorem Shift.alone (shift : Shift c r answer c') (alone : Alone c s.1)
    (told : react deal native r s = some (answer, s')) : Alone c' s'.1 := by
  have answered := reacts_of_told told
  obtain ⟨m, made⟩ := s
  obtain ⟨m', made'⟩ := s'
  cases shift with
  | idle aloof =>
    obtain rfl : m' = m := eq_of_aloof aloof answered
    exact alone
  | take | close =>
    obtain ⟨-, -, rfl⟩ : _ ∧ _ ∧ m' = _ := answered
    exact ⟨rfl, alone.lock, alone.mark, nofun⟩
  | put | shut =>
    obtain rfl : m' = _ := answered
    exact ⟨rfl, alone.lock, alone.mark, nofun⟩
  | lock | relock =>
    obtain ⟨-, -, rfl⟩ : _ ∧ _ ∧ m' = _ := answered
    exact ⟨alone.slot, rfl, alone.mark, nofun⟩
  | sweep =>
    obtain rfl : m' = _ := answered
    exact ⟨alone.slot, alone.lock, alone.mark, nofun⟩
  | mark | unmark =>
    obtain rfl : m' = _ := answered
    exact ⟨alone.slot, rfl, rfl, nofun⟩
  | watch =>
    obtain ⟨-, rfl⟩ : _ ∧ m' = m := answered
    exact alone
  | enter =>
    obtain ⟨-, rfl, rfl⟩ : _ ∧ _ ∧ m' = _ := answered
    refine ⟨alone.slot, rfl, alone.mark, ?_⟩
    rw [Stance.sees, alone.mark]
    nofun
  | notify | heeded => exact absurd rfl alone.unseen
  | unheeded =>
    obtain rfl : m' = _ := answered
    exact ⟨alone.slot, rfl, rfl, nofun⟩

variable {cfg : Config}

/-- **A call leaves the locks free and no mark.** -/
theorem run_alone {command : Command} {result : Except PlayError Unit} (alone : Alone .apart s.1)
    (yields : Yields (output cfg) deal native s command (.finished result) s') : Alone .apart s'.1 := by
  obtain ⟨c, kept, ended⟩ := run_keeps (react deal native) (fun c s => Alone c s.1) (shifts_follow cfg command)
    (alone.enter command) (fun alone => alone.answered native) fun alone shift told => shift.alone alone told
  rw [yields] at kept ended
  obtain rfl : c = .apart := ended
  exact kept

/-- A stop changes nothing then. -/
theorem run_stop (alone : Alone .apart m) : stop.run (react deal native) (m, made) = (.finished (), m, made) := by
  obtain ⟨free, unlocked, unmarked⟩ := alone.idle
  obtain ⟨slot, keeper, active, holder, wakeup⟩ := m
  subst free unlocked unmarked
  rfl

end Playout.Poll
