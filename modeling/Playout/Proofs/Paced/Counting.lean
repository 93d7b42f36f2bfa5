import Playout.Proofs.Paced.Course

/-!
# `Playout.Proofs.Paced.Counting` — what a playback counts as written

A write counts by the bytes that the device takes of it. One that has failed counts as a whole, since the playback goes
on behind it only if a stop has made up for it. What has not been counted is what is still due, and the next write
begins right there.

## Contents
- `counted` — the bytes that a trace has counted.
- `Spot.Sound` — a chunk is never empty, and begins what is due.
- `Spot.left`, `Due`, `Course.due` — what is due is what has not been counted.
- `due_of_path` — so it is all along a loop.
-/

namespace Playout.Paced

open Interleaving Program

variable {c : Config} {frameBytes rate : Nat} {x x' : Spot} {r : Paced.Request} {answer : Paced.Request.Answer r}
  {trace : Trace Paced.Interface} {bytes chunk : List UInt8}

/-! ## What is counted -/

/-- What a write counts for. -/
def Try.count (x : Try) : Nat := x.2.getD x.1.length

/-- The bytes that a trace has counted as written. -/
def counted (trace : Trace Paced.Interface) : Nat := ((tries trace).map Try.count).sum

theorem counted_snoc (trace : Trace Paced.Interface) (x : Σ r : Paced.Request, Paced.Request.Answer r) :
    counted (trace ++ [x]) = counted trace + ((attempt? x).map Try.count).getD 0 := by
  unfold counted
  rw [tries_snoc, List.map_append, List.sum_append]
  cases attempt? x <;> simp

/-- A request that is no write counts for nothing. -/
theorem counted_silent (silent : written? ⟨r, answer⟩ = none) : counted (trace ++ [⟨r, answer⟩]) = counted trace := by
  unfold counted
  rw [tries_silent silent]

theorem counted_put (chunk : List UInt8) (n : Nat) :
    counted (trace ++ [⟨.write chunk, some (.ok n)⟩]) = counted trace + n := counted_snoc _ _

theorem counted_tore {answer : Paced.Request.Answer (.write chunk)} (failed : ∀ n, answer ≠ some (.ok n)) :
    counted (trace ++ [⟨.write chunk, answer⟩]) = counted trace + chunk.length := by
  rw [counted_snoc, attempt?_failed failed]
  rfl

/-- The device takes no more of a write than it is given. -/
theorem Modest.last {n : Nat} (modest : Modest (trace ++ [⟨.write chunk, some (.ok n)⟩])) : n ≤ chunk.length := by
  refine modest chunk n ?_
  rw [tries_snoc]
  exact List.mem_append_right _ List.mem_cons_self

/-! ## Chunks -/

/-- In a round something is due, and a chunk is a first part of that. -/
def Spot.Sound : Spot → Prop
  | cleared rest _ | starved rest _ | blank rest | failed rest => rest ≠ []
  | writing tail chunk _ rest _ | doubted tail chunk _ rest _ =>
    chunk ≠ [] ∧ chunk <+: rest ∧ ∀ s, tail = some s → chunk.length ≤ s.room
  | _ => True

theorem Spot.Sound.ne_nil {rest : List UInt8} (sound : chunk ≠ [] ∧ chunk <+: rest) : rest ≠ [] := by
  rintro rfl
  exact sound.1 (List.prefix_nil.1 sound.2)

theorem Course.sound (move : Course c frameBytes rate x r answer x') (sound : x.Sound) : x'.Sound := by
  cases move with
  | idle => exact sound
  | clear due => exact due
  | full | lost => exact sound
  | @free s rest lead free =>
    refine ⟨?_, List.take_prefix _ _, ?_⟩
    · rw [Ne, List.take_eq_nil_iff, not_or]
      exact ⟨Nat.ne_of_gt (room_pos free), sound⟩
    · rintro _ ⟨⟩
      exact List.length_take_le ..
  | tore => exact sound
  | refused | gaveUp => exact Spot.Sound.ne_nil ⟨sound.1, sound.2.1⟩
  | tail fits => exact ⟨ne_nil_of_tailFits fits, List.prefix_refl _, nofun⟩
  | _ => trivial

/-! ## What is due -/

/-- What is due, where the loop can still go on or all is written. A chunk that has failed counts as written. -/
def Spot.left : Spot → Option (List UInt8)
  | head rest _ | cleared rest _ | starved rest _ | writing _ _ _ rest _ | filled _ _ rest _ | blank rest => some rest
  | doubted _ chunk _ rest _ => some (rest.drop chunk.length)
  | rested _ => some []
  | stopped | failed _ => none

/-- What is due is what has not been counted. -/
def Due (bytes : List UInt8) (trace : Trace Paced.Interface) (x : Spot) : Prop :=
  ∀ rest, x.left = some rest → counted trace ≤ bytes.length ∧ rest = bytes.drop (counted trace)

/-- Some more bytes are counted, of those that are due. -/
theorem Due.count {rest : List UInt8} {n : Nat} {trace' : Trace Paced.Interface} (due : Due bytes trace x)
    (left : x.left = some rest) (few : n ≤ rest.length) (count : counted trace' = counted trace + n)
    (left' : x'.left = some (rest.drop n)) : Due bytes trace' x' := by
  obtain ⟨within, same⟩ := due rest left
  rintro _ is
  obtain rfl := Option.some.inj (left'.symm.trans is)
  rw [count]
  constructor
  · rw [same, List.length_drop] at few
    omega
  · rw [same, List.drop_drop]

/-- A request that counts for nothing and leaves as much due. -/
theorem Due.same (due : Due bytes trace x) (silent : written? ⟨r, answer⟩ = none) (same : x'.left = x.left) :
    Due bytes (trace ++ [⟨r, answer⟩]) x' := by
  intro rest is
  rw [counted_silent silent]
  exact due rest (same.symm.trans is)

theorem Course.due (move : Course c frameBytes rate x r answer x') (sound : x.Sound) (due : Due bytes trace x)
    (modest : Modest (trace ++ [⟨r, answer⟩])) : Due bytes (trace ++ [⟨r, answer⟩]) x' := by
  cases move with
  | idle idle => exact due.same (idle_nothing idle).1 rfl
  | clear | full | free | napped | tail | paced | rested => exact due.same rfl rfl
  | halt | lost | gaveUp | stopped | cutShort => exact nofun
  | put => exact due.count rfl (modest.last.trans sound.2.1.length_le) (counted_put _ _) rfl
  | refused => exact due.count rfl (Nat.zero_le _) (counted_put _ _) rfl
  | tore failed => exact due.count rfl sound.2.1.length_le (counted_tore failed) rfl
  | excused => exact due.same rfl rfl

/-- **All along a loop what is due is what has not been counted.** -/
theorem due_of_path (path : Path (course c frameBytes rate) (.head bytes none) trace x) (modest : Modest trace) :
    x.Sound ∧ Due bytes trace x := by
  refine path.keeps (fun trace x => Modest trace → x.Sound ∧ Due bytes trace x) ?_ ?_ modest
  · refine fun _ => ⟨trivial, ?_⟩
    rintro _ ⟨⟩
    exact ⟨Nat.zero_le _, rfl⟩
  · intro trace x r answer x' before move modest
    obtain ⟨sound, due⟩ := before modest.before
    exact ⟨move.sound sound, move.due sound due modest⟩

end Playout.Paced
