/-!
# `Playout.Sample.Chunks` — cutting bytes into chunks

Streams are written in chunks of a fixed size, of which only the last may be shorter.

## Contents
- `chunks`, and that they are the items again.
- `length_le_of_mem_chunks`, `length_flatten_of_chunks_eq` — how long the chunks are.
-/

namespace Playout.Sample

/-- `items` in chunks of `size`; chunks of size zero would make no progress and leave one chunk. -/
def chunks {α : Type} (size : Nat) (items : List α) : List (List α) :=
  if items.isEmpty then []
  else if size = 0 then [items]
  else items.take size :: chunks size (items.drop size)
termination_by items.length
decreasing_by
  have : 0 < items.length := List.length_pos_iff.mpr (by simp_all)
  simp only [List.length_drop]
  omega

@[simp] theorem chunks_nil {α : Type} (size : Nat) : chunks size ([] : List α) = [] := by
  unfold chunks
  simp

/-- Nothing is lost, and nothing changes its place. -/
theorem flatten_chunks {α : Type} (size : Nat) (items : List α) : (chunks size items).flatten = items := by
  induction items using chunks.induct size with
  | case1 items empty => unfold chunks; simp_all
  | case2 items nonempty zero => unfold chunks; simp_all
  | case3 items nonempty positive ih =>
    unfold chunks
    simp [nonempty, positive, ih]

/-- No chunk is empty. -/
theorem ne_nil_of_mem_chunks {α : Type} {size : Nat} {items chunk : List α}
    (h : chunk ∈ chunks size items) : chunk ≠ [] := by
  induction items using chunks.induct size with
  | case1 items empty => unfold chunks at h; simp_all
  | case2 items nonempty zero => unfold chunks at h; simp_all
  | case3 items nonempty positive ih =>
    unfold chunks at h
    simp only [nonempty, positive, if_false, List.mem_cons, Bool.false_eq_true] at h
    rcases h with rfl | h
    · simp_all
    · exact ih h

/-- The first chunk, and those behind it. -/
theorem chunks_eq_cons {α : Type} {size : Nat} {items : List α} (positive : 0 < size) (nonempty : items ≠ []) :
    chunks size items = items.take size :: chunks size (items.drop size) := by
  rw [chunks, if_neg (by simpa using nonempty), if_neg (Nat.ne_of_gt positive)]

/-- Few items are one chunk. -/
theorem chunks_of_short {α : Type} {size : Nat} {items : List α} (nonempty : items ≠ [])
    (short : items.length ≤ size) : chunks size items = [items] := by
  have positive : 0 < size := Nat.lt_of_lt_of_le (List.length_pos_iff.2 nonempty) short
  rw [chunks_eq_cons positive nonempty, List.take_of_length_le short, List.drop_of_length_le short, chunks_nil]

/-- No chunk is longer than the size. -/
theorem length_le_of_mem_chunks {α : Type} {size : Nat} {items chunk : List α} (positive : 0 < size)
    (h : chunk ∈ chunks size items) : chunk.length ≤ size := by
  induction items using chunks.induct size with
  | case1 items empty => unfold chunks at h; simp_all
  | case2 items nonempty zero => omega
  | case3 items nonempty nonzero ih =>
    unfold chunks at h
    simp only [nonempty, nonzero, if_false, List.mem_cons, Bool.false_eq_true] at h
    rcases h with rfl | h
    · rw [List.length_take]
      omega
    · exact ih h

/-- Every chunk but the last is as long as the size. -/
theorem length_flatten_of_chunks_eq {α : Type} {size : Nat} {done rest : List (List α)} {items : List α}
    (positive : 0 < size) (cut : chunks size items = done ++ rest) (more : rest ≠ []) :
    done.flatten.length = size * done.length := by
  induction done generalizing items with
  | nil => rfl
  | cons first done ih =>
    unfold chunks at cut
    have nonempty : items.isEmpty = false := by
      cases empty : items.isEmpty with
      | false => rfl
      | true => simp [empty] at cut
    have nonzero : size ≠ 0 := by omega
    simp only [nonempty, nonzero, if_false, List.cons_append, List.cons.injEq, Bool.false_eq_true] at cut
    obtain ⟨head, tail⟩ := cut
    -- There is another chunk behind the first one, so that the first one is full.
    have longer : items.drop size ≠ [] := by
      intro none
      rw [none, chunks_nil] at tail
      exact more (List.append_eq_nil_iff.1 tail.symm).2
    have full : first.length = size := by
      rw [← head, List.length_take]
      have := List.length_pos_iff.2 longer
      rw [List.length_drop] at this
      omega
    rw [List.flatten_cons, List.length_append, full, ih tail, List.length_cons, Nat.mul_succ]
    omega

end Playout.Sample
