import Mathlib.Data.List.Nodup
import Playout.Flow.Pending

/-!
# `Playout.Proofs.Flow.Pending` — how what is pending changes

## Contents
- `Sound` — nobody waits for an abandoned request, and nothing is noted twice; kept by every change.
- `remembered` — which abandoned requests are still remembered when one more comes.
- `forget` — what an answer comes to, wherever the request was noted.
-/

namespace Playout.Flow

namespace Pending

variable {p : Pending} {serial : UInt32}

/-- Nobody waits for an abandoned request, nothing is noted twice, and not too much is remembered. -/
structure Sound (p : Pending) : Prop where
  waiting : p.waiting.Nodup
  abandoned : p.abandoned.Nodup
  apart : ∀ serial, serial ∈ p.waiting → serial ∉ p.abandoned
  bounded : p.abandoned.length ≤ abandonedLimit

theorem mem_waiting_expect {other : UInt32} :
    other ∈ (p.expect serial).waiting ↔ other ∈ p.waiting ∨ other = serial := by
  unfold expect
  split
  · next known =>
    constructor
    · exact Or.inl
    · rintro (before | rfl)
      · exact before
      · exact known
  · rw [List.mem_append, List.mem_singleton]

theorem abandoned_expect : (p.expect serial).abandoned = p.abandoned := by
  unfold expect
  split <;> rfl

theorem nodup_waiting_expect (h : p.waiting.Nodup) (serial : UInt32) : (p.expect serial).waiting.Nodup := by
  unfold expect
  split
  · exact h
  · next new => exact h.append (List.nodup_singleton serial) (List.disjoint_singleton.mpr new)

theorem Sound.expect (h : p.Sound) (unknown : serial ∉ p.abandoned) : (p.expect serial).Sound := by
  constructor
  · exact nodup_waiting_expect h.waiting serial
  · rw [abandoned_expect]
    exact h.abandoned
  · intro other waits
    rw [abandoned_expect]
    rcases mem_waiting_expect.mp waits with before | rfl
    · exact h.apart other before
    · exact unknown
  · rw [abandoned_expect]
    exact h.bounded

/-- The abandoned requests that are still remembered when one more comes. -/
def remembered (p : Pending) : List UInt32 :=
  if p.abandoned.length = abandonedLimit then p.abandoned.drop 1 else p.abandoned

theorem remembered_sublist (p : Pending) : p.remembered.Sublist p.abandoned := by
  unfold remembered
  split
  · exact List.drop_sublist 1 p.abandoned
  · exact List.Sublist.refl _

/-- Only the oldest can be forgotten, and only when no more can be remembered. -/
theorem mem_remembered_or_full (h : serial ∈ p.abandoned) :
    serial ∈ p.remembered ∨
      ∃ rest, p.abandoned = serial :: rest ∧ rest.length + 1 = abandonedLimit := by
  unfold remembered
  split
  · next full =>
    cases same : p.abandoned with
    | nil =>
      rw [same] at h
      cases h
    | cons oldest rest =>
      rw [same] at h full
      rcases List.mem_cons.mp h with rfl | later
      · exact Or.inr ⟨rest, rfl, full⟩
      · exact Or.inl later
  · exact Or.inl h

theorem abandon_of_mem (h : serial ∈ p.waiting) :
    p.abandon serial = { waiting := p.waiting.erase serial, abandoned := p.remembered ++ [serial] } :=
  if_pos h

theorem Sound.abandon (h : p.Sound) (serial : UInt32) : (p.abandon serial).Sound := by
  by_cases waits : serial ∈ p.waiting
  · have bounded := length_abandoned_abandon h.bounded serial
    rw [abandon_of_mem waits] at bounded ⊢
    have new : serial ∉ p.remembered := fun here => h.apart serial waits ((remembered_sublist p).subset here)
    refine ⟨h.waiting.erase serial, ?_, ?_, bounded⟩
    · exact (h.abandoned.sublist (remembered_sublist p)).append (List.nodup_singleton serial)
        (List.disjoint_singleton.mpr new)
    · intro other waiting
      obtain ⟨different, before⟩ := h.waiting.mem_erase_iff.mp waiting
      rw [List.mem_append, List.mem_singleton]
      rintro (here | same)
      · exact h.apart other before ((remembered_sublist p).subset here)
      · exact different same
  · rw [abandon_of_not_mem waits]
    exact h

/-- Forgetting a request altogether. -/
def forget (p : Pending) (serial : UInt32) : Pending :=
  { waiting := p.waiting.erase serial, abandoned := p.abandoned.erase serial }

theorem Sound.forget (h : p.Sound) (serial : UInt32) : (p.forget serial).Sound := by
  constructor
  · exact h.waiting.erase serial
  · exact h.abandoned.erase serial
  · intro other waits abandoned
    exact h.apart other (List.mem_of_mem_erase waits) (List.mem_of_mem_erase abandoned)
  · exact Nat.le_trans List.length_erase_le h.bounded

theorem Sound.not_mem_forget (h : p.Sound) :
    serial ∉ (p.forget serial).waiting ∧ serial ∉ (p.forget serial).abandoned :=
  ⟨h.waiting.not_mem_erase, h.abandoned.not_mem_erase⟩

/-- An answer makes the request forgotten, wherever it was noted. -/
theorem Sound.started_fst (h : p.Sound) (serial : UInt32) : (p.started serial).1 = p.forget serial := by
  unfold started Pending.forget
  split
  · next waits => rw [List.erase_of_not_mem (h.apart serial waits)]
  · next idle =>
    rw [List.erase_of_not_mem idle]
    split
    · rfl
    · next unknown => rw [List.erase_of_not_mem unknown]

theorem started_of_waiting (h : serial ∈ p.waiting) :
    p.started serial = ({ p with waiting := p.waiting.erase serial }, .deliver) := if_pos h

theorem started_of_abandoned (idle : serial ∉ p.waiting) (h : serial ∈ p.abandoned) :
    p.started serial = ({ p with abandoned := p.abandoned.erase serial }, .orphan) :=
  (if_neg idle).trans (if_pos h)

theorem started_of_unknown (idle : serial ∉ p.waiting) (unknown : serial ∉ p.abandoned) :
    p.started serial = (p, .nothing) :=
  (if_neg idle).trans (if_neg unknown)

theorem nodup_waiting_started (h : p.waiting.Nodup) (serial : UInt32) : (p.started serial).1.waiting.Nodup := by
  unfold started
  split
  · exact h.erase serial
  · split <;> exact h

end Pending

end Playout.Flow
