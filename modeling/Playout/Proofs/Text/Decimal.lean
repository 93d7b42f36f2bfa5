import Playout.Text.Blank
import Playout.Text.Decimal

/-!
# `Playout.Proofs.Text.Decimal` — numbers written and read

A text spells a number if it is made of decimal digits, at least one, with or without a plus sign in front.
That is what is read; and what is written for a number spells it, without any blanks to be trimmed.

## Contents
- `Spells`, `readBelow?_eq_some_iff` — what is read.
- `spells_toString`, `readBelow?_toString` — what is written is read back.
- `trim_of_unblank`, `trim_toString` — nothing is trimmed off it.
-/

namespace Playout.Text

/-! ## Reading -/

/-- The text is decimal digits, perhaps behind a plus sign, of which the number is the value. -/
def Spells (text : String) (n : Nat) : Prop :=
  ∃ digits : List Char, digits ≠ [] ∧ (∀ c ∈ digits, c.isDigit = true)
    ∧ (text.toList = digits ∨ text.toList = '+' :: digits) ∧ Nat.ofDigitChars 10 digits 0 = n

theorem readDigits?_eq_some_iff {value n : Nat} {chars : List Char} :
    readDigits? value chars = some n ↔ (∀ c ∈ chars, c.isDigit = true) ∧ Nat.ofDigitChars 10 chars value = n := by
  induction chars generalizing value with
  | nil => simp [Nat.ofDigitChars_nil]
  | cons c rest ih =>
    rw [readDigits?, Nat.ofDigitChars_cons, List.forall_mem_cons]
    by_cases digit : c.isDigit = true
    · simp [digit?, digit, ih, Nat.mul_comm]
    · simp [digit?, digit]

theorem dropPlus_of_digits {digits : List Char} (all : ∀ c ∈ digits, c.isDigit = true) : dropPlus digits = digits := by
  unfold dropPlus
  split
  · have sign := all '+' List.mem_cons_self
    exact absurd sign (by decide)
  · rfl

theorem dropPlus_eq_iff {chars digits : List Char} (all : ∀ c ∈ digits, c.isDigit = true) :
    dropPlus chars = digits ↔ chars = digits ∨ chars = '+' :: digits := by
  constructor
  · intro dropped
    unfold dropPlus at dropped
    split at dropped
    · exact .inr (congrArg _ dropped)
    · exact .inl dropped
  · rintro (rfl | rfl)
    · exact dropPlus_of_digits all
    · rfl

/-- A number is read from exactly the texts that spell it, if it is below the bound. -/
theorem readBelow?_eq_some_iff {bound n : Nat} {text : String} :
    readBelow? bound text = some n ↔ Spells text n ∧ n < bound := by
  have read : readBelow? bound text = some n
      ↔ dropPlus text.toList ≠ [] ∧ readDigits? 0 (dropPlus text.toList) = some n ∧ n < bound := by
    unfold readBelow?
    by_cases empty : dropPlus text.toList = []
    · simp [empty]
    · simp [empty, Option.filter_eq_some_iff]
  rw [read, readDigits?_eq_some_iff]
  constructor
  · rintro ⟨some, ⟨all, value⟩, below⟩
    exact ⟨⟨_, some, all, (dropPlus_eq_iff all).1 rfl, value⟩, below⟩
  · rintro ⟨⟨digits, some, all, shape, value⟩, below⟩
    rw [(dropPlus_eq_iff all).2 shape]
    exact ⟨some, ⟨all, value⟩, below⟩

/-! ## Writing -/

theorem toList_toString (n : Nat) : (toString n).toList = Nat.toDigits 10 n := Nat.toList_repr

theorem isDigit_of_mem_toString {n : Nat} {c : Char} (mem : c ∈ (toString n).toList) : c.isDigit = true := by
  rw [toList_toString] at mem
  exact Nat.isDigit_of_mem_toDigits (by decide) (by decide) mem

/-- What is written for a number spells it. -/
theorem spells_toString (n : Nat) : Spells (toString n) n := by
  refine ⟨_, ?_, fun _ => isDigit_of_mem_toString, .inl rfl, ?_⟩
  · rw [toList_toString]
    exact Nat.toDigits_ne_nil
  · rw [toList_toString]
    exact Nat.ofDigitChars_toDigits (by decide) (by decide)

/-- A number below the bound is read back from what was written for it. -/
theorem readBelow?_toString {bound n : Nat} (below : n < bound) : readBelow? bound (toString n) = some n :=
  readBelow?_eq_some_iff.2 ⟨spells_toString n, below⟩

/-! ## Blanks -/

theorem trim_of_unblank {text : String} (unblank : ∀ c ∈ text.toList, isBlank c = false) : trim text = text := by
  have kept : ∀ chars : List Char, (∀ c ∈ chars, isBlank c = false) → chars.dropWhile isBlank = chars := by
    intro chars none
    cases chars with
    | nil => rfl
    | cons c rest =>
      apply List.dropWhile_cons_of_neg
      simp [none c List.mem_cons_self]
  unfold trim trimChars
  rw [kept _ unblank, kept _ (fun c mem => unblank c (List.mem_reverse.1 mem)), List.reverse_reverse]
  exact String.ofList_toList

theorem isBlank_of_isDigit {c : Char} (digit : c.isDigit = true) : isBlank c = false := by
  have range : 48 ≤ c.toNat ∧ c.toNat ≤ 57 := by
    simp only [Char.isDigit, Bool.and_eq_true, decide_eq_true_eq, ge_iff_le, UInt32.le_iff_toNat_le] at digit
    exact digit
  simp [isBlank]
  omega

theorem trim_toString (n : Nat) : trim (toString n) = toString n :=
  trim_of_unblank fun _ mem => isBlank_of_isDigit (isDigit_of_mem_toString mem)

end Playout.Text
