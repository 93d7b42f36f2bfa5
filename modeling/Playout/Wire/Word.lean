/-!
# `Playout.Wire.Word` — fixed-width fields

Every number on the wire is unsigned and big endian. Reading a field takes it off the front of the
bytes and leaves the rest.

## Contents
- `word32`, `read32?`.
- `Outcome` — what reading one message off a growing buffer can come to.
-/

namespace Playout.Wire

/-- The four bytes of a number, most significant first. -/
def word32 (n : UInt32) : List UInt8 :=
  [UInt8.ofNat (n.toNat / 0x1000000), UInt8.ofNat (n.toNat / 0x10000 % 256),
    UInt8.ofNat (n.toNat / 0x100 % 256), UInt8.ofNat (n.toNat % 256)]

/-- Take a number of four bytes off the front. -/
def read32? : List UInt8 → Option (UInt32 × List UInt8)
  | a :: b :: c :: d :: rest =>
    some (UInt32.ofNat (((a.toNat * 256 + b.toNat) * 256 + c.toNat) * 256 + d.toNat), rest)
  | _ => none

/-- What looking for one message at the front of a buffer comes to: more bytes are needed, the bytes
    there are no message, or a message was found. -/
inductive Outcome (ε α : Type) where
  | incomplete
  | malformed (reason : ε)
  | message (value : α)
  deriving DecidableEq, Repr

namespace Outcome

variable {ε α : Type}

/-- The outcome of reading a message's contents. -/
def ofExcept : Except ε α → Outcome ε α
  | .ok value => message value
  | .error reason => malformed reason

end Outcome

/-! ## Reading back -/

@[simp] theorem length_word32 (n : UInt32) : (word32 n).length = 4 := rfl

/-- A number is read back in front of any bytes. -/
@[simp] theorem read32?_word32 (n : UInt32) (rest : List UInt8) :
    read32? (word32 n ++ rest) = some (n, rest) := by
  have bound : n.toNat < 2 ^ 32 := n.toNat_lt
  simp only [word32, List.cons_append, List.nil_append, read32?, UInt8.toNat_ofNat', Option.some.injEq,
    Prod.mk.injEq, and_true]
  apply UInt32.toNat_inj.mp
  rw [UInt32.toNat_ofNat']
  omega

/-- Four bytes are the word they are read as. -/
theorem word32_of_read32? {bytes rest : List UInt8} {n : UInt32}
    (h : read32? bytes = some (n, rest)) : bytes = word32 n ++ rest := by
  match bytes, h with
  | a :: b :: c :: d :: tail, h =>
    simp only [read32?, Option.some.injEq, Prod.mk.injEq] at h
    obtain ⟨rfl, rfl⟩ := h
    have ha := a.toNat_lt; have hb := b.toNat_lt; have hc := c.toNat_lt; have hd := d.toNat_lt
    simp only [word32, List.cons_append, List.nil_append, List.cons.injEq, and_true]
    refine ⟨?_, ?_, ?_, ?_⟩ <;> apply UInt8.toNat_inj.mp <;>
      rw [UInt8.toNat_ofNat', UInt32.toNat_ofNat'] <;> omega

/-- A number can be read as soon as four bytes are there. -/
theorem read32?_isSome_iff (bytes : List UInt8) :
    (read32? bytes).isSome = true ↔ 4 ≤ bytes.length := by
  match bytes with
  | [] | [_] | [_, _] | [_, _, _] => simp [read32?]
  | _ :: _ :: _ :: _ :: _ => simp [read32?]

/-- Four bytes are a number. -/
theorem exists_word32 {bytes : List UInt8} (long : 4 ≤ bytes.length) : ∃ n rest, bytes = word32 n ++ rest := by
  obtain ⟨⟨n, rest⟩, read⟩ := Option.isSome_iff_exists.1 ((read32?_isSome_iff bytes).2 long)
  exact ⟨n, rest, word32_of_read32? read⟩

end Playout.Wire
