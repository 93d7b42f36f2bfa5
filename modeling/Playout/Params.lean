import Playout.Number.Seconds
import Playout.Text.Blank
import Playout.Track

/-!
# `Playout.Params` — what an output is opened and played with

Open parameters are a list of optional texts; each output reads the slots it knows. Beside them stand the
pacing corrections for the blocking device. Play settings are the volume and byte order of one call.

## Contents
- `Pacing` — corrections to the waits of paced playback.
- `OpenParams`, `OpenParams.get`, `OpenParams.target`, `OpenParams.set`; the slots in use.
- `PlaySettings`.
-/

namespace Playout

/-! ## Pacing -/

/-- Corrections to the waits of paced playback. -/
structure Pacing where
  /-- How much earlier than in real time the second round of writing starts. -/
  lead : Seconds
  /-- The part of the final wait that is left out, since the device still holds that much. -/
  settle : Seconds
  /-- The longest time without a free fragment before playback is given up. -/
  maxFragmentWait : Seconds
  deriving DecidableEq, Repr

namespace Pacing

/-- Corrections given in milliseconds. -/
def ofMillis (lead settle maxFragmentWait : Nat) : Pacing where
  lead := .ofMillis lead
  settle := .ofMillis settle
  maxFragmentWait := .ofMillis maxFragmentWait

/-- The corrections used when none are given. -/
def standard : Pacing := ofMillis 100 50 2000

end Pacing

/-! ## Opening -/

/-- The slot of the sound card's device name. -/
def slotCard : Nat := 0

/-- The slot of the flow server's name. -/
def slotFlowServer : Nat := 1

/-- The slot of the simple-protocol server's name. -/
def slotSimpleServer : Nat := 2

/-- The slot of the least buffered length at a simple-protocol server. -/
def slotMinLength : Nat := 3

/-- The text that asks for an output's own default, as an empty slot does. -/
def defaultTarget : String := "default"

/-- The parameters an output is opened with. -/
structure OpenParams where
  values : List (Option String) := []
  pacing : Pacing := .standard
  deriving DecidableEq, Repr

namespace OpenParams

/-- The text in a slot, if there is any. -/
def get (p : OpenParams) (slot : Nat) : Option String := (p.values[slot]?).join

/-- What a slot asks for, trimmed: nothing when it is empty, blank or the word for the default. -/
def target (p : OpenParams) (slot : Nat) : Option String :=
  ((p.get slot).map Text.trim).filter fun text => text ≠ "" && text ≠ defaultTarget

/-- Fill a slot; slots in front of it that did not exist are empty. -/
def set (p : OpenParams) (slot : Nat) (text : String) : OpenParams :=
  let missing := slot + 1 - p.values.length
  { p with values := (p.values ++ List.replicate missing none).set slot (some text) }

/-- A slot holds what it was filled with. -/
@[simp] theorem get_set (p : OpenParams) (slot : Nat) (text : String) :
    (p.set slot text).get slot = some text := by
  have inside : slot < p.values.length + (slot + 1 - p.values.length) := by omega
  simp [get, set, inside]

/-- Filling one slot leaves the others as they are. -/
theorem get_set_of_ne (p : OpenParams) {slot other : Nat} (h : slot ≠ other) (text : String) :
    (p.set slot text).get other = p.get other := by
  simp only [get, set, List.getElem?_set_ne h, List.getElem?_append]
  split
  · rfl
  · next outside =>
    rw [List.getElem?_eq_none (by omega : p.values.length ≤ other), List.getElem?_replicate]
    split <;> rfl

end OpenParams

/-! ## Playing -/

/-- The settings of one play call. -/
structure PlaySettings where
  volume : Int := 0
  order : ByteOrder := .native
  deriving DecidableEq, Repr

end Playout
