import Playout.Proofs.Lockstep
import Playout.Proofs.Paced.Parts

/-!
# `Playout.Proofs.Paced.Positions` — the loop with positions in machine words

A playback keeps the bytes that are left as a list. On a machine the bytes stay where they are, and a word counts how many
are done with, from which the bounds of each slice are computed. Here is the loop in that form. Each operation that may
overflow, and each slice that may reach beyond the bytes, is checked, and a fault ends the loop without an outcome. As
long as the answers are fair, both forms ask the same, so that there is no fault.

## Contents
- `add?`, `sub?`, `mul?`, `slice?` — operations that can fault.
- `Place`, `fillAt`, `roundAt`, `streamAt` — the loop with positions.
- `Fair` — a device that tells of no more than what is free, and takes no more than it is given.
- `stream_inStep` — both forms of the loop are in step.
-/

namespace Playout.Paced

open Program

/-! ## Machine words -/

/-- The sum of two words, unless it overflows. -/
def add? (a b : Nat) : Option Nat := if a + b < UInt64.size then some (a + b) else none

/-- The difference of two words, unless it underflows. -/
def sub? (a b : Nat) : Option Nat := if b ≤ a then some (a - b) else none

/-- The product of two words, unless it overflows. -/
def mul? (a b : Nat) : Option Nat := if a * b < UInt64.size then some (a * b) else none

/-- The bytes from one position up to another, unless these are out of order or out of bounds. -/
def slice? (bytes : List UInt8) (start stop : Nat) : Option (List UInt8) :=
  if start ≤ stop ∧ stop ≤ bytes.length then some ((bytes.drop start).take (stop - start)) else none

theorem add?_eq {a b : Nat} (small : a + b < UInt64.size) : add? a b = some (a + b) := if_pos small

theorem sub?_eq {a b : Nat} (le : b ≤ a) : sub? a b = some (a - b) := if_pos le

theorem mul?_eq {a b : Nat} (small : a * b < UInt64.size) : mul? a b = some (a * b) := if_pos small

/-- A slice that is cut off at the end of the bytes is a first part of what is left. -/
theorem slice?_clamped {bytes : List UInt8} {start room : Nat} (within : start ≤ bytes.length) :
    slice? bytes start (min bytes.length (start + room)) = some ((bytes.drop start).take room) := by
  unfold slice?
  rw [if_pos ⟨by omega, Nat.min_le_left ..⟩]
  refine congrArg some (List.take_eq_take_iff.2 ?_)
  rw [List.length_drop]
  omega

/-- All that is left. -/
theorem slice?_rest {bytes : List UInt8} {start : Nat} (within : start ≤ bytes.length) :
    slice? bytes start bytes.length = some (bytes.drop start) := by
  unfold slice?
  rw [if_pos ⟨within, Nat.le_refl _⟩, ← List.length_drop, List.take_length]

/-! ## The loop -/

/-- How far a playback has come: how many bytes are done with, and what else it keeps. -/
structure Place where
  offset : Nat := 0
  lead : Option Rat := none
  starvedSince : Option Seconds := none

/-- The same, with the bytes that are left. -/
def Place.progress (bytes : List UInt8) (p : Place) : Progress := ⟨bytes.drop p.offset, p.lead, p.starvedSince⟩

/-- How a round ends, unless there is a fault: where the playback has come to, or with what the loop is left. -/
abbrev Turnout := Option (Place ⊕ Except PlayError Bool)

/-- Go on with a value, unless there is a fault. -/
def checked {α β : Type} (value : Option β) (next : β → Action (Option α)) : Action (Option α) :=
  match value with
  | some b => next b
  | none => .done none

/-- Whether what is left is a tail that goes out at once. The sum is needed only if it is shorter than a fragment. -/
def tailFits? (s : BufferSpace) (room left : Nat) : Option Bool :=
  if 0 < left ∧ left < s.fragmentSize then (add? room left).map fun sum => decide (sum < s.bytes) else some false

/-- The wait at the end of a round that has counted `written` bytes. -/
def waitOutAt (c : Config) (frameBytes rate : Nat) (bytes : List UInt8) (lead : Option Rat) (offset written : Nat) :
    Action Turnout :=
  checked (sub? bytes.length offset) fun remaining => do
    log .debug ("alsa: " ++ toString written ++ " bytes written, " ++ toString remaining ++ " remaining")
    let (span, lead) := waitAfter c frameBytes rate written lead
    match ← pause span with
    | .cancelled =>
      log .info "alsa: playback stopped"
      return some (.inr (.ok true))
    | .timedOut => return some (.inl { offset, lead := some lead })

/-- Write as much as the free space takes, and wait for as long as it lasts. -/
def fillAt (c : Config) (frameBytes rate : Nat) (bytes : List UInt8) (s : BufferSpace) (p : Place) :
    Action Turnout := do
  log .debug ("alsa: space for " ++ toString s.fragments ++ " more fragments of "
    ++ toString s.fragmentSize ++ " bytes")
  checked (mul? s.fragments s.fragmentSize) fun room =>
  checked (add? p.offset room) fun reach =>
  checked (slice? bytes p.offset (min bytes.length reach)) fun chunk => do
  match ← writeChunk chunk with
  | .error e => return some (.inr (.error e))
  | .ok written =>
    checked (add? p.offset written) fun offset =>
    checked (sub? bytes.length offset) fun remaining =>
    checked (tailFits? s room remaining) fun fits =>
    if fits then do
      log .debug ("alsa: writing the rest of the data (" ++ toString remaining ++ " bytes)")
      checked (slice? bytes offset bytes.length) fun tail => do
      match ← writeChunk tail with
      | .error e => return some (.inr (.error e))
      | .ok extra =>
        checked (add? offset extra) fun offset =>
        checked (add? written extra) fun written => waitOutAt c frameBytes rate bytes p.lead offset written
    else waitOutAt c frameBytes rate bytes p.lead offset written

/-- Nothing is free. No position is needed for that. -/
def starveAt (c : Config) (bytes : List UInt8) (p : Place) : Action Turnout := do
  match ← starve c (p.progress bytes) with
  | .goOn p' => return some (.inl { p with starvedSince := p'.starvedSince })
  | .stopped => return some (.inr (.ok true))
  | .failed e => return some (.inr (.error e))

/-- One round: look for a stop and for free space, and write. -/
def roundAt (c : Config) (frameBytes rate : Nat) (bytes : List UInt8) (p : Place) : Action Turnout := do
  if ← cancelled then return some (.inr (.ok true))
  else
    match (← space).getD (.error slotEmpty) with
    | .error failure =>
      log .error ("alsa: buffer space query failed: " ++ failure.text)
      return some (.inr (.error (.deviceQuery failure.text)))
    | .ok s => if s.isStarved then starveAt c bytes p else fillAt c frameBytes rate bytes s p

/-- Write until nothing is left, in at most `rounds` rounds. Without an outcome, there was a fault. -/
def streamAt (c : Config) (frameBytes rate : Nat) (bytes : List UInt8) :
    Nat → Place → Action (Option (Except PlayError Bool))
  | 0, _ => .unfinished
  | rounds + 1, p => do
    if p.offset < bytes.length then
      match ← roundAt c frameBytes rate bytes p with
      | none => return none
      | some (.inl p) => streamAt c frameBytes rate bytes rounds p
      | some (.inr outcome) => return some outcome
    else return some (.ok (← settle c p.lead))

/-! ## Both forms -/

/-- A device that tells of no more free fragments than of free bytes, and takes no more than it is given. A word counts
    the bytes and what is free. -/
def Fair (bytes : List UInt8) : (r : Paced.Request) → Paced.Request.Answer r → Prop
  | .space, some (.ok s) => s.room ≤ s.bytes ∧ bytes.length + s.bytes < UInt64.size
  | .write chunk, some (.ok n) => n ≤ chunk.length
  | _, _ => True

/-- Both forms of a round end in the same way, without a fault. -/
inductive Agrees (bytes : List UInt8) : Round → Turnout → Prop where
  | goOn {p : Place} (within : p.offset ≤ bytes.length) : Agrees bytes (.goOn (p.progress bytes)) (some (.inl p))
  | stopped : Agrees bytes .stopped (some (.inr (.ok true)))
  | failed {e} : Agrees bytes (.failed e) (some (.inr (.error e)))

variable {c : Config} {frameBytes rate : Nat} {bytes : List UInt8} {s : BufferSpace} {p : Place}

/-- No more of a chunk is done with than all. -/
theorem writeChunk_inStep (chunk : List UInt8) :
    InStep (Fair bytes) (fun outcome outcome' => outcome' = outcome ∧ ∀ n, outcome = .ok n → n ≤ chunk.length)
      (writeChunk chunk) (writeChunk chunk) := by
  have doubted (failure : Failure) :
      InStep (Fair bytes) (fun outcome outcome' => outcome' = outcome ∧ ∀ n, outcome = .ok n → n ≤ chunk.length)
        (excuse chunk failure) (excuse chunk failure) := by
    refine .ask fun stopped _ => ?_
    cases stopped with
    | true =>
      refine .done ⟨rfl, ?_⟩
      rintro _ ⟨⟩
      exact Nat.le_refl _
    | false => exact .ask fun _ _ => .done ⟨rfl, nofun⟩
  refine .ask ?_
  rintro (_ | failure | n) fair
  · exact doubted slotEmpty
  · exact doubted failure
  · cases n with
    | zero => exact .done ⟨rfl, nofun⟩
    | succ n =>
      refine .done ⟨rfl, ?_⟩
      rintro _ ⟨⟩
      exact fair

/-- Where nothing is free, only the moment is kept since when. -/
theorem starve_inStep (p : Progress) : InStep (Fair bytes) (fun round round' => round' = round ∧
      ((∃ since, round = .goOn { p with starvedSince := some since }) ∨ ∃ e, round = .failed e))
    (starve c p) (starve c p) := by
  have asleep (since : Seconds) : InStep (Fair bytes) (fun round round' => round' = round ∧
        ((∃ since, round = .goOn { p with starvedSince := some since }) ∨ ∃ e, round = .failed e))
      (starveSince c p since) (starveSince c p since) := by
    refine .ask fun moment _ => ?_
    simp only [done_bind]
    split
    · exact .ask fun _ _ => .ask fun _ _ => .done ⟨rfl, .inr ⟨_, rfl⟩⟩
    · exact .ask fun _ _ => .ask fun _ _ => .done ⟨rfl, .inl ⟨_, rfl⟩⟩
  unfold starve
  cases p.starvedSince with
  | some since => exact asleep since
  | none => exact .ask fun moment _ => asleep moment

theorem starveAt_inStep (within : p.offset ≤ bytes.length) :
    InStep (Fair bytes) (Agrees bytes) (starve c (p.progress bytes)) (starveAt c bytes p) := by
  rw [← bind_done (starve c (p.progress bytes))]
  refine InStep.bind (starve_inStep _) ?_
  rintro round _ ⟨rfl, ⟨since, rfl⟩ | ⟨e, rfl⟩⟩
  · exact .done (Agrees.goOn (p := { p with starvedSince := some since }) within)
  · exact .done .failed

/-- The wait at the end of a round. -/
theorem waitOutAt_inStep {offset written : Nat} {lead : Option Rat} (within : offset ≤ bytes.length) :
    InStep (Fair bytes) (Agrees bytes)
      (waitOut
        ("alsa: " ++ toString written ++ " bytes written, " ++ toString (bytes.drop offset).length ++ " remaining")
        (waitAfter c frameBytes rate written lead).1
        { rest := bytes.drop offset, lead := some (waitAfter c frameBytes rate written lead).2 })
      (waitOutAt c frameBytes rate bytes lead offset written) := by
  unfold waitOutAt
  rw [sub?_eq within, List.length_drop]
  refine .ask fun _ _ => .ask ?_
  rintro (_ | _) -
  · exact .ask fun _ _ => .done .stopped
  · exact .done (Agrees.goOn (p := { offset, lead := some (waitAfter c frameBytes rate written lead).2 }) within)

/-- Whether a tail goes out can be told without a fault. -/
theorem tailFits?_eq {left : Nat} (small : s.room + left < UInt64.size) :
    tailFits? s s.room left = some (tailFits s left) := by
  unfold tailFits? tailFits
  rw [add?_eq small]
  split
  · next short => simp [short.1, short.2]
  · next long =>
    rw [not_and_or] at long
    rcases long with none | whole
    · simp [none]
    · simp [whole]

theorem fillAt_inStep (within : p.offset ≤ bytes.length) (room : s.room ≤ s.bytes)
    (small : bytes.length + s.bytes < UInt64.size) : InStep (Fair bytes) (Agrees bytes)
      (fill c frameBytes rate s (p.progress bytes)) (fillAt c frameBytes rate bytes s p) := by
  have product : mul? s.fragments s.fragmentSize = some s.room := mul?_eq (show s.room < UInt64.size by omega)
  have reach : add? p.offset s.room = some (p.offset + s.room) := add?_eq (by omega)
  refine .ask fun _ _ => ?_
  simp only [done_bind, product, reach, slice?_clamped within, checked]
  refine InStep.bind (writeChunk_inStep _) ?_
  rintro _ outcome ⟨rfl, few⟩
  cases outcome with
  | error e => exact .done .failed
  | ok written =>
    have few : written ≤ ((bytes.drop p.offset).take s.room).length := few written rfl
    rw [List.length_take, List.length_drop] at few
    have within' : p.offset + written ≤ bytes.length := by omega
    have left : ((bytes.drop p.offset).drop written).length = bytes.length - (p.offset + written) := by
      rw [List.drop_drop, List.length_drop]
    have fits : tailFits? s s.room (bytes.length - (p.offset + written)) =
        some (tailFits s (bytes.length - (p.offset + written))) := tailFits?_eq (by omega)
    simp only [Place.progress, left, add?_eq (show p.offset + written < UInt64.size by omega), sub?_eq within', fits]
    split
    · refine .ask fun _ _ => ?_
      simp only [done_bind, slice?_rest within', List.drop_drop]
      refine InStep.bind (writeChunk_inStep _) ?_
      rintro _ outcome ⟨rfl, few'⟩
      cases outcome with
      | error e => exact .done .failed
      | ok extra =>
        have few' : extra ≤ (bytes.drop (p.offset + written)).length := few' extra rfl
        rw [List.length_drop] at few'
        have within'' : p.offset + written + extra ≤ bytes.length := by omega
        simp only [add?_eq (show p.offset + written + extra < UInt64.size by omega),
          add?_eq (show written + extra < UInt64.size by omega)]
        exact waitOutAt_inStep within''
    · simp only [List.drop_drop]
      exact waitOutAt_inStep within'

theorem roundAt_inStep (within : p.offset ≤ bytes.length) : InStep (Fair bytes) (Agrees bytes)
    (round c frameBytes rate (p.progress bytes)) (roundAt c frameBytes rate bytes p) := by
  refine .ask fun stopped _ => ?_
  cases stopped with
  | true => exact .done .stopped
  | false =>
    refine .ask ?_
    rintro (_ | failure | s) fair
    · exact .ask fun _ _ => .done .failed
    · exact .ask fun _ _ => .done .failed
    · simp only [Option.getD_some, done_bind]
      split
      · exact starveAt_inStep within
      · exact fillAt_inStep within fair.1 fair.2

/-- **Both forms of the loop are in step**, and the one with positions has no fault. -/
theorem stream_inStep (rounds : Nat) (within : p.offset ≤ bytes.length) :
    InStep (Fair bytes) (fun outcome outcome' => outcome' = some outcome)
      (stream c frameBytes rate rounds (p.progress bytes)) (streamAt c frameBytes rate bytes rounds p) := by
  induction rounds generalizing p with
  | zero => exact .unfinished
  | succ rounds ih =>
    unfold stream streamAt
    have more : (p.progress bytes).rest.isEmpty = true ↔ ¬ p.offset < bytes.length := by
      simp [Place.progress, List.drop_eq_nil_iff]
    split
    · next none =>
      rw [if_neg (more.1 none)]
      refine InStep.bind (InStep.same _ fun _ => rfl) ?_
      rintro stopped _ rfl
      exact .done rfl
    · next some =>
      rw [if_pos (not_not.1 (mt more.2 some))]
      refine InStep.bind (roundAt_inStep within) ?_
      rintro _ _ (within' | _ | _)
      · exact ih within'
      · exact .done rfl
      · exact .done rfl

end Playout.Paced
