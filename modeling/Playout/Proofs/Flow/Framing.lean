import Playout.Flow.Batch

/-!
# `Playout.Proofs.Flow.Framing` — messages do not depend on how their bytes are cut

A connection delivers a stream in pieces that have nothing to do with where its frames begin and end. The
reader puts each piece behind what it could not read yet, and takes off all messages that are complete.

## Contents
- `takePieces` — reading a stream piece by piece, up to the first fault.
- `splitFrame_append`, `decodeWith_append` — what has been found at the front of a buffer stays found when
  the buffer grows; what is incomplete has consumed nothing.
- `takeAll_append` — reading a buffer that grows is reading it at once.
- `takePieces_eq_takeAll` — hence only the stream matters, and not its pieces.
- `takeAll_flatMap_frame` — frames written one behind the other are read back.

## Main statement
- `messages_survive_segmentation` — what is written is read back under every cut, and two cuts of one stream,
  malformed or not, give the same messages and the same fault.
-/

namespace Playout.Flow

/-! ## Reading in pieces -/

/-- Take messages off a stream that arrives in pieces, with `buffer` in front of the first one. A fault
    ends the reading. -/
def takePieces {α : Type} (contents : RawFrame → Except FrameError α) (buffer : List UInt8) :
    List (List UInt8) → Batch α
  | [] => ⟨[], none, buffer⟩
  | piece :: pieces =>
    let batch := takeAll contents (buffer ++ piece)
    match batch.fault with
    | some _ => batch
    | none =>
      let later := takePieces contents batch.rest pieces
      { later with messages := batch.messages ++ later.messages }

/-! ## A buffer that grows -/

theorem read32?_append {bytes rest : List UInt8} {n : UInt32}
    (h : Wire.read32? bytes = some (n, rest)) (tail : List UInt8) :
    Wire.read32? (bytes ++ tail) = some (n, rest ++ tail) := by
  rw [Wire.word32_of_read32? h, List.append_assoc]
  exact Wire.read32?_word32 n (rest ++ tail)

/-- The two numbers of a header. -/
theorem header_append {bytes rest : List UInt8} {serial : UInt32} {length : Nat}
    (h : ((Wire.read32? bytes).bind fun (serial, rest) =>
        (Wire.read32? rest).map fun (length, rest) => (serial, length.toNat, rest))
      = some (serial, length, rest)) (tail : List UInt8) :
    ((Wire.read32? (bytes ++ tail)).bind fun (serial, rest) =>
        (Wire.read32? rest).map fun (length, rest) => (serial, length.toNat, rest))
      = some (serial, length, rest ++ tail) := by
  simp only [Option.bind_eq_some_iff, Option.map_eq_some_iff] at h
  obtain ⟨⟨s, afterSerial⟩, first, ⟨n, afterLength⟩, second, same⟩ := h
  simp only [Prod.mk.injEq] at same second
  obtain ⟨rfl, rfl, rfl⟩ := same
  simp only [read32?_append first tail, Option.bind_some, read32?_append second tail, Option.map_some]

/-- What looking for a frame comes to once the header can be read. -/
theorem splitFrame_of_header {opcode : UInt8} {bytes rest : List UInt8} {serial : UInt32} {length : Nat}
    (h : ((Wire.read32? bytes).bind fun (serial, rest) =>
        (Wire.read32? rest).map fun (length, rest) => (serial, length.toNat, rest))
      = some (serial, length, rest)) :
    splitFrame (opcode :: bytes) =
      if maxPayload < length then (.malformed (.oversized length), opcode :: bytes)
      else if rest.length < length then (.incomplete, opcode :: bytes)
      else (.message ⟨opcode, serial, rest.take length⟩, rest.drop length) := by
  simp only [splitFrame, h]

/-- A buffer without a complete frame is left as it is. -/
theorem rest_of_splitFrame_incomplete {buffer rest : List UInt8}
    (h : splitFrame buffer = (.incomplete, rest)) : rest = buffer := by
  cases buffer with
  | nil => exact (Prod.mk.inj h).2.symm
  | cons opcode bytes =>
    simp only [splitFrame] at h
    split at h
    · split at h
      · cases h
      · split at h
        · exact (Prod.mk.inj h).2.symm
        · cases h
    · exact (Prod.mk.inj h).2.symm

/-- **A frame or a fault at the front of a buffer stays there when the buffer grows.** -/
theorem splitFrame_append {buffer : List UInt8} (found : (splitFrame buffer).1 ≠ .incomplete)
    (tail : List UInt8) :
    splitFrame (buffer ++ tail) = ((splitFrame buffer).1, (splitFrame buffer).2 ++ tail) := by
  cases buffer with
  | nil => exact absurd rfl found
  | cons opcode bytes =>
    cases header : (Wire.read32? bytes).bind fun (serial, rest) =>
        (Wire.read32? rest).map fun (length, rest) => (serial, length.toNat, rest) with
    | none => exact absurd (by simp only [splitFrame, header]) found
    | some fields =>
      obtain ⟨serial, length, rest⟩ := fields
      rw [splitFrame_of_header header] at found ⊢
      rw [List.cons_append, splitFrame_of_header (header_append header tail)]
      by_cases oversized : maxPayload < length
      · rw [if_pos oversized, if_pos oversized]
        rfl
      · by_cases short : rest.length < length
        · exact absurd (by rw [if_neg oversized, if_pos short]) found
        · -- The frame is complete, and what is appended comes after it.
          have enough : ¬ (rest ++ tail).length < length := by
            rw [List.length_append]; omega
          rw [if_neg oversized, if_neg oversized, if_neg short, if_neg enough,
            List.take_append_of_le_length (by omega), List.drop_append_of_le_length (by omega)]

variable {α : Type} {contents : RawFrame → Except FrameError α}

theorem rest_of_decodeWith_incomplete {buffer rest : List UInt8}
    (h : decodeWith contents buffer = (.incomplete, rest)) : rest = buffer := by
  simp only [decodeWith] at h
  split at h
  · next raw left split =>
    cases read : contents raw <;> rw [read] at h <;> cases h
  · cases h
  · next split =>
    rw [← (Prod.mk.inj h).2]
    exact rest_of_splitFrame_incomplete split

/-- What has been read off the front of a buffer is read off it as well when the buffer is longer. -/
theorem decodeWith_append {buffer : List UInt8} (found : (decodeWith contents buffer).1 ≠ .incomplete)
    (tail : List UInt8) :
    decodeWith contents (buffer ++ tail)
      = ((decodeWith contents buffer).1, (decodeWith contents buffer).2 ++ tail) := by
  have frameFound : (splitFrame buffer).1 ≠ .incomplete := by
    intro waiting
    refine found ?_
    rw [decodeWith]
    cases split : splitFrame buffer with
    | mk result rest =>
      rw [split] at waiting
      cases waiting
      rfl
  rw [decodeWith, splitFrame_append frameFound, decodeWith]
  rcases splitFrame buffer with ⟨_ | _ | _, rest⟩ <;> rfl

/-! ## Taking all messages of a buffer that grows -/

theorem takeAll_of_message {buffer rest : List UInt8} {value : UInt32 × α}
    (h : decodeWith contents buffer = (.message value, rest)) :
    takeAll contents buffer
      = { takeAll contents rest with messages := value :: (takeAll contents rest).messages } := by
  rw [takeAll]
  split
  · next found => cases h.symm.trans found; rfl
  · next found => cases h.symm.trans found
  · next found => cases h.symm.trans found

theorem takeAll_of_malformed {buffer rest : List UInt8} {reason : FrameError}
    (h : decodeWith contents buffer = (.malformed reason, rest)) :
    takeAll contents buffer = ⟨[], some reason, rest⟩ := by
  rw [takeAll]
  split
  · next found => cases h.symm.trans found
  · next found => cases h.symm.trans found; rfl
  · next found => cases h.symm.trans found

theorem takeAll_of_incomplete {buffer rest : List UInt8}
    (h : decodeWith contents buffer = (.incomplete, rest)) :
    takeAll contents buffer = ⟨[], none, rest⟩ := by
  rw [takeAll]
  split
  · next found => cases h.symm.trans found
  · next found => cases h.symm.trans found
  · next found => cases h.symm.trans found; rfl

/-- Read on, once more bytes are there, from where a batch ended. A fault is final. -/
def Batch.readOn (batch : Batch α) (read : List UInt8 → Batch α) (tail : List UInt8) : Batch α :=
  match batch.fault with
  | some _ => { batch with rest := batch.rest ++ tail }
  | none =>
    let later := read (batch.rest ++ tail)
    { later with messages := batch.messages ++ later.messages }

/-- **Reading a buffer that has grown is reading on from where the reading stood.** -/
theorem takeAll_append (contents : RawFrame → Except FrameError α) (buffer tail : List UInt8) :
    takeAll contents (buffer ++ tail)
      = (takeAll contents buffer).readOn (takeAll contents) tail := by
  fun_induction takeAll contents buffer with
  | case1 buffer value rest found _ batch ih =>
    have grown := decodeWith_append (by rw [found]; nofun) tail
    rw [found] at grown
    rw [takeAll_of_message grown, ih]
    simp only [Batch.readOn, batch]
    cases (takeAll contents rest).fault <;> rfl
  | case2 buffer reason rest found =>
    have grown := decodeWith_append (by rw [found]; nofun) tail
    rw [found] at grown
    exact takeAll_of_malformed grown
  | case3 buffer rest found =>
    rw [rest_of_decodeWith_incomplete found]
    rfl

/-- Nothing is left to read once everything has been read. -/
theorem takeAll_rest {buffer : List UInt8} (sound : (takeAll contents buffer).fault = none) :
    takeAll contents (takeAll contents buffer).rest = ⟨[], none, (takeAll contents buffer).rest⟩ := by
  fun_induction takeAll contents buffer with
  | case1 buffer value rest found _ batch ih => exact ih sound
  | case2 buffer reason rest found => cases sound
  | case3 buffer rest found =>
    have same := rest_of_decodeWith_incomplete found
    subst same
    exact takeAll_of_incomplete found

/-! ## Only the stream matters -/

/-- **Reading piece by piece gives the messages and the fault of the whole stream**, and without a fault
    also leaves the same bytes. -/
theorem takePieces_eq_takeAll {buffer : List UInt8} (settled : takeAll contents buffer = ⟨[], none, buffer⟩)
    (pieces : List (List UInt8)) :
    (takePieces contents buffer pieces).messages
        = (takeAll contents (buffer ++ pieces.flatten)).messages ∧
      (takePieces contents buffer pieces).fault
        = (takeAll contents (buffer ++ pieces.flatten)).fault ∧
      ((takeAll contents (buffer ++ pieces.flatten)).fault = none →
        (takePieces contents buffer pieces).rest
          = (takeAll contents (buffer ++ pieces.flatten)).rest) := by
  induction pieces generalizing buffer with
  | nil =>
    rw [List.flatten_nil, List.append_nil, settled]
    exact ⟨rfl, rfl, fun _ => rfl⟩
  | cons piece pieces ih =>
    rw [List.flatten_cons, ← List.append_assoc, takeAll_append, takePieces, Batch.readOn]
    cases met : (takeAll contents (buffer ++ piece)).fault with
    | some reason => simp [met]
    | none =>
      -- What is left cannot be read until more arrives, as the buffer could not be at the start.
      obtain ⟨sameMessages, sameFault, sameRest⟩ := ih (takeAll_rest met)
      exact ⟨congrArg (_ ++ ·) sameMessages, sameFault, sameRest⟩

/-! ## Writing and reading back -/

/-- A message whose payload fits a frame is read back in front of any bytes. -/
theorem decodeWith_frame {opcode : UInt8} {serial : UInt32} {payload : List UInt8} {value : α}
    (fits : payload.length ≤ maxPayload) (read : contents ⟨opcode, serial, payload⟩ = .ok value)
    (rest : List UInt8) :
    decodeWith contents (frame opcode serial payload ++ rest) = (.message (serial, value), rest) := by
  rw [decodeWith, splitFrame_frame opcode serial fits rest]
  simp only [read, Except.map, Wire.Outcome.ofExcept]

/-- A message whose payload fits a frame is read back, and the reading goes on behind it. -/
theorem takeAll_frame {opcode : UInt8} {serial : UInt32} {payload : List UInt8} {value : α}
    (fits : payload.length ≤ maxPayload) (read : contents ⟨opcode, serial, payload⟩ = .ok value)
    (rest : List UInt8) :
    takeAll contents (frame opcode serial payload ++ rest)
      = { takeAll contents rest with
          messages := (serial, value) :: (takeAll contents rest).messages } :=
  takeAll_of_message (decodeWith_frame fits read rest)

/-- The audio that a request carries. -/
def Request.audio : Request → List UInt8
  | play _ _ _ _ _ data => data
  | stop _ => []

/-- Whether a request fits one frame. -/
def Request.Fits (request : Request) : Prop := request.audio.length ≤ maxFlowData

theorem Request.Fits.payload {request : Request} (fits : request.Fits) :
    request.payload.length ≤ maxPayload := by
  cases request with
  | play format channels rate volume frames data =>
    simp only [Fits, audio, maxFlowData, playFields, maxPayload] at fits
    simp only [Request.payload, maxPayload, List.length_cons, List.length_append, Wire.length_word32]
    omega
  | stop flow => simp [Request.payload, maxPayload]

theorem Event.length_payload_le (event : Event) : event.payload.length ≤ maxPayload := by
  cases event <;> simp [Event.payload, maxPayload]

/-- The bytes of requests written one behind the other. -/
def encodeRequests (requests : List (UInt32 × Request)) : List UInt8 :=
  requests.flatMap fun message => encodeRequest message.1 message.2

/-- The bytes of events written one behind the other. -/
def encodeEvents (events : List (UInt32 × Event)) : List UInt8 :=
  events.flatMap fun message => encodeEvent message.1 message.2

theorem takeRequests_encodeRequests {requests : List (UInt32 × Request)}
    (fit : ∀ message ∈ requests, message.2.Fits) :
    takeRequests (encodeRequests requests) = ⟨requests, none, []⟩ := by
  induction requests with
  | nil => exact takeAll_nil _
  | cons message requests ih =>
    obtain ⟨serial, request⟩ := message
    have first : request.Fits := fit _ List.mem_cons_self
    have others := ih fun message mem => fit message (List.mem_cons_of_mem _ mem)
    rw [takeRequests] at others ⊢
    rw [encodeRequests, List.flatMap_cons, encodeRequest,
      takeAll_frame first.payload (Request.toRequest_payload serial request), ← encodeRequests, others]

theorem takeEvents_encodeEvents (events : List (UInt32 × Event)) :
    takeEvents (encodeEvents events) = ⟨events, none, []⟩ := by
  induction events with
  | nil => exact takeAll_nil _
  | cons message events ih =>
    obtain ⟨serial, event⟩ := message
    rw [takeEvents] at ih ⊢
    rw [encodeEvents, List.flatMap_cons, encodeEvent,
      takeAll_frame event.length_payload_le (Event.toEvent_payload serial event), ← encodeEvents, ih]

/-! ## Every cut -/

/-- All requests in a stream that arrives in pieces. -/
def requestsOf : List (List UInt8) → Batch Request := takePieces RawFrame.toRequest []

/-- All events in a stream that arrives in pieces. -/
def eventsOf : List (List UInt8) → Batch Event := takePieces RawFrame.toEvent []

/-- A stream without a fault leaves, cut or not, the same messages and bytes. -/
theorem takePieces_of_takeAll {pieces : List (List UInt8)} {messages : List (UInt32 × α)}
    (whole : takeAll contents pieces.flatten = ⟨messages, none, []⟩) :
    takePieces contents [] pieces = ⟨messages, none, []⟩ := by
  obtain ⟨sameMessages, sameFault, sameRest⟩ := takePieces_eq_takeAll (takeAll_nil contents) pieces
  rw [List.nil_append, whole] at sameMessages sameFault sameRest
  cases read : takePieces contents [] pieces with
  | mk m f r =>
    rw [read] at sameMessages sameFault sameRest
    rw [show m = messages from sameMessages, show f = none from sameFault, show r = [] from sameRest rfl]

/-- Two cuts of one stream give the same messages and the same fault. -/
theorem takePieces_congr {pieces pieces' : List (List UInt8)} (same : pieces.flatten = pieces'.flatten) :
    (takePieces contents [] pieces).messages = (takePieces contents [] pieces').messages ∧
      (takePieces contents [] pieces).fault = (takePieces contents [] pieces').fault := by
  obtain ⟨messages, fault, _⟩ := takePieces_eq_takeAll (takeAll_nil contents) pieces
  obtain ⟨messages', fault', _⟩ := takePieces_eq_takeAll (takeAll_nil contents) pieces'
  rw [messages, fault, messages', fault', same]
  exact ⟨rfl, rfl⟩

/-- **Messages survive every cut of their bytes.** Requests that fit a frame, and all events, are read back
    in order, without a fault and with nothing left over, whatever the pieces are that their bytes arrive in.
    Of any stream at all, the messages before the first fault, and the fault, are the same for every cut. -/
theorem messages_survive_segmentation :
    (∀ (requests : List (UInt32 × Request)) (pieces : List (List UInt8)),
      (∀ message ∈ requests, message.2.Fits) → pieces.flatten = encodeRequests requests →
        requestsOf pieces = ⟨requests, none, []⟩) ∧
    (∀ (events : List (UInt32 × Event)) (pieces : List (List UInt8)),
      pieces.flatten = encodeEvents events → eventsOf pieces = ⟨events, none, []⟩) ∧
    (∀ pieces pieces' : List (List UInt8), pieces.flatten = pieces'.flatten →
      (requestsOf pieces).messages = (requestsOf pieces').messages ∧
      (requestsOf pieces).fault = (requestsOf pieces').fault ∧
      (eventsOf pieces).messages = (eventsOf pieces').messages ∧
      (eventsOf pieces).fault = (eventsOf pieces').fault) := by
  refine ⟨?_, ?_, ?_⟩
  · intro requests pieces fit cut
    refine takePieces_of_takeAll ?_
    rw [cut]
    exact takeRequests_encodeRequests fit
  · intro events pieces cut
    refine takePieces_of_takeAll ?_
    rw [cut]
    exact takeEvents_encodeEvents events
  · intro pieces pieces' same
    have requests := @takePieces_congr _ RawFrame.toRequest _ _ same
    have events := @takePieces_congr _ RawFrame.toEvent _ _ same
    exact ⟨requests.1, requests.2, events.1, events.2⟩

/-- A play request and a stop request, cut inside the header, at a single byte and at none. -/
theorem requests_survive_cuts_in_header :
    requestsOf
        [(encodeRequests [(7, .play .signed16Little 1 8000 75000 2 [1, 0, 2, 0]), (8, .stop 5)]).take 5, [],
          [0], (encodeRequests [(7, .play .signed16Little 1 8000 75000 2 [1, 0, 2, 0]), (8, .stop 5)]).drop 6]
      = ⟨[(7, .play .signed16Little 1 8000 75000 2 [1, 0, 2, 0]), (8, .stop 5)], none, []⟩ := by
  refine messages_survive_segmentation.1 _ _ ?_ (by decide)
  simp [Request.Fits, Request.audio, maxFlowData, maxPayload, playFields]

end Playout.Flow
