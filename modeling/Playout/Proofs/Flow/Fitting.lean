import Playout.Flow.Output
import Playout.Proofs.Flow.Framing
import Playout.Proofs.Flow.Serial
import Playout.Proofs.Traces

/-!
# `Playout.Proofs.Flow.Fitting` — whether a request fits one frame

A track is checked to fit one flow by its whole frames, and then all its samples are sent. Samples behind the last whole
frame are sent as well, and it is they that may be too much for one frame.

## Contents
- `splitFrame_oversized` — a frame whose payload is too long is not taken off a buffer.
- `decodeRequest_fitting`, `decodeRequest_oversized` — requests that fit a frame are read back, and no others.
- `Passes`, `Orderly`, `play_asks` — what a play may ask: orders with serials that are not zero, once its checks have
  been passed.
- `Orders`, `play_orders` — for which tracks it orders a flow.
- `length_audio`, `Passes.fits`, `Passes.short` — how long its audio is.
- `writes_of_start` — what the pump writes for an order.
- `path_ordered`, `path_written` — an order that is given, and carried out.

## Main statements
- `read_back_iff_fits` — the request of a play is read back, if and only if all its samples fit.
- `passed_yet_oversized` — a track may pass the checks and be too long for its frame.
-/

namespace Playout.Flow

open Interleaving Program

/-! ## Frames that are too long -/

/-- A frame whose payload is longer than allowed is left where it is. -/
theorem splitFrame_oversized (opcode : UInt8) (serial : UInt32) {payload : List UInt8} (long : maxPayload < payload.length)
    (short : payload.length < UInt32.size) (rest : List UInt8) :
    splitFrame (frame opcode serial payload ++ rest) =
      (.malformed (.oversized payload.length), frame opcode serial payload ++ rest) := by
  have length : (UInt32.ofNat payload.length).toNat = payload.length := UInt32.toNat_ofNat_of_lt' short
  simp only [frame, List.cons_append, List.append_assoc, splitFrame, Wire.read32?_word32,
    Option.bind_some, Option.map_some, length]
  rw [if_pos long]

section Requests

variable (serial : UInt32) {request : Request}

/-- A request that fits a frame is read back in front of any bytes. -/
theorem decodeRequest_fitting (fits : request.Fits) (rest : List UInt8) :
    decodeRequest (encodeRequest serial request ++ rest) = (.message (serial, request), rest) :=
  decodeWith_frame fits.payload (Request.toRequest_payload serial request) rest

/-- The audio of a request comes behind its fields. -/
theorem length_payload_of_audio (audio : 0 < request.audio.length) :
    request.payload.length = playFields + request.audio.length := by
  cases request with
  | play format channels rate volume frames data =>
    simp only [Request.payload, Request.audio, playFields, List.length_cons, List.length_append, Wire.length_word32]
    omega
  | stop flow => exact absurd audio (Nat.lt_irrefl 0)

/-- A request that does not fit is refused, and nothing behind it can be read. -/
theorem decodeRequest_oversized (long : maxFlowData < request.audio.length)
    (short : playFields + request.audio.length < UInt32.size) (rest : List UInt8) :
    decodeRequest (encodeRequest serial request ++ rest) =
      (.malformed (.oversized (playFields + request.audio.length)), encodeRequest serial request ++ rest) := by
  have length := length_payload_of_audio (Nat.zero_lt_of_lt long)
  have longer : maxPayload < request.payload.length := by
    rw [length]
    unfold maxFlowData at long
    omega
  unfold decodeRequest decodeWith encodeRequest
  rw [splitFrame_oversized _ serial longer (length ▸ short), length]

end Requests

/-! ## What a play orders -/

/-- A track passes the checks of a play, with samples of this width. -/
structure Passes (t : Track) (width : Nat) : Prop where
  nonempty : t.isEmpty = false
  valid : t.validate = .ok width
  channels : t.channels.toNat ≤ Player.maxChannels
  length : dataLength t width ≤ maxFlowData

/-- What the output may ask besides starting a flow: whatever is no order, and orders with serials that are not zero. -/
structure Orderly (allowed : Player.Request → Prop) : Prop where
  aside : ∀ r, (∀ order, r ≠ .order order) → allowed r
  stop : ∀ serial flow, serial ≠ 0 → allowed (.order (.stop serial flow))
  abandon : ∀ serial, serial ≠ 0 → allowed (.order (.abandon serial))

section Orderly

variable {allowed : Player.Request → Prop}

theorem Orderly.adds (orderly : Orderly allowed) : Player.addSerial.Asks allowed :=
  ⟨orderly.aside _ nofun, fun _ => trivial⟩

theorem stopFlow_asks (orderly : Orderly allowed) (flow : UInt32) : (Player.stopFlow flow).Asks allowed := by
  refine drawSerial_bind_asks orderly.adds Pump.serialAttempts fun serial nonzero => ?_
  exact ⟨orderly.stop serial flow nonzero, fun _ => trivial⟩

theorem awaitFlow_asks (orderly : Orderly allowed) {serial : UInt32} (nonzero : serial ≠ 0) (timeout : Seconds) :
    (Player.awaitFlow serial timeout).Asks allowed := by
  refine ⟨orderly.aside _ nofun, ?_⟩
  intro waited
  cases waited with
  | answered reply => trivial
  | forsaken => trivial
  | timedOut =>
    refine ⟨orderly.abandon serial nonzero, fun _ => ⟨orderly.aside _ nofun, ?_⟩⟩
    intro waited
    cases waited <;> trivial

/-- One flow is ordered, by this request. -/
theorem startFlow_asks (orderly : Orderly allowed) {request : Flow.Request}
    (starts : ∀ serial, serial ≠ 0 → allowed (.order (.start serial request))) (timeout : Seconds) :
    (Player.startFlow request timeout).Asks allowed := by
  refine drawSerial_bind_asks orderly.adds Pump.serialAttempts fun serial nonzero => ?_
  refine ⟨starts serial nonzero, ?_⟩
  intro accepted
  show (if accepted = true then (Player.awaitFlow serial timeout).bind fun flow =>
    (Player.forget serial).bind fun _ => .done flow
    else .done (.error (.startFlow "connection to the event server is closed"))).Asks _
  split
  · apply Asks.bind (awaitFlow_asks orderly nonzero timeout)
    intro flow
    exact ⟨orderly.aside _ nofun, fun _ => trivial⟩
  · trivial

theorem waitFor_asks (orderly : Orderly allowed) (t : Track) : (Player.waitFor t).Asks allowed := by
  have clears : (Player.takeFlow.bind fun _ => Player.putFlow 0).Asks allowed :=
    ⟨orderly.aside _ nofun, fun _ => ⟨orderly.aside _ nofun, fun _ => trivial⟩⟩
  refine ⟨orderly.aside _ nofun, fun _ => ⟨orderly.aside _ nofun, ?_⟩⟩
  intro outcome
  cases outcome with
  | timedOut => exact clears
  | cancelled => exact ⟨orderly.aside _ nofun, fun _ => ⟨orderly.aside _ nofun, fun _ => clears⟩⟩

theorem playFlow_asks (orderly : Orderly allowed) (c : Config) {t : Track} {volume : Int}
    (starts : ∀ serial, serial ≠ 0 → allowed (.order (.start serial (requestOf t volume)))) :
    (Player.playFlow c t volume).Asks allowed := by
  apply Asks.bind (startFlow_asks orderly starts c.startTimeout)
  intro outcome
  cases outcome with
  | error e => exact ⟨orderly.aside _ nofun, fun _ => trivial⟩
  | ok flow =>
    refine ⟨orderly.aside _ nofun, fun current => ⟨orderly.aside _ nofun, ?_⟩⟩
    intro stopped
    simp only [done_bind, bind_eq, pure_eq]
    split
    · apply Asks.bind (stopFlow_asks orderly flow)
      exact fun _ => ⟨orderly.aside _ nofun, fun _ => trivial⟩
    · refine ⟨orderly.aside _ nofun, fun _ => ?_⟩
      show ((Player.waitFor t).bind fun _ => Program.done (Except.ok ())).Asks allowed
      apply Asks.bind (waitFor_asks orderly t)
      exact fun _ => trivial

/-- **A play is orderly**, and starts a flow only for a track that has passed its checks, and for all its samples. -/
theorem play_asks (orderly : Orderly allowed) (c : Config) (t : Track) (settings : PlaySettings)
    (starts : ∀ serial width, serial ≠ 0 → Passes t width →
      allowed (.order (.start serial (requestOf t settings.volume)))) :
    (Player.play c t settings).Asks allowed := by
  refine ⟨orderly.aside _ nofun, fun _ => ?_⟩
  simp only [done_bind, bind_eq, pure_eq]
  split
  · trivial
  · next nonempty =>
    cases valid : t.validate with
    | error e => exact ⟨orderly.aside _ nofun, fun _ => trivial⟩
    | ok width =>
      show (if _ then _ else _ : Program _ _).Asks _
      split
      · trivial
      · next channels =>
        split
        · exact ⟨orderly.aside _ nofun, fun _ => trivial⟩
        · next length =>
          have passes : Passes t width :=
            ⟨by simpa using nonempty, valid, Nat.le_of_not_lt channels, Nat.le_of_not_lt length⟩
          exact playFlow_asks orderly c fun serial nonzero => starts serial width nonzero passes

end Orderly

/-- If a flow is ordered, it is for a track that has passed the checks. -/
def Orders (t : Track) (volume : Int) (r : Player.Request) : Prop :=
  ∀ serial request, r = .order (.start serial request) → (∃ width, Passes t width) ∧ request = requestOf t volume

/-- **A play orders a flow only for a track that has passed its checks**, and for all its samples. -/
theorem play_orders (c : Config) (t : Track) (settings : PlaySettings) :
    (Player.play c t settings).Asks (Orders t settings.volume) := by
  refine play_asks ⟨fun r other serial request same => absurd same (other _), fun _ _ _ => nofun, fun _ _ => nofun⟩ c t
    settings ?_
  intro serial width _ passes serial' request same
  cases same
  exact ⟨⟨width, passes⟩, rfl⟩

/-! ## How long the audio is -/

section Length

variable {t : Track} {width : Nat}

theorem length_audio (valid : t.validate = .ok width) (volume : Int) :
    (requestOf t volume).audio.length = width * t.samples.length := by
  show (Sample.toBytes t.samples (if t.bits = 8 then 8 else 16) .little .signed).length = width * t.samples.length
  rw [Sample.length_toBytes]
  obtain ⟨⟨sixteen, rfl⟩ | ⟨eight, rfl⟩, -⟩ := (Track.validate_eq_ok_iff t width).1 valid
  · rw [sixteen]
    rfl
  · rw [eight]
    rfl

/-- Behind the whole frames there is less than one more. -/
theorem Passes.samples (passes : Passes t width) :
    t.samples.length = t.frames * t.channels.toNat + t.samples.length % t.channels.toNat ∧
      t.samples.length % t.channels.toNat < t.channels.toNat := by
  obtain ⟨-, nonzero, -⟩ := (Track.validate_eq_ok_iff t width).1 passes.valid
  have positive : 0 < t.channels.toNat := Nat.pos_of_ne_zero fun zero => nonzero (UInt16.toNat_inj.1 zero)
  have frames : t.frames = t.samples.length / t.channels.toNat := by
    unfold Track.frames
    rw [Nat.max_eq_left positive]
  rw [frames]
  exact ⟨(Nat.div_add_mod' _ _).symm, Nat.mod_lt _ positive⟩

/-- Without an incomplete frame at the end, what is checked is what is sent. -/
theorem Passes.fits (passes : Passes t width) (whole : t.channels.toNat ∣ t.samples.length) :
    width * t.samples.length ≤ maxFlowData := by
  have all := passes.samples.1
  rw [Nat.mod_eq_zero_of_dvd whole, Nat.add_zero] at all
  have checked := passes.length
  unfold dataLength at checked
  rw [← all, Nat.mul_comm] at checked
  exact checked

/-- A track that has passed the checks is not so long that its length would not fit its field. -/
theorem Passes.short (passes : Passes t width) : playFields + width * t.samples.length < UInt32.size := by
  obtain ⟨all, few⟩ := passes.samples
  have channels : t.channels.toNat ≤ 255 := passes.channels
  have checked : t.frames * t.channels.toNat * width ≤ 33554418 := passes.length
  have narrow : width ≤ 2 := by
    obtain ⟨⟨-, rfl⟩ | ⟨-, rfl⟩, -⟩ := (Track.validate_eq_ok_iff t width).1 passes.valid
    · exact Nat.le_refl 2
    · exact Nat.le_succ 1
  have left : width * (t.samples.length % t.channels.toNat) ≤ 2 * 255 :=
    Nat.mul_le_mul narrow (Nat.le_of_lt (Nat.lt_of_lt_of_le few channels))
  have length : width * t.samples.length =
      t.frames * t.channels.toNat * width + width * (t.samples.length % t.channels.toNat) := by
    conv => lhs; rw [all, Nat.mul_add, Nat.mul_comm width (_ * _)]
  have size : UInt32.size = 4294967296 := rfl
  rw [length, size]
  unfold playFields
  omega

end Length

/-! ## What is written -/

/-- For an order to start a flow its request is written, and nothing else. -/
theorem writes_of_start {s : Pump.State} {serial : UInt32} {request : Request} {trace : Trace Pump.Interface}
    {q : Pump.Action Pump.Next} (path : Path goesOn (Pump.step s (.order (.start serial request))) trace q)
    {bytes : List UInt8} {outcome : Except String Unit} (written : ⟨.write bytes, outcome⟩ ∈ trace) :
    bytes = encodeRequest serial request := by
  have asks : (Pump.step s (.order (.start serial request))).Asks
      fun r : Pump.Request => ∀ bytes, r = .write bytes → bytes = encodeRequest serial request := by
    refine ⟨?_, fun outcome => ?_⟩
    · intro bytes same
      cases same
      rfl
    · cases outcome with
      | ok _ => trivial
      | error reason => exact ⟨nofun, fun _ => trivial⟩
  exact asked_of_asks path asks _ written bytes rfl

/-- A play orders a flow once the checks have been passed. -/
theorem path_ordered (c : Config) {t : Track} {width : Nat} (passes : Passes t width) (settings : PlaySettings) :
    ∃ trace p, Path goesOn (Player.play c t settings) trace p ∧
      ⟨.order (.start 1 (requestOf t settings.volume)), true⟩ ∈ trace := by
  have begins : Player.play c t settings = .ask .resetDone fun _ => Player.playFlow c t settings.volume := by
    unfold Player.play
    simp only [bind_eq, ask_bind, done_bind, passes.nonempty, passes.valid, Bool.false_eq_true, if_false,
      if_neg (Nat.not_lt.2 passes.channels), if_neg (Nat.not_lt.2 passes.length)]
  have path : Path goesOn (Player.play c t settings) [] _ := .start
  replace path := goesOn_next path begins ()
  replace path := goesOn_next path rfl (1 : UInt32)
  replace path := goesOn_next path rfl true
  exact ⟨_, _, path, List.mem_append_right _ List.mem_cons_self⟩

/-- What the pump writes for an order. -/
theorem path_written (s : Pump.State) (serial : UInt32) (request : Request) : ∃ trace q,
    Path goesOn (Pump.step s (.order (.start serial request))) trace q ∧
      ⟨.write (encodeRequest serial request), .ok ()⟩ ∈ trace := by
  have path : Path goesOn (Pump.step s (.order (.start serial request))) [] _ := .start
  replace path := goesOn_next path rfl (Except.ok () : Except String Unit)
  exact ⟨_, _, path, List.mem_cons_self⟩

/-- **A request is read back, if and only if all its samples fit.** Let a play order a flow, and let the pump write for
    that order. Then what it writes is one frame of the same request; but if the samples with those behind the last whole
    frame are too long, it is refused. -/
theorem read_back_iff_fits {c : Config} {t : Track} {settings : PlaySettings} {trace : Trace Player.Interface}
    {p : Player.Action (Except PlayError Unit)} (path : Path goesOn (Player.play c t settings) trace p) {serial : UInt32}
    {request : Request} {accepted : Bool} (ordered : ⟨.order (.start serial request), accepted⟩ ∈ trace)
    {s : Pump.State} {back : Trace Pump.Interface} {q : Pump.Action Pump.Next}
    (step : Path goesOn (Pump.step s (.order (.start serial request))) back q)
    {bytes : List UInt8} {outcome : Except String Unit} (written : ⟨.write bytes, outcome⟩ ∈ back) :
    ∃ width, t.validate = .ok width ∧ dataLength t width ≤ maxFlowData ∧ request = requestOf t settings.volume ∧
      (∀ rest, decodeRequest (bytes ++ rest) =
        if width * t.samples.length ≤ maxFlowData then (.message (serial, request), rest)
        else (.malformed (.oversized (playFields + width * t.samples.length)), bytes ++ rest)) ∧
      ((∀ rest, decodeRequest (bytes ++ rest) = (.message (serial, request), rest)) ↔
        width * t.samples.length ≤ maxFlowData) ∧
      (t.channels.toNat ∣ t.samples.length → width * t.samples.length ≤ maxFlowData) := by
  obtain ⟨⟨width, passes⟩, rfl⟩ := asked_of_asks path (play_orders c t settings) _ ordered serial request rfl
  obtain rfl := writes_of_start step written
  have audio := length_audio passes.valid settings.volume
  have read (rest : List UInt8) : decodeRequest (encodeRequest serial (requestOf t settings.volume) ++ rest) =
      if width * t.samples.length ≤ maxFlowData then (.message (serial, requestOf t settings.volume), rest)
      else (.malformed (.oversized (playFields + width * t.samples.length)),
        encodeRequest serial (requestOf t settings.volume) ++ rest) := by
    split
    · next fits => exact decodeRequest_fitting serial (Nat.le_trans (Nat.le_of_eq audio) fits) rest
    · next long =>
      rw [← audio]
      refine decodeRequest_oversized serial ?_ ?_ rest
      · rw [audio]
        exact Nat.lt_of_not_le long
      · rw [audio]
        exact passes.short
  refine ⟨width, passes.valid, passes.length, rfl, read, ?_, passes.fits⟩
  constructor
  · intro same
    by_contra long
    have refused := (read []).symm.trans (same [])
    rw [if_neg long] at refused
    cases refused
  · intro fits rest
    rw [read rest, if_pos fits]

/-! ### Two tracks -/

/-- A server on this machine. -/
def nearby : Config where
  server := ⟨.v4 127 0 0 1, 8000, 0⟩

/-- One frame of three samples, and one sample more. -/
def oneMore : Track := ⟨16, 3, 8000, [1, -2, 3, -4]⟩

theorem passes_oneMore : Passes oneMore 2 where
  nonempty := rfl
  valid := rfl
  channels := by decide
  length := by decide

/-- The sample behind the frame is read back with the others. -/
theorem oneMore_read_back : ∃ trace p back q,
    Path goesOn (Player.play nearby oneMore {}) trace p ∧ ⟨.order (.start 1 (requestOf oneMore 0)), true⟩ ∈ trace ∧
    Path goesOn (Pump.step {} (.order (.start 1 (requestOf oneMore 0)))) back q ∧
    ⟨.write (encodeRequest 1 (requestOf oneMore 0)), .ok ()⟩ ∈ back ∧
    ∃ width, oneMore.validate = .ok width ∧ dataLength oneMore width ≤ maxFlowData ∧
      requestOf oneMore 0 = requestOf oneMore 0 ∧
      (∀ rest, decodeRequest (encodeRequest 1 (requestOf oneMore 0) ++ rest) =
        if width * oneMore.samples.length ≤ maxFlowData then (.message (1, requestOf oneMore 0), rest)
        else (.malformed (.oversized (playFields + width * oneMore.samples.length)),
          encodeRequest 1 (requestOf oneMore 0) ++ rest)) ∧
      ((∀ rest, decodeRequest (encodeRequest 1 (requestOf oneMore 0) ++ rest) = (.message (1, requestOf oneMore 0), rest)) ↔
        width * oneMore.samples.length ≤ maxFlowData) ∧
      (oneMore.channels.toNat ∣ oneMore.samples.length → width * oneMore.samples.length ≤ maxFlowData) := by
  obtain ⟨trace, p, path, ordered⟩ := path_ordered nearby passes_oneMore {}
  obtain ⟨back, q, step, written⟩ := path_written {} 1 (requestOf oneMore 0)
  exact ⟨trace, p, back, q, path, ordered, step, written, read_back_iff_fits path ordered step written⟩

/-- Silence on three channels. -/
def silence (samples : Nat) : Track := ⟨16, 3, 44100, List.replicate samples 0⟩

theorem length_silence (samples : Nat) : (silence samples).samples.length = samples := List.length_replicate

/-- Silence passes the checks if its whole frames fit, of six bytes each. -/
theorem passes_silence {samples : Nat} (nonempty : 3 ≤ samples) (fits : samples / 3 * 6 ≤ maxFlowData) :
    Passes (silence samples) 2 := by
  have frames : (silence samples).frames = samples / 3 := by
    unfold Track.frames
    rw [length_silence]
    rfl
  refine ⟨?_, rfl, (by decide : 3 ≤ 255), ?_⟩
  · unfold Track.isEmpty
    rw [frames, beq_eq_false_iff_ne]
    omega
  · unfold dataLength
    rw [frames]
    show samples / 3 * 3 * 2 ≤ maxFlowData
    omega

/-- Silence whose whole frames fit may still be too long. -/
theorem silence_oversized {samples : Nat} (passes : Passes (silence samples) 2) (long : maxFlowData < 2 * samples)
    (serial : UInt32) (volume : Int) :
    decodeRequest (encodeRequest serial (requestOf (silence samples) volume)) =
      (.malformed (.oversized (playFields + 2 * samples)), encodeRequest serial (requestOf (silence samples) volume)) := by
  have audio : (requestOf (silence samples) volume).audio.length = 2 * samples := by
    rw [length_audio passes.valid, length_silence]
  have short := passes.short
  rw [length_silence, ← audio] at short
  have refused := decodeRequest_oversized serial (audio ▸ long) short []
  rwa [List.append_nil, audio] at refused

/-- **A track may pass the check and be too long for its frame.** Its whole frames are exactly as long as a flow can be, and
    the sample behind them is sent as well. -/
theorem passed_yet_oversized :
    (∃ trace p, Path goesOn (Player.play nearby (silence 16777210) {}) trace p ∧
      ⟨.order (.start 1 (requestOf (silence 16777210) 0)), true⟩ ∈ trace) ∧
    dataLength (silence 16777210) 2 ≤ maxFlowData ∧
    decodeRequest (encodeRequest 1 (requestOf (silence 16777210) 0)) =
      (.malformed (.oversized 33554434), encodeRequest 1 (requestOf (silence 16777210) 0)) := by
  have passes : Passes (silence 16777210) 2 := passes_silence (by decide) (by decide)
  exact ⟨path_ordered nearby passes {}, passes.length, silence_oversized passes (by decide) 1 0⟩

end Playout.Flow
