import Mathlib.Algebra.BigOperators.Group.List.Basic
import Mathlib.Data.Nat.ModEq
import Mathlib.Tactic.Choose
import Playout.Proofs.Live.Keeper
import Playout.Proofs.Simple.Keeper
import Playout.Proofs.Transport.Books

/-!
# `Playout.Proofs.Transport.Alignment` — where the next track begins on a stream that is used again

A peer takes what comes over a stream as frames, one sample for each channel. A track that is played to its end
leaves the stream at the end of a frame. A track that is stopped leaves it at the end of a chunk of 256 bytes, which
need not be the end of a frame.

## Contents
- `Track.frameLength` — the bytes of one frame.
- `Reuse` — a play is about to go on with the stream in the slot.
- `Ended` — how a piece of a stream has ended.
- `Aligned` — what the bytes of the stream are when it is used again.
- `Keeper.aligned` — so it is for any output whose formats tell the length of a frame.
- `run_cut` — a run in which a track is stopped within a frame, and the stream is used again.

## Main statements
- `reused_streams_aligned` — the next track begins with a frame unless chunks of stopped tracks are in the way.
- `reused_within_frame` — they can be in the way.
-/

namespace Playout

/-- The bytes of one sample for each channel. -/
def Track.frameLength (t : Track) : Nat := t.channels.toNat * t.bytesPerSample.toOption.getD 0

namespace Transport

open Interleaving

variable {T : Type} [DecidableEq T] {I : Interface} {Spec : Type} [DecidableEq Spec]

/-! ## What is said of a stream that is used again -/

/-- After a run, call `n` of thread `t` plays a track, and it finds the stream `h` in the slot, which is open in the
    format of the track. -/
structure Reuse (d : Design I Spec) (commands : T → Nat → Command) (w : World T Spec)
    (history : History T I (Except PlayError Unit))
    (s : State (fun _ => I) (fun _ => Except PlayError Unit) (World T Spec)) (t : T) (track : Track)
    (settings : PlaySettings) (h : Handle) : Prop where
  run : Run (calls d.output commands) (answers d.act) w history s
  plays : commands t (s.call t).number = .play track settings
  accepts : d.accepts track = true
  finds : ∃ r next answer w', (s.call t).rest = .ask r next ∧ answers d.act t r s.shared answer w' ∧
    d.act r answer = .take (some (d.spec track settings.order, h))

/-- A piece is the whole track of its play, or the play has seen a stop and left this many chunks of it, which are
    not all. -/
def Ended (d : Design I Spec) (commands : T → Nat → Command) (given : List Handle)
    (history : History T I (Except PlayError Unit)) (p : Piece T) (cut : Nat) : Prop :=
  ∃ track settings, commands p.call.1 p.call.2 = .play track settings ∧
    (cut = 0 ∧ p.bytes = d.bytes track settings ∨
      (d.ledger commands given history).Saw p.call ∧ p.bytes.length = chunkLength * cut ∧
        p.bytes <+: d.bytes track settings ∧ p.bytes ≠ d.bytes track settings)

/-- When a stream is used again, all that has come over it is its header and one piece for each play. What has come
    after the header is a whole number of frames if and only if the chunks of plays that were stopped are; in
    particular if a chunk is a whole number of frames, or if none of the plays has seen a stop. -/
def Aligned (T : Type) [DecidableEq T] (d : Design I Spec) : Prop :=
  ∀ {commands : T → Nat → Command} {w history s t track settings h}, Prepared d.header w →
    (∀ u n track settings, commands u n = .play track settings →
      track.channels.toNat ∣ track.samples.length) →
    Reuse d commands w history s t track settings h →
    ∃ (audio : List UInt8) (pieces : List (Piece T)) (cut : Piece T → Nat),
      s.shared.sent h = (d.header (d.spec track settings.order)).getD [] ++ audio ∧
      audio = (pieces.map (·.bytes)).flatten ∧
      pieces.map (·.call) = (d.ledger commands w.opened history).plays h ∧
      (∀ p ∈ pieces, Ended d commands w.opened history p (cut p)) ∧
      (track.frameLength ∣ audio.length ↔ track.frameLength ∣ chunkLength * (pieces.map cut).sum) ∧
      (track.frameLength ∣ chunkLength ∨
        (∀ call ∈ (d.ledger commands w.opened history).plays h,
          ¬ (d.ledger commands w.opened history).Saw call) → track.frameLength ∣ audio.length)

/-! ## Pieces and frames -/

/-- The formats of an output tell the length of a frame. -/
structure Framed (d : Design I Spec) : Prop where
  valid : ∀ track, d.accepts track = true → track.validate.isOk = true
  same : ∀ track other order order', d.accepts track = true → d.accepts other = true →
    d.spec track order = d.spec other order' → track.frameLength = other.frameLength

/-- The frame of a valid track. -/
theorem frameLength_of_valid {track : Track} (valid : track.validate.isOk = true) :
    track.frameLength = track.channels.toNat * if track.bits = 8 then 1 else 2 := by
  obtain ⟨width, checked⟩ := width_of_valid valid
  unfold Track.frameLength
  obtain ⟨⟨bits, -⟩ | ⟨bits, -⟩, -⟩ := (track.validate_eq_ok_iff width).1 checked
  · simp [Track.bytesPerSample, bits, Except.toOption]
  · simp [Track.bytesPerSample, bits, Except.toOption]

omit [DecidableEq Spec] in
/-- The bytes of a valid track are whole frames if its samples are. -/
theorem frameLength_dvd {d : Design I Spec} {track : Track} (settings : PlaySettings)
    (valid : track.validate.isOk = true) (whole : track.channels.toNat ∣ track.samples.length) :
    track.frameLength ∣ (d.bytes track settings).length := by
  show _ ∣ (Sample.toBytes track.samples track.bits settings.order d.form).length
  rw [frameLength_of_valid valid, Sample.length_toBytes, Nat.mul_comm]
  exact Nat.mul_dvd_mul_left _ whole

/-- A library stream is opened for a width and a number of channels. -/
theorem live_framed : Framed Live.design where
  valid _ accepted := (Live.accepts_iff.1 accepted).2
  same track other order order' _ _ equal := by
    have equal : Live.Format.ofTrack track order = Live.Format.ofTrack other order' := equal
    obtain ⟨bits, channels, -⟩ := Live.Format.mk.inj equal
    unfold Track.frameLength Track.bytesPerSample
    rw [bits, channels]

/-- A header tells the width and, up to 255 of them, the number of channels. -/
theorem simple_framed (c : Simple.Config) : Framed (Simple.design c) where
  valid _ accepted := (Simple.accepts_iff.1 accepted).1.2
  same track other order order' accepted accepted' equal := by
    obtain ⟨⟨-, valid⟩, few⟩ := Simple.accepts_iff.1 accepted
    obtain ⟨⟨-, valid'⟩, few'⟩ := Simple.accepts_iff.1 accepted'
    have equal : Simple.SampleSpec.ofTrack track order = Simple.SampleSpec.ofTrack other order' := equal
    obtain ⟨format, -, channels⟩ := Simple.SampleSpec.mk.inj equal
    have channels : track.channels.toNat = other.channels.toNat := by
      have few : track.channels.toNat ≤ 255 := few
      have few' : other.channels.toNat ≤ 255 := few'
      have bytes := congrArg UInt8.toNat channels
      rwa [UInt16.toNat_toUInt8, UInt16.toNat_toUInt8, Nat.mod_eq_of_lt (by omega),
        Nat.mod_eq_of_lt (by omega)] at bytes
    have eight : track.bits = 8 ↔ other.bits = 8 := by
      by_cases one : track.bits = 8 <;> by_cases two : other.bits = 8 <;> cases order <;> cases order' <;>
        simp_all
    rw [frameLength_of_valid valid, frameLength_of_valid valid', channels]
    simp only [eight]

section Pieces

variable {d : Design I Spec} {commands : T → Nat → Command} {given : List Handle}
  {history : History T I (Except PlayError Unit)} {p : Piece T} {track : Track} {order : ByteOrder}

omit [DecidableEq T] [DecidableEq Spec] in
/-- A piece that ends between two chunks is a whole track, or some chunks of a stopped one. -/
theorem ended_of_clean {spec : Spec} (clean : Clean (d.ledger commands given history) spec p) :
    ∃ cut, Ended d commands given history p cut := by
  obtain ⟨plan, done, rest, wants, rfl, chunks, bytes, reason⟩ := clean
  obtain ⟨track, settings, command, accepted, rfl⟩ := Design.errand_eq_play wants
  by_cases all : rest = []
  · refine ⟨0, track, settings, command, .inl ⟨rfl, ?_⟩⟩
    rw [bytes, ← d.flatten_plan, chunks, all, List.append_nil]
  · have stopped := reason.resolve_left all
    refine ⟨done.length, track, settings, command, .inr ⟨stopped, ?_, ?_, ?_⟩⟩
    · rw [bytes]
      exact Sample.length_flatten_of_chunks_eq (by decide) chunks all
    · rw [bytes, ← d.flatten_plan, chunks, List.flatten_append]
      exact List.prefix_append _ _
    · -- No chunk is empty, so that what is left out is not.
      intro same
      rw [bytes, ← d.flatten_plan, chunks, List.flatten_append, List.self_eq_append_right] at same
      obtain ⟨chunk, mem⟩ := List.exists_mem_of_ne_nil rest all
      have inside : chunk ∈ Sample.chunks chunkLength (d.bytes track settings) := by
        show chunk ∈ (d.plan track settings).chunks
        rw [chunks]
        exact List.mem_append_right _ mem
      exact Sample.ne_nil_of_mem_chunks inside (List.flatten_eq_nil_iff.1 same chunk mem)

omit [DecidableEq T] [DecidableEq Spec] in
/-- Counted in frames, a piece is as long as the chunks that its play has left when it was stopped. -/
theorem length_modEq {cut : Nat} (framed : Framed d) (accepted : d.accepts track = true)
    (whole : ∀ u n track settings, commands u n = .play track settings →
      track.channels.toNat ∣ track.samples.length)
    (clean : Clean (d.ledger commands given history) (d.spec track order) p)
    (ended : Ended d commands given history p cut) :
    p.bytes.length ≡ chunkLength * cut [MOD track.frameLength] := by
  obtain ⟨plan, -, -, wants, format, -⟩ := clean
  obtain ⟨other, settings, command, accepted', rfl⟩ := Design.errand_eq_play wants
  obtain ⟨other', settings', command', ⟨rfl, bytes⟩ | ⟨-, length, -⟩⟩ := ended
  · obtain ⟨rfl, rfl⟩ : other = other' ∧ settings = settings' := by
      rw [command] at command'
      exact Command.play.inj command'
    have frame : other.frameLength = track.frameLength :=
      framed.same other track settings.order order accepted' accepted format
    have whole := frameLength_dvd (d := d) settings (framed.valid other accepted') (whole _ _ _ _ command)
    rw [frame] at whole
    rw [bytes, Nat.mul_zero]
    exact (Nat.modEq_zero_iff_dvd).2 whole
  · rw [length]

omit [DecidableEq T] in
/-- Pieces one after the other. -/
theorem flatten_modEq {pieces : List (Piece T)} {cut : Piece T → Nat} {frame : Nat}
    (each : ∀ p ∈ pieces, p.bytes.length ≡ chunkLength * cut p [MOD frame]) :
    (pieces.map (·.bytes)).flatten.length ≡ chunkLength * (pieces.map cut).sum [MOD frame] := by
  induction pieces with
  | nil => rfl
  | cons p pieces ih =>
    have rest := ih fun q mem => each q (List.mem_cons_of_mem _ mem)
    rw [List.map_cons, List.map_cons, List.flatten_cons, List.length_append, List.sum_cons, Nat.mul_add]
    exact (each p List.mem_cons_self).add rest

end Pieces

/-! ## Reuse -/

/-- The stream in the slot, when it is used again, can be played on. -/
theorem Reuse.healthy {k : Keeper I Spec} {commands : T → Nat → Command} {w : World T Spec}
    {history : History T I (Except PlayError Unit)}
    {s : State (fun _ => I) (fun _ => Except PlayError Unit) (World T Spec)} {t : T} {track : Track}
    {settings : PlaySettings} {h : Handle} (prepared : Prepared k.header w)
    (reuse : Reuse k.toDesign commands w history s t track settings h) :
    Healthy (k.ledger commands w.opened history) (k.spec track settings.order) h (s.shared.sent h) := by
  obtain ⟨φ, -, books⟩ := k.run_books commands prepared reuse.run
  obtain ⟨r, next, answer, w', -, answered, takes⟩ := reuse.finds
  have answered : Answered t s.shared (k.act r answer) w' := answered
  rw [takes] at answered
  cases answered with
  | take free same => exact (books.slot free _ _ same.symm).2

/-- So it is for every output that keeps to the protocol and whose formats tell the length of a frame. -/
theorem Keeper.aligned (k : Keeper I Spec) (framed : Framed k.toDesign) : Aligned T k.toDesign := by
  intro commands w history s t track settings h prepared whole reuse
  obtain ⟨pieces, carries, clean, -⟩ := reuse.healthy prepared
  have ended : ∀ p, ∃ cut, p ∈ pieces → Ended k.toDesign commands w.opened history p cut := by
    intro p
    by_cases mem : p ∈ pieces
    · obtain ⟨cut, ended⟩ := ended_of_clean (clean p mem)
      exact ⟨cut, fun _ => ended⟩
    · exact ⟨0, fun mem' => absurd mem' mem⟩
  -- Each piece is a whole track, or so many chunks of one.
  choose cut ended using ended
  have counted : (pieces.map (·.bytes)).flatten.length ≡ chunkLength * (pieces.map cut).sum
      [MOD track.frameLength] :=
    flatten_modEq fun p mem => length_modEq framed reuse.accepts whole (clean p mem) (ended p mem)
  refine ⟨_, pieces, cut, carries.sent_eq, rfl, carries.plays_eq, ended, counted.dvd_iff (dvd_refl _), ?_⟩
  rintro (chunk | unstopped)
  · exact (counted.dvd_iff (dvd_refl _)).2 (Dvd.dvd.mul_right chunk _)
  · -- Where nobody has seen a stop, every piece is whole.
    refine (counted.dvd_iff (dvd_refl _)).2 ?_
    have none : (pieces.map cut).sum = 0 := by
      refine List.sum_eq_zero ?_
      intro n counted
      obtain ⟨p, mem, rfl⟩ := List.mem_map.1 counted
      obtain ⟨_, _, -, ⟨zero, -⟩ | ⟨saw, -⟩⟩ := ended p mem
      · exact zero
      · refine absurd saw (unstopped p.call ?_)
        rw [← carries.plays_eq]
        exact List.mem_map_of_mem mem
    rw [none, Nat.mul_zero]
    exact dvd_zero _

/-- **Streams that are used again.** Of both outputs that keep their stream from track to track: when a play goes on
    with the stream that is open, all plays on it so far have put whole tracks on it, or whole chunks if they were
    stopped, so that the next track begins with a frame if and only if the chunks of the stopped ones are whole
    frames. -/
theorem reused_streams_aligned : Aligned T Live.design ∧ ∀ c, Aligned T (Simple.design c) :=
  ⟨Live.keeper.aligned live_framed, fun c => (Simple.keeper c).aligned (simple_framed c)⟩

/-! ### A track that is stopped within a frame -/

/-- A hundred frames of three channels. -/
def threeChannels : Track := ⟨16, 3, 8000, List.replicate 300 0⟩

/-- One thread plays the track again and again, and another stops. -/
def playAndStop (thread : Bool) (_ : Nat) : Command := if thread then .play threeChannels {} else .stop

theorem length_threeChannels : (Live.design.bytes threeChannels {}).length = 600 := by
  show (Sample.toBytes (List.replicate 300 0) 16 _ _).length = 600
  rw [Sample.length_toBytes, List.length_replicate]
  rfl

/-- There is a second chunk behind the first one, which is full. -/
theorem chunks_threeChannels : ∃ first second rest, first.length = chunkLength ∧
    Sample.chunks chunkLength (Live.design.bytes threeChannels {}) = first :: second :: rest := by
  have long := length_threeChannels
  have more : 0 < ((Live.design.bytes threeChannels {}).drop chunkLength).length := by
    rw [List.length_drop, long]
    decide
  have some : 0 < (Live.design.bytes threeChannels {}).length := by
    rw [long]
    decide
  have cut : Sample.chunks chunkLength (Live.design.bytes threeChannels {}) = _ :=
    Sample.chunks_eq_cons (by decide) (List.length_pos_iff.1 some)
  rw [Sample.chunks_eq_cons (by decide) (List.length_pos_iff.1 more)] at cut
  refine ⟨_, _, _, ?_, cut⟩
  rw [List.length_take, long]
  rfl

theorem threeChannels_nonempty : threeChannels.isEmpty = false := by
  have length : threeChannels.samples.length = 300 := List.length_replicate
  rw [Bool.eq_false_iff, ne_eq, Track.isEmpty_iff, length]
  decide

theorem accepts_threeChannels : Live.design.accepts threeChannels = true := by
  have valid : threeChannels.validate = .ok 2 := rfl
  simp [Live.design, threeChannels_nonempty, valid, Except.isOk, Except.toBool]

theorem play_threeChannels (n : Nat) :
    calls Live.design.output playAndStop true n = .ask (.setStop false) fun _ =>
      Live.playBytes threeChannels .native := by
  have valid : threeChannels.validate = .ok 2 := rfl
  show Live.play threeChannels {} = _
  unfold Live.play
  simp only [Program.bind_eq, Program.ask_bind, Program.done_bind, threeChannels_nonempty, valid, Bool.false_eq_true,
    if_false]

/-- The first play is stopped after its first chunk, and the second goes on with the stream. -/
theorem run_cut : ∃ history s, Reuse Live.design playAndStop ({} : World Bool Live.Format) history s true
    threeChannels {} 0 ∧ (s.shared.sent 0).length = chunkLength := by
  obtain ⟨first, second, rest, full, chunks⟩ := chunks_threeChannels
  have streaming (k : Except Failure Unit → Live.Action (Except PlayError Unit)) :
      (Live.writeChunks 0 (Sample.chunks chunkLength (Live.design.bytes threeChannels {}))).bind k =
        (Live.writeChunks 0 (first :: second :: rest)).bind k := by rw [chunks]
  have run : Run (calls Live.design.output playAndStop) (answers Live.design.act) {} [] _ := .start
  rw [pair_start] at run
  replace run := run.first (play_threeChannels 0) () .lower
  replace run := run.first rfl none (.take rfl rfl)
  replace run := run.first rfl (Except.ok 0 : Except Failure Handle) (.opened (h := 0) List.not_mem_nil)
  replace run := run.first rfl () .other
  replace run := run.first (streaming _) false (.look rfl)
  replace run := run.first rfl (Except.ok () : Except Failure Unit) .wrote
  replace run := run.second rfl () .raise
  replace run := run.first rfl true (.look rfl)
  replace run := run.first rfl () .other
  replace run := run.first rfl () .put
  replace run := run.firstDone rfl
  replace run := run.first (play_threeChannels 1) () .lower
  refine ⟨_, _, ⟨run, rfl, ?_, ?_⟩, ?_⟩
  · exact accepts_threeChannels
  · exact ⟨_, _, some (Live.Format.ofTrack threeChannels .native, 0), _, rfl, .take rfl rfl, rfl⟩
  · show (Function.update (fun _ : Handle => ([] : List UInt8)) 0 ([] ++ first) 0).length = chunkLength
    rw [Function.update_self, List.nil_append, full]

/-- All that the two threads play is whole frames. -/
theorem playAndStop_whole : ∀ u n track settings, playAndStop u n = .play track settings →
    track.channels.toNat ∣ track.samples.length := by
  intro u n track settings plays
  unfold playAndStop at plays
  split at plays
  · have same : threeChannels = track := (Command.play.inj plays).1
    rw [← same]
    have length : threeChannels.samples.length = 300 := List.length_replicate
    rw [length]
    decide
  · cases plays

/-- The bytes on the stream are the one chunk that the stopped play has left. -/
theorem one_chunk_of_threeChannels : ∃ history s, Reuse Live.design playAndStop ({} : World Bool Live.Format)
    history s true threeChannels {} 0 ∧
      ∃ (audio : List UInt8) (pieces : List (Piece Bool)) (cut : Piece Bool → Nat), audio.length = chunkLength ∧
        audio = (pieces.map (·.bytes)).flatten ∧
        (threeChannels.frameLength ∣ audio.length ↔
          threeChannels.frameLength ∣ chunkLength * (pieces.map cut).sum) := by
  obtain ⟨history, s, reuse, length⟩ := run_cut
  have prepared : Prepared Live.design.header ({} : World Bool Live.Format) :=
    ⟨rfl, fun h => by simp, nofun, fun _ _ => rfl⟩
  obtain ⟨audio, pieces, cut, sent, bytes, -, -, counted, -⟩ :=
    reused_streams_aligned.1 prepared playAndStop_whole reuse
  have sent : s.shared.sent 0 = audio := sent
  refine ⟨history, s, reuse, audio, pieces, cut, ?_, bytes, counted⟩
  rw [← sent, length]

/-- **The next track can begin within a frame**: with three channels of 16 bits, a play that is stopped after its first
    chunk has put 42 frames and four bytes of another one on the stream that the next play goes on with. -/
theorem reused_within_frame :
    (∀ u n track settings, playAndStop u n = .play track settings →
      track.channels.toNat ∣ track.samples.length) ∧
    ∃ history s, Reuse Live.design playAndStop ({} : World Bool Live.Format) history s true threeChannels {} 0 ∧
      ¬ threeChannels.frameLength ∣ (s.shared.sent 0).length := by
  obtain ⟨history, s, reuse, length⟩ := run_cut
  refine ⟨playAndStop_whole, history, s, reuse, ?_⟩
  rw [length]
  show ¬ 6 ∣ 256
  decide

end Transport

end Playout
