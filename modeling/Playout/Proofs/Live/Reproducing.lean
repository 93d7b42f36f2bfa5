import Playout.Proofs.Device.Relaying
import Playout.Proofs.Live.Handing
import Playout.Proofs.Live.Keeper
import Playout.Proofs.Transport.Halting

/-!
# `Playout.Proofs.Live.Reproducing` — a device over a library plays the samples

Any number of threads play tracks in any byte order on a device over the library, stop it, close it, set its volume and
give it up. A stream only ever gets chunks of tracks in the format it was opened for, and whoever reads the chunks of one
play one by one hears its samples in the order of the machine.

## Contents
- `deviceSamples`, `heard` — the samples of a track in the order of the machine, and those that chunks hold.
- `Reproduces`, `heard_trackChunks` — the first chunks of a track hold its first samples, and all chunks all samples.
- `Opened`, `OpenedFor` — what a stream was opened for.
- `Accounted`, `Accounted.ask`, `Run.accounted` — the slot and those that look into it agree on that.
- `used_of_path` — only plays use streams, and such as were given to them.
- `Unstopped`, `unseen` — a play for which nobody asks for a stop sees none.

## Main statements
- `reproduces_samples` — what the streams get and what is heard.
- `run_swapped`, `swapped_sample_heard` — a sample whose bytes come in the other order.
- `frameless_unheard` — a track without a complete frame is not heard at all.
-/

namespace Playout.Live

open Interleaving Program Device.Life
open Device (inOrder)
open Transport (Act World answers answers_signalled)

/-! ## Samples -/

/-- The samples of a track in the order of the machine. Those of 8 bits are limited to a signed byte, which becomes the
    highest byte of a sample of 16 bits. -/
def deviceSamples (track : Track) (order : ByteOrder) : List Int16 :=
  if track.bits = 8 then track.samples.map fun s => Int16.ofInt (256 * max (-128) (min s.toInt 127))
  else if track.bits = 16 ∧ order ≠ .native then Sample.swapAll track.samples
  else track.samples

/-- The samples that chunks of a track hold, each chunk read by itself. -/
def heard (track : Track) (chunks : List (List UInt8)) : List Int16 :=
  chunks.flatMap fun chunk => Sample.ofBytes chunk track.bits .native

theorem inOrder_bits (track : Track) (order : ByteOrder) : (inOrder track order).bits = track.bits := by
  unfold inOrder
  split <;> rfl

theorem ofTrack_inOrder (track : Track) (order : ByteOrder) :
    Format.ofTrack (inOrder track order) .native = .ofTrack track .native := by
  unfold inOrder
  split <;> rfl

theorem isEmpty_inOrder (track : Track) (order : ByteOrder) : (inOrder track order).isEmpty = track.isEmpty := by
  unfold inOrder
  split
  · unfold Track.isEmpty Track.frames Sample.swapAll
    simp only [List.length_map]
  · rfl

/-- The bytes of a track that the device has put in order hold its samples in that order. -/
theorem ofBytes_inOrder (track : Track) (order : ByteOrder) :
    Sample.ofBytes (Sample.toBytes (inOrder track order).samples (inOrder track order).bits .native .signed)
      (inOrder track order).bits .native = deviceSamples track order := by
  rw [Sample.ofBytes_toBytes, inOrder_bits]
  unfold deviceSamples inOrder
  by_cases eight : track.bits = 8
  · have narrow : ¬ (track.bits = 16 ∧ order ≠ .native) := by
      rintro ⟨wide, -⟩
      rw [eight] at wide
      exact absurd wide (by decide)
    simp only [if_pos eight, if_neg narrow]
  · simp only [if_neg eight]
    split <;> rfl

/-- Chunks of which only the last may be shorter than the library takes, and who hears them hears the track from its
    beginning. -/
structure Reproduces (track : Track) (order : ByteOrder) (chunks : List (List UInt8)) : Prop where
  short : ∀ chunk ∈ chunks, 1 ≤ chunk.length ∧ chunk.length ≤ 256
  full : ∀ chunk ∈ chunks.dropLast, chunk.length = 256
  first : heard track chunks <+: deviceSamples track order

section Reproduces

variable {track : Track} {order : ByteOrder} {chunks : List (List UInt8)}

theorem reproduces_of_first (first : chunks <+: trackChunks (inOrder track order) .native) :
    Reproduces track order chunks where
  short _ mem := length_of_mem_trackChunks (first.subset mem)
  full _ mem := length_of_first_trackChunks first mem
  first := by
    have read := read_first_trackChunks first
    rwa [ofBytes_inOrder, inOrder_bits] at read

/-- All chunks hold all samples. -/
theorem heard_trackChunks (track : Track) (order : ByteOrder) :
    heard track (trackChunks (inOrder track order) .native) = deviceSamples track order := by
  have read := @read_trackChunks (inOrder track order) .native
  rwa [ofBytes_inOrder, inOrder_bits] at read

end Reproduces

/-! ## Streams -/

variable {T : Type} {history : Past T Live.Interface} {format : Format} {h : Handle} {w w' : World T Format}
  {e : Event (fun _ : T => Device.Interface Live.Interface) fun _ : T => Except PlayError Unit} {t : T} {n : Nat}

/-- A stream was opened for a format. -/
def Opened (history : Past T Live.Interface) (format : Format) (h : Handle) : Prop :=
  ∃ t n, .asked t n (.output (.openStream format)) (.ok h) ∈ history

/-- A stream was opened for a format, and no other stream of the same handle was opened for another one. -/
def OpenedFor (history : Past T Live.Interface) (format : Format) (h : Handle) : Prop :=
  Opened history format h ∧ ∀ other, Opened history other h → other = format

/-- What lies in the slot, and what was found in it, was opened for the format that is said of it. -/
structure Accounted (w : World T Format) (history : Past T Live.Interface) : Prop where
  slot : ∀ format h, w.slot = some (format, h) → Opened history format h
  taken : ∀ t n format h, .asked t n (.output .takeStream) (some (format, h)) ∈ history → Opened history format h
  opened : ∀ format h, Opened history format h → h ∈ w.opened
  unique : ∀ format other h, Opened history format h → Opened history other h → other = format

theorem Opened.snoc (opened : Opened history format h) : Opened (history ++ [e]) format h := by
  obtain ⟨t, n, mem⟩ := opened
  exact ⟨t, n, List.mem_append_left _ mem⟩

theorem opened_snoc : Opened (history ++ [e]) format h ↔
    Opened history format h ∨ ∃ t n, e = .asked t n (.output (.openStream format)) (.ok h) := by
  unfold Opened
  simp only [List.mem_append, List.mem_singleton, exists_or]
  refine or_congr Iff.rfl ?_
  simp only [eq_comm]

/-- Something happens that the output is not asked for. -/
theorem Accounted.quiet (accounted : Accounted w history) (quiet : ∀ t n r answer, e ≠ .asked t n (.output r) answer) :
    Accounted w (history ++ [e]) := by
  have before {format : Format} {h : Handle} (opened : Opened (history ++ [e]) format h) : Opened history format h := by
    rcases opened_snoc.1 opened with before | ⟨t, n, now⟩
    · exact before
    · exact absurd now (quiet t n _ _)
  constructor
  · intro format h found
    exact (accounted.slot format h found).snoc
  · intro t n format h mem
    rcases List.mem_append.1 mem with earlier | now
    · exact (accounted.taken t n format h earlier).snoc
    · exact absurd (List.mem_singleton.1 now).symm (quiet t n _ _)
  · intro format h opened
    exact accounted.opened format h (before opened)
  · intro format other h one two
    exact accounted.unique format other h (before one) (before two)

section Accounted

variable {r : Live.Request} {answer : Live.Request.Answer r}

/-- Only one request fills the slot. -/
theorem eq_putStream {stream : Option (Format × Handle)} (put : act r answer = .put stream) : r = .putStream stream := by
  cases r with
  | putStream => cases put; rfl
  | setStop value => cases value <;> cases put
  | openStream | playChunk => cases answer <;> cases put
  | _ => cases put

/-- The slot and the streams that were opened change only by requests that are about them. -/
theorem slot_of_answered (answered : Transport.Answered t w (act r answer) w') :
    w'.slot = w.slot ∨ ∃ stream, r = .putStream stream ∧ w'.slot = stream := by
  generalize acts : act r answer = a at answered
  cases answered with
  | put => exact .inr ⟨_, eq_putStream acts, rfl⟩
  | _ => exact .inl rfl

theorem opened_subset {a : Act Format} (answered : Transport.Answered t w a w') : w.opened ⊆ w'.opened := by
  cases answered with
  | opened => exact List.subset_cons_self _ _
  | _ => exact List.Subset.refl _

/-- A stream that is opened has a new handle. -/
theorem opened_of_event (answered : Transport.Answered t w (act r answer) w') {u : T} {m : Nat}
    (opens : (.asked t n (.output r) answer : Event (fun _ : T => Device.Interface Live.Interface)
      fun _ : T => Except PlayError Unit) = .asked u m (.output (.openStream format)) (.ok h)) :
    h ∉ w.opened ∧ h ∈ w'.opened := by
  cases opens
  have opened : Transport.Answered t w (.opened h) w' := answered
  cases opened with
  | opened fresh => exact ⟨fresh, List.mem_cons_self⟩

/-- A request of the output. A stream that is put back was opened for the format that is said of it. -/
theorem Accounted.ask (accounted : Accounted w history) (answered : Transport.Answered t w (act r answer) w')
    (kept : ∀ format h, r = .putStream (some (format, h)) → Opened history format h) :
    Accounted w' (history ++ [.asked t n (.output r) answer]) := by
  constructor
  · intro format h found
    rcases slot_of_answered answered with same | ⟨stream, rfl, puts⟩
    · rw [same] at found
      exact (accounted.slot format h found).snoc
    · rw [puts] at found
      exact (kept format h (congrArg _ found)).snoc
  · intro u m format h mem
    rcases List.mem_append.1 mem with before | now
    · exact (accounted.taken u m format h before).snoc
    · cases List.mem_singleton.1 now
      have took : Transport.Answered _ w (.take (some (format, h))) w' := answered
      cases took with
      | take free found => exact (accounted.slot format h found.symm).snoc
  · intro format h opened
    rcases opened_snoc.1 opened with before | ⟨u, m, now⟩
    · exact opened_subset answered (accounted.opened format h before)
    · exact (opened_of_event answered now).2
  · -- No handle is given out twice, so that at most one of the two is opened now.
    intro format other h one two
    rcases opened_snoc.1 one with before | ⟨u, m, now⟩ <;> rcases opened_snoc.1 two with before' | ⟨u', m', now'⟩
    · exact accounted.unique format other h before before'
    · exact absurd (accounted.opened format h before) (opened_of_event answered now').1
    · exact absurd (accounted.opened other h before') (opened_of_event answered now).1
    · cases now.symm.trans now'
      rfl

end Accounted

/-! ## Which calls use streams -/

variable {commands : T → Nat → Device.Life.Command}

/-- A request that uses no stream. -/
def Idle (r : Live.Request) : Prop := ∀ format, r.uses? format = none

theorem release_asks : release.Asks Idle := by
  refine ⟨fun _ => rfl, fun found => ?_⟩
  rcases found with _ | ⟨format, h⟩
  · exact ⟨fun _ => rfl, fun _ => trivial⟩
  · exact ⟨fun _ => rfl, fun _ => ⟨fun _ => rfl, fun _ => trivial⟩⟩

/-- **Only plays use streams**, and such as were given to them for the format of their track. -/
theorem used_of_path {command : Device.Life.Command} {trace : Trace (Device.Interface Live.Interface)}
    {q : Device.Action Live.Interface (Except PlayError Unit)} {r : Live.Request} {answer : Live.Request.Answer r}
    (path : Path goesOn (command.program output) trace q) (mem : ⟨.output r, answer⟩ ∈ trace) (used : ¬ Idle r) :
    ∃ track order, command = .play track order ∧ ∀ format h, r.uses? (.ofTrack track .native) = some (format, h) →
      format = .ofTrack track .native ∧ Given format h (outputs trace) := by
  by_cases plays : ∃ track order, command = .play track order
  · obtain ⟨track, order, rfl⟩ := plays
    refine ⟨track, order, rfl, fun format h uses => ?_⟩
    have mem := mem_outputs.2 mem
    rcases outputs_of_play path with ⟨nothing, -⟩ | ⟨settings, p, native, along, -⟩
    · rw [nothing] at mem
      cases mem
    · obtain ⟨-, sourced, -⟩ := play_handed along
      rw [native, ofTrack_inOrder] at sourced
      obtain ⟨rfl, given⟩ := sourced _ mem format h uses
      exact ⟨rfl, given⟩
  · -- All else that threads do with a device leaves its streams alone.
    have others : ∀ track order, command ≠ .play track order := fun track order same => plays ⟨track, order, same⟩
    have stop : output.stop.Asks Idle := ⟨fun _ => rfl, fun _ => trivial⟩
    have close : output.close.Asks Idle := ⟨fun _ => rfl, fun _ => release_asks⟩
    have asks : (command.program output).Asks (Relayed Idle) :=
      program_asks stop close (fun _ => trivial) release_asks others
    exact absurd (asked_of_asks path asks _ mem) used

/-! ## Runs -/

section Runs

variable [DecidableEq T] {start : Device.Shared × World T Format}
  {s : Interleaving.State (fun _ : T => Device.Interface Live.Interface) (fun _ => Except PlayError Unit)
    (Device.Shared × World T Format)}

/-- What was given to a call, it has found in the slot or opened. -/
theorem asked_of_given (given : Given format h (outputs (own t n history))) :
    .asked t n (.output .takeStream) (some (format, h)) ∈ history ∨
      .asked t n (.output (.openStream format)) (.ok h) ∈ history :=
  given.imp (fun found => mem_own.1 (mem_outputs.1 found)) fun opened => mem_own.1 (mem_outputs.1 opened)

theorem Accounted.opened_of_given (accounted : Accounted w history) (given : Given format h (outputs (own t n history))) :
    Opened history format h := by
  rcases asked_of_given given with found | opened
  · exact accounted.taken t n format h found
  · exact ⟨t, n, opened⟩

/-- A call that has asked something has come to what is left of its program. -/
theorem path_of_asked (run : Run (calls output commands) (surroundings (answers act)) start history s)
    {r : Device.Request Live.Interface} {answer : Device.Request.Answer r} (asked : .asked t n r answer ∈ history) :
    ∃ q, Path goesOn ((commands t n).program output) (own t n history) q :=
  run.gone.path (List.ne_nil_of_mem (mem_own.2 asked))

/-- A stream that a call puts back was opened for the format that is said of it. -/
theorem Accounted.opened_of_put (accounted : Accounted w history)
    (run : Run (calls output commands) (surroundings (answers act)) start
      (history ++ [.asked t n (.output (.putStream (some (format, h)))) ()]) s) : Opened history format h := by
  have now : .asked t n (.output (.putStream (some (format, h)))) () ∈
      history ++ [.asked t n (.output (.putStream (some (format, h)))) ()] :=
    List.mem_append_right _ List.mem_cons_self
  obtain ⟨q, path⟩ := path_of_asked run now
  obtain ⟨track, order, -, given⟩ := used_of_path path (mem_own.2 now) fun idle =>
    absurd (idle format) (Option.some_ne_none _)
  obtain ⟨rfl, given⟩ := given format h rfl
  -- The call was given the stream before.
  rcases asked_of_given given with found | opened
  · refine accounted.taken t n _ h ((List.mem_append.1 found).resolve_right fun last => ?_)
    cases List.mem_singleton.1 last
  · refine ⟨t, n, (List.mem_append.1 opened).resolve_right fun last => ?_⟩
    cases List.mem_singleton.1 last

/-- **All agree what each stream was opened for**, however the calls lie between each other. -/
theorem Run.accounted (run : Run (calls output commands) (surroundings (answers act)) start history s)
    (vacant : start.2.slot = none) : Accounted s.shared.2 history := by
  induction run with
  | start =>
    have never {format : Format} {h : Handle} : ¬ Opened ([] : Past T Live.Interface) format h := by
      rintro ⟨t, n, mem⟩
      cases mem
    constructor
    · intro format h found
      have found : start.2.slot = some (format, h) := found
      rw [vacant] at found
      cases found
    · intro t n format h mem
      cases mem
    · exact fun format h opened => absurd opened never
    · exact fun format other h one => absurd one never
  | @step history s e s' run next ih =>
    cases next with
    | finish => exact ih.quiet fun _ _ _ _ asked => by cases asked
    | @ask t r next answer shared' asks answered =>
      have longer := run.ask t asks answer answered
      cases r with
      | output r =>
        refine ih.ask answered.2 fun format h puts => ?_
        subst puts
        exact ih.opened_of_put longer
      | log line =>
        obtain rfl : shared' = s.shared := answered
        exact ih.quiet fun _ _ _ _ asked => by cases asked
      | _ =>
        have same : shared'.2 = s.shared.2 := answered.2
        show Accounted shared'.2 _
        rw [same]
        exact ih.quiet fun _ _ _ _ asked => by cases asked

/-- **A stream only gets chunks of the format it was opened for.** -/
theorem opened_of_chunk (run : Run (calls output commands) (surroundings (answers act)) start history s)
    (vacant : start.2.slot = none) {bytes : List UInt8} {answer : Except Failure Unit}
    (handed : .asked t n (.output (.playChunk h bytes)) answer ∈ history) :
    ∃ track order, commands t n = .play track order ∧ OpenedFor history (.ofTrack track .native) h := by
  have accounted := Run.accounted run vacant
  obtain ⟨q, path⟩ := path_of_asked run handed
  obtain ⟨track, order, plays, given⟩ := used_of_path path (mem_own.2 handed) fun idle =>
    absurd (idle ⟨0, 0, 0, .native⟩) (Option.some_ne_none _)
  obtain ⟨-, given⟩ := given _ h rfl
  have opened := accounted.opened_of_given given
  exact ⟨track, order, plays, opened, fun other another => accounted.unique _ _ _ opened another⟩

/-! ### Stops -/

/-- Nobody asks for a stop from the moment when a call takes the signal back until it returns. -/
def Unstopped (t : T) (n : Nat) (history : Past T Live.Interface) : Prop :=
  ∀ (before after : Past T Live.Interface) (u : T) (m : Nat),
    history = before ++ .asked u m (.output (.setStop true)) () :: after → Running t n before →
      .asked t n (.output (.setStop false)) () ∉ before

omit [DecidableEq T] in
/-- Only one request sets the signal, and only one takes it back. -/
theorem setStop_of_touch {r : Device.Request Live.Interface} {answer : Device.Request.Answer r} (value : Bool)
    (touched : relayed design.touch r answer = if value then .raise else .lower) :
    (⟨r, answer⟩ : Σ r : Device.Request Live.Interface, Device.Request.Answer r) = ⟨.output (.setStop value), ()⟩ := by
  cases r with
  | output r =>
    cases r with
    | setStop other =>
      have same : other = value := by
        cases value <;> cases other <;> first | rfl | cases touched
      rw [same]
    | openStream | playChunk => cases answer <;> cases value <;> cases touched
    | _ => cases value <;> cases touched
  | _ => cases value <;> cases touched

/-- A play looks at the signal only after it has taken it back. -/
theorem lowered_of_look {track : Track} {order : ByteOrder} {trace : Trace (Device.Interface Live.Interface)}
    {r : Device.Request Live.Interface} {next : Device.Request.Answer r → Device.Action Live.Interface (Except PlayError Unit)}
    {answer : Device.Request.Answer r} {stopped : Bool}
    (path : Path goesOn (Device.play output track order) trace (.ask r next))
    (look : relayed design.touch r answer = .look stopped) : Lowered (relayed design.touch) trace := by
  have longer := goesOn_next path rfl answer
  cases r with
  | output r =>
    have parts : outputs (trace ++ [⟨.output r, answer⟩]) = outputs trace ++ [⟨r, answer⟩] := outputs_append _ _
    have lowered : ⟨.setStop false, ()⟩ ∈ outputs trace ++ [⟨r, answer⟩] := by
      rw [← parts]
      rcases outputs_of_play longer with ⟨nothing, -⟩ | ⟨settings, p, -, along, -⟩
      · rw [parts] at nothing
        cases List.append_ne_nil_of_right_ne_nil _ (List.cons_ne_nil _ _) nothing
      · rcases lowered_of_path along with none | ⟨later, begins⟩
        · rw [parts] at none
          cases List.append_ne_nil_of_right_ne_nil _ (List.cons_ne_nil _ _) none
        · rw [begins]
          exact List.mem_cons_self
    rcases List.mem_append.1 lowered with before | now
    · exact ⟨⟨.output (.setStop false), ()⟩, mem_outputs.1 before, rfl⟩
    · cases List.mem_singleton.1 now
      cases look
  | _ => cases look

/-- **A play for which nobody asks for a stop sees none.** -/
theorem unseen (run : Run (calls output commands) (surroundings (answers act)) start history s) {track : Track}
    {order : ByteOrder} (plays : commands t n = .play track order) (unstopped : Unstopped t n history) :
    ⟨.stopRequested, true⟩ ∉ outputs (own t n history) := by
  have calm : Calm (relayed design.touch) (fun s => World.raised s.2) t n s.shared (fun t => (s.call t).number) history := by
    refine run.calm_of_lowered (signalled_relayed (answers_signalled design)) ?_ ?_
    · intro trace r next answer stopped path look
      unfold calls at path
      rw [plays] at path
      exact lowered_of_look path look
    · intro before e after split raises running lowered
      cases e with
      | returned => exact raises
      | asked u m r answer =>
        cases setStop_of_touch true raises
        obtain ⟨⟨r, answer⟩, mem, lower⟩ := lowered
        cases setStop_of_touch false lower
        exact unstopped before after u m split running (mem_own.1 mem)
  intro seen
  exact calm.never ⟨_, mem_outputs.1 seen, rfl⟩

/-! ## Plays -/

/-- What a play has handed over, and what it has when it has returned. -/
theorem heard_of_play (run : Run (calls output commands) (surroundings (answers act)) start history s) {track : Track}
    {order : ByteOrder} (plays : commands t n = .play track order) :
    Reproduces track order (pieces (outputs (own t n history))) ∧
      (.returned t n (.ok ()) ∈ history → track.isEmpty = false → Unstopped t n history →
        heard track (pieces (outputs (own t n history))) = deviceSamples track order) := by
  constructor
  · refine reproduces_of_first ?_
    by_cases silent : own t n history = []
    · rw [silent]
      exact List.nil_prefix
    · obtain ⟨q, path⟩ := run.gone.path silent
      unfold calls at path
      rw [plays] at path
      rcases outputs_of_play path with ⟨nothing, -⟩ | ⟨settings, p, native, along, -⟩
      · rw [nothing]
        exact List.nil_prefix
      · have first := (play_handed along).1
        rwa [native] at first
  · intro returned some unstopped
    obtain ⟨-, q, path, done⟩ := run.gone.ended t n _ returned
    unfold calls at path
    rw [plays] at path
    rcases outputs_of_play path with ⟨-, closed⟩ | ⟨settings, p, native, along, same⟩
    · cases closed _ done
    · obtain ⟨-, -, all⟩ := play_handed along
      rw [native] at all
      rw [all (same _ done) ((isEmpty_inOrder track order).trans some) (unseen run plays unstopped)]
      exact heard_trackChunks track order

/-- **A device over a library plays the samples of its tracks.** Let threads play on it, stop it, close it, set its
    volume and give it up, in any order, with the slot for the stream empty at first. A stream only gets chunks of plays of
    tracks in the format that it, and no other stream of that handle, was opened for. What a play hands over is chunks of
    at most 256 bytes, of which only the last may be shorter. Read one by one they hold the samples of the track in the
    order of the machine from the first one on, and all of them when the play has returned without an error and nobody has
    asked for a stop, if the track holds a complete frame at all. -/
theorem reproduces_samples (run : Run (calls output commands) (surroundings (answers act)) start history s)
    (vacant : start.2.slot = none) :
    (∀ t n h bytes answer, .asked t n (.output (.playChunk h bytes)) answer ∈ history →
      ∃ track order, commands t n = .play track order ∧ OpenedFor history (.ofTrack track .native) h) ∧
    ∀ t n track order, commands t n = .play track order →
      Reproduces track order (pieces (outputs (own t n history))) ∧
      (.returned t n (.ok ()) ∈ history → track.isEmpty = false → Unstopped t n history →
        heard track (pieces (outputs (own t n history))) = deviceSamples track order) :=
  ⟨fun _ _ _ _ _ handed => opened_of_chunk run vacant handed, fun _ _ _ _ plays => heard_of_play run plays⟩

end Runs

/-! ### One sample in the other order -/

/-- Two threads that play a track again and again. -/
def playing (track : Track) (order : ByteOrder) (_ : Bool) (_ : Nat) : Device.Life.Command := .play track order

/-- The sample with its bytes exchanged is one chunk. -/
theorem trackChunks_swapped : trackChunks (inOrder oneSample .big) .native = [[0, 1]] :=
  Sample.chunks_of_short (by decide) (by decide)

/-- One sample is played whose bytes come in the other order. -/
theorem run_swapped : ∃ (history : Past Bool Live.Interface) (s : Interleaving.State
      (fun _ => Device.Interface Live.Interface) (fun _ => Except PlayError Unit) (Device.Shared × World Bool Format)),
    Run (calls output (playing oneSample .big)) (surroundings (answers act)) ({}, {}) history s ∧
    .asked true 0 (.output (.playChunk 0 [0, 1])) (.ok ()) ∈ history ∧ .returned true 0 (.ok ()) ∈ history ∧
    ∀ u m, .asked u m (.output (.setStop true)) () ∉ history := by
  have streaming (k : Except Failure Unit → Live.Action (Except PlayError Unit))
      (k' : Except PlayError Unit → Device.Action Live.Interface (Except PlayError Unit)) :
      (Device.within ((writeChunks 0 (trackChunks (inOrder oneSample .big) .native)).bind k)).bind k' =
        (Device.within ((writeChunks 0 [[0, 1]]).bind k)).bind k' := by
    rw [trackChunks_swapped]
  have run : Run (calls output (playing oneSample .big)) (surroundings (answers act))
    (({}, {}) : Device.Shared × World Bool Format) [] _ := .start
  rw [pair_start] at run
  replace run := run.first rfl true (.device rfl)
  replace run := run.first rfl () (.device rfl)
  replace run := run.first rfl (0 : Int) (.device rfl)
  replace run := run.first rfl () (.output .lower)
  replace run := run.first rfl none (.output (.take rfl rfl))
  replace run := run.first rfl (Except.ok 0 : Except Failure Handle) (.output (.opened List.not_mem_nil))
  replace run := run.first rfl () (.output .other)
  replace run := run.first (streaming _ _) false (.output (.look rfl))
  replace run := run.first rfl (Except.ok () : Except Failure Unit) (.output .wrote)
  replace run := run.first rfl () (.output .put)
  replace run := run.first rfl () (.device rfl)
  replace run := run.first rfl () (.device rfl)
  replace run := run.firstDone rfl
  refine ⟨_, _, run, ?_, ?_, ?_⟩
  · simp
  · simp
  · intro u m
    simp

/-- The sample is heard with its bytes exchanged, over a stream of the format of the track. -/
theorem swapped_sample_heard : ∃ (history : Past Bool Live.Interface) (s : Interleaving.State
      (fun _ => Device.Interface Live.Interface) (fun _ => Except PlayError Unit) (Device.Shared × World Bool Format)),
    Run (calls output (playing oneSample .big)) (surroundings (answers act)) ({}, {}) history s ∧
    OpenedFor history ⟨16, 1, 8000, .little⟩ 0 ∧ heard oneSample (pieces (outputs (own true 0 history))) = [256] := by
  obtain ⟨history, s, run, handed, returned, unstopped⟩ := run_swapped
  obtain ⟨streams, plays⟩ := reproduces_samples run rfl
  refine ⟨history, s, run, ?_, ?_⟩
  · obtain ⟨track, order, same, opened⟩ := streams true 0 0 [0, 1] (.ok ()) handed
    cases same
    exact opened
  · have all := (plays true 0 oneSample .big rfl).2 returned rfl fun before after u m split => by
      refine absurd ?_ (unstopped u m)
      rw [split]
      exact List.mem_append_right _ List.mem_cons_self
    exact all.trans (by decide)

/-! ### A track without a complete frame -/

/-- One sample for two channels. -/
def halfFrame : Track := ⟨16, 2, 8000, [5]⟩

/-- **A track without a complete frame is not heard at all**: it is played at once, without a chunk, although nobody asks
    for a stop, and it holds a sample. -/
theorem frameless_unheard : ∃ (history : Past Bool Live.Interface) (s : Interleaving.State
      (fun _ => Device.Interface Live.Interface) (fun _ => Except PlayError Unit) (Device.Shared × World Bool Format)),
    Run (calls output (playing halfFrame .native)) (surroundings (answers act)) ({}, {}) history s ∧
    .returned true 0 (.ok ()) ∈ history ∧ Unstopped true 0 history ∧
    heard halfFrame (pieces (outputs (own true 0 history))) = [] ∧ deviceSamples halfFrame .native = [5] := by
  have run : Run (calls output (playing halfFrame .native)) (surroundings (answers act))
    (({}, {}) : Device.Shared × World Bool Format) [] _ := .start
  rw [pair_start] at run
  replace run := run.first rfl true (.device rfl)
  replace run := run.first rfl () (.device rfl)
  replace run := run.first rfl (0 : Int) (.device rfl)
  replace run := run.first rfl () (.output .lower)
  replace run := run.first rfl () (.device rfl)
  replace run := run.first rfl () (.device rfl)
  replace run := run.firstDone rfl
  refine ⟨_, _, run, ?_, ?_, ?_, by decide⟩
  · simp
  · intro before after u m split
    have mem : .asked u m (.output (.setStop true)) () ∈ before ++ .asked u m (.output (.setStop true)) () :: after :=
      List.mem_append_right _ List.mem_cons_self
    rw [← split] at mem
    simp at mem
  · rfl

end Playout.Live
