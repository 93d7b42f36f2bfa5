import Playout.Proofs.Paced.Halting
import Playout.Proofs.Transport.Halting

/-!
# `Playout.Proofs.Stopping` — how much is still written after a stop

Whatever the threads, the devices and the servers do, a stop that lands after a play has taken the signal back lets
through at most what the play was about to write when it last looked at the signal.

## Contents
- `sampleAndStop` — one thread that plays and one that stops.
- `run_chunk` — a run in which a stop lands between a look and the chunk that it was for.
- `Paced.World`, `Paced.Reacts`, `Paced.run_fill` — a signal with a clock, and the same for a paced playback.

## Main statements
- `output_bounded_after_stop` — the bounds, for the three outputs that look at a signal before they write.
-/

namespace Playout

open Interleaving Transport

/-- **Output after a stop is bounded.** A library stream and a connection to a server begin at most one further write of
    at most 256 bytes of audio, a paced playback at most the writes of one round, and then they leave their loops. -/
theorem output_bounded_after_stop {T : Type} [DecidableEq T] : StopsShort T Live.design false ∧
    (∀ c, StopsShort T (Simple.design c) true) ∧ ∀ c, Paced.StopsWithinRound T c :=
  ⟨Live.keeper.stopsShort fun _ => rfl, fun c => (Simple.keeper c).stopsShort fun _ => rfl, Paced.stopsWithinRound⟩

/-! ### A stop between a look and a write -/

/-- One thread plays a sample again and again, and another stops. -/
def sampleAndStop (thread : Bool) (_ : Nat) : Transport.Command :=
  if thread then .play Live.oneSample {} else .stop

theorem sampleAndStop_alone : ∀ u n track settings, u ≠ true → sampleAndStop u n ≠ .play track settings := by
  intro u n track settings other
  cases u with
  | true => exact absurd rfl other
  | false => nofun

/-- The play of the sample has looked at the signal for its only chunk, then the signal is set, and then the chunk is
    written. -/
theorem run_chunk : ∃ (before after : History Bool Live.Interface (Except PlayError Unit))
      (s : State (fun _ => Live.Interface) (fun _ => Except PlayError Unit) (World Bool Live.Format)),
    Run (calls Live.design.output sampleAndStop) (answers Live.design.act) {}
      (before ++ .asked false 0 (.setStop true) () :: after) s ∧
    Lowered Live.design.touch (own true 0 before) ∧
    (Live.design.audio false (own true 0 (before ++ .asked false 0 (.setStop true) () :: after))).length = 1 := by
  have streaming (k : Except Failure Unit → Live.Action (Except PlayError Unit)) :
      (Live.writeChunks 0 (Sample.chunks Live.chunkLength
        (Sample.toBytes Live.oneSample.samples 16 .native .signed))).bind k =
        (Live.writeChunks 0 [Sample.toBytes Live.oneSample.samples 16 .native .signed]).bind k := by
    rw [Live.chunks_oneSample]
  have run : Run (calls Live.design.output sampleAndStop) (answers Live.design.act)
    ({} : World Bool Live.Format) [] _ := .start
  rw [pair_start] at run
  replace run := run.first rfl () .lower
  replace run := run.first rfl none (.take rfl rfl)
  replace run := run.first rfl (Except.ok 0 : Except Failure Handle) (.opened (h := 0) List.not_mem_nil)
  replace run := run.first rfl () .other
  replace run := run.first (streaming _) false (.look rfl)
  replace run := run.second rfl () .raise
  replace run := run.first rfl (Except.ok () : Except Failure Unit) .wrote
  refine ⟨[_, _, _, _, _], [_], _, run, ⟨⟨.setStop false, ()⟩, ?_, rfl⟩, rfl⟩
  exact List.mem_cons_self

namespace Paced

/-- A signal and a clock. -/
structure World where
  raised : Bool := false
  time : Seconds := 0

/-- The signal is what the requests leave it as, and time passes in pauses and naps. The device does as it likes. -/
inductive Reacts : World → (r : Paced.Request) → Paced.Request.Answer r → World → Prop where
  | lower {w} : Reacts w .resetSignal () { w with raised := false }
  | raise {w} : Reacts w .cancelSignal () { w with raised := true }
  | look {w} : Reacts w .cancelled w.raised w
  | cancelled {w span} (set : w.raised = true) : Reacts w (.pause span) .cancelled w
  | timedOut {w span later} (unset : w.raised = false) (passes : w.time ≤ later) :
      Reacts w (.pause span) .timedOut { w with time := later }
  | clock {w} : Reacts w .clock w.time w
  | nap {w span later} (passes : w.time ≤ later) (long : w.time + span ≤ later) :
      Reacts w (.nap span) () { w with time := later }
  | other {w r answer} (silent : touch r answer = .none) (timeless : r ≠ .clock ∧ ∀ span, r ≠ .nap span) :
      Reacts w r answer w

/-- The surroundings of two threads. -/
def reacts : Surroundings (fun _ : Bool => Paced.Interface) World := fun _ r w answer w' => Reacts w r answer w'

theorem reacts_signalled : Signalled touch reacts World.raised where
  lower {t r w answer w'} answered lower := by
    have answered : Reacts w r answer w' := answered
    cases answered with
    | lower => rfl
    | other silent => exact absurd (silent.symm.trans lower) nofun
    | _ => cases lower
  raise {t r w answer w'} answered raise := by
    have answered : Reacts w r answer w' := answered
    cases answered with
    | raise => rfl
    | other silent => exact absurd (silent.symm.trans raise) nofun
    | _ => cases raise
  look {t r w answer w' stopped} answered look := by
    have answered : Reacts w r answer w' := answered
    cases answered with
    | look =>
      cases look
      exact ⟨rfl, rfl⟩
    | cancelled state | timedOut state =>
      cases look
      exact ⟨state.symm, rfl⟩
    | other silent => exact absurd (silent.symm.trans look) nofun
    | _ => cases look
  keep {t r w answer w'} answered keep := by
    have answered : Reacts w r answer w' := answered
    cases answered with
    | lower | raise => cases keep
    | _ => rfl

theorem reacts_timed : Timed reacts World.time where
  clock {t w moment w'} answered := by
    have answered : Reacts w .clock moment w' := answered
    cases answered with
    | clock => exact ⟨le_refl _, le_refl _⟩
    | other _ timeless => exact absurd rfl timeless.1
  nap {t span w answer w'} answered := by
    have answered : Reacts w (.nap span) answer w' := answered
    cases answered with
    | nap _ long => exact long
    | other _ timeless => exact absurd rfl (timeless.2 span)
  forward {t r w answer w'} answered := by
    have answered : Reacts w r answer w' := answered
    cases answered with
    | timedOut _ passes | nap passes => exact passes
    | _ => exact le_refl _

/-- The play of the sample has looked at the signal and been told of one free fragment, then the signal is set, and then
    the fragment is filled. -/
theorem run_fill : ∃ (before after : History Bool Paced.Interface (Except PlayError Unit))
      (s : State (fun _ => Paced.Interface) (fun _ => Except PlayError Unit) World),
    Run (calls (output { device := "dsp" }) sampleAndStop) reacts {}
      (before ++ .asked false 0 .cancelSignal () :: after) s ∧
    Lowered touch (own true 0 before) ∧
    (writes (own true 0 (before ++ .asked false 0 .cancelSignal () :: after))).length = 1 := by
  have run : Run (calls (output { device := "dsp" }) sampleAndStop) reacts ({} : World) [] _ := .start
  rw [pair_start] at run
  replace run := run.first rfl () .lower
  replace run := run.first rfl (Except.ok 0 : Except Failure Handle) (.other rfl ⟨nofun, nofun⟩)
  replace run := run.first rfl (Except.ok ⟨16, 1, 8000⟩ : Except Failure StreamParams) (.other rfl ⟨nofun, nofun⟩)
  replace run := run.first rfl () (.other rfl ⟨nofun, nofun⟩)
  replace run := run.first rfl (none : Option Handle) (.other rfl ⟨nofun, nofun⟩)
  replace run := run.first rfl false .look
  replace run := run.first rfl (some (.ok ⟨1, 2, 2⟩) : Option (Except Failure BufferSpace)) (.other rfl ⟨nofun, nofun⟩)
  replace run := run.first rfl () (.other rfl ⟨nofun, nofun⟩)
  replace run := run.second rfl () (.other rfl ⟨nofun, nofun⟩)
  replace run := run.second rfl () .raise
  replace run := run.first rfl (some (.ok 2) : Option (Except Failure Nat)) (.other rfl ⟨nofun, nofun⟩)
  refine ⟨[_, _, _, _, _, _, _, _, _], [_], _, run, ⟨⟨.resetSignal, ()⟩, ?_, rfl⟩, rfl⟩
  exact List.mem_cons_self

end Paced

/-- The chunk and the fragment for which the stop came too late are the last. -/
theorem last_chunk_and_last_round :
    (∃ (before after : History Bool Live.Interface (Except PlayError Unit))
        (s : State (fun _ => Live.Interface) (fun _ => Except PlayError Unit) (World Bool Live.Format)),
      Run (calls Live.design.output sampleAndStop) (answers Live.design.act) {}
        (before ++ .asked false 0 (.setStop true) () :: after) s ∧
      (Live.design.audio false (own true 0 (before ++ .asked false 0 (.setStop true) () :: after))).length = 1 ∧
      (own true 0 after).length ≤ 15 ∧ (s.call true).rest ≠ .unfinished) ∧
    ∃ (before after : History Bool Paced.Interface (Except PlayError Unit))
        (s : State (fun _ => Paced.Interface) (fun _ => Except PlayError Unit) Paced.World),
      Run (calls (Paced.output { device := "dsp" }) sampleAndStop) Paced.reacts {}
        (before ++ .asked false 0 .cancelSignal () :: after) s ∧
      (Paced.writes (own true 0 (before ++ .asked false 0 .cancelSignal () :: after))).length = 1 ∧
      (own true 0 after).length ≤ 27 ∧ (s.call true).rest ≠ .unfinished := by
  constructor
  · obtain ⟨before, after, s, run, lowered, wrote⟩ := run_chunk
    obtain ⟨extra, -, -, -, -, few, goes⟩ := output_bounded_after_stop.1 (answers_signalled Live.design)
      sampleAndStop_alone run rfl rfl lowered
    exact ⟨before, after, s, run, wrote, few, goes⟩
  · obtain ⟨before, after, s, run, lowered, wrote⟩ := Paced.run_fill
    obtain ⟨main, tail, -, -, -, -, -, few, goes⟩ := output_bounded_after_stop.2.2 { device := "dsp" }
      Paced.reacts_signalled Paced.reacts_timed sampleAndStop_alone run rfl rfl lowered
    exact ⟨before, after, s, run, wrote, few, goes⟩

end Playout
