import Playout.Proofs.Paced.Reporting
import Playout.Proofs.Stopping

/-!
# `Playout.Proofs.Failures` — which failures are not reported

Every output reports its failures to its log, but for three. Two outputs turn a track away without a word that has more
channels than their servers can be told, and a paced playback says nothing when its device takes no byte of a write.

## Contents
- `wideTrack`, `runs_wideTrack` — a track of 256 channels, and how it is turned away.
- `run_blank` — a paced playback whose device takes nothing.

## Main statements
- `failures_silent_exactly` — the plays that return an error and have not reported it, for each output.
- `silent_failures` — there are such plays.
-/

namespace Playout

open Interleaving Transport

/-- **Which failures are silent.** A play that returns an error has sent its log something that is a notice or more
    severe, unless the track has more channels than can be told to the server, or a device took no byte of a write while
    it plays at the rate that was asked for. These have sent nothing of the kind. -/
theorem failures_silent_exactly (poll : Poll.Config) (simple : Simple.Config) (flow : Flow.Config)
    (paced : Paced.Config) :
    FailsSilently Live.output Live.Request.line? (fun _ _ => False) ∧
    FailsSilently (Poll.output poll) Poll.Request.line? (fun _ _ => False) ∧
    FailsSilently (Simple.output simple) Simple.Request.line? (fun track _ => track.Unspeakable) ∧
    FailsSilently (Flow.Player.output flow) Flow.Player.Request.line? (fun track _ => track.Unspeakable) ∧
    FailsSilently (Paced.output paced) Paced.Request.line? fun _ trace =>
      (∃ bytes, ⟨.write bytes, some (.ok 0)⟩ ∈ trace) ∧
        ∀ h wanted granted, ⟨.configure h wanted, .ok granted⟩ ∈ trace → granted.rate = wanted.rate :=
  ⟨failsSilently_never Live.play_reports, failsSilently_never Poll.play_reports,
    failsSilently_of_follows Simple.play_reports, failsSilently_of_follows Flow.Player.play_reports,
    Paced.failsSilently paced⟩

/-! ### Plays that fail without a word -/

/-- A frame of 256 channels. -/
def wideTrack : Track := ⟨16, 256, 8000, List.replicate 256 0⟩

/-- Everybody plays it. -/
def playWide (_ : Bool) (_ : Nat) : Transport.Command := .play wideTrack {}

/-- An output that turns it away after one request. -/
theorem run_wide {I : Interface} {o : Output I} {r : I.Request} (answer : I.Answer r)
    (away : o.play wideTrack {} = .ask r fun _ => .done (.error (.invalidTrack "256 channels"))) :
    ∃ s, Run (calls o playWide) anyAnswer () ([.asked true 0 r answer,
      .returned true 0 (.error (.invalidTrack "256 channels"))] : History Bool I (Except PlayError Unit)) s := by
  have run : Run (calls o playWide) anyAnswer () [] _ := .start
  rw [pair_start] at run
  replace run := run.first away answer anyAnswer_any
  exact ⟨_, run.firstDone rfl⟩

theorem wideTrack_nonempty : wideTrack.isEmpty = false := by
  have frame : wideTrack.samples.length = 256 := List.length_replicate
  unfold Track.isEmpty Track.frames
  rw [frame]
  rfl

theorem wideTrack_valid : wideTrack.validate = .ok 2 := (Track.validate_eq_ok_iff _ _).2 (by decide)

theorem away_simple (c : Simple.Config) : (Simple.output c).play wideTrack {} =
    .ask .resetSignal fun _ => .done (.error (.invalidTrack "256 channels")) := by
  simp only [Simple.output, Simple.play, Program.bind_eq, Program.ask_bind, Program.done_bind, wideTrack_nonempty,
    wideTrack_valid]
  rfl

theorem away_flow (c : Flow.Config) : (Flow.Player.output c).play wideTrack {} =
    .ask .resetDone fun _ => .done (.error (.invalidTrack "256 channels")) := by
  simp only [Flow.Player.output, Flow.Player.play, Program.bind_eq, Program.ask_bind, Program.done_bind,
    wideTrack_nonempty, wideTrack_valid]
  rfl

/-- The play of a sample whose device takes no byte of its only write. -/
theorem run_blank : ∃ (history : History Bool Paced.Interface (Except PlayError Unit))
      (s : State (fun _ => Paced.Interface) (fun _ => Except PlayError Unit) Paced.World),
    Run (calls (Paced.output { device := "dsp" }) sampleAndStop) Paced.reacts {} history s ∧
    .returned true 0 (.error (.writeFailed "device accepted no data")) ∈ history ∧
    (∃ bytes, ⟨.write bytes, some (.ok 0)⟩ ∈ own true 0 history) ∧
    (∀ h wanted granted, ⟨.configure h wanted, .ok granted⟩ ∈ own true 0 history → granted.rate = wanted.rate) ∧
    Silent Paced.Request.line? (own true 0 history) := by
  have run : Run (calls (Paced.output { device := "dsp" }) sampleAndStop) Paced.reacts ({} : Paced.World) [] _ := .start
  rw [pair_start] at run
  replace run := run.first rfl () .lower
  replace run := run.first rfl (Except.ok 0 : Except Failure Handle) (.other rfl ⟨nofun, nofun⟩)
  replace run := run.first rfl (Except.ok ⟨16, 1, 8000⟩ : Except Failure Paced.StreamParams)
    (.other rfl ⟨nofun, nofun⟩)
  replace run := run.first rfl () (.other rfl ⟨nofun, nofun⟩)
  replace run := run.first rfl (none : Option Handle) (.other rfl ⟨nofun, nofun⟩)
  replace run := run.first rfl false .look
  replace run := run.first rfl (some (.ok ⟨1, 2, 2⟩) : Option (Except Failure Paced.BufferSpace))
    (.other rfl ⟨nofun, nofun⟩)
  replace run := run.first rfl () (.other rfl ⟨nofun, nofun⟩)
  replace run := run.first rfl (some (.ok 0) : Option (Except Failure Nat)) (.other rfl ⟨nofun, nofun⟩)
  replace run := run.first rfl (some 0 : Option Handle) (.other rfl ⟨nofun, nofun⟩)
  replace run := run.first rfl () (.other rfl ⟨nofun, nofun⟩)
  replace run := run.first rfl () (.other rfl ⟨nofun, nofun⟩)
  replace run := run.firstDone rfl
  refine ⟨_, _, run, List.mem_append_right _ List.mem_cons_self, Paced.blank_iff.1 ?_, Paced.sameRate_iff.1 ?_, ?_⟩
  · decide
  · decide
  · exact silent_iff.2 (by decide)

/-- A device that takes no byte, and a frame of 256 channels on both outputs that talk to a server: the plays return an
    error and have sent nothing that is a notice or more severe. -/
theorem silent_failures :
    (∃ (history : History Bool Paced.Interface (Except PlayError Unit))
        (s : State (fun _ => Paced.Interface) (fun _ => Except PlayError Unit) Paced.World),
      Run (calls (Paced.output { device := "dsp" }) sampleAndStop) Paced.reacts {} history s ∧
      .returned true 0 (.error (.writeFailed "device accepted no data")) ∈ history ∧
      Silent Paced.Request.line? (own true 0 history)) ∧
    (∀ c, ∃ (history : History Bool Simple.Interface (Except PlayError Unit))
        (s : State (fun _ => Simple.Interface) (fun _ => Except PlayError Unit) Unit),
      Run (calls (Simple.output c) playWide) anyAnswer () history s ∧
      .returned true 0 (.error (.invalidTrack "256 channels")) ∈ history ∧
      Silent Simple.Request.line? (own true 0 history)) ∧
    ∀ c, ∃ (history : History Bool Flow.Player.Interface (Except PlayError Unit))
        (s : State (fun _ => Flow.Player.Interface) (fun _ => Except PlayError Unit) Unit),
      Run (calls (Flow.Player.output c) playWide) anyAnswer () history s ∧
      .returned true 0 (.error (.invalidTrack "256 channels")) ∈ history ∧
      Silent Flow.Player.Request.line? (own true 0 history) := by
  refine ⟨?_, fun c => ?_, fun c => ?_⟩
  · obtain ⟨history, s, run, returned, -, -, silent⟩ := run_blank
    exact ⟨history, s, run, returned, silent⟩
  · obtain ⟨s, run⟩ := run_wide () (away_simple c)
    exact ⟨_, s, run, List.mem_cons_of_mem _ List.mem_cons_self, silent_iff.2 (by decide)⟩
  · obtain ⟨s, run⟩ := run_wide () (away_flow c)
    exact ⟨_, s, run, List.mem_cons_of_mem _ List.mem_cons_self, silent_iff.2 (by decide)⟩

/-- That a device took no byte tells that nothing was said. -/
theorem blank_write_unsaid :
    ∃ (history : History Bool Paced.Interface (Except PlayError Unit))
        (s : State (fun _ => Paced.Interface) (fun _ => Except PlayError Unit) Paced.World),
      Run (calls (Paced.output { device := "dsp" }) sampleAndStop) Paced.reacts {} history s ∧
      .returned true 0 (.error (.writeFailed "device accepted no data")) ∈ history ∧
      (∃ bytes, ⟨.write bytes, some (.ok 0)⟩ ∈ own true 0 history) ∧
      Silent Paced.Request.line? (own true 0 history) := by
  obtain ⟨history, s, run, returned, blank, rate, -⟩ := run_blank
  obtain ⟨-, -, -, -, exactly⟩ := failures_silent_exactly { device := "dsp", stallLimit := 1 }
    { server := default, minLength := 0 } { server := default } { device := "dsp" }
  exact ⟨history, s, run, returned, blank, (exactly run rfl returned).2 ⟨blank, rate⟩⟩

end Playout
