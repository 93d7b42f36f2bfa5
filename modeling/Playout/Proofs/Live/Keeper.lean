import Playout.Live.Output
import Playout.Proofs.Transport.Protocol

/-!
# `Playout.Proofs.Live.Keeper` — a library stream is kept open

## Contents
- `act` — what the requests of the output do.
- `writeChunks_completes`, `streamFor_completes`, `play_completes`, `close_completes` — its programs keep to the
  protocol of an output with one stream.
- `keeper` — the output with its protocol.
-/

namespace Playout.Live

open Transport Program

/-- What a request does, with its answer. -/
def act : (r : Live.Request) → Live.Request.Answer r → Act Format
  | .log _, _ => .other
  | .setStop value, _ => if value then .raise else .lower
  | .stopRequested, stopped => .look stopped
  | .takeStream, found => .take found
  | .putStream kept, _ => .put kept
  | .openStream _, .ok h => .opened h
  | .openStream _, .error _ => .refused
  | .releaseStream h, _ => .release h
  | .playChunk h bytes, .ok _ => .write h bytes true
  | .playChunk h bytes, .error _ => .write h bytes false

/-- The output, seen through its acts. A stream begins with the first chunk, and every valid track is played. -/
def design : Design Live.Interface Format where
  output := output
  act := act
  header _ := none
  accepts track := !track.isEmpty && track.validate.isOk
  spec := Format.ofTrack
  form := .signed

theorem accepts_iff {track : Track} :
    design.accepts track = true ↔ track.isEmpty = false ∧ track.validate.isOk = true := by
  simp [design]

variable {plan : Plan Format} {left : Nat}

/-- After the chunks the stream is about to be put back, or is lost. -/
def Written (plan : Plan Format) (h : Handle) (s : Stage Format) (outcome : Except Failure Unit) : Prop :=
  match outcome with
  | .ok _ => s = ⟨.play plan, .streaming h [], s.patience⟩ ∨ s = ⟨.play plan, .leaving h, s.patience⟩
  | .error _ => s = .reach (.play plan) (.failing h)

theorem writeChunks_completes (h : Handle) (chunks : List (List UInt8)) :
    (writeChunks h chunks).Completes .all design.moves (Written plan h)
      ⟨.play plan, .streaming h chunks, left⟩ := by
  induction chunks generalizing left with
  | nil => exact Completes.done (Or.inl rfl)
  | cons chunk rest ih =>
    intro stopped _
    cases stopped with
    | true =>
      refine ⟨_, .turn .halt, ?_⟩
      exact Design.wait (fun _ => rfl) fun _ => Completes.done (Or.inr rfl)
    | false =>
      refine ⟨_, .turn .goOn, ?_⟩
      intro outcome _
      cases outcome with
      | ok _ => exact ⟨_, .turn .wrote, ih⟩
      | error failure => exact ⟨_, .turn .tore, Completes.done rfl⟩

/-- There is a stream for the format now, or the slot has been left empty. -/
def Furnished (plan : Plan Format) (s : Stage Format) (outcome : Except PlayError Handle) : Prop :=
  match outcome with
  | .ok h => ∃ patience, s = ⟨.play plan, .streaming h plan.chunks, patience + 1⟩
  | .error e => Ends s (.error e)

/-- A new stream, while there is none. -/
theorem open_completes (format : Format) :
    (Program.bind (openStream format) fun outcome =>
      match outcome with
      | .ok h => .done (.ok h)
      | .error failure => do
        log .error ("live: error opening the output stream: " ++ failure.text)
        putStream none
        return .error (.deviceOpen failure.text)).Completes .all design.moves (Furnished plan)
      ⟨.play plan, .vacant, left⟩ := by
  intro outcome _
  cases outcome with
  | ok h => exact ⟨_, .turn .opened, Completes.done ⟨2, rfl⟩⟩
  | error failure =>
    refine ⟨_, .turn .refused, Design.wait (fun _ => rfl) fun _ => ?_⟩
    exact Design.turn _ (fun _ => .emptied) fun _ => Completes.done rfl

/-- What lies in the slot is used if it fits. -/
theorem take_completes {α : Type} {ends : Stage Format → α → Prop} {next : Except PlayError Handle → Action α}
    (rest : ∀ s outcome, Furnished plan s outcome →
      (next outcome).Completes .all design.moves ends s) :
    (takeStream.bind fun current => (streamFor plan.spec current).bind next).Completes .all design.moves ends
      ⟨.play plan, .ready, left⟩ := by
  intro current _
  rcases current with _ | ⟨format, h⟩
  · refine ⟨_, .turn .unfilled, ?_⟩
    simp only [done_bind, streamFor, pure_eq, bind_eq]
    exact Completes.bind (open_completes plan.spec) rest
  · by_cases fits : format = plan.spec
    · subst fits
      refine ⟨_, .turn .found, ?_⟩
      simp only [done_bind, streamFor, if_true, pure_eq, bind_eq]
      exact rest _ _ ⟨2, rfl⟩
    · refine ⟨_, .turn (.foreign fits), ?_⟩
      simp only [done_bind, streamFor, if_neg fits, pure_eq, bind_eq]
      refine Design.wait (fun _ => rfl) fun _ => ?_
      refine Design.turn _ (fun _ => .released) fun _ => ?_
      simp only [done_bind]
      exact Completes.bind (open_completes plan.spec) rest

theorem playBytes_completes (track : Track) (settings : PlaySettings) :
    (playBytes track settings.order).Completes .all design.moves Ends
      ⟨.play (design.plan track settings), .ready, left⟩ := by
  unfold playBytes
  refine take_completes ?_
  intro s outcome furnished
  cases outcome with
  | error e => exact Completes.done furnished
  | ok h =>
    obtain ⟨patience, rfl⟩ := furnished
    refine Design.wait (fun _ => rfl) fun _ => ?_
    simp only [done_bind]
    refine Completes.bind (writeChunks_completes h _) ?_
    intro s outcome written
    cases outcome with
    | ok _ =>
      rcases written with streaming | leaving
      · rw [streaming]
        exact Design.turn _ (fun _ => .finished) fun _ => Completes.done rfl
      · rw [leaving]
        exact Design.turn _ (fun _ => .kept) fun _ => Completes.done rfl
    | error failure =>
      obtain rfl := written
      refine Design.turn _ (fun _ => .dropped) fun _ => ?_
      refine Design.wait (fun _ => rfl) fun _ => ?_
      exact Design.turn _ (fun _ => .emptied) fun _ => Completes.done rfl

theorem play_completes (track : Track) (settings : PlaySettings) :
    (play track settings).Completes .all design.moves Ends
      (.enter (design.errand (.play track settings))) := by
  intro _ _
  by_cases accepted : design.accepts track = true
  · obtain ⟨some, valid⟩ := accepts_iff.1 accepted
    obtain ⟨width, valid⟩ := width_of_valid valid
    rw [Design.errand_of_accepts accepted]
    refine ⟨_, .turn .lower, ?_⟩
    simp only [done_bind, some, valid, Bool.false_eq_true, if_false]
    exact playBytes_completes track settings
  · rw [Design.errand_of_refuses accepted]
    refine ⟨_, .turn .skip, ?_⟩
    simp only [done_bind]
    split
    · exact Completes.done trivial
    · next some =>
      cases checked : track.validate with
      | ok width => exact absurd (accepts_iff.2 ⟨eq_false_of_ne_true some, by rw [checked]; rfl⟩) accepted
      | error e => exact Design.wait (fun _ => rfl) fun _ => Completes.done trivial

theorem close_completes :
    (Command.program output .close).Completes .all design.moves Ends (.enter .close) := by
  refine Design.turn _ (fun _ => .raise) fun _ => ?_
  intro found _
  rcases found with _ | ⟨format, h⟩
  · refine ⟨_, .turn .closed, ?_⟩
    exact Design.turn _ (fun _ => .left) fun _ => Completes.done rfl
  · refine ⟨_, .turn .closing, ?_⟩
    refine Design.turn _ (fun _ => .released) fun _ => ?_
    exact Design.turn _ (fun _ => .left) fun _ => Completes.done rfl

/-- The output keeps to the protocol. -/
def keeper : Keeper Live.Interface Format where
  toDesign := design
  completes command := by
    cases command with
    | play track settings => exact play_completes track settings
    | stop => exact Design.turn _ (fun _ => .stop) fun _ => Completes.done rfl
    | close => exact close_completes

/-! ### One sample -/

/-- One sample. -/
def oneSample : Track := ⟨16, 1, 8000, [1]⟩

/-- It is one chunk. -/
theorem chunks_oneSample : Sample.chunks chunkLength (Sample.toBytes oneSample.samples 16 .native .signed) =
    [Sample.toBytes oneSample.samples 16 .native .signed] :=
  Sample.chunks_of_short (by decide) (by decide)

end Playout.Live
