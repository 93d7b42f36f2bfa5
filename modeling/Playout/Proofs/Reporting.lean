import Playout.Flow.Output
import Playout.Live.Output
import Playout.Poll.Output
import Playout.Proofs.Transport.World
import Playout.Simple.Output

/-!
# `Playout.Proofs.Reporting` — failures are reported before they are returned

An output tells its log what goes wrong, and then returns an error. Here its program is listened to: whether it has
already sent a message that is a notice or more severe. Nothing is assumed of what it is answered.

## Contents
- `messages`, `Silent` — what a trace has sent to a log.
- `hears` — the protocol that listens, and what programs do to it: `quietly`, `aloud`, `anyway`, `once_told`.
- `Reported` — a program that has failed has told so.
- `FailsSilently` — the plays of an output that fail without a word.
- `Live.play_reports`, `Poll.play_reports`, `Simple.play_reports`, `Flow.Player.play_reports` — four of the outputs.
-/

namespace Playout

open Interleaving Program

/-! ## Messages -/

section Messages

variable {I : Interface} {line? : I.Request → Option Line} {told : Bool} {α β : Type}

/-- What a trace has sent to a log with a threshold. -/
def messages (line? : I.Request → Option Line) (threshold : Severity) (trace : Trace I) : List Line :=
  (trace.filterMap fun x => line? x.1).filter fun line => line.severity.passes threshold

/-- Of all that has been sent, nothing is a notice or more severe. -/
def Silent (line? : I.Request → Option Line) (trace : Trace I) : Prop :=
  ∀ line ∈ messages line? .debug trace, line.severity.passes .notice = false

/-- Whether a request is a message that is a notice or more severe. -/
def loud (line? : I.Request → Option Line) (r : I.Request) : Bool :=
  (line? r).any fun line => line.severity.passes .notice

theorem silent_iff {trace : Trace I} : Silent line? trace ↔ ∀ x ∈ trace, loud line? x.1 = false := by
  simp only [Silent, messages, List.mem_filter, Severity.passes_debug, and_true, List.mem_filterMap, loud]
  constructor
  · intro silent x mem
    cases line : line? x.1 with
    | none => rfl
    | some line' => exact silent line' ⟨x, mem, line⟩
  · rintro quiet line ⟨x, mem, sent⟩
    have quiet := quiet x mem
    rw [sent] at quiet
    exact quiet

/-! ### Listening -/

/-- Whether something that is a notice or more severe has been sent. -/
def hears (line? : I.Request → Option Line) : Moves I Bool := fun told r _ told' => told' = (told || loud line? r)

/-- What has been heard on a path. -/
theorem told_of_path {trace : Trace I} {told' : Bool} (path : Path (hears line?) false trace told') :
    told' = false ↔ Silent line? trace := by
  rw [silent_iff]
  refine path.keeps (fun trace told => told = false ↔ ∀ x ∈ trace, loud line? x.1 = false) (by simp) ?_
  rintro trace told r answer told' same rfl
  rw [Bool.or_eq_false_iff, same]
  simp [or_imp, forall_and]

/-- A request that is no such message. -/
theorem quietly {r : I.Request} {next : I.Answer r → Program I α} {ends : Bool → α → Prop}
    (quiet : loud line? r = false) (rest : ∀ answer, (next answer).Follows (hears line?) ends told) :
    (Program.ask r next).Follows (hears line?) ends told := by
  refine Follows.stay (fun _ => ?_) rest
  show told = (told || loud line? r)
  rw [quiet, Bool.or_false]

/-- A program that has told has told, whatever it does then. -/
theorem once_told (p : Program I α) {ends : Bool → α → Prop} (ending : ∀ result, ends true result) :
    p.Follows (hears line?) ends true := by
  induction p with
  | done result => exact ending result
  | unfinished => trivial
  | ask r next ih => exact fun answer => ⟨true, rfl, ih answer⟩

/-- Such a message. -/
theorem aloud {r : I.Request} {next : I.Answer r → Program I α} {ends : Bool → α → Prop}
    (isLoud : loud line? r = true) (ending : ∀ result, ends true result) :
    (Program.ask r next).Follows (hears line?) ends told := by
  intro answer
  refine ⟨true, ?_, once_told _ ending⟩
  show true = (told || loud line? r)
  rw [isLoud, Bool.or_true]

/-- A program of which nothing is asked. -/
theorem anyway (p : Program I α) : p.Follows (hears line?) (fun _ _ => True) told := by
  induction p generalizing told with
  | done => trivial
  | unfinished => trivial
  | ask r next ih => exact fun answer => ⟨_, rfl, ih answer⟩

/-- What has failed has been told. -/
def Reported {ε : Type} (told : Bool) (result : Except ε α) : Prop := result.isOk = false → told = true

theorem reported_true {ε : Type} (result : Except ε α) : Reported true result := fun _ => rfl

theorem reported_ok {ε : Type} (a : α) : Reported told (.ok a : Except ε α) := nofun

/-- A program goes on with another one that reports its failures. -/
theorem reports_bind {ε : Type} {p : Program I β} {f : β → Program I (Except ε α)}
    (rest : ∀ told b, (f b).Follows (hears line?) Reported told) :
    (p.bind f).Follows (hears line?) Reported told :=
  Follows.bind (anyway p) fun told b _ => rest told b

/-- A program goes on with another one, which does not fail where it has failed itself. -/
theorem reports_after {ε : Type} {p : Program I (Except ε β)} {f : Except ε β → Program I (Except ε α)}
    (first : p.Follows (hears line?) Reported told)
    (failed : ∀ e, (f (.error e)).Follows (hears line?) Reported true)
    (rest : ∀ told b, (f (.ok b)).Follows (hears line?) Reported told) :
    (p.bind f).Follows (hears line?) Reported told := by
  refine Follows.bind first ?_
  rintro told (e | b) reported
  · obtain rfl := reported rfl
    exact failed e
  · exact rest told b

end Messages

/-! ## Plays that fail without a word -/

/-- Of all plays of an output that return an error, in any surroundings and with whatever other threads do, exactly
    those have sent nothing that is a notice or more severe for which `mute` holds. -/
def FailsSilently {I : Interface} (o : Output I) (line? : I.Request → Option Line)
    (mute : Track → Trace I → Prop) : Prop :=
  ∀ {T σ : Type} [DecidableEq T] {commands : T → Nat → Transport.Command}
    {answers : Surroundings (fun _ : T => I) σ} {shared : σ} {history : History T I (Except PlayError Unit)}
    {s : State (fun _ => I) (fun _ => Except PlayError Unit) σ} {t : T} {n : Nat} {track : Track}
    {settings : PlaySettings} {e : PlayError},
    Run (Transport.calls o commands) answers shared history s → commands t n = .play track settings →
    .returned t n (.error e) ∈ history → (Silent line? (own t n history) ↔ mute track (own t n history))

/-- It is enough to listen to the plays. -/
theorem failsSilently_of_follows {I : Interface} {o : Output I} {line? : I.Request → Option Line} {mute : Track → Prop}
    (follow : ∀ track settings, (o.play track settings).Follows (hears line?)
      (fun told result => result.isOk = false → (told = false ↔ mute track)) false) :
    FailsSilently o line? fun track _ => mute track := by
  intro T σ _ commands answers shared history s t n track settings e run command returned
  have follow : (Transport.calls o commands t n).Follows (hears line?)
      (fun told result => result.isOk = false → (told = false ↔ mute track)) false := by
    unfold Transport.calls
    rw [command]
    exact follow track settings
  obtain ⟨told, path, ended⟩ := run.path_of_returned follow returned
  rw [← told_of_path path]
  exact ended rfl

/-- An output whose plays report all their failures never fails without a word. -/
theorem failsSilently_never {I : Interface} {o : Output I} {line? : I.Request → Option Line}
    (follow : ∀ track settings, (o.play track settings).Follows (hears line?) Reported false) :
    FailsSilently o line? fun _ _ => False := by
  refine @failsSilently_of_follows I o line? (fun _ => False) fun track settings => (follow track settings).weaken ?_
  intro told result reported failed
  rw [reported failed]
  simp

/-! ## A library with a buffer of its own -/

namespace Live

/-- The message that a request is, if any. -/
def Request.line? : Live.Request → Option Line
  | .log line => some line
  | _ => none

variable {told : Bool}

theorem openStream_reports (format : Format) : (do
    match ← openStream format with
    | .ok h => return .ok h
    | .error failure =>
      log .error ("live: error opening the output stream: " ++ failure.text)
      putStream none
      return .error (.deviceOpen failure.text) : Action (Except PlayError Handle)).Follows (hears Request.line?)
      Reported told := by
  refine quietly rfl ?_
  rintro (failure | h)
  · exact aloud rfl reported_true
  · exact Follows.done (reported_ok _)

theorem streamFor_reports (format : Format) (current : Option (Format × Handle)) :
    (streamFor format current).Follows (hears Request.line?) Reported told := by
  rcases current with _ | ⟨other, h⟩
  · exact openStream_reports format
  · by_cases fits : other = format
    · simp only [streamFor, if_pos fits, bind_eq, pure_eq, done_bind]
      exact Follows.done (reported_ok _)
    · simp only [streamFor, if_neg fits, bind_eq, pure_eq]
      refine quietly rfl fun _ => quietly rfl fun _ => ?_
      exact openStream_reports format

theorem play_reports (track : Track) (settings : PlaySettings) :
    (play track settings).Follows (hears Request.line?) Reported told := by
  refine quietly rfl fun _ => ?_
  simp only [done_bind]
  split
  · exact Follows.done (reported_ok _)
  · split
    · exact aloud rfl reported_true
    · refine quietly rfl fun current => ?_
      simp only [done_bind]
      -- Whatever becomes of the chunks, a notice has been sent before the first one.
      exact reports_after (streamFor_reports _ _) (fun e => Follows.done (reported_true _))
        fun told h => aloud rfl reported_true

end Live

/-! ## A device that tells when it is ready -/

namespace Poll

/-- The message that a request is, if any. -/
def Request.line? : Poll.Request → Option Line
  | .log line => some line
  | _ => none

variable {told : Bool} {c : Config} {h : Handle}

theorem negotiate_reports (wanted : Paced.StreamParams) :
    (negotiate h wanted).Follows (hears Request.line?) Reported told := by
  refine quietly rfl ?_
  rintro (failure | granted)
  · exact aloud rfl reported_true
  · simp only [done_bind]
    split
    · exact aloud rfl reported_true
    · split
      · exact aloud rfl reported_true
      · split
        · exact aloud rfl reported_true
        · exact Follows.done (reported_ok _)

/-- At the end of a playback its failure is told, if it has failed. -/
theorem leave_reports (outcome : Except PlayError Bool) : (match outcome with
    | .ok _ => do
      putDevice (some h)
      return .ok ()
    | .error e => do
      log .critical "alsa-poll: play() abnormal exit, closing the device"
      releaseDevice h
      putDevice none
      return .error e : Action (Except PlayError Unit)).Follows (hears Request.line?) Reported told := by
  cases outcome with
  | ok _ => exact quietly rfl fun _ => Follows.done (reported_ok _)
  | error e => exact aloud rfl reported_true

theorem playBytes_reports (bytes : List UInt8) :
    (playBytes c h bytes).Follows (hears Request.line?) Reported told := by
  refine quietly rfl fun _ => ?_
  simp only [done_bind]
  refine reports_bind fun told _ => reports_bind fun told outcome => reports_bind fun told _ => ?_
  by_cases stopped : outcome = .ok true
  · subst stopped
    refine quietly rfl fun _ => quietly rfl ?_
    rintro (failure | _)
    · exact aloud rfl reported_true
    · exact leave_reports (.ok true)
  · rw [if_neg]
    · refine quietly rfl ?_
      rintro (failure | _)
      · exact aloud rfl reported_true
      · exact leave_reports outcome
    · rcases outcome with e | _ | _ <;> simp_all

theorem playOn_reports (track : Track) (volume : Int) :
    (playOn c track volume h).Follows (hears Request.line?) Reported told := by
  refine reports_after (negotiate_reports _) ?_ ?_
  · exact fun e => once_told _ reported_true
  · intro told granted
    exact quietly rfl fun _ => playBytes_reports _

theorem play_reports (track : Track) (settings : PlaySettings) :
    (play c track settings).Follows (hears Request.line?) Reported told := by
  unfold play
  split
  · exact Follows.done (reported_ok _)
  · split
    · exact aloud rfl reported_true
    · refine quietly rfl ?_
      rintro (_ | h)
      · refine quietly rfl ?_
        rintro (failure | h)
        · exact aloud rfl reported_true
        · exact playOn_reports track settings.volume
      · exact playOn_reports track settings.volume

end Poll

/-! ## A simple-protocol server -/

/-- The tracks of which an output says nothing at all: all is well with them, but for more channels than can be told
    to its server. -/
def Track.Unspeakable (track : Track) : Prop := track.validate.isOk = true ∧ 255 < track.channels.toNat

namespace Simple

/-- The message that a request is, if any. -/
def Request.line? : Simple.Request → Option Line
  | .log line => some line
  | _ => none

variable {told : Bool} {c : Config}

theorem reconnect_reports (spec : SampleSpec) : (do
    match ← connect c spec with
    | .ok h => return .ok h
    | .error failure =>
      log .error ("pulse: unable to reconnect to server: " ++ failure.text)
      putConnection none
      return .error (.deviceOpen failure.text) : Action (Except PlayError Handle)).Follows (hears Request.line?)
      Reported told := by
  refine reports_bind ?_
  rintro told (failure | h)
  · exact aloud rfl reported_true
  · exact Follows.done (reported_ok _)

theorem connectionFor_reports (track : Track) (spec : SampleSpec) (current : Option (SampleSpec × Handle)) :
    (connectionFor c track spec current).Follows (hears Request.line?) Reported told := by
  rcases current with _ | ⟨other, h⟩
  · exact reconnect_reports spec
  · by_cases fits : other = spec
    · simp only [connectionFor, if_pos fits, bind_eq, pure_eq, done_bind]
      exact Follows.done (reported_ok _)
    · simp only [connectionFor, if_neg fits, bind_eq, pure_eq]
      refine quietly rfl fun _ => quietly rfl fun _ => ?_
      exact reconnect_reports spec

theorem playTrack_reports (track : Track) (order : ByteOrder) :
    (playTrack c track order).Follows (hears Request.line?) Reported told := by
  refine quietly rfl fun _ => quietly rfl fun current => ?_
  simp only [done_bind]
  refine reports_after (connectionFor_reports _ _ _) (fun e => Follows.done (reported_true _)) fun told h => ?_
  refine quietly rfl fun _ => quietly rfl fun start => ?_
  simp only [done_bind]
  refine reports_bind ?_
  rintro told (failure | stopped)
  · refine quietly rfl fun _ => ?_
    exact aloud rfl reported_true
  · dsimp only
    split
    · exact quietly rfl fun _ => quietly rfl fun _ => Follows.done (reported_ok _)
    · exact quietly rfl fun _ => Follows.done (reported_ok _)

theorem play_reports (track : Track) (settings : PlaySettings) : (play c track settings).Follows (hears Request.line?)
    (fun told result => result.isOk = false → (told = false ↔ track.Unspeakable)) false := by
  refine quietly rfl fun _ => ?_
  simp only [done_bind]
  split
  · exact Follows.done nofun
  · cases valid : track.validate with
    | error e =>
      refine aloud rfl ?_
      simp [Track.Unspeakable, valid, Except.isOk, Except.toBool]
    | ok width =>
      by_cases many : maxChannels < track.channels.toNat
      · simp only [if_pos many]
        exact Follows.done fun _ => iff_of_true rfl ⟨by rw [valid]; rfl, many⟩
      · simp only [if_neg many]
        refine (playTrack_reports track settings.order).weaken ?_
        intro told result reported failed
        rw [reported failed]
        exact iff_of_false nofun fun unspeakable => many unspeakable.2

end Simple

/-! ## A flow server -/

namespace Flow.Player

/-- The message that a request is, if any. -/
def Request.line? : Player.Request → Option Line
  | .log line => some line
  | _ => none

variable {told : Bool} {c : Config}

theorem playFlow_reports (track : Track) (volume : Int) :
    (playFlow c track volume).Follows (hears Request.line?) Reported told := by
  refine reports_bind ?_
  rintro told (e | flow)
  · exact aloud rfl reported_true
  · refine quietly rfl fun current => quietly rfl fun cancelled => ?_
    simp only [done_bind]
    split
    · exact reports_bind fun told _ => quietly rfl fun _ => Follows.done (reported_ok _)
    · refine quietly rfl fun _ => ?_
      simp only [done_bind, bind_eq]
      exact reports_bind fun told _ => Follows.done (reported_ok _)

theorem play_reports (track : Track) (settings : PlaySettings) : (play c track settings).Follows (hears Request.line?)
    (fun told result => result.isOk = false → (told = false ↔ track.Unspeakable)) false := by
  refine quietly rfl fun _ => ?_
  simp only [done_bind]
  split
  · exact Follows.done nofun
  · cases valid : track.validate with
    | error e =>
      refine aloud rfl ?_
      simp [Track.Unspeakable, valid, Except.isOk, Except.toBool]
    | ok width =>
      by_cases many : maxChannels < track.channels.toNat
      · simp only [if_pos many]
        exact Follows.done fun _ => iff_of_true rfl ⟨by rw [valid]; rfl, many⟩
      · simp only [if_neg many]
        have rest : (if maxFlowData < dataLength track width then do
            log .error ("flow: track of " ++ toString (dataLength track width) ++ " bytes exceeds the "
              ++ toString maxFlowData ++ " byte flow limit")
            return .error (.invalidTrack (toString (dataLength track width) ++ " bytes of sample data"))
          else playFlow c track settings.volume : Action (Except PlayError Unit)).Follows (hears Request.line?) Reported
            false := by
          split
          · exact aloud rfl reported_true
          · exact playFlow_reports track settings.volume
        refine rest.weaken ?_
        intro told result reported failed
        rw [reported failed]
        exact iff_of_false nofun fun unspeakable => many unspeakable.2

end Flow.Player

end Playout
