import Playout.Simple.Output
import Playout.Proofs.Transport.Protocol

/-!
# `Playout.Proofs.Simple.Keeper` — a connection to a server is kept open

## Contents
- `act` — what the requests of the output do.
- `stream_completes`, `connect_completes`, `play_completes`, `close_completes` — its programs keep to the protocol
  of an output with one stream.
- `keeper` — the output with its protocol.
-/

namespace Playout.Simple

open Transport Program

/-- What a request does, with its answer. A pause is a look at the signal that takes its time. -/
def act : (r : Simple.Request) → Simple.Request.Answer r → Act SampleSpec
  | .log _, _ => .other
  | .resetSignal, _ => .lower
  | .cancelSignal, _ => .raise
  | .cancelled, stopped => .look stopped
  | .pause _, outcome => .look (decide (outcome = .cancelled))
  | .clock, _ => .other
  | .takeConnection, found => .take found
  | .putConnection kept, _ => .put kept
  | .dial _, .ok h => .opened h
  | .dial _, .error _ => .refused
  | .send h bytes, .ok _ => .write h bytes true
  | .send h bytes, .error _ => .write h bytes false
  | .hangUp h, _ => .release h

/-- The header of a new connection. -/
def greeting (c : Config) (spec : SampleSpec) : List UInt8 := encode spec (UInt32.ofNat c.minLength)

/-- The output, seen through its acts. Valid tracks are played that have no more channels than a header can
    announce. -/
def design (c : Config) : Design Simple.Interface SampleSpec where
  output := output c
  act := act
  header spec := some (greeting c spec)
  accepts track := !track.isEmpty && track.validate.isOk && decide (track.channels.toNat ≤ maxChannels)
  spec := SampleSpec.ofTrack
  form := .unsigned

variable {c : Config} {plan : Plan SampleSpec} {left : Nat}

theorem accepts_iff {track : Track} : (design c).accepts track = true ↔
    (track.isEmpty = false ∧ track.validate.isOk = true) ∧ track.channels.toNat ≤ maxChannels := by
  simp [design]

/-- After the chunks the stream is about to be put back, or is lost. -/
def Streamed (plan : Plan SampleSpec) (h : Handle) (s : Stage SampleSpec) (outcome : Except Failure Bool) :
    Prop :=
  match outcome with
  | .ok _ => s = .reach (.play plan) (.leaving h)
  | .error _ => s = .reach (.play plan) (.failing h)

/-- What follows the look at the signal before a chunk. -/
theorem afterLook_completes {h : Handle} {rate written : Nat} {start : Seconds} {chunk : List UInt8}
    {rest : List (List UInt8)} (stopped : Bool)
    (later : (stream c h rate start (written + chunk.length) rest).Completes .all (design c).moves
      (Streamed plan h) (.reach (.play plan) (.streaming h rest))) :
    ∃ s, Move (design c).header ⟨.play plan, .streaming h (chunk :: rest), left⟩ (.look stopped) s ∧
      (if stopped = true then Program.done (.ok true) else
        (send h chunk).bind fun outcome =>
          match outcome with
          | .ok _ => stream c h rate start (written + chunk.length) rest
          | .error failure => .done (.error (failure.within "Failed to write audio data"))).Completes .all
        (design c).moves (Streamed plan h) s := by
  cases stopped with
  | true => exact ⟨_, .turn .halt, Completes.done rfl⟩
  | false =>
    refine ⟨_, .turn .goOn, ?_⟩
    intro outcome _
    cases outcome with
    | ok _ => exact ⟨_, .turn .wrote, later⟩
    | error failure => exact ⟨_, .turn .tore, Completes.done rfl⟩

theorem stream_completes (h : Handle) (rate : Nat) (start : Seconds) (chunks : List (List UInt8))
    (written : Nat) :
    (stream c h rate start written chunks).Completes .all (design c).moves (Streamed plan h)
      ⟨.play plan, .streaming h chunks, left + 1⟩ := by
  induction chunks generalizing written left with
  | nil =>
    refine Design.wait (fun _ => rfl) fun _ => ?_
    intro outcome _
    cases outcome with
    | cancelled => exact ⟨_, .turn .halt, Completes.done rfl⟩
    | timedOut => exact ⟨_, .turn .rested, Completes.done rfl⟩
  | cons chunk rest ih =>
    refine Design.wait (fun _ => rfl) fun now => ?_
    simp only [done_bind, bind_eq, pure_eq]
    -- With too much ahead the look is the end of a pause, else it is a read of the signal.
    split
    · intro outcome _
      exact afterLook_completes (decide (outcome = .cancelled)) (ih _)
    · intro stopped _
      exact afterLook_completes stopped (ih _)

/-- There is a connection for the format now, or the slot has to be left empty. -/
def Connected (plan : Plan SampleSpec) (s : Stage SampleSpec) (outcome : Except Failure Handle) : Prop :=
  match outcome with
  | .ok h => s = .reach (.play plan) (.streaming h plan.chunks)
  | .error _ => s = .reach (.play plan) .empty

theorem connect_completes :
    (connect c plan.spec).Completes .all (design c).moves (Connected plan) ⟨.play plan, .vacant, left⟩ := by
  intro outcome _
  cases outcome with
  | error failure => exact ⟨_, .turn .refused, Completes.done rfl⟩
  | ok h =>
    refine ⟨_, .turn .opened, ?_⟩
    intro outcome _
    cases outcome with
    | ok _ => exact ⟨_, .turn (.greeted rfl), Completes.done rfl⟩
    | error failure =>
      refine ⟨_, .turn (.ungreeted rfl), ?_⟩
      exact Design.turn _ (fun _ => .dropped) fun _ => Completes.done rfl

/-- There is a connection for the format now, or the slot has been left empty. -/
def Furnished (plan : Plan SampleSpec) (s : Stage SampleSpec) (outcome : Except PlayError Handle) : Prop :=
  match outcome with
  | .ok h => s = .reach (.play plan) (.streaming h plan.chunks)
  | .error e => Ends s (.error e)

/-- A new connection, while there is none. -/
theorem reconnect_completes :
    ((connect c plan.spec).bind fun outcome =>
      match outcome with
      | .ok h => .done (.ok h)
      | .error failure => do
        log .error ("pulse: unable to reconnect to server: " ++ failure.text)
        putConnection none
        return .error (.deviceOpen failure.text)).Completes .all (design c).moves (Furnished plan)
      ⟨.play plan, .vacant, left⟩ := by
  refine Completes.bind connect_completes ?_
  intro s outcome connected
  cases outcome with
  | ok h => exact Completes.done connected
  | error failure =>
    obtain rfl := connected
    refine Design.wait (fun _ => rfl) fun _ => ?_
    exact Design.turn _ (fun _ => .emptied) fun _ => Completes.done rfl

/-- What lies in the slot is used if it fits. -/
theorem take_completes {α : Type} {ends : Stage SampleSpec → α → Prop}
    {next : Except PlayError Handle → Action α} (track : Track)
    (rest : ∀ s outcome, Furnished plan s outcome →
      (next outcome).Completes .all (design c).moves ends s) :
    (takeConnection.bind fun current => (connectionFor c track plan.spec current).bind next).Completes .all
      (design c).moves ends ⟨.play plan, .ready, left⟩ := by
  intro current _
  rcases current with _ | ⟨spec, h⟩
  · refine ⟨_, .turn .unfilled, ?_⟩
    simp only [done_bind, connectionFor, pure_eq, bind_eq]
    exact Completes.bind reconnect_completes rest
  · by_cases fits : spec = plan.spec
    · subst fits
      refine ⟨_, .turn .found, ?_⟩
      simp only [done_bind, connectionFor, if_true, pure_eq, bind_eq]
      exact rest _ _ rfl
    · refine ⟨_, .turn (.foreign fits), ?_⟩
      simp only [done_bind, connectionFor, if_neg fits, pure_eq, bind_eq]
      refine Design.turn _ (fun _ => .released) fun _ => ?_
      refine Design.wait (fun _ => rfl) fun _ => ?_
      simp only [done_bind]
      exact Completes.bind reconnect_completes rest

theorem playTrack_completes (track : Track) (settings : PlaySettings) :
    (playTrack c track settings.order).Completes .all (design c).moves Ends
      (.reach (.play ((design c).plan track settings)) .ready) := by
  unfold playTrack
  refine Design.wait (fun _ => rfl) fun _ => ?_
  refine take_completes track ?_
  intro s outcome furnished
  cases outcome with
  | error e => exact Completes.done furnished
  | ok h =>
    obtain rfl := furnished
    refine Design.wait (fun _ => rfl) fun _ => ?_
    refine Design.wait (fun _ => rfl) fun start => ?_
    simp only [done_bind]
    refine Completes.bind (stream_completes h _ start _ 0) ?_
    intro s outcome streamed
    cases outcome with
    | ok stopped =>
      obtain rfl := streamed
      cases stopped with
      | true =>
        refine Design.wait (fun _ => rfl) fun _ => ?_
        exact Design.turn _ (fun _ => .kept) fun _ => Completes.done rfl
      | false => exact Design.turn _ (fun _ => .kept) fun _ => Completes.done rfl
    | error failure =>
      obtain rfl := streamed
      refine Design.turn _ (fun _ => .dropped) fun _ => ?_
      refine Design.wait (fun _ => rfl) fun _ => ?_
      exact Design.turn _ (fun _ => .emptied) fun _ => Completes.done rfl

theorem play_completes (track : Track) (settings : PlaySettings) :
    (play c track settings).Completes .all (design c).moves Ends
      (.enter ((design c).errand (.play track settings))) := by
  intro _ _
  by_cases accepted : (design c).accepts track = true
  · obtain ⟨⟨some, valid⟩, few⟩ := accepts_iff.1 accepted
    obtain ⟨width, valid⟩ := width_of_valid valid
    rw [Design.errand_of_accepts accepted]
    refine ⟨_, .turn .lower, ?_⟩
    simp only [done_bind, some, valid, Bool.false_eq_true, if_false, if_neg (Nat.not_lt.2 few)]
    exact playTrack_completes track settings
  · rw [Design.errand_of_refuses accepted]
    refine ⟨_, .turn .skip, ?_⟩
    simp only [done_bind]
    split
    · exact Completes.done trivial
    · next some =>
      cases checked : track.validate with
      | error e => exact Design.wait (fun _ => rfl) fun _ => Completes.done trivial
      | ok width =>
        have many : maxChannels < track.channels.toNat := by
          refine Nat.lt_of_not_le fun few => accepted (accepts_iff.2 ⟨⟨eq_false_of_ne_true some, ?_⟩, few⟩)
          rw [checked]
          rfl
        simp only [if_pos many]
        exact Completes.done trivial

theorem close_completes :
    (Command.program (output c) .close).Completes .all (design c).moves Ends (.enter .close) := by
  refine Design.turn _ (fun _ => .raise) fun _ => ?_
  intro found _
  rcases found with _ | ⟨spec, h⟩
  · refine ⟨_, .turn .closed, ?_⟩
    exact Design.turn _ (fun _ => .left) fun _ => Completes.done rfl
  · refine ⟨_, .turn .closing, ?_⟩
    refine Design.turn _ (fun _ => .released) fun _ => ?_
    refine Design.turn _ (fun _ => .left) fun _ => ?_
    exact Design.wait (fun _ => rfl) fun _ => Completes.done rfl

/-- The output keeps to the protocol. -/
def keeper (c : Config) : Keeper Simple.Interface SampleSpec where
  toDesign := design c
  completes command := by
    cases command with
    | play track settings => exact play_completes track settings
    | stop => exact Design.turn _ (fun _ => .stop) fun _ => Completes.done rfl
    | close => exact close_completes

end Playout.Simple
