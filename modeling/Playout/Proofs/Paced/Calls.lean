import Playout.Proofs.Paced.Delivery

/-!
# `Playout.Proofs.Paced.Calls` — a play is made of its loop and what stands around it

A play gets its device ready and puts it into the slot, then comes the loop, and then it takes the device out again. So
whatever is known of the loop by itself is known of the trace of a play.

## Contents
- `anyhow` — where only the end of a program matters.
- `prepare`, `play_eq` — a play up to its loop.
- `tidy`, `playOut_eq` — a play after its loop.
- `Early`, `Late`, `prepare_asks`, `tidy_asks` — what is asked before and after the loop.
- `Placed` — the device was put into the slot.
- `Stretches`, `stretches_of_path` — the stretches of a play's trace.
-/

namespace Playout.Paced

open Interleaving Program

variable {α : Type} {c : Config} {t : Track} {settings : PlaySettings}

/-- The protocol that says nothing of the requests, so that only the end of a program matters. -/
def anyhow : Moves Paced.Interface Unit := fun _ _ _ _ => True

/-- A request of which nothing is said. -/
theorem asks_anyhow {r : Paced.Request} {next : Paced.Request.Answer r → Action α} {ends : Unit → α → Prop}
    (rest : ∀ answer, (next answer).Follows anyhow ends ()) : (Program.ask r next).Follows anyhow ends () :=
  fun answer => ⟨(), trivial, rest answer⟩

/-! ## Before the loop -/

/-- A play up to where its device goes into the slot: how it has ended before that, or the device, the bytes of a frame
    and the rate. -/
def prepare (c : Config) (t : Track) (settings : PlaySettings) :
    Action (Except PlayError Unit ⊕ Handle × Nat × Nat) := do
  resetSignal
  if t.isEmpty then return .inl (.ok ())
  else
    match t.validate with
    | .error e =>
      log .error ("alsa: unrecognized sound data format: " ++ e.message)
      return .inl (.error e)
    | .ok width =>
      match ← openDevice c.device with
      | .error failure =>
        log .error ("alsa: cannot open " ++ c.device ++ ": " ++ failure.text)
        return .inl (.error (.deviceOpen failure.text))
      | .ok h =>
        match ← negotiate h (.ofTrack t) with
        | .error e =>
          releaseDevice h
          return .inl (.error e)
        | .ok granted =>
          log .info ("alsa: starting playback, " ++ toString (trackBytes t settings).length ++ " bytes ("
            ++ t.durationText ++ " s)")
          return .inr (h, width * t.channels.toNat, granted.rate.toNat)

/-- How a play goes on when it is prepared. -/
def playPrepared (c : Config) (bytes : List UInt8) :
    Except PlayError Unit ⊕ Handle × Nat × Nat → Action (Except PlayError Unit)
  | .inl result => .done result
  | .inr (h, frameBytes, rate) => playBytes c h bytes frameBytes rate

/-- A play is prepared, and then its bytes are played. -/
theorem play_eq (t : Track) (settings : PlaySettings) :
    play c t settings = (prepare c t settings).bind (playPrepared c (trackBytes t settings)) := by
  refine congrArg (Program.ask _) (funext fun _ => ?_)
  simp only [done_bind, pure_eq]
  split
  · rfl
  · cases t.validate with
    | error e => rfl
    | ok width =>
      refine congrArg (Program.ask _) (funext fun opened => ?_)
      cases opened with
      | error failure => rfl
      | ok h =>
        simp only [done_bind, bind_eq, bind_assoc]
        refine congrArg (Program.bind _) (funext fun agreed => ?_)
        cases agreed with
        | error e => rfl
        | ok granted => rfl

/-- What is asked before the loop. -/
def Request.early : Paced.Request → Bool
  | .log _ | .resetSignal | .openDevice _ | .configure .. | .releaseDevice _ | .install _ => true
  | _ => false

/-- Such a request. -/
abbrev Early (r : Paced.Request) : Prop := r.early = true

theorem negotiate_early {h : Handle} (wanted : StreamParams) : (negotiate h wanted).Asks Early := by
  refine ⟨rfl, ?_⟩
  rintro (failure | granted)
  · exact ⟨rfl, fun _ => trivial⟩
  · simp only [done_bind]
    split
    · exact ⟨rfl, fun _ => trivial⟩
    · split
      · exact ⟨rfl, fun _ => trivial⟩
      · split
        · exact ⟨rfl, fun _ => trivial⟩
        · trivial

theorem prepare_asks (t : Track) (settings : PlaySettings) : (prepare c t settings).Asks Early := by
  refine ⟨rfl, fun _ => ?_⟩
  simp only [done_bind]
  split
  · trivial
  · split
    · exact ⟨rfl, fun _ => trivial⟩
    · refine ⟨rfl, ?_⟩
      rintro (failure | h)
      · exact ⟨rfl, fun _ => trivial⟩
      · simp only [done_bind]
        refine Asks.bind (negotiate_early _) ?_
        rintro (e | granted)
        · exact ⟨rfl, fun _ => trivial⟩
        · exact ⟨rfl, fun _ => trivial⟩

/-- A play that has ended well before its loop had nothing to play. -/
theorem isEmpty_of_prepare {trace : Trace Paced.Interface}
    (path : Path goesOn (prepare c t settings) trace (.done (.inl (.ok ())))) : t.isEmpty = true := by
  have follow : (prepare c t settings).Follows anyhow (fun _ ended => ended = .inl (.ok ()) → t.isEmpty = true) () := by
    refine asks_anyhow fun _ => ?_
    simp only [done_bind]
    split
    · next empty => exact Follows.done fun _ => empty
    · split
      · exact asks_anyhow fun _ => Follows.done nofun
      · refine asks_anyhow fun opened => ?_
        cases opened with
        | error failure => exact asks_anyhow fun _ => Follows.done nofun
        | ok h =>
          simp only [done_bind]
          have agreed : (negotiate h (.ofTrack t)).Follows anyhow (fun _ _ => True) () :=
            Asks.follows (negotiate_early _) (fun _ _ => trivial) fun _ => trivial
          refine Follows.bind agreed ?_
          rintro _ (e | granted) -
          · exact asks_anyhow fun _ => Follows.done nofun
          · exact asks_anyhow fun _ => Follows.done nofun
  obtain ⟨_, -, ended⟩ := follows_goesOn path follow
  exact ended rfl

/-! ## After the loop -/

/-- A play after its loop: it takes the device out of the slot, has it play what it still holds unless the loop has
    failed, and closes it. -/
def tidy (outcome : Except PlayError Bool) : Action (Except PlayError Unit) := do
  match ← uninstall with
  | some h =>
    if outcome.isOk then
      match ← flush h with
      | .ok _ => pure ()
      | .error failure => log .warning ("alsa: flush failed: " ++ failure.text)
    releaseDevice h
    log .info "alsa: device closed"
  | none => pure ()
  return outcome.map fun _ => ()

theorem playOut_eq (bytes : List UInt8) (frameBytes rate : Nat) : playOut c bytes frameBytes rate =
    (stream c frameBytes rate (enoughRounds c.pacing bytes.length) { rest := bytes }).bind tidy := rfl

/-- What is asked after the loop. -/
def Request.late : Paced.Request → Bool
  | .log _ | .uninstall | .flush _ | .releaseDevice _ => true
  | _ => false

/-- Such a request. -/
abbrev Late (r : Paced.Request) : Prop := r.late = true

theorem tidy_asks (outcome : Except PlayError Bool) : (tidy outcome).Asks Late := by
  refine ⟨rfl, ?_⟩
  rintro (_ | h)
  · trivial
  · cases outcome with
    | error e => exact ⟨rfl, fun _ => ⟨rfl, fun _ => trivial⟩⟩
    | ok stopped =>
      refine ⟨rfl, ?_⟩
      rintro (failure | _)
      · exact ⟨rfl, fun _ => ⟨rfl, fun _ => ⟨rfl, fun _ => trivial⟩⟩⟩
      · exact ⟨rfl, fun _ => ⟨rfl, fun _ => trivial⟩⟩

/-- A play ends as its loop has. -/
theorem result_of_tidy {outcome : Except PlayError Bool} {result : Except PlayError Unit}
    {trace : Trace Paced.Interface} (path : Path goesOn (tidy outcome) trace (.done result)) :
    result = outcome.map fun _ => () := by
  have follow : (tidy outcome).Follows anyhow (fun _ result => result = outcome.map fun _ => ()) () := by
    refine asks_anyhow fun found => ?_
    cases found with
    | none => exact Follows.done rfl
    | some h =>
      have closing : (Program.ask (I := Paced.Interface) (.releaseDevice h) fun _ =>
          .ask (.log ⟨.info, "alsa: device closed"⟩) fun _ => .done (outcome.map fun _ => ())).Follows anyhow
            (fun _ result => result = outcome.map fun _ => ()) () :=
        asks_anyhow fun _ => asks_anyhow fun _ => Follows.done rfl
      cases outcome with
      | error e => exact closing
      | ok stopped =>
        refine asks_anyhow fun flushed => ?_
        cases flushed with
        | error failure => exact asks_anyhow fun _ => closing
        | ok _ => exact closing
  obtain ⟨_, -, ended⟩ := follows_goesOn path follow
  exact ended

/-- What comes after the loop is asked before a play has ended. -/
theorem bind_tidy_ne_done {q : Action (Except PlayError Bool)} {result : Except PlayError Unit} :
    q.bind tidy ≠ .done result := by
  cases q <;> nofun

/-! ## The stretches of a play -/

/-- Whether a request puts a device into the slot or takes it out. -/
def Request.places : Paced.Request → Bool
  | .install _ | .uninstall => true
  | _ => false

/-- The device `h` has been put into the slot, and not been taken out. -/
def Placed (h : Handle) (trace : Trace Paced.Interface) : Prop :=
  ∃ front answer back, trace = front ++ ⟨.install h, answer⟩ :: back ∧ ∀ x ∈ back, x.1.places = false

/-- The loop of a play, in as many rounds as it is given. -/
abbrev loopOf (c : Config) (t : Track) (settings : PlaySettings) (frameBytes rate : Nat) :
    Action (Except PlayError Bool) :=
  stream c frameBytes rate (enoughRounds c.pacing (trackBytes t settings).length) { rest := trackBytes t settings }

/-- The stretches of a play that has come to `p`. -/
inductive Stretches (c : Config) (t : Track) (settings : PlaySettings) :
    Trace Paced.Interface → Action (Except PlayError Unit) → Prop where
  /-- The loop has not begun. -/
  | before {trace p} (early : ∀ x ∈ trace, Early x.1) (empty : p = .done (.ok ()) → t.isEmpty = true) :
      Stretches c t settings trace p
  /-- The loop is running. -/
  | inside {h front loop frameBytes rate q} (early : ∀ x ∈ front, Early x.1) (placed : Placed h front)
      (path : Path goesOn (loopOf c t settings frameBytes rate) loop q) :
      Stretches c t settings (front ++ loop) (q.bind tidy)
  /-- The loop is over. -/
  | behind {h front loop back frameBytes rate outcome p} (early : ∀ x ∈ front, Early x.1) (placed : Placed h front)
      (path : Path goesOn (loopOf c t settings frameBytes rate) loop (.done outcome))
      (closing : Path goesOn (tidy outcome) back p) : Stretches c t settings (front ++ (loop ++ back)) p

/-- The device lies in the slot, and the loop comes next. -/
theorem stretches_of_playOut {h : Handle} {front trace : Trace Paced.Interface} {frameBytes rate : Nat}
    {p : Action (Except PlayError Unit)} (early : ∀ x ∈ front, Early x.1) (placed : Placed h front)
    (path : Path goesOn (playOut c (trackBytes t settings) frameBytes rate) trace p) :
    Stretches c t settings (front ++ trace) p := by
  rw [playOut_eq] at path
  rcases goesOn_bind path with ⟨q, loops, rfl⟩ | ⟨loop, back, outcome, rfl, loops, closing⟩
  · exact .inside early placed loops
  · exact .behind early placed loops closing

/-- **A play is made of three stretches.** -/
theorem stretches_of_path {trace : Trace Paced.Interface} {p : Action (Except PlayError Unit)}
    (path : Path goesOn (play c t settings) trace p) : Stretches c t settings trace p := by
  rw [play_eq] at path
  rcases goesOn_bind path with ⟨q, preparing, rfl⟩ | ⟨front, rest, ended, rfl, preparing, playing⟩
  · refine .before (asked_of_asks preparing (prepare_asks t settings)) fun done => ?_
    cases q with
    | ask => cases done
    | unfinished => cases done
    | done ended =>
      rcases ended with result | ⟨h, frameBytes, rate⟩
      · cases done
        exact isEmpty_of_prepare preparing
      · cases done
  · have early := asked_of_asks preparing (prepare_asks t settings)
    have earlier (between : Trace Paced.Interface) (few : ∀ x ∈ between, Early x.1) :
        ∀ x ∈ front ++ between, Early x.1 := by
      intro x mem
      rcases List.mem_append.1 mem with mem | mem
      · exact early x mem
      · exact few x mem
    rcases ended with result | ⟨h, frameBytes, rate⟩
    · obtain ⟨rfl, rfl⟩ := goesOn_done playing
      rw [List.append_nil]
      refine .before early ?_
      rintro ⟨⟩
      exact isEmpty_of_prepare preparing
    · rcases goesOn_ask playing with ⟨rfl, rfl⟩ | ⟨other, rest, rfl, installed⟩
      · rw [List.append_nil]
        exact .before early nofun
      · cases other with
        | none =>
          have parts : front ++ ⟨.install h, none⟩ :: rest = (front ++ [⟨.install h, none⟩]) ++ rest := by simp
          rw [parts]
          exact stretches_of_playOut (earlier _ (by simp [Early, Request.early])) ⟨front, none, [], rfl, nofun⟩
            installed
        | some other =>
          -- What lay in the slot before is closed.
          rcases goesOn_ask installed with ⟨rfl, rfl⟩ | ⟨_, rest, rfl, released⟩
          · exact .before (earlier _ (by simp [Early, Request.early])) nofun
          · have parts : front ++ ⟨.install h, some other⟩ :: ⟨.releaseDevice other, ()⟩ :: rest =
                (front ++ [⟨.install h, some other⟩, ⟨.releaseDevice other, ()⟩]) ++ rest := by simp
            rw [parts]
            refine stretches_of_playOut (earlier _ (by simp [Early, Request.early]))
              ⟨front, some other, [⟨.releaseDevice other, ()⟩], rfl, ?_⟩ released
            intro x mem
            obtain rfl := List.mem_singleton.1 mem
            rfl

end Playout.Paced
