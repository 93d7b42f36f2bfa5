import Playout.Proofs.Sequence.Memories

/-!
# `Playout.Proofs.Paced.Lodging` — where the device of a playback lies

A play opens a device, agrees on its parameters, and puts it into the slot for as long as it writes. Then it takes the
device out and closes it. Between two calls nothing lies in the slot.

## Contents
- `Lodging`, `Lodges` — the protocol.
- `Request.looping`, `stream_asks` — what the loop asks for; it leaves the device where it is.
- `playBytes_follows`, `play_follows`, `lodges_follow` — the programs keep to the protocol.
- `Lodging.Fits`, `Lodges.fits` — what the protocol says of the slot while nobody else uses it.
- `run_unlodged` — a call leaves the slot empty.
-/

namespace Playout.Paced

open Sequence Transport Program

/-! ## The protocol -/

/-- Where the device of a call lies. -/
inductive Lodging where
  /-- No device is open. -/
  | away
  | holding (h : Handle)
  /-- It lies in the slot. -/
  | lodged (h : Handle)
  /-- The slot has not given what was put there. -/
  | lost

/-- Whether a request leaves the device where it is, and in the slot if it reaches it. -/
def Request.settled : Paced.Request → Bool
  | .openDevice _ | .configure .. | .releaseDevice _ | .flush _ | .install _ | .uninstall => false
  | _ => true

/-- Whether a request is one of those that the loop makes. -/
def Request.looping : Paced.Request → Bool
  | .log _ | .cancelled | .pause _ | .clock | .nap _ | .space | .write _ => true
  | _ => false

/-- Such a request. -/
abbrev Looping (r : Paced.Request) : Prop := r.looping = true

/-- The loop leaves the device where it is. -/
theorem settled_of_looping {r : Paced.Request} (looping : Looping r) : r.settled = true := by
  cases r with
  | openDevice | configure | releaseDevice | flush | install | uninstall => cases looping
  | _ => rfl

/-- What the requests do to the device. -/
inductive Lodges : Lodging → (r : Paced.Request) → Paced.Request.Answer r → Lodging → Prop where
  | settled {x r answer} (settled : r.settled = true) : Lodges x r answer x
  | opened {device h} : Lodges .away (.openDevice device) (.ok h) (.holding h)
  | refused {device failure} : Lodges .away (.openDevice device) (.error failure) .away
  | configured {h wanted answer} : Lodges (.holding h) (.configure h wanted) answer (.holding h)
  | flushed {h answer} : Lodges (.holding h) (.flush h) answer (.holding h)
  | released {h} : Lodges (.holding h) (.releaseDevice h) () .away
  | installed {h} : Lodges (.holding h) (.install h) none (.lodged h)
  | uninstalled {h} : Lodges (.lodged h) .uninstall (some h) (.holding h)
  | bare : Lodges .away .uninstall none .away
  -- What cannot happen while nobody else uses the slot.
  | crowded {h other} : Lodges (.holding h) (.install h) (some other) .lost
  | taken {h answer} (other : answer ≠ some h) : Lodges (.lodged h) .uninstall answer .lost
  | found {h} : Lodges .away .uninstall (some h) .lost
  | lost {r answer} : Lodges .lost r answer .lost

/-- The protocol. -/
def lodges : Moves Paced.Interface Lodging := fun x r answer x' => Lodges x r answer x'

/-- Where a call may end. -/
def Unlodged (x : Lodging) : Prop := x = .away ∨ x = .lost

/-! ## The loop -/

variable {c : Config} {h : Handle}

theorem writeChunk_asks (chunk : List UInt8) : (writeChunk chunk).Asks Looping := by
  have doubted (failure : Failure) : (cancelled.bind fun stopped =>
      if stopped then .done (.ok chunk.length) else do
        log .error ("alsa: write failed: " ++ failure.text)
        return .error (.writeFailed failure.text) : Action (Except PlayError Nat)).Asks Looping := by
    refine ⟨rfl, fun stopped => ?_⟩
    cases stopped with
    | true => trivial
    | false => exact ⟨rfl, fun _ => trivial⟩
  refine ⟨rfl, ?_⟩
  rintro (_ | failure | n)
  · exact doubted slotEmpty
  · exact doubted failure
  · cases n with
    | zero => trivial
    | succ => trivial

theorem starve_asks (p : Progress) : (starve c p).Asks Looping := by
  have asleep (since : Seconds) : (do
      let waited := (← clock) - since
      if c.pacing.maxFragmentWait < waited then
        let millis := (((← clock) - since) : Seconds).wholeMillis
        log .error ("alsa: no free fragment for " ++ toString millis ++ " ms, giving up")
        return .failed (.deviceStalled millis)
      else
        log .debug "alsa: not enough space for a single fragment, looping"
        nap napLength
        return .goOn { p with starvedSince := some since } : Action Round).Asks Looping := by
    refine ⟨rfl, fun moment => ?_⟩
    simp only [done_bind]
    split
    · exact ⟨rfl, fun _ => ⟨rfl, fun _ => trivial⟩⟩
    · exact ⟨rfl, fun _ => ⟨rfl, fun _ => trivial⟩⟩
  unfold starve
  cases p.starvedSince with
  | some since => exact asleep since
  | none => exact ⟨rfl, asleep⟩

/-- The wait at the end of a round. -/
theorem waitOut_asks (text : String) (span : Seconds) (p : Progress) :
    (do
      log .debug text
      match ← pause span with
      | .cancelled =>
        log .info "alsa: playback stopped"
        return .stopped
      | .timedOut => return .goOn p : Action Round).Asks Looping := by
  refine ⟨rfl, fun _ => ⟨rfl, ?_⟩⟩
  rintro (_ | _)
  · exact ⟨rfl, fun _ => trivial⟩
  · trivial

theorem fill_asks (frameBytes rate : Nat) (s : BufferSpace) (p : Progress) :
    (fill c frameBytes rate s p).Asks Looping := by
  refine ⟨rfl, fun _ => ?_⟩
  simp only [done_bind]
  refine Asks.bind (writeChunk_asks _) ?_
  rintro (e | written)
  · trivial
  · dsimp only
    split
    · refine ⟨rfl, fun _ => ?_⟩
      simp only [done_bind]
      refine Asks.bind (writeChunk_asks _) ?_
      rintro (e | extra)
      · trivial
      · exact waitOut_asks _ _ _
    · exact waitOut_asks _ _ _

theorem round_asks (frameBytes rate : Nat) (p : Progress) : (round c frameBytes rate p).Asks Looping := by
  have lost (failure : Failure) : (do
      log .error ("alsa: buffer space query failed: " ++ failure.text)
      return .failed (.deviceQuery failure.text) : Action Round).Asks Looping :=
    ⟨rfl, fun _ => trivial⟩
  refine ⟨rfl, fun stopped => ?_⟩
  cases stopped with
  | true => trivial
  | false =>
    refine ⟨rfl, ?_⟩
    rintro (_ | failure | s)
    · exact lost slotEmpty
    · exact lost failure
    · simp only [Option.getD_some, done_bind]
      split
      · exact starve_asks p
      · exact fill_asks frameBytes rate s p

theorem settle_asks (lead : Option Rat) : (settle c lead).Asks Looping := by
  unfold settle
  cases lead with
  | none => trivial
  | some lead =>
    dsimp only
    split
    · exact ⟨rfl, fun _ => ⟨rfl, fun _ => trivial⟩⟩
    · trivial

/-- All that the loop asks for. -/
theorem stream_asks (frameBytes rate rounds : Nat) (p : Progress) :
    (stream c frameBytes rate rounds p).Asks Looping := by
  induction rounds generalizing p with
  | zero => trivial
  | succ rounds ih =>
    unfold stream
    split
    · exact Asks.bind (settle_asks p.lead) fun _ => trivial
    · refine Asks.bind (round_asks frameBytes rate p) ?_
      rintro (p' | _ | e)
      · exact ih p'
      · trivial
      · trivial

/-! ## The calls -/

/-- A request that leaves the device where it is. -/
theorem settles {α : Type} {x : Lodging} {ends : Lodging → α → Prop} {r : Paced.Request}
    {next : Paced.Request.Answer r → Action α} (settled : r.settled = true)
    (rest : ∀ answer, (next answer).Follows lodges ends x) : (Program.ask r next).Follows lodges ends x :=
  Follows.stay (fun _ => .settled settled) rest

/-- Once the slot is no longer what it should be, nothing more is said. -/
theorem lost_follows {α : Type} (p : Action α) : p.Follows lodges (fun x _ => Unlodged x) .lost := by
  induction p with
  | done => exact Follows.done (.inr rfl)
  | unfinished => trivial
  | ask r next ih => exact Follows.stay (fun _ => .lost) ih

theorem playBytes_follows (bytes : List UInt8) (frameBytes rate : Nat) :
    (playBytes c h bytes frameBytes rate).Follows lodges (fun x _ => Unlodged x) (.holding h) := by
  rintro (_ | other)
  · refine ⟨_, .installed, ?_⟩
    simp only [done_bind, bind_eq, pure_eq]
    -- The loop runs while the device lies in the slot.
    have loop (rounds : Nat) (p : Progress) : (stream c frameBytes rate rounds p).Follows lodges
        (fun x _ => x = .lodged h) (.lodged h) := by
      apply Asks.follows (stream_asks frameBytes rate rounds p)
      · intro r looping answer
        exact .settled (settled_of_looping looping)
      · intro result
        rfl
    refine Follows.bind (loop _ _) ?_
    rintro _ outcome rfl answer
    by_cases same : answer = some h
    · subst same
      refine ⟨_, .uninstalled, ?_⟩
      have closing : (Program.ask (I := Paced.Interface) (.releaseDevice h) fun _ =>
          .ask (.log ⟨.info, "alsa: device closed"⟩) fun _ => .done (outcome.map fun _ => ())).Follows lodges
            (fun x _ => Unlodged x) (.holding h) :=
        fun _ => ⟨_, .released, settles rfl fun _ => Follows.done (.inl rfl)⟩
      cases outcome with
      | error e => exact closing
      | ok stopped =>
        refine Follows.stay (fun _ => .flushed) ?_
        rintro (failure | _)
        · exact settles rfl fun _ => closing
        · exact closing
    · exact ⟨_, .taken same, lost_follows _⟩
  · exact ⟨_, .crowded, lost_follows _⟩

theorem negotiate_follows (wanted : StreamParams) :
    (negotiate h wanted).Follows lodges (fun x _ => x = .holding h) (.holding h) := by
  refine Follows.stay (fun _ => .configured) ?_
  have told {α : Type} (line : Line) (result : α) :
      ((Program.ask (.log line) .done : Action Unit).bind fun _ => .done result).Follows lodges
        (fun x _ => x = .holding h) (.holding h) :=
    settles rfl fun _ => Follows.done rfl
  rintro (failure | granted)
  · exact told _ _
  · simp only [done_bind]
    split
    · exact told _ _
    · split
      · exact told _ _
      · split
        · exact told _ _
        · exact Follows.done rfl

theorem play_follows (track : Track) (settings : PlaySettings) :
    (play c track settings).Follows lodges (fun x _ => Unlodged x) .away := by
  refine settles rfl fun _ => ?_
  simp only [done_bind]
  split
  · exact Follows.done (.inl rfl)
  · split
    · exact settles rfl fun _ => Follows.done (.inl rfl)
    · rintro (failure | h)
      · exact ⟨_, .refused, settles rfl fun _ => Follows.done (.inl rfl)⟩
      · refine ⟨_, .opened, ?_⟩
        simp only [done_bind]
        refine Follows.bind (negotiate_follows _) ?_
        rintro _ (e | granted) rfl
        · exact fun _ => ⟨_, .released, Follows.done (.inl rfl)⟩
        · exact settles rfl fun _ => playBytes_follows _ _ _

theorem close_follows : close.Follows lodges (fun x _ => Unlodged x) .away := by
  refine settles rfl ?_
  rintro _ (_ | h)
  · exact ⟨_, .bare, Follows.done (.inl rfl)⟩
  · exact ⟨_, .found, lost_follows _⟩

theorem stop_follows : stop.Follows lodges (fun x _ => Unlodged x) .away := by
  refine settles rfl fun _ => settles rfl fun _ => settles rfl ?_
  rintro (_ | failure | _)
  · exact Follows.done (.inl rfl)
  · exact settles rfl fun _ => Follows.done (.inl rfl)
  · exact Follows.done (.inl rfl)

/-- Every command keeps to the protocol. -/
theorem lodges_follow (c : Config) (command : Command) :
    (command.program (output c)).Follows lodges (fun x _ => Unlodged x) .away := by
  cases command with
  | play track settings => exact play_follows track settings
  | stop => exact Follows.bind stop_follows fun _ _ unlodged => Follows.done unlodged
  | close => exact Follows.bind close_follows fun _ _ unlodged => Follows.done unlodged

/-! ## The slot -/

/-- What lies in the slot. -/
def Lodging.Fits : Lodging → Memory → Prop
  | away, m | holding _, m => m.slot = none
  | lodged h, m => m.slot = some h
  | lost, _ => False

variable {native : Native Paced.Interface} {x x' : Lodging} {r : Paced.Request} {answer : Paced.Request.Answer r}
  {s s' : Memory × List (Made Paced.Interface)}

/-- No request waits for a lock. -/
theorem answered (native : Native Paced.Interface) (r : Paced.Request) (s : Memory × List (Made Paced.Interface)) :
    ∃ answer s', react deal native r s = some (answer, s') := by
  obtain ⟨⟨signal, slot⟩, made⟩ := s
  cases r with
  | space | write | resetDevice =>
    cases slot with
    | none => exact ⟨_, _, rfl⟩
    | some h => exact ⟨_, _, rfl⟩
  | _ => exact ⟨_, _, rfl⟩

/-- A request that leaves the device where it is leaves the slot as it is. -/
theorem slot_of_settled (settled : r.settled = true) (told : react deal native r s = some (answer, s')) :
    s'.1.slot = s.1.slot := by
  obtain ⟨⟨signal, slot⟩, made⟩ := s
  cases r with
  | openDevice | configure | releaseDevice | flush | install | uninstall => cases settled
  | space | write | resetDevice =>
    cases slot with
    | none =>
      cases told
      rfl
    | some h =>
      cases told
      rfl
  | _ =>
    cases told
    rfl

/-- Whoever uses the slot alone finds there what it has put there. -/
theorem Lodges.fits (move : Lodges x r answer x') (fits : x.Fits s.1)
    (told : react deal native r s = some (answer, s')) : x'.Fits s'.1 := by
  obtain ⟨m, made⟩ := s
  cases move with
  | settled settled =>
    have same := slot_of_settled settled told
    cases x with
    | away | holding | lodged => exact same.trans fits
    | lost => exact fits
  | lost => exact fits
  | opened | refused | configured | flushed | released =>
    obtain ⟨m', dealt, rfl⟩ | ⟨handed, dealt, rfl⟩ := react_cases told
    · cases dealt
    · exact fits
  -- The other answers are what lies in the slot.
  | installed | uninstalled | bare =>
    obtain ⟨m', dealt, rfl⟩ | ⟨handed, dealt, rfl⟩ := react_cases told
    · injection dealt with _ left
      subst left
      rfl
    · cases dealt
  | crowded | found =>
    obtain ⟨m', dealt, rfl⟩ | ⟨handed, dealt, rfl⟩ := react_cases told
    · injection dealt with found
      cases found.symm.trans fits
    · cases dealt
  | taken other =>
    obtain ⟨m', dealt, rfl⟩ | ⟨handed, dealt, rfl⟩ := react_cases told
    · injection dealt with found
      exact other (found.symm.trans fits)
    · cases dealt

/-- **A call leaves the slot empty.** -/
theorem run_unlodged {command : Command} {result : Except PlayError Unit} (empty : s.1.slot = none)
    (yields : Yields (output c) deal native s command (.finished result) s') : s'.1.slot = none := by
  obtain ⟨x, fits, ended⟩ := run_keeps (react deal native) (fun x s => x.Fits s.1) (lodges_follow c command) empty
    (fun _ _ => answered native _ _) fun fits move told => move.fits fits told
  rw [yields] at fits ended
  rcases ended with rfl | rfl
  · exact fits
  · cases fits

end Playout.Paced
