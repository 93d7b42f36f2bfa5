import Playout.Proofs.Paced.Parts
import Playout.Proofs.Reporting

/-!
# `Playout.Proofs.Paced.Reporting` — the one failure of a paced playback that is not reported

A device that takes no byte of a write makes the playback fail without a message. Every other failure is told. The
messages of a play that are a notice or more severe all lead to a failure, but for one: that the device plays at
another rate.

## Contents
- `takesNothing`, `changesRate` — a write of which nothing is taken, and another rate.
- `Heard`, `hearing` — the protocol that listens for both.
- `Tells` — what has been heard when a program has failed.
- `play_tells` — a play has failed without a word exactly if the device took nothing, at the rate that was asked for.
-/

namespace Playout.Paced

open Interleaving Program

/-! ## The protocol -/

/-- The message that a request is, if any. -/
def Request.line? : Paced.Request → Option Line
  | .log line => some line
  | _ => none

/-- Whether a request is a message that is a notice or more severe. -/
abbrev isLoud (r : Paced.Request) : Bool := loud (I := Paced.Interface) Request.line? r

/-- Whether a request is a write of which no byte is taken. -/
def takesNothing : (r : Paced.Request) → Paced.Request.Answer r → Bool
  | .write _, some (.ok 0) => true
  | _, _ => false

/-- Whether another rate is granted than the one that was asked for. -/
def changesRate : (r : Paced.Request) → Paced.Request.Answer r → Bool
  | .configure _ wanted, .ok granted => granted.rate ≠ wanted.rate
  | _, _ => false

/-- What has been heard of a call. -/
structure Heard where
  /-- It has sent a notice or something more severe. -/
  told : Bool
  /-- No byte of a write was taken. -/
  blank : Bool
  /-- Another rate was granted than the one that was asked for. -/
  rerated : Bool

/-- What has been heard after one more request. -/
def Heard.next (heard : Heard) (r : Paced.Request) (answer : Paced.Request.Answer r) : Heard :=
  ⟨heard.told || isLoud r, heard.blank || takesNothing r answer, heard.rerated || changesRate r answer⟩

/-- The protocol that listens. -/
def hearing : Moves Paced.Interface Heard := fun heard r answer heard' => heard' = heard.next r answer

/-- What has been heard on a path. -/
theorem heard_of_path {trace : Trace Paced.Interface} {heard : Heard}
    (path : Path hearing ⟨false, false, false⟩ trace heard) :
    (heard.told = false ↔ ∀ x ∈ trace, isLoud x.1 = false) ∧
      (heard.blank = true ↔ ∃ x ∈ trace, takesNothing x.1 x.2 = true) ∧
      (heard.rerated = false ↔ ∀ x ∈ trace, changesRate x.1 x.2 = false) := by
  refine path.keeps (fun trace heard => (heard.told = false ↔ ∀ x ∈ trace, isLoud x.1 = false) ∧
      (heard.blank = true ↔ ∃ x ∈ trace, takesNothing x.1 x.2 = true) ∧
      (heard.rerated = false ↔ ∀ x ∈ trace, changesRate x.1 x.2 = false)) (by simp) ?_
  rintro trace heard r answer heard' ⟨told, blank, rerated⟩ rfl
  simp only [Heard.next, Bool.or_eq_false_iff, Bool.or_eq_true, told, blank, rerated]
  simp [or_imp, forall_and, exists_or, or_and_right]

theorem blank_iff {trace : Trace Paced.Interface} : (∃ x ∈ trace, takesNothing x.1 x.2 = true) ↔
    ∃ bytes, ⟨.write bytes, some (.ok 0)⟩ ∈ trace := by
  constructor
  · rintro ⟨⟨r, answer⟩, mem, nothing⟩
    cases r with
    | write bytes =>
      rcases answer with _ | failure | _ | n
      · cases nothing
      · cases nothing
      · exact ⟨bytes, mem⟩
      · cases nothing
    | _ => cases nothing
  · rintro ⟨bytes, mem⟩
    exact ⟨_, mem, rfl⟩

theorem sameRate_iff {trace : Trace Paced.Interface} : (∀ x ∈ trace, changesRate x.1 x.2 = false) ↔
    ∀ h wanted granted, ⟨.configure h wanted, .ok granted⟩ ∈ trace → granted.rate = wanted.rate := by
  constructor
  · intro same h wanted granted mem
    simpa [changesRate] using same _ mem
  · rintro same ⟨r, answer⟩ mem
    cases r with
    | configure h wanted =>
      rcases answer with failure | granted
      · rfl
      · simpa [changesRate] using same h wanted granted mem
    | _ => rfl

/-! ## Single requests -/

variable {α : Type} {c : Config} {h : Handle} {b : Bool} {heard : Heard}

/-- Whether a request is no such message, no write, and agrees on no rate. -/
def Request.calm : Paced.Request → Bool
  | .log line => !line.severity.passes .notice
  | .write _ | .configure .. => false
  | _ => true

theorem next_of_calm {r : Paced.Request} (calm : r.calm = true) (answer : Paced.Request.Answer r) :
    heard.next r answer = heard := by
  cases r with
  | log line =>
    have quiet : line.severity.passes .notice = false := by simpa [Request.calm] using calm
    simp [Heard.next, loud, Request.line?, takesNothing, changesRate, quiet]
  | write | configure => cases calm
  | _ => simp [Heard.next, loud, Request.line?, takesNothing, changesRate]

/-- A calm request. -/
theorem calmly {r : Paced.Request} {next : Paced.Request.Answer r → Action α} {ends : Heard → α → Prop}
    (calm : r.calm = true) (rest : ∀ answer, (next answer).Follows hearing ends heard) :
    (Program.ask r next).Follows hearing ends heard :=
  Follows.stay (fun answer => (next_of_calm calm answer).symm) rest

/-- A message that is a notice or more severe. -/
theorem loudly {line : Line} {next : Unit → Action α} {ends : Heard → α → Prop}
    (severe : line.severity.passes .notice = true)
    (rest : (next ()).Follows hearing ends { heard with told := true }) :
    (Program.ask (I := Paced.Interface) (.log line) next).Follows hearing ends heard := by
  intro answer
  refine ⟨_, rfl, ?_⟩
  have told : heard.next (.log line) answer = { heard with told := true } := by
    simp [Heard.next, loud, Request.line?, takesNothing, changesRate, severe]
  rw [told]
  exact rest

/-- A write. -/
theorem next_write {chunk : List UInt8} {answer : Option (Except Failure Nat)} :
    (⟨b, false, b⟩ : Heard).next (.write chunk) answer = ⟨b, takesNothing (.write chunk) answer, b⟩ := by
  simp [Heard.next, loud, Request.line?, changesRate]

/-! ## The programs -/

/-- What has been heard when a program has failed, or has not. When it began, something had been told exactly if another
    rate had been granted, and no write had been blank. -/
def Tells (b failed : Bool) (heard : Heard) : Prop :=
  if failed then heard = ⟨b, true, b⟩ ∨ heard = ⟨true, false, b⟩ else heard = ⟨b, false, b⟩

theorem writeChunk_tells (chunk : List UInt8) :
    (writeChunk chunk).Follows hearing (fun heard outcome => Tells b (!outcome.isOk) heard) ⟨b, false, b⟩ := by
  -- A write that fails, failing which the signal is looked at.
  have doubted (failure : Failure) : (excuse chunk failure).Follows hearing
      (fun heard outcome => Tells b (!outcome.isOk) heard) ⟨b, false, b⟩ := by
    refine calmly rfl fun stopped => ?_
    cases stopped with
    | true => exact Follows.done rfl
    | false => exact loudly rfl (Follows.done (.inr rfl))
  rintro (_ | failure | n)
  · exact ⟨_, next_write.symm, doubted slotEmpty⟩
  · exact ⟨_, next_write.symm, doubted failure⟩
  · cases n with
    | zero => exact ⟨_, next_write.symm, .inl rfl⟩
    | succ n => exact ⟨_, next_write.symm, rfl⟩

/-- Whether a round has failed. -/
def Round.isFailed : Round → Bool
  | failed _ => true
  | _ => false

/-- What a round has told when it ends. -/
abbrev RoundTells (b : Bool) (heard : Heard) (round : Round) : Prop := Tells b round.isFailed heard

theorem starve_tells (p : Progress) : (starve c p).Follows hearing (RoundTells b) ⟨b, false, b⟩ := by
  have asleep (since : Seconds) : (starveSince c p since).Follows hearing (RoundTells b) ⟨b, false, b⟩ := by
    refine calmly rfl fun moment => ?_
    simp only [done_bind]
    split
    · exact calmly rfl fun _ => loudly rfl (Follows.done (.inr rfl))
    · exact calmly rfl fun _ => calmly rfl fun _ => Follows.done rfl
  unfold starve
  cases p.starvedSince with
  | some since => exact asleep since
  | none => exact calmly rfl asleep

/-- The wait at the end of a round. -/
theorem waitOut_tells (text : String) (span : Seconds) (p : Progress) :
    (waitOut text span p).Follows hearing (RoundTells b) ⟨b, false, b⟩ := by
  refine calmly rfl fun _ => calmly rfl ?_
  rintro (_ | _)
  · exact calmly rfl fun _ => Follows.done rfl
  · exact Follows.done rfl

theorem fill_tells (frameBytes rate : Nat) (s : BufferSpace) (p : Progress) :
    (fill c frameBytes rate s p).Follows hearing (RoundTells b) ⟨b, false, b⟩ := by
  refine calmly rfl fun _ => ?_
  simp only [done_bind]
  refine Follows.bind (writeChunk_tells _) ?_
  rintro heard (e | written) tells
  · exact Follows.done tells
  · obtain rfl : heard = ⟨b, false, b⟩ := tells
    dsimp only
    split
    · refine calmly rfl fun _ => ?_
      simp only [done_bind]
      refine Follows.bind (writeChunk_tells _) ?_
      rintro heard (e | extra) tells
      · exact Follows.done tells
      · obtain rfl : heard = ⟨b, false, b⟩ := tells
        exact waitOut_tells _ _ _
    · exact waitOut_tells _ _ _

theorem round_tells (frameBytes rate : Nat) (p : Progress) :
    (round c frameBytes rate p).Follows hearing (RoundTells b) ⟨b, false, b⟩ := by
  have lost (failure : Failure) : (queryFailed failure).Follows hearing (RoundTells b) ⟨b, false, b⟩ :=
    loudly rfl (Follows.done (.inr rfl))
  refine calmly rfl fun stopped => ?_
  cases stopped with
  | true => exact Follows.done rfl
  | false =>
    refine calmly rfl ?_
    rintro (_ | failure | s)
    · exact lost slotEmpty
    · exact lost failure
    · simp only [Option.getD_some, done_bind]
      split
      · exact starve_tells p
      · exact fill_tells frameBytes rate s p

theorem settle_tells (lead : Option Rat) :
    (settle c lead).Follows hearing (fun heard _ => heard = ⟨b, false, b⟩) ⟨b, false, b⟩ := by
  unfold settle
  cases lead with
  | none => exact Follows.done rfl
  | some lead =>
    dsimp only
    split
    · exact calmly rfl fun _ => calmly rfl fun _ => Follows.done rfl
    · exact Follows.done rfl

/-- All failures of the loop are told, but for a blank write. -/
theorem stream_tells (frameBytes rate rounds : Nat) (p : Progress) : (stream c frameBytes rate rounds p).Follows hearing
    (fun heard outcome => Tells b (!outcome.isOk) heard) ⟨b, false, b⟩ := by
  induction rounds generalizing p with
  | zero => trivial
  | succ rounds ih =>
    unfold stream
    split
    · exact Follows.bind (settle_tells p.lead) fun _ _ same => Follows.done same
    · refine Follows.bind (round_tells frameBytes rate p) ?_
      rintro heard (p' | _ | e) tells
      · obtain rfl : heard = ⟨b, false, b⟩ := tells
        exact ih p'
      · exact Follows.done tells
      · exact Follows.done tells

/-- A call that has failed has told nothing exactly if a write was blank, and the rate was the one that was asked for. -/
def FailedTells (heard : Heard) (outcome : Except PlayError α) : Prop :=
  outcome.isOk = false → (heard.told = false ↔ heard.blank = true ∧ heard.rerated = false)

theorem failedTells_ok (a : α) : FailedTells heard (.ok a) := nofun

/-- Where no write has been blank, a failure that is told of at last has been told of. -/
theorem failedTells_told {rerated : Bool} (e : PlayError) : FailedTells ⟨true, false, rerated⟩ (.error e : Except _ α) := by
  simp [FailedTells]

/-- A request of which nothing is asked. -/
theorem whatever {r : Paced.Request} {next : Paced.Request.Answer r → Action α} {ends : Heard → α → Prop}
    (rest : ∀ answer heard, (next answer).Follows hearing ends heard) : (Program.ask r next).Follows hearing ends heard :=
  fun answer => ⟨_, rfl, rest answer _⟩

/-- What has been heard when the loop has failed is all that is heard of the call. -/
theorem failedTells_of_tells {e : PlayError} (tells : Tells b true heard) :
    FailedTells heard (.error e : Except _ α) := by
  rcases tells with rfl | rfl
  · cases b <;> simp [FailedTells]
  · exact failedTells_told e

theorem playBytes_tells (bytes : List UInt8) (frameBytes rate : Nat) :
    (playBytes c h bytes frameBytes rate).Follows hearing FailedTells ⟨b, false, b⟩ := by
  unfold playBytes
  have loop : (stream c frameBytes rate (enoughRounds c.pacing bytes.length) { rest := bytes }).Follows hearing
      (fun heard outcome => Tells b (!outcome.isOk) heard) ⟨b, false, b⟩ := stream_tells ..
  have playing : (playOut c bytes frameBytes rate).Follows hearing FailedTells ⟨b, false, b⟩ := by
    refine Follows.bind loop ?_
    rintro heard (e | stopped) tells
    · -- A failure is followed by nothing that is heard.
      refine calmly rfl ?_
      rintro (_ | h)
      · exact Follows.done (failedTells_of_tells tells)
      · exact calmly rfl fun _ => calmly rfl fun _ => Follows.done (failedTells_of_tells tells)
    · refine calmly rfl ?_
      rintro (_ | h)
      · exact Follows.done (failedTells_ok ())
      · refine calmly rfl ?_
        rintro (failure | _)
        · exact whatever fun _ _ => whatever fun _ _ => whatever fun _ _ => Follows.done (failedTells_ok ())
        · exact whatever fun _ _ => whatever fun _ _ => Follows.done (failedTells_ok ())
  refine calmly rfl ?_
  rintro (_ | other)
  · exact playing
  · exact calmly rfl fun _ => playing

/-- After the parameters have been agreed on, something has been told exactly if the rate is another one. -/
theorem negotiate_tells (wanted : StreamParams) : (negotiate h wanted).Follows hearing
    (fun heard outcome => FailedTells heard outcome ∧ (outcome.isOk = true → ∃ b, heard = ⟨b, false, b⟩))
    ⟨false, false, false⟩ := by
  have refused {rerated : Bool} (line : Line) (e : PlayError) (severe : line.severity.passes .notice = true) :
      ((Program.ask (.log line) .done : Action Unit).bind fun _ => .done (.error e)).Follows hearing
        (fun heard (outcome : Except PlayError StreamParams) =>
          FailedTells heard outcome ∧ (outcome.isOk = true → ∃ b, heard = ⟨b, false, b⟩)) ⟨false, false, rerated⟩ :=
    loudly severe (Follows.done ⟨failedTells_told e, nofun⟩)
  rintro (failure | granted)
  · exact ⟨_, rfl, refused _ _ rfl⟩
  · refine ⟨⟨false, false, granted.rate ≠ wanted.rate⟩, ?_, ?_⟩
    · simp [hearing, Heard.next, loud, Request.line?, takesNothing, changesRate]
    · simp only [done_bind]
      split
      · exact refused _ _ rfl
      · split
        · exact refused _ _ rfl
        · split
          · next other =>
            rw [decide_eq_true other]
            exact loudly rfl (Follows.done ⟨failedTells_ok _, fun _ => ⟨true, rfl⟩⟩)
          · next same =>
            rw [decide_eq_false same]
            exact Follows.done ⟨failedTells_ok _, fun _ => ⟨false, rfl⟩⟩

/-- **What is heard of a play that has failed.** -/
theorem play_tells (track : Track) (settings : PlaySettings) :
    (play c track settings).Follows hearing FailedTells ⟨false, false, false⟩ := by
  refine calmly rfl fun _ => ?_
  simp only [done_bind]
  split
  · exact Follows.done (failedTells_ok ())
  · split
    · exact loudly rfl (Follows.done (failedTells_told _))
    · refine calmly rfl ?_
      rintro (failure | h)
      · exact loudly rfl (Follows.done (failedTells_told _))
      · simp only [done_bind]
        refine Follows.bind (negotiate_tells _) ?_
        rintro heard (e | granted) ⟨failed, agreed⟩
        · refine calmly rfl fun _ => Follows.done failed
        · obtain ⟨b, rfl⟩ := agreed rfl
          exact calmly rfl fun _ => playBytes_tells _ _ _

/-- Of the plays that return an error, those say nothing of it that had a blank write, at the rate that was asked for. -/
theorem failsSilently (c : Config) : FailsSilently (output c) Request.line? fun _ trace =>
    (∃ bytes, ⟨.write bytes, some (.ok 0)⟩ ∈ trace) ∧
      ∀ h wanted granted, ⟨.configure h wanted, .ok granted⟩ ∈ trace → granted.rate = wanted.rate := by
  intro T σ _ commands answers shared history s t n track settings e run command returned
  have follow : (Transport.calls (output c) commands t n).Follows hearing FailedTells ⟨false, false, false⟩ := by
    unfold Transport.calls
    rw [command]
    exact play_tells track settings
  obtain ⟨heard, path, ended⟩ := run.path_of_returned follow returned
  obtain ⟨told, blank, rerated⟩ := heard_of_path path
  rw [silent_iff, ← told, ended rfl, blank, rerated, blank_iff, sameRate_iff]

end Playout.Paced
