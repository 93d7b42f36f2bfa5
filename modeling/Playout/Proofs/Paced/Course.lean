import Playout.Proofs.Paced.Delivery

/-!
# `Playout.Proofs.Paced.Course` — the course of a playback, round by round

The loop of a playback is followed here with all that it knows: what has not been counted as written, what it has written
since the last wait, the lead that is in force, and why it is going to be left. What each of its requests can be, and
where the answer leads, is said once. All that holds of the loop follows from that by going along its path.

## Contents
- `resting` — how long is waited once all is written.
- `Spot`, `Course` — the protocol.
- `Leaves` — where the loop is left, and with what outcome.
- `stream_course`, `course_of_path` — the loop keeps to the protocol.
-/

namespace Playout.Paced

open Interleaving Program

/-! ## The protocol -/

/-- What is left to wait for once all is written, if it is positive. -/
def resting (c : Config) (lead : Rat) : Rat := c.arithmetic.round (lead - c.arithmetic.number c.pacing.settle)

/-- Where the loop has come to. Of the bytes, `rest` has not been counted as written, `lead` is in force, and `written`
    bytes have been counted since the last wait. -/
inductive Spot where
  /-- About to begin a round, or to leave the loop. -/
  | head (rest : List UInt8) (lead : Option Rat)
  /-- There was no stop, and the free space is asked for. -/
  | cleared (rest : List UInt8) (lead : Option Rat)
  /-- Nothing is free. -/
  | starved (rest : List UInt8) (lead : Option Rat)
  /-- About to write a chunk, behind which a tail may follow in the same free space. -/
  | writing (tail : Option BufferSpace) (chunk : List UInt8) (written : Nat) (rest : List UInt8) (lead : Option Rat)
  /-- The write of the chunk has failed, and the signal tells whether that matters. -/
  | doubted (tail : Option BufferSpace) (chunk : List UInt8) (written : Nat) (rest : List UInt8) (lead : Option Rat)
  /-- The chunk has been counted. -/
  | filled (tail : Option BufferSpace) (written : Nat) (rest : List UInt8) (lead : Option Rat)
  /-- All is written, and the lead has been waited for. -/
  | rested (lead : Rat)
  /-- A stop has been seen. -/
  | stopped
  /-- The device has taken nothing. -/
  | blank (rest : List UInt8)
  /-- A write has failed, or the free space could not be told. -/
  | failed (rest : List UInt8)

/-- The requests that lead from spot to spot, when frames of `frameBytes` bytes are played at a rate. -/
inductive Course (c : Config) (frameBytes rate : Nat) :
    Spot → (r : Paced.Request) → Paced.Request.Answer r → Spot → Prop where
  | idle {x r answer} (idle : r.idle = true) : Course c frameBytes rate x r answer x
  -- A round begins with a look at the signal, as long as something is left.
  | clear {rest lead} (due : rest ≠ []) :
      Course c frameBytes rate (.head rest lead) .cancelled false (.cleared rest lead)
  | halt {rest lead} : Course c frameBytes rate (.head rest lead) .cancelled true .stopped
  -- The free space tells how the round goes on.
  | full {s rest lead} (full : s.isStarved = true) :
      Course c frameBytes rate (.cleared rest lead) .space (some (.ok s)) (.starved rest lead)
  | free {s rest lead} (free : s.isStarved = false) :
      Course c frameBytes rate (.cleared rest lead) .space (some (.ok s))
        (.writing (some s) (rest.take s.room) 0 rest lead)
  | lost {rest lead answer} (failed : ∀ s, answer ≠ some (.ok s)) :
      Course c frameBytes rate (.cleared rest lead) .space answer (.failed rest)
  | napped {rest lead span} : Course c frameBytes rate (.starved rest lead) (.nap span) () (.head rest lead)
  -- A chunk is counted by what the device takes of it, or as a whole if its write fails after a stop.
  | put {tail chunk written rest lead n} :
      Course c frameBytes rate (.writing tail chunk written rest lead) (.write chunk) (some (.ok (n + 1)))
        (.filled tail (written + (n + 1)) (rest.drop (n + 1)) lead)
  | refused {tail chunk written rest lead} :
      Course c frameBytes rate (.writing tail chunk written rest lead) (.write chunk) (some (.ok 0)) (.blank rest)
  | tore {tail chunk written rest lead answer} (failed : ∀ n, answer ≠ some (.ok n)) :
      Course c frameBytes rate (.writing tail chunk written rest lead) (.write chunk) answer
        (.doubted tail chunk written rest lead)
  | excused {tail chunk written rest lead} :
      Course c frameBytes rate (.doubted tail chunk written rest lead) .cancelled true
        (.filled tail (written + chunk.length) (rest.drop chunk.length) lead)
  | gaveUp {tail chunk written rest lead} :
      Course c frameBytes rate (.doubted tail chunk written rest lead) .cancelled false (.failed rest)
  -- What is left may be a tail, which goes out at once.
  | tail {s written rest lead line} (fits : tailFits s rest.length = true) :
      Course c frameBytes rate (.filled (some s) written rest lead) (.log line) () (.writing none rest written rest lead)
  -- The wait at the end of a round.
  | paced {tail written rest lead} (unfit : ∀ s, tail = some s → tailFits s rest.length = false) :
      Course c frameBytes rate (.filled tail written rest lead) (.pause (waitAfter c frameBytes rate written lead).1)
        .timedOut (.head rest (some (waitAfter c frameBytes rate written lead).2))
  | stopped {tail written rest lead} (unfit : ∀ s, tail = some s → tailFits s rest.length = false) :
      Course c frameBytes rate (.filled tail written rest lead) (.pause (waitAfter c frameBytes rate written lead).1)
        .cancelled .stopped
  -- The wait when all is written.
  | rested {lead} (due : 0 < resting c lead) :
      Course c frameBytes rate (.head [] (some lead)) (.pause (c.arithmetic.span (resting c lead))) .timedOut
        (.rested lead)
  | cutShort {lead} (due : 0 < resting c lead) :
      Course c frameBytes rate (.head [] (some lead)) (.pause (c.arithmetic.span (resting c lead))) .cancelled .stopped

/-- The protocol. -/
def course (c : Config) (frameBytes rate : Nat) : Moves Paced.Interface Spot :=
  fun x r answer x' => Course c frameBytes rate x r answer x'

/-- The text of the failure when a device takes nothing. -/
def tookNothing : PlayError := .writeFailed "device accepted no data"

/-- Where the loop is left, and with what outcome. -/
inductive Leaves (c : Config) : Spot → Except PlayError Bool → Prop where
  /-- No lead is left to wait for. -/
  | finished {lead} (settled : ∀ l, lead = some l → ¬ 0 < resting c l) : Leaves c (.head [] lead) (.ok false)
  | rested {lead} (due : 0 < resting c lead) : Leaves c (.rested lead) (.ok false)
  | stopped : Leaves c .stopped (.ok true)
  | blank {rest} : Leaves c (.blank rest) (.error tookNothing)
  | failed {rest e} : Leaves c (.failed rest) (.error e)
  | stalled {rest lead e} : Leaves c (.starved rest lead) (.error e)

/-! ## The loop -/

variable {α : Type} {c : Config} {frameBytes rate : Nat} {x : Spot} {ends : Spot → α → Prop} {rest : List UInt8}
  {lead : Option Rat}

/-- An idle request. -/
theorem idle_course {r : Paced.Request} {next : Paced.Request.Answer r → Action α} (idle : r.idle = true)
    (rest : ∀ answer, (next answer).Follows (course c frameBytes rate) ends x) :
    (Program.ask r next).Follows (course c frameBytes rate) ends x :=
  Follows.stay (fun _ => .idle idle) rest

/-- Where a round ends: at the head of the next one, or where the loop is left. -/
def RoundLeaves (c : Config) (x : Spot) : Round → Prop
  | .goOn p => x = .head p.rest p.lead
  | .stopped => x = .stopped
  | .failed e => Leaves c x (.error e)

/-- What has been written of a chunk is counted, or the loop is left. -/
def Counts (c : Config) (tail : Option BufferSpace) (written : Nat) (rest : List UInt8) (lead : Option Rat) (x : Spot) :
    Except PlayError Nat → Prop
  | .ok n => x = .filled tail (written + n) (rest.drop n) lead
  | .error e => Leaves c x (.error e)

theorem writeChunk_course {tail : Option BufferSpace} {written : Nat} (chunk : List UInt8) :
    (writeChunk chunk).Follows (course c frameBytes rate) (Counts c tail written rest lead)
      (.writing tail chunk written rest lead) := by
  have doubted (failure : Failure) : (excuse chunk failure).Follows (course c frameBytes rate)
      (Counts c tail written rest lead) (.doubted tail chunk written rest lead) := by
    rintro (_ | _)
    · exact ⟨_, .gaveUp, idle_course rfl fun _ => Follows.done .failed⟩
    · exact ⟨_, .excused, Follows.done rfl⟩
  rintro (_ | failure | n)
  · exact ⟨_, .tore nofun, doubted slotEmpty⟩
  · exact ⟨_, .tore nofun, doubted failure⟩
  · cases n with
    | zero => exact ⟨_, .refused, Follows.done .blank⟩
    | succ n => exact ⟨_, .put, Follows.done rfl⟩

theorem starve_course (p : Progress) :
    (starve c p).Follows (course c frameBytes rate) (RoundLeaves c) (.starved p.rest p.lead) := by
  have asleep (since : Seconds) : (starveSince c p since).Follows (course c frameBytes rate) (RoundLeaves c)
      (.starved p.rest p.lead) := by
    refine idle_course rfl fun moment => ?_
    simp only [done_bind]
    split
    · exact idle_course rfl fun _ => idle_course rfl fun _ => Follows.done .stalled
    · exact idle_course rfl fun _ _ => ⟨_, .napped, Follows.done rfl⟩
  unfold starve
  cases p.starvedSince with
  | some since => exact asleep since
  | none => exact idle_course rfl asleep

/-- The wait at the end of a round, when no tail follows. -/
theorem waitOut_course {tail : Option BufferSpace} {written : Nat}
    (unfit : ∀ s, tail = some s → tailFits s rest.length = false) (text : String) :
    (waitOut text (waitAfter c frameBytes rate written lead).1
      { rest, lead := some (waitAfter c frameBytes rate written lead).2 }).Follows
      (course c frameBytes rate) (RoundLeaves c) (.filled tail written rest lead) := by
  refine idle_course rfl fun _ => ?_
  rintro (_ | _)
  · exact ⟨_, .stopped unfit, idle_course rfl fun _ => Follows.done rfl⟩
  · exact ⟨_, .paced unfit, Follows.done rfl⟩

theorem fill_course {s : BufferSpace} (p : Progress) : (fill c frameBytes rate s p).Follows (course c frameBytes rate)
    (RoundLeaves c) (.writing (some s) (p.rest.take s.room) 0 p.rest p.lead) := by
  refine idle_course rfl fun _ => ?_
  simp only [done_bind]
  refine Follows.bind (writeChunk_course _) ?_
  rintro x (e | written) counted
  · exact Follows.done counted
  · obtain rfl : x = .filled (some s) (0 + written) (p.rest.drop written) p.lead := counted
    rw [Nat.zero_add]
    dsimp only
    split
    · next fits =>
      -- The tail goes out in the same round.
      refine fun _ => ⟨_, .tail fits, ?_⟩
      simp only [done_bind]
      refine Follows.bind (writeChunk_course _) ?_
      rintro x (e | extra) counted
      · exact Follows.done counted
      · obtain rfl : x = .filled none (written + extra) ((p.rest.drop written).drop extra) p.lead := counted
        refine waitOut_course ?_ _
        exact nofun
    · next unfit =>
      refine waitOut_course ?_ _
      rintro _ ⟨⟩
      exact Bool.not_eq_true _ ▸ unfit

theorem round_course (p : Progress) (due : p.rest ≠ []) : (round c frameBytes rate p).Follows
    (course c frameBytes rate) (RoundLeaves c) (.head p.rest p.lead) := by
  have lost (failure : Failure) : (queryFailed failure).Follows (course c frameBytes rate) (RoundLeaves c)
      (.failed p.rest) := idle_course rfl fun _ => Follows.done .failed
  rintro (_ | _)
  · refine ⟨_, .clear due, ?_⟩
    rintro (_ | failure | s)
    · exact ⟨_, .lost nofun, lost slotEmpty⟩
    · exact ⟨_, .lost nofun, lost failure⟩
    · simp only [Option.getD_some, done_bind]
      split
      · next full => exact ⟨_, .full full, starve_course p⟩
      · next free => exact ⟨_, .free (Bool.not_eq_true _ ▸ free), fill_course p⟩
  · exact ⟨_, .halt, Follows.done rfl⟩

theorem settle_course (lead : Option Rat) : (settle c lead).Follows (course c frameBytes rate)
    (fun x stopped => Leaves c x (.ok stopped)) (.head [] lead) := by
  unfold settle
  cases lead with
  | none => exact Follows.done (.finished nofun)
  | some lead =>
    dsimp only
    split
    · next due =>
      refine idle_course rfl fun _ => ?_
      rintro (_ | _)
      · exact ⟨_, .cutShort due, Follows.done .stopped⟩
      · exact ⟨_, .rested due, Follows.done (.rested due)⟩
    · next settled =>
      refine Follows.done (.finished ?_)
      rintro _ ⟨⟩
      exact settled

/-- **The loop keeps to its course.** -/
theorem stream_course (rounds : Nat) (p : Progress) : (stream c frameBytes rate rounds p).Follows
    (course c frameBytes rate) (Leaves c) (.head p.rest p.lead) := by
  induction rounds generalizing p with
  | zero => trivial
  | succ rounds ih =>
    unfold stream
    split
    · next none =>
      rw [List.isEmpty_iff.1 none]
      exact Follows.bind (settle_course p.lead) fun _ _ leaves => Follows.done leaves
    · next due =>
      refine Follows.bind (round_course p (mt List.isEmpty_iff.2 due)) ?_
      rintro x (p' | _ | e) leaves
      · obtain rfl : x = .head p'.rest p'.lead := leaves
        exact ih p'
      · obtain rfl : x = .stopped := leaves
        exact Follows.done .stopped
      · exact Follows.done leaves

/-- The course of a loop that has come to its end. -/
theorem course_of_path {rounds : Nat} {bytes : List UInt8} {trace : Trace Paced.Interface}
    {outcome : Except PlayError Bool}
    (path : Path goesOn (stream c frameBytes rate rounds { rest := bytes }) trace (.done outcome)) :
    ∃ x, Path (course c frameBytes rate) (.head bytes none) trace x ∧ Leaves c x outcome :=
  follows_goesOn path (stream_course rounds { rest := bytes })

end Playout.Paced
