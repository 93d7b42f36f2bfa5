import Playout.Proofs.Transport.World

/-!
# `Playout.Proofs.Transport.Protocol` — how a play keeps one stream open

A play takes the signal back, takes the slot and goes on with the stream that it finds there, if that was opened
for the format of its track; otherwise it releases what it finds and opens a new stream, which may have to begin
with a header. Before each chunk it looks at the signal. It puts the stream back unless a write has failed.

## Contents
- `Plan`, `Errand` — what a call is about to do.
- `Phase`, `Turn` — the protocol by its acts.
- `Stage`, `Move` — phases with the number of requests that may pass without a turn.
- `Ends` — where a call may end.
- `Design`, `Keeper` — an output seen through its acts, which keeps to the protocol.
-/

namespace Playout.Transport

open Interleaving

variable {Spec : Type}

/-! ## Errands -/

/-- The bytes a stream takes at once. -/
def chunkLength : Nat := 256

/-- What a play wants: a stream for a format, and chunks to write. -/
structure Plan (Spec : Type) where
  spec : Spec
  chunks : List (List UInt8)

/-- What a call is about to do. A play that has nothing to play, or a track that cannot be played, does not
    touch the slot. -/
inductive Errand (Spec : Type) where
  | play (plan : Plan Spec)
  | skip
  | stop
  | close

/-! ## The protocol -/

/-- Where a call stands. From `mismatched` to `empty` it holds the lock of the slot. -/
inductive Phase (Spec : Type) where
  | entered
  /-- The signal is as the call wants it. -/
  | ready
  /-- The slot held a stream that is not wanted, and the stream has to be released. -/
  | mismatched (h : Handle)
  | vacant
  /-- A new stream is open, and its header is due. -/
  | greeting (h : Handle)
  /-- About to look at the signal, with these chunks to write. -/
  | streaming (h : Handle) (rest : List (List UInt8))
  /-- There was no stop, and the next chunk is due. -/
  | cleared (h : Handle) (chunk : List UInt8) (rest : List (List UInt8))
  /-- The stream has to be put back. -/
  | leaving (h : Handle)
  /-- A write has failed, and the stream has to be released. -/
  | failing (h : Handle)
  /-- The slot has to be left empty. -/
  | empty
  /-- The slot is done with, and whether all went well. -/
  | gone (fine : Bool)

/-- Where a new stream leads: to its header if it needs one, else to the chunks. -/
def afterOpening (header : Spec → Option (List UInt8)) (plan : Plan Spec) (h : Handle) : Phase Spec :=
  match header plan.spec with
  | some _ => .greeting h
  | none => .streaming h plan.chunks

/-- The acts that lead from phase to phase, by the errand of the call. -/
inductive Turn (header : Spec → Option (List UInt8)) : Errand Spec → Phase Spec → Act Spec → Phase Spec → Prop where
  -- The signal comes first.
  | lower {plan} : Turn header (.play plan) .entered .lower .ready
  | skip : Turn header .skip .entered .lower .ready
  | stop : Turn header .stop .entered .raise (.gone true)
  | raise : Turn header .close .entered .raise .ready
  -- A stream in the slot is gone on with, or has to go.
  | found {plan h} : Turn header (.play plan) .ready (.take (some (plan.spec, h))) (.streaming h plan.chunks)
  | foreign {plan spec h} (other : spec ≠ plan.spec) :
      Turn header (.play plan) .ready (.take (some (spec, h))) (.mismatched h)
  | unfilled {plan} : Turn header (.play plan) .ready (.take none) .vacant
  | closing {spec h} : Turn header .close .ready (.take (some (spec, h))) (.mismatched h)
  | closed : Turn header .close .ready (.take none) .vacant
  | released {errand h} : Turn header errand (.mismatched h) (.release h) .vacant
  | left : Turn header .close .vacant (.put none) (.gone true)
  -- A new stream begins with its header.
  | opened {plan h} : Turn header (.play plan) .vacant (.opened h) (afterOpening header plan h)
  | refused {plan} : Turn header (.play plan) .vacant .refused .empty
  | greeted {plan h bytes} (due : header plan.spec = some bytes) :
      Turn header (.play plan) (.greeting h) (.write h bytes true) (.streaming h plan.chunks)
  | ungreeted {plan h bytes} (due : header plan.spec = some bytes) :
      Turn header (.play plan) (.greeting h) (.write h bytes false) (.failing h)
  -- Each chunk is written after a look at the signal.
  | goOn {plan h chunk rest} :
      Turn header (.play plan) (.streaming h (chunk :: rest)) (.look false) (.cleared h chunk rest)
  | halt {plan h rest} : Turn header (.play plan) (.streaming h rest) (.look true) (.leaving h)
  | rested {plan h} : Turn header (.play plan) (.streaming h []) (.look false) (.leaving h)
  | finished {plan h} :
      Turn header (.play plan) (.streaming h []) (.put (some (plan.spec, h))) (.gone true)
  | wrote {plan h chunk rest} :
      Turn header (.play plan) (.cleared h chunk rest) (.write h chunk true) (.streaming h rest)
  | tore {plan h chunk rest} :
      Turn header (.play plan) (.cleared h chunk rest) (.write h chunk false) (.failing h)
  -- The stream goes back, or the slot is left empty.
  | kept {plan h} : Turn header (.play plan) (.leaving h) (.put (some (plan.spec, h))) (.gone true)
  | dropped {plan h} : Turn header (.play plan) (.failing h) (.release h) .empty
  | emptied {plan} : Turn header (.play plan) .empty (.put none) (.gone false)

namespace Phase

/-- Whether the call holds the lock of the slot. -/
def inside : Phase Spec → Bool
  | entered | ready | gone _ => false
  | _ => true

/-- The stream that the call is using. -/
def hand : Phase Spec → Option Handle
  | greeting h | streaming h _ | cleared h _ _ | leaving h => some h
  | _ => none

/-- How many requests at most pass in a phase before one that leads on. -/
def patience : Phase Spec → Nat
  | streaming .. => 3
  | ready | mismatched _ | vacant | leaving _ | empty | gone _ => 1
  | _ => 0

/-- A call that uses a stream holds the lock. -/
theorem inside_of_hand {φ : Phase Spec} {h : Handle} (uses : φ.hand = some h) : φ.inside = true := by
  cases φ with
  | greeting | streaming | cleared | leaving => rfl
  | _ => cases uses

end Phase

/-- Where a call stands on its errand, and how many requests may still pass without a turn. -/
structure Stage (Spec : Type) where
  errand : Errand Spec
  phase : Phase Spec
  patience : Nat

/-- The beginning of a call. -/
def Stage.enter (errand : Errand Spec) : Stage Spec := ⟨errand, .entered, 0⟩

/-- The stage right after a turn. -/
def Stage.reach (errand : Errand Spec) (φ : Phase Spec) : Stage Spec := ⟨errand, φ, φ.patience⟩

/-- A turn, or a request that changes nothing. -/
inductive Move (header : Spec → Option (List UInt8)) : Stage Spec → Act Spec → Stage Spec → Prop where
  | turn {errand φ left act φ'} (turn : Turn header errand φ act φ') :
      Move header ⟨errand, φ, left⟩ act (.reach errand φ')
  | wait {errand φ left} : Move header ⟨errand, φ, left + 1⟩ .other ⟨errand, φ, left⟩

/-- The errand of a call does not change. -/
theorem Move.errand_eq {header : Spec → Option (List UInt8)} {s s' : Stage Spec} {act : Act Spec}
    (move : Move header s act s') : s'.errand = s.errand := by
  cases move <;> rfl

/-- A call may end where the slot is done with, and its result says whether all went well. One that plays
    nothing may end with anything, once the signal has been taken back. -/
def Ends (s : Stage Spec) (result : Except PlayError Unit) : Prop :=
  match s.phase with
  | .gone fine => result.isOk = fine
  | .ready => match s.errand with
    | .skip => True
    | _ => False
  | _ => False

/-! ## Outputs -/

/-- A valid track has a width. -/
theorem width_of_valid {track : Track} (valid : track.validate.isOk = true) : ∃ width, track.validate = .ok width := by
  cases checked : track.validate with
  | ok width => exact ⟨width, rfl⟩
  | error e =>
    rw [checked] at valid
    cases valid

/-- An output, and what its requests do to the slot, the signal and the streams. -/
structure Design (I : Interface) (Spec : Type) where
  output : Output I
  act : (r : I.Request) → I.Answer r → Act Spec
  /-- What a new stream begins with. -/
  header : Spec → Option (List UInt8)
  /-- The tracks that can be played. -/
  accepts : Track → Bool
  /-- The format that a track needs. -/
  spec : Track → ByteOrder → Spec
  form : Sample.EightBit

namespace Design

variable {I : Interface}

/-- The bytes of a track as they are to be written. -/
def bytes (d : Design I Spec) (track : Track) (settings : PlaySettings) : List UInt8 :=
  Sample.toBytes track.samples track.bits settings.order d.form

/-- What the play of a track wants. -/
def plan (d : Design I Spec) (track : Track) (settings : PlaySettings) : Plan Spec :=
  ⟨d.spec track settings.order, Sample.chunks chunkLength (d.bytes track settings)⟩

/-- What a command is about to do. -/
def errand (d : Design I Spec) : Command → Errand Spec
  | .play track settings => if d.accepts track then .play (d.plan track settings) else .skip
  | .stop => .stop
  | .close => .close

/-- The protocol, told by the requests of the output. -/
def moves (d : Design I Spec) : Moves I (Stage Spec) := fun s r answer s' => Move d.header s (d.act r answer) s'

theorem errand_of_accepts {d : Design I Spec} {track : Track} (accepted : d.accepts track = true)
    (settings : PlaySettings) : d.errand (.play track settings) = .play (d.plan track settings) := if_pos accepted

theorem errand_of_refuses {d : Design I Spec} {track : Track} (refused : ¬ d.accepts track = true)
    (settings : PlaySettings) : d.errand (.play track settings) = .skip := if_neg refused

/-- What plays a track is a play of an accepted one. -/
theorem errand_eq_play {d : Design I Spec} {command : Command} {plan : Plan Spec}
    (plays : d.errand command = .play plan) :
    ∃ track settings, command = .play track settings ∧ d.accepts track = true ∧
      plan = d.plan track settings := by
  cases command with
  | play track settings =>
    unfold errand at plays
    by_cases accepted : d.accepts track = true
    · simp only [accepted, if_true, Errand.play.injEq] at plays
      exact ⟨track, settings, rfl, accepted, plays.symm⟩
    · simp [accepted] at plays
  | stop | close => cases plays

/-- The chunks of a play are its bytes, in order. -/
theorem flatten_plan (d : Design I Spec) (track : Track) (settings : PlaySettings) :
    (d.plan track settings).chunks.flatten = d.bytes track settings :=
  Sample.flatten_chunks _ _

/-! ### Single requests -/

variable {d : Design I Spec} {α : Type} {s : Stage Spec} {r : I.Request} {next : I.Answer r → Program I α}
  {ends : Stage Spec → α → Prop}

/-- A request whose act is a turn, whatever the answer. -/
theorem turn {errand : Errand Spec} {φ : Phase Spec} {left : Nat} (φ' : Phase Spec)
    (turns : ∀ answer, Turn d.header errand φ (d.act r answer) φ')
    (rest : ∀ answer, (next answer).Completes .all d.moves ends (.reach errand φ')) :
    (Program.ask r next).Completes .all d.moves ends ⟨errand, φ, left⟩ :=
  Program.Completes.ask _ (fun answer => .turn (turns answer)) rest

/-- A request that does nothing to the slot, the signal and the streams. -/
theorem wait {errand : Errand Spec} {φ : Phase Spec} {left : Nat} (idle : ∀ answer, d.act r answer = .other)
    (rest : ∀ answer, (next answer).Completes .all d.moves ends ⟨errand, φ, left⟩) :
    (Program.ask r next).Completes .all d.moves ends ⟨errand, φ, left + 1⟩ := by
  refine Program.Completes.ask _ ?_ rest
  intro answer
  show Move d.header _ (d.act r answer) _
  rw [idle answer]
  exact .wait

end Design

/-- An output that keeps to the protocol. -/
structure Keeper (I : Interface) (Spec : Type) extends Design I Spec where
  completes : ∀ command : Command,
    (command.program output).Completes .all toDesign.moves Ends (.enter (toDesign.errand command))

end Playout.Transport
