import Playout.Proofs.Device.Announcing
import Playout.Proofs.Signalling

/-!
# `Playout.Proofs.Device.Relaying` — what a device passes on to its output

A device asks some things of itself, and passes on to its output what the output asks. So what the output has asked in a
call is what one of its programs asks, and a signal that the requests of the output touch is touched by nothing else.

## Contents
- `outputs`, `within_goesOn` — what the output has asked in the trace of a call.
- `Relays`, `outputs_of_play` — a play of a device is one of its output, or is turned away.
- `Relayed`, `program_asks` — what the other commands may ask.
- `relayed`, `signalled_relayed` — a signal of the output.
-/

namespace Playout.Device.Life

open Interleaving Program

variable {B : Playout.Interface} {α : Type} {o : Output B}

/-! ## What the output has asked -/

/-- What a request of a device asks of the output. -/
def output? : (Σ r : Device.Request B, Device.Request.Answer r) → Option (Σ r : B.Request, B.Answer r)
  | ⟨.output r, answer⟩ => some ⟨r, answer⟩
  | _ => none

/-- What the output has asked in the trace of a device. -/
def outputs (trace : Trace (Device.Interface B)) : Trace B := trace.filterMap output?

theorem outputs_append (front back : Trace (Device.Interface B)) :
    outputs (front ++ back) = outputs front ++ outputs back := List.filterMap_append

theorem mem_outputs {trace : Trace (Device.Interface B)} {r : B.Request} {answer : B.Answer r} :
    ⟨r, answer⟩ ∈ outputs trace ↔ ⟨.output r, answer⟩ ∈ trace := by
  unfold outputs
  rw [List.mem_filterMap]
  constructor
  · rintro ⟨⟨r', answer'⟩, mem, is⟩
    cases r' with
    | output =>
      cases is
      exact mem
    | _ => cases is
  · exact fun mem => ⟨_, mem, rfl⟩

/-- A program of the output goes on with what the output has asked. -/
theorem within_goesOn {p : Program B α} {q : Device.Action B α} {trace : Trace (Device.Interface B)}
    (path : Path goesOn (within p) trace q) : ∃ p', Path goesOn p (outputs trace) p' ∧ q = within p' := by
  induction p generalizing trace with
  | done result =>
    obtain ⟨rfl, rfl⟩ := goesOn_done path
    exact ⟨_, .start, rfl⟩
  | unfinished =>
    cases trace with
    | nil => exact ⟨_, .start, path.eq_of_nil⟩
    | cons first rest =>
      obtain ⟨r, answer⟩ := first
      obtain ⟨_, ⟨next, same, -⟩, -⟩ := path.head
      cases same
  | ask r next ih =>
    rcases goesOn_ask path with ⟨rfl, rfl⟩ | ⟨answer, rest, rfl, later⟩
    · exact ⟨_, .start, rfl⟩
    · obtain ⟨p', along, same⟩ := ih answer later
      exact ⟨p', along.cons ⟨next, rfl, rfl⟩, same⟩

/-! ## Plays -/

/-- What the output has asked in a play of a device: nothing, if the device was closed or the play has not come to its
    output, or what it asks in a play of its own, of the track in the order of the machine. -/
inductive Relays (o : Output B) (track : Track) (order : ByteOrder) (asked : Trace B)
    (q : Device.Action B (Except PlayError Unit)) : Prop where
  | away (nothing : asked = []) (closed : ∀ result, q = .done result → result = .error .closed)
  | through (settings : PlaySettings) (p : Program B (Except PlayError Unit)) (native : settings.order = .native)
      (path : Path goesOn (o.play (inOrder track order) settings) asked p)
      (same : ∀ result, q = .done result → p = .done result)

/-- A request that the device does not pass on. -/
theorem outputs_own {trace : Trace (Device.Interface B)} {r : Device.Request B} {answer : Device.Request.Answer r}
    (own : output? ⟨r, answer⟩ = none) : outputs (⟨r, answer⟩ :: trace) = outputs trace :=
  List.filterMap_cons_none own

/-- When the output has played, nothing more is asked of it. -/
theorem outputs_of_leaving {result : Except PlayError Unit} {trace : Trace (Device.Interface B)}
    {q : Device.Action B (Except PlayError Unit)}
    (path : Path goesOn ((setWorking false).bind fun _ => leave.bind fun _ => .done result) trace q) :
    outputs trace = [] ∧ ∀ result', q = .done result' → result' = result := by
  rcases goesOn_ask path with ⟨rfl, rfl⟩ | ⟨_, marked, rfl, unmarked⟩
  · exact ⟨rfl, fun _ done => by cases done⟩
  rcases goesOn_ask unmarked with ⟨rfl, rfl⟩ | ⟨_, left, rfl, ended⟩
  · exact ⟨rfl, fun _ done => by cases done⟩
  · obtain ⟨rfl, rfl⟩ := goesOn_done ended
    refine ⟨rfl, fun _ done => ?_⟩
    cases done
    rfl

/-- **A play of a device is one of its output, or is turned away.** -/
theorem outputs_of_play {track : Track} {order : ByteOrder} {trace : Trace (Device.Interface B)}
    {q : Device.Action B (Except PlayError Unit)} (path : Path goesOn (Device.play o track order) trace q) :
    Relays o track order (outputs trace) q := by
  rcases goesOn_ask path with ⟨rfl, rfl⟩ | ⟨entered, inside, rfl, after⟩
  · exact .away rfl fun _ done => by cases done
  cases entered with
  | false =>
    rcases goesOn_ask after with ⟨rfl, rfl⟩ | ⟨_, logged, rfl, turned⟩
    · exact .away rfl fun _ done => by cases done
    · obtain ⟨rfl, rfl⟩ := goesOn_done turned
      refine .away rfl fun result done => ?_
      cases done
      rfl
  | true =>
    rcases goesOn_ask after with ⟨rfl, rfl⟩ | ⟨_, marked, rfl, marking⟩
    · exact .away rfl fun _ done => by cases done
    rcases goesOn_ask marking with ⟨rfl, rfl⟩ | ⟨volume, told, rfl, telling⟩
    · exact .away rfl fun _ done => by cases done
    rw [outputs_own rfl, outputs_own rfl, outputs_own rfl]
    simp only [done_bind] at telling
    rcases goesOn_bind telling with ⟨_, playing, rfl⟩ | ⟨front, back, result, rfl, played, leaving⟩
    · -- The output is still playing.
      obtain ⟨p, along, rfl⟩ := within_goesOn playing
      refine .through ⟨volume, .native⟩ p rfl along fun result done => ?_
      cases p <;> cases done
    · obtain ⟨p, along, same⟩ := within_goesOn played
      obtain ⟨nothing, returns⟩ := outputs_of_leaving leaving
      rw [outputs_append, nothing, List.append_nil]
      refine .through ⟨volume, .native⟩ p rfl along fun result' done => ?_
      rw [returns result' done]
      cases p with
      | done => cases same; rfl
      | ask | unfinished => cases same

/-! ## Other commands -/

/-- What a device may ask if its output may ask what is allowed. -/
def Relayed (allowed : B.Request → Prop) : Device.Request B → Prop
  | .output r => allowed r
  | _ => True

theorem within_asks {allowed : B.Request → Prop} {p : Program B α} (asks : p.Asks allowed) :
    (within p).Asks (Relayed allowed) := by
  induction p with
  | done | unfinished => trivial
  | ask r next ih => exact ⟨asks.1, fun answer => ih answer (asks.2 answer)⟩

/-- What the commands of a device ask that do not play. -/
theorem program_asks {allowed : B.Request → Prop} (stop : o.stop.Asks allowed) (close : o.close.Asks allowed)
    (setVolume : ∀ volume, (o.setVolume volume).Asks allowed) (dropped : o.dropped.Asks allowed) {command : Command}
    (other : ∀ track order, command ≠ .play track order) : (command.program o).Asks (Relayed allowed) := by
  have closing : (Device.close o).Asks (Relayed allowed) := by
    refine ⟨trivial, fun first => ?_⟩
    cases first with
    | true =>
      simp only [done_bind, if_true]
      exact Asks.bind (within_asks close) fun _ => ⟨trivial, fun _ => trivial⟩
    | false => trivial
  cases command with
  | play track order => exact absurd rfl (other track order)
  | stop => exact Asks.bind (within_asks stop) fun _ => trivial
  | close => exact Asks.bind closing fun _ => trivial
  | setVolume volume =>
    show (Device.setVolume o volume).Asks (Relayed allowed)
    unfold Device.setVolume
    cases Sample.volumeInRange volume with
    | true =>
      refine ⟨trivial, fun _ => ?_⟩
      simp only [done_bind]
      exact Asks.bind (within_asks (setVolume volume)) fun _ => trivial
    | false => exact ⟨trivial, fun _ => trivial⟩
  | drop => exact Asks.bind (Asks.bind closing fun _ => within_asks dropped) fun _ => trivial

/-! ## Signals -/

variable {T : Type} {σ : Type}

/-- A request that is passed on. -/
theorem Answered.output {backend : Surroundings (fun _ : T => B) σ} {t : T} {r : B.Request} {answer : B.Answer r}
    {s : Shared} {w w' : σ} (answered : backend t r w answer w') :
    Answered backend t (.output r) (s, w) answer (s, w') := ⟨rfl, answered⟩

variable {touch : (r : B.Request) → B.Answer r → Touch}

/-- What a request does with a signal of the output. -/
def relayed (touch : (r : B.Request) → B.Answer r → Touch) : (r : Device.Request B) → Device.Request.Answer r → Touch
  | .output r, answer => touch r answer
  | _, _ => .none

/-- Beside a device the signal of its output is kept as well. -/
theorem signalled_relayed {backend : Surroundings (fun _ : T => B) σ} {raised : σ → Bool}
    (signalled : Signalled touch backend raised) :
    Signalled (relayed touch) (surroundings backend) fun s => raised s.2 where
  lower {t r s answer s'} answered lower := by
    cases r with
    | output r => exact signalled.lower answered.2 lower
    | _ => cases lower
  raise {t r s answer s'} answered raise := by
    cases r with
    | output r => exact signalled.raise answered.2 raise
    | _ => cases raise
  look {t r s answer s' stopped} answered look := by
    cases r with
    | output r => exact signalled.look answered.2 look
    | _ => cases look
  keep {t r s answer s'} answered none := by
    cases r with
    | output r => exact signalled.keep answered.2 none
    | log line =>
      have same : s' = s := answered
      rw [same]
    | _ =>
      have same : s'.2 = s.2 := answered.2
      rw [same]

end Playout.Device.Life
