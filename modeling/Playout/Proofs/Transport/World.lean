import Playout.Proofs.Traces
import Playout.Output
import Playout.Sample.Bytes
import Playout.Sample.Chunks

/-!
# `Playout.Proofs.Transport.World` — outputs that keep one stream open

Some outputs hold a single native stream from track to track: it lies in a slot behind a lock, a play takes the
lock and keeps it until the track is over, and a stop does not touch the slot but sets a signal. What such an
output asks is seen here as an act on that common ground, whatever its own requests look like.

## Contents
- `Act` — what a request does, with its answer.
- `World`, `Answered` — the slot, the signal and the streams, and what becomes of them.
- `Command`, `calls` — what threads have an output do.
- `answers` — the surroundings of an output, by its acts.
- `Entry`, `journal` — the acts of a run and the calls they belong to.
-/

namespace Playout.Transport

open Interleaving

/-! ## Acts -/

/-- What a request of an output does, with its answer. A stream is opened for a format in `Spec`. -/
inductive Act (Spec : Type) where
  /-- The signal is taken back. -/
  | lower
  /-- The signal is set. -/
  | raise
  /-- The signal is looked at. -/
  | look (stopped : Bool)
  /-- The slot is locked, with what lies in it. -/
  | take (found : Option (Spec × Handle))
  /-- The slot is filled and unlocked. -/
  | put (kept : Option (Spec × Handle))
  | opened (h : Handle)
  /-- No stream could be opened. -/
  | refused
  | release (h : Handle)
  /-- Bytes go to a stream, all of them or only some. -/
  | write (h : Handle) (bytes : List UInt8) (whole : Bool)
  | other

/-! ## The world -/

/-- What the threads that use an output share, and what has become of its streams. -/
structure World (T Spec : Type) where
  slot : Option (Spec × Handle) := none
  /-- Who holds the lock of the slot. -/
  holder : Option T := none
  /-- Whether the signal is set. -/
  raised : Bool := false
  /-- All streams that were ever opened. -/
  opened : List Handle := []
  /-- Those that have not been released. -/
  live : List Handle := []
  /-- What has come over each stream. -/
  sent : Handle → List UInt8 := fun _ => []

variable {T Spec : Type}

/-- More bytes come over a stream. -/
def World.deliver (w : World T Spec) (h : Handle) (bytes : List UInt8) : World T Spec :=
  { w with sent := Function.update w.sent h (w.sent h ++ bytes) }

/-- What becomes of the world by an act of a thread. Whoever takes the slot waits until nobody holds it. No
    handle is ever given out twice, and a write that fails has sent some first part of its bytes. -/
inductive Answered (t : T) : World T Spec → Act Spec → World T Spec → Prop where
  | lower {w} : Answered t w .lower { w with raised := false }
  | raise {w} : Answered t w .raise { w with raised := true }
  | look {w stopped} (same : stopped = w.raised) : Answered t w (.look stopped) w
  | take {w found} (free : w.holder = none) (same : found = w.slot) :
      Answered t w (.take found) { w with holder := some t }
  | put {w kept} : Answered t w (.put kept) { w with slot := kept, holder := none }
  | opened {w h} (fresh : h ∉ w.opened) :
      Answered t w (.opened h) { w with opened := h :: w.opened, live := h :: w.live }
  | refused {w} : Answered t w .refused w
  | release {w h} : Answered t w (.release h) { w with live := w.live.filter (· ≠ h) }
  | wrote {w h bytes} : Answered t w (.write h bytes true) (w.deliver h bytes)
  | tore {w h bytes part} (first : part <+: bytes) :
      Answered t w (.write h bytes false) (w.deliver h part)
  | other {w} : Answered t w .other w

@[simp] theorem World.deliver_holder (w : World T Spec) (h : Handle) (bytes : List UInt8) :
    (w.deliver h bytes).holder = w.holder := rfl

theorem World.deliver_sent_self (w : World T Spec) (h : Handle) (bytes : List UInt8) :
    (w.deliver h bytes).sent h = w.sent h ++ bytes := Function.update_self ..

theorem World.deliver_sent_other (w : World T Spec) {h g : Handle} (other : g ≠ h) (bytes : List UInt8) :
    (w.deliver h bytes).sent g = w.sent g := Function.update_of_ne other ..

/-! ## Commands -/

/-- What a thread can have an output do. -/
inductive Command where
  | play (track : Track) (settings : PlaySettings)
  | stop
  | close

variable {I : Interface}

/-- The program of a command; stopping and closing always succeed. -/
def Command.program (o : Output I) : Command → Program I (Except PlayError Unit)
  | .play track settings => o.play track settings
  | .stop => o.stop.bind fun _ => .done (.ok ())
  | .close => o.close.bind fun _ => .done (.ok ())

/-- The calls of threads that give an output one command after another. -/
def calls (o : Output I) (commands : T → Nat → Command) :
    Calls (fun _ : T => I) fun _ : T => Except PlayError Unit :=
  fun t n => (commands t n).program o

/-- The surroundings of an output whose requests are the acts `act`. -/
def answers (act : (r : I.Request) → I.Answer r → Act Spec) :
    Surroundings (fun _ : T => I) (World T Spec) :=
  fun t r w answer w' => Answered t w (act r answer) w'

/-! ## The journal of a run -/

/-- An act, and the call that it belongs to. -/
structure Entry (T Spec : Type) where
  call : T × Nat
  act : Act Spec

/-- The act that an event is, if any. -/
def entryOf {α : Type} (act : (r : I.Request) → I.Answer r → Act Spec) :
    Event (fun _ : T => I) (fun _ : T => α) → Option (Entry T Spec)
  | .asked t n r answer => some ⟨(t, n), act r answer⟩
  | .returned .. => none

/-- The acts of a run, in order. -/
def journal {α : Type} (act : (r : I.Request) → I.Answer r → Act Spec) (history : History T I α) :
    List (Entry T Spec) :=
  history.filterMap (entryOf act)

variable {α : Type} {act : (r : I.Request) → I.Answer r → Act Spec}

@[simp] theorem journal_append (before after : History T I α) :
    journal act (before ++ after) = journal act before ++ journal act after := List.filterMap_append

@[simp] theorem journal_asked (t : T) (n : Nat) (r : I.Request) (answer : I.Answer r) :
    journal act ([.asked t n r answer] : History T I α) = [⟨(t, n), act r answer⟩] := rfl

@[simp] theorem journal_returned (t : T) (n : Nat) (result : α) :
    journal act ([.returned t n result] : History T I α) = [] := rfl

/-- The acts of a call are those of its trace. -/
theorem mem_journal_iff [DecidableEq T] {history : History T I α} {t : T} {n : Nat} {a : Act Spec} :
    ⟨(t, n), a⟩ ∈ journal act history ↔ ∃ x ∈ own t n history, act x.1 x.2 = a := by
  unfold journal
  rw [List.mem_filterMap]
  constructor
  · rintro ⟨event, mem, is⟩
    cases event with
    | asked u m r answer =>
      cases is
      exact ⟨⟨r, answer⟩, mem_own.2 mem, rfl⟩
    | returned => cases is
  · rintro ⟨⟨r, answer⟩, mem, rfl⟩
    exact ⟨_, mem_own.1 mem, rfl⟩

end Playout.Transport
