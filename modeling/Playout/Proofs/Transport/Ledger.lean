import Playout.Proofs.Transport.Protocol

/-!
# `Playout.Proofs.Transport.Ledger` — what has come over a stream

A stream carries its header and then one piece for each play on it. A play comes to a stream when it finds it in
the slot, opened for the format of its track, or when it opens it. Its piece ends between two chunks, unless a
write fails, which ends the stream as well.

## Contents
- `Ledger` — the errands of the calls and all acts so far.
- `Ledger.plays`, `Ledger.Fails`, `Ledger.Saw`, `Ledger.Established` — who has played on a stream, which write
  failed, who saw a stop, and whether anything has come through.
- `Piece`, `Clean`, `Torn`, `Carries` — what has come over a stream, play by play.
- `Healthy`, `Broken`, `Mute`, `Underway` — what may be said of a stream, by what is done with it.
- `Ledger.Aside` — entries that do not concern a stream, and that they change nothing of it.
- `Healthy.board`, `Unused.open`, `Fresh.greet`, `Underway.write`, `Underway.leave`, `Underway.tear` — what a play
  does to its stream.
-/

namespace Playout.Transport

variable {T Spec : Type}

/-- What is known of a run: how new streams begin, the errands of all calls, the streams that there were before,
    and the acts so far. -/
structure Ledger (T Spec : Type) where
  header : Spec → Option (List UInt8)
  errands : T → Nat → Errand Spec
  given : List Handle
  entries : List (Entry T Spec)

/-- A part of what has come over a stream, and the play that it is from. -/
structure Piece (T : Type) where
  call : T × Nat
  bytes : List UInt8

namespace Ledger

/-- One more act. -/
def add (l : Ledger T Spec) (e : Entry T Spec) : Ledger T Spec := { l with entries := l.entries ++ [e] }

@[simp] theorem add_header (l : Ledger T Spec) (e : Entry T Spec) : (l.add e).header = l.header := rfl

/-- The errand of a call is to play. -/
def Wants (l : Ledger T Spec) (call : T × Nat) (plan : Plan Spec) : Prop :=
  l.errands call.1 call.2 = .play plan

/-- A call has seen a stop. -/
def Saw (l : Ledger T Spec) (call : T × Nat) : Prop := ⟨call, .look true⟩ ∈ l.entries

/-- A write of a call to a stream has failed. -/
def Fails (l : Ledger T Spec) (h : Handle) (call : T × Nat) : Prop :=
  ∃ bytes, ⟨call, .write h bytes false⟩ ∈ l.entries

/-- Something has come through: the stream was there before, or a write to it has succeeded. -/
def Established (l : Ledger T Spec) (h : Handle) : Prop :=
  h ∈ l.given ∨ ∃ call bytes, ⟨call, .write h bytes true⟩ ∈ l.entries

end Ledger

section Boarding

variable [DecidableEq Spec]

/-- The stream that a play goes on with by an act: the one it finds, if that fits, or the one it opens. -/
def Act.boards (plan : Plan Spec) : Act Spec → Option Handle
  | .take (some (spec, h)) => if spec = plan.spec then some h else none
  | .opened h => some h
  | _ => none

@[simp] theorem Act.boards_take (plan : Plan Spec) (spec : Spec) (h : Handle) :
    (Act.take (some (spec, h))).boards plan = if spec = plan.spec then some h else none := rfl

/-- Whether it is by this act that a play comes to the stream. -/
def Entry.boards (errands : T → Nat → Errand Spec) (h : Handle) (e : Entry T Spec) : Bool :=
  match errands e.call.1 e.call.2 with
  | .play plan => decide (e.act.boards plan = some h)
  | _ => false

/-- An act by which no play comes to a stream. -/
theorem Entry.boards_eq_false {errands : T → Nat → Errand Spec} {h : Handle} {e : Entry T Spec}
    (stays : ∀ plan, e.act.boards plan ≠ some h) : e.boards errands h = false := by
  unfold Entry.boards
  split
  · next plan _ => exact decide_eq_false (stays plan)
  · rfl

/-- The act by which a play comes to a stream. -/
theorem Entry.boards_of_wants {l : Ledger T Spec} {h : Handle} {e : Entry T Spec} {plan : Plan Spec}
    (wants : l.Wants e.call plan) (comes : e.act.boards plan = some h) : e.boards l.errands h = true := by
  unfold Entry.boards
  unfold Ledger.Wants at wants
  rw [wants]
  exact decide_eq_true comes

/-- A play does not come to a stream of another format. -/
theorem Entry.boards_of_foreign {l : Ledger T Spec} {h g : Handle} {call : T × Nat} {plan : Plan Spec}
    {spec : Spec} (wants : l.Wants call plan) (other : spec ≠ plan.spec) :
    Entry.boards l.errands g (⟨call, .take (some (spec, h))⟩ : Entry T Spec) = false := by
  unfold Entry.boards
  unfold Ledger.Wants at wants
  simp [wants, other]

theorem Entry.boards_write (errands : T → Nat → Errand Spec) (h g : Handle) (call : T × Nat)
    (bytes : List UInt8) (whole : Bool) :
    Entry.boards errands h (⟨call, .write g bytes whole⟩ : Entry T Spec) = false :=
  boards_eq_false fun _ => nofun

/-- The plays on a stream, in order. -/
def Ledger.plays (l : Ledger T Spec) (h : Handle) : List (T × Nat) :=
  (l.entries.filter (·.boards l.errands h)).map (·.call)

theorem Ledger.plays_add (l : Ledger T Spec) (e : Entry T Spec) (h : Handle) :
    (l.add e).plays h = l.plays h ++ if e.boards l.errands h then [e.call] else [] := by
  unfold plays add
  simp only [List.filter_append, List.map_append]
  congr 1
  by_cases comes : e.boards l.errands h = true
  · simp [comes]
  · simp [comes]

end Boarding

/-! ## Pieces -/

/-- A piece that ends between two chunks: they are the first of its play, and all of them unless the play has
    seen a stop. -/
def Clean (l : Ledger T Spec) (spec : Spec) (p : Piece T) : Prop :=
  ∃ plan done rest, l.Wants p.call plan ∧ plan.spec = spec ∧ plan.chunks = done ++ rest ∧
    p.bytes = done.flatten ∧ (rest = [] ∨ l.Saw p.call)

/-- A piece with which its stream ends, since a write has failed. -/
def Torn (l : Ledger T Spec) (spec : Spec) (h : Handle) (p : Piece T) : Prop :=
  ∃ plan, l.Wants p.call plan ∧ plan.spec = spec ∧ p.bytes <+: plan.chunks.flatten ∧ l.Fails h p.call

variable [DecidableEq Spec]

/-- What has come over a stream is the header and one piece for each play, in order. -/
structure Carries (l : Ledger T Spec) (spec : Spec) (h : Handle) (sent : List UInt8)
    (pieces : List (Piece T)) : Prop where
  sent_eq : sent = (l.header spec).getD [] ++ (pieces.map (·.bytes)).flatten
  plays_eq : pieces.map (·.call) = l.plays h

/-- A stream that can be played on: every piece of it ends between two chunks, and no write has failed. -/
def Healthy (l : Ledger T Spec) (spec : Spec) (h : Handle) (sent : List UInt8) : Prop :=
  ∃ pieces, Carries l spec h sent pieces ∧ (∀ p ∈ pieces, Clean l spec p) ∧ ∀ call, ¬ l.Fails h call

/-- A stream that has ended with a write that failed. -/
def Broken (l : Ledger T Spec) (spec : Spec) (h : Handle) (sent : List UInt8) : Prop :=
  ∃ pieces last, Carries l spec h sent (pieces ++ [last]) ∧ (∀ p ∈ pieces, Clean l spec p) ∧
    Torn l spec h last ∧ ∀ call, l.Fails h call → call = last.call

/-- A stream whose header has not come through. -/
def Mute (l : Ledger T Spec) (h : Handle) (sent : List UInt8) : Prop :=
  ¬ l.Established h ∧ ∃ call plan header, l.Wants call plan ∧ l.header plan.spec = some header ∧
    sent <+: header ∧ l.plays h = [call] ∧ l.Fails h call

/-- A stream that no play is using. -/
def Settled (l : Ledger T Spec) (h : Handle) (sent : List UInt8) : Prop :=
  (∃ spec, Healthy l spec h sent ∨ Broken l spec h sent) ∨ Mute l h sent

/-- A stream that nobody has played on. -/
def Unused (l : Ledger T Spec) (h : Handle) : Prop :=
  ¬ l.Established h ∧ l.plays h = [] ∧ ∀ call, ¬ l.Fails h call

/-- A stream that a play has just opened, with its header still due. -/
def Fresh (l : Ledger T Spec) (call : T × Nat) (h : Handle) (sent : List UInt8) : Prop :=
  ¬ l.Established h ∧ sent = [] ∧ l.plays h = [call] ∧ ∀ other, ¬ l.Fails h other

/-- A stream that a play is using, with these chunks of its track still to come. -/
def Underway (l : Ledger T Spec) (call : T × Nat) (plan : Plan Spec) (h : Handle) (sent : List UInt8)
    (rest : List (List UInt8)) : Prop :=
  ∃ pieces done, plan.chunks = done ++ rest ∧
    Carries l plan.spec h sent (pieces ++ [⟨call, done.flatten⟩]) ∧
    (∀ p ∈ pieces, Clean l plan.spec p) ∧ ∀ other, ¬ l.Fails h other

/-! ## Entries that do not concern a stream -/

/-- By this entry nobody comes to the stream or writes to it. -/
def Entry.Aside (l : Ledger T Spec) (h : Handle) (e : Entry T Spec) : Prop :=
  e.boards l.errands h = false ∧ ∀ bytes whole, e.act ≠ .write h bytes whole

section Aside

variable {l : Ledger T Spec} {e : Entry T Spec} {h : Handle} {spec : Spec} {sent : List UInt8}
  {call : T × Nat} {plan : Plan Spec} {pieces : List (Piece T)} {p : Piece T}

theorem plays_aside (aside : e.Aside l h) : (l.add e).plays h = l.plays h := by
  rw [Ledger.plays_add, aside.1]
  exact List.append_nil _

omit [DecidableEq Spec] in
/-- A write has failed before, or fails now. -/
theorem Ledger.fails_add :
    (l.add e).Fails h call ↔ l.Fails h call ∨ ∃ bytes, e = ⟨call, .write h bytes false⟩ := by
  constructor
  · rintro ⟨bytes, failed⟩
    rcases List.mem_append.1 failed with before | now
    · exact .inl ⟨bytes, before⟩
    · exact .inr ⟨bytes, (List.mem_singleton.1 now).symm⟩
  · rintro (⟨bytes, before⟩ | ⟨bytes, rfl⟩)
    · exact ⟨bytes, List.mem_append_left _ before⟩
    · exact ⟨bytes, List.mem_append_right _ List.mem_cons_self⟩

theorem fails_aside (aside : e.Aside l h) : (l.add e).Fails h call ↔ l.Fails h call := by
  rw [Ledger.fails_add]
  refine or_iff_left ?_
  rintro ⟨bytes, rfl⟩
  exact aside.2 bytes false rfl

omit [DecidableEq Spec] in
/-- Only a write that succeeds makes a stream one over which something has come. -/
theorem Ledger.established_add (writes : ∀ bytes, e.act ≠ .write h bytes true) :
    (l.add e).Established h ↔ l.Established h := by
  unfold Ledger.Established Ledger.add
  refine or_congr_right ⟨?_, ?_⟩
  · rintro ⟨call, bytes, mem⟩
    rcases List.mem_append.1 mem with before | now
    · exact ⟨call, bytes, before⟩
    · exact absurd (congrArg Entry.act (List.mem_singleton.1 now)).symm (writes bytes)
  · rintro ⟨call, bytes, before⟩
    exact ⟨call, bytes, List.mem_append_left _ before⟩

theorem established_aside (aside : e.Aside l h) : (l.add e).Established h ↔ l.Established h :=
  Ledger.established_add fun bytes => aside.2 bytes true

omit [DecidableEq Spec] in
theorem Clean.add (clean : Clean l spec p) : Clean (l.add e) spec p := by
  obtain ⟨plan, done, rest, wants, same, chunks, bytes, reason⟩ := clean
  exact ⟨plan, done, rest, wants, same, chunks, bytes, reason.imp_right (List.mem_append_left _)⟩

omit [DecidableEq Spec] in
theorem Torn.add (torn : Torn l spec h p) : Torn (l.add e) spec h p := by
  obtain ⟨plan, wants, same, bytes, fails⟩ := torn
  exact ⟨plan, wants, same, bytes, Ledger.fails_add.2 (.inl fails)⟩

theorem Carries.aside (carries : Carries l spec h sent pieces) (aside : e.Aside l h) :
    Carries (l.add e) spec h sent pieces :=
  ⟨carries.sent_eq, carries.plays_eq.trans (plays_aside aside).symm⟩

theorem Healthy.aside (healthy : Healthy l spec h sent) (aside : e.Aside l h) :
    Healthy (l.add e) spec h sent := by
  obtain ⟨pieces, carries, clean, fine⟩ := healthy
  refine ⟨pieces, carries.aside aside, fun p mem => (clean p mem).add, ?_⟩
  intro call
  rw [fails_aside aside]
  exact fine call

theorem Broken.aside (broken : Broken l spec h sent) (aside : e.Aside l h) :
    Broken (l.add e) spec h sent := by
  obtain ⟨pieces, last, carries, clean, torn, only⟩ := broken
  refine ⟨pieces, last, carries.aside aside, fun p mem => (clean p mem).add, torn.add, ?_⟩
  intro call fails
  exact only call ((fails_aside aside).1 fails)

theorem Mute.aside (mute : Mute l h sent) (aside : e.Aside l h) : Mute (l.add e) h sent := by
  obtain ⟨silent, call, plan, header, wants, due, part, plays, fails⟩ := mute
  refine ⟨?_, call, plan, header, wants, due, part, (plays_aside aside).trans plays,
    Ledger.fails_add.2 (.inl fails)⟩
  rwa [established_aside aside]

theorem Settled.aside (settled : Settled l h sent) (aside : e.Aside l h) : Settled (l.add e) h sent := by
  rcases settled with ⟨spec, healthy | broken⟩ | mute
  · exact .inl ⟨spec, .inl (healthy.aside aside)⟩
  · exact .inl ⟨spec, .inr (broken.aside aside)⟩
  · exact .inr (mute.aside aside)

theorem Unused.aside (unused : Unused l h) (aside : e.Aside l h) : Unused (l.add e) h := by
  obtain ⟨silent, plays, fine⟩ := unused
  refine ⟨?_, (plays_aside aside).trans plays, ?_⟩
  · rwa [established_aside aside]
  · intro call
    rw [fails_aside aside]
    exact fine call

theorem Fresh.aside (fresh : Fresh l call h sent) (aside : e.Aside l h) : Fresh (l.add e) call h sent := by
  obtain ⟨silent, nothing, plays, fine⟩ := fresh
  refine ⟨?_, nothing, (plays_aside aside).trans plays, ?_⟩
  · rwa [established_aside aside]
  · intro other
    rw [fails_aside aside]
    exact fine other

theorem Underway.aside {rest : List (List UInt8)} (underway : Underway l call plan h sent rest)
    (aside : e.Aside l h) : Underway (l.add e) call plan h sent rest := by
  obtain ⟨pieces, done, chunks, carries, clean, fine⟩ := underway
  refine ⟨pieces, done, chunks, carries.aside aside, fun p mem => (clean p mem).add, ?_⟩
  intro other
  rw [fails_aside aside]
  exact fine other

end Aside

/-! ## What a play does to its stream -/

section Playing

variable {l : Ledger T Spec} {h : Handle} {sent : List UInt8} {call : T × Nat} {plan : Plan Spec}

/-- The play comes to a stream that lay in the slot. -/
theorem Healthy.board {act : Act Spec} (healthy : Healthy l plan.spec h sent)
    (wants : l.Wants call plan) (boards : act.boards plan = some h)
    (writes : ∀ bytes whole, act ≠ .write h bytes whole) :
    Underway (l.add ⟨call, act⟩) call plan h sent plan.chunks := by
  obtain ⟨pieces, carries, clean, fine⟩ := healthy
  have comes : Entry.boards l.errands h ⟨call, act⟩ = true := Entry.boards_of_wants wants boards
  -- The play has a piece of its own from now on, which is empty yet.
  refine ⟨pieces, [], rfl, ⟨?_, ?_⟩, fun p mem => (clean p mem).add, ?_⟩
  · rw [carries.sent_eq]
    simp
  · rw [Ledger.plays_add, if_pos comes, ← carries.plays_eq]
    simp
  · intro other fails
    rcases Ledger.fails_add.1 fails with before | ⟨bytes, now⟩
    · exact fine other before
    · cases now
      exact writes bytes false rfl

/-- The play opens a stream. -/
theorem Unused.open (unused : Unused l h) (wants : l.Wants call plan) :
    Fresh (l.add ⟨call, .opened h⟩) call h [] := by
  obtain ⟨silent, plays, fine⟩ := unused
  have comes : Entry.boards l.errands h (⟨call, .opened h⟩ : Entry T Spec) = true :=
    Entry.boards_of_wants wants rfl
  refine ⟨?_, rfl, ?_, ?_⟩
  · rwa [Ledger.established_add (by nofun)]
  · rw [Ledger.plays_add, if_pos comes, plays]
    rfl
  · intro other fails
    rcases Ledger.fails_add.1 fails with before | ⟨bytes, now⟩
    · exact fine other before
    · cases now

/-- Without a header the chunks begin at once. -/
theorem Fresh.begin (fresh : Fresh l call h sent) (without : l.header plan.spec = none) :
    Underway l call plan h sent plan.chunks := by
  obtain ⟨-, rfl, plays, fine⟩ := fresh
  refine ⟨[], [], rfl, ⟨?_, ?_⟩, fun _ no => absurd no List.not_mem_nil, fine⟩
  · simp [without]
  · rw [plays]
    rfl

omit [DecidableEq Spec] in
/-- A write that succeeds fails for nobody. -/
theorem fine_of_write {bytes : List UInt8} (fine : ∀ other, ¬ l.Fails h other) (other : T × Nat) :
    ¬ (l.add ⟨call, .write h bytes true⟩).Fails h other := by
  intro fails
  rcases Ledger.fails_add.1 fails with before | ⟨_, now⟩
  · exact fine other before
  · cases now

/-- The header comes through. -/
theorem Fresh.greet {header : List UInt8} (fresh : Fresh l call h sent)
    (due : l.header plan.spec = some header) :
    Underway (l.add ⟨call, .write h header true⟩) call plan h (sent ++ header) plan.chunks := by
  obtain ⟨-, rfl, plays, fine⟩ := fresh
  refine ⟨[], [], rfl, ⟨?_, ?_⟩, fun _ no => absurd no List.not_mem_nil, fine_of_write fine⟩
  · simp [due]
  · rw [Ledger.plays_add, Entry.boards_write, plays]
    rfl

/-- The header does not come through. -/
theorem Fresh.tear {header part : List UInt8} (fresh : Fresh l call h sent) (wants : l.Wants call plan)
    (due : l.header plan.spec = some header) (first : part <+: header) :
    Mute (l.add ⟨call, .write h header false⟩) h (sent ++ part) := by
  obtain ⟨silent, rfl, plays, -⟩ := fresh
  refine ⟨?_, call, plan, header, wants, due, first, ?_, Ledger.fails_add.2 (.inr ⟨header, rfl⟩)⟩
  · rwa [Ledger.established_add (by nofun)]
  · rw [Ledger.plays_add, Entry.boards_write, plays]
    rfl

/-- A chunk comes through. -/
theorem Underway.write {chunk : List UInt8} {rest : List (List UInt8)}
    (underway : Underway l call plan h sent (chunk :: rest)) :
    Underway (l.add ⟨call, .write h chunk true⟩) call plan h (sent ++ chunk) rest := by
  obtain ⟨pieces, done, chunks, carries, clean, fine⟩ := underway
  refine ⟨pieces, done ++ [chunk], ?_, ⟨?_, ?_⟩, fun p mem => (clean p mem).add, fine_of_write fine⟩
  · rw [chunks]
    simp
  · rw [carries.sent_eq]
    simp
  · rw [Ledger.plays_add, Entry.boards_write, ← carries.plays_eq]
    simp

/-- The play is about to leave, since all is written or a stop was seen. -/
theorem Underway.leave {rest : List (List UInt8)} (underway : Underway l call plan h sent rest)
    (wants : l.Wants call plan) (reason : rest = [] ∨ l.Saw call) : Healthy l plan.spec h sent := by
  obtain ⟨pieces, done, chunks, carries, clean, fine⟩ := underway
  refine ⟨_, carries, ?_, fine⟩
  intro p mem
  rcases List.mem_append.1 mem with earlier | last
  · exact clean p earlier
  · obtain rfl := List.mem_singleton.1 last
    exact ⟨plan, done, rest, wants, rfl, chunks, rfl, reason⟩

/-- A chunk does not come through. -/
theorem Underway.tear {chunk part : List UInt8} {rest : List (List UInt8)}
    (underway : Underway l call plan h sent (chunk :: rest)) (wants : l.Wants call plan)
    (first : part <+: chunk) : Broken (l.add ⟨call, .write h chunk false⟩) plan.spec h (sent ++ part) := by
  obtain ⟨pieces, done, chunks, carries, clean, fine⟩ := underway
  refine ⟨pieces, ⟨call, done.flatten ++ part⟩, ⟨?_, ?_⟩, fun p mem => (clean p mem).add, ?_, ?_⟩
  · rw [carries.sent_eq]
    simp
  · rw [Ledger.plays_add, Entry.boards_write, ← carries.plays_eq]
    simp
  · refine ⟨plan, wants, rfl, ?_, Ledger.fails_add.2 (.inr ⟨chunk, rfl⟩)⟩
    -- What is missing is the rest of this chunk and all later ones.
    obtain ⟨lost, rfl⟩ := first
    refine ⟨lost ++ rest.flatten, ?_⟩
    rw [chunks]
    simp
  · intro other fails
    rcases Ledger.fails_add.1 fails with before | ⟨bytes, now⟩
    · exact absurd before (fine other)
    · cases now
      rfl

end Playing

end Playout.Transport
