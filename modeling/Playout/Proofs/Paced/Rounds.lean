import Mathlib.Data.Rat.Floor
import Playout.Paced.Output
import Playout.Proofs.Signalling
import Playout.Proofs.Transport.World

/-!
# `Playout.Proofs.Paced.Rounds` — the rounds of a paced playback

A round looks at the signal and at the free space, writes, and waits. This is its protocol, which the programs of the
output keep to. Every round that goes on has done something with a byte or has slept while nothing was free, which it
does only for a limited time, so that the rounds that a playback is given are enough.

## Contents
- `touch` — what the requests do with the signal.
- `Phase`, `Turn`, `Stage`, `Move` — the protocol.
- `tick`, `allowed` — a clock that does not go back, and naps that take their time.
- `Enough` — the rounds that are left are enough.
- `round_completes`, `stream_completes`, `play_completes` — the programs keep to the protocol and come to an end.
-/

namespace Playout.Paced

open Interleaving Program

/-! ## The protocol -/

/-- What a request does with the signal, with its answer. A pause is a look at the signal that takes its time. -/
def touch : (r : Paced.Request) → Paced.Request.Answer r → Touch
  | .resetSignal, _ => .lower
  | .cancelSignal, _ => .raise
  | .cancelled, stopped => .look stopped
  | .pause _, outcome => .look (decide (outcome = .cancelled))
  | _, _ => .none

/-- Whether a request neither has to do with the signal, nor asks for the free space, nor writes. -/
def Request.idle : Paced.Request → Bool
  | .resetSignal | .cancelSignal | .cancelled | .pause _ | .space | .write _ => false
  | _ => true

/-- Where a call stands. -/
inductive Phase where
  /-- The call does not play. -/
  | aside
  | entered
  /-- About to begin a round, or to leave the loop. -/
  | head
  /-- There was no stop, and the free space is asked for. -/
  | cleared
  /-- Nothing is free. -/
  | starved
  /-- This much is free, and is going to be filled. -/
  | spaced (s : BufferSpace)
  /-- The write has failed, and the signal tells whether that matters. -/
  | doubted (s : BufferSpace)
  /-- The free space is filled, and a tail may follow. -/
  | wrote (s : BufferSpace)
  /-- The write of the tail has failed. -/
  | doubting
  /-- The tail is written. -/
  | tailed
  /-- The loop has been left. -/
  | outside

/-- The requests that lead from phase to phase. -/
inductive Turn : Phase → (r : Paced.Request) → Paced.Request.Answer r → Phase → Prop where
  | lower : Turn .entered .resetSignal () .head
  -- A round begins with a look at the signal. At the end a wait may come instead of it.
  | clear : Turn .head .cancelled false .cleared
  | halt : Turn .head .cancelled true .outside
  | settled {span outcome} : Turn .head (.pause span) outcome .outside
  -- The free space tells how the round goes on.
  | free {s} (room : s.isStarved = false) : Turn .cleared .space (some (.ok s)) (.spaced s)
  | full {s} : Turn .cleared .space (some (.ok s)) .starved
  | lost {answer} (failed : ∀ s, answer ≠ some (.ok s)) : Turn .cleared .space answer .outside
  | napped {span} : Turn .starved (.nap span) () .head
  -- A write that has failed counts as done after a stop.
  | put {s bytes n} (fits : bytes.length ≤ s.room) : Turn (.spaced s) (.write bytes) (some (.ok n)) (.wrote s)
  | tore {s bytes answer} (fits : bytes.length ≤ s.room) (failed : ∀ n, answer ≠ some (.ok n)) :
      Turn (.spaced s) (.write bytes) answer (.doubted s)
  | excused {s} : Turn (.doubted s) .cancelled true (.wrote s)
  | failed {s} : Turn (.doubted s) .cancelled false .outside
  | putTail {s bytes n} (short : bytes.length < s.fragmentSize) :
      Turn (.wrote s) (.write bytes) (some (.ok n)) .tailed
  | toreTail {s bytes answer} (short : bytes.length < s.fragmentSize) (failed : ∀ n, answer ≠ some (.ok n)) :
      Turn (.wrote s) (.write bytes) answer .doubting
  | excusedTail : Turn .doubting .cancelled true .tailed
  | failedTail : Turn .doubting .cancelled false .outside
  -- The wait at the end of a round.
  | rested {s span} : Turn (.wrote s) (.pause span) .timedOut .head
  | restedTail {span} : Turn .tailed (.pause span) .timedOut .head
  | stopped {s span} : Turn (.wrote s) (.pause span) .cancelled .outside
  | stoppedTail {span} : Turn .tailed (.pause span) .cancelled .outside

/-- How many idle requests at most pass in a phase before one that leads on. -/
def Phase.patience : Phase → Nat
  | head => 11
  | starved => 7
  | outside => 6
  | wrote _ | tailed => 3
  | spaced _ => 1
  | _ => 0

/-- The least that the clock can show, after a request. -/
def tick (now : Option Seconds) : (r : Paced.Request) → Paced.Request.Answer r → Option Seconds
  | .clock, moment => some moment
  | .nap span, _ => now.map (· + span)
  | _, _ => now

/-- Where a call stands, how many idle requests may still pass without a turn, and the least that the clock can show. -/
structure Stage where
  phase : Phase
  patience : Nat
  now : Option Seconds

/-- A turn, or an idle request. A call that does not play does not take the signal back. -/
inductive Move : Stage → (r : Paced.Request) → Paced.Request.Answer r → Stage → Prop where
  | turn {φ left now r answer φ'} (turn : Turn φ r answer φ') :
      Move ⟨φ, left, now⟩ r answer ⟨φ', φ'.patience, tick now r answer⟩
  | wait {φ left now r answer} (idle : r.idle = true) (some : 0 < left) :
      Move ⟨φ, left, now⟩ r answer ⟨φ, left - 1, tick now r answer⟩
  | aside {left now r answer} (other : touch r answer ≠ .lower) :
      Move ⟨.aside, left, now⟩ r answer ⟨.aside, left, tick now r answer⟩

/-- The protocol. -/
def moves : Moves Paced.Interface Stage := fun s r answer s' => Move s r answer s'

/-- The clock does not go back. -/
def allowed : Allowed Paced.Interface Stage := fun s r answer =>
  match r, answer with
  | .clock, moment => ∀ now, s.now = some now → now ≤ moment
  | _, _ => True

/-! ## Single requests -/

variable {α : Type} {c : Config} {φ : Phase} {left : Nat} {now : Option Seconds} {r : Paced.Request}
  {next : Paced.Request.Answer r → Action α} {ends : Stage → α → Prop}

/-- An idle request. -/
theorem idly (idle : r.idle = true) (some : 0 < left)
    (rest : ∀ answer, allowed ⟨φ, left, now⟩ r answer →
      (next answer).Completes allowed moves ends ⟨φ, left - 1, tick now r answer⟩) :
    (Program.ask r next).Completes allowed moves ends ⟨φ, left, now⟩ :=
  fun answer may => ⟨_, .wait idle some, rest answer may⟩

/-! ## Rounds that are enough -/

/-- How long nothing has been free, counted in naps. -/
def Starved (p : Progress) (now : Option Seconds) (naps : Nat) : Prop :=
  match p.starvedSince with
  | none => naps = 0
  | some since => ∃ moment, now = some moment ∧ since + naps * napLength ≤ moment

/-- So many rounds are enough for what is left. -/
def Enough (c : Config) (p : Progress) (now : Option Seconds) (rounds : Nat) : Prop :=
  ∃ naps, Starved p now naps ∧
    p.rest.length * (starvedRounds c.pacing + 1) + (starvedRounds c.pacing - naps) + 1 ≤ rounds

/-- At the beginning there are enough. -/
theorem enough_enoughRounds (bytes : List UInt8) (now : Option Seconds) :
    Enough c { rest := bytes } now (enoughRounds c.pacing bytes.length) := by
  refine ⟨0, rfl, ?_⟩
  unfold enoughRounds
  simp only [Nat.mul_add, Nat.add_mul]
  omega

/-- A round that has done something with a byte leaves enough. -/
theorem Enough.progress {p : Progress} {rounds : Nat} (enough : Enough c p now (rounds + 1)) {rest : List UInt8}
    {lead : Option Rat} {now' : Option Seconds} (shorter : rest.length < p.rest.length) :
    Enough c { rest, lead } now' rounds := by
  obtain ⟨naps, -, bound⟩ := enough
  refine ⟨0, rfl, ?_⟩
  have less : (rest.length + 1) * (starvedRounds c.pacing + 1) ≤ p.rest.length * (starvedRounds c.pacing + 1) :=
    Nat.mul_le_mul_right _ shorter
  simp only [Nat.add_mul] at less bound ⊢
  omega

theorem napLength_pos : 0 < napLength := by decide +kernel

/-- As long as the limit has not passed, there was no time for that many naps. -/
theorem naps_le {naps : Nat} {limit : Seconds} (within : naps * napLength ≤ limit) :
    naps ≤ (limit / napLength).floor.toNat := by
  have many : ((naps : Int) : Rat) ≤ limit / napLength := by
    rw [le_div_iff₀ napLength_pos]
    exact_mod_cast within
  have floor := Rat.le_floor_iff.2 many
  omega

/-- A nap within the limit leaves enough. -/
theorem Enough.nap {p : Progress} {rounds naps : Nat} {since moment : Seconds}
    (bound : p.rest.length * (starvedRounds c.pacing + 1) + (starvedRounds c.pacing - naps) + 1 ≤ rounds + 1)
    (slept : since + naps * napLength ≤ moment) (within : moment - since ≤ c.pacing.maxFragmentWait) :
    Enough c { p with starvedSince := some since } (some (moment + napLength)) rounds := by
  refine ⟨naps + 1, ⟨_, rfl, ?_⟩, ?_⟩
  · push_cast
    rw [add_mul, one_mul, ← add_assoc]
    exact add_le_add_left slept _
  · have few : naps ≤ (c.pacing.maxFragmentWait / napLength).floor.toNat := by
      refine naps_le (le_trans ?_ within)
      rwa [le_sub_iff_add_le, add_comm]
    have most : starvedRounds c.pacing = (c.pacing.maxFragmentWait / napLength).floor.toNat + 2 := rfl
    show p.rest.length * (starvedRounds c.pacing + 1) + _ + 1 ≤ rounds
    omega

/-! ## The programs -/

/-- After a write the bytes are done with, or the playback has failed and enough patience is left to tidy up. -/
def Written (there : Stage) (chunk : List UInt8) (s : Stage) (outcome : Except PlayError Nat) : Prop :=
  match outcome with
  | .ok n => s = there ∧ (chunk ≠ [] → 0 < n)
  | .error _ => 3 ≤ s.patience

/-- A write from one phase to another, with a look at the signal in between if it fails. -/
theorem writeChunk_completes {doubt there : Phase} {chunk : List UInt8}
    (put : ∀ n, Turn φ (.write chunk) (some (.ok n)) there)
    (tore : ∀ answer, (∀ n, answer ≠ some (.ok n)) → Turn φ (.write chunk) answer doubt)
    (excused : Turn doubt .cancelled true there) (failed : Turn doubt .cancelled false .outside)
    (patient : 3 ≤ there.patience) :
    (writeChunk chunk).Completes allowed moves (Written ⟨there, there.patience, now⟩ chunk) ⟨φ, left, now⟩ := by
  -- What a failed write leads to.
  have doubted (failure : Failure) : (cancelled.bind fun stopped =>
      if stopped then .done (.ok chunk.length) else do
        log .error ("alsa: write failed: " ++ failure.text)
        return .error (.writeFailed failure.text)).Completes allowed moves
      (Written ⟨there, there.patience, now⟩ chunk) ⟨doubt, doubt.patience, now⟩ := by
    intro stopped _
    cases stopped with
    | true => exact ⟨_, .turn excused, Completes.done ⟨rfl, List.length_pos_iff.2⟩⟩
    | false =>
      refine ⟨_, .turn failed, idly rfl (by decide) fun _ _ => ?_⟩
      exact Completes.done (by decide : 3 ≤ 5)
  rintro (_ | failure | n) _
  · exact ⟨_, .turn (tore _ nofun), doubted slotEmpty⟩
  · exact ⟨_, .turn (tore _ nofun), doubted failure⟩
  · refine ⟨_, .turn (put n), ?_⟩
    cases n with
    | zero => exact Completes.done patient
    | succ n => exact Completes.done ⟨rfl, fun _ => Nat.succ_pos n⟩

/-- After a round the next one can begin with enough rounds left, or the loop is left with enough patience. -/
def Ended (c : Config) (rounds : Nat) (s : Stage) (round : Round) : Prop :=
  match round with
  | .goOn p => s = ⟨.head, 11, s.now⟩ ∧ Enough c p s.now rounds
  | .stopped => 5 ≤ s.patience
  | .failed _ => 3 ≤ s.patience

theorem starve_completes {p : Progress} {rounds : Nat} (enough : Enough c p now (rounds + 1)) :
    (starve c p).Completes allowed moves (Ended c rounds) ⟨.starved, 7, now⟩ := by
  obtain ⟨naps, starved, bound⟩ := enough
  -- However the time is known since when nothing has been free.
  have asleep (since : Seconds) (now : Option Seconds) (left : Nat) (patient : 6 ≤ left)
      (slept : ∀ moment, allowed ⟨.starved, left, now⟩ .clock moment → since + naps * napLength ≤ moment) :
      (do
        let waited := (← clock) - since
        if c.pacing.maxFragmentWait < waited then
          let millis := (((← clock) - since) : Seconds).wholeMillis
          log .error ("alsa: no free fragment for " ++ toString millis ++ " ms, giving up")
          return .failed (.deviceStalled millis)
        else
          log .debug "alsa: not enough space for a single fragment, looping"
          nap napLength
          return .goOn { p with starvedSince := some since } : Action Round).Completes allowed moves
        (Ended c rounds) ⟨.starved, left, now⟩ := by
    refine idly rfl (by omega) fun moment may => ?_
    simp only [done_bind]
    split
    · refine idly rfl (by omega) fun _ _ => idly rfl (by omega) fun _ _ => ?_
      exact Completes.done (by show 3 ≤ left - 1 - 1 - 1; omega)
    · next within =>
      refine idly rfl (by omega) fun _ _ => ?_
      refine fun _ _ => ⟨_, .turn .napped, Completes.done ⟨rfl, ?_⟩⟩
      exact Enough.nap bound (slept moment may) (le_of_not_gt within)
  unfold starve
  cases known : p.starvedSince with
  | some since =>
    simp only [Starved, known] at starved
    obtain ⟨moment, rfl, slept⟩ := starved
    exact asleep since (some moment) 7 (by decide) fun later may => le_trans slept (may moment rfl)
  | none =>
    simp only [Starved, known] at starved
    subst starved
    refine idly rfl (by decide) fun since _ => ?_
    refine asleep since (some since) 6 (by decide) fun later may => ?_
    simpa using may since rfl

/-- Where something is free, there is room for a byte. -/
theorem room_pos {s : BufferSpace} (some : s.isStarved = false) : 0 < s.room := by
  simp only [BufferSpace.isStarved, Bool.or_eq_false_iff, beq_eq_false_iff_ne] at some
  exact Nat.mul_pos (Nat.pos_of_ne_zero some.1) (Nat.pos_of_ne_zero some.2)

/-- The wait at the end of a round that has done something with a byte. -/
theorem waitOut_completes {p : Progress} {rounds : Nat} (enough : Enough c p now (rounds + 1)) {rest : List UInt8}
    (shorter : rest.length < p.rest.length) (text : String) (span : Seconds) (lead : Rat)
    (rested : Turn φ (.pause span) .timedOut .head) (stopped : Turn φ (.pause span) .cancelled .outside)
    (patient : 0 < left) :
    (do
      log .debug text
      match ← pause span with
      | .cancelled =>
        log .info "alsa: playback stopped"
        return .stopped
      | .timedOut => return .goOn { rest, lead := some lead } : Action Round).Completes allowed moves (Ended c rounds)
      ⟨φ, left, now⟩ := by
  refine idly rfl patient fun _ _ => ?_
  rintro (_ | _) _
  · refine ⟨_, .turn stopped, idly rfl (by decide) fun _ _ => ?_⟩
    exact Completes.done (by decide : 5 ≤ 5)
  · exact ⟨_, .turn rested, Completes.done ⟨rfl, enough.progress shorter⟩⟩

theorem fill_completes {s : BufferSpace} {p : Progress} {rounds : Nat} (frameBytes rate : Nat)
    (some : s.isStarved = false) (nonempty : p.rest ≠ []) (enough : Enough c p now (rounds + 1)) :
    (fill c frameBytes rate s p).Completes allowed moves (Ended c rounds) ⟨.spaced s, 1, now⟩ := by
  refine idly rfl (by decide) fun _ _ => ?_
  have fits : (p.rest.take s.room).length ≤ s.room := List.length_take_le ..
  simp only [done_bind]
  refine Completes.bind (writeChunk_completes (fun _ => .put fits) (fun _ => .tore fits) .excused .failed
    (Nat.le_refl 3)) ?_
  rintro st (e | written) done
  · exact Completes.done done
  · obtain ⟨rfl, progress⟩ := done
    have positive : 0 < written := by
      refine progress (List.ne_nil_of_length_pos ?_)
      rw [List.length_take]
      exact Nat.lt_min.2 ⟨room_pos some, List.length_pos_iff.2 nonempty⟩
    have shorter (extra : Nat) : ((p.rest.drop written).drop extra).length < p.rest.length := by
      have long := List.length_pos_iff.2 nonempty
      rw [List.length_drop, List.length_drop]
      omega
    dsimp only
    split
    · next tail =>
      have short : (p.rest.drop written).length < s.fragmentSize := by
        simp only [tailFits, Bool.and_eq_true, decide_eq_true_eq] at tail
        exact tail.1.2
      refine idly rfl (Nat.succ_pos 2) fun _ _ => ?_
      simp only [done_bind]
      refine Completes.bind (writeChunk_completes (fun _ => .putTail short) (fun _ => .toreTail short) .excusedTail
        .failedTail (Nat.le_refl 3)) ?_
      rintro st (e | extra) done
      · exact Completes.done done
      · obtain ⟨rfl, -⟩ := done
        exact waitOut_completes enough (shorter extra) _ _ _ .restedTail .stoppedTail (Nat.succ_pos 2)
    · exact waitOut_completes enough (shorter 0) _ _ _ .rested .stopped (Nat.succ_pos 2)

theorem round_completes {p : Progress} {rounds : Nat} (frameBytes rate : Nat) (nonempty : p.rest ≠ [])
    (enough : Enough c p now (rounds + 1)) :
    (round c frameBytes rate p).Completes allowed moves (Ended c rounds) ⟨.head, left, now⟩ := by
  intro stopped _
  cases stopped with
  | true => exact ⟨_, .turn .halt, Completes.done (by decide : 5 ≤ 6)⟩
  | false =>
    refine ⟨_, .turn .clear, ?_⟩
    have lost (failure : Failure) : (do
        log .error ("alsa: buffer space query failed: " ++ failure.text)
        return .failed (.deviceQuery failure.text) : Action Round).Completes allowed moves (Ended c rounds)
          ⟨.outside, 6, now⟩ := by
      refine idly rfl (by decide) fun _ _ => ?_
      exact Completes.done (by decide : 3 ≤ 5)
    rintro (_ | failure | s) _
    · exact ⟨_, .turn (.lost nofun), lost slotEmpty⟩
    · exact ⟨_, .turn (.lost nofun), lost failure⟩
    · cases starved : s.isStarved with
      | true =>
        refine ⟨_, .turn .full, ?_⟩
        simp only [Option.getD_some, done_bind, starved, if_true]
        exact starve_completes enough
      | false =>
        refine ⟨_, .turn (.free starved), ?_⟩
        simp only [Option.getD_some, done_bind, starved, Bool.false_eq_true, if_false]
        exact fill_completes frameBytes rate starved nonempty enough

/-- After the loop enough patience is left to tidy up. -/
def Streamed (s : Stage) (outcome : Except PlayError Bool) : Prop :=
  match outcome with
  | .ok _ => 5 ≤ s.patience
  | .error _ => 3 ≤ s.patience

theorem settle_completes (lead : Option Rat) (patient : 5 ≤ left) :
    (settle c lead).Completes allowed moves (fun s _ => 5 ≤ s.patience) ⟨.head, left, now⟩ := by
  unfold settle
  cases lead with
  | none => exact Completes.done patient
  | some lead =>
    dsimp only
    split
    · refine idly rfl (by omega) fun _ _ => ?_
      exact fun _ _ => ⟨_, .turn .settled, Completes.done (by decide : 5 ≤ 6)⟩
    · exact Completes.done patient

/-- A playback with enough rounds leaves its loop. -/
theorem stream_completes (frameBytes rate : Nat) (rounds : Nat) (p : Progress) (patient : 5 ≤ left)
    (enough : Enough c p now rounds) :
    (stream c frameBytes rate rounds p).Completes allowed moves Streamed ⟨.head, left, now⟩ := by
  induction rounds generalizing p left now with
  | zero =>
    obtain ⟨_, -, bound⟩ := enough
    omega
  | succ rounds ih =>
    unfold stream
    split
    · exact Completes.bind (settle_completes p.lead patient) fun _ _ patient => Completes.done patient
    · next nonempty =>
      have nonempty : p.rest ≠ [] := by simpa using nonempty
      refine Completes.bind (round_completes frameBytes rate nonempty enough) ?_
      rintro s (p' | _ | e) ended
      · obtain ⟨stands, enough⟩ := ended
        rw [stands]
        exact ih p' (by decide) enough
      · exact Completes.done ended
      · exact Completes.done ended

/-- What is done once the loop has been left. -/
theorem tidy_completes {outcome : Except PlayError Bool} {s : Stage} (streamed : Streamed s outcome) :
    (do
      match ← uninstall with
      | some h =>
        if outcome.isOk then
          match ← flush h with
          | .ok _ => pure ()
          | .error failure => log .warning ("alsa: flush failed: " ++ failure.text)
        releaseDevice h
        log .info "alsa: device closed"
      | none => pure ()
      return outcome.map fun _ => () : Action (Except PlayError Unit)).Completes allowed moves (fun _ _ => True) s := by
  obtain ⟨φ, left, now⟩ := s
  have patient : 3 ≤ left := by
    cases outcome with
    | ok _ => exact Nat.le_trans (by decide) (streamed : 5 ≤ left)
    | error e => exact streamed
  refine idly rfl (by omega) ?_
  rintro (_ | h) _
  · exact Completes.done trivial
  · cases outcome with
    | error e =>
      refine idly rfl (by omega) fun _ _ => idly rfl (by omega) fun _ _ => ?_
      exact Completes.done trivial
    | ok stopped =>
      have patient : 5 ≤ left := streamed
      refine idly rfl (by omega) ?_
      rintro (failure | _) _
      · refine idly rfl (by omega) fun _ _ => idly rfl (by omega) fun _ _ => ?_
        exact idly rfl (by omega) fun _ _ => Completes.done trivial
      · refine idly rfl (by omega) fun _ _ => idly rfl (by omega) fun _ _ => ?_
        exact Completes.done trivial

theorem playBytes_completes (h : Handle) (bytes : List UInt8) (frameBytes rate : Nat) (patient : 7 ≤ left) :
    (playBytes c h bytes frameBytes rate).Completes allowed moves (fun _ _ => True) ⟨.head, left, now⟩ := by
  have streams (left : Nat) (now : Option Seconds) (patient : 5 ≤ left) := Completes.bind
    (stream_completes frameBytes rate _ { rest := bytes } patient (enough_enoughRounds (c := c) bytes now))
    fun _ _ streamed => tidy_completes streamed
  refine idly rfl (by omega) ?_
  rintro (_ | other) _
  · exact streams _ _ (by omega)
  · exact idly rfl (by omega) fun _ _ => streams _ _ (by omega)

theorem negotiate_completes (h : Handle) (wanted : StreamParams) (patient : 2 ≤ left) :
    (negotiate h wanted).Completes allowed moves (fun s _ => s.phase = φ ∧ left - 2 ≤ s.patience) ⟨φ, left, now⟩ := by
  refine idly rfl (by omega) ?_
  have told {α : Type} (line : Line) (result : α) (now : Option Seconds) :
      ((Program.ask (.log line) .done : Action Unit).bind fun _ => .done result).Completes allowed moves
        (fun s _ => s.phase = φ ∧ left - 2 ≤ s.patience) ⟨φ, left - 1, now⟩ :=
    idly rfl (by omega) fun _ _ => Completes.done ⟨rfl, by show left - 2 ≤ left - 1 - 1; omega⟩
  rintro (failure | granted) _
  · exact told _ _ _
  · simp only [done_bind]
    split
    · exact told _ _ _
    · split
      · exact told _ _ _
      · split
        · exact told _ _ _
        · exact Completes.done ⟨rfl, by show left - 2 ≤ left - 1; omega⟩

theorem playTrack_completes (track : Track) (volume : Int) (width : Nat) :
    (playTrack c track volume width).Completes allowed moves (fun _ _ => True) ⟨.head, 11, now⟩ := by
  refine idly rfl (by decide) ?_
  rintro (failure | h) _
  · exact idly rfl (by decide) fun _ _ => Completes.done trivial
  · simp only [done_bind]
    refine Completes.bind (negotiate_completes h _ (by decide)) ?_
    rintro ⟨φ, left, now⟩ (e | granted) ⟨rfl, patient⟩
    · have patient : 8 ≤ left := patient
      exact idly rfl (by omega) fun _ _ => Completes.done trivial
    · have patient : 8 ≤ left := patient
      refine idly rfl (by omega) fun _ _ => ?_
      exact playBytes_completes h _ _ _ (by omega)

theorem play_completes (track : Track) (settings : PlaySettings) :
    (play c track settings).Completes allowed moves (fun _ _ => True) ⟨.entered, 0, now⟩ := by
  refine fun _ _ => ⟨_, .turn .lower, ?_⟩
  simp only [done_bind]
  split
  · exact Completes.done trivial
  · split
    · exact idly rfl (by decide) fun _ _ => Completes.done trivial
    · exact playTrack_completes track settings.volume _

/-- A request of a call that does not play. -/
theorem asiding (other : ∀ answer, touch r answer ≠ .lower)
    (rest : ∀ answer, (next answer).Completes allowed moves ends ⟨.aside, left, tick now r answer⟩) :
    (Program.ask r next).Completes allowed moves ends ⟨.aside, left, now⟩ :=
  fun answer _ => ⟨_, .aside (other answer), rest answer⟩

theorem stop_completes : stop.Completes allowed moves (fun _ _ => True) ⟨.aside, left, now⟩ := by
  refine asiding nofun fun _ => asiding nofun fun _ => asiding nofun ?_
  rintro (_ | failure | _)
  · exact Completes.done trivial
  · exact asiding nofun fun _ => Completes.done trivial
  · exact Completes.done trivial

theorem close_completes : close.Completes allowed moves (fun _ _ => True) ⟨.aside, left, now⟩ := by
  refine asiding nofun fun _ => asiding nofun ?_
  rintro (_ | h)
  · exact Completes.done trivial
  · exact asiding nofun fun _ => Completes.done trivial

/-- Where a command begins. -/
def Stage.enter : Transport.Command → Stage
  | .play _ _ => ⟨.entered, 0, none⟩
  | _ => ⟨.aside, 0, none⟩

/-- Every command keeps to the protocol and comes to an end. -/
theorem command_completes (c : Config) (command : Transport.Command) :
    (command.program (output c)).Completes allowed moves (fun _ _ => True) (.enter command) := by
  cases command with
  | play track settings => exact play_completes track settings
  | stop => exact Completes.bind stop_completes fun _ _ _ => Completes.done trivial
  | close => exact Completes.bind close_completes fun _ _ _ => Completes.done trivial

end Playout.Paced
