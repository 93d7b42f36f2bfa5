import Mathlib.Algebra.Order.Field.Rat
import Mathlib.Data.Rat.Floor
import Mathlib.Tactic.FieldSimp
import Mathlib.Tactic.Linarith
import Mathlib.Tactic.NormNum
import Playout.Proofs.Simple.Connection

/-!
# `Playout.Proofs.Simple.Pacing` — how far ahead of real time a track is sent

Before each chunk the clock is read, and what real time has played by then is counted in whole bytes. If the chunk would
put more than the target length in front of that, it is waited for; then the chunk is written. The count of what is in
front stops at zero, so that it does not tell how far the sender has fallen behind. Numbers are exact here.

## Contents
- `Spot`, `Course`, `stream_course` — the protocol: all that a request of the loop can lead to.
- `written`, `Spot.Sent` — what has gone over the connection.
- `Takes`, `Timed` — when requests are made, on a clock that does not go back.
- `Spot.InTime`, `Course.inTime` — what holds of the time, step by step.
- `goesOn_chunk`, `path_silence`, `path_late` — a track of two chunks.
- `due`, `late`, `excess_eq` — what the target asks for, and what is waited for on top.

## Main statements
- `never_ahead_of_target` — no write begins too early, and the loop lasts as long as its bytes.
- `waits_as_due_iff` — a wait is as long as the target asks for, unless the sender is behind and the chunk is long.
- `behind_yet_waiting` — a sender that is behind may wait all the same.
-/

namespace Playout.Simple

open Interleaving Program

variable {c : Config} {h : Handle} {rate : Nat} {start now now' : Seconds} {r : Simple.Request}
  {answer : Simple.Request.Answer r} {trace : Trace Simple.Interface} {chunks : List (List UInt8)}
  {p : Action (Except Failure Bool)}

/-! ## The protocol -/

/-- Where the loop stands, with the chunks that are still to be written behind so many bytes. -/
inductive Spot where
  /-- The clock is going to be read. -/
  | head (count : Nat) (rest : List (List UInt8))
  /-- It has shown this moment. -/
  | shown (count : Nat) (rest : List (List UInt8)) (now : Seconds)
  /-- The next chunk is going to be written. -/
  | cleared (count : Nat) (chunk : List UInt8) (rest : List (List UInt8))
  /-- All is written, and has been waited for. -/
  | played (count : Nat)
  | stopped
  | torn

/-- By how many bytes a chunk would go beyond the target, as the clock has shown. -/
def beyond (c : Config) (rate : Nat) (start : Seconds) (count : Nat) (now : Seconds) (chunk : List UInt8) : Nat :=
  excess c count (playedIn c (now - start) rate) chunk.length

/-- The time until all is played. -/
def remainder (c : Config) (count rate : Nat) (elapsed : Seconds) : Seconds :=
  if lasting c count rate < elapsed then 0 else lasting c count rate - elapsed

/-- What a request leads to. -/
inductive Course (c : Config) (h : Handle) (rate : Nat) (start : Seconds) :
    Spot → (r : Simple.Request) → Simple.Request.Answer r → Spot → Prop where
  | read {n rest now} : Course c h rate start (.head n rest) .clock now (.shown n rest now)
  -- A chunk that would go beyond the target is waited for; else there is only a look at the signal.
  | waited {n chunk rest now} (far : 0 < beyond c rate start n now chunk) :
      Course c h rate start (.shown n (chunk :: rest) now) (.pause (lasting c (beyond c rate start n now chunk) rate))
        .timedOut (.cleared n chunk rest)
  | cutShort {n chunk rest now} (far : 0 < beyond c rate start n now chunk) :
      Course c h rate start (.shown n (chunk :: rest) now) (.pause (lasting c (beyond c rate start n now chunk) rate))
        .cancelled .stopped
  | looked {n chunk rest now} (near : beyond c rate start n now chunk = 0) :
      Course c h rate start (.shown n (chunk :: rest) now) .cancelled false (.cleared n chunk rest)
  | halted {n chunk rest now} (near : beyond c rate start n now chunk = 0) :
      Course c h rate start (.shown n (chunk :: rest) now) .cancelled true .stopped
  | wrote {n chunk rest} :
      Course c h rate start (.cleared n chunk rest) (.send h chunk) (.ok ()) (.head (n + chunk.length) rest)
  | tore {n chunk rest failure} : Course c h rate start (.cleared n chunk rest) (.send h chunk) (.error failure) .torn
  | rested {n now} :
      Course c h rate start (.shown n [] now) (.pause (remainder c n rate (now - start))) .timedOut (.played n)
  | left {n now} :
      Course c h rate start (.shown n [] now) (.pause (remainder c n rate (now - start))) .cancelled .stopped

/-- The protocol. -/
def course (c : Config) (h : Handle) (rate : Nat) (start : Seconds) : Moves Simple.Interface Spot :=
  fun x r answer x' => Course c h rate start x r answer x'

/-- How the loop ends. -/
def Ended (x : Spot) (outcome : Except Failure Bool) : Prop :=
  match outcome with
  | .ok true => x = .stopped
  | .ok false => ∃ n, x = .played n
  | .error _ => x = .torn

/-- What follows the look at the signal before a chunk. -/
theorem afterLook_course {n : Nat} {chunk : List UInt8} {rest : List (List UInt8)} {x : Spot} (stopped : Bool)
    (here : x = if stopped then .stopped else .cleared n chunk rest)
    (later : (stream c h rate start (n + chunk.length) rest).Follows (course c h rate start) Ended
      (.head (n + chunk.length) rest)) :
    (if stopped = true then Program.done (.ok true) else
      (send h chunk).bind fun outcome =>
        match outcome with
        | .ok _ => stream c h rate start (n + chunk.length) rest
        | .error failure => .done (.error (failure.within "Failed to write audio data"))).Follows
      (course c h rate start) Ended x := by
  subst here
  cases stopped with
  | true => exact Follows.done rfl
  | false =>
    intro outcome
    cases outcome with
    | ok _ => exact ⟨_, .wrote, later⟩
    | error failure => exact ⟨_, .tore, Follows.done rfl⟩

/-- The loop keeps to the protocol. -/
theorem stream_course (n : Nat) (chunks : List (List UInt8)) :
    (stream c h rate start n chunks).Follows (course c h rate start) Ended (.head n chunks) := by
  induction chunks generalizing n with
  | nil =>
    intro now
    refine ⟨_, .read, ?_⟩
    intro outcome
    cases outcome with
    | cancelled => exact ⟨_, .left, Follows.done rfl⟩
    | timedOut => exact ⟨_, .rested, Follows.done ⟨n, rfl⟩⟩
  | cons chunk rest ih =>
    intro now
    refine ⟨_, .read, ?_⟩
    simp only [done_bind, bind_eq, pure_eq]
    split
    · next far =>
      intro outcome
      have later := ih (n + chunk.length)
      cases outcome with
      | cancelled => exact ⟨_, .cutShort far, afterLook_course true rfl later⟩
      | timedOut => exact ⟨_, .waited far, afterLook_course false rfl later⟩
    · next near =>
      intro stopped
      have later := ih (n + chunk.length)
      have none : beyond c rate start n now chunk = 0 := Nat.eq_zero_of_not_pos near
      cases stopped with
      | true => exact ⟨_, .halted none, afterLook_course true rfl later⟩
      | false => exact ⟨_, .looked none, afterLook_course false rfl later⟩

/-! ## What has been written -/

/-- The bytes that a write has brought. -/
def wrote? : (Σ r : Simple.Request, Simple.Request.Answer r) → Option (List UInt8)
  | ⟨.send _ bytes, .ok ()⟩ => some bytes
  | _ => none

/-- What has gone over the connection. -/
def written (trace : Trace Simple.Interface) : List UInt8 := (trace.filterMap wrote?).flatten

theorem written_wrote (trace : Trace Simple.Interface) (g : Handle) (bytes : List UInt8) :
    written (trace ++ [⟨.send g bytes, .ok ()⟩]) = written trace ++ bytes := by
  unfold written
  rw [filterMap_snoc, List.flatten_append]
  simp [wrote?]

theorem written_silent (silent : wrote? ⟨r, answer⟩ = none) :
    written (trace ++ [⟨r, answer⟩]) = written trace := by
  unfold written
  rw [filterMap_snoc_none silent]

/-- All chunks but those of `rest` have been written, which are `n` bytes. -/
def Before (chunks : List (List UInt8)) (trace : Trace Simple.Interface) (n : Nat) (rest : List (List UInt8)) : Prop :=
  ∃ done, chunks = done ++ rest ∧ written trace = done.flatten ∧ n = (written trace).length

/-- What has been written when the loop stands at a spot. -/
def Spot.Sent (chunks : List (List UInt8)) (trace : Trace Simple.Interface) : Spot → Prop
  | head n rest | shown n rest _ => Before chunks trace n rest
  | cleared n chunk rest => Before chunks trace n (chunk :: rest)
  | played n => Before chunks trace n []
  | stopped | torn => True

theorem Before.silent {n : Nat} {rest : List (List UInt8)} (before : Before chunks trace n rest)
    (silent : wrote? ⟨r, answer⟩ = none) : Before chunks (trace ++ [⟨r, answer⟩]) n rest := by
  unfold Before
  rw [written_silent silent]
  exact before

/-- One more chunk. -/
theorem Before.next {n : Nat} {g : Handle} {chunk : List UInt8} {rest : List (List UInt8)}
    (before : Before chunks trace n (chunk :: rest)) :
    Before chunks (trace ++ [⟨.send g chunk, .ok ()⟩]) (n + chunk.length) rest := by
  obtain ⟨done, cut, same, rfl⟩ := before
  refine ⟨done ++ [chunk], ?_, ?_, ?_⟩
  · rw [cut, List.append_assoc, List.singleton_append]
  · rw [written_wrote, same, List.flatten_append, List.flatten_singleton]
  · rw [written_wrote, List.length_append]

theorem Before.flatten {n : Nat} (before : Before chunks trace n []) : written trace = chunks.flatten := by
  obtain ⟨done, rfl, same, -⟩ := before
  rw [same, List.append_nil]

theorem Before.length_eq {n : Nat} {rest : List (List UInt8)} (before : Before chunks trace n rest) :
    n = (written trace).length := by
  obtain ⟨_, -, -, counted⟩ := before
  exact counted

theorem Course.sent {x x' : Spot} (move : Course c h rate start x r answer x') (sent : x.Sent chunks trace) :
    x'.Sent chunks (trace ++ [⟨r, answer⟩]) := by
  cases move with
  | read | waited | looked | rested => exact Before.silent sent rfl
  | wrote => exact Before.next sent
  | cutShort | halted | tore | left => trivial

/-- As far as the loop has come, it has written its chunks in order. -/
theorem path_sent {x : Spot} (path : Path (course c h rate start) (.head 0 chunks) trace x) :
    x.Sent chunks trace :=
  path.keeps (fun trace x => x.Sent chunks trace) ⟨[], rfl, rfl, rfl⟩ fun sent move => Course.sent move sent

/-! ## The time -/

/-- What an answer says of the moments between which it comes: a clock shows one of them, and a wait that nothing has
    cut short has lasted its time. -/
def Takes (now now' : Seconds) : (r : Simple.Request) → Simple.Request.Answer r → Prop
  | .clock, moment => now ≤ moment ∧ moment ≤ now'
  | .pause span, .timedOut => now + span ≤ now'
  | _, _ => True

/-- The requests of a trace are made at these moments, one after another, and the last one is answered at the moment that
    follows. -/
structure Timed (moment : Nat → Seconds) (trace : Trace Simple.Interface) : Prop where
  forward : ∀ i, moment i ≤ moment (i + 1)
  takes : ∀ front r answer back, trace = front ++ ⟨r, answer⟩ :: back →
    Takes (moment front.length) (moment (front.length + 1)) r answer

section Timed

variable {moment : Nat → Seconds}

theorem Timed.front {back : Trace Simple.Interface} (timed : Timed moment (trace ++ back)) : Timed moment trace where
  forward := timed.forward
  takes front r answer between parts := by
    refine timed.takes front r answer (between ++ back) ?_
    rw [parts, List.append_assoc, List.cons_append]

theorem Timed.last (timed : Timed moment (trace ++ [⟨r, answer⟩])) :
    Takes (moment trace.length) (moment (trace.length + 1)) r answer := timed.takes trace r answer [] rfl

theorem timed_nil (forward : ∀ i, moment i ≤ moment (i + 1)) : Timed moment [] where
  forward := forward
  takes front r answer back parts := by cases front <;> cases parts

/-- One more request. -/
theorem Timed.snoc (timed : Timed moment trace) (takes : Takes (moment trace.length) (moment (trace.length + 1)) r answer) :
    Timed moment (trace ++ [⟨r, answer⟩]) where
  forward := timed.forward
  takes front r' answer' back parts := by
    rcases split_snoc parts with ⟨rfl, same, -⟩ | ⟨between, earlier, -⟩
    · cases same
      exact takes
    · exact timed.takes front r' answer' between earlier

/-- A write may take its time. -/
theorem Timed.write (timed : Timed moment trace) (g : Handle) (bytes : List UInt8) (outcome : Except Failure Unit) :
    Timed moment (trace ++ [⟨.send g bytes, outcome⟩]) := timed.snoc trivial

end Timed

/-! ### With exact numbers -/

theorem lasting_exact (exact : c.arithmetic = .exact) (bytes rate : Nat) :
    lasting c bytes rate = (bytes : Rat) / (max rate 1 : Nat) := by
  have divisor : (if rate = 0 then 1 else rate) = max rate 1 := by
    split <;> omega
  unfold lasting
  rw [exact, divisor]
  rfl

theorem playedIn_exact (exact : c.arithmetic = .exact) (elapsed : Seconds) (rate : Nat) :
    playedIn c elapsed rate = (elapsed * rate).floor.toNat := by
  unfold playedIn
  rw [exact]
  rfl

/-- No more than real time has played is counted. -/
theorem playedIn_le (exact : c.arithmetic = .exact) {elapsed : Seconds} (forward : 0 ≤ elapsed) (rate : Nat) :
    (playedIn c elapsed rate : Rat) ≤ elapsed * rate := by
  rw [playedIn_exact exact]
  have nonneg : 0 ≤ elapsed * (rate : Rat) := mul_nonneg forward (Nat.cast_nonneg rate)
  have whole : ((elapsed * rate).floor.toNat : Int) = (elapsed * rate).floor :=
    Int.toNat_of_nonneg (Rat.le_floor_iff.2 (by simpa using nonneg))
  calc ((elapsed * rate).floor.toNat : Rat) = (((elapsed * rate).floor.toNat : Int) : Rat) := (Int.cast_natCast _).symm
    _ = ((elapsed * rate).floor : Rat) := by rw [whole]
    _ ≤ elapsed * rate := Rat.floor_le _

/-- What is in front of the listener, with a chunk more, is the target and what is waited for at most. -/
theorem le_excess (c : Config) (n played chunk : Nat) : n + chunk ≤ c.minLength + played + excess c n played chunk := by
  unfold excess
  omega

/-! ### Step by step -/

/-- What a spot says of the time: a reading of the clock is past, and the next chunk may be written at any moment from now
    on. -/
def Spot.Allows (c : Config) (rate : Nat) (start now : Seconds) : Spot → Prop
  | shown _ _ reading => start ≤ reading ∧ reading ≤ now
  | cleared n chunk _ => (n : Rat) + chunk.length ≤ c.minLength + (now - start) * rate
  | played n => (n : Rat) / rate ≤ now - start
  | head .. | stopped | torn => True

/-- The loop stands at a spot, at a moment that fits. -/
structure Spot.InTime (c : Config) (rate : Nat) (start now : Seconds) (x : Spot) : Prop where
  begun : start ≤ now
  allows : x.Allows c rate start now

/-- A chunk for which has been waited as long as asked is within the target. -/
theorem allows_of_waited (exact : c.arithmetic = .exact) (positive : 1 ≤ rate) {n : Nat} {chunk : List UInt8}
    {reading : Seconds} (begun : start ≤ reading) (past : reading ≤ now)
    (waited : now + lasting c (beyond c rate start n reading chunk) rate ≤ now') :
    (n : Rat) + chunk.length ≤ c.minLength + (now' - start) * rate := by
  have fast : (0 : Rat) < rate := by exact_mod_cast positive
  have counted : (playedIn c (reading - start) rate : Rat) ≤ (reading - start) * rate :=
    playedIn_le exact (sub_nonneg.2 begun) rate
  have least : ((n + chunk.length : Nat) : Rat) ≤
      (c.minLength + playedIn c (reading - start) rate + beyond c rate start n reading chunk : Nat) :=
    Nat.cast_le.2 (le_excess c n _ chunk.length)
  have slept : (beyond c rate start n reading chunk : Rat) ≤ (now' - now) * rate := by
    rw [lasting_exact exact, max_eq_left positive] at waited
    rw [← div_le_iff₀ fast]
    linarith
  have sooner : (reading - start) * (rate : Rat) ≤ (now - start) * rate :=
    mul_le_mul_of_nonneg_right (sub_le_sub_right past start) fast.le
  push_cast at least
  calc (n : Rat) + chunk.length
      ≤ c.minLength + playedIn c (reading - start) rate + beyond c rate start n reading chunk := least
    _ ≤ c.minLength + (now - start) * rate + (now' - now) * rate := by linarith
    _ = c.minLength + (now' - start) * rate := by ring

/-- When the remainder has passed, all has been played. -/
theorem played_of_rested (exact : c.arithmetic = .exact) (positive : 1 ≤ rate) {n : Nat} {reading : Seconds}
    (past : reading ≤ now) (rested : now + remainder c n rate (reading - start) ≤ now') :
    (n : Rat) / rate ≤ now' - start := by
  unfold remainder at rested
  rw [lasting_exact exact, max_eq_left positive] at rested
  split at rested <;> linarith

theorem Course.inTime (exact : c.arithmetic = .exact) (positive : 1 ≤ rate) {x x' : Spot}
    (move : Course c h rate start x r answer x') (forward : now ≤ now') (takes : Takes now now' r answer)
    (inTime : x.InTime c rate start now) : x'.InTime c rate start now' := by
  obtain ⟨begun, allows⟩ := inTime
  refine ⟨begun.trans forward, ?_⟩
  cases move with
  | read => exact ⟨begun.trans takes.1, takes.2⟩
  | waited => exact allows_of_waited exact positive allows.1 allows.2 takes
  | looked near =>
    -- A chunk that is within the target has been waited for no time at all.
    refine allows_of_waited exact positive allows.1 allows.2 ?_
    rw [near, lasting_exact exact, Nat.cast_zero, zero_div, add_zero]
    exact forward
  | rested => exact played_of_rested exact positive allows.2 takes
  | cutShort | halted | wrote | tore | left => trivial

/-- As far as the loop has come, it is in time. -/
theorem path_inTime (exact : c.arithmetic = .exact) (positive : 1 ≤ rate) {moment : Nat → Seconds}
    (began : start ≤ moment 0) {x : Spot} (path : Path (course c h rate start) (.head 0 chunks) trace x)
    (timed : Timed moment trace) : x.InTime c rate start (moment trace.length) := by
  refine path.keeps (fun trace x => Timed moment trace → x.InTime c rate start (moment trace.length))
    (fun _ => ⟨began, trivial⟩) ?_ timed
  intro trace x r answer x' inTime move timed
  rw [List.length_append, List.length_singleton]
  exact Course.inTime exact positive move (timed.forward _) timed.last (inTime timed.front)

/-! ## Two chunks -/

/-- Bytes that make two chunks. -/
def silence : List UInt8 := List.replicate 512 0

theorem chunks_silence : Sample.chunks chunkLength silence = [List.replicate 256 0, List.replicate 256 0] := by
  have cut : silence.take chunkLength = List.replicate 256 0 := by
    rw [silence, List.take_replicate]
    rfl
  have left : silence.drop chunkLength = List.replicate 256 0 := by
    rw [silence, List.drop_replicate]
    rfl
  have nonempty (n : Nat) : List.replicate (n + 1) (0 : UInt8) ≠ [] := List.cons_ne_nil _ _
  have whole : silence ≠ [] := nonempty 511
  rw [Sample.chunks_eq_cons (by decide) whole, cut, left,
    Sample.chunks_of_short (nonempty 255) (by rw [List.length_replicate]; decide)]

/-- A chunk that is beyond the target is waited for and written. -/
theorem goesOn_chunk {q : Action (Except Failure Bool)} {n : Nat} {chunk : List UInt8}
    (path : Path goesOn q trace (stream c h rate start n (chunk :: chunks))) (now : Seconds)
    (far : 0 < beyond c rate start n now chunk) :
    Path goesOn q (trace ++ [⟨.clock, now⟩] ++ [⟨.pause (lasting c (beyond c rate start n now chunk) rate), .timedOut⟩] ++
      [⟨.send h chunk, .ok ()⟩]) (stream c h rate start (n + chunk.length) chunks) := by
  have waits (k : Bool → Action (Except Failure Bool)) :
      (if 0 < beyond c rate start n now chunk then
        ((fun outcome => decide (outcome = .cancelled)) <$>
          pause (lasting c (beyond c rate start n now chunk) rate)) >>= k
      else cancelled >>= k) =
      .ask (.pause (lasting c (beyond c rate start n now chunk) rate)) fun outcome => k (decide (outcome = .cancelled)) := by
    rw [if_pos far]
    rfl
  have read := goesOn_next path rfl now
  have waited := goesOn_next read (waits _) WaitOutcome.timedOut
  exact goesOn_next waited rfl (Except.ok ())

/-- When all is written, the rest is waited for. -/
theorem goesOn_rest {q : Action (Except Failure Bool)} {n : Nat} (path : Path goesOn q trace (stream c h rate start n []))
    (now : Seconds) :
    Path goesOn q (trace ++ [⟨.clock, now⟩] ++ [⟨.pause (remainder c n rate (now - start)), .timedOut⟩])
      (.done (.ok false)) := by
  have read := goesOn_next path rfl now
  exact goesOn_next read rfl WaitOutcome.timedOut

/-- By how many bytes a chunk is beyond the target after so many seconds of 256 bytes. -/
theorem beyond_exactly (n seconds : Nat) (chunk : List UInt8) :
    beyond exactly 256 0 n (seconds : Rat) chunk = (n - seconds * 256) + chunk.length - 100 := by
  have whole : ((seconds : Rat) - 0) * (256 : Nat) = ((seconds * 256 : Nat) : Int) := by
    push_cast
    ring
  have played : playedIn exactly ((seconds : Rat) - 0) 256 = seconds * 256 := by
    rw [playedIn_exact rfl, whole, Rat.floor_intCast]
    rfl
  unfold beyond
  rw [played]
  rfl

/-- Three requests a second. -/
def secondly (i : Nat) : Seconds := ((i + 1) / 3 : Nat)

theorem secondly_forward (i : Nat) : secondly i ≤ secondly (i + 1) :=
  Nat.cast_le.2 (Nat.div_le_div_right (Nat.le_succ _))

/-- A reading of the clock and a wait of a second at most. -/
theorem Timed.second {span : Seconds} (timed : Timed secondly trace) (seconds : Nat) (length : trace.length = 3 * seconds)
    (short : span ≤ 1) :
    Timed secondly (trace ++ [⟨.clock, (seconds : Rat)⟩] ++ [⟨.pause span, .timedOut⟩]) := by
  have first : (3 * seconds + 1) / 3 = seconds := by omega
  have second : (3 * seconds + 1 + 1) / 3 = seconds := by omega
  have third : (3 * seconds + 1 + 1 + 1) / 3 = seconds + 1 := by omega
  refine (timed.snoc ?_).snoc ?_
  · rw [length]
    unfold secondly
    rw [first, second]
    exact ⟨le_refl _, le_refl _⟩
  · rw [List.length_append, length, List.length_singleton]
    show secondly (3 * seconds + 1) + span ≤ secondly (3 * seconds + 1 + 1)
    unfold secondly
    rw [second, third, Nat.cast_succ]
    linarith

/-- One more chunk of silence, which is in front of the listener as far as the target allows. -/
theorem goesOn_second {q : Action (Except Failure Bool)} {n : Nat} (seconds : Nat) (within : n ≤ seconds * 256)
    (path : Path goesOn q trace (stream exactly 0 256 0 n (List.replicate 256 0 :: chunks))) :
    Path goesOn q (trace ++ [⟨.clock, (seconds : Rat)⟩] ++ [⟨.pause (39 / 64), .timedOut⟩] ++
      [⟨.send 0 (List.replicate 256 0), .ok ()⟩]) (stream exactly 0 256 0 (n + 256) chunks) := by
  have far : beyond exactly 256 0 n (seconds : Rat) (List.replicate 256 0) = 156 := by
    rw [beyond_exactly, List.length_replicate]
    omega
  have span : lasting exactly 156 256 = 39 / 64 := by
    rw [lasting_exact rfl]
    norm_num
  have next := goesOn_chunk path (seconds : Rat) (far ▸ Nat.succ_pos _)
  rwa [far, span, List.length_replicate] at next

/-- The bytes are written in two seconds, and are played by then. -/
theorem path_silence : ∃ trace, Timed secondly trace ∧
    Path goesOn (stream exactly 0 256 0 0 (Sample.chunks chunkLength silence)) trace (.done (.ok false)) := by
  have short : (39 / 64 : Rat) ≤ 1 := by norm_num
  have nothing : remainder exactly (0 + 256 + 256) 256 ((2 : Nat) - 0 : Rat) = 0 := by
    unfold remainder
    rw [lasting_exact rfl]
    norm_num
  have timed : Timed secondly [] := timed_nil secondly_forward
  have path : Path goesOn (stream exactly 0 256 0 0 (Sample.chunks chunkLength silence)) [] _ := .start
  rw [chunks_silence] at path ⊢
  replace path := goesOn_second 0 (Nat.zero_le _) path
  replace path := goesOn_second 1 (Nat.le_refl _) path
  replace path := goesOn_rest path ((2 : Nat) : Rat)
  rw [nothing] at path
  refine ⟨_, ?_, path⟩
  replace timed := (timed.second 0 rfl short).write 0 (List.replicate 256 0) (.ok ())
  replace timed := (timed.second 1 rfl short).write 0 (List.replicate 256 0) (.ok ())
  exact timed.second 2 rfl (by norm_num)

/-- The clock is late before the second chunk. -/
theorem path_late : ∃ front back,
    Path goesOn (stream exactly 0 256 0 0 (Sample.chunks chunkLength silence))
      (front ++ ⟨.clock, (10 : Rat)⟩ :: ⟨.pause (39 / 64), .timedOut⟩ :: back) (stream exactly 0 256 0 512 []) ∧
    written front = List.replicate 256 0 := by
  have path : Path goesOn (stream exactly 0 256 0 0 (Sample.chunks chunkLength silence)) [] _ := .start
  rw [chunks_silence] at path ⊢
  replace path := goesOn_second 0 (Nat.zero_le _) path
  replace path := goesOn_second 10 (by decide) path
  rw [List.append_assoc _ [_] [_], List.append_assoc] at path
  exact ⟨_, _, path, (written_wrote _ _ _).trans (List.nil_append _)⟩

/-! ## Never too early -/

/-- A write is made of a chunk that has been cleared. -/
theorem Course.send {x x' : Spot} {g : Handle} {chunk : List UInt8} {answer : Except Failure Unit}
    (move : Course c h rate start x (.send g chunk) answer x') : ∃ n rest, x = .cleared n chunk rest := by
  cases move with
  | wrote | tore => exact ⟨_, _, rfl⟩

/-- **The sender is never further ahead than the target.** Whatever the clock shows and however late a wait ends: when a
    write begins, what has been written, with the chunk, is no more than the target length in front of real time. A loop
    that comes to its end without a stop has written everything, and has lasted as long as that takes to be played. -/
theorem never_ahead_of_target (exact : c.arithmetic = .exact) (positive : 1 ≤ rate) {moment : Nat → Seconds}
    (began : start ≤ moment 0) {bytes : List UInt8} (timed : Timed moment trace)
    (path : Path goesOn (stream c h rate start 0 (Sample.chunks chunkLength bytes)) trace p) :
    (∀ front g chunk answer back, trace = front ++ ⟨.send g chunk, answer⟩ :: back →
      ((written front).length : Rat) + chunk.length ≤ c.minLength + (moment front.length - start) * rate) ∧
    (p = .done (.ok false) →
      written trace = bytes ∧ (bytes.length : Rat) / rate ≤ moment trace.length - start) := by
  obtain ⟨x, path, follow⟩ := follows_goesOn path (stream_course 0 _)
  constructor
  · rintro front g chunk answer back rfl
    obtain ⟨_, _, path, move, -⟩ := path.cutAt
    obtain ⟨n, rest, rfl⟩ := move.send
    have counted : n = (written front).length := Before.length_eq (path_sent path)
    have allowed := (path_inTime exact positive began path timed.front).allows
    rw [← counted]
    exact allowed
  · rintro rfl
    obtain ⟨n, rfl⟩ : Ended x (.ok false) := follow
    have before : Before _ trace n [] := path_sent path
    have all : written trace = bytes := before.flatten.trans (Sample.flatten_chunks _ _)
    have allowed := (path_inTime exact positive began path timed).allows
    rw [before.length_eq, all] at allowed
    exact ⟨all, allowed⟩

/-- Both chunks go out in time, and the loop lasts as long as they do. -/
theorem silence_never_ahead : ∃ trace, Timed secondly trace ∧
    Path goesOn (stream exactly 0 256 0 0 (Sample.chunks chunkLength silence)) trace (.done (.ok false)) ∧
    (∀ front g chunk answer back, trace = front ++ ⟨.send g chunk, answer⟩ :: back →
      ((written front).length : Rat) + chunk.length ≤ exactly.minLength + (secondly front.length - 0) * (256 : Nat)) ∧
    written trace = silence ∧ (silence.length : Rat) / (256 : Nat) ≤ secondly trace.length - 0 := by
  obtain ⟨trace, timed, path⟩ := path_silence
  have start : (0 : Seconds) ≤ secondly 0 := le_refl _
  obtain ⟨early, whole⟩ := never_ahead_of_target rfl (by decide) start timed path
  exact ⟨trace, timed, path, early, whole rfl⟩

/-! ## Waiting longer than the target asks -/

/-- By how many bytes a chunk would be beyond the target, in front of what has been played. -/
def due (c : Config) (n played chunk : Nat) : Nat := n + chunk - (c.minLength + played)

/-- What is waited for on top: where more has been played than written, the difference is taken for none. -/
def late (c : Config) (n played chunk : Nat) : Nat := min (played - n) (chunk - c.minLength)

theorem excess_eq (c : Config) (n played chunk : Nat) :
    excess c n played chunk = due c n played chunk + late c n played chunk := by
  unfold excess due late
  omega

theorem late_eq_zero_iff {n played chunk : Nat} :
    late c n played chunk = 0 ↔ played ≤ n ∨ chunk ≤ c.minLength := by
  unfold late
  omega

/-- How long a request waits. -/
def Request.span : Simple.Request → Seconds
  | .pause span => span
  | _ => 0

/-- What follows a reading of the clock while chunks are left. -/
theorem Course.waits (exact : c.arithmetic = .exact) {n : Nat} {chunk : List UInt8} {rest : List (List UInt8)} {x' : Spot}
    (move : Course c h rate start (.shown n (chunk :: rest) now) r answer x') :
    (r = if beyond c rate start n now chunk = 0 then .cancelled
      else .pause ((beyond c rate start n now chunk : Rat) / (max rate 1 : Nat))) ∧
    r.span = (beyond c rate start n now chunk : Rat) / (max rate 1 : Nat) := by
  cases move with
  | waited far | cutShort far =>
    rw [if_neg (Nat.ne_of_gt far), lasting_exact exact]
    exact ⟨rfl, rfl⟩
  | looked near | halted near =>
    rw [if_pos near, near, Nat.cast_zero, zero_div]
    exact ⟨rfl, rfl⟩

/-- After the clock has been read, the next chunk is waited for. -/
theorem path_reading {x : Spot} {front back : Trace Simple.Interface}
    (path : Path (course c h rate start) (.head 0 chunks) (front ++ ⟨.clock, now⟩ :: ⟨r, answer⟩ :: back) x)
    (unwritten : written front ≠ chunks.flatten) :
    ∃ n chunk rest x', Before chunks front n (chunk :: rest) ∧
      Course c h rate start (.shown n (chunk :: rest) now) r answer x' := by
  obtain ⟨_, _, path, move, later⟩ := path.cutAt
  obtain ⟨x', next, -⟩ := later.head
  have sent := path_sent path
  cases move with
  | @read n rest =>
    cases rest with
    | nil => exact absurd (Before.flatten sent) unwritten
    | cons chunk rest => exact ⟨n, chunk, rest, x', sent, next⟩

/-- **A wait is as long as the target asks for, unless the sender is behind and the chunk is long.** The bytes by which a
    chunk would be beyond the target are waited for; and if more has been played than written, the difference is waited for
    as well, up to what the chunk is longer than the target. -/
theorem waits_as_due_iff (exact : c.arithmetic = .exact) {bytes : List UInt8} {front back : Trace Simple.Interface}
    (path : Path goesOn (stream c h rate start 0 (Sample.chunks chunkLength bytes))
      (front ++ ⟨.clock, now⟩ :: ⟨r, answer⟩ :: back) p)
    (unwritten : written front ≠ bytes) :
    ∃ done chunk rest, Sample.chunks chunkLength bytes = done ++ chunk :: rest ∧ written front = done.flatten ∧
      let n := (written front).length
      let played := ((now - start) * rate).floor.toNat
      (r = if due c n played chunk.length + late c n played chunk.length = 0 then .cancelled
        else .pause ((due c n played chunk.length + late c n played chunk.length : Nat) / (max rate 1 : Nat))) ∧
      (r.span = (due c n played chunk.length : Rat) / (max rate 1 : Nat) ↔ played ≤ n ∨ chunk.length ≤ c.minLength) := by
  obtain ⟨x, path, -⟩ := follows_goesOn path (stream_course 0 _)
  rw [← Sample.flatten_chunks chunkLength bytes] at unwritten
  obtain ⟨_, chunk, rest, x', ⟨done, cut, same, rfl⟩, move⟩ := path_reading path unwritten
  refine ⟨done, chunk, rest, cut, same, ?_⟩
  intro n played
  have split : beyond c rate start n now chunk = due c n played chunk.length + late c n played chunk.length := by
    unfold beyond
    rw [playedIn_exact exact]
    exact excess_eq c n played chunk.length
  obtain ⟨asked, span⟩ := move.waits exact
  rw [split] at asked span
  refine ⟨asked, ?_⟩
  have nonzero : ((max rate 1 : Nat) : Rat) ≠ 0 := Nat.cast_ne_zero.2 (by omega)
  rw [span, div_left_inj' nonzero, Nat.cast_inj, Nat.add_eq_left, late_eq_zero_iff]

/-- What is waited for before the second chunk, which is late. -/
theorem late_wait : ∃ front back p,
    Path goesOn (stream exactly 0 256 0 0 (Sample.chunks chunkLength silence))
      (front ++ ⟨.clock, (10 : Rat)⟩ :: ⟨.pause (39 / 64), .timedOut⟩ :: back) p ∧ written front ≠ silence ∧
    ∃ done chunk rest, Sample.chunks chunkLength silence = done ++ chunk :: rest ∧ written front = done.flatten ∧
      let n := (written front).length
      let played := (((10 : Rat) - 0) * (256 : Nat)).floor.toNat
      (.pause (39 / 64) = if due exactly n played chunk.length + late exactly n played chunk.length = 0 then .cancelled
        else Request.pause
          ((due exactly n played chunk.length + late exactly n played chunk.length : Nat) / (max 256 1 : Nat))) ∧
      ((Request.pause (39 / 64)).span = (due exactly n played chunk.length : Rat) / (max 256 1 : Nat) ↔
        played ≤ n ∨ chunk.length ≤ exactly.minLength) := by
  obtain ⟨front, back, path, same⟩ := path_late
  have unwritten : written front ≠ silence := by
    intro whole
    have lengths := congrArg List.length (same.symm.trans whole)
    rw [silence, List.length_replicate, List.length_replicate] at lengths
    exact absurd lengths (by decide)
  exact ⟨front, back, _, path, unwritten, waits_as_due_iff rfl path unwritten⟩

/-- **A sender that is behind waits all the same.** After ten seconds one chunk has been written, and the second one would
    not even make up for what has been played since; but more than half a second is waited for it. -/
theorem behind_yet_waiting : ∃ front back p,
    Path goesOn (stream exactly 0 256 0 0 (Sample.chunks chunkLength silence))
      (front ++ ⟨.clock, (10 : Rat)⟩ :: ⟨.pause (39 / 64), .timedOut⟩ :: back) p ∧
    written front = List.replicate 256 0 ∧ (256 : Rat) + 256 ≤ exactly.minLength + (10 - 0) * (256 : Nat) ∧
    due exactly 256 2560 256 = 0 := by
  obtain ⟨front, back, path, same⟩ := path_late
  refine ⟨front, back, _, path, same, ?_, by decide⟩
  show (256 : Rat) + 256 ≤ (100 : Nat) + (10 - 0) * (256 : Nat)
  norm_num

end Playout.Simple
