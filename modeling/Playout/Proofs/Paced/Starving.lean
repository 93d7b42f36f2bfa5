import Playout.Proofs.Paced.Counting

/-!
# `Playout.Proofs.Paced.Starving` — a playback ends on every device

A round that finds something free does something with at least one byte, so that there are no more of them than bytes.
A round that finds nothing free sleeps. The loop remembers since when it has found nothing, and forgets it when it finds
something, so that an unbroken stretch of such rounds is as short as the limit demands.

## Contents
- `clockOf`, `Timely` — a clock that does not go back, and naps that take their time.
- `freeRounds`, `Spot.chances`, `freeRounds_le` — rounds that find something free.
- `Vigil`, `Waits`, `stream_vigil` — the protocol: since when nothing has been free.
- `Fresh`, `Unbroken`, `Hungry`, `Vigil.Kept`, `Waits.kept` — how long a stretch is that has not been broken.
- `starved_run_le`, `stalled_after` — such a stretch is short, and a device is given up only after it.
- `loop_ends` — both together, so that the loop ends.
- `path_stalled` — a loop that gives its device up.
-/

namespace Playout.Paced

open Interleaving Program

variable {c : Config} {frameBytes rate rounds : Nat} {x x' : Spot} {r : Paced.Request} {answer : Paced.Request.Answer r}
  {trace : Trace Paced.Interface} {bytes : List UInt8} {p : Action (Except PlayError Bool)}

/-! ## The clock -/

/-- The least that the clock can show after a trace. -/
def clockOf (trace : Trace Paced.Interface) : Option Seconds := trace.foldl (fun now y => tick now y.1 y.2) none

/-- The clock has not gone back, and every nap has taken its time. -/
def Timely (trace : Trace Paced.Interface) : Prop :=
  ∀ front moment back, trace = front ++ ⟨.clock, moment⟩ :: back → ∀ now, clockOf front = some now → now ≤ moment

theorem clockOf_snoc (trace : Trace Paced.Interface) (r : Paced.Request) (answer : Paced.Request.Answer r) :
    clockOf (trace ++ [⟨r, answer⟩]) = tick (clockOf trace) r answer := by
  unfold clockOf
  rw [List.foldl_append]
  rfl

theorem Timely.front {back : Trace Paced.Interface} (timely : Timely (trace ++ back)) : Timely trace := by
  intro front moment between parts
  refine timely front moment (between ++ back) ?_
  rw [parts, List.append_assoc, List.cons_append]

theorem Timely.last {moment : Seconds} (timely : Timely (trace ++ [⟨.clock, moment⟩])) :
    ∀ now, clockOf trace = some now → now ≤ moment := timely trace moment [] rfl

theorem timely_nil : Timely [] := by
  intro front moment back parts
  cases front <;> cases parts

/-- One more request, which may be another reading of the clock. -/
theorem Timely.snoc {y : Σ r : Paced.Request, Paced.Request.Answer r} (timely : Timely trace)
    (later : ∀ moment, y = ⟨.clock, moment⟩ → ∀ now, clockOf trace = some now → now ≤ moment) : Timely (trace ++ [y]) := by
  intro front moment back parts
  rcases split_snoc parts with ⟨rfl, same, -⟩ | ⟨between, earlier, -⟩
  · exact later moment same
  · exact timely front moment between earlier

/-- A request that has nothing to do with time. -/
def Request.untimed : Paced.Request → Bool
  | .clock | .nap _ | .space => false
  | _ => true

theorem clockOf_untimed (untimed : r.untimed = true) : clockOf (trace ++ [⟨r, answer⟩]) = clockOf trace := by
  rw [clockOf_snoc]
  cases r with
  | clock | nap => cases untimed
  | _ => rfl

/-! ## Rounds that find something free -/

/-- The rounds that have found something free. -/
def freeRounds (trace : Trace Paced.Interface) : Nat := (spaces trace).countP fun s => !s.isStarved

/-- How many more rounds can find something free. -/
def Spot.chances : Spot → Nat
  | head rest _ | cleared rest _ | starved rest _ | filled _ _ rest _ => rest.length
  -- The round has found something free, and its first chunk has not been counted yet.
  | writing (some _) _ _ rest _ | doubted (some _) _ _ rest _ => rest.length - 1
  | writing none _ _ rest _ | doubted none _ _ rest _ => rest.length
  | _ => 0

theorem freeRounds_untold (untold : told? ⟨r, answer⟩ = none) : freeRounds (trace ++ [⟨r, answer⟩]) = freeRounds trace := by
  unfold freeRounds spaces
  rw [filterMap_snoc_none untold]

theorem freeRounds_told (s : BufferSpace) : freeRounds (trace ++ [⟨.space, some (.ok s)⟩]) =
    freeRounds trace + if s.isStarved then 0 else 1 := by
  unfold freeRounds
  rw [spaces_snoc, told?, Option.toList_some, List.countP_append, List.countP_singleton]
  cases s.isStarved <;> rfl

/-- What is counted of a chunk pays for the round. -/
theorem chances_filled {tail : Option BufferSpace} {chunk rest : List UInt8} {written written' n : Nat} {lead : Option Rat}
    (counts : 0 < n) : (Spot.filled tail written' (rest.drop n) lead).chances ≤
      (Spot.writing tail chunk written rest lead).chances := by
  have shorter : (rest.drop n).length ≤ rest.length - 1 := by
    rw [List.length_drop]
    omega
  cases tail with
  | none => exact shorter.trans (Nat.sub_le ..)
  | some => exact shorter

theorem Course.chances (move : Course c frameBytes rate x r answer x') (sound : x.Sound) :
    freeRounds (trace ++ [⟨r, answer⟩]) + x'.chances ≤ freeRounds trace + x.chances := by
  cases move with
  | idle idle => rw [freeRounds_untold (idle_nothing idle).2]
  | @free s rest lead free =>
    have due : 0 < rest.length := List.length_pos_iff.2 sound
    rw [freeRounds_told, free]
    show freeRounds trace + 1 + (rest.length - 1) ≤ freeRounds trace + rest.length
    omega
  | full full =>
    rw [freeRounds_told, full]
    exact Nat.le_refl _
  | @lost rest lead answer failed =>
    have untold : told? ⟨.space, answer⟩ = none := by
      rcases answer with _ | failure | s
      · rfl
      · rfl
      · exact absurd rfl (failed s)
    rw [freeRounds_untold untold]
    exact Nat.add_le_add_left (Nat.zero_le _) _
  | put =>
    rw [freeRounds_untold rfl]
    exact Nat.add_le_add_left (chances_filled (Nat.succ_pos _)) _
  | @tore tail =>
    rw [freeRounds_untold rfl]
    cases tail <;> exact Nat.le_refl _
  | @excused tail chunk written rest lead =>
    rw [freeRounds_untold rfl]
    refine Nat.add_le_add_left ?_ _
    have paid : (Spot.filled tail written (rest.drop chunk.length) lead).chances ≤
        (Spot.writing tail chunk written rest lead).chances :=
      chances_filled (List.length_pos_iff.2 sound.1)
    refine paid.trans ?_
    cases tail <;> exact Nat.le_refl _
  | clear | napped | tail | paced =>
    rw [freeRounds_untold rfl]
    exact Nat.le_refl _
  | halt | refused | gaveUp | stopped | rested | cutShort =>
    rw [freeRounds_untold rfl]
    exact Nat.add_le_add_left (Nat.zero_le _) _

/-- There are no more rounds that find something free than there are bytes. -/
theorem freeRounds_le (path : Path (course c frameBytes rate) (.head bytes none) trace x) :
    freeRounds trace ≤ bytes.length := by
  suffices all : x.Sound ∧ freeRounds trace + x.chances ≤ bytes.length from (Nat.le_add_right ..).trans all.2
  refine path.keeps (fun trace x => x.Sound ∧ freeRounds trace + x.chances ≤ bytes.length) ⟨trivial, ?_⟩ ?_
  · exact Nat.le_of_eq (Nat.zero_add _)
  · rintro trace x r answer x' ⟨sound, within⟩ move
    exact ⟨move.sound sound, (move.chances sound).trans within⟩

/-! ## Since when nothing has been free -/

/-- What the loop knows of the time since which nothing has been free. -/
inductive Vigil where
  /-- The free space is going to be asked for. Nothing has been free since that moment, if there is one. -/
  | head (since : Option Seconds)
  /-- Nothing is free, and the clock is going to be read. -/
  | full (since : Option Seconds)
  /-- It has not lasted too long. -/
  | patient (since : Seconds)
  /-- It has lasted too long, and the clock is read again for the message. -/
  | late (since : Seconds)
  | stalled (since moment : Seconds)

/-- Whether the clock is not just about to be read. -/
def Vigil.calm : Vigil → Bool
  | full _ | late _ => false
  | _ => true

/-- How a request changes what the loop knows. -/
inductive Waits (c : Config) : Vigil → (r : Paced.Request) → Paced.Request.Answer r → Vigil → Prop where
  | pass {v r answer} (untimed : r.untimed = true) (calm : v.calm = true) : Waits c v r answer v
  | lost {since answer} (failed : ∀ s, answer ≠ some (.ok s)) : Waits c (.head since) .space answer (.head since)
  -- Something free ends the wait.
  | free {since s} (free : s.isStarved = false) : Waits c (.head since) .space (some (.ok s)) (.head none)
  | full {since s} (full : s.isStarved = true) : Waits c (.head since) .space (some (.ok s)) (.full since)
  | begin {moment} : Waits c (.full none) .clock moment (.full (some moment))
  | early {since moment : Seconds} (within : moment - since ≤ c.pacing.maxFragmentWait) :
      Waits c (.full (some since)) .clock moment (.patient since)
  | late {since moment : Seconds} (beyond : c.pacing.maxFragmentWait < moment - since) :
      Waits c (.full (some since)) .clock moment (.late since)
  | again {since moment} : Waits c (.late since) .clock moment (.stalled since moment)
  | napped {since} : Waits c (.patient since) (.nap napLength) () (.head (some since))

/-- The protocol. -/
def vigil (c : Config) : Moves Paced.Interface Vigil := fun v r answer v' => Waits c v r answer v'

/-- The loop gives a device up only where it has stalled. -/
def GivesUp (v : Vigil) (e : PlayError) : Prop :=
  ∀ millis, e = .deviceStalled millis → ∃ since moment, v = .stalled since moment ∧ millis = (moment - since).wholeMillis

section Programs

variable {α : Type} {ends : Vigil → α → Prop} {v : Vigil}

/-- A request that has nothing to do with time. -/
theorem passing {r : Paced.Request} {next : Paced.Request.Answer r → Action α} (untimed : r.untimed = true)
    (calm : v.calm = true) (rest : ∀ answer, (next answer).Follows (vigil c) ends v) :
    (Program.ask r next).Follows (vigil c) ends v :=
  Follows.stay (fun _ => .pass untimed calm) rest

/-- How a round ends. -/
def RoundWaits (v : Vigil) : Round → Prop
  | .goOn p => v = .head p.starvedSince
  | .stopped => True
  | .failed e => GivesUp v e

/-- A write fails for other reasons. -/
def WriteWaits (v : Vigil) (outcome : Except PlayError Nat) : Prop :=
  v = .head none ∧ ∀ millis, outcome ≠ .error (.deviceStalled millis)

theorem writeChunk_vigil (chunk : List UInt8) : (writeChunk chunk).Follows (vigil c) WriteWaits (.head none) := by
  have doubted (failure : Failure) : (excuse chunk failure).Follows (vigil c) WriteWaits (.head none) := by
    refine passing rfl rfl ?_
    rintro (_ | _)
    · exact passing rfl rfl fun _ => Follows.done ⟨rfl, nofun⟩
    · exact Follows.done ⟨rfl, nofun⟩
  refine passing rfl rfl ?_
  rintro (_ | failure | n)
  · exact doubted slotEmpty
  · exact doubted failure
  · cases n with
    | zero => exact Follows.done ⟨rfl, nofun⟩
    | succ n => exact Follows.done ⟨rfl, nofun⟩

theorem starve_vigil (p : Progress) : (starve c p).Follows (vigil c) RoundWaits (.full p.starvedSince) := by
  have asleep (since : Seconds) : (starveSince c p since).Follows (vigil c) RoundWaits (.full (some since)) := by
    intro moment
    simp only [done_bind]
    split
    · next beyond =>
      refine ⟨_, .late beyond, fun moment' => ⟨_, .again, passing rfl rfl fun _ => Follows.done ?_⟩⟩
      rintro _ ⟨⟩
      exact ⟨since, moment', rfl, rfl⟩
    · next within =>
      refine ⟨_, .early (le_of_not_gt within), passing rfl rfl fun _ _ => ⟨_, .napped, Follows.done rfl⟩⟩
  unfold starve
  cases p.starvedSince with
  | some since => exact asleep since
  | none => exact fun since => ⟨_, .begin, asleep since⟩

theorem waitOut_vigil (text : String) (span : Seconds) {p : Progress} (known : p.starvedSince = none) :
    (waitOut text span p).Follows (vigil c) RoundWaits (.head none) := by
  refine passing rfl rfl fun _ => passing rfl rfl ?_
  rintro (_ | _)
  · exact passing rfl rfl fun _ => Follows.done trivial
  · refine Follows.done ?_
    show Vigil.head none = .head p.starvedSince
    rw [known]

theorem givesUp_of_write {v : Vigil} {e : PlayError} (wrote : WriteWaits v (.error e)) : GivesUp v e := by
  rintro millis rfl
  exact absurd rfl (wrote.2 millis)

theorem fill_vigil (frameBytes rate : Nat) (s : BufferSpace) (p : Progress) :
    (fill c frameBytes rate s p).Follows (vigil c) RoundWaits (.head none) := by
  refine passing rfl rfl fun _ => ?_
  simp only [done_bind]
  refine Follows.bind (writeChunk_vigil _) ?_
  rintro v (e | written) wrote
  · exact Follows.done (givesUp_of_write wrote)
  · obtain rfl := wrote.1
    dsimp only
    split
    · refine passing rfl rfl fun _ => ?_
      simp only [done_bind]
      refine Follows.bind (writeChunk_vigil _) ?_
      rintro v (e | extra) wrote
      · exact Follows.done (givesUp_of_write wrote)
      · obtain rfl := wrote.1
        exact waitOut_vigil _ _ rfl
    · exact waitOut_vigil _ _ rfl

theorem round_vigil (frameBytes rate : Nat) (p : Progress) :
    (round c frameBytes rate p).Follows (vigil c) RoundWaits (.head p.starvedSince) := by
  have lost (failure : Failure) : (queryFailed failure).Follows (vigil c) RoundWaits (.head p.starvedSince) :=
    passing rfl rfl fun _ => Follows.done nofun
  refine passing rfl rfl ?_
  rintro (_ | _)
  · rintro (_ | failure | s)
    · exact ⟨_, .lost nofun, lost slotEmpty⟩
    · exact ⟨_, .lost nofun, lost failure⟩
    · simp only [Option.getD_some, done_bind]
      split
      · next full => exact ⟨_, .full full, starve_vigil p⟩
      · next free => exact ⟨_, .free (Bool.not_eq_true _ ▸ free), fill_vigil frameBytes rate s p⟩
  · exact Follows.done trivial

theorem settle_vigil (lead : Option Rat) {since : Option Seconds} :
    (settle c lead).Follows (vigil c) (fun _ _ => True) (.head since) := by
  unfold settle
  cases lead with
  | none => exact Follows.done trivial
  | some lead =>
    dsimp only
    split
    · exact passing rfl rfl fun _ => passing rfl rfl fun _ => Follows.done trivial
    · exact Follows.done trivial

/-- The loop keeps to the protocol. -/
theorem stream_vigil (frameBytes rate rounds : Nat) (p : Progress) : (stream c frameBytes rate rounds p).Follows (vigil c)
    (fun v outcome => ∀ e, outcome = .error e → GivesUp v e) (.head p.starvedSince) := by
  induction rounds generalizing p with
  | zero => trivial
  | succ rounds ih =>
    unfold stream
    split
    · refine Follows.bind (settle_vigil p.lead) fun _ _ _ => Follows.done ?_
      intro e failed
      cases failed
    · refine Follows.bind (round_vigil frameBytes rate p) ?_
      rintro v (p' | _ | e) ended
      · obtain rfl : v = .head p'.starvedSince := ended
        exact ih p'
      · refine Follows.done ?_
        intro e failed
        cases failed
      · refine Follows.done ?_
        rintro _ ⟨⟩
        exact ended

end Programs

/-! ## How long nothing has been free -/

/-- Something was free when it was asked last, if it was asked. -/
def Fresh (trace : Trace Paced.Interface) : Prop := ∀ s, lastSpace trace = some s → s.isStarved = false

/-- Right behind a round that found nothing free, and was the first one to do so, the clock showed `since`. In `between`
    nothing has been free either. -/
structure Unbroken (trace : Trace Paced.Interface) (since : Seconds) (between : Trace Paced.Interface) : Prop where
  begun : ∃ front s, trace = front ++ ⟨.space, some (.ok s)⟩ :: ⟨.clock, since⟩ :: between ∧ Fresh front ∧
    s.isStarved = true
  starved : ∀ s ∈ spaces between, s.isStarved = true

/-- Naps for which the limit leaves time. -/
def mostNaps (pacing : Pacing) : Nat := (pacing.maxFragmentWait / napLength).floor.toNat

/-- So many naps have been taken since nothing has been free, and there was time for all of them but the last. -/
structure Hungry (c : Config) (trace : Trace Paced.Interface) (since : Seconds) (between : Trace Paced.Interface)
    (naps : Nat) : Prop where
  unbroken : Unbroken trace since between
  slept : ∃ now, clockOf trace = some now ∧ since + naps * napLength ≤ now
  few : naps ≤ mostNaps c.pacing + 1

/-- What the loop knows is so. -/
def Vigil.Kept (c : Config) (trace : Trace Paced.Interface) : Vigil → Prop
  | head none => Fresh trace
  | full none => ∃ front s, trace = front ++ [⟨.space, some (.ok s)⟩] ∧ Fresh front ∧ s.isStarved = true
  | head (some since) => ∃ between, Hungry c trace since between ((spaces between).length + 1)
  | full (some since) => ∃ between, Hungry c trace since between (spaces between).length
  | patient since => ∃ between moment, Hungry c trace since between (spaces between).length ∧
      clockOf trace = some moment ∧ moment - since ≤ c.pacing.maxFragmentWait
  | late since => ∃ between moment, Unbroken trace since (between ++ [⟨.clock, moment⟩]) ∧
      (spaces between).length ≤ mostNaps c.pacing + 1 ∧ clockOf trace = some moment ∧
      c.pacing.maxFragmentWait < moment - since
  | stalled since moment' => ∃ between moment after,
      Unbroken trace since (between ++ ⟨.clock, moment⟩ :: ⟨.clock, moment'⟩ :: after) ∧
      (spaces between).length ≤ mostNaps c.pacing + 1 ∧ spaces after = [] ∧ moment ≤ moment' ∧
      c.pacing.maxFragmentWait < moment - since

section Kept

variable {v v' : Vigil} {since : Seconds} {between : Trace Paced.Interface} {naps : Nat}

theorem spaces_untold (untold : told? ⟨r, answer⟩ = none) : spaces (trace ++ [⟨r, answer⟩]) = spaces trace :=
  filterMap_snoc_none untold trace

theorem spaces_append (front back : Trace Paced.Interface) : spaces (front ++ back) = spaces front ++ spaces back :=
  List.filterMap_append

theorem told?_untimed (untimed : r.untimed = true) : told? ⟨r, answer⟩ = none := by
  cases r with
  | space => cases untimed
  | _ => rfl

theorem told?_lost {answer : Paced.Request.Answer .space} (failed : ∀ s, answer ≠ some (.ok s)) :
    told? ⟨.space, answer⟩ = none := by
  rcases answer with _ | failure | s
  · rfl
  · rfl
  · exact absurd rfl (failed s)

/-- Nothing but rounds that find nothing free makes the stretch longer. -/
theorem Unbroken.snoc (unbroken : Unbroken trace since between) (y : Σ r : Paced.Request, Paced.Request.Answer r)
    (starved : ∀ s, told? y = some s → s.isStarved = true) : Unbroken (trace ++ [y]) since (between ++ [y]) where
  begun := by
    obtain ⟨front, s, rfl, fresh, full⟩ := unbroken.begun
    exact ⟨front, s, by simp, fresh, full⟩
  starved s mem := by
    rw [spaces_snoc] at mem
    rcases List.mem_append.1 mem with mem | mem
    · exact unbroken.starved s mem
    · exact starved s (Option.mem_toList.1 mem)

/-- A request that is told of nothing. -/
theorem Unbroken.untold (unbroken : Unbroken trace since between) {y : Σ r : Paced.Request, Paced.Request.Answer r}
    (untold : told? y = none) : Unbroken (trace ++ [y]) since (between ++ [y]) := by
  refine unbroken.snoc y fun s told => ?_
  rw [untold] at told
  cases told

/-- A request that is told of nothing and takes no time. -/
theorem Hungry.snoc (hungry : Hungry c trace since between naps) (untold : told? ⟨r, answer⟩ = none)
    (still : clockOf (trace ++ [⟨r, answer⟩]) = clockOf trace) :
    Hungry c (trace ++ [⟨r, answer⟩]) since (between ++ [⟨r, answer⟩]) naps where
  unbroken := hungry.unbroken.untold untold
  slept := still ▸ hungry.slept
  few := hungry.few

/-- A request that is told of nothing, takes no time and leaves what the loop knows. -/
theorem Vigil.Kept.pass (kept : v.Kept c trace) (calm : v.calm = true) (untold : told? ⟨r, answer⟩ = none)
    (still : clockOf (trace ++ [⟨r, answer⟩]) = clockOf trace) : v.Kept c (trace ++ [⟨r, answer⟩]) := by
  cases v with
  | full | late => cases calm
  | head since =>
    cases since with
    | none =>
      intro s last
      rw [lastSpace_snoc trace untold] at last
      exact kept s last
    | some since =>
      obtain ⟨between, hungry⟩ := kept
      refine ⟨between ++ [⟨r, answer⟩], ?_⟩
      rw [spaces_untold untold]
      exact hungry.snoc untold still
  | patient since =>
    obtain ⟨between, moment, hungry, shows, within⟩ := kept
    refine ⟨between ++ [⟨r, answer⟩], moment, ?_, still.trans shows, within⟩
    rw [spaces_untold untold]
    exact hungry.snoc untold still
  | stalled since moment' =>
    obtain ⟨between, moment, after, unbroken, few, silent, later, beyond⟩ := kept
    refine ⟨between, moment, after ++ [⟨r, answer⟩], ?_, few, (spaces_untold untold).trans silent, later, beyond⟩
    rw [← List.cons_append, ← List.cons_append, ← List.append_assoc]
    exact unbroken.untold untold

/-- **What the loop knows of the time is kept by every request.** -/
theorem Waits.kept (move : Waits c v r answer v') (kept : v.Kept c trace) (timely : Timely (trace ++ [⟨r, answer⟩])) :
    v'.Kept c (trace ++ [⟨r, answer⟩]) := by
  cases move with
  | pass untimed calm => exact kept.pass calm (told?_untimed untimed) (clockOf_untimed untimed)
  | lost failed => exact kept.pass rfl (told?_lost failed) (clockOf_snoc ..)
  | @free since s free =>
    intro s' last
    have same : lastSpace (trace ++ [⟨.space, some (.ok s)⟩]) = some s := by simp [lastSpace, spaces_snoc, told?]
    obtain rfl := Option.some.inj (same.symm.trans last)
    exact free
  | @full since s full =>
    cases since with
    | none => exact ⟨trace, s, rfl, kept, full⟩
    | some since =>
      -- The naps taken so far are as many as the rounds in between, this one included.
      obtain ⟨between, unbroken, slept, few⟩ := kept
      refine ⟨between ++ [⟨.space, some (.ok s)⟩], unbroken.snoc _ ?_, ?_, ?_⟩
      · rintro _ ⟨⟩
        exact full
      · rw [clockOf_snoc, spaces_snoc, List.length_append]
        exact slept
      · rw [spaces_snoc, List.length_append]
        exact few
  | @begin moment =>
    obtain ⟨front, s, rfl, fresh, full⟩ := kept
    refine ⟨[], ⟨⟨front, s, by simp, fresh, full⟩, List.forall_mem_nil _⟩, ⟨moment, clockOf_snoc .., ?_⟩, Nat.zero_le _⟩
    show moment + ((0 : Nat) : Rat) * napLength ≤ moment
    simp
  | @early since moment within =>
    obtain ⟨between, unbroken, ⟨now, shows, slept⟩, few⟩ := kept
    have later := timely.last now shows
    refine ⟨between ++ [⟨.clock, moment⟩], moment, ⟨unbroken.untold rfl, ⟨moment, clockOf_snoc .., ?_⟩, ?_⟩,
      clockOf_snoc .., within⟩
    · rw [spaces_untold rfl]
      exact slept.trans later
    · rw [spaces_untold rfl]
      exact few
  | @late since moment beyond =>
    obtain ⟨between, unbroken, -, few⟩ := kept
    exact ⟨between, moment, unbroken.untold rfl, few, clockOf_snoc .., beyond⟩
  | @again since moment' =>
    obtain ⟨between, moment, unbroken, few, shows, beyond⟩ := kept
    refine ⟨between, moment, [], ?_, few, rfl, timely.last moment shows, beyond⟩
    have longer := @Unbroken.untold _ _ _ unbroken ⟨.clock, moment'⟩ rfl
    rwa [List.append_assoc] at longer
  | @napped since =>
    obtain ⟨between, moment, ⟨unbroken, ⟨now, shows', slept⟩, -⟩, shows, within⟩ := kept
    obtain rfl := Option.some.inj (shows'.symm.trans shows)
    have few : (spaces between).length ≤ mostNaps c.pacing := by
      refine naps_le (le_trans ?_ within)
      rwa [le_sub_iff_add_le, add_comm]
    refine ⟨between ++ [⟨.nap napLength, ()⟩], unbroken.untold rfl, ⟨now + napLength, ?_, ?_⟩, ?_⟩
    · rw [clockOf_snoc, shows]
      rfl
    · rw [spaces_untold rfl]
      push_cast
      rw [add_mul, one_mul, ← add_assoc]
      exact add_le_add_left slept _
    · rw [spaces_untold rfl]
      exact Nat.succ_le_succ few

/-! ## Short stretches -/

/-- Of what was told last, as much as was starved lies behind the last that was not. -/
theorem length_le_of_fresh {before after front run : List BufferSpace} (parts : before ++ after = front ++ run)
    (fresh : ∀ s, before.getLast? = some s → s.isStarved = false) (starved : ∀ s ∈ run, s.isStarved = true) :
    run.length ≤ after.length := by
  rcases List.append_eq_append_iff.1 parts with ⟨between, -, rfl⟩ | ⟨between, rfl, rfl⟩
  · rw [List.length_append]
    exact Nat.le_add_left ..
  · cases last : between.getLast? with
    | none => rw [List.getLast?_eq_none_iff.1 last, List.nil_append]
    | some s =>
      have free := fresh s (by rw [List.getLast?_append, last]; rfl)
      rw [starved s (List.mem_append_left _ (List.mem_of_getLast? last))] at free
      cases free

theorem Unbroken.run_le {front run : List BufferSpace} (unbroken : Unbroken trace since between)
    (parts : spaces trace = front ++ run) (starved : ∀ s ∈ run, s.isStarved = true) :
    run.length ≤ (spaces between).length + 1 := by
  obtain ⟨first, s, rfl, fresh, -⟩ := unbroken.begun
  rw [spaces_append] at parts
  exact length_le_of_fresh parts fresh starved

/-- An unbroken stretch that reaches up to now is short. -/
theorem Vigil.Kept.run_le {front run : List BufferSpace} (kept : v.Kept c trace) (parts : spaces trace = front ++ run)
    (starved : ∀ s ∈ run, s.isStarved = true) : run.length ≤ mostNaps c.pacing + 2 := by
  have short {since : Seconds} {between : Trace Paced.Interface} (unbroken : Unbroken trace since between)
      (few : (spaces between).length ≤ mostNaps c.pacing + 1) : run.length ≤ mostNaps c.pacing + 2 :=
    (unbroken.run_le parts starved).trans (Nat.succ_le_succ few)
  cases v with
  | head since =>
    cases since with
    | none =>
      have none : run.length ≤ 0 := length_le_of_fresh ((List.append_nil _).trans parts) kept starved
      exact none.trans (Nat.zero_le _)
    | some since =>
      obtain ⟨between, hungry⟩ := kept
      exact short hungry.unbroken (Nat.le_of_succ_le hungry.few)
  | full since =>
    cases since with
    | none =>
      obtain ⟨first, s, rfl, fresh, -⟩ := kept
      rw [spaces_append] at parts
      have one : run.length ≤ 1 := length_le_of_fresh parts fresh starved
      exact one.trans (Nat.le_add_left ..)
    | some since =>
      obtain ⟨between, hungry⟩ := kept
      exact short hungry.unbroken hungry.few
  | patient since =>
    obtain ⟨between, moment, hungry, -⟩ := kept
    exact short hungry.unbroken hungry.few
  | late since =>
    obtain ⟨between, moment, unbroken, few, -⟩ := kept
    refine short unbroken ?_
    rw [spaces_untold rfl]
    exact few
  | stalled since moment' =>
    obtain ⟨between, moment, after, unbroken, few, silent, -⟩ := kept
    refine short unbroken ?_
    have same : spaces (⟨.clock, moment⟩ :: ⟨.clock, moment'⟩ :: after) = [] := silent
    rw [spaces_append, same, List.append_nil]
    exact few

theorem kept_of_path (path : Path (vigil c) (.head none) trace v) (timely : Timely trace) : v.Kept c trace := by
  refine path.keeps (fun trace v => Timely trace → v.Kept c trace) (fun _ => nofun) ?_ timely
  intro trace v r answer v' kept move timely
  exact move.kept (kept timely.front) timely

/-- Wherever an unbroken stretch lies, it is short. -/
theorem starved_run_le {front run back : List BufferSpace} (path : Path (vigil c) (.head none) trace v)
    (timely : Timely trace) (parts : spaces trace = front ++ (run ++ back)) (starved : ∀ s ∈ run, s.isStarved = true) :
    run.length ≤ mostNaps c.pacing + 2 := by
  rw [← List.append_assoc] at parts
  -- The trace is cut where the stretch ends.
  obtain ⟨first, rest, rfl, upTo, -⟩ := List.filterMap_eq_append_iff.1 parts
  obtain ⟨v', path, -⟩ := path.split
  exact (kept_of_path path timely.front).run_le upTo starved

end Kept

/-! ## The loop -/

/-- More rounds than enough are enough. -/
theorem Enough.mono {p : Progress} {now : Option Seconds} {more : Nat} (enough : Enough c p now rounds)
    (le : rounds ≤ more) : Enough c p now more := by
  obtain ⟨naps, starved, bound⟩ := enough
  exact ⟨naps, starved, bound.trans le⟩

/-- A loop with enough rounds is not left unfinished. -/
theorem stream_ne_unfinished (path : Path goesOn (stream c frameBytes rate rounds { rest := bytes }) trace p)
    (timely : Timely trace) (enough : enoughRounds c.pacing bytes.length ≤ rounds) : p ≠ .unfinished := by
  have start : (stream c frameBytes rate rounds { rest := bytes }).Completes allowed moves Streamed ⟨.head, 11, none⟩ :=
    stream_completes frameBytes rate rounds _ (by decide) ((enough_enoughRounds bytes none).mono enough)
  have later : ∃ stage : Stage, stage.now = clockOf trace ∧ p.Completes allowed moves Streamed stage := by
    refine path.keeps (fun trace p => Timely trace → ∃ stage : Stage, stage.now = clockOf trace ∧
      p.Completes allowed moves Streamed stage) (fun _ => ⟨_, rfl, start⟩) ?_ timely
    rintro trace p r answer p' before ⟨next, rfl, rfl⟩ timely
    obtain ⟨stage, shows, completes⟩ := before timely.front
    have may : allowed stage r answer := by
      cases r with
      | clock =>
        intro now is
        exact timely.last now (shows.symm.trans is)
      | _ => trivial
    obtain ⟨stage', move, rest⟩ := completes answer may
    have ticks : stage'.now = tick stage.now r answer := by cases move <;> rfl
    exact ⟨stage', by rw [ticks, clockOf_snoc, shows], rest⟩
  rintro rfl
  obtain ⟨_, -, no⟩ := later
  exact no

/-- A loop that gives its device up has found nothing free for longer than the limit. -/
theorem stalled_after {millis : Nat} (timely : Timely trace)
    (path : Path goesOn (stream c frameBytes rate rounds { rest := bytes }) trace (.done (.error (.deviceStalled millis)))) :
    ∃ since between moment moment' after,
      Unbroken trace since (between ++ ⟨.clock, moment⟩ :: ⟨.clock, moment'⟩ :: after) ∧ spaces after = [] ∧
      c.pacing.maxFragmentWait < moment - since ∧ moment ≤ moment' ∧ millis = (moment' - since).wholeMillis := by
  obtain ⟨v, along, ends⟩ := follows_goesOn path (stream_vigil frameBytes rate rounds { rest := bytes })
  obtain ⟨since, moment', rfl, millis⟩ := ends _ rfl _ rfl
  obtain ⟨between, moment, after, unbroken, -, silent, later, beyond⟩ := kept_of_path along timely
  exact ⟨since, between, moment, moment', after, unbroken, silent, beyond, later, millis⟩

/-- **A playback ends on every device.** Let the clock not go back, and let every nap take its time. Then the loop finds
    something free in no more rounds than there are bytes. However it goes on, no more rounds in a row find nothing free
    than there are naps in the limit, and two. So a loop with enough rounds comes to an end. It gives the device up only
    when nothing has been free for longer than the limit: since the first such round behind the last one that found
    something free, if there was one. -/
theorem loop_ends (path : Path goesOn (stream c frameBytes rate rounds { rest := bytes }) trace p)
    (timely : Timely trace) :
    freeRounds trace ≤ bytes.length ∧
    (∀ front run back, spaces trace = front ++ (run ++ back) → (∀ s ∈ run, s.isStarved = true) →
      run.length ≤ (c.pacing.maxFragmentWait / napLength).floor.toNat + 2) ∧
    (enoughRounds c.pacing bytes.length ≤ rounds → p ≠ .unfinished) ∧
    ∀ millis, p = .done (.error (.deviceStalled millis)) → ∃ since between moment moment' after,
      Unbroken trace since (between ++ ⟨.clock, moment⟩ :: ⟨.clock, moment'⟩ :: after) ∧ spaces after = [] ∧
      c.pacing.maxFragmentWait < moment - since ∧ moment ≤ moment' ∧ millis = (moment' - since).wholeMillis := by
  obtain ⟨x, course, -⟩ := follows_goesOn path (stream_course rounds { rest := bytes })
  obtain ⟨v, along, -⟩ := follows_goesOn path (stream_vigil frameBytes rate rounds { rest := bytes })
  refine ⟨freeRounds_le course, ?_, stream_ne_unfinished path timely, ?_⟩
  · intro front run back parts starved
    exact starved_run_le along timely parts starved
  · rintro millis rfl
    exact stalled_after timely path

/-! ### A device that is given up -/

/-- A limit of half a nap. -/
def hasty : Config := { device := "dsp", pacing := ⟨1 / 10, 1 / 20, 1 / 20000⟩ }

/-- One round finds two bytes free, and two rounds find none, between which a nap lasts longer than the limit. -/
theorem path_stalled : ∃ trace : Trace Paced.Interface,
    Path goesOn (stream hasty 2 8000 3 { rest := [1, 2, 3, 4] }) trace (.done (.error (.deviceStalled 0))) ∧
    spaces trace = [⟨1, 2, 2⟩, ⟨0, 2, 0⟩, ⟨0, 2, 0⟩] ∧ Timely trace := by
  have within : ¬ hasty.pacing.maxFragmentWait < (0 : Seconds) - 0 := by decide +kernel
  have beyond : hasty.pacing.maxFragmentWait < napLength - (0 : Seconds) := by decide +kernel
  have path : Path goesOn (stream hasty 2 8000 3 { rest := [1, 2, 3, 4] }) [] _ := .start
  replace path := goesOn_next path rfl false
  replace path := goesOn_next path rfl (some (.ok ⟨1, 2, 2⟩) : Option (Except Failure BufferSpace))
  replace path := goesOn_next path rfl ()
  replace path := goesOn_next path rfl (some (.ok 2) : Option (Except Failure Nat))
  replace path := goesOn_next path rfl ()
  replace path := goesOn_next path rfl WaitOutcome.timedOut
  replace path := goesOn_next path rfl false
  replace path := goesOn_next path rfl (some (.ok ⟨0, 2, 0⟩) : Option (Except Failure BufferSpace))
  replace path := goesOn_next path rfl (0 : Seconds)
  replace path := goesOn_next path rfl (0 : Seconds)
  replace path := goesOn_next path (congrArg (Program.bind · _) (if_neg within)) ()
  replace path := goesOn_next path rfl ()
  replace path := goesOn_next path rfl false
  replace path := goesOn_next path rfl (some (.ok ⟨0, 2, 0⟩) : Option (Except Failure BufferSpace))
  replace path := goesOn_next path rfl napLength
  replace path := goesOn_next path (congrArg (Program.bind · _) (if_pos beyond)) napLength
  replace path := goesOn_next path rfl ()
  have short : (napLength - (0 : Seconds)).wholeMillis = 0 := by decide +kernel
  replace path : Path goesOn (stream hasty 2 8000 3 _) _ (.done (.error (.deviceStalled (napLength - (0 : Seconds)).wholeMillis))) := path
  rw [short] at path
  refine ⟨_, path, rfl, ?_⟩
  repeat' apply Timely.snoc
  · exact timely_nil
  -- Only the four readings of the clock can go back.
  all_goals
    rintro moment ⟨⟩ now shows
  · cases shows
  · obtain rfl : (0 : Seconds) = now := Option.some.inj shows
    exact le_refl _
  · obtain rfl : (0 : Seconds) + napLength = now := Option.some.inj shows
    exact le_of_eq (zero_add _)
  · obtain rfl : napLength = now := Option.some.inj shows
    exact le_refl _

/-- There was one round with something free, for four bytes; then two without, which is as many as the limit allows, and
    the last of them gives up. -/
theorem stalled_device_given_up : ∃ trace : Trace Paced.Interface,
    Path goesOn (stream hasty 2 8000 3 { rest := [1, 2, 3, 4] }) trace (.done (.error (.deviceStalled 0))) ∧
    Timely trace ∧ freeRounds trace ≤ 4 ∧ spaces trace = [⟨1, 2, 2⟩] ++ ([⟨0, 2, 0⟩, ⟨0, 2, 0⟩] ++ []) ∧
    [(⟨0, 2, 0⟩ : BufferSpace), ⟨0, 2, 0⟩].length ≤ (hasty.pacing.maxFragmentWait / napLength).floor.toNat + 2 ∧
    ∃ since between moment moment' after,
      Unbroken trace since (between ++ ⟨.clock, moment⟩ :: ⟨.clock, moment'⟩ :: after) ∧
      hasty.pacing.maxFragmentWait < moment - since := by
  obtain ⟨trace, path, told, timely⟩ := path_stalled
  obtain ⟨free, short, -, gaveUp⟩ := loop_ends path timely
  obtain ⟨since, between, moment, moment', after, unbroken, -, beyond, -⟩ := gaveUp 0 rfl
  exact ⟨trace, path, timely, free, told, short [⟨1, 2, 2⟩] [⟨0, 2, 0⟩, ⟨0, 2, 0⟩] [] told (by decide), since, between,
    moment, moment', after, unbroken, beyond⟩

end Playout.Paced
