import Playout.Proofs.Paced.Timing

/-!
# `Playout.Proofs.Paced.Tails` — what goes out behind the main write

A round writes as much as the free fragments hold. What is left of the data may be shorter than a fragment, and the free
space may hold it besides the fragments. Then it goes out in the same round, since in the next one it could come too
late. The round compares strictly, however: a tail that takes up the free space to its last byte is left to the next one.

## Contents
- `untilWait` — what a trace does before its next wait.
- `IsTail` — what is left is a tail that the free space holds.
- `Course.left`, `left_of_path` — what is due is what has not been counted, whatever the device claims to have taken.
- `Spot.Unwritten`, `Course.unwritten` — from the free space to the main write.
- `Tailing`, `Course.tailing`, `Tailing.at_wait`, `Tailing.at_end` — from the main write to the wait.
- `tail_written_unless_exact` — which tails go out at once.
- `mainWrite`, `path_tail_behind`, `exact_tail_left` — a tail that goes out at once, and one that is left.
-/

namespace Playout.Paced

open Interleaving Program

variable {c : Config} {frameBytes rate rounds : Nat} {x x' : Spot} {r : Paced.Request} {answer : Paced.Request.Answer r}
  {trace before front back between : Trace Paced.Interface} {bytes chunk rest : List UInt8} {s : BufferSpace}
  {p : Action (Except PlayError Bool)} {lead : Option Rat} {written n : Nat}

/-! ## Until the next wait -/

/-- What a trace does before its next wait. -/
def untilWait (trace : Trace Paced.Interface) : Trace Paced.Interface := trace.takeWhile fun y => (pause? y).isNone

/-- A trace without a wait, or one that is cut at its next wait. -/
theorem untilWait_cases (trace : Trace Paced.Interface) :
    (untilWait trace = trace ∧ pauses trace = []) ∨
      ∃ span outcome later, trace = untilWait trace ++ ⟨.pause span, outcome⟩ :: later := by
  induction trace with
  | nil => exact .inl ⟨rfl, rfl⟩
  | cons y trace ih =>
    obtain ⟨r, answer⟩ := y
    cases waits : pause? ⟨r, answer⟩ with
    | none =>
      have on : untilWait (⟨r, answer⟩ :: trace) = ⟨r, answer⟩ :: untilWait trace :=
        List.takeWhile_cons_of_pos (by rw [waits]; rfl)
      rcases ih with ⟨whole, none⟩ | ⟨span, outcome, later, cut⟩
      · refine .inl ⟨by rw [on, whole], ?_⟩
        unfold pauses
        rw [List.filterMap_cons_none waits]
        exact none
      · refine .inr ⟨span, outcome, later, ?_⟩
        rw [on, List.cons_append, ← cut]
    | some span =>
      have off : untilWait (⟨r, answer⟩ :: trace) = [] := List.takeWhile_cons_of_neg (by rw [waits]; exact nofun)
      cases r with
      | pause => exact .inr ⟨_, answer, trace, by rw [off]; rfl⟩
      | _ => cases waits

theorem pause?_of_mem_untilWait {y : Σ r : Paced.Request, Paced.Request.Answer r} (mem : y ∈ untilWait trace) :
    pause? y = none :=
  Option.isNone_iff_eq_none.1 (@List.mem_takeWhile_imp _ (fun y => (pause? y).isNone) trace y mem)

/-! ## What is left -/

/-- What is left is a tail: less than a fragment, and the free space holds it besides the free fragments. -/
structure IsTail (s : BufferSpace) (rest : List UInt8) : Prop where
  some : rest ≠ []
  short : rest.length < s.fragmentSize
  fits : s.room + rest.length ≤ s.bytes

/-- The round takes every tail for one, but for those that fit exactly. -/
theorem tailFits_iff : tailFits s rest.length = true ↔ IsTail s rest ∧ s.room + rest.length ≠ s.bytes := by
  simp only [tailFits, Bool.and_eq_true, decide_eq_true_eq]
  constructor
  · rintro ⟨⟨some, short⟩, within⟩
    exact ⟨⟨List.length_pos_iff.1 some, short, Nat.le_of_lt within⟩, Nat.ne_of_lt within⟩
  · rintro ⟨⟨some, short, fits⟩, inexact⟩
    exact ⟨⟨List.length_pos_iff.2 some, short⟩, Nat.lt_of_le_of_ne fits inexact⟩

/-- Where bytes are due, they are those behind the ones that were counted. -/
def Left (bytes : List UInt8) (trace : Trace Paced.Interface) (x : Spot) : Prop :=
  ∀ rest, x.left = some rest → rest = bytes.drop (counted trace)

/-- A request that counts for nothing. -/
theorem Left.same (left : Left bytes trace x) (silent : written? ⟨r, answer⟩ = none) (same : x'.left = x.left) :
    Left bytes (trace ++ [⟨r, answer⟩]) x' := by
  intro rest is
  rw [counted_silent silent]
  exact left rest (same.symm.trans is)

/-- A write that counts for `n` bytes. -/
theorem Left.count {answer : Paced.Request.Answer (.write chunk)} (left : Left bytes trace x) (due : x.left = some rest)
    (count : counted (trace ++ [⟨.write chunk, answer⟩]) = counted trace + n) (due' : x'.left = some (rest.drop n)) :
    Left bytes (trace ++ [⟨.write chunk, answer⟩]) x' := by
  rintro _ is
  obtain rfl := Option.some.inj (due'.symm.trans is)
  rw [count, left rest due, List.drop_drop]

theorem Course.left (move : Course c frameBytes rate x r answer x') (left : Left bytes trace x) :
    Left bytes (trace ++ [⟨r, answer⟩]) x' := by
  cases move with
  | idle idle => exact left.same (idle_nothing idle).1 rfl
  | clear | full | free | napped | tail | paced | rested | excused => exact left.same rfl rfl
  | halt | lost | gaveUp | stopped | cutShort => exact nofun
  | put => exact left.count rfl (counted_put _ _) rfl
  | refused => exact left.count rfl (counted_put _ _) rfl
  | tore failed => exact left.count rfl (counted_tore failed) rfl

theorem left_of_path (path : Path (course c frameBytes rate) (.head bytes none) trace x) : Left bytes trace x := by
  refine path.keeps (fun trace x => Left bytes trace x) ?_ fun left move => move.left left
  rintro _ ⟨⟩
  rfl

/-! ## Up to the main write -/

/-- As long as nothing has been written into this free space, the next write goes into its fragments. -/
def Spot.Unwritten (s : BufferSpace) : Spot → Prop
  | writing tail _ _ _ _ => tail = some s
  | doubted .. | filled .. => False
  | _ => True

theorem Course.unwritten (move : Course c frameBytes rate x r answer x') (untold : told? ⟨r, answer⟩ = none)
    (silent : written? ⟨r, answer⟩ = none) (unwritten : x.Unwritten s) : x'.Unwritten s := by
  cases move with
  | idle => exact unwritten
  | full | free => cases untold
  | put | refused | tore => cases silent
  | excused | tail => exact unwritten.elim
  | _ => trivial

theorem unwritten_of_path (path : Path (course c frameBytes rate) x between x') (untold : spaces between = [])
    (silent : writes between = []) (unwritten : x.Unwritten s) : x'.Unwritten s := by
  refine path.keeps (fun between x' => spaces between = [] → writes between = [] → x'.Unwritten s)
    (fun _ _ => unwritten) ?_ untold silent
  intro between x r answer x' earlier move untold silent
  rw [spaces_snoc, List.append_eq_nil_iff, Option.toList_eq_nil_iff] at untold
  rw [writes_snoc, List.append_eq_nil_iff, Option.toList_eq_nil_iff] at silent
  exact move.unwritten untold.2 silent.2 (earlier untold.1 silent.1)

/-- The main write of a round leads to where a tail may follow. -/
theorem filled_of_write (path : Path (course c frameBytes rate) x
      (⟨.space, some (.ok s)⟩ :: (between ++ [⟨.write chunk, some (.ok (n + 1))⟩])) x')
    (untold : spaces between = []) (silent : writes between = []) :
    ∃ written rest lead, x' = .filled (some s) written rest lead := by
  obtain ⟨y, told, later⟩ := path.head
  obtain ⟨z, round, last⟩ := later.split
  have begins : y.Unwritten s := by
    cases told with
    | idle idle => cases idle
    | full => trivial
    | free => rfl
    | lost failed => exact absurd rfl (failed s)
  have unwritten := unwritten_of_path round untold silent begins
  obtain ⟨w, put, rest⟩ := last.head
  obtain rfl := rest.eq_of_nil
  cases put with
  | idle idle => cases idle
  | put =>
    obtain rfl : _ = some s := unwritten
    exact ⟨_, _, _, rfl⟩
  | tore failed => exact absurd rfl (failed _)

/-! ## Behind the main write -/

/-- Where the loop can be once a tail has gone out, before the next wait. -/
def Spot.Gone : Spot → Prop
  | doubted none .. | filled none .. | blank _ | failed _ => True
  | _ => False

/-- How far a round has come behind its main write, and what it has written there, if `rest` was left. -/
inductive Tailing (s : BufferSpace) (rest : List UInt8) : List (List UInt8) → Spot → Prop where
  | behind (written : Nat) (lead : Option Rat) : Tailing s rest [] (.filled (some s) written rest lead)
  | due (written : Nat) (lead : Option Rat) (fits : tailFits s rest.length = true) :
      Tailing s rest [] (.writing none rest written rest lead)
  | gone (x : Spot) (fits : tailFits s rest.length = true) (gone : x.Gone) : Tailing s rest [rest] x

theorem Course.gone (move : Course c frameBytes rate x r answer x') (unpaused : pause? ⟨r, answer⟩ = none)
    (gone : x.Gone) : written? ⟨r, answer⟩ = none ∧ x'.Gone := by
  cases move with
  | idle idle => exact ⟨(idle_nothing idle).1, gone⟩
  | @excused tail => cases tail with
    | none => exact ⟨rfl, trivial⟩
    | some => exact gone.elim
  | gaveUp => exact ⟨rfl, trivial⟩
  | paced | stopped | rested | cutShort => cases unpaused
  | _ => exact gone.elim

theorem Course.tailing {wrote : List (List UInt8)} (move : Course c frameBytes rate x r answer x')
    (unpaused : pause? ⟨r, answer⟩ = none) (tailing : Tailing s rest wrote x) :
    Tailing s rest (wrote ++ (written? ⟨r, answer⟩).toList) x' := by
  cases tailing with
  | behind =>
    cases move with
    | idle idle =>
      rw [(idle_nothing idle).1]
      exact .behind _ _
    | tail fits => exact .due _ _ fits
    | paced | stopped => cases unpaused
  | due _ _ fits =>
    cases move with
    | idle idle =>
      rw [(idle_nothing idle).1]
      exact .due _ _ fits
    | put | refused | tore => exact .gone _ fits trivial
  | gone _ fits gone =>
    obtain ⟨silent, gone⟩ := move.gone unpaused gone
    rw [silent]
    exact .gone _ fits gone

theorem tailing_of_path (path : Path (course c frameBytes rate) (.filled (some s) written rest lead) trace x)
    (unpaused : ∀ y ∈ trace, pause? y = none) : Tailing s rest (writes trace) x := by
  refine path.keeps (fun trace x => (∀ y ∈ trace, pause? y = none) → Tailing s rest (writes trace) x)
    (fun _ => .behind ..) ?_ unpaused
  intro trace x r answer x' earlier move unpaused
  rw [writes_snoc]
  exact move.tailing (unpaused _ (List.mem_append_right _ List.mem_cons_self))
    (earlier fun y mem => unpaused y (List.mem_append_left _ mem))

/-- When the wait comes, a tail has gone out if it was going to. -/
theorem Tailing.at_wait {wrote : List (List UInt8)} {span : Seconds} {outcome : WaitOutcome}
    (tailing : Tailing s rest wrote x) (move : Course c frameBytes rate x (.pause span) outcome x') :
    wrote = if tailFits s rest.length then [rest] else [] := by
  cases tailing with
  | behind =>
    have unfit : tailFits s rest.length = false := by
      cases move with
      | idle idle => cases idle
      | paced unfit | stopped unfit => exact unfit s rfl
    rw [unfit]
    rfl
  | due =>
    cases move with
    | idle idle => cases idle
  | gone _ fits => rw [fits, if_pos rfl]

/-- So it has when the loop is left, which happens in a round only if a write fails. -/
theorem Tailing.at_end {wrote : List (List UInt8)} {outcome : Except PlayError Bool} (tailing : Tailing s rest wrote x)
    (leaves : Leaves c x outcome) : wrote = if tailFits s rest.length then [rest] else [] := by
  cases tailing with
  | behind | due => cases leaves
  | gone _ fits => rw [fits, if_pos rfl]

/-! ## Which tails go out -/

/-- A chunk that goes out is not empty. -/
theorem ne_nil_of_write {answer : Paced.Request.Answer (.write chunk)}
    (path : Path (course c frameBytes rate) (.head bytes none) (before ++ [⟨.write chunk, answer⟩]) x) : chunk ≠ [] := by
  obtain ⟨y, z, up, move, -⟩ := path.cutAt
  have sound : y.Sound := up.keeps (fun _ y => y.Sound) trivial fun sound move => move.sound sound
  cases move with
  | idle idle => cases idle
  | put | refused | tore => exact sound.1

/-- What a round has written behind its main write when the next wait comes, or the loop is left. -/
theorem writes_untilWait (path : Path goesOn (stream c frameBytes rate rounds { rest := bytes }) trace p)
    (parts : trace = before ++ ⟨.write chunk, some (.ok (n + 1))⟩ :: back)
    (told : before = front ++ ⟨.space, some (.ok s)⟩ :: between) (untold : spaces between = [])
    (silent : writes between = []) (ended : pauses back ≠ [] ∨ ∃ outcome, p = .done outcome)
    (left : rest = bytes.drop (counted before + (n + 1))) :
    writes (untilWait back) = if tailFits s rest.length then [rest] else [] := by
  obtain ⟨x, along, leaves⟩ := follows_goesOn path (stream_course rounds { rest := bytes })
  rw [parts, List.append_cons] at along
  obtain ⟨y, up, behind⟩ := along.split
  have count : counted (before ++ [⟨.write chunk, some (.ok (n + 1))⟩]) = counted before + (n + 1) := counted_put chunk _
  have due := left_of_path up
  -- The main write leads to where what has not been counted is left.
  obtain ⟨written, rest', lead, rfl⟩ : ∃ written rest lead, y = .filled (some s) written rest lead := by
    rw [told, List.append_assoc, List.cons_append] at up
    obtain ⟨_, -, round⟩ := up.split
    exact filled_of_write round untold silent
  obtain rfl : rest' = rest := by rw [due rest' rfl, count, left]
  rcases untilWait_cases back with ⟨whole, none⟩ | ⟨span, outcome, later, cut⟩
  · obtain ⟨outcome, rfl⟩ := ended.resolve_left (not_not_intro none)
    rw [whole]
    have tailing := tailing_of_path behind fun y mem => pause?_of_mem_untilWait (whole.symm ▸ mem)
    exact tailing.at_end leaves
  · rw [cut] at behind
    obtain ⟨z, x', round, move, -⟩ := behind.cutAt
    have tailing := tailing_of_path round fun y mem => pause?_of_mem_untilWait mem
    exact tailing.at_wait move

/-- **A tail that fits goes out at once, unless it fits exactly.** Let a loop be told of free space, and let the device
    take all of what is written there first. As soon as the loop has come to its next wait, or has been left, what was
    left behind that write has been written exactly if it is a tail and does not take up the free space to its last byte;
    otherwise nothing has been written. -/
theorem tail_written_unless_exact (path : Path goesOn (stream c frameBytes rate rounds { rest := bytes }) trace p)
    (parts : trace = before ++ ⟨.write chunk, some (.ok chunk.length)⟩ :: back)
    (told : before = front ++ ⟨.space, some (.ok s)⟩ :: between) (untold : spaces between = [])
    (silent : writes between = []) (ended : pauses back ≠ [] ∨ ∃ outcome, p = .done outcome)
    (left : rest = bytes.drop (counted before + chunk.length)) :
    (IsTail s rest → (writes (untilWait back) = [rest] ↔ s.room + rest.length ≠ s.bytes)) ∧
      (¬ IsTail s rest ∨ s.room + rest.length = s.bytes → writes (untilWait back) = []) := by
  have wrote : writes (untilWait back) = if tailFits s rest.length then [rest] else [] := by
    obtain ⟨x, along, -⟩ := follows_goesOn path (stream_course rounds { rest := bytes })
    rw [parts, List.append_cons] at along
    obtain ⟨y, up, -⟩ := along.split
    obtain ⟨n, long⟩ := Nat.exists_eq_succ_of_ne_zero (mt List.eq_nil_of_length_eq_zero (ne_nil_of_write up))
    rw [long] at parts left
    exact writes_untilWait path parts told untold silent ended left
  rw [wrote]
  constructor
  · intro tail
    rw [← @and_iff_right _ (s.room + rest.length ≠ s.bytes) tail, ← tailFits_iff]
    cases tailFits s rest.length <;> simp
  · intro unfit
    refine if_neg fun fits => ?_
    obtain ⟨tail, inexact⟩ := tailFits_iff.1 fits
    exact unfit.elim (absurd tail) (absurd · inexact)

/-! ### Two tails -/

/-- Of three samples four bytes go into the free fragment. -/
def mainWrite (free : Nat) : Trace Paced.Interface :=
  [⟨.cancelled, false⟩, ⟨.space, some (.ok ⟨1, 4, free⟩)⟩,
    ⟨.log ⟨.debug, "alsa: space for 1 more fragments of 4 bytes"⟩, ()⟩]

/-- Eight bytes are free, so that the tail of two bytes goes out as well. -/
theorem path_tail_behind : ∃ (back : Trace Paced.Interface) (p : Action (Except PlayError Bool)),
    Path goesOn (stream { device := "dsp" } 2 8000 2 { rest := [1, 2, 3, 4, 5, 6] })
      (mainWrite 8 ++ ⟨.write [1, 2, 3, 4], some (.ok 4)⟩ :: back) p ∧ pauses back ≠ [] := by
  have path : Path goesOn (stream { device := "dsp" } 2 8000 2 { rest := [1, 2, 3, 4, 5, 6] }) [] _ := .start
  replace path := goesOn_next path rfl false
  replace path := goesOn_next path rfl (some (.ok ⟨1, 4, 8⟩) : Option (Except Failure BufferSpace))
  replace path := goesOn_next path rfl ()
  replace path := goesOn_next path rfl (some (.ok 4) : Option (Except Failure Nat))
  replace path := goesOn_next path rfl ()
  replace path := goesOn_next path rfl (some (.ok 2) : Option (Except Failure Nat))
  replace path := goesOn_next path rfl ()
  replace path := goesOn_next path rfl WaitOutcome.timedOut
  exact ⟨[_, _, _, _], _, path, nofun⟩

/-- The tail goes out before the wait. -/
theorem tail_written_behind : ∃ (back : Trace Paced.Interface) (p : Action (Except PlayError Bool)),
    Path goesOn (stream { device := "dsp" } 2 8000 2 { rest := [1, 2, 3, 4, 5, 6] })
      (mainWrite 8 ++ ⟨.write [1, 2, 3, 4], some (.ok 4)⟩ :: back) p ∧ pauses back ≠ [] ∧
      writes (untilWait back) = [[5, 6]] := by
  obtain ⟨back, p, path, waited⟩ := path_tail_behind
  have told : mainWrite 8 = [⟨.cancelled, false⟩] ++ ⟨.space, some (.ok ⟨1, 4, 8⟩)⟩ ::
      [⟨.log ⟨.debug, "alsa: space for 1 more fragments of 4 bytes"⟩, ()⟩] := rfl
  have decided := tail_written_unless_exact path rfl told rfl rfl (.inl waited) rfl
  exact ⟨back, p, path, waited, (decided.1 ⟨by decide, by decide, by decide⟩).2 (by decide)⟩

/-- Six bytes are free, so that the tail of two bytes fits, and all of the space would be taken up. It does not go out
    before the wait. -/
theorem exact_tail_left : ∃ (back : Trace Paced.Interface) (p : Action (Except PlayError Bool)),
    Path goesOn (stream { device := "dsp" } 2 8000 2 { rest := [1, 2, 3, 4, 5, 6] })
      (mainWrite 6 ++ ⟨.write [1, 2, 3, 4], some (.ok 4)⟩ :: back) p ∧ pauses back ≠ [] ∧
      IsTail ⟨1, 4, 6⟩ [5, 6] ∧ writes (untilWait back) = [] := by
  have path : Path goesOn (stream { device := "dsp" } 2 8000 2 { rest := [1, 2, 3, 4, 5, 6] }) [] _ := .start
  replace path := goesOn_next path rfl false
  replace path := goesOn_next path rfl (some (.ok ⟨1, 4, 6⟩) : Option (Except Failure BufferSpace))
  replace path := goesOn_next path rfl ()
  replace path := goesOn_next path rfl (some (.ok 4) : Option (Except Failure Nat))
  replace path := goesOn_next path rfl ()
  replace path := goesOn_next path rfl WaitOutcome.timedOut
  exact ⟨[_, _], _, path, nofun, ⟨by decide, by decide, by decide⟩, rfl⟩

end Playout.Paced
