import Mathlib.Algebra.Order.Field.Rat
import Mathlib.Data.List.TakeWhile
import Mathlib.Tactic.Linarith
import Mathlib.Tactic.Ring
import Playout.Proofs.Paced.Counting

/-!
# `Playout.Proofs.Paced.Timing` — how long a playback waits

After each round a playback waits for as long as what the round has counted lasts. The first wait is shorter by the lead,
and this is made good at the end, but for what settles by itself. Along the loop the waits make up for all that was
counted in earlier rounds, less the lead that is in force. Here numbers are exact.

## Contents
- `pauses`, `lasts`, `firstWritten` — the waits, how long some bytes last, and what the first round has counted.
- `waitAfter_exact` — one wait.
- `Balance`, `Paid`, `Course.paid` — what the waits have made up for.
- `pauses_sum` — how long a playback waits in all.
- `path_three_pauses` — a playback with three waits.
-/

namespace Playout.Paced

open Interleaving Program

variable {c : Config} {frameBytes rate rounds : Nat} {x x' : Spot} {r : Paced.Request} {answer : Paced.Request.Answer r}
  {trace : Trace Paced.Interface} {bytes : List UInt8}

/-! ## Waits -/

/-- The time for which a request waits on the signal. -/
def pause? : (Σ r : Paced.Request, Paced.Request.Answer r) → Option Seconds
  | ⟨.pause span, _⟩ => some span
  | _ => none

/-- The waits of a trace. -/
def pauses (trace : Trace Paced.Interface) : List Seconds := trace.filterMap pause?

/-- How long `k` bytes last, in frames of `frameBytes` bytes at a rate. -/
def lasts (frameBytes rate k : Nat) : Seconds := (k : Rat) / frameBytes / rate

/-- The bytes that are counted before the first wait. -/
def firstWritten (trace : Trace Paced.Interface) : Nat := counted (trace.takeWhile fun x => (pause? x).isNone)

theorem lasts_nonneg (frameBytes rate k : Nat) : 0 ≤ lasts frameBytes rate k :=
  div_nonneg (div_nonneg (Nat.cast_nonneg k) (Nat.cast_nonneg frameBytes)) (Nat.cast_nonneg rate)

theorem lasts_add (frameBytes rate k l : Nat) :
    lasts frameBytes rate (k + l) = lasts frameBytes rate k + lasts frameBytes rate l := by
  unfold lasts
  push_cast
  ring

theorem pauses_snoc (trace : Trace Paced.Interface) (x : Σ r : Paced.Request, Paced.Request.Answer r) :
    pauses (trace ++ [x]) = pauses trace ++ (pause? x).toList := filterMap_snoc ..

/-- After the first wait nothing more belongs to the first round. -/
theorem firstWritten_later (some : pauses trace ≠ []) (x : Σ r : Paced.Request, Paced.Request.Answer r) :
    firstWritten (trace ++ [x]) = firstWritten trace := by
  have cut : (trace.takeWhile fun x => (pause? x).isNone).length ≠ trace.length := by
    intro whole
    refine some (List.filterMap_eq_nil_iff.2 fun y mem => ?_)
    have same := (List.takeWhile_prefix fun x => (pause? x).isNone).eq_of_length whole
    rw [← same] at mem
    have waits : (pause? y).isNone = true := List.mem_takeWhile_imp (p := fun x => (pause? x).isNone) mem
    exact Option.isNone_iff_eq_none.1 waits
  unfold firstWritten
  rw [List.takeWhile_append, if_neg cut]

/-- A wait ends the first round. -/
theorem firstWritten_pause (none : pauses trace = []) (span : Seconds) (outcome : WaitOutcome) :
    firstWritten (trace ++ [⟨.pause span, outcome⟩]) = counted trace := by
  have all (x : Σ r : Paced.Request, Paced.Request.Answer r) (mem : x ∈ trace) : (pause? x).isNone = true := by
    rw [List.filterMap_eq_nil_iff.1 none x mem]
    rfl
  unfold firstWritten
  rw [List.takeWhile_append_of_pos all]
  simp [pause?]

/-- The shorter of two spans. -/
theorem ite_lt_eq_min (a b : Rat) : (if a < b then a else b) = min a b := by
  split
  · next less => exact (min_eq_left (le_of_lt less)).symm
  · next more => exact (min_eq_right (le_of_not_gt more)).symm

/-- In exact numbers, the wait after a round is as long as what was counted in it lasts, less the lead the first time. -/
theorem waitAfter_first (exact : c.arithmetic = .exact) (written : Nat) :
    waitAfter c frameBytes rate written none =
      (lasts frameBytes rate written - min (lasts frameBytes rate written) c.pacing.lead,
        min (lasts frameBytes rate written) c.pacing.lead) := by
  simp only [waitAfter, exact, Arithmetic.exact, id, lasts, ite_lt_eq_min]

theorem waitAfter_later (exact : c.arithmetic = .exact) (written : Nat) (lead : Rat) :
    waitAfter c frameBytes rate written (some lead) = (lasts frameBytes rate written, lead) := by
  simp only [waitAfter, exact, Arithmetic.exact, id, lasts]

theorem resting_exact (exact : c.arithmetic = .exact) (lead : Rat) : resting c lead = lead - c.pacing.settle := by
  simp only [resting, exact, Arithmetic.exact, id]

/-! ## What the waits make up for -/

/-- The waits have made up for `paid` bytes and for `extra` besides, less the lead that is in force. -/
def Balance (c : Config) (frameBytes rate : Nat) (trace : Trace Paced.Interface) (paid : Nat) (extra : Rat) :
    Option Rat → Prop
  | none => paid = 0 ∧ pauses trace = []
  | some lead => lead = min (lasts frameBytes rate (firstWritten trace)) c.pacing.lead ∧ pauses trace ≠ [] ∧
      (pauses trace).sum = lasts frameBytes rate paid - lead + extra

/-- What the waits have made up for: all that was counted before this round. -/
def Paid (c : Config) (frameBytes rate : Nat) (trace : Trace Paced.Interface) : Spot → Prop
  | .head _ lead | .cleared _ lead | .starved _ lead => Balance c frameBytes rate trace (counted trace) 0 lead
  | .writing _ _ written _ lead | .filled _ written _ lead =>
    ∃ paid, counted trace = paid + written ∧ Balance c frameBytes rate trace paid 0 lead
  | .doubted _ chunk written _ lead =>
    ∃ paid, counted trace = paid + (written + chunk.length) ∧ Balance c frameBytes rate trace paid 0 lead
  | .rested lead => Balance c frameBytes rate trace (counted trace) (resting c lead) (some lead)
  | .stopped | .blank _ | .failed _ => True

/-- A request that is no wait makes up for nothing. -/
theorem Balance.snoc {paid : Nat} {extra : Rat} {lead : Option Rat} {y : Σ r : Paced.Request, Paced.Request.Answer r}
    (balance : Balance c frameBytes rate trace paid extra lead) (untimed : pause? y = none) :
    Balance c frameBytes rate (trace ++ [y]) paid extra lead := by
  have same : pauses (trace ++ [y]) = pauses trace := by
    rw [pauses_snoc, untimed, Option.toList_none, List.append_nil]
  cases lead with
  | none =>
    obtain ⟨nothing, none⟩ := balance
    exact ⟨nothing, same.trans none⟩
  | some lead =>
    obtain ⟨first, some, sum⟩ := balance
    refine ⟨?_, ?_, ?_⟩
    · rw [firstWritten_later some]
      exact first
    · rw [same]
      exact some
    · rw [same]
      exact sum

/-- The wait at the end of a round. -/
theorem Balance.pause {paid written : Nat} {lead : Option Rat} {outcome : WaitOutcome} (exact : c.arithmetic = .exact)
    (balance : Balance c frameBytes rate trace paid 0 lead) (count : counted trace = paid + written) :
    Balance c frameBytes rate (trace ++ [⟨.pause (waitAfter c frameBytes rate written lead).1, outcome⟩])
      (paid + written) 0 (some (waitAfter c frameBytes rate written lead).2) := by
  cases lead with
  | none =>
    obtain ⟨rfl, none⟩ := balance
    rw [Nat.zero_add] at count ⊢
    rw [waitAfter_first exact]
    refine ⟨?_, ?_, ?_⟩
    · rw [firstWritten_pause none, count]
    · simp [pauses_snoc, pause?]
    · simp [pauses_snoc, pause?, none]
  | some lead =>
    obtain ⟨first, some, sum⟩ := balance
    rw [waitAfter_later exact]
    refine ⟨?_, ?_, ?_⟩
    · rw [firstWritten_later some]
      exact first
    · simp [pauses_snoc, pause?]
    · simp only [pauses_snoc, pause?, Option.toList_some, List.sum_append, List.sum_singleton]
      rw [sum, lasts_add]
      ring

/-- The wait once all is written. -/
theorem Balance.rest {paid : Nat} {lead : Rat} {outcome : WaitOutcome} (exact : c.arithmetic = .exact)
    (balance : Balance c frameBytes rate trace paid 0 (some lead)) :
    Balance c frameBytes rate (trace ++ [⟨.pause (c.arithmetic.span (resting c lead)), outcome⟩]) paid (resting c lead)
      (some lead) := by
  obtain ⟨first, some, sum⟩ := balance
  have span : c.arithmetic.span (resting c lead) = resting c lead := by simp only [exact, Arithmetic.exact, id]
  refine ⟨?_, ?_, ?_⟩
  · rw [firstWritten_later some]
    exact first
  · simp [pauses_snoc, pause?]
  · simp only [pauses_snoc, pause?, Option.toList_some, List.sum_append, List.sum_singleton]
    rw [sum, span, add_zero]

/-- A request that is no wait and counts for nothing. -/
theorem Paid.snoc {y : Σ r : Paced.Request, Paced.Request.Answer r} (paid : Paid c frameBytes rate trace x)
    (untimed : pause? y = none) (silent : counted (trace ++ [y]) = counted trace) :
    Paid c frameBytes rate (trace ++ [y]) x := by
  cases x with
  | head | cleared | starved =>
    have balance : Balance c frameBytes rate trace (counted trace) 0 _ := paid
    unfold Paid
    rw [silent]
    exact balance.snoc untimed
  | rested lead =>
    have balance : Balance c frameBytes rate trace (counted trace) (resting c lead) (some lead) := paid
    unfold Paid
    rw [silent]
    exact balance.snoc untimed
  | writing | doubted | filled =>
    obtain ⟨before, count, balance⟩ := paid
    exact ⟨before, silent.trans count, balance.snoc untimed⟩
  | stopped | blank | failed => trivial

theorem Course.paid (exact : c.arithmetic = .exact) (move : Course c frameBytes rate x r answer x')
    (paid : Paid c frameBytes rate trace x) : Paid c frameBytes rate (trace ++ [⟨r, answer⟩]) x' := by
  -- A request that neither waits nor writes.
  have passes (untimed : pause? ⟨r, answer⟩ = none) (silent : written? ⟨r, answer⟩ = none)
      (paid' : Paid c frameBytes rate trace x') : Paid c frameBytes rate (trace ++ [⟨r, answer⟩]) x' :=
    paid'.snoc untimed (counted_silent silent)
  cases move with
  | idle idle =>
    have untimed : pause? ⟨r, answer⟩ = none := by
      cases r with
      | pause => cases idle
      | _ => rfl
    exact passes untimed (idle_nothing idle).1 paid
  | clear | full | napped | tail | excused => exact passes rfl rfl paid
  | free => exact passes rfl rfl ⟨_, (Nat.add_zero _).symm, paid⟩
  | @put tail chunk written rest lead n =>
    obtain ⟨before, count, balance⟩ := paid
    refine ⟨before, ?_, balance.snoc rfl⟩
    rw [counted_put, count, Nat.add_assoc]
  | tore failed =>
    obtain ⟨before, count, balance⟩ := paid
    refine ⟨before, ?_, balance.snoc rfl⟩
    rw [counted_tore failed, count, Nat.add_assoc]
  | paced =>
    obtain ⟨before, count, balance⟩ := paid
    unfold Paid
    rw [counted_silent rfl, count]
    exact balance.pause exact count
  | rested =>
    unfold Paid
    rw [counted_silent rfl]
    exact Balance.rest exact paid
  | halt | lost | refused | gaveUp | stopped | cutShort => trivial

/-! ## Whole playbacks -/

/-- No wait is negative. -/
theorem Course.pause_nonneg (exact : c.arithmetic = .exact) (move : Course c frameBytes rate x r answer x') :
    ∀ span, pause? ⟨r, answer⟩ = some span → 0 ≤ span := by
  have round (written : Nat) (lead : Option Rat) : 0 ≤ (waitAfter c frameBytes rate written lead).1 := by
    cases lead with
    | none =>
      rw [waitAfter_first exact]
      exact sub_nonneg.2 (min_le_left _ _)
    | some lead =>
      rw [waitAfter_later exact]
      exact lasts_nonneg ..
  have settling (lead : Rat) (due : 0 < resting c lead) : 0 ≤ c.arithmetic.span (resting c lead) := by
    have span : c.arithmetic.span (resting c lead) = resting c lead := by simp only [exact, Arithmetic.exact, id]
    rw [span]
    exact le_of_lt due
  intro span waits
  cases move with
  | idle idle =>
    cases r with
    | pause => cases idle
    | _ => cases waits
  | paced | stopped =>
    cases waits
    exact round _ _
  | rested due | cutShort due =>
    cases waits
    exact settling _ due
  | _ => cases waits

/-- **How long a playback waits.** In exact numbers, the waits of a playback that comes to its end are not negative, and
    add up to the time that all its bytes last, less the lead of the first wait as far as it is not made good at the end:
    the lead is no more than what the first round has written, and of it as much is left out as settles by itself. -/
theorem pauses_sum (exact : c.arithmetic = .exact) (nonempty : bytes ≠ []) (modest : Modest trace)
    (path : Path goesOn (stream c frameBytes rate rounds { rest := bytes }) trace (.done (.ok false))) :
    (∀ span ∈ pauses trace, 0 ≤ span) ∧
      (pauses trace).sum = lasts frameBytes rate bytes.length -
        min (min c.pacing.lead (lasts frameBytes rate (firstWritten trace))) c.pacing.settle := by
  obtain ⟨x, along, leaves⟩ := course_of_path path
  obtain ⟨-, due⟩ := due_of_path along modest
  have paid : Paid c frameBytes rate trace x := by
    refine along.keeps (fun trace x => Paid c frameBytes rate trace x) ⟨rfl, rfl⟩ ?_
    intro trace x r answer x' paid move
    exact move.paid exact paid
  have nonneg : ∀ span ∈ pauses trace, 0 ≤ span := by
    refine along.keeps (fun trace _ => ∀ span ∈ pauses trace, 0 ≤ span) nofun ?_
    intro trace x r answer x' earlier move span mem
    rw [pauses_snoc] at mem
    rcases List.mem_append.1 mem with mem | mem
    · exact earlier span mem
    · exact move.pause_nonneg exact span (Option.mem_toList.1 mem)
  refine ⟨nonneg, ?_⟩
  -- All bytes have been counted when the loop is left.
  have all (nothing : x.left = some []) : counted trace = bytes.length := by
    obtain ⟨within, rest⟩ := due [] nothing
    have enough := List.drop_eq_nil_iff.1 rest.symm
    omega
  cases leaves with
  | @finished lead settled =>
    have count := all rfl
    cases lead with
    | none =>
      obtain ⟨none, -⟩ := paid
      exact absurd (List.eq_nil_of_length_eq_zero (count.symm.trans none)) nonempty
    | some lead =>
      obtain ⟨first, -, sum⟩ := paid
      have small := settled lead rfl
      rw [resting_exact exact] at small
      have whole : min lead c.pacing.settle = lead := min_eq_left (by linarith)
      rw [sum, count, min_comm c.pacing.lead, ← first, whole, add_zero]
  | @rested lead long =>
    have count := all rfl
    obtain ⟨first, -, sum⟩ := paid
    rw [resting_exact exact] at long sum
    have part : min lead c.pacing.settle = c.pacing.settle := min_eq_right (by linarith)
    rw [sum, count, min_comm c.pacing.lead, ← first, part]
    ring

/-! ### Three waits -/

/-- A lead of one frame, half of which settles by itself, in exact numbers. -/
def ahead : Config := { device := "dsp", pacing := ⟨1 / 8000, 1 / 16000, 2⟩, arithmetic := .exact }

/-- When all is written and some of the lead is left, the loop waits once more. -/
theorem stream_resting {lead : Rat} (due : 0 < resting c lead) :
    stream c frameBytes rate (rounds + 1) { rest := [], lead := some lead } =
      .ask (.log ⟨.debug, "alsa: waiting for the resting delay, " ++ Text.fixed 3 (resting c lead) ++ " s"⟩) fun _ =>
        .ask (.pause (c.arithmetic.span (resting c lead))) fun outcome => .done (.ok (outcome = .cancelled)) := by
  have settles : settle c (some lead) =
      .ask (.log ⟨.debug, "alsa: waiting for the resting delay, " ++ Text.fixed 3 (resting c lead) ++ " s"⟩) fun _ =>
        .ask (.pause (c.arithmetic.span (resting c lead))) fun outcome => .done (outcome = .cancelled) := if_pos due
  unfold stream
  simp [settles]

/-- Four bytes go out, then two, and then the rest of the lead is waited for. -/
theorem path_three_pauses : ∃ trace : Trace Paced.Interface,
    Path goesOn (stream ahead 2 8000 3 { rest := [1, 2, 3, 4, 5, 6] }) trace (.done (.ok false)) ∧
    tries trace = [([1, 2, 3, 4], some 4), ([5, 6], some 2)] ∧ firstWritten trace = 4 ∧ (pauses trace).length = 3 := by
  have path : Path goesOn (stream ahead 2 8000 3 { rest := [1, 2, 3, 4, 5, 6] }) [] _ := .start
  replace path := goesOn_next path rfl false
  replace path := goesOn_next path rfl (some (.ok ⟨1, 4, 4⟩) : Option (Except Failure BufferSpace))
  replace path := goesOn_next path rfl ()
  replace path := goesOn_next path rfl (some (.ok 4) : Option (Except Failure Nat))
  replace path := goesOn_next path rfl ()
  replace path := goesOn_next path rfl WaitOutcome.timedOut
  replace path := goesOn_next path rfl false
  replace path := goesOn_next path rfl (some (.ok ⟨1, 4, 4⟩) : Option (Except Failure BufferSpace))
  replace path := goesOn_next path rfl ()
  replace path := goesOn_next path rfl (some (.ok 2) : Option (Except Failure Nat))
  replace path := goesOn_next path rfl ()
  replace path := goesOn_next path rfl WaitOutcome.timedOut
  have due : 0 < resting ahead (waitAfter ahead 2 8000 4 none).2 := by
    rw [resting_exact rfl, waitAfter_first rfl]
    norm_num [lasts, ahead]
  replace path := goesOn_next path (stream_resting due) ()
  replace path := goesOn_next path rfl WaitOutcome.timedOut
  exact ⟨_, path, rfl, rfl, rfl⟩

/-- Of the lead of a frame half is made good, so that the waits are half a frame shorter than the three frames. -/
theorem three_pauses_sum : ∃ trace : Trace Paced.Interface,
    Path goesOn (stream ahead 2 8000 3 { rest := [1, 2, 3, 4, 5, 6] }) trace (.done (.ok false)) ∧ Modest trace ∧
    (pauses trace).length = 3 ∧ (pauses trace).sum = 3 / 8000 - 1 / 16000 := by
  obtain ⟨trace, path, tried, first, three⟩ := path_three_pauses
  have modest : Modest trace := by
    intro bytes n mem
    rw [tried] at mem
    obtain ⟨rfl, rfl⟩ | ⟨rfl, rfl⟩ : bytes = [1, 2, 3, 4] ∧ n = 4 ∨ bytes = [5, 6] ∧ n = 2 := by simpa using mem
    · decide
    · decide
  obtain ⟨-, sum⟩ := pauses_sum rfl (by decide) modest path
  refine ⟨trace, path, modest, three, ?_⟩
  rw [sum, first]
  norm_num [lasts, ahead]

end Playout.Paced
