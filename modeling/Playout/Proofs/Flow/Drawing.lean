import Mathlib.Data.List.Range
import Playout.Flow.Output
import Playout.Proofs.Traces

/-!
# `Playout.Proofs.Flow.Drawing` — many draw serials from one counter

The players and the pump draw their serials from one counter, which wraps around. An addition is one step; a caller
that has come to zero adds once more, and any number of others may have added in between.

## Contents
- `Thread`, `interface`, `sum?`, `Counts` — who shares the counter, and what an addition is answered.
- `additions`, `results`, `sums` — the sums of a run in order, those that are serials, and those of one call.
- `serialAfter`, `nodup_of_short` — the serials that follow on a counter; a window of them that is no longer than a
  round has none twice.
- `Moved`, `run_moved` — every run draws the serials of its counter in their order.
- `draws`, `Far`, `run_far` — calls that do nothing but draw, and how far each of them has come.
- `rounds_of_unfinished` — when a call runs out of attempts.
-/

namespace Playout.Flow.Drawing

open Interleaving

/-! ## Who shares the counter -/

/-- Any number of players, and the pump. -/
inductive Thread where
  | player (number : Nat)
  | pump
  deriving DecidableEq

/-- The players talk to the surroundings of the output. -/
@[reducible] def interface : Thread → Playout.Interface
  | .player _ => Player.Interface
  | .pump => Pump.Interface

/-- One addition to the counter. -/
def add : (t : Thread) → Program (interface t) UInt32
  | .player _ => Player.addSerial
  | .pump => Pump.addSerial

/-- The sum that a player is answered, if it has added. -/
def playerSum? : (r : Player.Request) → r.Answer → Option UInt32
  | .addSerial, sum => some sum
  | _, _ => none

/-- The sum that the pump is answered, if it has added. -/
def pumpSum? : (r : Pump.Request) → r.Answer → Option UInt32
  | .addSerial, sum => some sum
  | _, _ => none

/-- The sum that a thread is answered, if it has added. -/
def sum? : (t : Thread) → (r : (interface t).Request) → (interface t).Answer r → Option UInt32
  | .player _ => playerSum?
  | .pump => pumpSum?

/-- An addition is answered by the sum, at which the counter stands afterwards. Nothing else touches the counter. -/
def Counts (counter : UInt32) : Option UInt32 → UInt32 → Prop
  | some sum, counter' => sum = counter + 1 ∧ counter' = sum
  | none, counter' => counter' = counter

/-- The surroundings in which there is nothing but the counter. -/
def counted : Surroundings interface UInt32 := fun t r counter answer counter' => Counts counter (sum? t r answer) counter'

variable {α : Thread → Type} {σ : Type}

/-! ## What is drawn in a run -/

/-- The addition that an event is, if any: the thread and its call, and the sum. -/
def addition? : Interleaving.Event interface α → Option ((Thread × Nat) × UInt32)
  | .asked t n r answer => (sum? t r answer).map fun sum => ((t, n), sum)
  | .returned .. => none

/-- The additions of a run, in order. -/
def additions (history : List (Interleaving.Event interface α)) : List ((Thread × Nat) × UInt32) :=
  history.filterMap addition?

/-- The serials that have been drawn in a run, in the order of the additions that they come from. -/
def results (history : List (Interleaving.Event interface α)) : List UInt32 :=
  ((additions history).map Prod.snd).filter (· ≠ 0)

/-- The sums that one call has come to, in order. -/
def sums (t : Thread) (n : Nat) (history : List (Interleaving.Event interface α)) : List UInt32 :=
  ((additions history).filter (·.1 = (t, n))).map Prod.snd

/-- No serial is drawn twice within a round of the counter. -/
def Apart (history : List (Interleaving.Event interface α)) : Prop :=
  ∀ front window back, results history = front ++ window ++ back → window.length ≤ UInt32.size - 1 → window.Nodup

section Adding

variable {history : List (Interleaving.Event interface α)} {t : Thread} {n : Nat} {r : (interface t).Request}
  {answer : (interface t).Answer r} {sum : UInt32}

theorem additions_sum (added : sum? t r answer = some sum) :
    additions (history ++ [.asked t n r answer]) = additions history ++ [((t, n), sum)] := by
  rw [additions, filterMap_snoc, addition?, added]
  rfl

theorem additions_aside (aside : sum? t r answer = none) :
    additions (history ++ [.asked t n r answer]) = additions history := by
  refine filterMap_snoc_none ?_ history
  rw [addition?, aside]
  rfl

theorem additions_returned {result : α t} :
    additions (history ++ [.returned t n result]) = additions history :=
  filterMap_snoc_none rfl history

theorem sums_self (added : sum? t r answer = some sum) :
    sums t n (history ++ [.asked t n r answer]) = sums t n history ++ [sum] := by
  rw [sums, additions_sum added]
  simp [sums]

theorem sums_other {u : Thread} {m : Nat} (other : (t, n) ≠ (u, m)) :
    sums u m (history ++ [.asked t n r answer]) = sums u m history := by
  cases added : sum? t r answer with
  | none => rw [sums, additions_aside added, sums]
  | some sum =>
    rw [sums, additions_sum added]
    simp [sums, other]

theorem sums_returned {u : Thread} {m : Nat} {result : α t} :
    sums u m (history ++ [.returned t n result]) = sums u m history := by
  rw [sums, additions_returned, sums]

end Adding

/-! ## The serials of a counter -/

/-- The serial that is drawn after `k` others from a counter that stands at `counter`. -/
def serialAfter (counter : UInt32) (k : Nat) : UInt32 :=
  UInt32.ofNat ((counter.toNat + k) % (UInt32.size - 1) + 1)

theorem toNat_serialAfter (counter : UInt32) (k : Nat) :
    (serialAfter counter k).toNat = (counter.toNat + k) % (UInt32.size - 1) + 1 := by
  refine UInt32.toNat_ofNat_of_lt' ?_
  simp only [UInt32.size]
  omega

/-- Serials that are less than a round apart differ. -/
theorem serialAfter_ne {counter : UInt32} {i j : Nat} (later : i < j) (near : j - i < UInt32.size - 1) :
    serialAfter counter i ≠ serialAfter counter j := by
  intro same
  have same := congrArg UInt32.toNat same
  rw [toNat_serialAfter, toNat_serialAfter] at same
  simp only [UInt32.size] at same near
  omega

/-- A window that is no longer than a round has no serial twice. -/
theorem nodup_of_short {counter : UInt32} {total : Nat} {front window back : List UInt32}
    (parts : (List.range total).map (serialAfter counter) = front ++ window ++ back)
    (short : window.length ≤ UInt32.size - 1) : window.Nodup := by
  have drawn (i : Nat) (inside : i < window.length) : window[i] = serialAfter counter (front.length + i) := by
    have here : (front ++ window ++ back)[front.length + i]? = some window[i] := by
      simp [List.getElem?_append, inside]
    rw [← parts, List.getElem?_map, List.getElem?_range] at here
    · exact (Option.some.inj here).symm
    · have whole := congrArg List.length parts
      simp only [List.length_map, List.length_range, List.length_append] at whole
      omega
  refine List.pairwise_iff_getElem.2 fun i j insideI insideJ later => ?_
  rw [drawn i insideI, drawn j insideJ]
  exact serialAfter_ne (by omega) (by omega)

/-- Every sum is a serial, or zero. -/
theorem length_results (history : List (Interleaving.Event interface α)) :
    (results history).length + ((additions history).map Prod.snd).count 0 = (additions history).length := by
  have split := ((additions history).map Prod.snd).length_eq_countP_add_countP (· ≠ 0)
  rw [List.length_map, List.countP_eq_length_filter] at split
  have zeros : ((additions history).map Prod.snd).count 0 =
      ((additions history).map Prod.snd).countP fun sum => ¬ decide (sum ≠ 0) = true :=
    List.countP_congr fun sum _ => by simp
  rw [results, zeros, split]

/-- A run has moved the counter on from `counter` to `now`. Every zero among the sums stands for a round, and each
    round has drawn the same serials in the same order. -/
structure Moved (counter : UInt32) (history : List (Interleaving.Event interface α)) (now : UInt32) : Prop where
  total : counter.toNat + (additions history).length
    = ((additions history).map Prod.snd).count 0 * UInt32.size + now.toNat
  drawn : results history = (List.range (results history).length).map (serialAfter counter)

namespace Moved

variable {counter now now' : UInt32} {history : List (Interleaving.Event interface α)} {t : Thread} {n : Nat}

theorem start : Moved (α := α) counter [] counter where
  total := by simp [additions]
  drawn := rfl

/-- One more addition: it draws the next serial, or it comes to zero and a round is over. -/
theorem add {e : Interleaving.Event interface α} {who : Thread × Nat} {sum : UInt32} (h : Moved counter history now)
    (added : additions (history ++ [e]) = additions history ++ [(who, sum)]) (counts : sum = now + 1) :
    Moved counter (history ++ [e]) sum := by
  have come : results (history ++ [e]) = results history ++ [sum].filter (· ≠ 0) := by
    rw [results, added, List.map_append, List.filter_append, results]
    rfl
  have room := now.toNat_lt
  have value : sum.toNat = (now.toNat + 1) % UInt32.size := by rw [counts, UInt32.toNat_add]; rfl
  have length := length_results history
  have total := h.total
  simp only [UInt32.size] at value total
  by_cases zero : sum = 0
  · subst zero
    have wrapped : now.toNat = 4294967295 := by
      simp only [UInt32.toNat_zero] at value
      omega
    refine ⟨?_, ?_⟩
    · rw [added, List.length_append, List.map_append, List.count_append, List.length_singleton, List.map_singleton,
        List.count_singleton_self, UInt32.toNat_zero, UInt32.size]
      omega
    · rw [come, List.filter_singleton]
      simpa using h.drawn
  · have nonzero : sum.toNat ≠ 0 := fun same => zero (UInt32.toNat_inj.1 same)
    have next : sum = serialAfter counter (results history).length := by
      refine UInt32.toNat_inj.1 ?_
      rw [toNat_serialAfter, UInt32.size]
      omega
    refine ⟨?_, ?_⟩
    · rw [added, List.length_append, List.map_append, List.count_append, List.length_singleton, List.map_singleton,
        List.count_singleton, if_neg (by simpa using zero), UInt32.size]
      omega
    · have one : [sum].filter (· ≠ 0) = [sum] := by simp [zero]
      rw [come, one, List.length_append, List.length_singleton, List.range_succ, List.map_append, ← h.drawn,
        List.map_singleton, ← next]

theorem asked {r : (interface t).Request} {answer : (interface t).Answer r} (h : Moved counter history now)
    (counts : Counts now (sum? t r answer) now') : Moved counter (history ++ [.asked t n r answer]) now' := by
  cases added : sum? t r answer with
  | some sum =>
    rw [added] at counts
    obtain ⟨counts, rfl⟩ := counts
    exact h.add (additions_sum added) counts
  | none =>
    rw [added] at counts
    obtain rfl := counts
    refine ⟨?_, ?_⟩
    · rw [additions_aside added]
      exact h.total
    · rw [results, additions_aside added]
      exact h.drawn

theorem returned {result : α t} (h : Moved counter history now) :
    Moved counter (history ++ [.returned t n result]) now := by
  refine ⟨?_, ?_⟩
  · rw [additions_returned]
    exact h.total
  · rw [results, additions_returned]
    exact h.drawn

end Moved

/-- **The counter moves on.** Whatever the threads do and whatever else they share, as long as additions are answered
    by the counter, a run draws the serials of the counter in their order. -/
theorem run_moved {calls : Calls interface α} {answers : Surroundings interface σ} {shared : σ} (counter : σ → UInt32)
    (counts : ∀ {t r s answer s'}, answers t r s answer s' → Counts (counter s) (sum? t r answer) (counter s'))
    {history : List (Interleaving.Event interface α)} {s : State interface α σ}
    (run : Run calls answers shared history s) : Moved (counter shared) history (counter s.shared) := by
  induction run with
  | start => exact .start
  | step before next ih =>
    cases next with
    | ask asks answered => exact ih.asked (counts answered)
    | finish done => exact ih.returned

theorem Moved.apart {counter now : UInt32} {history : List (Interleaving.Event interface α)}
    (h : Moved counter history now) : Apart history :=
  fun _ _ _ parts short => nodup_of_short (h.drawn.symm.trans parts) short

/-! ## Calls that draw -/

/-- Every call draws one serial, and may try as often as `attempts` says. -/
def draws (attempts : Thread → Nat → Nat) : Calls interface fun _ => UInt32 :=
  fun t n => Pump.drawSerial (add t) (attempts t n)

/-- Where a call stands. -/
inductive Phase where
  /-- It may try so many times yet. -/
  | drawing (left : Nat)
  | drawn (serial : UInt32)

/-- What is left of a call in each phase. -/
def Phase.Keeps (t : Thread) (p : Program (interface t) UInt32) : Phase → Prop
  | .drawing left => p = Pump.drawSerial (add t) left
  | .drawn serial => p = .done serial

/-- The sums of a call that has drawn a serial: it is the last one, after zeros. -/
def Draws (serial : UInt32) (sums : List UInt32) : Prop :=
  serial ≠ 0 ∧ ∃ misses, sums = List.replicate misses 0 ++ [serial]

/-- The sums of a call in each phase. -/
def Phase.Has (attempts : Nat) (sums : List UInt32) : Phase → Prop
  | .drawing left => ∃ misses, misses + left = attempts ∧ sums = List.replicate misses 0
  | .drawn serial => Draws serial sums

/-- How far the calls have come. -/
structure Far (attempts : Thread → Nat → Nat) (number : Thread → Nat) (φ : Thread → Phase)
    (history : List (Interleaving.Event interface fun _ => UInt32)) : Prop where
  here : ∀ t, (φ t).Has (attempts t (number t)) (sums t (number t) history)
  ended : ∀ t n serial, .returned t n serial ∈ history → n < number t ∧ Draws serial (sums t n history)
  begun : ∀ t n, number t < n → sums t n history = []

/-- A call that asks something adds, and has drawn unless it has come to zero. -/
theorem asks_of_drawing {t : Thread} {left : Nat} {r : (interface t).Request}
    {next : (interface t).Answer r → Program (interface t) UInt32}
    (stands : .ask r next = Pump.drawSerial (add t) left) :
    ∃ rest, left = rest + 1 ∧ ∀ answer, ∃ sum, sum? t r answer = some sum ∧
      next answer = if sum = 0 then Pump.drawSerial (add t) rest else .done sum := by
  cases left with
  | zero => cases stands
  | succ rest =>
    cases t with
    | player number =>
      cases stands
      exact ⟨rest, rfl, fun answer => ⟨answer, rfl, rfl⟩⟩
    | pump =>
      cases stands
      exact ⟨rest, rfl, fun answer => ⟨answer, rfl, rfl⟩⟩

namespace Far

variable {attempts : Thread → Nat → Nat} {number : Thread → Nat} {φ : Thread → Phase}
  {history : List (Interleaving.Event interface fun _ => UInt32)} {t : Thread}

theorem start : Far attempts (fun _ => 0) (fun t => .drawing (attempts t 0)) [] :=
  ⟨fun _ => ⟨0, Nat.zero_add _, rfl⟩, nofun, fun _ _ _ => rfl⟩

/-- An addition moves its call on, and no other. -/
theorem ask {r : (interface t).Request} {answer : (interface t).Answer r} {φ' : Phase} {sum : UInt32}
    (h : Far attempts number φ history) (added : sum? t r answer = some sum)
    (has : φ'.Has (attempts t (number t)) (sums t (number t) history ++ [sum])) :
    Far attempts number (Function.update φ t φ') (history ++ [.asked t (number t) r answer]) where
  here u := by
    by_cases same : u = t
    · subst same
      rw [Function.update_self, sums_self added]
      exact has
    · rw [Function.update_of_ne same, sums_other (by simp [Ne.symm same])]
      exact h.here u
  ended u n serial returned := by
    rw [List.mem_append, List.mem_singleton] at returned
    obtain ⟨earlier, drawn⟩ := h.ended u n serial (returned.resolve_right (fun e => by cases e))
    refine ⟨earlier, ?_⟩
    rwa [sums_other]
    rintro ⟨⟩
    exact Nat.lt_irrefl _ earlier
  begun u n later := by
    rw [sums_other]
    · exact h.begun u n later
    · rintro ⟨⟩
      exact Nat.lt_irrefl _ later

/-- A call that has drawn a serial returns it; the next one has added nothing yet. -/
theorem finish {serial : UInt32} (h : Far attempts number φ history) (drawn : φ t = .drawn serial) :
    Far attempts (Function.update number t (number t + 1))
      (Function.update φ t (.drawing (attempts t (number t + 1)))) (history ++ [.returned t (number t) serial]) where
  here u := by
    rw [sums_returned]
    by_cases same : u = t
    · subst same
      rw [Function.update_self, Function.update_self, h.begun u _ (Nat.lt_succ_self _)]
      exact ⟨0, Nat.zero_add _, rfl⟩
    · rw [Function.update_of_ne same, Function.update_of_ne same]
      exact h.here u
  ended u n other returned := by
    rw [sums_returned]
    rcases List.mem_append.1 returned with before | now
    · obtain ⟨earlier, draws⟩ := h.ended u n other before
      exact ⟨Nat.lt_of_lt_of_le earlier (le_number_update number t u), draws⟩
    · obtain ⟨rfl, rfl, rfl⟩ : u = t ∧ n = number t ∧ other = serial := by
        simpa using now
      have has := h.here u
      rw [drawn] at has
      rw [Function.update_self]
      exact ⟨Nat.lt_succ_self _, has⟩
  begun u n later := by
    rw [sums_returned]
    exact h.begun u n (Nat.lt_of_le_of_lt (le_number_update number t u) later)

end Far

/-- Every run of calls that draw keeps track of each of them. -/
theorem run_far {attempts : Thread → Nat → Nat} {counter : UInt32}
    {history : List (Interleaving.Event interface fun _ => UInt32)} {s : State interface (fun _ => UInt32) UInt32}
    (run : Run (draws attempts) counted counter history s) :
    ∃ φ : Thread → Phase, (∀ t, (φ t).Keeps t (s.call t).rest) ∧
      Far attempts (fun t => (s.call t).number) φ history := by
  have enter (t : Thread) (n : Nat) : (Phase.drawing (attempts t n)).Keeps t (draws attempts t n) := rfl
  refine run.rule (fun t p φ => φ.Keeps t p) (fun _ number φ history => Far attempts number φ history)
    enter .start ?ask ?finish
  case ask =>
    intro now number φ history t r next answer now' far keeps answered
    have has := far.here t
    cases stands : φ t with
    | drawing left =>
      rw [stands] at keeps has
      obtain ⟨rest, rfl, adds⟩ := asks_of_drawing keeps
      obtain ⟨sum, added, goesOn⟩ := adds answer
      obtain ⟨misses, tried, zeros⟩ := has
      by_cases zero : sum = 0
      · refine ⟨.drawing rest, goesOn.trans (if_pos zero), far.ask added ⟨misses + 1, by omega, ?_⟩⟩
        rw [zeros, zero, List.replicate_succ']
      · exact ⟨.drawn sum, goesOn.trans (if_neg zero), far.ask added ⟨zero, misses, by rw [zeros]⟩⟩
    | drawn serial =>
      rw [stands] at keeps
      cases keeps
  case finish =>
    intro now number φ history t serial far keeps
    cases stands : φ t with
    | drawing left =>
      rw [stands] at keeps
      cases left with
      | zero => cases keeps
      | succ rest => cases t <;> cases keeps
    | drawn other =>
      rw [stands] at keeps
      cases keeps
      exact far.finish stands

/-- The zeros that one call has come to are among those of all. -/
theorem count_sums_le (history : List (Interleaving.Event interface α)) (t : Thread) (n : Nat) :
    (sums t n history).count 0 ≤ ((additions history).map Prod.snd).count 0 :=
  (List.filter_sublist.map Prod.snd).count_le 0

/-- A call runs out of attempts only after the counter has gone round as often. -/
theorem rounds_of_unfinished {attempts : Thread → Nat → Nat} {counter : UInt32}
    {history : List (Interleaving.Event interface fun _ => UInt32)} {s : State interface (fun _ => UInt32) UInt32}
    (run : Run (draws attempts) counted counter history s) {t : Thread} (unfinished : (s.call t).rest = .unfinished) :
    attempts t (s.call t).number * UInt32.size ≤ counter.toNat + (additions history).length := by
  obtain ⟨φ, keeps, far⟩ := run_far run
  have keeps := keeps t
  have has := far.here t
  have moved : Moved counter history s.shared := run_moved id (fun answered => answered) run
  rw [unfinished] at keeps
  cases stands : φ t with
  | drawn serial =>
    rw [stands] at keeps
    cases keeps
  | drawing left =>
    rw [stands] at keeps has
    obtain ⟨misses, tried, zeros⟩ := has
    cases left with
    | succ rest => cases t <;> cases keeps
    | zero =>
      have few := count_sums_le history t (s.call t).number
      rw [zeros, List.count_replicate_self] at few
      have total := moved.total
      simp only [UInt32.size] at total ⊢
      omega

end Playout.Flow.Drawing
