import Playout.Flow.Pump
import Playout.Proofs.Interleaving

/-!
# `Playout.Proofs.Flow.Serial` — drawing serials

## Contents
- `drawSerial_follows` — drawing a serial keeps to a protocol if adding to the counter does.
- `drawSerial_bind_asks` — it asks nothing else, and what follows it has a serial that is not zero.
-/

namespace Playout.Flow

open Program

/-- A zero is drawn again, in the phase as it was; any other number is the serial. -/
theorem drawSerial_follows {I : Playout.Interface} {Φ : Type} {moves : Moves I Φ} {φ : Φ}
    {mid : Φ → UInt32 → Prop} {add : Program I UInt32}
    (adds : add.Follows moves (fun φ' n => if n = 0 then φ' = φ else mid φ' n) φ) (attempts : Nat) :
    (Pump.drawSerial add attempts).Follows moves mid φ := by
  induction attempts with
  | zero => trivial
  | succ attempts ih =>
    refine Follows.bind adds ?_
    intro φ' n drawn
    by_cases zero : n = 0
    · rw [if_pos zero] at drawn
      rw [if_pos zero, drawn]
      exact ih
    · rw [if_neg zero] at drawn
      rw [if_neg zero]
      exact Follows.done drawn

/-- Drawing a serial asks what adding to the counter asks, and goes on with a serial that is not zero. -/
theorem drawSerial_bind_asks {I : Playout.Interface} {α : Type} {allowed : I.Request → Prop} {add : Program I UInt32}
    (adds : add.Asks allowed) (attempts : Nat) {f : UInt32 → Program I α}
    (rest : ∀ serial, serial ≠ 0 → (f serial).Asks allowed) :
    ((Pump.drawSerial add attempts).bind f).Asks allowed := by
  induction attempts with
  | zero => trivial
  | succ attempts ih =>
    rw [Pump.drawSerial, bind_eq, bind_assoc]
    refine Asks.bind adds fun serial => ?_
    by_cases zero : serial = 0
    · rw [if_pos zero]
      exact ih
    · rw [if_neg zero]
      exact rest serial zero

end Playout.Flow
