import Playout.Proofs.Poll.Protocol
import Playout.Proofs.Transport.Custody

/-!
# `Playout.Proofs.Poll.Custodian` — a device is kept open

## Contents
- `act` — what the requests of the output do to the device.
- `Phase.custody`, `Turn.pass` — how its protocol hands the device on.
- `custodian` — the output hands its device on.
-/

namespace Playout.Poll

open Transport Program

/-- What a request does to the device in the slot, with its answer. All formats are played on the same device. -/
def act : (r : Poll.Request) → Poll.Request.Answer r → Act Unit
  | .takeDevice, found => .take (found.map fun h => ((), h))
  | .putDevice kept, _ => .put (kept.map fun h => ((), h))
  | .openDevice _, .ok h => .opened h
  | .openDevice _, .error _ => .refused
  | .releaseDevice h, _ => .release h
  | _, _ => .other

/-- What a phase has to do with the device in the slot. -/
def Phase.custody : Phase → Custody
  | barred | entered | called | locked _ | notified | heard => .before
  | held h | spurned h | granted h | agreed h | marking h | swept h | feeding h | waiting h _ | ceased h _
  | unmarking h _ | tidying h _ | tidied h _ | doomed h => .owning h
  | vacant | emptied | bare => .vacant
  | gone kept => .left kept
  | closing => .called
  | shut => .left false

/-- Every turn is a way in which the device changes hands. -/
theorem Turn.pass {φ φ' : Phase} {r : Poll.Request} {answer : Poll.Request.Answer r} (turn : Turn φ r answer φ') :
    Pass φ.custody (act r answer) φ'.custody := by
  cases turn with
  | found => exact .found
  | unfilled => exact .unfilled
  | opened => exact .opened
  | kept => exact .kept
  | condemned | released | doomed => exact .released
  | left | shut => exact .emptied
  | close => exact .closing
  | closed => exact .closed
  | _ => exact .idle rfl

/-- What keeps to the protocol hands the device on. -/
theorem hands {α : Type} {p : Action α} {φ : Phase} {ends : Stage → α → Prop} {ends' : Custody → α → Prop}
    (h : p.Follows moves ends (.reach φ)) (looser : ∀ s result, ends s result → ends' s.phase.custody result) :
    p.Follows (passes act) ends' φ.custody := by
  refine h.view (fun s => s.phase.custody) ?_ looser
  rintro _ r answer _ (turn | _)
  · exact turn.pass
  · exact .idle rfl

/-- The output hands its device on. -/
theorem custodian (cfg : Config) : Custodian (output cfg) act where
  play track settings := by
    have start : (enter (.play track settings)).custody = .before := by
      by_cases accepted : accepts track = true
      · rw [enter_play accepted]
        rfl
      · rw [enter_refused accepted]
        rfl
    rw [← start]
    refine hands (play_follows cfg track settings) ?_
    rintro ⟨φ, left⟩ result ended
    cases φ with
    | gone kept => exact ended
    | barred => trivial
    | _ => cases ended
  stop := by
    refine hands stop_follows ?_
    rintro ⟨_, left⟩ _ rfl
    rfl
  close := by
    refine hands close_follows ?_
    rintro ⟨_, left⟩ _ rfl
    rfl

end Playout.Poll
