import Playout.Proofs.Transport.Protocol

/-!
# `Playout.Proofs.Transport.Custody` — who answers for the stream

Whatever else an output does, the stream that lies in its slot changes hands in few ways: a call takes it out with
the lock of the slot, may release it, may open another one, and in the end leaves the slot with the stream that it
has, or empty.

## Contents
- `Custody`, `Pass` — what a call has to do with the stream, and how that changes.
- `Custodian` — an output that hands its stream on in this way.
- `Keeper.custodian` — an output that keeps one stream open does.
-/

namespace Playout.Transport

open Interleaving Program

variable {Spec : Type}

/-- What a call has to do with the stream in the slot. -/
inductive Custody where
  /-- The slot has not been touched. -/
  | before
  /-- The slot is going to be emptied. -/
  | called
  /-- The call was turned away and does not touch the slot. -/
  | barred
  | owning (h : Handle)
  /-- The slot is locked, and there is no stream. -/
  | vacant
  /-- The slot is done with, and whether a stream was left in it. -/
  | left (kept : Bool)

namespace Custody

/-- Whether the call holds the lock of the slot. -/
def inside : Custody → Bool
  | owning _ | vacant => true
  | _ => false

/-- Whether the call has had the lock of the slot. -/
def touched : Custody → Bool
  | before | called | barred => false
  | _ => true

end Custody

/-- Whether an act is about neither the slot nor which streams are open. -/
def Act.idle : Act Spec → Bool
  | .take _ | .put _ | .opened _ | .release _ => false
  | _ => true

/-- Whether an act takes the slot. -/
def Act.takes : Act Spec → Bool
  | .take _ => true
  | _ => false

theorem Act.takes_of_idle {act : Act Spec} (idle : act.idle = true) : act.takes = false := by
  cases act with
  | take => cases idle
  | _ => rfl

/-- How the stream changes hands. -/
inductive Pass : Custody → Act Spec → Custody → Prop where
  | found {spec h} : Pass .before (.take (some (spec, h))) (.owning h)
  | unfilled : Pass .before (.take none) .vacant
  | closing {spec h} : Pass .called (.take (some (spec, h))) (.owning h)
  | closed : Pass .called (.take none) .vacant
  | opened {h} : Pass .vacant (.opened h) (.owning h)
  | released {h} : Pass (.owning h) (.release h) .vacant
  | kept {spec h} : Pass (.owning h) (.put (some (spec, h))) (.left true)
  | emptied : Pass .vacant (.put none) (.left false)
  | idle {c act} (idle : act.idle = true) : Pass c act c

/-- A thread does not go back to where it was before the slot was taken. -/
theorem Pass.eq_before {c : Custody} {act : Act Spec} (pass : Pass c act .before) : c = .before := by
  cases pass
  rfl

/-- Nobody is turned away by an act. -/
theorem Pass.eq_barred {c : Custody} {act : Act Spec} (pass : Pass c act .barred) : c = .barred := by
  cases pass
  rfl

variable {I : Interface}

/-- The protocol, told by the requests of an output. -/
def passes (act : (r : I.Request) → I.Answer r → Act Spec) : Moves I Custody :=
  fun c r answer c' => Pass c (act r answer) c'

/-- A play that has touched the slot leaves a stream in it if and only if all went well. -/
def Played : Custody → Except PlayError Unit → Prop
  | .before, _ => True
  | .left kept, result => result.isOk = kept
  | _, _ => False

/-- An output whose plays leave the slot as their results tell, and which leaves it empty when it is closed. -/
structure Custodian (o : Output I) (act : (r : I.Request) → I.Answer r → Act Spec) : Prop where
  play : ∀ track settings, (o.play track settings).Follows (passes act) Played .before
  stop : o.stop.Follows (passes act) (fun c _ => c = .before) .before
  close : o.close.Follows (passes act) (fun c _ => c = .left false) .called

/-! ## Keepers -/

/-- What a stage has to do with the stream in the slot. -/
def Stage.custody (s : Stage Spec) : Custody :=
  match s.phase with
  | .entered | .ready =>
    match s.errand with
    | .close => .called
    | _ => .before
  | .mismatched h | .greeting h | .streaming h _ | .cleared h _ _ | .leaving h | .failing h => .owning h
  | .vacant | .empty => .vacant
  | .gone fine =>
    match s.errand with
    | .close => .left false
    | .stop => .before
    | _ => .left fine

theorem custody_afterOpening (header : Spec → Option (List UInt8)) (plan : Plan Spec) (errand : Errand Spec)
    (h : Handle) : (Stage.reach errand (afterOpening header plan h)).custody = .owning h := by
  unfold afterOpening
  cases header plan.spec <;> rfl

/-- Every move on an errand is a way in which the stream changes hands. -/
theorem Move.pass {header : Spec → Option (List UInt8)} {s s' : Stage Spec} {act : Act Spec}
    (move : Move header s act s') : Pass s.custody act s'.custody := by
  cases move with
  | wait => exact .idle rfl
  | turn turn =>
    cases turn with
    | found => exact .found
    | foreign => exact .found
    | unfilled => exact .unfilled
    | closing => exact .closing
    | closed => exact .closed
    | released => exact .released
    | left => exact .emptied
    | opened =>
      rw [custody_afterOpening]
      exact .opened
    | finished => exact .kept
    | kept => exact .kept
    | dropped => exact .released
    | emptied => exact .emptied
    | _ => exact .idle rfl

/-- The program of a command, seen by what it has to do with the stream. -/
theorem Keeper.follows (k : Keeper I Spec) (command : Command) {ends : Custody → Except PlayError Unit → Prop}
    (enough : ∀ s result, s.errand = k.errand command → Ends s result → ends s.custody result) :
    (command.program k.output).Follows (passes k.act) ends (Stage.enter (k.errand command)).custody := by
  have same := Completes.keeps (fun s => s.errand = k.errand command) (k.completes command) rfl
    fun _ _ _ _ same (move : Move k.header _ _ _) => move.errand_eq.trans same
  exact same.follows Stage.custody (fun _ _ _ _ (move : Move k.header _ _ _) => move.pass)
    fun s result ended => enough s result ended.1 ended.2

/-- An output that keeps one stream open hands it on. -/
theorem Keeper.custodian (k : Keeper I Spec) : Custodian k.output k.act where
  play track settings := by
    -- Whether the track can be played makes no difference at the beginning.
    have start : (Stage.enter (k.errand (.play track settings))).custody = .before := by
      unfold Design.errand
      dsimp only
      split <;> rfl
    rw [← start]
    refine k.follows (.play track settings) ?_
    rintro ⟨errand, phase, patience⟩ result (rfl : errand = _) ended
    have playing : k.errand (.play track settings) = .play (k.plan track settings) ∨
        k.errand (.play track settings) = .skip := by
      unfold Design.errand
      dsimp only
      split
      · exact .inl rfl
      · exact .inr rfl
    cases phase with
    | gone fine =>
      have told : result.isOk = fine := ended
      rcases playing with plays | skips
      · simpa only [Stage.custody, plays, Played] using told
      · simpa only [Stage.custody, skips, Played] using told
    | ready =>
      rcases playing with plays | skips
      · simp only [Ends, plays] at ended
      · simp only [Stage.custody, skips]
        trivial
    | _ => cases ended
  stop := by
    have whole : (k.output.stop.bind fun _ => .done (.ok ())).Follows (passes k.act)
        (fun c (_ : Except PlayError Unit) => c = .before) .before := by
      refine k.follows .stop ?_
      rintro ⟨errand, phase, patience⟩ result (rfl : errand = .stop) ended
      cases phase with
      | gone fine => rfl
      | _ => cases ended
    exact whole.of_bind
  close := by
    have whole : (k.output.close.bind fun _ => .done (.ok ())).Follows (passes k.act)
        (fun c (_ : Except PlayError Unit) => c = .left false) .called := by
      refine k.follows .close ?_
      rintro ⟨errand, phase, patience⟩ result (rfl : errand = .close) ended
      cases phase with
      | gone fine => rfl
      | _ => cases ended
    exact whole.of_bind

end Playout.Transport
