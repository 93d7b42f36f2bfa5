import Playout.Proofs.Paced.Lodging
import Playout.Proofs.Sequence.Lockers

/-!
# `Playout.Proofs.Balance` — no output keeps a handle that it does not need

Three outputs keep their handle from track to track; one opens it for each track. With none of them two handles are ever
open at once, and no handle is used that has been dropped.

## Contents
- `Paced.effect`, `Lodges.holding` — what a paced output does to handles.
- `Paced.Unlent`, `Paced.reached` — between two calls it has none open.
- `Paced.balanced` — its handles are balanced.

## Main statements
- `handles_are_balanced` — so are those of all outputs that have handles.
-/

namespace Playout

open Sequence Transport Program

namespace Paced

/-! ## A device for each track -/

/-- The tracks that are played. -/
def accepts (track : Track) : Bool := !track.isEmpty && track.validate.isOk

theorem accepts_iff {track : Track} :
    accepts track = true ↔ track.isEmpty = false ∧ ∃ width, track.validate = .ok width := Poll.accepts_iff

/-- What a native call does to handles. One that goes to the slot uses the device that lies there. -/
def effectOf : (r : Paced.Request) → Handed → Paced.Request.Answer r → Effect
  | .openDevice _, _, .ok h => .opened h
  | .openDevice _, _, .error _ => .refused
  | .releaseDevice h, _, _ => .dropped h
  | .configure h _, _, _ | .flush h, _, _ => .used h
  | .space, handed, _ | .write _, handed, _ | .resetDevice, handed, _ => (handed.device.map .used).getD .nothing
  | _, _, _ => .nothing

/-- What a native call does to handles. -/
def effect (call : Made Paced.Interface) : Effect := effectOf call.request call.handed call.answer

/-- The device that is open. -/
def Lodging.hand : Lodging → Option Handle
  | holding h | lodged h => some h
  | away | lost => none

variable {c : Config} {native : Native Paced.Interface} {x x' : Lodging} {r : Paced.Request}
  {answer : Paced.Request.Answer r} {s s' : Memory × List (Made Paced.Interface)}

/-- What lies in the slot is the device that is open. -/
theorem Lodging.Fits.hand_eq {m : Memory} {h : Handle} (fits : x.Fits m) (lies : m.slot = some h) :
    x.hand = some h := by
  cases x with
  | lodged g => exact (Option.some.inj (fits.symm.trans lies)) ▸ rfl
  | away | holding => cases lies.symm.trans fits
  | lost => cases fits

/-- A request that goes to the slot uses the device there. -/
theorem reach_uses {m : Memory} {empty : r.Answer} {handed : Handed} (fits : x.Fits m)
    (dealt : m.reach empty = .native handed) :
    ((handed.device.map Effect.used).getD .nothing).on x.hand = some x.hand := by
  unfold Memory.reach at dealt
  cases lies : m.slot with
  | none =>
    rw [lies] at dealt
    cases dealt
  | some h =>
    rw [lies] at dealt
    cases dealt
    rw [fits.hand_eq lies]
    exact Effect.on_used h

/-- A request that leaves the device where it is uses no other one. -/
theorem effect_of_settled (settled : r.settled = true) (fits : x.Fits s.1) {handed : Handed}
    (dealt : deal r s.1 = .native handed) : (effectOf r handed answer).on x.hand = some x.hand := by
  cases r with
  | space | write | resetDevice => exact reach_uses fits dealt
  | clock | pause | nap => rfl
  | openDevice | configure | releaseDevice | flush | install | uninstall => cases settled
  | log | resetSignal | cancelSignal | cancelled => cases dealt

/-- Every request is made with the device that is open. -/
theorem Lodges.holding (move : Lodges x r answer x') (fits : x.Fits s.1) (held : holding effect s.2 = some x.hand)
    (told : react deal native r s = some (answer, s')) : holding effect s'.2 = some x'.hand := by
  have there := move.fits fits told
  obtain ⟨m, made⟩ := s
  obtain ⟨m', dealt, rfl⟩ | ⟨handed, dealt, rfl⟩ := react_cases told
  · cases move with
    | settled | installed | uninstalled | bare => exact held
    | opened | refused | configured | flushed | released => cases dealt
    | crowded | taken | found | lost => cases there
  · have now : Sequence.holding effect (made ++ [⟨r, handed, answer⟩]) = (effectOf r handed answer).on x.hand := by
      rw [holding_snoc, held]
      rfl
    rw [now]
    cases move with
    | settled settled => exact effect_of_settled settled fits dealt
    | opened | refused => rfl
    | configured | flushed => exact Effect.on_used _
    | released => exact Effect.on_dropped _
    | installed | uninstalled | bare => cases dealt
    | crowded | taken | found | lost => cases there

/-- Nothing lies in the slot, and no device is open. -/
structure Unlent (s : Memory × List (Made Paced.Interface)) : Prop where
  empty : s.1.slot = none
  closed : Sequence.holding effect s.2 = some none

/-- What a call does. -/
theorem lent {command : Command} {ending : Ending (Except PlayError Unit)} (unlent : Unlent s)
    (yields : Yields (output c) deal native s command ending s') :
    ∃ x : Lodging, (x.Fits s'.1 ∧ Sequence.holding effect s'.2 = some x.hand) ∧
      Stopped (fun x (_ : Except PlayError Unit) => Unlodged x) x ending := by
  have kept := run_keeps (react deal native)
    (fun x s => x.Fits s.1 ∧ Sequence.holding effect s.2 = some x.hand) (lodges_follow c command)
    ⟨unlent.empty, unlent.closed⟩ (fun _ _ => answered native _ _)
    fun held move told => ⟨Lodges.fits move held.1 told, Lodges.holding move held.1 held.2 told⟩
  rw [yields] at kept
  exact kept

/-- A call that returns leaves no device open. -/
theorem unlent_of_returned {command : Command} {result : Except PlayError Unit} (unlent : Unlent s)
    (yields : Yields (output c) deal native s command (.finished result) s') : Unlent s' := by
  obtain ⟨x, ⟨fits, held⟩, ended⟩ := lent unlent yields
  rcases ended with rfl | rfl
  · exact ⟨fits, held⟩
  · cases fits

/-- The opening looks whether there is a device. -/
theorem begins_unlent {ending : Ending (Except OpenError (Output Paced.Interface))}
    (begins : Begins (openOutput c) deal {} native ending s) :
    Unlent s ∧ ending ≠ .blocked ∧ ∀ o, ending = .finished (.ok o) → o = output c := by
  simp only [Begins, openOutput, bind_eq, pure_eq, ask_bind, done_bind, Program.run, react, deal, List.nil_append]
    at begins
  cases opened : native [] (.openDevice c.device) {} with
  | error failure =>
    rw [opened] at begins
    cases begins
    refine ⟨⟨rfl, rfl⟩, by simp, ?_⟩
    intro o is
    cases is
  | ok h =>
    rw [opened] at begins
    cases begins
    refine ⟨⟨rfl, by simp [Sequence.holding, effect, effectOf, Effect.on]⟩, by simp, ?_⟩
    intro o is
    cases is
    rfl

/-- Between two calls no device is open. -/
theorem reached {o : Output Paced.Interface} (reached : Reached (openOutput c) deal {} native o s) :
    o = output c ∧ Unlent s := by
  induction reached with
  | opened begins =>
    obtain ⟨unlent, -, is⟩ := begins_unlent begins
    exact ⟨is _ rfl, unlent⟩
  | called _ yields ih =>
    obtain ⟨rfl, unlent⟩ := ih
    exact ⟨rfl, unlent_of_returned unlent yields⟩

/-- **The handles of a paced output are balanced.** -/
theorem balanced (c : Config) : Balanced (openOutput c) deal {} effect accepts where
  opens begins := by
    obtain ⟨unlent, answers, -⟩ := begins_unlent begins
    exact ⟨answers, sound_of_holding unlent.closed⟩
  refused begins := (begins_unlent begins).1.closed
  call before yields := by
    obtain ⟨rfl, unlent⟩ := reached before
    obtain ⟨x, ⟨-, held⟩, ended⟩ := lent unlent yields
    refine ⟨?_, sound_of_holding held⟩
    rintro rfl
    exact ended
  closed before yields := by
    obtain ⟨rfl, unlent⟩ := reached before
    exact (unlent_of_returned unlent yields).closed
  failed before _ yields := by
    obtain ⟨rfl, unlent⟩ := reached before
    exact (unlent_of_returned unlent yields).closed
  reopens {native o s track settings ending s'} before accepted _ yields := by
    obtain ⟨rfl, -⟩ := reached before
    obtain ⟨some, width, valid⟩ := accepts_iff.1 accepted
    simp only [Yields, Command.program, output, play, playTrack, some, valid, bind_eq, pure_eq, ask_bind, done_bind,
      Bool.false_eq_true, if_false, Program.run, react, deal] at yields
    refine begun_with ?_ yields
    cases native s.2 (.openDevice c.device) {} <;> rfl
  untouched {native o s track settings ending s'} before refused yields := by
    obtain ⟨rfl, -⟩ := reached before
    simp only [Yields, Command.program, output, play, bind_eq, pure_eq, ask_bind, done_bind, Program.run, react, deal]
      at yields
    obtain empty | ⟨some, e, checked⟩ := empty_or_unplayable refused
    · simp only [empty, if_true] at yields
      cases yields
      exact ⟨.empty empty, rfl⟩
    · simp only [some, Bool.false_eq_true, if_false, checked] at yields
      cases yields
      exact ⟨.unplayable checked, rfl⟩

/-- No device is open after a play, however it has ended. -/
def ClosedAfterPlays (c : Config) : Prop :=
  ∀ {native o s track settings result s'}, Reached (openOutput c) deal {} native o s →
    Yields o deal native s (.play track settings) (.finished result) s' → Sequence.holding effect s'.2 = some none

theorem closedAfterPlays (c : Config) : ClosedAfterPlays c := by
  intro native o s track settings result s' before yields
  obtain ⟨rfl, unlent⟩ := reached before
  exact (unlent_of_returned unlent yields).closed

end Paced

/-! ## All outputs -/

/-- **Handles are balanced.** Whatever the native side answers to the calls of an output, at every moment at most one
    handle is open, and none is used or dropped that is not. A close leaves none open, nor does a play that fails, after
    which the next one begins with opening one; what cannot be played leads to no native call. A paced output has none
    open between its calls. -/
theorem handles_are_balanced (paced : Paced.Config) (poll : Poll.Config) (wakeup : Poll.Wakeup)
    (simple : Simple.Config) :
    Balanced (.done (.ok Live.output)) Live.deal {} Live.locker.effect Live.design.accepts ∧
      Balanced (Simple.openOutput simple) Simple.deal {} Simple.locker.effect (Simple.design simple).accepts ∧
      Balanced (Poll.openOutput poll) Poll.deal { wakeup } Poll.locker.effect Poll.accepts ∧
      Balanced (Paced.openOutput paced) Paced.deal {} Paced.effect Paced.accepts ∧ Paced.ClosedAfterPlays paced :=
  ⟨Live.tended.balanced Live.opens, Simple.tended.balanced Simple.opens, Poll.tended.balanced (Poll.opens wakeup),
    Paced.balanced paced, Paced.closedAfterPlays paced⟩

/-! ### A stream that tears -/

/-- A library whose streams take no bytes. -/
def torn : Native Live.Interface
  | _, .openStream _, _ => .ok 0
  | _, .playChunk _ _, _ => .error { cause := "torn" }
  | _, .takeStream, _ => none
  | _, .stopRequested, _ => false
  | _, .log _, _ | _, .setStop _, _ | _, .putStream _, _ | _, .releaseStream _, _ => ()

/-- The play of a sample fails there. -/
theorem run_torn : ((Live.play Live.oneSample {}).run (react Live.deal torn) ({}, [])).1 =
    .finished (.error (.writeFailed "torn")) := by decide +kernel

/-- The failed play leaves no stream open, and the next one opens one. -/
theorem reopened_after_tear :
    ∃ s, Reached (.done (.ok Live.output)) Live.deal {} torn Live.output s ∧
      Yields Live.output Live.deal torn ({}, []) (.play Live.oneSample {})
        (.finished (.error (.writeFailed "torn"))) s ∧
      holding Live.locker.effect s.2 = some none ∧
      ∃ call rest, ((Live.play Live.oneSample {}).run (react Live.deal torn) s).2.2 = s.2 ++ call :: rest ∧
        (Live.locker.effect call).opens = true := by
  obtain ⟨balanced, -⟩ := handles_are_balanced { device := "dsp" } { device := "dsp", stallLimit := 1 }
    { capacity := 1 } { server := default, minLength := 0 }
  have accepted : Live.design.accepts Live.oneSample = true := by decide
  have opened : Reached (.done (.ok Live.output)) Live.deal {} torn Live.output ({}, []) := .opened rfl
  have yields : Yields Live.output Live.deal torn ({}, []) (.play Live.oneSample {})
      (.finished (.error (.writeFailed "torn")))
      ((Live.play Live.oneSample {}).run (react Live.deal torn) ({}, [])).2 := Prod.ext run_torn rfl
  have left := balanced.failed opened accepted yields
  exact ⟨_, opened.called yields, yields, left, balanced.reopens (opened.called yields) accepted left rfl⟩

end Playout
