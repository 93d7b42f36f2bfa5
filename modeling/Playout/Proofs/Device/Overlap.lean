import Playout.Proofs.Device.Slot
import Playout.Proofs.Live.Keeper
import Playout.Proofs.Poll.Custodian
import Playout.Proofs.Simple.Keeper

/-!
# `Playout.Proofs.Device.Overlap` — a device that is closed while it plays

Closing a device empties the slot of its output. A play that has begun before may not have come to the slot by then: it
finds the slot empty, opens a stream of its own, and leaves it there.

## Contents
- `Ordered`, `run_ordered` — what holds after every run of a thread that plays and one that closes.
- `ClosedUnlessReopened` — what is open once both have returned.
- `run_reopened` — a run in which the play comes to the slot last.

## Main statements
- `closed_unless_reopened` — the slot is empty unless a play that went well took it last.
- `open_after_close` — a stream can be open then.
-/

namespace Playout.Device

open Interleaving Transport Program

variable {B : Playout.Interface} {Spec : Type} {act : (r : B.Request) → B.Answer r → Act Spec} {o : Output B}

/-! ## Every run -/

/-- What holds after every step. -/
structure Ordered (act : (r : B.Request) → B.Answer r → Act Spec) (s : Shared × World Bool Spec)
    (number : Bool → Nat) (c : Bool → Option Custody) (history : Past B) : Prop where
  guarded : Guarded s.2 c
  threads : Threads s.1 number c history
  order : Order (takers act history) c
  left : Left s.2 (takers act history) c history

namespace Ordered

variable {s s' : Shared × World Bool Spec} {number : Bool → Nat} {c c' : Bool → Option Custody} {history : Past B}
  {t : Bool} {x x' : Custody}

/-- Before the slot is taken a thread is outside. -/
theorem outside_of_fresh (fresh : x.touched = false) : inside (some x) = false := by
  cases x with
  | before | called | barred => rfl
  | _ => cases fresh

/-- A request of the device itself that is not about the slot. -/
theorem aside (h : Ordered act s number c history) {r : Device.Request B} {answer : Device.Request.Answer r}
    (own : ∀ r', r ≠ .output r') (stands : c t ≠ none) (same : s'.2 = s.2)
    (closed : s'.1.state = .closed → s.1.state = .closed) :
    Ordered act s' number c (history ++ [.asked t (number t) r answer]) := by
  obtain ⟨x, stands⟩ := Option.ne_none_iff_exists'.1 stands
  have still : Function.update c t (some x) = c := by rw [← stands, Function.update_eq_self]
  rw [← still]
  refine ⟨?_, h.threads.ask stands ?_ ?_, ?_, ?_⟩
  · rw [same, still]
    exact h.guarded
  · rintro rfl rfl
    exact h.threads.admitted stands
  · rw [still]
    exact fun shut => h.threads.closed (closed shut)
  · rw [takers_aside own]
    exact h.order.goOn stands rfl
  · rw [takers_aside own, same]
    exact h.left.goOn rfl rfl fun _ => stands

/-- A request of the device itself, by a thread that has not taken the slot yet. -/
theorem turn (h : Ordered act s number c history) {r : Device.Request B} {answer : Device.Request.Answer r}
    (own : ∀ r', r ≠ .output r') (stands : c t = some x) (same : s'.2 = s.2) (was : x.touched = false)
    (is : x'.touched = false) (admitted : t = false → x' ≠ .barred)
    (closed : s'.1.state = .closed → Function.update c t (some x') false ≠ some .before) :
    Ordered act s' number (Function.update c t (some x')) (history ++ [.asked t (number t) r answer]) where
  guarded := by
    rw [same]
    refine h.guarded.aside ?_ (outside_of_fresh is)
    rw [stands]
    exact outside_of_fresh was
  threads := h.threads.ask stands admitted closed
  order := by
    rw [takers_aside own]
    exact h.order.goOn stands (is.trans was.symm)
  left := by
    rw [takers_aside own, same]
    refine h.left.goOn rfl rfl fun mem => ?_
    have touched := (h.order.touched t x stands).1 mem
    rw [was] at touched
    cases touched

/-- A request of the output. -/
theorem output (h : Ordered act s number c history) {r : B.Request} {answer : B.Answer r} (stands : c t = some x)
    (pass : Pass x (act r answer) x') (device : s'.1 = s.1)
    (answered : Answered t s.2 (act r answer) s'.2) :
    Ordered act s' number (Function.update c t (some x')) (history ++ [.asked t (number t) (.output r) answer]) := by
  obtain ⟨s', w'⟩ := s'
  refine ⟨h.guarded.pass stands pass answered, h.threads.ask stands ?_ ?_, ?_, ?_⟩
  · rintro rfl rfl
    exact h.threads.admitted (stands.trans (congrArg some pass.eq_barred))
  · intro shut
    obtain rfl : s' = s.1 := device
    by_cases here : false = t
    · subst here
      rw [Function.update_self]
      rintro ⟨⟩
      exact h.threads.closed shut (stands.trans (congrArg some pass.eq_before))
    · rw [Function.update_of_ne here]
      exact h.threads.closed shut
  · -- Who takes the slot had not done so before.
    generalize is : act r answer = a at pass
    cases pass with
    | found | unfilled | closing | closed =>
      rw [takers_of_takes (congrArg Act.takes is)]
      exact h.order.take stands rfl rfl
    | idle idle =>
      rw [takers_of_not_takes ((congrArg Act.takes is).trans (Act.takes_of_idle idle))]
      exact h.order.goOn stands rfl
    | opened | released | kept | emptied =>
      rw [takers_of_not_takes (congrArg Act.takes is)]
      exact h.order.goOn stands rfl
  · -- Until the slot is left again there is nothing to say about what was left in it.
    generalize is : act r answer = a at pass answered
    cases pass with
    | found | unfilled | closing | closed =>
      rw [takers_of_takes (congrArg Act.takes is)]
      cases answered
      exact .holding rfl List.getLast?_concat
    | idle idle =>
      rw [takers_of_not_takes ((congrArg Act.takes is).trans (Act.takes_of_idle idle))]
      obtain ⟨slot, holder, -, -⟩ := same_of_idle idle answered
      exact h.left.goOn holder slot fun _ => stands
    | opened | released =>
      rw [takers_of_not_takes (congrArg Act.takes is)]
      obtain ⟨held, -, -⟩ := h.guarded.mine stands rfl
      cases answered
      exact .holding held (h.left.held t held)
    | kept | emptied =>
      rw [takers_of_not_takes (congrArg Act.takes is)]
      obtain ⟨held, -, -⟩ := h.guarded.mine stands rfl
      cases answered
      exact h.left.put h.threads stands held rfl rfl

/-- Every request that is answered. -/
theorem ask (h : Ordered act s number c history) {r : Device.Request B} {answer : Device.Request.Answer r}
    {y : Option Custody} (hands : Hands act t (c t) r answer y) (answered : reacts act t r s answer s') :
    Ordered act s' number (Function.update c t y) (history ++ [.asked t (number t) r answer]) := by
  have still (same : y = c t) : Function.update c t y = c := by rw [same, Function.update_eq_self]
  cases r with
  | output r =>
    obtain ⟨x, x', stands, rfl, pass⟩ := hands
    exact h.output stands pass answered.1 answered.2
  | log line =>
    rw [still hands.2]
    refine h.aside ?_ hands.1 ?_ ?_
    · rintro _ ⟨⟩
    · rw [show s' = s from answered]
    · rw [show s' = s from answered]
      exact id
  | enter =>
    obtain ⟨rfl, stands, rfl⟩ := hands
    refine h.turn ?_ stands answered.2 rfl ?_ ?_ ?_
    · rintro _ ⟨⟩
    · cases answer <;> rfl
    · rintro ⟨⟩
    · intro shut
      rw [Function.update_of_ne (by decide)]
      exact h.threads.closed (closed_before answered.1 (by rintro ⟨⟩) shut)
  | shut =>
    obtain ⟨rfl, stands, rfl⟩ := hands
    have first : answer = true := by
      have alive : s.1.state ≠ .closed := fun closed => h.threads.closed closed stands
      have told := answered.1
      simp only [Shared.answer, if_neg alive, Option.some.injEq, Prod.mk.injEq] at told
      exact told.1.symm
    subst first
    refine h.turn ?_ stands answered.2 rfl rfl ?_ ?_
    · rintro _ ⟨⟩
    · rintro _ ⟨⟩
    · intro _
      rw [Function.update_self]
      rintro ⟨⟩
  | _ =>
    rw [still hands.2]
    refine h.aside ?_ hands.1 answered.2 (closed_before answered.1 ?_)
    · rintro _ ⟨⟩
    · rintro ⟨⟩

/-- The end of a call. -/
theorem finish (h : Ordered act s number c history) {result : Except PlayError Unit} (ended : Over t (c t) result) :
    Ordered act s (Function.update number t (number t + 1)) (Function.update c t none)
      (history ++ [.returned t (number t) result]) := by
  -- Where the thread stands, and what its result tells.
  have told : ∃ x, c t = some x ∧ x.inside = false ∧ (t = false → x.touched = true) ∧
      ∀ kept, x = .left kept → kept = (t && result.isOk) := by
    cases t with
    | true =>
      rcases ended with ⟨stands, -⟩ | ⟨x, stands, played⟩
      · exact ⟨_, stands, rfl, nofun, nofun⟩
      · cases x with
        | before => exact ⟨_, stands, rfl, nofun, nofun⟩
        | left kept =>
          refine ⟨_, stands, rfl, nofun, ?_⟩
          rintro _ ⟨⟩
          exact played.symm
        | _ => cases played
    | false =>
      rcases ended with stands | stands
      · refine ⟨_, stands, rfl, fun _ => rfl, ?_⟩
        rintro _ ⟨⟩
        rfl
      · exact absurd stands h.threads.admitted
  obtain ⟨x, stands, outside, touched, tells⟩ := told
  refine ⟨h.guarded.aside ?_ rfl, h.threads.finish stands, ?_, ?_⟩
  · rw [stands]
    exact outside
  · rw [takers_returned]
    exact h.order.finish stands touched
  · rw [takers_returned]
    exact h.left.finish stands tells

end Ordered

/-- After every run of the two threads, what has been done to the slot is in order. -/
theorem run_ordered (custodian : Custodian o act) {track : Track} {order : ByteOrder} {s : Shared}
    {w : World Bool Spec} (alive : s.state ≠ .closed) (tidy : Tidy w) {history : Past B}
    {final : Interleaving.State (fun _ => Interface B) (fun _ => Except PlayError Unit) (Shared × World Bool Spec)}
    (run : Run (overlap o track order) (surroundings act) (s, w) history final) :
    ∃ c, Ordered act final.shared (fun t => (final.call t).number) c history := by
  have follow : ∀ t n, (overlap o track order t n).Follows (handing act t) (Over t)
      (if n = 0 then some .before else none) := by
    intro t n
    cases n with
    | zero =>
      cases t with
      | true => exact play_follows custodian track order
      | false => exact closing_follows custodian
    | succ n => cases t <;> trivial
  suffices invariant : ∃ c : Bool → Option Custody,
      (∀ t, (final.call t).rest.Follows (handing act t) (Over t) (c t)) ∧
        Ordered act final.shared (fun t => (final.call t).number) c history by
    obtain ⟨c, _, ordered⟩ := invariant
    exact ⟨c, ordered⟩
  refine run.invariant follow ?_ ?_ ?_
  · refine ⟨⟨tidy.opened, .inl ⟨tidy.free, fun _ => rfl, tidy.live⟩⟩, ⟨fun _ _ => rfl, nofun, ?_, nofun⟩,
      ⟨List.nodup_nil, ?_, nofun⟩, ⟨?_, nofun, nofun⟩⟩
    · exact fun closed => absurd closed alive
    · rintro t x ⟨⟩
      simp [Custody.touched]
    · intro t held
      rw [tidy.free] at held
      cases held
  · intro s number c history t r answer s' y ordered hands answered
    exact ordered.ask hands answered
  · intro s number c history t result ordered ended
    have later : (if number t + 1 = 0 then some Custody.before else none) = none := rfl
    rw [later]
    exact ordered.finish ended

/-! ## Once both have returned -/

/-- Once the play of a track and the close of the device have both returned, the only stream that is open lies in the
    slot, and there is one if and only if the play went well and took the slot after the close did. -/
def ClosedUnlessReopened (o : Output B) (act : (r : B.Request) → B.Answer r → Act Spec) : Prop :=
  ∀ {track order s w history final result result'}, s.state ≠ .closed → Tidy w →
    Run (overlap o track order) (surroundings act) (s, w) history final →
    .returned true 0 result ∈ history → .returned false 0 result' ∈ history →
    (∀ h, h ∈ final.shared.2.live ↔ ∃ spec, final.shared.2.slot = some (spec, h)) ∧
      (final.shared.2.slot ≠ none ↔ result = .ok () ∧ takers act history = [false, true])

theorem closedUnlessReopened_of_custodian (custodian : Custodian o act) : ClosedUnlessReopened o act := by
  intro track order s w history final result result' alive tidy run played closed
  obtain ⟨c, ordered⟩ := run_ordered custodian alive tidy run
  have gone : c true = none := ordered.threads.ended _ _ _ played
  have gone' : c false = none := ordered.threads.ended _ _ _ closed
  have free : final.shared.2.holder = none := by
    rcases ordered.guarded.stands with ⟨free, -⟩ | ⟨t, x, -, -, stands, -⟩
    · exact free
    · cases t
      · rw [gone'] at stands
        cases stands
      · rw [gone] at stands
        cases stands
  refine ⟨(ordered.guarded.outside free).2, ?_⟩
  have emptied := ordered.order.emptied gone'
  obtain ⟨last, is_last⟩ := Option.ne_none_iff_exists'.1 (mt List.getLast?_eq_none_iff.1 (List.ne_nil_of_mem emptied))
  -- Who took the slot last tells what lies in it.
  cases last with
  | false =>
    have left := ordered.left.settled false 0 result' free is_last closed
    have other : takers act history ≠ [false, true] := by
      intro pair
      rw [pair] at is_last
      cases is_last
    constructor
    · intro some
      exact absurd (Option.isSome_iff_ne_none.2 some) (by rw [left]; exact Bool.false_ne_true)
    · exact fun both => absurd both.2 other
  | true =>
    have left := ordered.left.settled true 0 result free is_last played
    have pair := eq_pair_of_getLast ordered.order.once emptied is_last
    rw [← Option.isSome_iff_ne_none, left, Bool.true_and]
    constructor
    · intro well
      cases result with
      | ok _ => exact ⟨rfl, pair⟩
      | error e => cases well
    · rintro ⟨rfl, -⟩
      rfl

/-- **Closing while a track is played.** Of the outputs that keep a stream, a device or a connection open: whatever the
    order of the steps, once the play and the close have both returned the slot is empty and nothing is open, unless the
    play took the slot after the close had left it, and went well. -/
theorem closed_unless_reopened (simple : Simple.Config) (poll : Poll.Config) :
    ClosedUnlessReopened Live.output Live.act ∧ ClosedUnlessReopened (Simple.output simple) Simple.act ∧
      ClosedUnlessReopened (Poll.output poll) Poll.act :=
  ⟨closedUnlessReopened_of_custodian Live.keeper.custodian,
    closedUnlessReopened_of_custodian (Simple.keeper simple).custodian,
    closedUnlessReopened_of_custodian (Poll.custodian poll)⟩

/-! ### A play that comes to the slot last -/

/-- What has happened when the play of the sample has taken the signal back. -/
def begun : Past Live.Interface :=
  [.asked true 0 .enter true, .asked true 0 (.setWorking true) (), .asked true 0 .volume (0 : Int),
    .asked true 0 (.output (.setStop false)) ()]

/-- The play of the sample begins, the device is stopped and closed, and then the play takes the slot. -/
theorem run_reopened : ∃ (rest : Past Live.Interface) (final : Interleaving.State
      (fun _ : Bool => Interface Live.Interface) (fun _ => Except PlayError Unit) (Shared × World Bool Live.Format)),
    Run (overlap Live.output Live.oneSample .native) (surroundings Live.act) ({}, {}) (begun ++ rest) final ∧
      .returned true 0 (.ok ()) ∈ rest ∧ .returned false 0 (.ok ()) ∈ rest ∧
      takers Live.act (begun ++ rest) = [false, true] ∧
      final.shared.2.slot ≠ none ∧ final.shared.2.live ≠ [] := by
  have streaming (k : Except Failure Unit → Live.Action (Except PlayError Unit))
      (k' : Except PlayError Unit → Action Live.Interface (Except PlayError Unit)) :
      (within ((Live.writeChunks 0 (Sample.chunks Live.chunkLength
        (Sample.toBytes Live.oneSample.samples 16 .native .signed))).bind k)).bind k' =
        (within ((Live.writeChunks 0 [Sample.toBytes Live.oneSample.samples 16 .native .signed]).bind k)).bind k' := by
    rw [Live.chunks_oneSample]
  have run : Run (overlap Live.output Live.oneSample .native) (surroundings Live.act)
    (({}, {}) : Shared × World Bool Live.Format) [] _ := .start
  rw [pair_start] at run
  replace run := run.first rfl true (reacts_own rfl)
  replace run := run.first rfl () (reacts_own rfl)
  replace run := run.first rfl (0 : Int) (reacts_own rfl)
  replace run := run.first rfl () (reacts_output .lower)
  replace run := run.second rfl () (reacts_output .raise)
  replace run := run.second rfl true (reacts_own rfl)
  replace run := run.second rfl () (reacts_output .raise)
  replace run := run.second rfl none (reacts_output (.take rfl rfl))
  replace run := run.second rfl () (reacts_output .put)
  replace run := run.second rfl () rfl
  replace run := run.secondDone rfl
  replace run := run.first rfl none (reacts_output (.take rfl rfl))
  replace run := run.first rfl (Except.ok 0 : Except Failure Handle) (reacts_output (.opened (h := 0) List.not_mem_nil))
  replace run := run.first rfl () (reacts_output .other)
  replace run := run.first (streaming _ _) true (reacts_output (.look rfl))
  replace run := run.first rfl () (reacts_output .other)
  replace run := run.first rfl () (reacts_output .put)
  replace run := run.first rfl () (reacts_own rfl)
  replace run := run.first rfl () (reacts_own rfl)
  replace run := run.firstDone rfl
  simp only [List.nil_append, List.append_assoc] at run
  refine ⟨_, _, run, ?_, ?_, rfl, Option.some_ne_none _, List.cons_ne_nil _ _⟩
  · simp
  · simp

/-- The slot holds the stream that such a play has opened. -/
theorem slot_of_reopened : ∃ (history : Past Live.Interface) (final : Interleaving.State
      (fun _ : Bool => Interface Live.Interface) (fun _ => Except PlayError Unit) (Shared × World Bool Live.Format)),
    Run (overlap Live.output Live.oneSample .native) (surroundings Live.act) ({}, {}) history final ∧
      takers Live.act history = [false, true] ∧ final.shared.2.slot ≠ none := by
  obtain ⟨rest, final, run, played, closed, taken, -⟩ := run_reopened
  have tidy : Tidy ({} : World Bool Live.Format) := ⟨rfl, fun h => by simp, nofun⟩
  refine ⟨_, final, run, taken, ?_⟩
  obtain ⟨live, -, -⟩ :=
    closed_unless_reopened { server := default, minLength := 0 } { device := "dsp", stallLimit := 1 }
  obtain ⟨-, reopened⟩ := live (by decide) tidy run (List.mem_append_right _ played) (List.mem_append_right _ closed)
  exact reopened.2 ⟨rfl, taken⟩

/-- **A stream can be open after the device was closed**: the play of a valid track has passed the look at the state of
    the device, then the device is stopped and closed, and once both have returned there is a stream in the slot that is
    still open. -/
theorem open_after_close : Live.oneSample.isEmpty = false ∧ Live.oneSample.validate.isOk = true ∧
    ∃ (rest : Past Live.Interface) (final : Interleaving.State (fun _ : Bool => Interface Live.Interface)
      (fun _ => Except PlayError Unit) (Shared × World Bool Live.Format)),
      Run (overlap Live.output Live.oneSample .native) (surroundings Live.act) ({}, {})
        (.asked true 0 .enter true :: rest) final ∧
      .returned true 0 (.ok ()) ∈ rest ∧ .returned false 0 (.ok ()) ∈ rest ∧
      final.shared.2.slot ≠ none ∧ final.shared.2.live ≠ [] := by
  obtain ⟨rest, final, run, played, closed, -, slot, live⟩ := run_reopened
  exact ⟨rfl, rfl, _, final, run, List.mem_append_right _ played, List.mem_append_right _ closed, slot, live⟩

end Playout.Device
