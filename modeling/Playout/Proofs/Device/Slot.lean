import Mathlib.Data.List.Nodup
import Playout.Device
import Playout.Proofs.Transport.Custody

/-!
# `Playout.Proofs.Device.Slot` — two threads and the slot of one device

One thread plays a track on a device, another one stops and closes the device meanwhile. Both go to the slot of the
output at most once, and only with its lock.

## Contents
- `overlap`, `reacts` — the two threads and their surroundings.
- `Hands`, `play_follows`, `closing_follows` — what the threads do to the slot.
- `takers` — who has taken the slot, in order.
- `Guarded` — the lock and the streams that are open.
- `Threads`, `Order`, `Left` — how far the threads have come, and what the last one to take the slot has left in it.
-/

namespace Playout.Device

open Interleaving Transport Program

variable {B : Playout.Interface} {Spec : Type}

/-! ## Two threads and a device -/

/-- One thread plays a track, the other one stops and closes the device. Neither does anything more. -/
def overlap (o : Output B) (track : Track) (order : ByteOrder) :
    Calls (fun _ : Bool => Interface B) fun _ : Bool => Except PlayError Unit
  | true, 0 => play o track order
  | false, 0 => (stop o).bind fun _ => (close o).bind fun _ => .done (.ok ())
  | _, _ + 1 => .unfinished

/-- What becomes of the device and of the streams of its output by a request. -/
def reacts (act : (r : B.Request) → B.Answer r → Act Spec) (t : Bool) :
    (r : Device.Request B) → Shared × World Bool Spec → Device.Request.Answer r → Shared × World Bool Spec → Prop
  | .output r, s, answer, s' => s'.1 = s.1 ∧ Answered t s.2 (act r answer) s'.2
  | .log _, s, _, s' => s' = s
  | r, s, answer, s' => s.1.answer r = some (answer, s'.1) ∧ s'.2 = s.2

/-- The surroundings of the two threads. -/
def surroundings (act : (r : B.Request) → B.Answer r → Act Spec) :
    Surroundings (fun _ : Bool => Interface B) (Shared × World Bool Spec) :=
  fun t r s answer s' => reacts act t r s answer s'

/-- A request of the device itself is answered from what the threads share. -/
theorem reacts_own {act : (r : B.Request) → B.Answer r → Act Spec} {t : Bool} {r : Device.Request B}
    {answer : Device.Request.Answer r} {s s' : Shared} {w : World Bool Spec} (told : s.answer r = some (answer, s')) :
    reacts act t r (s, w) answer (s', w) := by
  cases r with
  | log | output => cases told
  | _ => exact ⟨told, rfl⟩

/-- A request of the output does its act. -/
theorem reacts_output {act : (r : B.Request) → B.Answer r → Act Spec} {t : Bool} {r : B.Request}
    {answer : B.Answer r} {s : Shared} {w w' : World Bool Spec} (answered : Answered t w (act r answer) w') :
    reacts act t (.output r) (s, w) answer (s, w') := ⟨rfl, answered⟩

/-- What has happened between the two. -/
abbrev Past (B : Playout.Interface) := History Bool (Interface B) (Except PlayError Unit)

/-- The thread that takes the slot by an event, if any. -/
def taker (act : (r : B.Request) → B.Answer r → Act Spec) :
    Event (fun _ : Bool => Interface B) (fun _ : Bool => Except PlayError Unit) → Option Bool
  | .asked t _ (.output r) answer => if (act r answer).takes then some t else none
  | _ => none

/-- The threads that have taken the slot, in order. -/
def takers (act : (r : B.Request) → B.Answer r → Act Spec) (history : Past B) : List Bool :=
  history.filterMap (taker act)

/-! ## What the threads do to the slot -/

variable {act : (r : B.Request) → B.Answer r → Act Spec}

/-- How a thread that has not made its call yet changes what it has to do with the slot. The first thread begins to
    play, the second one shuts the device. -/
def Hands (act : (r : B.Request) → B.Answer r → Act Spec) (t : Bool) (c : Option Custody) :
    (r : Device.Request B) → Device.Request.Answer r → Option Custody → Prop
  | .output r, answer, c' => ∃ x x', c = some x ∧ c' = some x' ∧ Pass x (act r answer) x'
  | .enter, entered, c' => t = true ∧ c = some .before ∧ c' = some (if entered then .before else .barred)
  | .shut, first, c' => t = false ∧ c = some .before ∧ c' = some (if first then .called else .barred)
  | _, _, c' => c ≠ none ∧ c' = c

/-- The protocol of a thread. -/
def handing (act : (r : B.Request) → B.Answer r → Act Spec) (t : Bool) :
    Moves (Device.Interface B) (Option Custody) := fun c r answer c' => Hands act t c r answer c'

/-- Where a thread may have come to when its call ends. -/
def Over (t : Bool) (c : Option Custody) (result : Except PlayError Unit) : Prop :=
  if t then c = some .barred ∧ result.isOk = false ∨ ∃ x, c = some x ∧ Played x result
  else c = some (.left false) ∨ c = some .barred

/-- What the output does, a device that uses it does. -/
theorem within_follows {α : Type} {t : Bool} {p : Program B α} {ends : Custody → α → Prop} {x : Custody}
    (h : p.Follows (passes act) ends x) :
    (within p).Follows (handing act t) (fun c a => ∃ x, c = some x ∧ ends x a) (some x) := by
  induction p generalizing x with
  | done a => exact ⟨x, rfl, h⟩
  | unfinished => trivial
  | ask r next ih =>
    intro answer
    obtain ⟨x', pass, later⟩ := h answer
    exact ⟨some x', ⟨x, x', rfl, rfl, pass⟩, ih answer later⟩

/-- A request of the device itself that does not concern the slot. -/
theorem aside {α : Type} {t : Bool} {r : Device.Request B} {next : Device.Request.Answer r → Action B α}
    {ends : Option Custody → α → Prop} {x : Custody}
    (idle : ∀ answer, Hands act t (some x) r answer (some x))
    (rest : ∀ answer, (next answer).Follows (handing act t) ends (some x)) :
    (Program.ask r next).Follows (handing act t) ends (some x) :=
  Follows.stay idle rest

variable {o : Output B}

theorem play_follows (custodian : Custodian o act) (track : Track) (order : ByteOrder) :
    (play o track order).Follows (handing act true) (Over true) (some .before) := by
  intro entered
  refine ⟨_, ⟨rfl, rfl, rfl⟩, ?_⟩
  cases entered with
  | false =>
    refine aside (fun _ => ⟨Option.some_ne_none _, rfl⟩) fun _ => ?_
    exact Follows.done (.inl ⟨rfl, rfl⟩)
  | true =>
    refine aside (fun _ => ⟨Option.some_ne_none _, rfl⟩) fun _ => ?_
    refine aside (fun _ => ⟨Option.some_ne_none _, rfl⟩) fun volume => ?_
    simp only [done_bind]
    refine Follows.bind (within_follows (custodian.play _ _)) ?_
    rintro _ result ⟨x, rfl, played⟩
    refine aside (fun _ => ⟨Option.some_ne_none _, rfl⟩) fun _ => ?_
    refine aside (fun _ => ⟨Option.some_ne_none _, rfl⟩) fun _ => ?_
    exact Follows.done (.inr ⟨x, rfl, played⟩)

theorem closing_follows (custodian : Custodian o act) :
    ((stop o).bind fun _ => (close o).bind fun _ => .done (.ok ())).Follows (handing act false) (Over false)
      (some .before) := by
  refine Follows.bind (within_follows custodian.stop) ?_
  rintro _ _ ⟨x, rfl, rfl⟩
  intro first
  refine ⟨_, ⟨rfl, rfl, rfl⟩, ?_⟩
  cases first with
  | false => exact Follows.done (.inr rfl)
  | true =>
    simp only [done_bind, if_true, bind_eq, bind_assoc]
    refine Follows.bind (within_follows custodian.close) ?_
    rintro _ _ ⟨x, rfl, rfl⟩
    refine aside (fun _ => ⟨Option.some_ne_none _, rfl⟩) fun _ => ?_
    exact Follows.done (.inl rfl)

/-! ## Who takes the slot -/

@[simp] theorem takers_nil : takers act [] = [] := rfl

theorem takers_append (before after : Past B) :
    takers act (before ++ after) = takers act before ++ takers act after := List.filterMap_append

@[simp] theorem takers_returned (history : Past B) (t : Bool) (n : Nat) (result : Except PlayError Unit) :
    takers act (history ++ [.returned t n result]) = takers act history := by
  rw [takers_append]
  exact List.append_nil _

/-- A request of the device itself takes nothing. -/
theorem takers_aside {history : Past B} {t : Bool} {n : Nat} {r : Device.Request B}
    {answer : Device.Request.Answer r} (own : ∀ r', r ≠ .output r') :
    takers act (history ++ [.asked t n r answer]) = takers act history := by
  rw [takers_append]
  cases r with
  | output r' => exact absurd rfl (own r')
  | _ => exact List.append_nil _

/-- A request of the output takes the slot if that is its act. -/
theorem takers_output (history : Past B) (t : Bool) (n : Nat) (r : B.Request) (answer : B.Answer r) :
    takers act (history ++ [.asked t n (.output r) answer]) =
      takers act history ++ if (act r answer).takes then [t] else [] := by
  rw [takers_append]
  refine congrArg _ ?_
  show List.filterMap (taker act) [.asked t n (.output r) answer] = _
  have taken : taker act (.asked t n (.output r) answer) = if (act r answer).takes then some t else none := rfl
  rw [List.filterMap_cons, List.filterMap_nil, taken]
  cases (act r answer).takes <;> rfl

theorem takers_of_takes {history : Past B} {t : Bool} {n : Nat} {r : B.Request} {answer : B.Answer r}
    (takes : (act r answer).takes = true) :
    takers act (history ++ [.asked t n (.output r) answer]) = takers act history ++ [t] := by
  rw [takers_output, if_pos takes]

theorem takers_of_not_takes {history : Past B} {t : Bool} {n : Nat} {r : B.Request} {answer : B.Answer r}
    (nothing : (act r answer).takes = false) :
    takers act (history ++ [.asked t n (.output r) answer]) = takers act history := by
  rw [takers_output, nothing, if_neg Bool.false_ne_true, List.append_nil]

/-- Of two threads that take the slot once each, the second one is last only after the first. -/
theorem eq_pair_of_getLast {l : List Bool} (once : l.Nodup) (mem : false ∈ l) (last : l.getLast? = some true) :
    l = [false, true] := by
  rcases l with _ | ⟨a, _ | ⟨b, _ | ⟨c, l⟩⟩⟩
  · cases mem
  · simp_all
  · cases a <;> cases b <;> simp_all
  · cases a <;> cases b <;> cases c <;> simp_all

/-! ## The lock and the streams -/

/-- Whether a thread holds the lock of the slot. -/
def inside (c : Option Custody) : Bool := c.any Custody.inside

/-- The lock is held by nobody or by the one thread that is inside. The only stream that is open lies in the slot, or
    is in the hands of that thread. -/
structure Guarded (w : World Bool Spec) (c : Bool → Option Custody) : Prop where
  opened : ∀ h ∈ w.live, h ∈ w.opened
  stands : (w.holder = none ∧ (∀ t, inside (c t) = false) ∧ ∀ h, h ∈ w.live ↔ ∃ spec, w.slot = some (spec, h)) ∨
    ∃ t x, w.holder = some t ∧ (∀ u, u ≠ t → inside (c u) = false) ∧ c t = some x ∧ x.inside = true ∧
      ∀ h, h ∈ w.live ↔ x = .owning h

/-- The only stream that is open at the beginning lies in the slot. -/
structure Tidy (w : World Bool Spec) : Prop where
  free : w.holder = none
  live : ∀ h, h ∈ w.live ↔ ∃ spec, w.slot = some (spec, h)
  opened : ∀ h ∈ w.live, h ∈ w.opened

/-- An idle act leaves the slot and the streams as they are. -/
theorem same_of_idle {t : Bool} {w w' : World Bool Spec} {a : Act Spec} (idle : a.idle = true)
    (answered : Answered t w a w') :
    w'.slot = w.slot ∧ w'.holder = w.holder ∧ w'.live = w.live ∧ w'.opened = w.opened := by
  cases answered with
  | take | put | opened | release => cases idle
  | _ => exact ⟨rfl, rfl, rfl, rfl⟩

namespace Guarded

variable {w w' : World Bool Spec} {c : Bool → Option Custody} {t : Bool} {x x' : Custody}

/-- While nobody holds the lock, nobody is inside. -/
theorem outside (g : Guarded w c) (free : w.holder = none) :
    (∀ t, inside (c t) = false) ∧ ∀ h, h ∈ w.live ↔ ∃ spec, w.slot = some (spec, h) := by
  rcases g.stands with ⟨-, outside, live⟩ | ⟨t, x, held, -⟩
  · exact ⟨outside, live⟩
  · rw [free] at held
    cases held

/-- A thread that is inside holds the lock, and nobody else is inside. -/
theorem mine (g : Guarded w c) (stands : c t = some x) (here : x.inside = true) :
    w.holder = some t ∧ (∀ u, u ≠ t → inside (c u) = false) ∧ ∀ h, h ∈ w.live ↔ x = .owning h := by
  have inside : inside (c t) = true := by
    rw [stands]
    exact here
  rcases g.stands with ⟨-, outside, -⟩ | ⟨u, y, held, others, stands', -, live⟩
  · rw [outside t] at inside
    cases inside
  · by_cases same : t = u
    · subst same
      obtain rfl : x = y := Option.some.inj (stands.symm.trans stands')
      exact ⟨held, others, live⟩
    · rw [others t same] at inside
      cases inside

theorem update_outside (others : ∀ u, u ≠ t → inside (c u) = false) (there : x'.inside = false) (u : Bool) :
    inside (Function.update c t (some x') u) = false := by
  by_cases same : u = t
  · subst same
    rw [Function.update_self]
    exact there
  · rw [Function.update_of_ne same]
    exact others u same

theorem update_others (others : ∀ u, u ≠ t → inside (c u) = false) (u : Bool) (other : u ≠ t) :
    inside (Function.update c t (some x') u) = false := by
  rw [Function.update_of_ne other]
  exact others u other

/-- Taking the slot. -/
theorem take (g : Guarded w c) {found : Option (Spec × Handle)} (free : w.holder = none) (same : found = w.slot)
    (there : x'.inside = true) (has : ∀ h, (∃ spec, found = some (spec, h)) ↔ x' = .owning h) :
    Guarded { w with holder := some t } (Function.update c t (some x')) where
  opened := g.opened
  stands := by
    obtain ⟨outside, live⟩ := g.outside free
    refine .inr ⟨t, x', rfl, update_others fun u _ => outside u, Function.update_self .., there, ?_⟩
    intro h
    rw [← has h, same]
    exact live h

/-- Leaving the slot. -/
theorem put (g : Guarded w c) {kept : Option (Spec × Handle)} (stands : c t = some x) (here : x.inside = true)
    (there : x'.inside = false) (has : ∀ h, x = .owning h ↔ ∃ spec, kept = some (spec, h)) :
    Guarded { w with slot := kept, holder := none } (Function.update c t (some x')) where
  opened := g.opened
  stands := by
    obtain ⟨-, others, live⟩ := g.mine stands here
    exact .inl ⟨rfl, update_outside others there, fun h => (live h).trans (has h)⟩

/-- What a thread does while it is inside. -/
theorem within (g : Guarded w c) (stands : c t = some x) (here : x.inside = true) (there : x'.inside = true)
    (held : w'.holder = w.holder) (live : ∀ h, h ∈ w'.live ↔ x' = .owning h)
    (opened : ∀ h ∈ w'.live, h ∈ w'.opened) : Guarded w' (Function.update c t (some x')) where
  opened := opened
  stands := by
    obtain ⟨mine, others, -⟩ := g.mine stands here
    exact .inr ⟨t, x', held.trans mine, update_others others, Function.update_self .., there, live⟩

/-- What each act does to the lock and the streams. -/
theorem pass {a : Act Spec} (g : Guarded w c) (stands : c t = some x) (pass : Pass x a x')
    (answered : Answered t w a w') : Guarded w' (Function.update c t (some x')) := by
  cases pass with
  | found | closing =>
    cases answered with
    | take free same => exact g.take free same rfl fun g => by simp
  | unfilled | closed =>
    cases answered with
    | take free same => exact g.take free same rfl fun g => by simp
  | kept | emptied =>
    cases answered with
    | put => exact g.put stands rfl rfl fun g => by simp
  | @opened h =>
    cases answered with
    | opened fresh =>
      -- Nothing was open before, since this thread is inside and had no stream.
      obtain ⟨-, -, live⟩ := g.mine stands rfl
      refine g.within stands rfl rfl rfl ?_ ?_
      · intro k
        simp only [List.mem_cons, live, reduceCtorEq, or_false, Custody.owning.injEq]
        exact eq_comm
      · intro k mem
        rcases List.mem_cons.1 mem with rfl | mem
        · exact List.mem_cons_self
        · exact List.mem_cons_of_mem _ (g.opened k mem)
  | @released h =>
    cases answered with
    | release =>
      obtain ⟨-, -, live⟩ := g.mine stands rfl
      refine g.within stands rfl rfl rfl ?_ ?_
      · intro k
        have gone : k ∈ w.live → k = h := fun mem => (Custody.owning.inj ((live k).1 mem)).symm
        simpa [List.mem_filter] using gone
      · intro k mem
        exact g.opened k (List.mem_of_mem_filter mem)
  | idle idle =>
    obtain ⟨slot, holder, live, opened⟩ := same_of_idle idle answered
    rw [← stands, Function.update_eq_self]
    refine ⟨?_, ?_⟩
    · rw [live, opened]
      exact g.opened
    · rw [slot, holder, live]
      exact g.stands

/-- A thread that is outside goes on, and stays outside. -/
theorem aside (g : Guarded w c) {y : Option Custody} (was : inside (c t) = false) (is : inside y = false) :
    Guarded w (Function.update c t y) where
  opened := g.opened
  stands := by
    have outside : ∀ u, inside (Function.update c t y u) = inside (c u) := by
      intro u
      by_cases same : u = t
      · subst same
        rw [Function.update_self, is, was]
      · rw [Function.update_of_ne same]
    rcases g.stands with ⟨free, nobody, live⟩ | ⟨u, x, held, others, stands, here, live⟩
    · exact .inl ⟨free, fun u => (outside u).trans (nobody u), live⟩
    · have other : u ≠ t := by
        rintro rfl
        rw [stands] at was
        exact absurd (here.symm.trans was) (by decide)
      refine .inr ⟨u, x, held, fun v away => (outside v).trans (others v away), ?_, here, live⟩
      rw [Function.update_of_ne other]
      exact stands

end Guarded

/-! ## How far the threads have come -/

/-- A device is closed only by being shut. -/
theorem closed_before {s s' : Shared} {r : Device.Request B} {answer : Device.Request.Answer r}
    (told : s.answer r = some (answer, s')) (other : r ≠ .shut) (closed : s'.state = .closed) : s.state = .closed := by
  by_contra alive
  cases r with
  | shut => exact other rfl
  | leave =>
    simp only [Shared.answer, Option.some.injEq, Prod.mk.injEq, true_and] at told
    rw [← told] at closed
    split at closed
    · cases closed
    · exact alive closed
  | log | output => cases told
  | enter =>
    simp only [Shared.answer, if_neg alive, Option.some.injEq, Prod.mk.injEq] at told
    rw [← told.2] at closed
    cases closed
  | _ =>
    simp only [Shared.answer, Option.some.injEq, Prod.mk.injEq] at told
    rw [← told.2] at closed
    exact alive closed

/-- A thread that has not made its call is in it, the second one is not turned away, and the device is closed only by
    the second one. -/
structure Threads (s : Shared) (number : Bool → Nat) (c : Bool → Option Custody) (history : Past B) : Prop where
  begun : ∀ t, c t ≠ none → number t = 0
  admitted : c false ≠ some .barred
  closed : s.state = .closed → c false ≠ some .before
  ended : ∀ t n result, .returned t n result ∈ history → c t = none

/-- A thread that stands somewhere has not made its call. -/
theorem ne_of_none {c : Bool → Option Custody} {t u : Bool} {x : Custody} (stands : c t = some x)
    (gone : c u = none) : u ≠ t := by
  rintro rfl
  rw [stands] at gone
  cases gone

namespace Threads

variable {s s' : Shared} {number : Bool → Nat} {c : Bool → Option Custody} {history : Past B} {t : Bool}
  {x x' : Custody} {r : Device.Request B} {answer : Device.Request.Answer r}

/-- A request is not the end of a call. -/
theorem returned_before {u : Bool} {n m : Nat} {result : Except PlayError Unit}
    (returned : .returned u n result ∈ history ++ [.asked t m r answer]) : .returned u n result ∈ history := by
  rcases List.mem_append.1 returned with before | now
  · exact before
  · cases List.mem_singleton.1 now

theorem ask (h : Threads s number c history) {n : Nat} (stands : c t = some x)
    (admitted : t = false → x' ≠ .barred)
    (closed : s'.state = .closed → Function.update c t (some x') false ≠ some .before) :
    Threads s' number (Function.update c t (some x')) (history ++ [.asked t n r answer]) where
  begun u some := by
    by_cases here : u = t
    · subst here
      refine h.begun u ?_
      rw [stands]
      exact Option.some_ne_none _
    · rw [Function.update_of_ne here] at some
      exact h.begun u some
  admitted := by
    by_cases here : false = t
    · subst here
      rw [Function.update_self]
      exact fun barred => admitted rfl (Option.some.inj barred)
    · rw [Function.update_of_ne here]
      exact h.admitted
  closed := closed
  ended u n result returned := by
    have gone := h.ended u n result (returned_before returned)
    rw [Function.update_of_ne (ne_of_none stands gone)]
    exact gone

theorem finish (h : Threads s number c history) {n : Nat} {result : Except PlayError Unit}
    (stands : c t = some x) :
    Threads s (Function.update number t (number t + 1)) (Function.update c t none)
      (history ++ [.returned t n result]) where
  begun u some := by
    have other : u ≠ t := by
      rintro rfl
      exact some (Function.update_self ..)
    rw [Function.update_of_ne other] at some ⊢
    exact h.begun u some
  admitted := by
    by_cases here : false = t
    · subst here
      rw [Function.update_self]
      nofun
    · rw [Function.update_of_ne here]
      exact h.admitted
  closed shut := by
    by_cases here : false = t
    · subst here
      rw [Function.update_self]
      nofun
    · rw [Function.update_of_ne here]
      exact h.closed shut
  ended u n result returned := by
    by_cases here : u = t
    · subst here
      exact Function.update_self ..
    · rw [Function.update_of_ne here]
      rcases List.mem_append.1 returned with before | now
      · exact h.ended u n result before
      · cases List.mem_singleton.1 now
        exact absurd rfl here

end Threads

/-! ## Who took the slot last -/

/-- The threads take the slot at most once each, and the second one is not done before it has. -/
structure Order (taken : List Bool) (c : Bool → Option Custody) : Prop where
  once : taken.Nodup
  touched : ∀ t x, c t = some x → (t ∈ taken ↔ x.touched = true)
  emptied : c false = none → false ∈ taken

namespace Order

variable {taken : List Bool} {c : Bool → Option Custody} {t : Bool} {x x' : Custody}

/-- A thread goes on, and takes nothing. -/
theorem goOn (h : Order taken c) (stands : c t = some x) (same : x'.touched = x.touched) :
    Order taken (Function.update c t (some x')) where
  once := h.once
  touched u y stands' := by
    by_cases here : u = t
    · subst here
      rw [Function.update_self] at stands'
      obtain rfl := Option.some.inj stands'
      rw [same]
      exact h.touched u x stands
    · rw [Function.update_of_ne here] at stands'
      exact h.touched u y stands'
  emptied gone := by
    have other : false ≠ t := by
      rintro rfl
      rw [Function.update_self] at gone
      cases gone
    rw [Function.update_of_ne other] at gone
    exact h.emptied gone

/-- A thread takes the slot. -/
theorem take (h : Order taken c) (stands : c t = some x) (fresh : x.touched = false) (now : x'.touched = true) :
    Order (taken ++ [t]) (Function.update c t (some x')) where
  once := by
    rw [List.nodup_append]
    refine ⟨h.once, List.nodup_singleton t, ?_⟩
    rintro u mem v last rfl
    obtain rfl := List.mem_singleton.1 last
    have touched := (h.touched u x stands).1 mem
    rw [fresh] at touched
    cases touched
  touched u y stands' := by
    rw [List.mem_append, List.mem_singleton]
    by_cases here : u = t
    · subst here
      rw [Function.update_self] at stands'
      obtain rfl := Option.some.inj stands'
      exact ⟨fun _ => now, fun _ => .inr rfl⟩
    · rw [Function.update_of_ne here] at stands'
      rw [← h.touched u y stands']
      exact or_iff_left here
  emptied gone := by
    have other : false ≠ t := by
      rintro rfl
      rw [Function.update_self] at gone
      cases gone
    rw [Function.update_of_ne other] at gone
    exact List.mem_append_left _ (h.emptied gone)

/-- A thread is done; the second one has taken the slot. -/
theorem finish (h : Order taken c) (stands : c t = some x) (done : t = false → x.touched = true) :
    Order taken (Function.update c t none) where
  once := h.once
  touched u y stands' := by
    have other : u ≠ t := by
      rintro rfl
      rw [Function.update_self] at stands'
      cases stands'
    rw [Function.update_of_ne other] at stands'
    exact h.touched u y stands'
  emptied gone := by
    by_cases here : false = t
    · subst here
      exact (h.touched false x stands).2 (done rfl)
    · rw [Function.update_of_ne here] at gone
      exact h.emptied gone

end Order

/-- The slot is as the last thread to take it has left it, which its phase tells, or its result once it is done. -/
structure Left (w : World Bool Spec) (taken : List Bool) (c : Bool → Option Custody) (history : Past B) :
    Prop where
  held : ∀ t, w.holder = some t → taken.getLast? = some t
  standing : ∀ t x, w.holder = none → taken.getLast? = some t → c t = some x → x = .left w.slot.isSome
  settled : ∀ t n result, w.holder = none → taken.getLast? = some t → .returned t n result ∈ history →
    w.slot.isSome = (t && result.isOk)

namespace Left

variable {w w' : World Bool Spec} {taken : List Bool} {c : Bool → Option Custody} {history : Past B} {t : Bool}
  {x x' : Custody} {r : Device.Request B} {answer : Device.Request.Answer r} {n : Nat}

/-- While a thread holds the lock, it is the last one to have taken the slot. -/
theorem holding (held : w.holder = some t) (last : taken.getLast? = some t) : Left w taken c history where
  held u holds := by
    rw [held] at holds
    rw [last]
    exact holds
  standing u y free := by
    rw [held] at free
    cases free
  settled u n result free := by
    rw [held] at free
    cases free

/-- A thread that has left the slot, or has not come to it, makes a request that changes nothing about it. -/
theorem goOn (h : Left w taken c history) (holder : w'.holder = w.holder) (slot : w'.slot = w.slot)
    (still : t ∈ taken → c t = some x') :
    Left w' taken (Function.update c t (some x')) (history ++ [.asked t n r answer]) where
  held u holds := h.held u (holder ▸ holds)
  standing u y free last stands := by
    rw [holder] at free
    rw [slot]
    refine h.standing u y free last ?_
    by_cases here : u = t
    · subst here
      rw [Function.update_self] at stands
      rw [← stands]
      exact still (List.mem_of_getLast? last)
    · rw [Function.update_of_ne here] at stands
      exact stands
  settled u n result free last returned := by
    rw [slot]
    exact h.settled u n result (holder ▸ free) last (Threads.returned_before returned)

/-- The thread that holds the lock leaves the slot. -/
theorem put (h : Left w taken c history) {s : Shared} {number : Bool → Nat} (threads : Threads s number c history)
    (stands : c t = some x) (held : w.holder = some t) (free : w'.holder = none)
    (left : x' = .left w'.slot.isSome) :
    Left w' taken (Function.update c t (some x')) (history ++ [.asked t n r answer]) where
  held u holds := by
    rw [free] at holds
    cases holds
  standing u y _ last stands' := by
    obtain rfl : t = u := Option.some.inj ((h.held t held).symm.trans last)
    rw [Function.update_self] at stands'
    exact (Option.some.inj stands').symm.trans left
  settled u n result _ last returned := by
    -- The last one to have taken the slot is in its call, so that it has not returned.
    obtain rfl : t = u := Option.some.inj ((h.held t held).symm.trans last)
    have gone := threads.ended t n result (Threads.returned_before returned)
    exact absurd rfl (ne_of_none stands gone)

/-- A thread is done, and its result tells what it has left. -/
theorem finish (h : Left w taken c history) (stands : c t = some x) {result : Except PlayError Unit}
    (tells : ∀ kept, x = .left kept → kept = (t && result.isOk)) :
    Left w taken (Function.update c t none) (history ++ [.returned t n result]) where
  held := h.held
  standing u y free last stands' := by
    have other : u ≠ t := by
      rintro rfl
      rw [Function.update_self] at stands'
      cases stands'
    rw [Function.update_of_ne other] at stands'
    exact h.standing u y free last stands'
  settled u m result' free last returned := by
    rcases List.mem_append.1 returned with before | now
    · exact h.settled u m result' free last before
    · obtain ⟨rfl, rfl, rfl⟩ : u = t ∧ m = n ∧ result' = result := by
        simpa using now
      exact tells _ (h.standing u x free last stands)

end Left

end Playout.Device
