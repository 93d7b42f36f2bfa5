import Playout.Proofs.Poll.Protocol

/-!
# `Playout.Proofs.Poll.Mark` — the mark of an active playback

The mark lies behind a lock of its own. A play takes this lock to throw old wakeups away and set the mark, and once
more to take the mark off; in between it holds the lock of the slot, so that no other play can do the same. A stop holds
the lock of the mark from its look until it has woken the player.

## Contents
- `Shared`, `Reacts` — the slot, the mark and the wakeup, and what becomes of them.
- `Stance`, `Shift` — the protocol as far as it concerns the locks, the mark and the wakeup.
- `Owns`, `Passes` — who holds a lock, and what a step does to it.
- `Guarded` — what the stances say of the locks, the mark and the wakeup.
- `Guarded.shift` — every request keeps it.
-/

namespace Playout.Poll

open Interleaving Transport Program

/-! ## What the threads share -/

/-- What the threads that use an output share. -/
structure Shared (T : Type) where
  slot : Option Handle := none
  /-- Who holds the lock of the slot. -/
  keeper : Option T := none
  active : Bool := false
  /-- Who holds the lock of the mark. -/
  holder : Option T := none
  wakeup : Wakeup

/-- How a wait for the device may end, when the wakeup is signalled or not. -/
abbrev Watch := Bool → Except Failure Readiness → Prop

/-- Whether a request touches neither a lock nor the wakeup. -/
def Request.aloof : Poll.Request → Bool
  | takeDevice | putDevice _ | takeActive | putActive _ | clearWakeup | notifyWakeup | wait .. => false
  | _ => true

variable {T : Type}

/-- What becomes of it by a request of a thread. Whoever takes a lock waits until nobody holds it. A wait only looks
    at the wakeup, and the device does as it likes. -/
def Reacts (watch : Watch) (t : T) (s : Shared T) :
    (r : Poll.Request) → Poll.Request.Answer r → Shared T → Prop
  | .takeDevice, found, s' => s.keeper = none ∧ found = s.slot ∧ s' = { s with keeper := some t }
  | .putDevice kept, _, s' => s' = { s with slot := kept, keeper := none }
  | .takeActive, active, s' => s.holder = none ∧ active = s.active ∧ s' = { s with holder := some t }
  | .putActive active, _, s' => s' = { s with active := active, holder := none }
  | .clearWakeup, _, s' => s' = { s with wakeup := s.wakeup.clear }
  | .notifyWakeup, _, s' => s' = { s with wakeup := s.wakeup.notify }
  | .wait _ _ _, answer, s' => watch s.wakeup.signalled answer ∧ s' = s
  | _, _, s' => s' = s

/-- The surroundings of the threads. -/
def reacts (watch : Watch) : Surroundings (fun _ : T => Poll.Interface) (Shared T) :=
  fun t r s answer s' => Reacts watch t s r answer s'

namespace Reacts

variable {watch : Watch} {t : T} {slot kept : Option Handle} {keeper holder : Option T} {active : Bool}
  {wakeup : Wakeup}

theorem takeDevice :
    Reacts watch t ⟨slot, none, active, holder, wakeup⟩ .takeDevice slot ⟨slot, some t, active, holder, wakeup⟩ :=
  ⟨rfl, rfl, rfl⟩

theorem putDevice : Reacts watch t ⟨slot, keeper, active, holder, wakeup⟩ (.putDevice kept) ()
    ⟨kept, none, active, holder, wakeup⟩ := rfl

theorem takeActive :
    Reacts watch t ⟨slot, keeper, active, none, wakeup⟩ .takeActive active ⟨slot, keeper, active, some t, wakeup⟩ :=
  ⟨rfl, rfl, rfl⟩

theorem putActive {value : Bool} : Reacts watch t ⟨slot, keeper, active, holder, wakeup⟩ (.putActive value) ()
    ⟨slot, keeper, value, none, wakeup⟩ := rfl

theorem clearWakeup : Reacts watch t ⟨slot, keeper, active, holder, wakeup⟩ .clearWakeup ()
    ⟨slot, keeper, active, holder, wakeup.clear⟩ := rfl

theorem notifyWakeup : Reacts watch t ⟨slot, keeper, active, holder, wakeup⟩ .notifyWakeup ()
    ⟨slot, keeper, active, holder, wakeup.notify⟩ := rfl

theorem wait {s : Shared T} {h : Handle} {draining : Bool} {timeout : Seconds} {answer : Except Failure Readiness}
    (watched : watch s.wakeup.signalled answer) : Reacts watch t s (.wait h draining timeout) answer s :=
  ⟨watched, rfl⟩

end Reacts

theorem eq_of_aloof {watch : Watch} {t : T} {s s' : Shared T} {r : Poll.Request} {answer : Poll.Request.Answer r}
    (aloof : r.aloof = true) (answered : Reacts watch t s r answer s') : s' = s := by
  cases r with
  | takeDevice | putDevice | takeActive | putActive | clearWakeup | notifyWakeup | wait => cases aloof
  | _ => exact answered

/-! ## Stances -/

/-- How a call stands to the locks, the mark and the wakeup. -/
inductive Stance where
  /-- It has no more to do with them. -/
  | apart
  /-- A play that has not come to the slot yet. -/
  | before
  /-- A play that holds the lock of the slot. -/
  | within
  | marking
  | swept
  | marked
  | unmarking
  /-- A stop that has not looked at the mark yet. -/
  | called
  | locked (active : Bool)
  | notified
  /-- A close that has not come to the slot yet. -/
  | closing
  | emptying

/-- How the stances change. -/
inductive Shift : Stance → (r : Poll.Request) → Poll.Request.Answer r → Stance → Prop where
  | idle {c r answer} (aloof : r.aloof = true) : Shift c r answer c
  | take {found} : Shift .before .takeDevice found .within
  | put {kept} : Shift .within (.putDevice kept) () .apart
  | lock {active} : Shift .within .takeActive active .marking
  | sweep : Shift .marking .clearWakeup () .swept
  | mark : Shift .swept (.putActive true) () .marked
  | watch {h draining timeout answer} : Shift .marked (.wait h draining timeout) answer .marked
  | relock {active} : Shift .marked .takeActive active .unmarking
  | unmark : Shift .unmarking (.putActive false) () .within
  | enter {active} : Shift .called .takeActive active (.locked active)
  | notify : Shift (.locked true) .notifyWakeup () .notified
  | heeded : Shift .notified (.putActive true) () .apart
  | unheeded : Shift (.locked false) (.putActive false) () .apart
  | close {found} : Shift .closing .takeDevice found .emptying
  | shut {kept} : Shift .emptying (.putDevice kept) () .apart

/-- The protocol of the stances. -/
def shifts : Moves Poll.Interface Stance := fun c r answer c' => Shift c r answer c'

/-- The stance of a call in a phase. -/
def Phase.stance : Phase → Stance
  | barred | gone _ | heard | shut => .apart
  | entered => .before
  | vacant | held _ | spurned _ | granted _ | agreed _ | tidying .. | tidied .. | emptied => .within
  | marking _ => .marking
  | swept _ => .swept
  | feeding _ | waiting .. | ceased .. => .marked
  | unmarking .. => .unmarking
  | called => .called
  | locked active => .locked active
  | notified => .notified
  | closing => .closing
  | doomed _ | bare => .emptying

theorem Turn.shift {φ φ' : Phase} {r : Poll.Request} {answer : Poll.Request.Answer r} (turn : Turn φ r answer φ') :
    Shift φ.stance r answer φ'.stance := by
  cases turn with
  | found | unfilled => exact .take
  | kept | left => exact .put
  | lock => exact .lock
  | sweep => exact .sweep
  | mark => exact .mark
  | ready | drained | halted | stalled | lost => exact .watch
  | relock => exact .relock
  | unmark => exact .unmark
  | enter => exact .enter
  | notify => exact .notify
  | heeded => exact .heeded
  | unheeded => exact .unheeded
  | close | closed => exact .close
  | shut => exact .shut
  | _ => exact .idle rfl

/-- Every move of a call changes its stance in this way. -/
theorem Move.shift {s s' : Stage} {r : Poll.Request} {answer : Poll.Request.Answer r} (move : Move s r answer s') :
    Shift s.phase.stance r answer s'.phase.stance := by
  cases move with
  | turn turn => exact turn.shift
  | log => exact .idle rfl

/-- Every command changes its stance in this way, and ends apart. -/
theorem shifts_follow (cfg : Config) (command : Command) :
    (command.program (output cfg)).Follows shifts (fun c _ => c = .apart) (enter command).stance := by
  refine (follows cfg command).view (fun s => s.phase.stance) (fun _ _ _ _ move => Move.shift move) ?_
  rintro ⟨φ, left⟩ result ended
  cases command <;> cases φ <;> first | rfl | cases ended

namespace Stance

/-- Whether the call holds the lock of the slot. -/
def keeps : Stance → Bool
  | within | marking | swept | marked | unmarking | emptying => true
  | _ => false

/-- Whether the call holds the lock of the mark. -/
def inside : Stance → Bool
  | marking | swept | unmarking | locked _ | notified => true
  | _ => false

/-- Whether the call has set the mark. -/
def shows : Stance → Bool
  | marked | unmarking => true
  | _ => false

/-- What a stop has seen of the mark, while it holds its lock. -/
def sees : Stance → Option Bool
  | locked active => some active
  | notified => some true
  | _ => none

/-- The calls that may stand so. -/
def Fits : Stance → Command → Prop
  | apart, _ => True
  | called, command | locked _, command | notified, command => command = .stop
  | closing, command | emptying, command => command = .close
  | _, command => ∃ track settings, command = .play track settings

theorem keeps_of_shows {c : Stance} (shows : c.shows = true) : c.keeps = true := by
  cases c with
  | marked | unmarking => rfl
  | _ => cases shows

theorem inside_of_sees {c : Stance} {active : Bool} (sees : c.sees = some active) : c.inside = true := by
  cases c with
  | locked | notified => rfl
  | _ => cases sees

end Stance

/-- A call begins as its command has it. -/
theorem fits_enter (command : Command) : (enter command).stance.Fits command := by
  cases command with
  | play track settings =>
    by_cases accepted : accepts track = true
    · rw [enter_play accepted]
      exact ⟨track, settings, rfl⟩
    · rw [enter_refused accepted]
      trivial
  | stop | close => rfl

/-- The stance of a call that holds no lock and has seen nothing of the mark. -/
structure Stance.Fresh (c : Stance) : Prop where
  keeps : c.keeps = false
  inside : c.inside = false
  shows : c.shows = false
  sees : c.sees = none
  unswept : c ≠ .swept

/-- A call begins with such a stance. -/
theorem fresh_enter (command : Command) : (enter command).stance.Fresh := by
  cases command with
  | play track settings =>
    by_cases accepted : accepts track = true
    · rw [enter_play accepted]
      exact ⟨rfl, rfl, rfl, rfl, nofun⟩
    · rw [enter_refused accepted]
      exact ⟨rfl, rfl, rfl, rfl, nofun⟩
  | stop | close => exact ⟨rfl, rfl, rfl, rfl, nofun⟩

/-- A call keeps to its command. -/
theorem Shift.fits {c c' : Stance} {r : Poll.Request} {answer : Poll.Request.Answer r} {command : Command}
    (shift : Shift c r answer c') (fits : c.Fits command) : c'.Fits command := by
  cases shift with
  | put | heeded | unheeded | shut => trivial
  | _ => exact fits

/-! ## Locks -/

variable [DecidableEq T]

/-- What a thread looks like that has changed its stance and not its looks. -/
theorem update_same {β : Type} {c : T → Stance} {t : T} {x : Stance} (look : Stance → β) (same : look x = look (c t))
    (u : T) : look (Function.update c t x u) = look (c u) := by
  by_cases here : u = t
  · subst here
    rw [Function.update_self, same]
  · rw [Function.update_of_ne here]

/-- The owner of a lock is the one thread that stands where it is held. -/
def Owns (holds : Stance → Bool) (c : T → Stance) (owner : Option T) : Prop :=
  ∀ t, holds (c t) = true ↔ owner = some t

/-- What a step of a thread does to a lock: it takes it, it gives it back, or it leaves it. -/
def Passes (t : T) (had has : Bool) (owner owner' : Option T) : Prop :=
  (owner = none ∧ has = true ∧ owner' = some t) ∨ (had = true ∧ has = false ∧ owner' = none) ∨
    (has = had ∧ owner' = owner)

namespace Passes

variable {t : T} {had : Bool} {owner : Option T}

omit [DecidableEq T] in
theorem takes (free : owner = none) : Passes t had true owner (some t) := .inl ⟨free, rfl, rfl⟩

omit [DecidableEq T] in
theorem gives : Passes t true false owner none := .inr (.inl ⟨rfl, rfl, rfl⟩)

omit [DecidableEq T] in
theorem leaves {has : Bool} (same : has = had) : Passes t had has owner owner := .inr (.inr ⟨same, rfl⟩)

end Passes

namespace Owns

variable {holds : Stance → Bool} {c : T → Stance} {owner owner' : Option T} {t u : T} {x : Stance}

omit [DecidableEq T] in
/-- Two threads do not hold one lock. -/
theorem unique (h : Owns holds c owner) (one : holds (c t) = true) (two : holds (c u) = true) : t = u :=
  Option.some.inj (((h t).1 one).symm.trans ((h u).1 two))

theorem step (h : Owns holds c owner) (passes : Passes t (holds (c t)) (holds x) owner owner') :
    Owns holds (Function.update c t x) owner' := by
  intro u
  by_cases same : u = t
  · subst same
    rw [Function.update_self]
    rcases passes with ⟨-, has, rfl⟩ | ⟨-, lacks, rfl⟩ | ⟨keeps, rfl⟩
    · simp [has]
    · simp [lacks]
    · rw [keeps]
      exact h u
  · rw [Function.update_of_ne same]
    have other := h u
    rcases passes with ⟨rfl, -, rfl⟩ | ⟨had, -, rfl⟩ | ⟨-, rfl⟩
    · simpa [Ne.symm same] using other
    · have mine := (h t).1 had
      rw [mine] at other
      simpa [Ne.symm same] using other
    · exact other

end Owns

/-! ## What the stances say -/

/-- What the stances say of the locks, the mark and the wakeup. -/
structure Guarded (s : Shared T) (c : T → Stance) : Prop where
  slot : Owns Stance.keeps c s.keeper
  mark : Owns Stance.inside c s.holder
  active : s.active = true ↔ ∃ t, (c t).shows = true
  seen : ∀ t active, (c t).sees = some active → s.active = active
  clean : ∀ t, c t = .swept → s.wakeup.held = []
  room : 0 < s.wakeup.capacity

section Steps

variable {watch : Watch} {s s' : Shared T} {c : T → Stance} {t u w : T} {x : Stance} {r : Poll.Request}
  {answer : Poll.Request.Answer r}

omit [DecidableEq T] in
/-- What each step does to the lock of the slot. -/
theorem Shift.slot {c : Stance} (shift : Shift c r answer x) (answered : Reacts watch t s r answer s') :
    Passes t c.keeps x.keeps s.keeper s'.keeper := by
  cases shift with
  | idle aloof =>
    obtain rfl := eq_of_aloof aloof answered
    exact .leaves rfl
  | take | close =>
    obtain ⟨free, -, rfl⟩ := answered
    exact .takes free
  | put | shut =>
    obtain rfl := answered
    exact .gives
  | lock | relock | enter =>
    obtain ⟨-, -, rfl⟩ := answered
    exact .leaves rfl
  | watch =>
    obtain ⟨-, rfl⟩ := answered
    exact .leaves rfl
  | _ =>
    obtain rfl := answered
    exact .leaves rfl

omit [DecidableEq T] in
/-- What each step does to the lock of the mark. -/
theorem Shift.mark_lock {c : Stance} (shift : Shift c r answer x) (answered : Reacts watch t s r answer s') :
    Passes t c.inside x.inside s.holder s'.holder := by
  cases shift with
  | idle aloof =>
    obtain rfl := eq_of_aloof aloof answered
    exact .leaves rfl
  | take | close =>
    obtain ⟨-, -, rfl⟩ := answered
    exact .leaves rfl
  | lock | relock | enter =>
    obtain ⟨free, -, rfl⟩ := answered
    exact .takes free
  | mark | unmark | heeded | unheeded =>
    obtain rfl := answered
    exact .gives
  | watch =>
    obtain ⟨-, rfl⟩ := answered
    exact .leaves rfl
  | _ =>
    obtain rfl := answered
    exact .leaves rfl

omit [DecidableEq T] in
/-- The wakeup is only changed by a play that is going to set the mark and by a stop that has seen it. -/
theorem Shift.wakeup {c : Stance} (shift : Shift c r answer x) (answered : Reacts watch t s r answer s') :
    s'.wakeup = s.wakeup ∨ (c = .marking ∧ x = .swept ∧ s'.wakeup = s.wakeup.clear) ∨
      (c = .locked true ∧ x = .notified ∧ s'.wakeup = s.wakeup.notify) := by
  cases shift with
  | idle aloof =>
    obtain rfl := eq_of_aloof aloof answered
    exact .inl rfl
  | sweep =>
    obtain rfl := answered
    exact .inr (.inl ⟨rfl, rfl, rfl⟩)
  | notify =>
    obtain rfl := answered
    exact .inr (.inr ⟨rfl, rfl, rfl⟩)
  | take | close | lock | relock | enter =>
    obtain ⟨-, -, rfl⟩ := answered
    exact .inl rfl
  | watch =>
    obtain ⟨-, rfl⟩ := answered
    exact .inl rfl
  | _ =>
    obtain rfl := answered
    exact .inl rfl

namespace Guarded

omit [DecidableEq T] in
/-- The mark is only changed by plays. -/
theorem mark_step (g : Guarded s c) (shift : Shift (c t) r answer x) (answered : Reacts watch t s r answer s') :
    (s'.active = s.active ∧ x.shows = (c t).shows) ∨ (c t = .swept ∧ x = .marked ∧ s'.active = true) ∨
      (c t = .unmarking ∧ x = .within ∧ s'.active = false) := by
  have seen := g.seen t
  generalize c t = stance at shift seen
  cases shift with
  | idle aloof =>
    obtain rfl := eq_of_aloof aloof answered
    exact .inl ⟨rfl, rfl⟩
  | mark =>
    obtain rfl := answered
    exact .inr (.inl ⟨rfl, rfl, rfl⟩)
  | unmark =>
    obtain rfl := answered
    exact .inr (.inr ⟨rfl, rfl, rfl⟩)
  -- A stop leaves the mark as it has found it.
  | heeded | unheeded =>
    obtain rfl := answered
    exact .inl ⟨(seen _ rfl).symm, rfl⟩
  | take | close | lock | relock | enter =>
    obtain ⟨-, -, rfl⟩ := answered
    exact .inl ⟨rfl, rfl⟩
  | watch =>
    obtain ⟨-, rfl⟩ := answered
    exact .inl ⟨rfl, rfl⟩
  | _ =>
    obtain rfl := answered
    exact .inl ⟨rfl, rfl⟩

omit [DecidableEq T] in
/-- Only one play has set the mark. -/
theorem shows_unique (g : Guarded s c) (one : (c t).shows = true) (two : (c u).shows = true) : t = u :=
  g.slot.unique (Stance.keeps_of_shows one) (Stance.keeps_of_shows two)

theorem shift_active (g : Guarded s c) (shift : Shift (c t) r answer x) (answered : Reacts watch t s r answer s') :
    s'.active = true ↔ ∃ u, (Function.update c t x u).shows = true := by
  rcases g.mark_step shift answered with ⟨same, shows⟩ | ⟨-, rfl, set⟩ | ⟨was, rfl, unset⟩
  · rw [same, g.active]
    refine exists_congr fun u => ?_
    rw [update_same Stance.shows shows]
  · refine iff_of_true set ⟨t, ?_⟩
    rw [Function.update_self]
    rfl
  · refine iff_of_false (by simp [unset]) ?_
    rintro ⟨u, shows⟩
    by_cases here : u = t
    · subst here
      rw [Function.update_self] at shows
      cases shows
    · rw [Function.update_of_ne here] at shows
      refine here (g.shows_unique shows ?_)
      rw [was]
      rfl

theorem shift_seen (g : Guarded s c) (shift : Shift (c t) r answer x) (answered : Reacts watch t s r answer s')
    (active : Bool) (sees : (Function.update c t x u).sees = some active) : s'.active = active := by
  by_cases here : u = t
  · subst here
    rw [Function.update_self] at sees
    have seen := g.seen u
    generalize c u = stance at shift seen
    cases shift with
    | idle aloof =>
      obtain rfl := eq_of_aloof aloof answered
      exact seen active sees
    | enter =>
      obtain ⟨-, found, rfl⟩ := answered
      exact found.symm.trans (Option.some.inj sees)
    | notify =>
      obtain rfl := answered
      exact seen active sees
    | _ => cases sees
  · rw [Function.update_of_ne here] at sees
    have inside := Stance.inside_of_sees sees
    rcases g.mark_step shift answered with ⟨same, -⟩ | ⟨was, -⟩ | ⟨was, -⟩
    · rw [same]
      exact g.seen u active sees
    -- Who changes the mark holds its lock, which the other thread has.
    · exact absurd (g.mark.unique inside (by rw [was]; rfl)) here
    · exact absurd (g.mark.unique inside (by rw [was]; rfl)) here

theorem shift_clean (g : Guarded s c) (shift : Shift (c t) r answer x) (answered : Reacts watch t s r answer s')
    (swept : Function.update c t x u = .swept) : s'.wakeup.held = [] := by
  rcases shift.wakeup answered with same | ⟨-, -, cleared⟩ | ⟨was, rfl, -⟩
  · rw [same]
    by_cases here : u = t
    · subst here
      rw [Function.update_self] at swept
      subst swept
      have clean := g.clean u
      generalize c u = stance at shift clean
      cases shift with
      | idle => exact clean rfl
      | sweep =>
        obtain rfl := answered
        exact same ▸ Wakeup.held_clear _
    · rw [Function.update_of_ne here] at swept
      exact g.clean u swept
  · rw [cleared]
    exact Wakeup.held_clear _
  · by_cases here : u = t
    · subst here
      rw [Function.update_self] at swept
      cases swept
    · rw [Function.update_of_ne here] at swept
      refine absurd (g.mark.unique (t := u) (u := t) ?_ ?_) here
      · rw [swept]
        rfl
      · rw [was]
        rfl

/-- **Every request keeps what the stances say.** -/
theorem shift (g : Guarded s c) (shift : Shift (c t) r answer x) (answered : Reacts watch t s r answer s') :
    Guarded s' (Function.update c t x) where
  slot := g.slot.step (shift.slot answered)
  mark := g.mark.step (shift.mark_lock answered)
  active := g.shift_active shift answered
  seen _ := g.shift_seen shift answered
  clean _ := g.shift_clean shift answered
  room := by
    rcases shift.wakeup answered with same | ⟨-, -, cleared⟩ | ⟨-, -, notified⟩
    · rw [same]
      exact g.room
    · rw [cleared, Wakeup.capacity_clear]
      exact g.room
    · rw [notified, Wakeup.capacity_notify]
      exact g.room

/-- A call that has ended makes room for one that has not begun. -/
theorem finish (g : Guarded s c) (apart : c t = .apart) (command : Command) :
    Guarded s (Function.update c t (enter command).stance) := by
  have fresh := fresh_enter command
  have keeps : (enter command).stance.keeps = (c t).keeps := by
    rw [fresh.keeps, apart]
    rfl
  have inside : (enter command).stance.inside = (c t).inside := by
    rw [fresh.inside, apart]
    rfl
  have shows : (enter command).stance.shows = (c t).shows := by
    rw [fresh.shows, apart]
    rfl
  have sees : (enter command).stance.sees = (c t).sees := by
    rw [fresh.sees, apart]
    rfl
  refine ⟨g.slot.step (.leaves keeps), g.mark.step (.leaves inside), ?_, ?_, ?_, g.room⟩
  · rw [g.active]
    refine exists_congr fun u => ?_
    rw [update_same Stance.shows shows]
  · intro u active seen
    rw [update_same Stance.sees sees] at seen
    exact g.seen u active seen
  · refine (Function.forall_update_iff c fun _ x => x = .swept → s.wakeup.held = []).2 ?_
    exact ⟨fun swept => absurd swept fresh.unswept, fun u _ => g.clean u⟩

end Guarded

end Steps

end Playout.Poll
