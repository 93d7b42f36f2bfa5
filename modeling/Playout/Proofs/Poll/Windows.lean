import Playout.Proofs.Poll.Mark
import Playout.Proofs.Traces

/-!
# `Playout.Proofs.Poll.Windows` — wakeups while a playback is active

From setting the mark to taking it off a play is active. At every moment of this window the wakeup tells whether a stop
has come since the window began; what happens outside of windows leaves no trace in it.

## Contents
- `Window`, `Ran` — what has happened since a play set its mark, and stops in it.
- `Told`, `During` — what the wakeup tells in a window, and what can happen there.
- `Kept` — what holds after every step.
- `run_kept`, `run_asked` — it holds after every run, and before every request.
- `found_iff_window`, `told_in_window`, `window_of_notified`, `window_of_wait` — what a run tells of its windows.

## Main statements
- `wakeup_tells_stops` — in a window the wakeup is readable if and only if a stop has come in it.
- `stop_in_window` — so it is in a run with a stop before the window and two stops in it.
-/

namespace Playout.Poll

open Interleaving Transport Program

/-! ## Windows -/

variable {T : Type} [DecidableEq T]

/-- What has happened among threads that use an output. -/
abbrev Past (T : Type) := History T Poll.Interface (Except PlayError Unit)

/-- A play has set its mark and not taken it off again, and `after` is what has happened since. -/
structure Window (commands : T → Nat → Command) (t : T) (n : Nat) (history after : Past T) : Prop where
  plays : ∃ track settings, commands t n = .play track settings
  opened : ∃ before, history = before ++ .asked t n (.putActive true) () :: after
  still : .asked t n (.putActive false) () ∉ after

/-- A stop has found the mark and woken the player. -/
structure Ran (commands : T → Nat → Command) (u : T) (k : Nat) (after : Past T) : Prop where
  stops : commands u k = .stop
  looked : .asked u k .takeActive true ∈ after
  woke : .asked u k .notifyWakeup () ∈ after

omit [DecidableEq T] in
/-- What a new event does not ask was asked before. -/
theorem mem_of_mem_snoc {history : Past T} {t u : T} {n k : Nat} {r r' : Poll.Request}
    {answer : Poll.Request.Answer r} {answer' : Poll.Request.Answer r'} (other : r ≠ r')
    (mem : .asked u k r' answer' ∈ history ++ [.asked t n r answer]) : .asked u k r' answer' ∈ history := by
  rcases List.mem_append.1 mem with earlier | now
  · exact earlier
  · rw [List.mem_singleton] at now
    cases now
    exact absurd rfl other

variable {commands : T → Nat → Command} {t u w : T} {n k : Nat} {history after : Past T}
  {e : Event (fun _ : T => Poll.Interface) fun _ : T => Except PlayError Unit}

omit [DecidableEq T] in
/-- Time goes on. -/
theorem Ran.later (ran : Ran commands u k after) : Ran commands u k (after ++ [e]) :=
  ⟨ran.stops, List.mem_append_left _ ran.looked, List.mem_append_left _ ran.woke⟩

omit [DecidableEq T] in
/-- A window begins with the mark, or it began earlier and goes on. -/
theorem Window.of_snoc (window : Window commands t n (history ++ [e]) after) :
    (after = [] ∧ e = .asked t n (.putActive true) ()) ∨
      ∃ earlier, after = earlier ++ [e] ∧ Window commands t n history earlier ∧
        e ≠ .asked t n (.putActive false) () := by
  obtain ⟨plays, ⟨before, opened⟩, still⟩ := window
  rcases List.eq_nil_or_concat after with rfl | ⟨earlier, last, rfl⟩
  · obtain ⟨-, same⟩ := List.append_inj' opened rfl
    exact .inl ⟨rfl, List.singleton_inj.1 same⟩
  · rw [List.concat_eq_append] at opened still ⊢
    rw [← List.cons_append, ← List.append_assoc] at opened
    obtain ⟨rfl, same⟩ := List.append_inj' opened rfl
    obtain rfl := List.singleton_inj.1 same
    rw [List.mem_append, not_or] at still
    refine .inr ⟨earlier, rfl, ⟨plays, ⟨before, rfl⟩, still.1⟩, ?_⟩
    rintro rfl
    exact still.2 List.mem_cons_self

omit [DecidableEq T] in
/-- A window goes on until the mark is taken off. -/
theorem Window.snoc (window : Window commands t n history after) (other : e ≠ .asked t n (.putActive false) ()) :
    Window commands t n (history ++ [e]) (after ++ [e]) := by
  obtain ⟨plays, ⟨before, rfl⟩, still⟩ := window
  refine ⟨plays, ⟨before, by simp⟩, ?_⟩
  rw [List.mem_append, not_or]
  refine ⟨still, ?_⟩
  rw [List.mem_singleton]
  exact Ne.symm other

/-! ## What the wakeup tells -/

/-- What the wakeup tells in a window, and how far the stops have come that have looked at the mark in it. -/
structure Told (commands : T → Nat → Command) (s : Shared T) (number : T → Nat) (c : T → Stance)
    (after : Past T) : Prop where
  held : s.wakeup.held ≠ [] ↔ ∃ u k, .asked u k .notifyWakeup () ∈ after
  ran : ∀ u k, .asked u k .notifyWakeup () ∈ after → Ran commands u k after
  whole : ∀ u k active, commands u k = .stop → .asked u k (.putActive active) () ∈ after → Ran commands u k after
  looked : ∀ u, (c u).sees ≠ none → .asked u (number u) .takeActive true ∈ after
  woke : ∀ u, c u = .notified → .asked u (number u) .notifyWakeup () ∈ after
  ended : ∀ u k, .asked u k .notifyWakeup () ∈ after →
    .asked u k (.putActive true) () ∈ after ∨ k = number u ∧ c u = .notified

/-- What can happen while the mark is set, other than that it is taken off. -/
inductive During (wakeup : Wakeup) : Stance → (r : Poll.Request) → Poll.Request.Answer r → Stance → Wakeup → Prop where
  | quiet {c r answer x} (silent : r ≠ .notifyWakeup) (leaves : ∀ active, r ≠ .putActive active)
      (unseen : x.sees ≠ none → x = c) (awake : x = .notified ↔ c = .notified) :
      During wakeup c r answer x wakeup
  | enter : During wakeup .called .takeActive true (.locked true) wakeup
  | notify : During wakeup (.locked true) .notifyWakeup () .notified wakeup.notify
  | heeded : During wakeup .notified (.putActive true) () .apart wakeup

section Steps

variable {watch : Watch} {s s' : Shared T} {c : T → Stance} {x : Stance} {r : Poll.Request}
  {answer : Poll.Request.Answer r} {number : T → Nat}

omit [DecidableEq T] in
/-- While a play has set the mark, no other call can get the lock of the slot, and every stop finds the mark. -/
theorem Guarded.during (g : Guarded s c) (shows : (c w).shows = true) (shift : Shift (c t) r answer x)
    (answered : Reacts watch t s r answer s') :
    (During s.wakeup (c t) r answer x s'.wakeup ∧ x.shows = (c t).shows) ∨
      (Event.asked t n r answer : Event (fun _ : T => Poll.Interface) fun _ : T => Except PlayError Unit) =
        .asked w n (.putActive false) () := by
  have active : s.active = true := g.active.2 ⟨w, shows⟩
  have slot : s.keeper = some w := (g.slot w).1 (Stance.keeps_of_shows shows)
  have seen := g.seen t
  -- A thread that keeps the slot is the one that has set the mark.
  have other : (c t).keeps = true → (c t).shows = true := by
    intro keeps
    rw [g.slot.unique keeps (Stance.keeps_of_shows shows)]
    exact shows
  have mine : (c t).shows = true → t = w := fun here => g.shows_unique here shows
  generalize c t = stance at shift seen other mine
  cases shift with
  | idle aloof =>
    obtain rfl := eq_of_aloof aloof answered
    refine .inl ⟨.quiet ?_ ?_ (fun _ => rfl) Iff.rfl, rfl⟩
    · rintro rfl
      cases aloof
    · rintro active rfl
      cases aloof
  | take | close =>
    obtain ⟨free, -⟩ := answered
    rw [slot] at free
    cases free
  | put | lock | sweep | mark | shut => cases other rfl
  | watch =>
    obtain ⟨-, rfl⟩ := answered
    exact .inl ⟨.quiet nofun nofun (fun no => absurd rfl no) (by simp), rfl⟩
  | relock =>
    obtain ⟨-, -, rfl⟩ := answered
    exact .inl ⟨.quiet nofun nofun (fun no => absurd rfl no) (by simp), rfl⟩
  | unmark =>
    obtain rfl := mine rfl
    exact .inr rfl
  | enter =>
    obtain ⟨-, found, rfl⟩ := answered
    rw [active] at found
    subst found
    exact .inl ⟨.enter, rfl⟩
  | notify =>
    obtain rfl := answered
    exact .inl ⟨.notify, rfl⟩
  | heeded =>
    obtain rfl := answered
    exact .inl ⟨.heeded, rfl⟩
  | unheeded => exact absurd ((seen false rfl).symm.trans active) nofun

namespace Told

/-- A request that leaves the wakeup alone. -/
theorem silent (told : Told commands s number c after) (other : r ≠ .notifyWakeup)
    (same : s'.wakeup = s.wakeup)
    (whole : ∀ active, r = .putActive active → Ran commands t (number t) after)
    (looked : x.sees ≠ none →
      .asked t (number t) .takeActive true ∈ after ++ [.asked t (number t) r answer])
    (woke : x = .notified → c t = .notified)
    (ended : c t = .notified → x = .notified ∨ r = .putActive true) :
    Told commands s' number (Function.update c t x) (after ++ [.asked t (number t) r answer]) where
  held := by
    rw [same, told.held]
    refine exists_congr fun u => exists_congr fun k => ?_
    exact ⟨List.mem_append_left _, mem_of_mem_snoc other⟩
  ran u k mem := (told.ran u k (mem_of_mem_snoc other mem)).later
  whole u k active stops mem := by
    rcases List.mem_append.1 mem with earlier | now
    · exact (told.whole u k active stops earlier).later
    · rw [List.mem_singleton] at now
      cases now
      exact (whole active rfl).later
  looked := by
    refine (Function.forall_update_iff c fun u x => x.sees ≠ none → .asked u (number u) .takeActive true ∈ (_ : Past T)).2 ?_
    exact ⟨looked, fun u _ sees => List.mem_append_left _ (told.looked u sees)⟩
  woke := by
    refine (Function.forall_update_iff c fun u x => x = .notified → .asked u (number u) .notifyWakeup () ∈ (_ : Past T)).2 ?_
    exact ⟨fun awake => List.mem_append_left _ (told.woke t (woke awake)),
      fun u _ awake => List.mem_append_left _ (told.woke u awake)⟩
  ended u k mem := by
    rcases told.ended u k (mem_of_mem_snoc other mem) with put | ⟨rfl, awake⟩
    · exact .inl (List.mem_append_left _ put)
    · by_cases here : u = t
      · subst here
        rw [Function.update_self]
        rcases ended awake with still | rfl
        · exact .inr ⟨rfl, still⟩
        · exact .inl (List.mem_append_right _ List.mem_cons_self)
      · rw [Function.update_of_ne here]
        exact .inr ⟨rfl, awake⟩

omit [DecidableEq T] in
/-- At the beginning of a window the wakeup is empty, and nobody else holds the lock of the mark. -/
theorem begin (empty : s.wakeup.held = []) (unseen : ∀ u, (c u).sees = none) : Told commands s number c [] where
  held := by simp [empty]
  ran _ _ := nofun
  whole _ _ _ _ := nofun
  looked u sees := absurd (unseen u) sees
  woke u awake := by
    have none := unseen u
    rw [awake] at none
    cases none
  ended _ _ := nofun

/-- A stop that has found the mark wakes the player. -/
theorem notify (told : Told commands s number c after) (room : 0 < s.wakeup.capacity)
    (stops : commands t (number t) = .stop) (found : c t = .locked true)
    (woken : s'.wakeup = s.wakeup.notify) :
    Told commands s' number (Function.update c t .notified)
      (after ++ [.asked t (number t) .notifyWakeup ()]) := by
  have looked : .asked t (number t) .takeActive true ∈ after := told.looked t (by simp [found, Stance.sees])
  have now : .asked t (number t) .notifyWakeup () ∈ after ++ [.asked t (number t) .notifyWakeup ()] :=
    List.mem_append_right _ List.mem_cons_self
  -- It has woken the player before, or it does so now.
  have either {u : T} {k : Nat}
      (mem : .asked u k .notifyWakeup () ∈ after ++ [.asked t (number t) .notifyWakeup ()]) :
      .asked u k .notifyWakeup () ∈ after ∨ u = t ∧ k = number t := by
    simpa using mem
  refine { held := ?held, ran := ?ran, whole := ?whole, looked := ?looked, woke := ?woke, ended := ?ended }
  case held =>
    refine iff_of_true ?_ ⟨t, number t, now⟩
    rw [woken]
    exact (Wakeup.signalled_iff _).1 (Wakeup.signalled_notify room)
  case ran =>
    intro u k mem
    rcases either mem with earlier | ⟨rfl, rfl⟩
    · exact (told.ran u k earlier).later
    · exact ⟨stops, List.mem_append_left _ looked, now⟩
  case whole =>
    intro u k active stops mem
    exact (told.whole u k active stops (mem_of_mem_snoc (r := .notifyWakeup) nofun mem)).later
  case looked =>
    refine (Function.forall_update_iff c fun u x => x.sees ≠ none → .asked u (number u) .takeActive true ∈ (_ : Past T)).2 ?_
    exact ⟨fun _ => List.mem_append_left _ looked, fun u _ sees => List.mem_append_left _ (told.looked u sees)⟩
  case woke =>
    refine (Function.forall_update_iff c fun u x => x = .notified → .asked u (number u) .notifyWakeup () ∈ (_ : Past T)).2 ?_
    exact ⟨fun _ => now, fun u _ awake => List.mem_append_left _ (told.woke u awake)⟩
  case ended =>
    intro u k mem
    by_cases here : u = t ∧ k = number t
    · obtain ⟨rfl, rfl⟩ := here
      exact .inr ⟨rfl, Function.update_self ..⟩
    · have earlier := (either mem).resolve_right here
      rcases told.ended u k earlier with put | ⟨rfl, awake⟩
      · exact .inl (List.mem_append_left _ put)
      · have other : u ≠ t := by
          rintro rfl
          exact here ⟨rfl, rfl⟩
        rw [Function.update_of_ne other]
        exact .inr ⟨rfl, awake⟩

/-- Whatever can happen while the mark is set, the wakeup keeps telling whether a stop has come. -/
theorem step (told : Told commands s number c after) (room : 0 < s.wakeup.capacity)
    (fits : (c t).Fits (commands t (number t))) (during : During s.wakeup (c t) r answer x s'.wakeup) :
    Told commands s' number (Function.update c t x) (after ++ [.asked t (number t) r answer]) := by
  generalize stands : c t = stance at during fits
  generalize becomes : s'.wakeup = wakeup at during
  cases during with
  | quiet silent leaves unseen awake =>
    refine told.silent silent becomes (fun active puts => absurd puts (leaves active)) ?_ ?_ ?_
    · intro sees
      refine List.mem_append_left _ (told.looked t ?_)
      rwa [stands, ← unseen sees]
    · intro notified
      rw [stands]
      exact awake.1 notified
    · intro notified
      rw [stands] at notified
      exact .inl (awake.2 notified)
  | enter =>
    refine told.silent nofun becomes nofun ?_ nofun ?_
    · exact fun _ => List.mem_append_right _ List.mem_cons_self
    · intro notified
      rw [stands] at notified
      cases notified
  | notify => exact told.notify room fits stands becomes
  | heeded =>
    refine told.silent nofun becomes ?_ (fun no => absurd rfl no) nofun fun _ => .inr rfl
    exact fun _ _ => told.ran t (number t) (told.woke t stands)

/-- The end of a call, which has nothing more to do with the mark. -/
theorem finish (told : Told commands s number c after) (apart : c t = .apart) (result : Except PlayError Unit) :
    Told commands s (Function.update number t (number t + 1))
      (Function.update c t (enter (commands t (number t + 1))).stance)
      (after ++ [.returned t (number t) result]) := by
  have asked {u : T} {k : Nat} {r : Poll.Request} {answer : Poll.Request.Answer r} :
      .asked u k r answer ∈ after ++ [.returned t (number t) result] ↔ .asked u k r answer ∈ after := by
    simp
  have fresh := fresh_enter (commands t (number t + 1))
  -- A thread that stands where a stop has looked is another one.
  have other {u : T} (sees : (Function.update c t (enter (commands t (number t + 1))).stance u).sees ≠ none) :
      u ≠ t := by
    rintro rfl
    rw [Function.update_self] at sees
    exact sees fresh.sees
  refine { held := ?held, ran := ?ran, whole := ?whole, looked := ?looked, woke := ?woke, ended := ?ended }
  case held => simpa only [asked] using told.held
  case ran =>
    intro u k mem
    exact (told.ran u k (asked.1 mem)).later
  case whole =>
    intro u k active stops mem
    exact (told.whole u k active stops (asked.1 mem)).later
  case looked =>
    intro u sees
    have other := other sees
    rw [Function.update_of_ne other] at sees ⊢
    exact asked.2 (told.looked u sees)
  case woke =>
    intro u awake
    have other := other (by rw [awake]; exact Option.some_ne_none true)
    rw [Function.update_of_ne other] at awake ⊢
    exact asked.2 (told.woke u awake)
  case ended =>
    intro u k mem
    rcases told.ended u k (asked.1 mem) with put | ⟨rfl, awake⟩
    · exact .inl (asked.2 put)
    · have other : u ≠ t := by
        rintro rfl
        rw [apart] at awake
        cases awake
      rw [Function.update_of_ne other, Function.update_of_ne other]
      exact .inr ⟨rfl, awake⟩

end Told

/-! ## Every run -/

/-- What holds after every step. -/
structure Kept (commands : T → Nat → Command) (s : Shared T) (number : T → Nat) (c : T → Stance)
    (history : Past T) : Prop where
  guarded : Guarded s c
  fits : ∀ t, (c t).Fits (commands t (number t))
  windows : ∀ t n after, Window commands t n history after →
    n = number t ∧ (c t).shows = true ∧ Told commands s number c after
  shown : ∀ t, (c t).shows = true → ∃ after, Window commands t (number t) history after

namespace Kept

/-- A new window. -/
theorem opens (kept : Kept commands s number c history) (stands : c t = .swept)
    (answered : Reacts watch t s (.putActive true) () s') :
    Told commands s' number (Function.update c t .marked) [] := by
  have clean := kept.guarded.clean t stands
  obtain rfl := answered
  refine Told.begin clean ?_
  refine (Function.forall_update_iff c fun _ x => x.sees = none).2 ⟨rfl, fun u other => ?_⟩
  cases sees : (c u).sees with
  | none => rfl
  | some active =>
    -- The lock of the mark has only one owner.
    have inside : (c t).inside = true := by
      rw [stands]
      rfl
    exact absurd (kept.guarded.mark.unique (Stance.inside_of_sees sees) inside) other

/-- After a request a window has just begun, or has been going on. -/
theorem ask_windows (kept : Kept commands s number c history) (shift : Shift (c t) r answer x)
    (answered : Reacts watch t s r answer s')
    (window : Window commands u n (history ++ [.asked t (number t) r answer]) after) :
    n = number u ∧ (Function.update c t x u).shows = true ∧
      Told commands s' number (Function.update c t x) after := by
  rcases window.of_snoc with ⟨rfl, opens⟩ | ⟨earlier, rfl, before, stays⟩
  · cases opens
    have fits := kept.fits t
    generalize stands : c t = stance at shift fits
    cases shift with
    | idle aloof => cases aloof
    | mark =>
      refine ⟨rfl, ?_, kept.opens stands answered⟩
      rw [Function.update_self]
      rfl
    | heeded =>
      obtain ⟨track, settings, plays⟩ := window.plays
      exact absurd (fits.symm.trans plays) nofun
  · obtain ⟨rfl, shows, told⟩ := kept.windows u n earlier before
    rcases kept.guarded.during (n := number t) shows shift answered with ⟨during, same⟩ | takesOff
    · refine ⟨rfl, ?_, told.step kept.guarded.room (kept.fits t) during⟩
      rw [update_same Stance.shows same]
      exact shows
    · cases takesOff
      exact absurd rfl stays

/-- A call that has set the mark after a request is in a window. -/
theorem ask_shown (kept : Kept commands s number c history) (shift : Shift (c t) r answer x)
    (shows : (Function.update c t x u).shows = true) :
    ∃ after, Window commands u (number u) (history ++ [.asked t (number t) r answer]) after := by
  by_cases before : (c u).shows = true
  · obtain ⟨after, window⟩ := kept.shown u before
    refine ⟨_, window.snoc ?_⟩
    intro takesOff
    cases takesOff
    rw [Function.update_self] at shows
    generalize c t = stance at shift before
    cases shift with
    | idle aloof => cases aloof
    | unmark => cases shows
    | unheeded => cases before
  · -- Only now it has been set.
    by_cases here : u = t
    · subst here
      rw [Function.update_self] at shows
      have fits := kept.fits u
      generalize c u = stance at shift before fits
      cases shift with
      | idle => exact absurd shows before
      | mark => exact ⟨[], fits, ⟨history, rfl⟩, List.not_mem_nil⟩
      | watch | relock => exact absurd rfl before
      | _ => cases shows
    · rw [Function.update_of_ne here] at shows
      exact absurd shows before

/-- A request. -/
theorem ask (kept : Kept commands s number c history) (shift : Shift (c t) r answer x)
    (answered : Reacts watch t s r answer s') :
    Kept commands s' number (Function.update c t x) (history ++ [.asked t (number t) r answer]) where
  guarded := kept.guarded.shift shift answered
  fits := by
    refine (Function.forall_update_iff c fun u x => x.Fits (commands u (number u))).2 ?_
    exact ⟨shift.fits (kept.fits t), fun u _ => kept.fits u⟩
  windows _ _ _ := kept.ask_windows shift answered
  shown _ := kept.ask_shown shift

/-- The end of a call. -/
theorem finish (kept : Kept commands s number c history) (apart : c t = .apart) (result : Except PlayError Unit) :
    Kept commands s (Function.update number t (number t + 1))
      (Function.update c t (enter (commands t (number t + 1))).stance)
      (history ++ [.returned t (number t) result]) where
  guarded := kept.guarded.finish apart _
  fits u := by
    by_cases here : u = t
    · subst here
      rw [Function.update_self, Function.update_self]
      exact fits_enter _
    · rw [Function.update_of_ne here, Function.update_of_ne here]
      exact kept.fits u
  windows u n after window := by
    rcases window.of_snoc with ⟨-, opens⟩ | ⟨earlier, rfl, before, -⟩
    · cases opens
    · obtain ⟨rfl, shows, told⟩ := kept.windows u n earlier before
      have other : u ≠ t := by
        rintro rfl
        rw [apart] at shows
        cases shows
      rw [Function.update_of_ne other, Function.update_of_ne other]
      exact ⟨rfl, shows, told.finish apart result⟩
  shown u shows := by
    have other : u ≠ t := by
      rintro rfl
      rw [Function.update_self, (fresh_enter _).shows] at shows
      cases shows
    rw [Function.update_of_ne other] at shows ⊢
    obtain ⟨after, window⟩ := kept.shown u shows
    exact ⟨_, window.snoc nofun⟩

end Kept

/-- Nobody has begun anything yet. -/
structure Idle (s : Shared T) : Prop where
  keeper : s.keeper = none
  holder : s.holder = none
  active : s.active = false
  room : 0 < s.wakeup.capacity

omit [DecidableEq T] in
theorem Idle.guarded (idle : Idle s) (fresh : ∀ t, (c t).Fresh) : Guarded s c where
  slot t := by simp [idle.keeper, (fresh t).keeps]
  mark t := by simp [idle.holder, (fresh t).inside]
  active := by simp [idle.active, fun t => (fresh t).shows]
  seen t active sees := by
    rw [(fresh t).sees] at sees
    cases sees
  clean t swept := absurd swept (fresh t).unswept
  room := idle.room

omit [DecidableEq T] in
theorem Idle.kept (idle : Idle s) (commands : T → Nat → Command) :
    Kept commands s (fun _ => 0) (fun t => (enter (commands t 0)).stance) [] where
  guarded := idle.guarded fun t => fresh_enter (commands t 0)
  fits t := fits_enter (commands t 0)
  windows t n after window := by
    obtain ⟨before, opened⟩ := window.opened
    simp at opened
  shown t shows := by
    rw [(fresh_enter (commands t 0)).shows] at shows
    cases shows

/-- **Every run** keeps the locks, the mark and the wakeup as the stances of its threads tell. -/
theorem run_kept (cfg : Config) (idle : Idle s) {history : Past T}
    {now : State (fun _ => Poll.Interface) (fun _ => Except PlayError Unit) (Shared T)}
    (run : Run (calls (output cfg) commands) (reacts watch) s history now) :
    ∃ c : T → Stance, (∀ t, (now.call t).rest.Follows shifts (fun c _ => c = .apart) (c t)) ∧
      Kept commands now.shared (fun t => (now.call t).number) c history := by
  have follow : ∀ t n, (calls (output cfg) commands t n).Follows shifts (fun c _ => c = .apart)
      (enter (commands t n)).stance := fun t n => shifts_follow cfg (commands t n)
  refine run.invariant follow (idle.kept commands) ?_ ?_
  · intro s number c history t r answer s' x kept shift answered
    exact kept.ask shift answered
  · intro s number c history t result kept apart
    exact kept.finish apart result

/-- Before a request everything holds that is kept, and the request is a shift of the stance of its thread. -/
theorem run_asked (cfg : Config) (idle : Idle s) {before after : Past T}
    {now : State (fun _ => Poll.Interface) (fun _ => Except PlayError Unit) (Shared T)}
    (run : Run (calls (output cfg) commands) (reacts watch) s (before ++ .asked t n r answer :: after) now) :
    ∃ (here : State (fun _ => Poll.Interface) (fun _ => Except PlayError Unit) (Shared T)) (shared : Shared T)
      (c : T → Stance) (x : Stance), Run (calls (output cfg) commands) (reacts watch) s before here ∧
        (here.call t).number = n ∧ Kept commands here.shared (fun t => (here.call t).number) c before ∧
        Shift (c t) r answer x ∧ Reacts watch t here.shared r answer shared := by
  obtain ⟨here, next, shared, front, number, asks, answered⟩ := run.asked
  obtain ⟨c, follow, kept⟩ := run_kept cfg idle front
  obtain ⟨x, shift⟩ := (follow t).asked asks answer
  exact ⟨here, shared, c, x, front, number, kept, shift, answered⟩

/-- A call finds the mark if and only if some play is in its window. -/
theorem found_iff_window (cfg : Config) (idle : Idle s) {before after : Past T} {found : Bool}
    {now : State (fun _ => Poll.Interface) (fun _ => Except PlayError Unit) (Shared T)}
    (run : Run (calls (output cfg) commands) (reacts watch) s (before ++ .asked u k .takeActive found :: after) now) :
    found = true ↔ ∃ t n after, Window commands t n before after := by
  obtain ⟨here, _, c, _, -, -, kept, -, answered⟩ := run_asked cfg idle run
  have same : found = here.shared.active := answered.2.1
  rw [same, kept.guarded.active]
  constructor
  · rintro ⟨t, shows⟩
    obtain ⟨after, window⟩ := kept.shown t shows
    exact ⟨t, _, after, window⟩
  · rintro ⟨t, n, after, window⟩
    exact ⟨t, (kept.windows t n after window).2.1⟩

/-- What the wakeup tells in a window. -/
theorem told_in_window (cfg : Config) (idle : Idle s) {history : Past T}
    {now : State (fun _ => Poll.Interface) (fun _ => Except PlayError Unit) (Shared T)}
    (run : Run (calls (output cfg) commands) (reacts watch) s history now)
    (window : Window commands t n history after) :
    (now.shared.wakeup.held ≠ [] ↔ ∃ u k, Ran commands u k after) ∧
      (∀ u k active, commands u k = .stop → .asked u k (.putActive active) () ∈ after → Ran commands u k after) ∧
      (now.shared.holder = none → ∀ u k, Ran commands u k after → .asked u k (.putActive true) () ∈ after) := by
  obtain ⟨c, -, kept⟩ := run_kept cfg idle run
  obtain ⟨-, -, told⟩ := kept.windows t n after window
  refine ⟨?_, told.whole, ?_⟩
  · rw [told.held]
    exact exists_congr fun u => exists_congr fun k => ⟨told.ran u k, Ran.woke⟩
  · intro free u k ran
    rcases told.ended u k ran.woke with put | ⟨rfl, notified⟩
    · exact put
    · -- It would still hold the lock.
      have holds : now.shared.holder = some u := (kept.guarded.mark u).1 (by rw [notified]; rfl)
      rw [free] at holds
      cases holds

/-- A call wakes the player only in a window, in which it has found the mark. -/
theorem window_of_notified (cfg : Config) (idle : Idle s) {before after : Past T}
    {now : State (fun _ => Poll.Interface) (fun _ => Except PlayError Unit) (Shared T)}
    (run : Run (calls (output cfg) commands) (reacts watch) s (before ++ .asked u k .notifyWakeup () :: after) now) :
    ∃ t n after, Window commands t n before after ∧ .asked u k .takeActive true ∈ after := by
  obtain ⟨here, _, c, x, -, rfl, kept, shift, -⟩ := run_asked cfg idle run
  generalize stands : c u = stance at shift
  cases shift with
  | idle aloof => cases aloof
  | notify =>
    have sees : (c u).sees = some true := by
      rw [stands]
      rfl
    obtain ⟨t, shows⟩ := kept.guarded.active.1 (kept.guarded.seen u true sees)
    obtain ⟨after, window⟩ := kept.shown t shows
    obtain ⟨-, -, told⟩ := kept.windows t _ after window
    exact ⟨t, _, after, window, told.looked u (by simp [sees])⟩

/-- A play that waits is in its window, and the device tells whether the wakeup is readable. -/
theorem window_of_wait (cfg : Config) (idle : Idle s) {h : Handle} {draining : Bool} {timeout : Seconds}
    {outcome : Except Failure Readiness} {before after : Past T}
    {now : State (fun _ => Poll.Interface) (fun _ => Except PlayError Unit) (Shared T)}
    (run : Run (calls (output cfg) commands) (reacts watch) s
      (before ++ .asked t n (.wait h draining timeout) outcome :: after) now) :
    ∃ here opened, Run (calls (output cfg) commands) (reacts watch) s before here ∧ (here.call t).number = n ∧
      watch here.shared.wakeup.signalled outcome ∧ Window commands t n before opened := by
  obtain ⟨here, _, c, x, front, rfl, kept, shift, answered⟩ := run_asked cfg idle run
  generalize stands : c t = stance at shift
  cases shift with
  | idle aloof => cases aloof
  | watch =>
    have shows : (c t).shows = true := by
      rw [stands]
      rfl
    obtain ⟨opened, window⟩ := kept.shown t shows
    exact ⟨here, opened, front, rfl, answered.1, window⟩

end Steps

/-- **The wakeup tells of the stops in the window.** While a play has its mark set, the wakeup is readable if and only
    if a stop has found the mark and woken the player since; every stop that has given the mark back since has done so,
    and whenever nobody holds the lock of the mark, those that have woken the player have given it back. A stop finds
    the mark if and only if it looks in a window, and wakes the player only then. A wait that ends by a stop is in a
    window in which a stop has come. -/
theorem wakeup_tells_stops (cfg : Config) {watch : Watch}
    (polls : ∀ signalled, watch signalled (.ok .stopped) → signalled = true) {shared : Shared T} (idle : Idle shared)
    {now : State (fun _ => Poll.Interface) (fun _ => Except PlayError Unit) (Shared T)}
    (run : Run (calls (output cfg) commands) (reacts watch) shared history now) :
    (∀ t n after, Window commands t n history after →
      (now.shared.wakeup.held ≠ [] ↔ ∃ u k, Ran commands u k after) ∧
      (∀ u k active, commands u k = .stop → .asked u k (.putActive active) () ∈ after → Ran commands u k after) ∧
      (now.shared.holder = none → ∀ u k, Ran commands u k after → .asked u k (.putActive true) () ∈ after)) ∧
    (∀ before u k found rest, history = before ++ .asked u k .takeActive found :: rest → commands u k = .stop →
      (found = true ↔ ∃ t n after, Window commands t n before after)) ∧
    (∀ before u k rest, history = before ++ .asked u k .notifyWakeup () :: rest →
      ∃ t n after, Window commands t n before after ∧ .asked u k .takeActive true ∈ after) ∧
    ∀ before t n h draining timeout rest,
      history = before ++ .asked t n (.wait h draining timeout) (.ok .stopped) :: rest →
        ∃ after u k, Window commands t n before after ∧ Ran commands u k after := by
  refine ⟨?_, ?_, ?_, ?_⟩
  · intro t n after window
    exact told_in_window cfg idle run window
  · rintro before u k found rest rfl -
    exact found_iff_window cfg idle run
  · rintro before u k rest rfl
    exact window_of_notified cfg idle run
  · rintro before t n h draining timeout rest rfl
    obtain ⟨here, after, front, -, watched, window⟩ := window_of_wait cfg idle run
    have readable : here.shared.wakeup.held ≠ [] := (Wakeup.signalled_iff _).1 (polls _ watched)
    obtain ⟨u, k, ran⟩ := (told_in_window cfg idle front window).1.1 readable
    exact ⟨after, u, k, window, ran⟩

/-! ### One sample -/

/-- One sample. -/
def oneSample : Track := ⟨16, 1, 8000, [1]⟩

/-- It is two bytes. -/
theorem bytes_oneSample (volume : Int) : ∃ a b : UInt8,
    padded 0 (Sample.toBytes (Sample.scale oneSample.samples volume) oneSample.bits .native .signed) = [a, b] :=
  ⟨_, _, rfl⟩

/-- One thread plays the sample again and again, the other one stops. -/
def playAndStop (thread : Bool) (_ : Nat) : Command := if thread then .play oneSample {} else .stop

/-- A device on which few rounds go by. -/
def sim : Config := { device := "sim", stallLimit := 1, idleRounds := 2 }

/-- A device that polls the wakeup, and ends a wait by a stop if and only if it is readable. -/
def polling : Watch := fun signalled answer => answer = .ok .stopped ↔ signalled = true

/-- A device lies in the slot. -/
def furnished : Shared Bool := { slot := some 0, wakeup := { capacity := 8 } }

theorem idle_furnished : Idle furnished := ⟨rfl, rfl, rfl, by decide⟩

/-- A stop comes before the play and finds no mark; two more come while it is active, and then its wait ends. -/
theorem run_stopped : ∃ (before : Past Bool)
      (now : State (fun _ => Poll.Interface) (fun _ => Except PlayError Unit) (Shared Bool)),
    Run (calls (output sim) playAndStop) (reacts polling) furnished
      (before ++ [.asked true 0 (.wait 0 false 1) (.ok .stopped)]) now := by
  obtain ⟨a, b, bytes⟩ := bytes_oneSample 0
  have playing := congrArg (playBytes sim 0) bytes
  have run : Run (calls (output sim) playAndStop) (reacts polling) furnished [] _ := .start
  rw [pair_start] at run
  replace run := run.second rfl false .takeActive
  replace run := run.second rfl () .putActive
  replace run := run.secondDone rfl
  replace run := run.first rfl (some 0) .takeDevice
  replace run := run.first rfl (Except.ok ⟨16, 1, 8000⟩ : Except Failure Paced.StreamParams) rfl
  replace run := run.first rfl (0 : Nat) rfl
  replace run := run.first (playing.trans rfl) () rfl
  replace run := run.first rfl false .takeActive
  replace run := run.first rfl () .clearWakeup
  replace run := run.first rfl () .putActive
  replace run := run.second rfl true .takeActive
  replace run := run.second rfl () rfl
  replace run := run.second rfl () .notifyWakeup
  replace run := run.second rfl () .putActive
  replace run := run.secondDone rfl
  replace run := run.second rfl true .takeActive
  replace run := run.second rfl () rfl
  replace run := run.second rfl () .notifyWakeup
  replace run := run.second rfl () .putActive
  replace run := run.first rfl (Except.ok 2 : Except Failure Nat) rfl
  replace run := run.first rfl (Except.ok .stopped : Except Failure Readiness)
    (.wait (iff_of_true rfl (Wakeup.signalled_notify (by simp))))
  exact ⟨_, _, run⟩

/-- The wait has been ended by a stop in the window of the play, and the wakeup stays readable. -/
theorem stop_in_window : ∃ (before after : Past Bool) (u : Bool) (k : Nat)
      (now : State (fun _ => Poll.Interface) (fun _ => Except PlayError Unit) (Shared Bool)),
    Run (calls (output sim) playAndStop) (reacts polling) furnished
      (before ++ [.asked true 0 (.wait 0 false 1) (.ok .stopped)]) now ∧
    Window playAndStop true 0 before after ∧ Ran playAndStop u k after ∧ now.shared.wakeup.held ≠ [] := by
  obtain ⟨before, now, run⟩ := run_stopped
  obtain ⟨tells, -, -, stopped⟩ := wakeup_tells_stops sim (fun _ told => told.1 rfl) idle_furnished run
  obtain ⟨after, u, k, window, ran⟩ := stopped before true 0 0 false 1 [] rfl
  obtain ⟨held, -⟩ := tells true 0 _ (window.snoc nofun)
  exact ⟨before, after, u, k, now, run, window, ran, held.2 ⟨u, k, ran.later⟩⟩

end Playout.Poll
