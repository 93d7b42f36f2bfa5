import Playout.Live.Output
import Playout.Proofs.Device.Life

/-!
# `Playout.Proofs.Device.Lifecycle` — what holds of every device

What the invariants of a device mean for those who use it, for every run of its threads.

## Contents
- `TurnedAway`, `Declined` — calls that a device does not take.
- `Final` — a device is given up by the last one who uses it.
- `Lifecycle` — the rules of its life.

## Main statements
- `lifecycle` — they hold in every run.
- `closed_while_playing` — so they do where the device is closed while a play is beginning.
-/

namespace Playout.Device.Life

open Interleaving Program

variable {B : Playout.Interface} {T : Type} {σ : Type}

/-! ## Calls that are not taken -/

/-- A message, and then a result. -/
def saying (line : Line) (result : Except PlayError Unit) : Device.Action B (Except PlayError Unit) :=
  .ask (.log line) fun _ => .done result

/-- What is said of a play on a closed device. -/
def refusal (name : String) : Line := ⟨.error, "audio: play() on a closed " ++ name ++ " device"⟩

theorem goesOn_saying {line : Line} {result : Except PlayError Unit} {trace : Trace (Device.Interface B)}
    {p : Device.Action B (Except PlayError Unit)} (path : Path goesOn (saying line result) trace p) :
    (∀ r answer, ⟨r, answer⟩ ∈ trace → r = .log line) ∧ (p = saying line result ∨ p = .done result) := by
  rcases goesOn_ask path with ⟨rfl, rfl⟩ | ⟨answer, rest, rfl, ended⟩
  · exact ⟨nofun, .inl rfl⟩
  · obtain ⟨rfl, rfl⟩ := goesOn_done ended
    refine ⟨fun r _ only => ?_, .inr rfl⟩
    cases List.mem_singleton.1 only
    rfl

variable [DecidableEq T]

/-- The states of threads that use a device with an announcing output. -/
abbrev Now (T : Type) (B : Playout.Interface) (σ : Type) :=
  Interleaving.State (fun _ : T => Device.Interface (Announced B)) (fun _ => Except PlayError Unit) (Shared × σ)

/-- A play has asked whether it may begin and been told that it may not; it says that the device is closed, and that is
    its result. Neither the output nor the mark is touched. -/
structure TurnedAway (name : String) (told : Past T (Announced B)) (now : Now T B σ) (t : T) (n : Nat) : Prop where
  barred : .asked t n .enter false ∈ told
  asks : ∀ r answer, .asked t n r answer ∈ told → r = .enter ∨ r = .log (refusal name)
  rest : (now.call t).number = n →
    (now.call t).rest = saying (refusal name) (.error .closed) ∨ (now.call t).rest = .done (.error .closed)
  result : ∀ result, .returned t n result ∈ told → result = .error .closed

/-- A volume is turned down. This is logged, and nothing else happens. -/
structure Declined (told : Past T (Announced B)) (t : T) (n : Nat) (volume : Int) : Prop where
  asks : ∀ r answer, .asked t n r answer ∈ told → ∃ line, r = .log line
  result : ∀ result, .returned t n result ∈ told → result = .error (.volumeOutOfRange volume)

/-- The device is given up by the last one who uses it: when that begins, no call is being made. -/
structure Final (commands : T → Nat → Command) (told : Past T (Announced B)) (t : T) (n : Nat) : Prop where
  drops : commands t n = .drop
  last : ∀ before after r answer, told = before ++ .asked t n r answer :: after → own t n before = [] →
    ∀ u m, ¬ Running u m before

variable {backend : Surroundings (fun _ : T => B) σ} {o : Output B} {commands : T → Nat → Command} {w : σ}
  {told before after : Past T (Announced B)} {now : Now T B σ} {t : T} {n : Nat}

/-- A run of a device that has just been opened, with announcements. -/
abbrev Lived (o : Output B) (commands : T → Nat → Command) (backend : Surroundings (fun _ : T => B) σ) (w : σ)
    (told : Past T (Announced B)) (now : Now T B σ) : Prop :=
  Run (calls (announcing o) commands) (surroundings (hearing backend)) ({}, w) told now

namespace Lived

/-- What is shared is what the history tells. -/
theorem kept (run : Lived o commands backend w told now) : Kept now.shared.1 told := by
  obtain ⟨x, -, alive⟩ := Run.alive run
  exact alive.kept

/-- A request was a move from the phase that the call had come to. -/
theorem moved {r : Device.Request (Announced B)} {answer : Device.Request.Answer r}
    (run : Lived o commands backend w (before ++ .asked t n r answer :: after) now) :
    ∃ (there : Now T B σ) (s' : Shared) (φ φ' : Phase), Lived o commands backend w before there ∧
      Path lives (.fresh (commands t n)) (own t n before) φ ∧ Lives φ r answer φ' ∧
      Effect there.shared.1 r answer s' := by
  obtain ⟨there, next, shared, front, rfl, rest, answered⟩ := Run.asked run
  obtain ⟨x, follows, alive⟩ := Run.alive front
  obtain ⟨φ', move⟩ := (follows t).asked rest answer
  exact ⟨there, shared.1, x t, φ', front, alive.traced.running t, move, Answered.effect answered⟩

/-- What a call has done leads from its program to where it stands. -/
theorem path {command : Command} (run : Lived o commands backend w told now) (is : commands t n = command)
    (asked : own t n told ≠ []) : ∃ p, Path goesOn (command.program (announcing o)) (own t n told) p := by
  obtain ⟨p, path, -⟩ := run.stands asked
  exact ⟨p, is ▸ path⟩

/-- And if it has returned, to its result. -/
theorem path_of_returned {command : Command} {result : Except PlayError Unit}
    (run : Lived o commands backend w told now) (is : commands t n = command) (returned : .returned t n result ∈ told) :
    Path goesOn (command.program (announcing o)) (own t n told) (.done result) := by
  obtain ⟨-, p, path, done⟩ := run.gone.ended t n result returned
  exact is ▸ done ▸ path

/-! ### Plays on a closed device -/

/-- What a play does that was told that the device is closed. -/
theorem goesOn_play {track : Track} {order : ByteOrder} {rest : Trace (Device.Interface (Announced B))}
    {p : Device.Action (Announced B) (Except PlayError Unit)}
    (path : Path goesOn (Command.program (announcing o) (.play track order)) (⟨.enter, false⟩ :: rest) p) :
    Path goesOn (saying (refusal o.name) (.error .closed)) rest p := by
  rcases goesOn_ask path with ⟨no, -⟩ | ⟨answer, rest', same, refused⟩
  · cases no
  · cases same
    exact refused

theorem turnedAway {entered : Bool} (run : Lived o commands backend w (before ++ .asked t n .enter entered :: after) now)
    (closed : Shut before) : TurnedAway o.name (before ++ .asked t n .enter entered :: after) now t n := by
  obtain ⟨there, s', φ, φ', front, path, move, effect⟩ := run.moved
  have shut := front.kept.closed.2 closed
  -- It is a play, and this is the first that it asks.
  obtain ⟨track, order, plays, silent⟩ : ∃ track order, commands t n = .play track order ∧ own t n before = [] := by
    cases move with
    | @enter track order | @barred track order =>
      obtain ⟨same, silent⟩ := (Begun.of_path path).fresh _ rfl
      exact ⟨track, order, same.symm, silent⟩
  obtain rfl : entered = false := by
    cases effect with
    | entered unclosed => exact absurd shut unclosed
    | barred => rfl
  generalize whole : before ++ .asked t n .enter false :: after = told at run
  have trace : own t n told = ⟨.enter, false⟩ :: own t n after := by
    rw [← whole, own_append, silent, List.nil_append, ← List.singleton_append, own_append, own_asked_self]
    rfl
  have asked : own t n told ≠ [] := trace ▸ List.cons_ne_nil _ _
  refine ⟨?_, fun r answer asks => ?_, fun number => ?_, fun result returned => ?_⟩
  · rw [← mem_own, trace]
    exact List.mem_cons_self
  · obtain ⟨p, path⟩ := run.path plays asked
    rw [trace] at path
    rw [← mem_own, trace, List.mem_cons] at asks
    rcases asks with first | later
    · cases first
      exact .inl rfl
    · exact .inr ((goesOn_saying (goesOn_play path)).1 r answer later)
  · subst number
    have path := run.gone.running t
    unfold calls at path
    rw [plays, trace] at path
    exact (goesOn_saying (goesOn_play path)).2
  · have path := run.path_of_returned plays returned
    rw [trace] at path
    rcases (goesOn_saying (goesOn_play path)).2 with unsaid | said
    · cases unsaid
    · cases said
      rfl

/-- The first that a play asks is whether it may begin. -/
theorem enters {r : Device.Request (Announced B)} {answer : Device.Request.Answer r}
    (run : Lived o commands backend w (before ++ .asked t n r answer :: after) now) (plays : Plays commands t n)
    (silent : own t n before = []) : r = .enter := by
  obtain ⟨there, s', φ, φ', front, path, move, -⟩ := run.moved
  obtain ⟨track, order, is⟩ := plays
  rw [silent, is] at path
  obtain rfl := path.eq_of_nil
  cases move with
  | enter | barred => rfl
  | shut closes | shutBefore closes => rcases closes with no | no <;> cases no

/-! ### Volumes -/

theorem program_of_out {volume : Int} (out : Sample.volumeInRange volume = false) :
    ∃ line, Command.program (announcing o) (.setVolume volume) = saying line (.error (.volumeOutOfRange volume)) :=
  ⟨_, if_neg (by simp [out])⟩

theorem declined {volume : Int} (run : Lived o commands backend w told now) (sets : commands t n = .setVolume volume)
    (out : Sample.volumeInRange volume = false) : Declined told t n volume := by
  obtain ⟨line, program⟩ := program_of_out (o := o) out
  refine ⟨fun r answer asks => ?_, fun result returned => ?_⟩
  · rw [← mem_own] at asks
    obtain ⟨p, path⟩ := run.path sets (List.ne_nil_of_mem asks)
    rw [program] at path
    exact ⟨line, (goesOn_saying path).1 r answer asks⟩
  · have path := run.path_of_returned sets returned
    rw [program] at path
    rcases (goesOn_saying path).2 with unsaid | said
    · cases unsaid
    · cases said
      rfl

/-- Before the output plays, the volume that it is given has been read. -/
theorem read_of_path {command : Command} {trace : Trace (Device.Interface (Announced B))} {φ : Phase}
    (path : Path lives (.fresh command) trace φ) :
    ∀ volume, φ = .told volume → ∃ front, trace = front ++ [⟨Request.volume, volume⟩] := by
  refine path.keeps (fun trace φ => ∀ volume, φ = .told volume → ∃ front, trace = front ++ [⟨Request.volume, volume⟩]) nofun ?_
  intro trace φ r answer φ' _ move
  cases move with
  | read =>
    rintro _ ⟨⟩
    exact ⟨trace, rfl⟩
  | _ => exact nofun

/-- A play reads the volume, and it is what the device keeps; and with it the output plays next. -/
theorem given {track : Track} {settings : PlaySettings}
    (run : Lived o commands backend w (before ++ .asked t n (.output (.used (.play track settings))) () :: after) now) :
    ∃ b a : Past T (Announced B), before = b ++ .asked t n .volume settings.volume :: a ∧ own t n a = [] ∧
      stored b = settings.volume := by
  obtain ⟨there, s', φ, φ', front, path, move, -⟩ := run.moved
  obtain rfl : φ = .told settings.volume := by
    cases move with
    | play same => rw [same]
    | use minor => cases minor
  obtain ⟨trace, read⟩ := read_of_path path _ rfl
  obtain ⟨b, a, rfl, -, silent⟩ := moment_of_own read
  obtain ⟨there, s', _, _, front, -, -, effect⟩ := front.moved
  refine ⟨b, a, rfl, silent, ?_⟩
  rw [← front.kept.volume]
  generalize settings.volume = volume at effect
  cases effect
  rfl

/-! ### The end -/

/-- A device that is given up has asked to be closed, and if it was not before, has closed its output. -/
theorem goesOn_drop {trace : Trace (Device.Interface (Announced B))} {result : Except PlayError Unit}
    (path : Path goesOn (Command.program (announcing o) .drop) trace (.done result)) :
    ∃ first rest, trace = ⟨.shut, first⟩ :: rest ∧ (first = true → ⟨.output (.used .close), ()⟩ ∈ rest) := by
  rcases goesOn_ask path with ⟨-, no⟩ | ⟨first, rest, rfl, later⟩
  · cases no
  · refine ⟨first, rest, rfl, ?_⟩
    rintro rfl
    rcases goesOn_ask later with ⟨-, no⟩ | ⟨_, rest, rfl, -⟩
    · cases no
    · exact List.mem_cons_self

/-- Whoever gives the device up last, its output has been closed then. -/
theorem closings_of_final {result : Except PlayError Unit} (run : Lived o commands backend w told now)
    (final : Final commands told t n) (returned : .returned t n result ∈ told) : closings told = 1 := by
  obtain ⟨first, rest, trace, closed⟩ := goesOn_drop (run.path_of_returned final.drops returned)
  obtain ⟨x, -, alive⟩ := Run.alive run
  have atMost : closings told ≤ 1 := alive.once.closings_le
  refine Nat.le_antisymm atMost ?_
  cases first with
  | true =>
    -- It has closed the output itself.
    have mem : .asked t n (.output (.used .close)) () ∈ told :=
      mem_own.1 (trace ▸ List.mem_cons_of_mem _ (closed rfl))
    exact List.countP_pos_iff.2 ⟨_, mem, rfl⟩
  | false =>
    -- It had been closed before, by a call that was over when the last one began.
    rw [← List.nil_append (_ :: rest)] at trace
    obtain ⟨before, after, rfl, silent, -⟩ := moment_of_own trace
    obtain ⟨there, s', φ, φ', front, -, -, effect⟩ := run.moved
    have shut : Shut before := by
      rw [← front.kept.closed]
      cases effect
      assumption
    obtain ⟨x, -, alive⟩ := Run.alive front
    have idle := final.last before after .shut false rfl silent
    have earlier : closings before = 1 := by
      cases alive.once with
      | unclosed never => exact absurd shut never
      | closing u here =>
        exact absurd (running_of_unfresh alive.traced (here ▸ nofun)) (idle u _)
      | closed _ once => exact once
    rw [← earlier]
    exact (List.sublist_append_left before _).countP_le

/-! ### While nobody plays -/

/-- If one thread plays at a time and none does now, the device is not marked as playing. -/
theorem quiet (run : Lived o commands backend w told now) (solo : Solo commands told)
    (idle : ∀ t n, Plays commands t n → ¬ Running t n told) :
    now.shared.1.working = false ∧ (now.shared.1.state = .open ∨ now.shared.1.state = .closed) := by
  obtain ⟨x, -, alive⟩ := Run.alive run
  cases alive.alone solo with
  | resting _ unmarked still =>
    refine ⟨unmarked, ?_⟩
    cases state : now.shared.1.state with
    | «open» => exact .inl rfl
    | closed => exact .inr rfl
    | playing => exact absurd state still
  | playing t fits =>
    obtain ⟨plays, running⟩ := plays_of_engaged alive.traced fits.engaged
    exact absurd running (idle t _ plays)

end Lived

/-! ## The rules -/

/-- The life of a device. -/
structure Lifecycle (o : Output B) (commands : T → Nat → Command) (backend : Surroundings (fun _ : T => B) σ) (w : σ)
    (told : Past T (Announced B)) (now : Now T B σ) : Prop where
  /-- Once closed, it is closed for ever. -/
  absorbing : ∀ before after there, told = before ++ after → Lived o commands backend w before there →
    there.shared.1.state = .closed → now.shared.1.state = .closed
  /-- A play that comes to it then is turned away, -/
  turnedAway : ∀ before after t n entered there, told = before ++ .asked t n .enter entered :: after →
    Lived o commands backend w before there → there.shared.1.state = .closed → TurnedAway o.name told now t n
  /-- and so is every play that has asked nothing before, whatever it asks for then. -/
  latecomer : ∀ before after t n r answer there, told = before ++ .asked t n r answer :: after → Plays commands t n →
    own t n before = [] → Lived o commands backend w before there → there.shared.1.state = .closed →
      TurnedAway o.name told now t n
  /-- Its output is closed at most once, -/
  closedAtMostOnce : closings told ≤ 1
  /-- and when the device has been given up, it has been. -/
  closedOnce : ∀ t n result, Final commands told t n → .returned t n result ∈ told → closings told = 1
  /-- The volume is in range, -/
  inRange : Sample.volumeMin ≤ now.shared.1.volume ∧ now.shared.1.volume ≤ Sample.volumeMax
  /-- one that is not is turned down, -/
  declined : ∀ t n volume, commands t n = .setVolume volume →
    ¬ (Sample.volumeMin ≤ volume ∧ volume ≤ Sample.volumeMax) → Declined told t n volume
  /-- and the output is given the one that is stored when the play reads it, which is the last that it does before; unless
      another one is stored meanwhile, it is stored when the output plays. -/
  given : ∀ before after t n track settings,
    told = before ++ .asked t n (.output (.used (.play track settings))) () :: after →
      ∃ b a : Past T (Announced B), before = b ++ .asked t n .volume settings.volume :: a ∧ own t n a = [] ∧
        (∀ there, Lived o commands backend w b there → there.shared.1.volume = settings.volume) ∧
        ((∀ u m volume, .asked u m (.storeVolume volume) () ∉ a) →
          ∀ there, Lived o commands backend w before there → there.shared.1.volume = settings.volume)
  /-- If one thread plays at a time, the device is not marked as playing and not in that state while nobody plays. -/
  quiet : Solo commands told → (∀ t n, Plays commands t n → ¬ Running t n told) →
    now.shared.1.working = false ∧ (now.shared.1.state = .open ∨ now.shared.1.state = .closed)

/-- What every run with announcements keeps to. -/
theorem Lived.rules (run : Lived o commands backend w told now) : Lifecycle o commands backend w told now where
  absorbing := by
    rintro before after there rfl front closed
    obtain ⟨e, mem, shuts⟩ := front.kept.closed.1 closed
    exact run.kept.closed.2 ⟨e, List.mem_append_left _ mem, shuts⟩
  turnedAway := by
    rintro before after t n entered there rfl front closed
    exact run.turnedAway (front.kept.closed.1 closed)
  latecomer := by
    rintro before after t n r answer there rfl plays silent front closed
    obtain rfl := run.enters plays silent
    exact run.turnedAway (front.kept.closed.1 closed)
  closedAtMostOnce := by
    obtain ⟨x, -, alive⟩ := Run.alive run
    exact alive.once.closings_le
  closedOnce _ _ _ final returned := run.closings_of_final final returned
  inRange := by
    obtain ⟨x, -, alive⟩ := Run.alive run
    simpa [Sample.volumeInRange] using alive.inRange
  declined t n volume sets out := run.declined sets (by simpa [Sample.volumeInRange] using out)
  given := by
    rintro before after t n track settings rfl
    obtain ⟨b, a, rfl, silent, is⟩ := run.given
    refine ⟨b, a, rfl, silent, fun there front => front.kept.volume.trans is, fun unstored there front => ?_⟩
    refine front.kept.volume.trans (Eq.trans (stored_append ?_) is)
    rintro e (_ | ⟨_, mem⟩)
    · rfl
    · cases stored : stores e with
      | none => rfl
      | some volume =>
        obtain ⟨u, m, rfl⟩ := stores_eq_some stored
        exact absurd mem (unstored u m volume)
  quiet solo idle := run.quiet solo idle

/-- **Lifecycle.** Threads may do whatever they like with a device, in any order, over any output: in every run, with the
    announcements of the output put in at any moment, the rules of the device's life hold. -/
theorem lifecycle {history : Past T B}
    {s : Interleaving.State (fun _ : T => Device.Interface B) (fun _ => Except PlayError Unit) (Shared × σ)}
    (run : Run (calls o commands) (surroundings backend) ({}, w) history s) :
    (∃ told now, Announces o commands backend ({}, w) told now history s) ∧
      ∀ told now, Announces o commands backend ({}, w) told now history s →
        Lifecycle o commands backend w told now :=
  ⟨Run.announced run, fun _ _ announces => Lived.rules announces.run⟩

/-! ### A device that is closed while a play is beginning -/

/-- A track of no length. -/
def silence : Track := ⟨16, 1, 8000, []⟩

/-- One thread plays. The other one closes the device, sets a volume that is out of range, and gives the device up. -/
def playAndClose : Bool → Nat → Command
  | true, _ => .play silence .native
  | false, 0 => .close
  | false, 1 => .setVolume 101
  | false, _ => .drop

/-- Until the device has been closed by the one thread and its output has played to the other one. -/
def interrupted : Past Bool (Announced Live.Interface) :=
  [.asked true 0 .enter true, .asked false 0 .shut true, .asked true 0 (.setWorking true) (),
    .asked true 0 .volume (0 : Int), .asked true 0 (.output (.used (.play silence {}))) (),
    .asked true 0 (.output (.own (.setStop false))) (), .asked false 0 (.output (.used .close)) (),
    .asked false 0 (.output (.own (.setStop true))) (), .asked false 0 (.output (.own .takeStream)) none,
    .asked false 0 (.output (.own (.putStream none))) (),
    .asked false 0 (.log ⟨.debug, "audio: closed cpal output"⟩) (), .returned false 0 (.ok ()),
    .asked true 0 (.setWorking false) (), .asked true 0 .leave (), .returned true 0 (.ok ())]

theorem run_interrupted : Lived Live.output playAndClose anyAnswer () interrupted
    (pair ({ state := .closed }, ()) 1 (calls (announcing Live.output) playAndClose true 1) 1
      (calls (announcing Live.output) playAndClose false 1)) := by
  have run : Lived Live.output playAndClose anyAnswer () [] _ := .start
  rw [pair_start] at run
  replace run := run.first rfl true (.device rfl)
  replace run := run.second rfl true (.device rfl)
  replace run := run.first rfl () (.device rfl)
  replace run := run.first rfl (0 : Int) (.device rfl)
  replace run := run.first rfl () .used
  replace run := run.first rfl () (.own anyAnswer_any)
  replace run := run.second rfl () .used
  replace run := run.second rfl () (.own anyAnswer_any)
  replace run := run.second rfl none (.own anyAnswer_any)
  replace run := run.second rfl () (.own anyAnswer_any)
  replace run := run.second rfl () rfl
  replace run := run.secondDone rfl
  replace run := run.first rfl () (.device rfl)
  replace run := run.first rfl () (.device rfl)
  exact run.firstDone rfl

/-- Nothing else plays: the first thread plays again and is turned away, and the volume is turned down. -/
def refused : Past Bool (Announced Live.Interface) :=
  [.asked true 1 .enter false, .asked true 1 (.log (refusal "cpal")) (), .returned true 1 (.error .closed),
    .asked false 1 (.log ⟨.warning, "audio: volume 101 out of range (-100..=100)"⟩) (),
    .returned false 1 (.error (.volumeOutOfRange 101))]

theorem run_refused : Lived Live.output playAndClose anyAnswer () (interrupted ++ refused)
    (pair ({ state := .closed }, ()) 2 (calls (announcing Live.output) playAndClose true 2) 2
      (calls (announcing Live.output) playAndClose false 2)) := by
  have run := run_interrupted
  replace run := run.first rfl false (.device rfl)
  replace run := run.first rfl () rfl
  replace run := run.firstDone rfl
  replace run := run.second rfl () rfl
  exact run.secondDone rfl

/-- The device is given up. -/
def givenUp : Past Bool (Announced Live.Interface) :=
  [.asked false 2 .shut false, .asked false 2 (.output (.used .dropped)) (),
    .asked false 2 (.output (.own .takeStream)) none, .asked false 2 (.output (.own (.putStream none))) (),
    .returned false 2 (.ok ())]

theorem run_givenUp :
    ∃ now, Lived Live.output playAndClose anyAnswer () (interrupted ++ refused ++ givenUp) now ∧
      (∀ t, (now.call t).number = if t then 2 else 3) := by
  have run := run_refused
  replace run := run.second rfl false (.device rfl)
  replace run := run.second rfl () .used
  replace run := run.second rfl none (.own anyAnswer_any)
  replace run := run.second rfl () (.own anyAnswer_any)
  exact ⟨_, run.secondDone rfl, fun t => by cases t <;> rfl⟩

/-- When it is given up no call is being made. -/
theorem final_givenUp : Final playAndClose (interrupted ++ refused ++ givenUp) false 2 where
  drops := rfl
  last := by
    intro before after r answer same silent u m running
    obtain rfl := beginning_unique same rfl silent
    obtain rfl := run_refused.number_of_running running
    cases u <;> exact running.1 rfl

theorem eq_true_of_plays {t : Bool} {n : Nat} (plays : Plays playAndClose t n) : t = true := by
  obtain ⟨track, order, plays⟩ := plays
  cases t with
  | true => rfl
  | false => rcases n with _ | _ | _ <;> cases plays

/-- The one thread closes the device while a play of the other one is beginning. The output is closed once; the next play
    asks to begin and is turned away, and the volume is turned down; in the end the device is closed and not marked. -/
theorem closed_while_playing : ∃ (history : Past Bool Live.Interface)
      (s : Interleaving.State (fun _ : Bool => Device.Interface Live.Interface) (fun _ => Except PlayError Unit)
        (Shared × Unit)) (told : Past Bool (Announced Live.Interface)) (now : Now Bool Live.Interface Unit),
    Run (calls Live.output playAndClose) (surroundings anyAnswer) ({}, ()) history s ∧
    Announces Live.output playAndClose anyAnswer ({}, ()) told now history s ∧
    .asked false 0 .shut true ∈ told ∧ closings told = 1 ∧ .asked true 1 .enter false ∈ told ∧
    TurnedAway "cpal" told now true 1 ∧ Declined told false 1 101 ∧ now.shared.1.working = false ∧
    now.shared.1.state = .closed := by
  obtain ⟨now, run, numbers⟩ := run_givenUp
  obtain ⟨history, s, plain, announces⟩ := Run.unannounced run
  have rules := (lifecycle plain).2 _ _ announces
  have shut : Shut interrupted := ⟨.asked false 0 .shut true, by simp [interrupted], rfl⟩
  have turnedAway : TurnedAway "cpal" (interrupted ++ refused ++ givenUp) now true 1 :=
    rules.latecomer interrupted _ true 1 .enter false _ rfl ⟨silence, .native, rfl⟩ rfl run_interrupted
      (Lived.kept run_interrupted |>.closed.2 shut)
  refine ⟨history, s, _, now, plain, announces, by simp [interrupted], ?_, turnedAway.barred, turnedAway, ?_, ?_, ?_⟩
  · exact rules.closedOnce false 2 (.ok ()) final_givenUp (by simp [givenUp])
  · exact rules.declined false 1 101 rfl (by decide)
  · refine (rules.quiet ?_ fun t n plays running => ?_).1
    · exact fun _ _ _ t n u m plays plays' _ _ => (eq_true_of_plays plays).trans (eq_true_of_plays plays').symm
    · obtain rfl := eq_true_of_plays plays
      obtain rfl : n = 2 := (run.number_of_running running).symm.trans (numbers true)
      exact running.1 rfl
  · exact rules.absorbing interrupted _ _ (List.append_assoc ..) run_interrupted rfl

end Playout.Device.Life
