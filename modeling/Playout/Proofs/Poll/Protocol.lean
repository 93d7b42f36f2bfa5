import Playout.Poll.Output
import Playout.Proofs.Transport.World

/-!
# `Playout.Proofs.Poll.Protocol` — a playback that waits for its device

A play takes the device out of its slot, or opens one, agrees on the parameters, and marks itself as active. Then it
writes and waits in turns, and once all is written it waits for the device to drain. When the mark is taken off, the
device goes back into the slot, unless the playback has failed. A stop looks at the mark under its lock and wakes the
player if it finds it; a close empties the slot.

## Contents
- `Phase`, `Turn` — the protocol of one call.
- `Stage`, `Move` — phases with the number of messages that may pass without a turn.
- `accepts`, `enter`, `Ends`, `Ended` — where a call begins, and where it may end.
- `await_follows`, `stream_follows`, `playOn_follows`, `play_follows`, `stop_follows`, `close_follows` — the programs of
  the output keep to the protocol.
- `follows` — so does every command.
-/

namespace Playout.Poll

open Transport Program

/-! ## The protocol -/

/-- Where a call stands. -/
inductive Phase where
  /-- A play that is turned away before it touches the slot. -/
  | barred
  | entered
  /-- The slot was empty, and a device has to be opened. -/
  | vacant
  /-- The device is at hand, and the parameters are to be agreed on. -/
  | held (h : Handle)
  /-- There was no agreement, and the device has to go. -/
  | spurned (h : Handle)
  | granted (h : Handle)
  /-- All is ready for the mark. -/
  | agreed (h : Handle)
  /-- The lock of the mark is taken, and old wakeups are to be thrown away. -/
  | marking (h : Handle)
  | swept (h : Handle)
  /-- The mark is set, and there may be more to write. -/
  | feeding (h : Handle)
  | waiting (h : Handle) (draining : Bool)
  /-- The loop has been left, without a failure or with one. -/
  | ceased (h : Handle) (fine : Bool)
  /-- The lock of the mark is taken in order to take the mark off. -/
  | unmarking (h : Handle) (fine : Bool)
  | tidying (h : Handle) (fine : Bool)
  | tidied (h : Handle) (fine : Bool)
  /-- The slot has to be left empty. -/
  | emptied
  /-- The slot is done with, and whether a device was left in it. -/
  | gone (kept : Bool)
  /-- A stop that has not looked at the mark yet. -/
  | called
  /-- The lock of the mark is taken, and this is what the mark was. -/
  | locked (active : Bool)
  | notified
  | heard
  /-- A close that has not come to the slot yet. -/
  | closing
  /-- The slot is being emptied. -/
  | doomed (h : Handle)
  | bare
  | shut

/-- The requests that lead from phase to phase. -/
inductive Turn : Phase → (r : Poll.Request) → Poll.Request.Answer r → Phase → Prop where
  -- The device is taken or opened, and its parameters are agreed on.
  | found {h} : Turn .entered .takeDevice (some h) (.held h)
  | unfilled : Turn .entered .takeDevice none .vacant
  | opened {device h} : Turn .vacant (.openDevice device) (.ok h) (.held h)
  | refused {device failure} : Turn .vacant (.openDevice device) (.error failure) .emptied
  | spurned {h wanted answer} : Turn (.held h) (.configure h wanted) answer (.spurned h)
  | granted {h wanted params} : Turn (.held h) (.configure h wanted) (.ok params) (.granted h)
  | measured {h period} : Turn (.granted h) (.periodLength h) period (.agreed h)
  -- The mark is set without old wakeups.
  | lock {h active} : Turn (.agreed h) .takeActive active (.marking h)
  | sweep {h} : Turn (.marking h) .clearWakeup () (.swept h)
  | mark {h} : Turn (.swept h) (.putActive true) () (.feeding h)
  -- Writing and waiting take turns.
  | wrote {h bytes taken} : Turn (.feeding h) (.write h bytes) (.ok taken) (.waiting h false)
  | tore {h bytes failure} : Turn (.feeding h) (.write h bytes) (.error failure) (.ceased h false)
  | drain {h line} : Turn (.feeding h) (.log line) () (.waiting h true)
  | ready {h timeout} : Turn (.waiting h false) (.wait h false timeout) (.ok .ready) (.feeding h)
  | drained {h timeout} : Turn (.waiting h true) (.wait h true timeout) (.ok .ready) (.ceased h true)
  | halted {h draining timeout} :
      Turn (.waiting h draining) (.wait h draining timeout) (.ok .stopped) (.ceased h true)
  | stalled {h draining timeout} :
      Turn (.waiting h draining) (.wait h draining timeout) (.ok .timedOut) (.ceased h false)
  | lost {h draining timeout failure} :
      Turn (.waiting h draining) (.wait h draining timeout) (.error failure) (.ceased h false)
  -- The mark is taken off, and the slot is left with the device or without one.
  | relock {h fine active} : Turn (.ceased h fine) .takeActive active (.unmarking h fine)
  | unmark {h fine} : Turn (.unmarking h fine) (.putActive false) () (.tidying h fine)
  | tidied {h fine answer} : Turn (.tidying h fine) (.dropPending h) answer (.tidied h fine)
  | kept {h} : Turn (.tidied h true) (.putDevice (some h)) () (.gone true)
  | condemned {h} : Turn (.tidied h false) (.releaseDevice h) () .emptied
  | released {h} : Turn (.spurned h) (.releaseDevice h) () .emptied
  | left : Turn .emptied (.putDevice none) () (.gone false)
  -- A stop wakes the player if the mark is set, and leaves the mark as it is.
  | enter {active} : Turn .called .takeActive active (.locked active)
  | notify : Turn (.locked true) .notifyWakeup () .notified
  | heeded : Turn .notified (.putActive true) () .heard
  | unheeded : Turn (.locked false) (.putActive false) () .heard
  -- A close empties the slot.
  | close {h} : Turn .closing .takeDevice (some h) (.doomed h)
  | closed : Turn .closing .takeDevice none .bare
  | doomed {h} : Turn (.doomed h) (.releaseDevice h) () .bare
  | shut : Turn .bare (.putDevice none) () .shut

/-- How many messages at most pass in a phase before a turn. -/
def Phase.patience : Phase → Nat
  | tidied .. => 2
  | barred | spurned _ | granted _ | agreed _ | ceased .. | tidying .. | emptied | locked _ | shut => 1
  | _ => 0

/-- Where a call stands, and how many messages may still pass without a turn. -/
structure Stage where
  phase : Phase
  patience : Nat

/-- The stage right after a turn. -/
def Stage.reach (φ : Phase) : Stage := ⟨φ, φ.patience⟩

/-- A turn, or a message. -/
inductive Move : Stage → (r : Poll.Request) → Poll.Request.Answer r → Stage → Prop where
  | turn {φ left r answer φ'} (turn : Turn φ r answer φ') : Move ⟨φ, left⟩ r answer (.reach φ')
  | log {φ left line} : Move ⟨φ, left + 1⟩ (.log line) () ⟨φ, left⟩

/-- The protocol. -/
def moves : Moves Poll.Interface Stage := fun s r answer s' => Move s r answer s'

/-! ## Beginning and end -/

/-- The tracks that are played. -/
def accepts (track : Track) : Bool := !track.isEmpty && track.validate.isOk

theorem accepts_iff {track : Track} :
    accepts track = true ↔ track.isEmpty = false ∧ ∃ width, track.validate = .ok width := by
  unfold accepts
  cases track.isEmpty <;> cases track.validate <;> simp [Except.isOk, Except.toBool]

/-- Where a command begins. -/
def enter : Command → Phase
  | .play track _ => if accepts track then .entered else .barred
  | .stop => .called
  | .close => .closing

theorem enter_play {track : Track} (accepted : accepts track = true) (settings : PlaySettings) :
    enter (.play track settings) = .entered := if_pos accepted

theorem enter_refused {track : Track} (refused : ¬ accepts track = true) (settings : PlaySettings) :
    enter (.play track settings) = .barred := if_neg refused

/-- Where a command may end. The result of a play tells whether a device was left in the slot, unless there was
    nothing to play. -/
def Ends : Command → Stage → Except PlayError Unit → Prop
  | .play _ _, ⟨.gone kept, _⟩, result => result.isOk = kept
  | .play track _, ⟨.barred, _⟩, _ => ¬ accepts track = true
  | .stop, ⟨.heard, _⟩, _ => True
  | .close, ⟨.shut, _⟩, _ => True
  | _, _, _ => False

/-- Where any command may end. -/
def Ended (s : Stage) (result : Except PlayError Unit) : Prop :=
  match s.phase with
  | .gone kept => result.isOk = kept
  | .barred | .heard | .shut => True
  | _ => False

theorem Ends.ended {command : Command} {s : Stage} {result : Except PlayError Unit} (ends : Ends command s result) :
    Ended s result := by
  obtain ⟨φ, left⟩ := s
  cases command <;> cases φ <;> first | exact ends | trivial

/-! ## Single requests -/

variable {α : Type} {φ : Phase} {left : Nat} {r : Poll.Request} {next : Poll.Request.Answer r → Action α}
  {ends : Stage → α → Prop} {h : Handle}

/-- A request that is a turn, whatever the answer. -/
theorem turn (φ' : Phase) (turns : ∀ answer, Turn φ r answer φ')
    (rest : ∀ answer, (next answer).Follows moves ends (.reach φ')) :
    (Program.ask r next).Follows moves ends ⟨φ, left⟩ :=
  fun answer => ⟨_, .turn (turns answer), rest answer⟩

/-- A message. -/
theorem message {line : Line} {next : Unit → Action α} (rest : (next ()).Follows moves ends ⟨φ, left⟩) :
    (Program.ask (I := Poll.Interface) (.log line) next).Follows moves ends ⟨φ, left + 1⟩ :=
  fun _ => ⟨_, .log, rest⟩

/-! ## The loop -/

/-- After a wait the loop goes on, or it is over. -/
def Awaited (h : Handle) (draining : Bool) (s : Stage) : Except PlayError Bool → Prop
  | .ok false => s = .reach (if draining then .ceased h true else .feeding h)
  | .ok true => s = .reach (.ceased h true)
  | .error _ => s.phase = .ceased h false

theorem await_follows (cfg : Config) (draining : Bool) :
    (await cfg h draining).Follows moves (Awaited h draining) ⟨.waiting h draining, left⟩ := by
  rintro (failure | (_ | _ | _))
  · exact ⟨_, .turn .lost, message (Follows.done rfl)⟩
  · cases draining with
    | true => exact ⟨_, .turn .drained, Follows.done rfl⟩
    | false => exact ⟨_, .turn .ready, Follows.done rfl⟩
  · exact ⟨_, .turn .halted, Follows.done rfl⟩
  · exact ⟨_, .turn .stalled, message (Follows.done rfl)⟩

/-- The loop is over, and its outcome says how. -/
def Streamed (h : Handle) (s : Stage) (outcome : Except PlayError Bool) : Prop := s.phase = .ceased h outcome.isOk

theorem stream_follows (cfg : Config) (rounds : Nat) (bytes : List UInt8) :
    (stream cfg h rounds bytes).Follows moves (Streamed h) (.reach (.feeding h)) := by
  -- One round is a write and a wait; the last one is a message and a wait.
  induction rounds generalizing bytes with
  | zero => trivial
  | succ rounds ih =>
    unfold stream
    split
    · refine turn _ (fun _ => .drain) fun _ => ?_
      refine Follows.weaken (await_follows cfg true) ?_
      rintro s (error | (_ | _)) awaited
      · exact awaited
      · exact congrArg Stage.phase awaited
      · exact congrArg Stage.phase awaited
    · rintro (failure | taken)
      · exact ⟨_, .turn .tore, message (Follows.done rfl)⟩
      · refine ⟨_, .turn .wrote, ?_⟩
        simp only [done_bind]
        refine Follows.bind (await_follows cfg false) ?_
        rintro s (error | (_ | _)) awaited
        · exact Follows.done awaited
        · obtain rfl := awaited
          exact ih _
        · exact Follows.done (congrArg Stage.phase awaited)

/-! ## The calls -/

theorem negotiate_follows (wanted : Paced.StreamParams) :
    (negotiate h wanted).Follows moves
      (fun s outcome => if outcome.isOk then s.phase = .granted h else s.phase = .spurned h)
      (.reach (.held h)) := by
  rintro (failure | granted)
  · exact ⟨_, .turn .spurned, message (Follows.done rfl)⟩
  · simp only [done_bind, bind_eq, pure_eq]
    split
    · exact ⟨_, .turn .spurned, message (Follows.done rfl)⟩
    · split
      · exact ⟨_, .turn .spurned, message (Follows.done rfl)⟩
      · split
        · exact ⟨_, .turn .granted, message (Follows.done rfl)⟩
        · exact ⟨_, .turn .granted, Follows.done rfl⟩

/-- What is dropped at the end may fail, of which there is a message. -/
theorem dropped_follows {fine : Bool} {next : Action α} {k : Except Failure Unit → Action α}
    (well : k (.ok ()) = next)
    (failed : ∀ failure, ∃ line, k (.error failure) = Program.ask (Request.log line) fun _ => next)
    (rest : ∀ left, next.Follows moves ends ⟨.tidied h fine, left + 1⟩) :
    ((dropPending h).bind k).Follows moves ends ⟨.tidying h fine, left⟩ := by
  rintro (failure | _)
  · obtain ⟨line, logs⟩ := failed failure
    refine ⟨_, .turn .tidied, ?_⟩
    show (k (.error failure)).Follows moves ends _
    rw [logs]
    exact message (rest 0)
  · refine ⟨_, .turn .tidied, ?_⟩
    show (k (.ok ())).Follows moves ends _
    rw [well]
    exact rest 1

variable {track : Track} {settings : PlaySettings}

theorem playBytes_follows (cfg : Config) (bytes : List UInt8) :
    (playBytes cfg h bytes).Follows moves (Ends (.play track settings)) (.reach (.agreed h)) := by
  refine message ?_
  simp only [done_bind]
  -- The mark is set.
  refine turn _ (fun _ => .lock) fun _ => turn _ (fun _ => .sweep) fun _ => turn _ (fun _ => .mark) fun _ => ?_
  simp only [done_bind]
  refine Follows.bind (stream_follows cfg _ bytes) ?_
  rintro ⟨_, left⟩ outcome rfl
  -- It is taken off, however the loop has ended.
  refine turn _ (fun _ => .relock) fun _ => turn _ (fun _ => .unmark) fun _ => ?_
  cases outcome with
  | error e =>
    refine dropped_follows rfl (fun _ => ⟨_, rfl⟩) fun left => message ?_
    refine turn _ (fun _ => .condemned) fun _ => turn _ (fun _ => .left) fun _ => ?_
    exact Follows.done rfl
  | ok stopped =>
    cases stopped with
    | true =>
      refine message (dropped_follows rfl (fun _ => ⟨_, rfl⟩) fun left => ?_)
      exact turn _ (fun _ => .kept) fun _ => Follows.done rfl
    | false =>
      refine dropped_follows rfl (fun _ => ⟨_, rfl⟩) fun left => ?_
      exact turn _ (fun _ => .kept) fun _ => Follows.done rfl

theorem playOn_follows (cfg : Config) (volume : Int) (t : Track) :
    (playOn cfg t volume h).Follows moves (Ends (.play track settings)) (.reach (.held h)) := by
  refine Follows.bind (negotiate_follows _) ?_
  rintro ⟨_, left⟩ (error | granted) rfl
  · refine turn _ (fun _ => .released) fun _ => turn _ (fun _ => .left) fun _ => ?_
    exact Follows.done rfl
  · exact turn _ (fun _ => .measured) fun _ => playBytes_follows cfg _

theorem play_follows (cfg : Config) (track : Track) (settings : PlaySettings) :
    (play cfg track settings).Follows moves (Ends (.play track settings))
      (.reach (enter (.play track settings))) := by
  unfold play
  by_cases accepted : accepts track = true
  · obtain ⟨some, width, valid⟩ := accepts_iff.1 accepted
    rw [enter_play accepted]
    simp only [some, valid, Bool.false_eq_true, if_false]
    rintro (_ | h)
    · refine ⟨_, .turn .unfilled, ?_⟩
      rintro (failure | h)
      · refine ⟨_, .turn .refused, message ?_⟩
        exact turn _ (fun _ => .left) fun _ => Follows.done rfl
      · exact ⟨_, .turn .opened, playOn_follows cfg settings.volume track⟩
    · exact ⟨_, .turn .found, playOn_follows cfg settings.volume track⟩
  · rw [enter_refused accepted]
    split
    · exact Follows.done accepted
    · next some =>
      cases checked : track.validate with
      | error e => exact message (Follows.done accepted)
      | ok width => exact absurd (accepts_iff.2 ⟨eq_false_of_ne_true some, width, checked⟩) accepted

theorem stop_follows : stop.Follows moves (fun s _ => s.phase = .heard) (.reach .called) := by
  intro active
  refine ⟨_, .turn .enter, ?_⟩
  cases active with
  | true =>
    refine message (turn _ (fun _ => .notify) fun _ => ?_)
    exact turn _ (fun _ => .heeded) fun _ => Follows.done rfl
  | false => exact turn _ (fun _ => .unheeded) fun _ => Follows.done rfl

theorem close_follows : close.Follows moves (fun s _ => s.phase = .shut) (.reach .closing) := by
  rintro (_ | h)
  · refine ⟨_, .turn .closed, ?_⟩
    exact turn _ (fun _ => .shut) fun _ => Follows.done rfl
  · refine ⟨_, .turn .close, ?_⟩
    refine turn _ (fun _ => .doomed) fun _ => turn _ (fun _ => .shut) fun _ => ?_
    exact message (Follows.done rfl)

/-- **Every command keeps to the protocol**, from where it begins to where it may end. -/
theorem follows (cfg : Config) (command : Command) :
    (command.program (output cfg)).Follows moves (Ends command) (.reach (enter command)) := by
  cases command with
  | play track settings => exact play_follows cfg track settings
  | stop =>
    refine Follows.bind stop_follows ?_
    rintro ⟨_, left⟩ _ rfl
    exact Follows.done trivial
  | close =>
    refine Follows.bind close_follows ?_
    rintro ⟨_, left⟩ _ rfl
    exact Follows.done trivial

end Playout.Poll
