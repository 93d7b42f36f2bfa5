import Playout.Proofs.Device.Announcing

/-!
# `Playout.Proofs.Device.Uses` — what the calls of a device do

Each call goes through phases: a play finds the device closed and says so, or plays from one step to the next; a close
closes the output of the device after the device itself; a volume is stored if it is in range.

## Contents
- `Phase`, `Lives`, `Over` — the protocol of the calls.
- `lives_follow` — every command keeps to it.
-/

namespace Playout.Device.Life

open Interleaving Program

variable {B : Playout.Interface} {α : Type}

/-! ## The protocol -/

/-- Where a call stands. -/
inductive Phase where
  | fresh (command : Command)
  /-- The play has found the device closed, and has not told yet. -/
  | barred
  /-- It has told. -/
  | turned
  /-- The device is playing. -/
  | entered
  /-- It is marked so. -/
  | marked
  /-- The volume has been read. -/
  | told (volume : Int)
  /-- The output plays. -/
  | playing
  /-- The output has played, and the mark is taken away. -/
  | played
  | left
  /-- The device has been closed, and its output is going to be. -/
  | closing
  /-- A volume has been turned down. -/
  | declined (volume : Int)
  /-- Whatever the call still does, it neither plays nor closes. -/
  | aside

/-- Whether the output is neither played on nor closed. -/
def Use.minor : Use → Bool
  | play .. | close => false
  | _ => true

/-- What the calls do, request by request. -/
inductive Lives : Phase → (r : Device.Request (Announced B)) → Device.Request.Answer r → Phase → Prop where
  | enter {track order} : Lives (.fresh (.play track order)) .enter true .entered
  | barred {track order} : Lives (.fresh (.play track order)) .enter false .barred
  | turned {line} : Lives .barred (.log line) () .turned
  | mark : Lives .entered (.setWorking true) () .marked
  | read {volume} : Lives .marked .volume volume (.told volume)
  | play {track settings volume} (same : settings.volume = volume) :
      Lives (.told volume) (.output (.used (.play track settings))) () .playing
  | plays {r answer} : Lives .playing (.output (.own r)) answer .playing
  | unmark : Lives .playing (.setWorking false) () .played
  | leave : Lives .played .leave () .left
  | shut {command} (closes : command = .close ∨ command = .drop) : Lives (.fresh command) .shut true .closing
  | shutBefore {command} (closes : command = .close ∨ command = .drop) : Lives (.fresh command) .shut false .aside
  | close : Lives .closing (.output (.used .close)) () .aside
  | store {volume} (fits : Sample.volumeInRange volume = true) :
      Lives (.fresh (.setVolume volume)) (.storeVolume volume) () .aside
  | decline {volume line} (out : Sample.volumeInRange volume = false) :
      Lives (.fresh (.setVolume volume)) (.log line) () (.declined volume)
  | stop : Lives (.fresh .stop) (.output (.used .stop)) () .aside
  | use {use} (minor : use.minor = true) : Lives .aside (.output (.used use)) () .aside
  | own {r answer} : Lives .aside (.output (.own r)) answer .aside
  | tell {line} : Lives .aside (.log line) () .aside

/-- The protocol. -/
def lives : Moves (Device.Interface (Announced B)) Phase := fun x r answer x' => Lives x r answer x'

/-- Where a call may end, and with what. -/
def Over : Phase → Except PlayError Unit → Prop
  | .turned, result => result = .error .closed
  | .left, _ => True
  | .declined volume, result => result = .error (.volumeOutOfRange volume)
  | .aside, result => result = .ok ()
  | _, _ => False

/-- All that an output does of its own. -/
theorem within_owned_asks (p : Program B α) :
    (within (owned p)).Asks fun r : Device.Request (Announced B) => ∃ own, r = .output (.own own) := by
  induction p with
  | done => trivial
  | unfinished => trivial
  | ask r next ih => exact ⟨⟨r, rfl⟩, ih⟩

/-- While an output does something of its own, the call stays where it is. -/
theorem owned_follows {x : Phase} (p : Program B α)
    (stays : ∀ r answer, Lives (B := B) x (.output (.own r)) answer x) :
    (within (owned p)).Follows lives (fun x' _ => x' = x) x := by
  apply Asks.follows (within_owned_asks p)
  · rintro _ ⟨r, rfl⟩ answer
    exact stays r answer
  · exact fun _ => rfl

/-- An output that is neither played on nor closed. -/
theorem used_follows {use : Use} (minor : use.minor = true) (p : Program B α) :
    (within (.ask (.used use) fun _ => owned p : Program (Announced B) α)).Follows lives
      (fun x _ => x = .aside) .aside :=
  fun _ => ⟨_, .use minor, owned_follows p fun _ _ => .own⟩

variable {o : Output B}

theorem play_follows (track : Track) (order : ByteOrder) :
    (Device.play (announcing o) track order).Follows lives Over (.fresh (.play track order)) := by
  rintro (_ | _)
  · exact ⟨_, .barred, fun _ => ⟨_, .turned, Follows.done rfl⟩⟩
  · refine ⟨_, .enter, fun _ => ⟨_, .mark, fun volume => ⟨_, .read, ?_⟩⟩⟩
    refine fun _ => ⟨_, .play rfl, ?_⟩
    refine Follows.bind (owned_follows _ fun _ _ => .plays) ?_
    rintro _ result rfl
    exact fun _ => ⟨_, .unmark, fun _ => ⟨_, .leave, Follows.done trivial⟩⟩

theorem close_follows {command : Command} (closes : command = .close ∨ command = .drop) :
    (Device.close (announcing o)).Follows lives (fun x _ => x = .aside) (.fresh command) := by
  rintro (_ | _)
  · exact ⟨_, .shutBefore closes, Follows.done rfl⟩
  · refine ⟨_, .shut closes, fun _ => ⟨_, .close, ?_⟩⟩
    refine Follows.bind (owned_follows _ fun _ _ => .own) ?_
    rintro _ _ rfl
    exact fun _ => ⟨_, .tell, Follows.done rfl⟩

theorem setVolume_follows (volume : Int) :
    (Device.setVolume (announcing o) volume).Follows lives Over (.fresh (.setVolume volume)) := by
  unfold Device.setVolume
  cases fits : Sample.volumeInRange volume with
  | true =>
    refine fun _ => ⟨_, .store fits, ?_⟩
    simp only [done_bind]
    refine Follows.bind (used_follows rfl _) ?_
    rintro _ _ rfl
    exact Follows.done rfl
  | false => exact fun _ => ⟨_, .decline fits, Follows.done rfl⟩

/-- Every command keeps to the protocol. -/
theorem lives_follow (o : Output B) (command : Command) :
    (command.program (announcing o)).Follows lives Over (.fresh command) := by
  cases command with
  | play track order => exact play_follows track order
  | stop =>
    refine fun _ => ⟨_, .stop, ?_⟩
    refine Follows.bind (owned_follows _ fun _ _ => .own) ?_
    rintro _ _ rfl
    exact Follows.done rfl
  | close =>
    refine Follows.bind (close_follows (.inl rfl)) ?_
    rintro _ _ rfl
    exact Follows.done rfl
  | setVolume volume => exact setVolume_follows volume
  | drop =>
    have dropping : (Device.dropped (announcing o)).Follows lives (fun x _ => x = .aside) (.fresh .drop) := by
      refine Follows.bind (close_follows (.inr rfl)) ?_
      rintro _ _ rfl
      exact used_follows rfl _
    refine Follows.bind dropping ?_
    rintro _ _ rfl
    exact Follows.done rfl

end Playout.Device.Life
