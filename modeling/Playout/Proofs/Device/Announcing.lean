import Playout.Device
import Playout.Proofs.Traces

/-!
# `Playout.Proofs.Device.Announcing` — threads that use one device

Any number of threads play on a device, stop it, close it, set its volume and give it up, over an output that asks for
whatever it likes and is answered in any way. To see when the device turns to its output, the output is made to announce
what it is used for; but for the announcements nothing changes.

## Contents
- `Use`, `Announced`, `announcing` — an output that announces what it is used for, and then does the same.
- `Command`, `calls` — what threads do with a device.
- `Answered`, `surroundings`, `hearing` — what becomes of the device, and of what its output works on.
- `silent`, `silent_program` — the programs of a device without the announcements.
- `Announces`, `Run.announced`, `Run.unannounced` — the runs of a device are those with announcements, less these.
-/

namespace Playout.Device.Life

open Interleaving Program

variable {B : Playout.Interface} {α β : Type}

/-! ## What an output is used for -/

/-- What a device has its output do. -/
inductive Use where
  | play (track : Track) (settings : PlaySettings)
  | stop
  | close
  | setVolume (volume : Int)
  | dropped

/-- A request of an output, or that it is used. -/
inductive Told (B : Playout.Interface) where
  | used (use : Use)
  | own (request : B.Request)

/-- What each is answered. -/
@[reducible] def Told.Answer : Told B → Type
  | used _ => Unit
  | own r => B.Answer r

/-- The interface of an output that announces what it is used for. -/
@[reducible] def Announced (B : Playout.Interface) : Playout.Interface := ⟨Told B, Told.Answer⟩

/-- The requests of an output. -/
def owned (p : Program B α) : Program (Announced B) α := p.translate fun r => .ask (.own r) .done

/-- An output that announces what it is used for, and then does the same. -/
def announcing (o : Output B) : Output (Announced B) where
  name := o.name
  playCommand := o.playCommand
  play track settings := .ask (.used (.play track settings)) fun _ => owned (o.play track settings)
  stop := .ask (.used .stop) fun _ => owned o.stop
  close := .ask (.used .close) fun _ => owned o.close
  setVolume volume := .ask (.used (.setVolume volume)) fun _ => owned (o.setVolume volume)
  dropped := .ask (.used .dropped) fun _ => owned o.dropped

/-! ## What threads do with a device -/

/-- What a thread does with a device. -/
inductive Command where
  | play (track : Track) (order : ByteOrder)
  | stop
  | close
  | setVolume (volume : Int)
  /-- It gives the device up. -/
  | drop

/-- The program of a command. -/
def Command.program (o : Output B) : Command → Device.Action B (Except PlayError Unit)
  | play track order => Device.play o track order
  | stop => (Device.stop o).bind fun _ => .done (.ok ())
  | close => (Device.close o).bind fun _ => .done (.ok ())
  | setVolume volume => Device.setVolume o volume
  | drop => (Device.dropped o).bind fun _ => .done (.ok ())

variable {T : Type} {σ : Type}

/-- The calls of threads that do one thing after another with a device. -/
def calls (o : Output B) (commands : T → Nat → Command) :
    Calls (fun _ : T => Device.Interface B) fun _ : T => Except PlayError Unit :=
  fun t n => (commands t n).program o

/-- What becomes of the device, and of what the output works on, by a request and its answer. -/
def Answered (backend : Surroundings (fun _ : T => B) σ) (t : T) :
    (r : Device.Request B) → Shared × σ → Device.Request.Answer r → Shared × σ → Prop
  | .output r, s, answer, s' => s'.1 = s.1 ∧ backend t r s.2 answer s'.2
  | .log _, s, _, s' => s' = s
  | r, s, answer, s' => s.1.answer r = some (answer, s'.1) ∧ s'.2 = s.2

/-- The surroundings of the threads. -/
def surroundings (backend : Surroundings (fun _ : T => B) σ) :
    Surroundings (fun _ : T => Device.Interface B) (Shared × σ) :=
  fun t r s answer s' => Answered backend t r s answer s'

/-- What an announcing output works on: announcements do nothing to it. -/
def hearing (backend : Surroundings (fun _ : T => B) σ) : Surroundings (fun _ : T => Announced B) σ
  | t, .own r, s, answer, s' => backend t r s answer s'
  | _, .used _, s, _, s' => s' = s

variable {backend : Surroundings (fun _ : T => B) σ} {t : T} {s s' : Shared} {w w' : σ}

/-- A request of the device itself is answered from what the threads share. -/
theorem Answered.device {r : Device.Request B} {answer : Device.Request.Answer r} (told : s.answer r = some (answer, s')) :
    Answered backend t r (s, w) answer (s', w) := by
  cases r with
  | log | output => cases told
  | _ => exact ⟨told, rfl⟩

/-- A request of the output, that announces. -/
theorem Answered.own {r : B.Request} {answer : B.Answer r} (answered : backend t r w answer w') :
    Answered (hearing backend) t (.output (.own r)) (s, w) answer (s, w') := ⟨rfl, answered⟩

theorem Answered.used {use : Use} : Answered (hearing backend) t (.output (.used use)) (s, w) () (s, w) := ⟨rfl, rfl⟩

/-- What has happened to a device. -/
abbrev Past (T : Type) (B : Playout.Interface) := History T (Device.Interface B) (Except PlayError Unit)

/-! ## Without the announcements -/

/-- The requests of a device without the announcements. -/
def silent : Device.Action (Announced B) α → Device.Action B α :=
  translate fun
    | .output (.used _) => .done ()
    | .output (.own r) => .ask (.output r) .done
    | .log line => .ask (.log line) .done
    | .enter => .ask .enter .done
    | .leave => .ask .leave .done
    | .shut => .ask .shut .done
    | .setWorking value => .ask (.setWorking value) .done
    | .volume => .ask .volume .done
    | .storeVolume value => .ask (.storeVolume value) .done

/-- One program after another. -/
theorem silent_bind (p : Device.Action (Announced B) α) (f : α → Device.Action (Announced B) β) :
    silent (p.bind f) = (silent p).bind fun a => silent (f a) := by
  induction p with
  | done => rfl
  | unfinished => rfl
  | ask r next ih =>
    cases r with
    | output r =>
      cases r with
      | used => exact ih ()
      | own r => exact congrArg (Program.ask _) (funext ih)
    | _ => exact congrArg (Program.ask _) (funext ih)

/-- What an output does of its own is left. -/
theorem silent_owned (p : Program B α) : silent (within (owned p)) = within p := by
  induction p with
  | done => rfl
  | unfinished => rfl
  | ask r next ih => exact congrArg (Program.ask _) (funext ih)

/-- Where the output announces what it is used for, what it does then is left. -/
theorem silent_used (use : Use) (p : Program B α) (f : α → Device.Action (Announced B) β) :
    silent ((within (.ask (.used use) fun _ => owned p : Program (Announced B) α)).bind f) =
      (within p).bind fun a => silent (f a) :=
  (silent_bind _ f).trans (congrArg (Program.bind · fun a => silent (f a)) (silent_owned p))

variable {o : Output B}

theorem silent_close : silent (Device.close (announcing o)) = Device.close o := by
  refine congrArg (Program.ask _) (funext fun first => ?_)
  cases first with
  | true => exact silent_used ..
  | false => rfl

theorem silent_setVolume (volume : Int) :
    silent (Device.setVolume (announcing o) volume) = Device.setVolume o volume := by
  unfold Device.setVolume
  cases Sample.volumeInRange volume with
  | true => exact congrArg (Program.ask _) (funext fun _ => silent_used ..)
  | false => rfl

/-- But for the announcements, a device does the same with an output that announces what it is used for. -/
theorem silent_program (o : Output B) (command : Command) :
    silent (command.program (announcing o)) = command.program o := by
  cases command with
  | play track order =>
    refine congrArg (Program.ask _) (funext fun entered => ?_)
    cases entered with
    | true => exact congrArg (Program.ask _) (funext fun _ => congrArg (Program.ask _) (funext fun _ => silent_used ..))
    | false => rfl
  | stop => exact silent_used ..
  | close => exact (silent_bind _ _).trans (congrArg (Program.bind · _) silent_close)
  | setVolume volume => exact silent_setVolume volume
  | drop =>
    refine (silent_bind _ _).trans (congrArg (Program.bind · _) ((silent_bind _ _).trans ?_))
    rw [silent_close]
    exact congrArg _ (funext fun _ => silent_owned _)

/-! ### Runs -/

/-- A request of a device, among those with announcements. -/
def heard : Device.Request B → Device.Request (Announced B)
  | .output r => .output (.own r)
  | .log line => .log line
  | .enter => .enter
  | .leave => .leave
  | .shut => .shut
  | .setWorking value => .setWorking value
  | .volume => .volume
  | .storeVolume value => .storeVolume value

/-- It is answered the same. -/
def heardAnswer : (r : Device.Request B) → Device.Request.Answer r → Device.Request.Answer (heard r)
  | .output _, answer => answer
  | .log _, answer => answer
  | .enter, answer => answer
  | .leave, answer => answer
  | .shut, answer => answer
  | .setWorking _, answer => answer
  | .volume, answer => answer
  | .storeVolume _, answer => answer

/-- What has happened, with announcements among it. -/
inductive Hears : Past T (Announced B) → Past T B → Prop where
  | start : Hears [] []
  | announced {told history t n use} (before : Hears told history) :
      Hears (told ++ [.asked t n (.output (.used use)) ()]) history
  | asked {told history t n r answer} (before : Hears told history) :
      Hears (told ++ [.asked t n (heard r) (heardAnswer r answer)]) (history ++ [.asked t n r answer])
  | returned {told history t n result} (before : Hears told history) :
      Hears (told ++ [.returned t n result]) (history ++ [.returned t n result])

variable [DecidableEq T] {commands : T → Nat → Command}
  {start : Shared × σ} {told : Past T (Announced B)} {history : Past T B}
  {now : Interleaving.State (fun _ : T => Device.Interface (Announced B)) (fun _ => Except PlayError Unit) (Shared × σ)}
  {s : Interleaving.State (fun _ : T => Device.Interface B) (fun _ => Except PlayError Unit) (Shared × σ)}

/-- A call stands where it does without the announcements. -/
def Echoes (c : Call (Device.Interface (Announced B)) (Except PlayError Unit))
    (d : Call (Device.Interface B) (Except PlayError Unit)) : Prop :=
  c.number = d.number ∧ silent c.rest = d.rest

/-- A run with the announcements in it, and the same run without. -/
structure Announces (o : Output B) (commands : T → Nat → Command) (backend : Surroundings (fun _ : T => B) σ)
    (start : Shared × σ) (told : Past T (Announced B))
    (now : Interleaving.State (fun _ : T => Device.Interface (Announced B)) (fun _ => Except PlayError Unit) (Shared × σ))
    (history : Past T B)
    (s : Interleaving.State (fun _ : T => Device.Interface B) (fun _ => Except PlayError Unit) (Shared × σ)) : Prop where
  run : Run (calls (announcing o) commands) (surroundings (hearing backend)) start told now
  hears : Hears told history
  shared : now.shared = s.shared
  call : ∀ t, Echoes (now.call t) (s.call t)

/-- One call goes on, with announcements and without. -/
theorem Echoes.update {t : T} {c : Call (Device.Interface (Announced B)) (Except PlayError Unit)}
    {d : Call (Device.Interface B) (Except PlayError Unit)} (echoes : ∀ t, Echoes (now.call t) (s.call t))
    (echo : Echoes c d) (u : T) : Echoes (Function.update now.call t c u) (Function.update s.call t d u) := by
  by_cases same : u = t
  · subst same
    simpa only [Function.update_self] using echo
  · simpa only [Function.update_of_ne same] using echoes u

/-- A call announces something. -/
theorem Echoes.tell {t : T} {use : Use} {next : Unit → Device.Action (Announced B) (Except PlayError Unit)}
    (echoes : ∀ t, Echoes (now.call t) (s.call t)) (tells : (now.call t).rest = .ask (.output (.used use)) next) (u : T) :
    Echoes (Function.update now.call t ⟨(now.call t).number, next ()⟩ u) (s.call u) := by
  have echo : Echoes ⟨(now.call t).number, next ()⟩ (s.call t) := by
    refine ⟨(echoes t).1, Eq.trans ?_ (echoes t).2⟩
    rw [tells]
    rfl
  have updated := Echoes.update (t := t) echoes echo u
  rwa [Function.update_eq_self] at updated

/-- A request is an announcement, or one that the device makes without them as well. -/
theorem used_or_heard (r : Device.Request (Announced B)) :
    (∃ use, r = .output (.used use)) ∨ ∃ r' : Device.Request B, r = heard r' := by
  cases r with
  | output r =>
    cases r with
    | used use => exact .inl ⟨use, rfl⟩
    | own r => exact .inr ⟨.output r, rfl⟩
  | log line => exact .inr ⟨.log line, rfl⟩
  | enter => exact .inr ⟨.enter, rfl⟩
  | leave => exact .inr ⟨.leave, rfl⟩
  | shut => exact .inr ⟨.shut, rfl⟩
  | setWorking value => exact .inr ⟨.setWorking value, rfl⟩
  | volume => exact .inr ⟨.volume, rfl⟩
  | storeVolume value => exact .inr ⟨.storeVolume value, rfl⟩

theorem heardAnswer_surjective (r : Device.Request B) (answer : Device.Request.Answer (heard r)) :
    ∃ answer', heardAnswer r answer' = answer := by
  cases r <;> exact ⟨answer, rfl⟩

theorem silent_heard (r : Device.Request B) (next : Device.Request.Answer (heard r) → Device.Action (Announced B) α) :
    silent (.ask (heard r) next) = .ask r fun answer => silent (next (heardAnswer r answer)) := by
  cases r <;> rfl

omit [DecidableEq T] in
/-- The same becomes of the device. -/
theorem answered_heard {t : T} {r : Device.Request B} {answer : Device.Request.Answer r} {s s' : Shared × σ} :
    Answered (hearing backend) t (heard r) s (heardAnswer r answer) s' ↔ Answered backend t r s answer s' := by
  cases r <;> rfl

/-- Before a request that is not announced, one comes to it. -/
theorem heard_of_silent {p : Device.Action (Announced B) α} {r : Device.Request B}
    {next : Device.Request.Answer r → Device.Action B α} (asks : silent p = .ask r next)
    (tells : ∀ use next, p ≠ .ask (.output (.used use)) next) :
    ∃ next', p = .ask (heard r) next' ∧ ∀ answer, silent (next' (heardAnswer r answer)) = next answer := by
  cases p with
  | done | unfinished => cases asks
  | ask r' next' =>
    rcases used_or_heard r' with ⟨use, rfl⟩ | ⟨r', rfl⟩
    · exact absurd rfl (tells use next')
    · rw [silent_heard] at asks
      cases asks
      exact ⟨next', rfl, fun _ => rfl⟩

theorem done_of_silent {p : Device.Action (Announced B) α} {result : α} (done : silent p = .done result)
    (tells : ∀ use next, p ≠ .ask (.output (.used use)) next) : p = .done result := by
  cases p with
  | done =>
    cases done
    rfl
  | unfinished => cases done
  | ask r next =>
    rcases used_or_heard r with ⟨use, rfl⟩ | ⟨r, rfl⟩
    · exact absurd rfl (tells use next)
    · rw [silent_heard] at done
      cases done

/-- A thread can make its announcements at once. -/
theorem Announces.quieted (announces : Announces o commands backend start told now history s) (t : T) :
    ∃ told now, Announces o commands backend start told now history s ∧
      ∀ use next, (now.call t).rest ≠ .ask (.output (.used use)) next := by
  generalize rest : (now.call t).rest = p
  induction p generalizing told now with
  | done | unfinished =>
    refine ⟨told, now, announces, fun _ _ => ?_⟩
    rw [rest]
    exact nofun
  | ask r next ih =>
    by_cases tells : ∃ use, r = .output (.used use)
    · obtain ⟨use, rfl⟩ := tells
      refine ih () ⟨announces.run.ask t rest () ⟨rfl, rfl⟩, announces.hears.announced, announces.shared,
        Echoes.tell announces.call rest⟩ ?_
      exact congrArg Call.rest (Function.update_self t _ now.call)
    · refine ⟨told, now, announces, fun use next' => ?_⟩
      rw [rest]
      rintro ⟨⟩
      exact tells ⟨use, rfl⟩

/-- **Announcing.** Every run of a device is one of the device whose output announces what it is used for, with the
    announcements left out. -/
theorem Run.announced (run : Run (calls o commands) (surroundings backend) start history s) :
    ∃ told now, Announces o commands backend start told now history s := by
  induction run with
  | start => exact ⟨[], _, .start, .start, rfl, fun t => ⟨rfl, silent_program o (commands t 0)⟩⟩
  | step _ next ih =>
    obtain ⟨_, _, announces⟩ := ih
    cases next with
    | @ask t r next answer shared' asks answered =>
      obtain ⟨told, now, announces, quiet⟩ := announces.quieted t
      obtain ⟨next', rest, later⟩ := heard_of_silent ((announces.call t).2.trans asks) quiet
      rw [← announces.shared] at answered
      rw [← (announces.call t).1]
      exact ⟨_, _, announces.run.ask t rest (heardAnswer r answer) (answered_heard.2 answered), announces.hears.asked, rfl,
        Echoes.update announces.call ⟨rfl, later answer⟩⟩
    | @finish t result done =>
      obtain ⟨told, now, announces, quiet⟩ := announces.quieted t
      have rest := done_of_silent ((announces.call t).2.trans done) quiet
      rw [← (announces.call t).1]
      exact ⟨_, _, announces.run.finish t rest, announces.hears.returned, announces.shared,
        Echoes.update announces.call ⟨rfl, silent_program o (commands t _)⟩⟩

/-- And every run with announcements is one without them. -/
theorem Run.unannounced (run : Run (calls (announcing o) commands) (surroundings (hearing backend)) start told now) :
    ∃ history s, Run (calls o commands) (surroundings backend) start history s ∧
      Announces o commands backend start told now history s := by
  induction run with
  | start => exact ⟨[], _, .start, .start, .start, rfl, fun t => ⟨rfl, silent_program o (commands t 0)⟩⟩
  | @step told now _ _ run next ih =>
    obtain ⟨history, s, plain, announces⟩ := ih
    cases next with
    | @ask t r next answer shared' asks answered =>
      rcases used_or_heard r with ⟨use, rfl⟩ | ⟨r, rfl⟩
      · obtain rfl : shared' = now.shared := Prod.ext answered.1 answered.2
        exact ⟨history, s, plain, run.ask t asks () answered, announces.hears.announced, announces.shared,
          Echoes.tell announces.call asks⟩
      · obtain ⟨answer, rfl⟩ := heardAnswer_surjective r answer
        have rest := (announces.call t).2.symm.trans ((congrArg silent asks).trans (silent_heard r next))
        have same := answered_heard.1 answered
        rw [announces.shared] at same
        refine ⟨_, _, plain.ask t rest answer same, run.ask t asks _ answered, ?_, rfl, ?_⟩
        · rw [← (announces.call t).1]
          exact announces.hears.asked
        · exact Echoes.update announces.call ⟨(announces.call t).1, rfl⟩
    | @finish t result done =>
      have rest := (announces.call t).2.symm.trans (congrArg silent done)
      refine ⟨_, _, plain.finish t rest, run.finish t done, ?_, announces.shared, ?_⟩
      · rw [← (announces.call t).1]
        exact announces.hears.returned
      · rw [← (announces.call t).1]
        exact Echoes.update announces.call ⟨rfl, silent_program o (commands t _)⟩

end Playout.Device.Life
