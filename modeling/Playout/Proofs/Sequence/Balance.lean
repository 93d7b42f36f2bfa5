import Playout.Proofs.Sequence.Handles

/-!
# `Playout.Proofs.Sequence.Balance` — handles are balanced

An output is opened and then called again and again. Whatever the native side answers, at every moment at most one
handle is open, and none is used that is not.

## Contents
- `Reached` — where an output may stand between two calls.
- `Balanced` — what is wanted of an output and its handles.
- `Tended`, `Opens` — what each call of an output with a slot does, and its opening.
- `Opens.opened`, `Opens.refused` — what an opening leads to.
- `Tended.reached`, `Tended.balanced` — so the handles of such an output are balanced, by induction on the calls.
- `TurnedAway.empty`, `TurnedAway.unplayable` — the tracks that lead to no native call.
- `begun_with` — a play that begins with opening a handle.
-/

namespace Playout.Sequence

open Transport Program

variable {I : Interface} {M Spec : Type}

/-! ## Balance -/

/-- Whether an error says that a track cannot be played at all. -/
def invalid : PlayError → Bool
  | .unsupportedBits _ | .invalidTrack _ => true
  | _ => false

/-- How a play ends that is turned away: well if there is nothing to play, else with an error about the track. -/
def TurnedAway (track : Track) (ending : Ending (Except PlayError Unit)) : Prop :=
  (track.isEmpty = true ∧ ending = .finished (.ok ())) ∨ ∃ e, ending = .finished (.error e) ∧ invalid e = true

/-- Where an output may stand between two calls: it has been opened, and each call has returned. -/
inductive Reached (opening : Program I (Except OpenError (Output I))) (deal : Deal I M) (fresh : M) (native : Native I)
    (o : Output I) : M × List (Made I) → Prop where
  | opened {s} (begins : Begins opening deal fresh native (.finished (.ok o)) s) :
      Reached opening deal fresh native o s
  | called {s s' command result} (before : Reached opening deal fresh native o s)
      (yields : Yields o deal native s command (.finished result) s') : Reached opening deal fresh native o s'

/-- Handles are balanced. -/
structure Balanced (opening : Program I (Except OpenError (Output I))) (deal : Deal I M) (fresh : M)
    (effect : Made I → Effect) (accepts : Track → Bool) : Prop where
  /-- An opening does not wait for ever, and at every moment of it at most one handle is open. -/
  opens : ∀ {native ending s}, Begins opening deal fresh native ending s → ending ≠ .blocked ∧ Sound effect s.2
  /-- An opening that fails leaves no handle open. -/
  refused : ∀ {native e s}, Begins opening deal fresh native (.finished (.error e)) s → holding effect s.2 = some none
  /-- No call waits for ever, and at every moment of it at most one handle is open, which alone is used. -/
  call : ∀ {native o s command ending s'}, Reached opening deal fresh native o s →
    Yields o deal native s command ending s' → ending ≠ .blocked ∧ Sound effect s'.2
  /-- After a close no handle is open. -/
  closed : ∀ {native o s result s'}, Reached opening deal fresh native o s →
    Yields o deal native s .close (.finished result) s' → holding effect s'.2 = some none
  /-- After a play that fails no handle is open. -/
  failed : ∀ {native o s track settings e s'}, Reached opening deal fresh native o s → accepts track = true →
    Yields o deal native s (.play track settings) (.finished (.error e)) s' → holding effect s'.2 = some none
  /-- When no handle is open, the first that a play does is to open one. -/
  reopens : ∀ {native o s track settings ending s'}, Reached opening deal fresh native o s → accepts track = true →
    holding effect s.2 = some none → Yields o deal native s (.play track settings) ending s' →
      ∃ call rest, s'.2 = s.2 ++ call :: rest ∧ (effect call).opens = true
  /-- An empty or invalid track leads to no native call. -/
  untouched : ∀ {native o s track settings ending s'}, Reached opening deal fresh native o s →
    accepts track = false → Yields o deal native s (.play track settings) ending s' →
      TurnedAway track ending ∧ s'.2 = s.2

/-! ## Outputs with a slot -/

/-- Where a call may end. -/
def Ends (accepts : Track → Bool) : Command → Custody → Except PlayError Unit → Prop
  | .play _ _, .left kept, result => result.isOk = kept
  | .play track _, .before, _ => accepts track = false
  | .stop, .before, _ => True
  | .close, .left kept, _ => kept = false
  | _, _, _ => False

/-- What the calls of an output with a slot do. Between them its memory is idle. -/
structure Tended (o : Output I) (k : Locker I M) (accepts : Track → Bool) (idle : M → Prop) : Prop where
  call : ∀ {native s command ending s'}, idle s.1 → k.Rests s → Yields o k.deal native s command ending s' →
    ∃ x, k.Grasps s' x ∧ Stopped (Ends accepts command) x ending
  idles : ∀ {native s command result s'}, idle s.1 → Yields o k.deal native s command (.finished result) s' → idle s'.1
  reopens : ∀ {native s track settings ending s'}, accepts track = true → idle s.1 → k.Rests s → k.slot s.1 = none →
    Yields o k.deal native s (.play track settings) ending s' →
      ∃ call rest, s'.2 = s.2 ++ call :: rest ∧ (k.effect call).opens = true
  untouched : ∀ {native s track settings ending s'}, accepts track = false →
    Yields o k.deal native s (.play track settings) ending s' → TurnedAway track ending ∧ s'.2 = s.2

/-- What the opening of an output with a slot does. -/
def Opens (opening : Program I (Except OpenError (Output I))) (o : Output I) (k : Locker I M) (fresh : M)
    (idle : M → Prop) : Prop :=
  ∀ native : Native I,
    match opening.run (react k.deal native) (fresh, []) with
    | (.finished (.ok o'), s) => o' = o ∧ idle s.1 ∧ k.Rests s
    | (.finished (.error _), s) => holding k.effect s.2 = some none
    | _ => False

variable {opening : Program I (Except OpenError (Output I))} {o o' : Output I} {k : Locker I M}
  {accepts : Track → Bool} {idle : M → Prop} {fresh : M} {native : Native I} {command : Command}
  {s s' : M × List (Made I)} {result : Except PlayError Unit}

namespace Opens

/-- What a successful opening leads to. -/
theorem opened (opens : Opens opening o k fresh idle)
    (begins : Begins opening k.deal fresh native (.finished (.ok o')) s) : o' = o ∧ idle s.1 ∧ k.Rests s := by
  have opened := opens native
  rw [begins] at opened
  exact opened

/-- A failed opening leaves no handle open. -/
theorem refused {e : OpenError} (opens : Opens opening o k fresh idle)
    (begins : Begins opening k.deal fresh native (.finished (.error e)) s) : holding k.effect s.2 = some none := by
  have refused := opens native
  rw [begins] at refused
  exact refused

/-- An opening comes to an end. -/
theorem finished {ending : Ending (Except OpenError (Output I))} (opens : Opens opening o k fresh idle)
    (begins : Begins opening k.deal fresh native ending s) : ∃ outcome, ending = .finished outcome := by
  have finished := opens native
  rw [begins] at finished
  cases ending with
  | finished outcome => exact ⟨outcome, rfl⟩
  | blocked | unfinished => cases finished

end Opens

/-- A slot at rest with nothing in it. -/
theorem Locker.Rests.none_open (rests : k.Rests s) (empty : (k.slot s.1).isSome = false) :
    holding k.effect s.2 = some none :=
  rests.lies.trans (congrArg some (Option.not_isSome_iff_eq_none.1 (Bool.eq_false_iff.1 empty)))

namespace Tended

/-- A call that returns leaves the slot at rest. -/
theorem rests (t : Tended o k accepts idle) (quiet : idle s.1) (rests : k.Rests s)
    (yields : Yields o k.deal native s command (.finished result) s') :
    k.Rests s' ∧ ∃ x, k.Grasps s' x ∧ Ends accepts command x result := by
  obtain ⟨x, grasps, ended⟩ := t.call quiet rests yields
  refine ⟨?_, x, grasps, ended⟩
  cases x with
  | owning | vacant => cases command <;> cases ended
  | left => exact grasps.1
  | before | called | barred => exact grasps

/-- Between two calls the slot is at rest. -/
theorem reached (t : Tended o k accepts idle) (opens : Opens opening o k fresh idle)
    (reached : Reached opening k.deal fresh native o' s) : o' = o ∧ idle s.1 ∧ k.Rests s := by
  induction reached with
  | opened begins => exact opens.opened begins
  | called _ yields ih =>
    obtain ⟨rfl, quiet, rests⟩ := ih
    exact ⟨rfl, t.idles quiet yields, (t.rests quiet rests yields).1⟩

/-- **The handles of an output with a slot are balanced.** -/
theorem balanced (t : Tended o k accepts idle) (opens : Opens opening o k fresh idle) :
    Balanced opening k.deal fresh k.effect accepts where
  opens {native ending s} begins := by
    obtain ⟨outcome, rfl⟩ := opens.finished begins
    refine ⟨by simp, ?_⟩
    cases outcome with
    | ok o' => exact sound_of_holding (opens.opened begins).2.2.lies
    | error e => exact sound_of_holding (opens.refused begins)
  refused begins := opens.refused begins
  call reached yields := by
    obtain ⟨rfl, quiet, rests⟩ := t.reached opens reached
    obtain ⟨x, grasps, ended⟩ := t.call quiet rests yields
    refine ⟨?_, grasps.sound⟩
    rintro rfl
    exact ended
  closed reached yields := by
    obtain ⟨rfl, quiet, rests⟩ := t.reached opens reached
    obtain ⟨rests, x, grasps, ended⟩ := t.rests quiet rests yields
    cases x with
    | left kept =>
      obtain rfl : kept = false := ended
      exact rests.none_open grasps.2
    | _ => cases ended
  failed reached accepted yields := by
    obtain ⟨rfl, quiet, rests⟩ := t.reached opens reached
    obtain ⟨rests, x, grasps, ended⟩ := t.rests quiet rests yields
    cases x with
    | left kept =>
      obtain rfl : false = kept := ended
      exact rests.none_open grasps.2
    | before => cases accepted.symm.trans ended
    | _ => cases ended
  reopens reached accepted none yields := by
    obtain ⟨rfl, quiet, rests⟩ := t.reached opens reached
    exact t.reopens accepted quiet rests (Option.some.inj (rests.lies.symm.trans none)) yields
  untouched reached refused yields := by
    obtain ⟨rfl, -, -⟩ := t.reached opens reached
    exact t.untouched refused yields

end Tended

/-! ## Tracks that are turned away -/

section Tracks

variable {track : Track} {e : PlayError}

/-- What a track fails its check with says so. -/
theorem invalid_of_validate (failed : track.validate = .error e) : invalid e = true := by
  obtain rfl | ⟨reason, rfl⟩ := Track.eq_of_validate_error failed
  · rfl
  · rfl

theorem TurnedAway.empty (empty : track.isEmpty = true) : TurnedAway track (.finished (.ok ())) :=
  .inl ⟨empty, rfl⟩

theorem TurnedAway.unplayable (failed : track.validate = .error e) : TurnedAway track (.finished (.error e)) :=
  .inr ⟨e, rfl, invalid_of_validate failed⟩

/-- A track that is empty or not valid. -/
theorem empty_or_unplayable (refused : (!track.isEmpty && track.validate.isOk) = false) :
    track.isEmpty = true ∨ track.isEmpty = false ∧ ∃ e, track.validate = .error e := by
  cases empty : track.isEmpty with
  | true => exact .inl rfl
  | false =>
    cases checked : track.validate with
    | error e => exact .inr ⟨rfl, e, rfl⟩
    | ok width =>
      rw [empty, checked] at refused
      cases refused

end Tracks

/-! ## Plays that open a handle -/

/-- What goes on after a call that opens a handle has begun with it. -/
theorem begun_with {α : Type} {deal : Deal I M} {effect : Made I → Effect} {p : Program I α} {ending : Ending α}
    {m : M} {made : List (Made I)} {call : Made I} (opens : (effect call).opens = true)
    (ran : p.run (react deal native) (m, made ++ [call]) = (ending, s)) :
    ∃ call rest, s.2 = made ++ call :: rest ∧ (effect call).opens = true := by
  have grown := run_grows deal native p m (made ++ [call])
  rw [ran] at grown
  obtain ⟨rest, whole⟩ := grown
  exact ⟨call, rest, by simpa using whole.symm, opens⟩

end Playout.Sequence
