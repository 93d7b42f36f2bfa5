import Playout.Proofs.Live.Keeper
import Playout.Proofs.Signalling
import Playout.Proofs.Simple.Keeper

/-!
# `Playout.Proofs.Transport.Halting` — what is still written after a stop

A play looks at the signal before each chunk. When the signal is set after a look, the chunk that the look was for is
still written, and the next look ends the loop. A header is written with the opening of a stream, and is not audio.

## Contents
- `Act.touch`, `Design.touch` — what the acts do with the signal.
- `Heard`, `Design.audio` — the audio that a call has begun to write.
- `Phase.worth`, `Stage.cost` — how many requests a call can still make, once it sees every signal.
- `Sound` — what a stage says about the audio to come.
- `Steady`, `Since` — what a call has written since some point of it.
- `StopsShort` — how little is written after a stop.

## Main statements
- `Keeper.stopsShort` — so it is for every output that keeps one stream open.
-/

namespace Playout.Transport

open Interleaving

variable {T : Type} [DecidableEq T] {I : Interface} {Spec : Type}

/-! ## The signal -/

/-- What an act does with the signal. -/
def Act.touch : Act Spec → Touch
  | .lower => .lower
  | .raise => .raise
  | .look stopped => .look stopped
  | _ => .none

/-- What a request does with the signal, with its answer. -/
def Design.touch (d : Design I Spec) (r : I.Request) (answer : I.Answer r) : Touch := (d.act r answer).touch

omit [DecidableEq T] in
/-- The world keeps the signal. -/
theorem answers_signalled (d : Design I Spec) :
    Signalled d.touch (answers d.act : Surroundings (fun _ : T => I) (World T Spec)) World.raised where
  lower {t r s answer s'} answered lower := by
    have answered : Answered t s (d.act r answer) s' := answered
    unfold Design.touch at lower
    generalize d.act r answer = act at answered lower
    cases answered <;> first | rfl | cases lower
  raise {t r s answer s'} answered raise := by
    have answered : Answered t s (d.act r answer) s' := answered
    unfold Design.touch at raise
    generalize d.act r answer = act at answered raise
    cases answered <;> first | rfl | cases raise
  look {t r s answer s' stopped} answered look := by
    have answered : Answered t s (d.act r answer) s' := answered
    unfold Design.touch at look
    generalize d.act r answer = act at answered look
    cases answered with
    | look same =>
      cases look
      exact ⟨same, rfl⟩
    | _ => cases look
  keep {t r s answer s'} answered keep := by
    have answered : Answered t s (d.act r answer) s' := answered
    unfold Design.touch at keep
    generalize d.act r answer = act at answered keep
    cases answered <;> first | rfl | cases keep

/-! ## Audio -/

/-- The audio of the writes so far, and whether the header of a stream is due. -/
structure Heard where
  fresh : Bool := false
  audio : List (List UInt8) := []

/-- A write is audio, unless it comes with the opening of a stream that begins with a header. -/
def Heard.hear (headed : Bool) (h : Heard) : Act Spec → Heard
  | .opened _ => { h with fresh := headed }
  | .write _ bytes _ => ⟨false, if h.fresh then h.audio else h.audio ++ [bytes]⟩
  | .other => h
  | _ => { h with fresh := false }

/-- What is heard of a trace. -/
def Design.heard (d : Design I Spec) (headed : Bool) (trace : Trace I) : Heard :=
  trace.foldl (fun h x => h.hear headed (d.act x.1 x.2)) {}

/-- Whether the streams of an output begin with a header. -/
def Design.Headed (d : Design I Spec) (headed : Bool) : Prop := ∀ spec, (d.header spec).isSome = headed

/-- The pieces of audio that a trace has begun to write. -/
def Design.audio (d : Design I Spec) (headed : Bool) (trace : Trace I) : List (List UInt8) :=
  (d.heard headed trace).audio

theorem Design.heard_snoc (d : Design I Spec) (headed : Bool) (trace : Trace I) (x : Σ r : I.Request, I.Answer r) :
    d.heard headed (trace ++ [x]) = (d.heard headed trace).hear headed (d.act x.1 x.2) := by
  unfold Design.heard
  rw [List.foldl_append]
  rfl

/-! ## How much is left -/

namespace Phase

/-- How many requests may come after those that a phase is patient for, if no look misses the signal. -/
def worth : Phase Spec → Nat
  | entered => 15
  | ready => 13
  | mismatched _ => 11
  | vacant => 9
  | greeting _ | cleared _ _ _ => 8
  | streaming _ _ | failing _ => 4
  | leaving _ | empty => 2
  | gone _ => 0

/-- How many pieces of audio may come, if no look misses the signal. -/
def due : Phase Spec → Nat
  | cleared _ _ _ => 1
  | _ => 0

theorem due_le (φ : Phase Spec) : φ.due ≤ 1 := by
  cases φ with
  | cleared => exact Nat.le_refl _
  | _ => exact Nat.zero_le _

/-- The chunks that a phase still has in hand. -/
def ahead : Phase Spec → List (List UInt8)
  | streaming _ rest => rest
  | cleared _ chunk rest => chunk :: rest
  | _ => []

end Phase

/-- How many requests a call can still make, if no look misses the signal. -/
def Stage.cost (s : Stage Spec) : Nat := s.phase.worth + s.patience

theorem cost_afterOpening (header : Spec → Option (List UInt8)) (plan : Plan Spec) (errand : Errand Spec)
    (h : Handle) : (Stage.reach errand (afterOpening header plan h)).cost ≤ 8 := by
  unfold afterOpening
  cases header plan.spec <;> simp [Stage.cost, Stage.reach, Phase.worth, Phase.patience]

/-- Every request of an alert call leaves it fewer. -/
theorem Move.cost_lt {header : Spec → Option (List UInt8)} {s s' : Stage Spec} {act : Act Spec}
    (move : Move header s act s') (alert : act.touch ≠ .look false) : s'.cost < s.cost := by
  cases move with
  | wait => exact Nat.lt_succ_self _
  | @turn errand φ left act φ' turn =>
    -- Patience is bought anew with each turn, for less than what the phase was worth.
    suffices less : (Stage.reach errand φ').cost < φ.worth from Nat.lt_of_lt_of_le less (Nat.le_add_right _ _)
    cases turn with
    | opened => exact Nat.lt_succ_of_le (cost_afterOpening ..)
    | goOn | rested => exact absurd rfl alert
    | _ => simp [Stage.cost, Stage.reach, Phase.worth, Phase.patience]

/-- A call that can make a request has not used up its patience for more than the phase allows. -/
theorem Move.patience_le {header : Spec → Option (List UInt8)} {s s' : Stage Spec} {act : Act Spec}
    (move : Move header s act s') (fits : s.patience ≤ s.phase.patience) : s'.patience ≤ s'.phase.patience := by
  cases move with
  | wait => exact Nat.le_of_succ_le fits
  | turn => exact Nat.le_refl _

theorem Stage.cost_le {s : Stage Spec} (fits : s.patience ≤ s.phase.patience) : s.cost ≤ 15 := by
  refine Nat.le_trans (Nat.add_le_add_left fits _) ?_
  cases s.phase <;> simp [Phase.worth, Phase.patience]

/-! ## What a stage says about the audio -/

/-- A header is due only right after an opening, and no chunk in hand or planned is too long. -/
structure Sound (s : Stage Spec) (h : Heard) : Prop where
  fresh : ∀ g, s.phase = .greeting g → h.fresh = true
  ahead : ∀ chunk ∈ s.phase.ahead, chunk.length ≤ chunkLength
  planned : ∀ plan, s.errand = .play plan → ∀ chunk ∈ plan.chunks, chunk.length ≤ chunkLength

theorem sound_afterOpening {header : Spec → Option (List UInt8)} {plan : Plan Spec} {h : Heard} {g : Handle}
    (planned : ∀ chunk ∈ plan.chunks, chunk.length ≤ chunkLength)
    (fresh : (header plan.spec).isSome = h.fresh) :
    Sound (.reach (.play plan) (afterOpening header plan g)) h where
  fresh g' greets := by
    have greets : afterOpening header plan g = .greeting g' := greets
    unfold afterOpening at greets
    cases begins : header plan.spec with
    | some =>
      rw [begins] at fresh
      exact fresh.symm
    | none =>
      rw [begins] at greets
      cases greets
  ahead := by
    unfold afterOpening
    cases header plan.spec with
    | some => exact nofun
    | none => exact planned
  planned := by
    rintro _ ⟨⟩
    exact planned

/-- Every move keeps a stage sound. -/
theorem Sound.move {header : Spec → Option (List UInt8)} {headed : Bool} {s s' : Stage Spec} {act : Act Spec}
    {h : Heard} (begins : ∀ spec, (header spec).isSome = headed) (sound : Sound s h) (move : Move header s act s') :
    Sound s' (h.hear headed act) := by
  have planned : ∀ plan, s'.errand = .play plan → ∀ chunk ∈ plan.chunks, chunk.length ≤ chunkLength := by
    rw [move.errand_eq]
    exact sound.planned
  cases move with
  | wait => exact ⟨sound.fresh, sound.ahead, planned⟩
  | turn turn =>
    cases turn with
    | opened => exact sound_afterOpening (planned _ rfl) (begins _)
    | found | greeted => exact ⟨nofun, planned _ rfl, planned⟩
    | goOn => exact ⟨nofun, sound.ahead, planned⟩
    | wrote => exact ⟨nofun, fun chunk mem => sound.ahead chunk (List.mem_cons_of_mem _ mem), planned⟩
    | _ => exact ⟨nofun, nofun, planned⟩

/-- What a request of an alert call adds to the audio is due, and is not too long. -/
theorem Sound.hear {header : Spec → Option (List UInt8)} (headed : Bool) {s s' : Stage Spec} {act : Act Spec}
    {h : Heard} (sound : Sound s h) (move : Move header s act s') (alert : act.touch ≠ .look false) :
    ∃ extra, (h.hear headed act).audio = h.audio ++ extra ∧ extra.length + s'.phase.due ≤ s.phase.due ∧
      ∀ bytes ∈ extra, bytes.length ≤ chunkLength := by
  cases move with
  | wait => exact ⟨[], (List.append_nil _).symm, Nat.le_of_eq (Nat.zero_add _), nofun⟩
  | turn turn =>
    cases turn with
    | opened =>
      refine ⟨[], (List.append_nil _).symm, ?_, nofun⟩
      unfold afterOpening
      split <;> exact Nat.le_refl _
    | goOn | rested => exact absurd rfl alert
    | greeted | ungreeted =>
      -- A header is no audio.
      refine ⟨[], ?_, Nat.le_refl _, nofun⟩
      rw [List.append_nil]
      exact if_pos (sound.fresh _ rfl)
    | @wrote plan g chunk rest | @tore plan g chunk rest =>
      by_cases fresh : h.fresh = true
      · exact ⟨[], (if_pos fresh).trans (List.append_nil _).symm, Nat.zero_le _, nofun⟩
      · refine ⟨[chunk], if_neg fresh, Nat.le_refl _, ?_⟩
        intro bytes mem
        obtain rfl := List.mem_singleton.1 mem
        exact sound.ahead bytes List.mem_cons_self
    | _ => exact ⟨[], (List.append_nil _).symm, Nat.le_refl _, nofun⟩

/-! ## Paths -/

section Paths

variable {d : Design I Spec} {headed : Bool} {s s' : Stage Spec} {trace front back : Trace I}

/-- What is known of a call all the way from its beginning: the stage is sound, and nothing is due before the first
    look at the signal. -/
structure Steady (d : Design I Spec) (headed : Bool) (trace : Trace I) (s : Stage Spec) : Prop where
  sound : Sound s (d.heard headed trace)
  fits : s.patience ≤ s.phase.patience
  quiet : (∀ x ∈ trace, ∀ stopped, d.touch x.1 x.2 ≠ .look stopped) → s.phase.due = 0 ∧ d.audio headed trace = []

theorem Steady.move {r : I.Request} {answer : I.Answer r} (begins : d.Headed headed)
    (steady : Steady d headed trace s) (move : d.moves s r answer s') :
    Steady d headed (trace ++ [⟨r, answer⟩]) s' where
  sound := by
    rw [d.heard_snoc]
    exact steady.sound.move begins move
  fits := Move.patience_le move steady.fits
  quiet unlooked := by
    -- Without a look this call is alert as well, so that nothing comes to what was not due.
    obtain ⟨due, silent⟩ := steady.quiet fun x mem => unlooked x (List.mem_append_left _ mem)
    have blind : (d.act r answer).touch ≠ .look false := unlooked _ (List.mem_append_right _ List.mem_cons_self) false
    obtain ⟨extra, audio, less, -⟩ := steady.sound.hear headed move blind
    rw [due] at less
    obtain ⟨none, due'⟩ : extra.length = 0 ∧ s'.phase.due = 0 := by omega
    refine ⟨due', ?_⟩
    show (d.heard headed (trace ++ [⟨r, answer⟩])).audio = []
    rw [d.heard_snoc, audio, List.eq_nil_of_length_eq_zero none, List.append_nil]
    exact silent

/-- The whole path of a call from its beginning. -/
theorem Steady.of_path {command : Command} (begins : d.Headed headed)
    (path : Path d.moves (.enter (d.errand command)) trace s) : Steady d headed trace s := by
  refine path.keeps (Steady d headed) ⟨⟨nofun, nofun, ?_⟩, Nat.le_refl _, fun _ => ⟨rfl, rfl⟩⟩ (Steady.move begins)
  intro plan plays chunk mem
  obtain ⟨track, settings, -, -, rfl⟩ := Design.errand_eq_play plays
  exact Sample.length_le_of_mem_chunks (by decide) mem

/-- What an alert call has added to the audio on its way from one stage to another. -/
structure Since (d : Design I Spec) (headed : Bool) (front : Trace I) (s : Stage Spec) (back : Trace I)
    (s' : Stage Spec) : Prop where
  steady : Steady d headed (front ++ back) s'
  cost : back.length + s'.cost ≤ s.cost
  added : ∃ extra, d.audio headed (front ++ back) = d.audio headed front ++ extra ∧
    extra.length + s'.phase.due ≤ s.phase.due ∧ ∀ bytes ∈ extra, bytes.length ≤ chunkLength

theorem Since.move {s'' : Stage Spec} {r : I.Request} {answer : I.Answer r} (begins : d.Headed headed)
    (since : Since d headed front s back s') (move : d.moves s' r answer s'')
    (alert : d.touch r answer ≠ .look false) : Since d headed front s (back ++ [⟨r, answer⟩]) s'' := by
  obtain ⟨steady, cost, extra, audio, few, small⟩ := since
  obtain ⟨more, audio', few', small'⟩ := steady.sound.hear headed move alert
  have less := Move.cost_lt move alert
  refine ⟨?_, ?_, extra ++ more, ?_, ?_, ?_⟩
  · rw [← List.append_assoc]
    exact steady.move begins move
  · rw [List.length_append, List.length_singleton]
    omega
  · show (d.heard headed (front ++ (back ++ [⟨r, answer⟩]))).audio = _
    rw [← List.append_assoc, d.heard_snoc, audio', ← List.append_assoc, ← audio]
    rfl
  · rw [List.length_append]
    omega
  · intro bytes mem
    rcases List.mem_append.1 mem with mem | mem
    · exact small bytes mem
    · exact small' bytes mem

/-- What is still written, and how much is still asked, once no look misses the signal. -/
theorem Since.of_path (begins : d.Headed headed) (steady : Steady d headed front s) (path : Path d.moves s back s')
    (alert : Alert d.touch back) : Since d headed front s back s' := by
  suffices all : Alert d.touch back → Since d headed front s back s' from all alert
  refine path.keeps (fun back s' => Alert d.touch back → Since d headed front s back s') ?_ ?_
  · intro _
    rw [← List.append_nil front] at steady
    refine ⟨steady, Nat.le_of_eq (Nat.zero_add _), [], ?_, Nat.le_of_eq (Nat.zero_add _), nofun⟩
    rw [List.append_nil, List.append_nil]
  · intro back s' r answer s'' since move alert
    exact (since fun x mem => alert x (List.mem_append_left _ mem)).move begins move
      (alert _ (List.mem_append_right _ List.mem_cons_self))

end Paths

/-! ## Stopping -/

/-- Let one thread play and others stop and close. When the signal is set after a play has taken it back, this play
    begins to write at most one more piece of audio, of at most 256 bytes, and none at all if it has not looked at the
    signal yet. It makes no more than 15 further requests, so that it leaves its loop. Whatever is written counts, but
    for the header of a stream where streams begin with one. -/
def StopsShort (T : Type) [DecidableEq T] (d : Design I Spec) (headed : Bool) : Prop :=
  ∀ {σ : Type} {answers : Surroundings (fun _ : T => I) σ} {raised : σ → Bool} {commands : T → Nat → Command}
    {player : T} {shared : σ} {history before after : History T I (Except PlayError Unit)}
    {s : State (fun _ => I) (fun _ => Except PlayError Unit) σ}
    {e : Event (fun _ : T => I) fun _ : T => Except PlayError Unit} {n : Nat},
    Signalled d.touch answers raised →
    (∀ u n track settings, u ≠ player → commands u n ≠ .play track settings) →
    Run (calls d.output commands) answers shared history s → history = before ++ e :: after →
    Raises d.touch e → Lowered d.touch (own player n before) →
    ∃ extra, d.audio headed (own player n history) = d.audio headed (own player n before) ++ extra ∧
      extra.length ≤ 1 ∧ (∀ bytes ∈ extra, bytes.length ≤ chunkLength) ∧
      ((∀ x ∈ own player n before, ∀ stopped, d.touch x.1 x.2 ≠ .look stopped) →
        d.audio headed (own player n history) = []) ∧
      (own player n after).length ≤ 15 ∧ (s.call player).rest ≠ .unfinished

omit [DecidableEq T] in
/-- Only plays take the signal back, and only to begin with. -/
theorem lowers_entered {d : Design I Spec} {commands : T → Nat → Command} {player : T}
    (alone : ∀ u n track settings, u ≠ player → commands u n ≠ .play track settings) :
    Lowers d.touch (fun _ : T => d.moves) (fun t n => .enter (d.errand (commands t n))) player
      fun s => s.phase = .entered ∧ s.errand ≠ .stop ∧ s.errand ≠ .close where
  only {t s r answer s'} move lower := by
    have move : Move d.header s (d.act r answer) s' := move
    unfold Design.touch at lower
    generalize d.act r answer = act at move lower
    cases move with
    | wait => cases lower
    | turn turn =>
      cases turn with
      | lower | skip => exact ⟨⟨rfl, nofun, nofun⟩, nofun⟩
      | _ => cases lower
  back {t s r answer s'} move entered := by
    have move : Move d.header s (d.act r answer) s' := move
    generalize d.act r answer = act at move
    cases move with
    | wait => exact entered
    | turn turn =>
      cases turn with
      | @opened plan h =>
        have away : afterOpening d.header plan h ≠ .entered := by
          unfold afterOpening
          cases d.header plan.spec <;> nofun
        exact absurd entered.1 away
      | _ => exact absurd entered.1 nofun
  alone t n other entered := by
    cases command : commands t n with
    | play track settings => exact alone t n track settings other command
    | stop => exact entered.2.1 (congrArg d.errand command)
    | close => exact entered.2.2 (congrArg d.errand command)

/-- **An output that keeps one stream open stops short.** -/
theorem Keeper.stopsShort (k : Keeper I Spec) {headed : Bool} (begins : k.Headed headed) :
    StopsShort T k.toDesign headed := by
  intro σ answers raised commands player shared history before after s e n signalled alone run split raises lowered
  have tracked : Tracked (calls k.output commands) answers shared (fun _ => .all) (fun _ => k.moves) (fun _ => Ends)
      fun t n => .enter (k.errand (commands t n)) := tracked_all fun t n => k.completes (commands t n)
  obtain ⟨stage, last, front, back, alert⟩ :=
    run.alert signalled (lowers_entered alone) tracked split raises lowered
  -- The path up to the stop says what is due there, and the alert path behind it adds no more than that.
  have steady := Steady.of_path begins front
  obtain ⟨-, cost, extra, audio, few, small⟩ := Since.of_path begins steady back alert
  rw [← own_append, ← split] at audio
  have few := Nat.le_of_add_right_le few
  refine ⟨extra, audio, Nat.le_trans few stage.phase.due_le, small, ?_, ?_, tracked.ne_unfinished run player⟩
  · intro unlooked
    obtain ⟨none, silent⟩ := steady.quiet unlooked
    rw [none] at few
    rw [audio, silent, List.eq_nil_of_length_eq_zero (Nat.le_zero.1 few), List.append_nil]
  · have few := length_own_le player n e after
    have small := Stage.cost_le steady.fits
    omega

end Playout.Transport
