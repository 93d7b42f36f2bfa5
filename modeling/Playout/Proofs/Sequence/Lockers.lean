import Playout.Proofs.Live.Keeper
import Playout.Proofs.Poll.Alone
import Playout.Proofs.Poll.Custodian
import Playout.Proofs.Sequence.Balance
import Playout.Proofs.Simple.Keeper

/-!
# `Playout.Proofs.Sequence.Lockers` — the slots of the outputs

## Contents
- `Act.deed`, `Move.handling` — an output that keeps one stream open hands its handle on.
- `Housed` — such an output with its memory; `Housed.call` — what its calls do.
- `Live.tended`, `Simple.tended`, `Poll.tended` — what the calls of each output do.
- `Live.opens`, `Simple.opens`, `Poll.opens` — what their openings do.
-/

namespace Playout

open Sequence Transport Program

/-! ## Outputs that keep one stream open -/

namespace Transport

variable {Spec : Type}

/-- What an act does to the slot or to handles. -/
def Act.deed : Act Spec → Deed
  | .take found => .took (found.map Prod.snd)
  | .put kept => .put (kept.map Prod.snd)
  | .opened h => .does (.opened h)
  | .refused => .does .refused
  | .release h => .does (.dropped h)
  | .write h _ _ => .does (.used h)
  | .lower | .raise | .look _ | .other => .does .nothing

/-- Every move on an errand may be made with the stream that the call has. -/
theorem Move.handling {header : Spec → Option (List UInt8)} {s s' : Stage Spec} {act : Act Spec}
    (move : Move header s act s') : Handling s.custody act.deed s'.custody := by
  cases move with
  | wait => exact .nothing
  | turn turn =>
    cases turn with
    | found | foreign => exact .found
    | unfilled => exact .unfilled
    | closing => exact .closing
    | closed => exact .closed
    | released | dropped => exact .dropped
    | left | emptied => exact .emptied
    | opened =>
      rw [custody_afterOpening]
      exact .opened
    | refused => exact .refused
    | greeted | ungreeted | wrote | tore => exact .used
    | finished | kept => exact .kept
    | lower | skip | stop | raise | goOn | halt | rested => exact .nothing

end Transport

namespace Sequence

variable {I : Interface} {M Spec : Type} {k : Keeper I Spec} {l : Locker I M}

/-- An output that keeps one stream open, with its memory, in which the only lock is that of the slot. -/
structure Housed (k : Keeper I Spec) (l : Locker I M) : Prop where
  deeds : ∀ r answer, l.deed r answer = (k.act r answer).deed
  waits : ∀ {r m}, l.deal r m = .blocks → l.locked m = true ∧ ∃ answer found, k.act r answer = .take found

/-- Where a call may end that keeps to its errand. -/
theorem ends_of_errand {command : Command} {s : Stage Spec} {result : Except PlayError Unit}
    (same : s.errand = k.errand command) (ended : Transport.Ends s result) :
    Ends k.accepts command s.custody result := by
  obtain ⟨errand, φ, left⟩ := s
  obtain rfl : errand = _ := same
  cases command with
  | stop | close =>
    cases φ with
    | gone => trivial
    | _ => cases ended
  | play track settings =>
    by_cases accepted : k.accepts track = true
    · rw [Design.errand_of_accepts accepted] at ended ⊢
      cases φ with
      | gone fine => exact ended
      | _ => cases ended
    · rw [Design.errand_of_refuses accepted] at ended ⊢
      cases φ with
      | gone fine => exact ended
      | ready => exact eq_false_of_ne_true accepted
      | _ => cases ended

/-- **What a call does.** -/
theorem Housed.call (h : Housed k l) {native : Native I} {s s' : M × List (Made I)} {command : Command}
    {ending : Ending (Except PlayError Unit)} (rests : l.Rests s)
    (yields : Yields k.output l.deal native s command ending s') :
    ∃ x, l.Grasps s' x ∧ Stopped (Ends k.accepts command) x ending := by
  have same := Completes.keeps (fun s => s.errand = k.errand command) (k.completes command) rfl
    fun _ _ _ _ same (move : Move k.header _ _ _) => move.errand_eq.trans same
  have follows : (command.program k.output).Follows l.moves (Ends k.accepts command)
      (Stage.enter (k.errand command)).custody := by
    refine same.follows Stage.custody ?_ fun s result ended => ends_of_errand ended.1 ended.2
    intro s r answer s' move
    show Handling s.custody (l.deed r answer) s'.custody
    rw [h.deeds]
    exact Move.handling move
  have start : l.Grasps s (Stage.enter (k.errand command)).custody := by
    cases k.errand command <;> exact rests
  have kept := run_keeps (react l.deal native) (fun x s => l.Grasps s x) follows start (fun grasps moves => ?_)
    fun grasps handling told => Locker.grasps_step handling grasps told
  · rw [yields] at kept
    exact kept
  · refine Locker.answered grasps moves ?_
    intro blocks
    obtain ⟨locked, answer, found, took⟩ := h.waits blocks
    exact ⟨locked, answer, _, (h.deeds _ _).trans (congrArg Act.deed took)⟩

end Sequence

namespace Live

/-- The stream in the slot. -/
def locker : Locker Live.Interface (Store Format) where
  deal := deal
  deed r answer := (act r answer).deed
  slot m := m.slot.map Prod.snd
  locked m := m.locked
  inside {r answer m m'} dealt := by
    cases r with
    | takeStream =>
      obtain ⟨free, rfl, rfl⟩ := Dealt.taken dealt
      exact .took free rfl
    | putStream stream =>
      cases dealt
      exact .put rfl rfl
    | log | stopRequested =>
      cases dealt
      exact .nothing rfl rfl
    | setStop value =>
      cases dealt
      cases value <;> exact .nothing rfl rfl
    | openStream | releaseStream | playChunk => cases dealt
  native {r m handed} dealt answer := by
    cases r with
    | takeStream => exact absurd dealt Dealt.ne_native
    | openStream | playChunk => cases answer <;> exact ⟨_, rfl⟩
    | releaseStream => exact ⟨_, rfl⟩
    | log | setStop | stopRequested | putStream => cases dealt

theorem deal_locker : locker.deal = deal := rfl

theorem housed : Housed keeper locker where
  deeds _ _ := rfl
  waits {r m} blocks := by
    cases r with
    | takeStream => exact ⟨Dealt.locked_of_blocks blocks, none, none, rfl⟩
    | _ => cases blocks

theorem tended : Tended output locker design.accepts fun _ => True where
  call _ rests yields := housed.call rests yields
  idles _ _ := trivial
  reopens {native s track settings ending s'} accepted _ rests empty yields := by
    obtain ⟨⟨signal, slot, locked⟩, made⟩ := s
    obtain rfl : locked = false := rests.free
    obtain rfl : slot = none := Option.map_eq_none_iff.1 empty
    obtain ⟨some, valid⟩ := accepts_iff.1 accepted
    obtain ⟨width, valid⟩ := width_of_valid valid
    simp only [Yields, Command.program, output, play, playBytes, streamFor, some, valid, bind_eq, pure_eq, ask_bind,
      done_bind, Bool.false_eq_true, if_false, Program.run, react, deal_locker, deal] at yields
    refine begun_with ?_ yields
    cases native made (.openStream (Format.ofTrack track settings.order)) {} <;> rfl
  untouched {native s track settings ending s'} refused yields := by
    simp only [Yields, Command.program, output, play, bind_eq, pure_eq, ask_bind, done_bind, Program.run, react,
      deal_locker, deal] at yields
    obtain empty | ⟨some, e, checked⟩ := empty_or_unplayable refused
    · simp only [empty, if_true] at yields
      cases yields
      exact ⟨.empty empty, rfl⟩
    · simp only [some, Bool.false_eq_true, if_false, checked] at yields
      cases yields
      exact ⟨.unplayable checked, rfl⟩

theorem opens : Opens (.done (.ok output)) output locker {} fun _ => True := fun _ => ⟨rfl, trivial, rfl, rfl⟩

end Live

namespace Simple

variable {c : Config}

/-- The connection in the slot. -/
def locker : Locker Simple.Interface (Store SampleSpec) where
  deal := deal
  deed r answer := (act r answer).deed
  slot m := m.slot.map Prod.snd
  locked m := m.locked
  inside {r answer m m'} dealt := by
    cases r with
    | takeConnection =>
      obtain ⟨free, rfl, rfl⟩ := Dealt.taken dealt
      exact .took free rfl
    | putConnection connection =>
      cases dealt
      exact .put rfl rfl
    | log | resetSignal | cancelSignal | cancelled =>
      cases dealt
      exact .nothing rfl rfl
    | pause | clock | dial | send | hangUp => cases dealt
  native {r m handed} dealt answer := by
    cases r with
    | takeConnection => exact absurd dealt Dealt.ne_native
    | dial | send => cases answer <;> exact ⟨_, rfl⟩
    | pause | clock | hangUp => exact ⟨_, rfl⟩
    | log | resetSignal | cancelSignal | cancelled | putConnection => cases dealt

theorem deal_locker : locker.deal = deal := rfl

theorem housed : Housed (keeper c) locker where
  deeds _ _ := rfl
  waits {r m} blocks := by
    cases r with
    | takeConnection => exact ⟨Dealt.locked_of_blocks blocks, none, none, rfl⟩
    | _ => cases blocks

theorem tended : Tended (output c) locker (design c).accepts fun _ => True where
  call _ rests yields := housed.call rests yields
  idles _ _ := trivial
  reopens {native s track settings ending s'} accepted _ rests empty yields := by
    obtain ⟨⟨signal, slot, locked⟩, made⟩ := s
    obtain rfl : locked = false := rests.free
    obtain rfl : slot = none := Option.map_eq_none_iff.1 empty
    obtain ⟨⟨some, valid⟩, few⟩ := accepts_iff.1 accepted
    obtain ⟨width, valid⟩ := width_of_valid valid
    simp only [Yields, Command.program, output, play, playTrack, connectionFor, connect, some, valid, Nat.not_lt.2 few,
      bind_eq, pure_eq, ask_bind, done_bind, Bool.false_eq_true, if_false, Program.run, react, deal_locker, deal]
      at yields
    refine begun_with ?_ yields
    cases native made (.dial c.server) {} <;> rfl
  untouched {native s track settings ending s'} refused yields := by
    simp only [Yields, Command.program, output, play, bind_eq, pure_eq, ask_bind, done_bind, Program.run, react,
      deal_locker, deal] at yields
    rcases Bool.and_eq_false_iff.1 refused with refused | many
    · obtain empty | ⟨some, e, checked⟩ := empty_or_unplayable refused
      · simp only [empty, if_true] at yields
        cases yields
        exact ⟨.empty empty, rfl⟩
      · simp only [some, Bool.false_eq_true, if_false, checked] at yields
        cases yields
        exact ⟨.unplayable checked, rfl⟩
    -- A valid track may still have more channels than a header can announce.
    · have many : maxChannels < track.channels.toNat := Nat.not_le.1 (of_decide_eq_false many)
      simp only [many, if_true] at yields
      split at yields
      · next empty =>
        cases yields
        exact ⟨.empty empty, rfl⟩
      · split at yields
        · next e checked =>
          cases yields
          exact ⟨.unplayable checked, rfl⟩
        · cases yields
          exact ⟨.inr ⟨_, rfl, rfl⟩, rfl⟩

theorem opens : Opens (openOutput c) (output c) locker {} fun _ => True := by
  intro native
  simp only [openOutput, connect, bind_eq, pure_eq, ask_bind, done_bind, Program.run, react, deal_locker, deal]
  cases native [] (.dial c.server) {} with
  | error failure => rfl
  | ok h =>
    simp only [List.nil_append, ask_bind, Program.run, react, deal]
    cases native [⟨.dial c.server, {}, .ok h⟩] (.send h (encode .initial (UInt32.ofNat c.minLength))) {} with
    | error failure =>
      simp [Program.run, react, deal, holding, Locker.effect, locker, act, Act.deed, Effect.on]
    | ok _ =>
      refine ⟨rfl, trivial, rfl, ?_⟩
      simp [holding, Locker.effect, locker, act, Act.deed, Effect.on]

end Simple

namespace Poll

/-- What a request does to the slot or to handles. -/
def deed : (r : Poll.Request) → Poll.Request.Answer r → Deed
  | .takeDevice, found => .took found
  | .putDevice kept, _ => .put kept
  | .openDevice _, .ok h => .does (.opened h)
  | .openDevice _, .error _ => .does .refused
  | .releaseDevice h, _ => .does (.dropped h)
  | .configure h _, _ | .periodLength h, _ | .write h _, _ | .wait h _ _, _ | .dropPending h, _ => .does (.used h)
  | .log _, _ | .createWakeup, _ | .takeActive, _ | .putActive _, _ | .clearWakeup, _ | .notifyWakeup, _ =>
    .does .nothing

/-- The device in the slot. -/
def locker : Locker Poll.Interface (Shared Unit) where
  deal := deal
  deed := deed
  slot m := m.slot
  locked m := m.keeper.isSome
  inside {r answer m m'} dealt := by
    cases r with
    | takeDevice =>
      obtain ⟨free, rfl, rfl⟩ := Dealt.taken dealt
      exact .took free rfl
    | takeActive =>
      obtain ⟨-, rfl, rfl⟩ := Dealt.taken dealt
      exact .nothing rfl rfl
    | putDevice kept =>
      cases dealt
      exact .put rfl rfl
    | log | putActive | clearWakeup | notifyWakeup =>
      cases dealt
      exact .nothing rfl rfl
    | _ => cases dealt
  native {r m handed} dealt answer := by
    cases r with
    | takeDevice | takeActive => exact absurd dealt Dealt.ne_native
    | log | putDevice | putActive | clearWakeup | notifyWakeup => cases dealt
    | openDevice => cases answer <;> exact ⟨_, rfl⟩
    | _ => exact ⟨_, rfl⟩

theorem deal_locker : locker.deal = deal := rfl

/-- Every move of a call may be made with the device that it has. -/
theorem Move.handling {s s' : Stage} {r : Poll.Request} {answer : Poll.Request.Answer r} (move : Move s r answer s') :
    Handling s.phase.custody (deed r answer) s'.phase.custody := by
  cases move with
  | log => exact .nothing
  | turn turn =>
    cases turn with
    | found => exact .found
    | unfilled => exact .unfilled
    | opened => exact .opened
    | refused => exact .refused
    | kept => exact .kept
    | condemned | released | doomed => exact .dropped
    | left | shut => exact .emptied
    | close => exact .closing
    | closed => exact .closed
    | spurned | granted | measured | wrote | tore | ready | drained | halted | stalled | lost | tidied => exact .used
    | lock | sweep | mark | drain | relock | unmark | enter | notify | heeded | unheeded => exact .nothing

variable {cfg : Config}

/-- Where a call may end. -/
theorem Ends.custody {command : Command} {s : Stage} {result : Except PlayError Unit} (ended : Ends command s result) :
    Sequence.Ends accepts command s.phase.custody result := by
  obtain ⟨φ, left⟩ := s
  cases command with
  | play track settings =>
    cases φ with
    | gone kept => exact ended
    | barred => exact eq_false_of_ne_true ended
    | _ => cases ended
  | stop =>
    cases φ with
    | heard => trivial
    | _ => cases ended
  | close =>
    cases φ with
    | shut => rfl
    | _ => cases ended

/-- A call begins with the slot at rest. -/
theorem grasps_enter {s : Shared Unit × List (Made Poll.Interface)} (rests : locker.Rests s) (command : Command) :
    locker.Grasps s (enter command).custody := by
  cases command with
  | stop | close => exact rests
  | play track settings =>
    by_cases accepted : accepts track = true
    · rw [enter_play accepted]
      exact rests
    · rw [enter_refused accepted]
      exact rests

theorem tended : Tended (output cfg) locker accepts (Alone .apart) where
  call {native s command ending s'} alone rests yields := by
    have kept := run_keeps (react locker.deal native)
      (fun x s => Alone x.phase.stance s.1 ∧ locker.Grasps s x.phase.custody) (follows cfg command)
      ⟨alone.enter command, grasps_enter rests command⟩
      (fun grasps moves => grasps.1.answered native fun answer => (moves answer).imp' _ fun _ => Move.shift)
      fun grasps move told =>
        ⟨(Move.shift move).alone grasps.1 told, Locker.grasps_step (Move.handling move) grasps.2 told⟩
    rw [yields] at kept
    obtain ⟨x, ⟨-, grasps⟩, ended⟩ := kept
    exact ⟨x.phase.custody, grasps, ended.imp fun _ => Ends.custody⟩
  idles alone yields := run_alone alone yields
  reopens {native s track settings ending s'} accepted alone rests empty yields := by
    obtain ⟨⟨slot, keeper, active, holder, wakeup⟩, made⟩ := s
    obtain rfl : keeper = none := alone.idle.1
    obtain rfl : slot = none := empty
    obtain ⟨some, width, valid⟩ := accepts_iff.1 accepted
    simp only [Yields, Command.program, output, play, some, valid, bind_eq, pure_eq, ask_bind, done_bind,
      Bool.false_eq_true, if_false, Program.run, react, deal_locker, deal, Option.isSome_none] at yields
    refine begun_with ?_ yields
    cases native made (.openDevice cfg.device) {} <;> rfl
  untouched {native s track settings ending s'} refused yields := by
    simp only [Yields, Command.program, output, play, bind_eq, pure_eq, ask_bind] at yields
    obtain empty | ⟨some, e, checked⟩ := empty_or_unplayable refused
    · simp only [empty, if_true] at yields
      cases yields
      exact ⟨.empty empty, rfl⟩
    · simp only [some, Bool.false_eq_true, if_false, checked] at yields
      cases yields
      exact ⟨.unplayable checked, rfl⟩

/-- Whatever the wakeup is like. -/
theorem opens (wakeup : Wakeup) : Opens (openOutput cfg) (output cfg) locker { wakeup } (Alone .apart) := by
  intro native
  simp only [openOutput, bind_eq, pure_eq, ask_bind, done_bind, Program.run, react, deal_locker, deal]
  cases native [] (.openDevice cfg.device) {} with
  | error failure => rfl
  | ok h =>
    simp only [List.nil_append, Program.run, react, deal]
    cases native [⟨.openDevice cfg.device, {}, .ok h⟩] .createWakeup {} with
    | error failure =>
      simp [Program.run, react, deal, holding, Locker.effect, locker, deed, Effect.on]
    | ok _ =>
      have idle : Alone .apart { slot := some h, wakeup } := ⟨rfl, rfl, rfl, by decide⟩
      refine ⟨rfl, idle, rfl, ?_⟩
      simp [holding, Locker.effect, locker, deed, Effect.on]

end Poll

end Playout
