import Mathlib.Order.Bounds.Defs
import Playout.Proofs.Paced.Delivery
import Playout.Proofs.Poll.Heeding

/-!
# `Playout.Proofs.Poll.Delivery` — what a device takes of a track, and what becomes of the device

A playback hands over all that is due again and again, of which the device takes as much as it likes, down to nothing.
What it has taken and what is still due make up the track, filled up to a whole number of periods. However the playback
ends, what the device still holds is thrown away once; then the device goes back into the slot or is closed.

## Contents
- `padded_filledUp` — no more silence than it takes to fill up the last period.
- `taken`, `periods`, `drains` — what a trace has handed over, measured and waited for.
- `Feed`, `Feeds`, `play_feeds` — the protocol: what is still due.
- `Fed`, `Feeds.fed` — what is due and what has been taken.
- `Account`, `account`, `Phase.Settles`, `Turn.settles` — what becomes of the device.
- `delivers_and_tidies` — both together.
- `path_two_frames`, `frames_delivered` — a playback on a device that takes nothing at first.
-/

namespace Playout.Poll

open Interleaving Transport Program
open Paced (trackBytes)

/-! ## Silence -/

/-- `whole` is the bytes with the least silence behind them that fills up the last period. A period without bytes needs
    none. -/
structure FilledUp (period : Nat) (bytes : List UInt8) (silence : Nat) : Prop where
  filled : padded period bytes = bytes ++ List.replicate silence 0
  none : period = 0 → silence = 0
  least : period ≠ 0 → IsLeast {k | period ∣ bytes.length + k} silence

theorem padded_filledUp (period : Nat) (bytes : List UInt8) : ∃ silence, FilledUp period bytes silence := by
  by_cases zero : period = 0
  · refine ⟨0, ?_, fun _ => rfl, absurd zero⟩
    rw [padded, if_pos zero]
    exact (List.append_nil _).symm
  · refine ⟨(period - bytes.length % period) % period, ?_, fun none => absurd none zero, fun _ => ⟨?_, ?_⟩⟩
    · rw [padded, if_neg zero]
    · have whole := @length_padded_mod period bytes
      rw [padded, if_neg zero, if_neg zero, List.length_append, List.length_replicate] at whole
      exact Nat.dvd_of_mod_eq_zero whole
    · -- Whatever fills up the last period is as much as is missing there, or more.
      intro k fills
      have below : bytes.length % period < period := Nat.mod_lt _ (Nat.pos_of_ne_zero zero)
      have missing : (bytes.length % period + k) % period = 0 := by
        rw [Nat.mod_add_mod]
        exact Nat.mod_eq_zero_of_dvd fills
      by_cases full : bytes.length % period = 0
      · rw [full, Nat.sub_zero, Nat.mod_self]
        exact Nat.zero_le _
      · rw [Nat.mod_eq_of_lt (by omega)]
        by_contra short
        rw [Nat.mod_eq_of_lt (by omega)] at missing
        omega

/-! ## Traces -/

/-- What a write has handed over, and how much of it the device has taken. -/
def took? : (Σ r : Poll.Request, Poll.Request.Answer r) → Option (List UInt8 × Nat)
  | ⟨.write _ bytes, .ok n⟩ => some (bytes, n)
  | _ => none

/-- The length of a period that the device has told. -/
def period? : (Σ r : Poll.Request, Poll.Request.Answer r) → Option Nat
  | ⟨.periodLength _, period⟩ => some period
  | _ => none

/-- How a wait for the device to drain has ended. -/
def drain? : (Σ r : Poll.Request, Poll.Request.Answer r) → Option (Except Failure Readiness)
  | ⟨.wait _ true _, outcome⟩ => some outcome
  | _ => none

/-- The bytes that the device has taken in a trace: of each write the first so many. -/
def taken (trace : Trace Poll.Interface) : List UInt8 := (trace.filterMap took?).flatMap fun x => x.1.take x.2

/-- The lengths of a period that the device has told. -/
def periods (trace : Trace Poll.Interface) : List Nat := trace.filterMap period?

/-- How the waits for the device to drain have ended. -/
def drains (trace : Trace Poll.Interface) : List (Except Failure Readiness) := trace.filterMap drain?

section Traces

variable (trace : Trace Poll.Interface) (x : Σ r : Poll.Request, Poll.Request.Answer r)

theorem taken_snoc : taken (trace ++ [x]) = taken trace ++ (took? x).elim [] fun x => x.1.take x.2 := by
  unfold taken
  rw [filterMap_snoc, List.flatMap_append]
  cases took? x <;> simp

/-- What is not handed over is not taken. -/
theorem taken_silent (silent : took? x = none) : taken (trace ++ [x]) = taken trace := by
  unfold taken
  rw [filterMap_snoc_none silent]

theorem periods_snoc : periods (trace ++ [x]) = periods trace ++ (period? x).toList := filterMap_snoc ..

theorem drains_snoc : drains (trace ++ [x]) = drains trace ++ (drain? x).toList := filterMap_snoc ..

end Traces

/-! ## What is due -/

/-- Where a play stands with its bytes. -/
inductive Feed where
  /-- The length of a period has not been told. -/
  | idle
  /-- The device is ready for what is left. -/
  | due (rest : List UInt8)
  | waiting (rest : List UInt8)
  | drained
  /-- A wait has been ended by a stop. -/
  | stopped
  | failed

/-- Whether the device may be waited for. -/
def Feed.awaits : Feed → Bool
  | due [] | waiting _ => true
  | _ => false

/-- A request that neither measures nor writes nor waits. -/
def Request.aside : Poll.Request → Bool
  | .periodLength _ | .write .. | .wait .. => false
  | _ => true

/-- How a request changes what is due of some bytes. -/
inductive Feeds (bytes : List UInt8) : Feed → (r : Poll.Request) → Poll.Request.Answer r → Feed → Prop where
  | pass {x r answer} (aside : r.aside = true) : Feeds bytes x r answer x
  | measure {h period} : Feeds bytes .idle (.periodLength h) period (.due (padded period bytes))
  -- All that is due is handed over, and what the device does not take stays due.
  | put {h rest n} : Feeds bytes (.due rest) (.write h rest) (.ok n) (.waiting (rest.drop n))
  | tore {h rest failure} : Feeds bytes (.due rest) (.write h rest) (.error failure) .failed
  | ready {h rest timeout} : Feeds bytes (.waiting rest) (.wait h false timeout) (.ok .ready) (.due rest)
  | drained {h timeout} : Feeds bytes (.due []) (.wait h true timeout) (.ok .ready) .drained
  | stopped {x h draining timeout} (awaits : x.awaits = true) :
      Feeds bytes x (.wait h draining timeout) (.ok .stopped) .stopped
  | stalled {x h draining timeout} (awaits : x.awaits = true) :
      Feeds bytes x (.wait h draining timeout) (.ok .timedOut) .failed
  | lost {x h draining timeout failure} (awaits : x.awaits = true) :
      Feeds bytes x (.wait h draining timeout) (.error failure) .failed

/-- The protocol. -/
def feeds (bytes : List UInt8) : Moves Poll.Interface Feed := fun x r answer x' => Feeds bytes x r answer x'

section Programs

variable {α : Type} {cfg : Config} {h : Handle} {bytes : List UInt8} {x : Feed} {ends : Feed → α → Prop}

/-- A request that neither measures nor writes nor waits. -/
theorem passes {r : Poll.Request} {next : Poll.Request.Answer r → Action α} (aside : r.aside = true)
    (rest : ∀ answer, (next answer).Follows (feeds bytes) ends x) : (Program.ask r next).Follows (feeds bytes) ends x :=
  Follows.stay (fun _ => .pass aside) rest

/-- How a wait ends, if it leads to `ready` when the device is ready. -/
def AwaitFeeds (ready : Feed) (x : Feed) : Except PlayError Bool → Prop
  | .ok false => x = ready
  | .ok true => x = .stopped
  | .error _ => True

theorem await_feeds {draining : Bool} {ready : Feed} (awaits : x.awaits = true)
    (turns : ∀ timeout, Feeds bytes x (.wait h draining timeout) (.ok .ready) ready) :
    (await cfg h draining).Follows (feeds bytes) (AwaitFeeds ready) x := by
  rintro (failure | (_ | _ | _))
  · exact ⟨_, .lost awaits, passes rfl fun _ => Follows.done trivial⟩
  · exact ⟨_, turns _, Follows.done rfl⟩
  · exact ⟨_, .stopped awaits, Follows.done rfl⟩
  · exact ⟨_, .stalled awaits, passes rfl fun _ => Follows.done trivial⟩

/-- The loop ends well when all is drained, or a wait was ended by a stop. -/
theorem stream_feeds (rounds : Nat) (rest : List UInt8) :
    (stream cfg h rounds rest).Follows (feeds bytes) (AwaitFeeds .drained) (.due rest) := by
  induction rounds generalizing rest with
  | zero => trivial
  | succ rounds ih =>
    unfold stream
    split
    · next none =>
      rw [List.isEmpty_iff.1 none]
      exact passes rfl fun _ => await_feeds rfl fun _ => .drained
    · rintro (failure | n)
      · exact ⟨_, .tore, passes rfl fun _ => Follows.done trivial⟩
      · refine ⟨_, .put, ?_⟩
        simp only [done_bind]
        refine Follows.bind (await_feeds rfl fun _ => .ready) ?_
        rintro x (e | (_ | _)) awaited
        · exact Follows.done trivial
        · obtain rfl := awaited
          exact ih _
        · exact Follows.done awaited

/-- A play that has ended well has come to the end of its bytes, or was stopped. -/
def PlayFeeds (x : Feed) (result : Except PlayError Unit) : Prop := result = .ok () → x = .drained ∨ x = .stopped

/-- What the device still holds is thrown away, of which there is a message if it fails. -/
theorem dropPending_feeds {k : Except Failure Unit → Action α} {next : Action α} (well : k (.ok ()) = next)
    (failed : ∀ failure, ∃ line, k (.error failure) = Program.ask (Request.log line) fun _ => next)
    (rest : next.Follows (feeds bytes) ends x) : ((dropPending h).bind k).Follows (feeds bytes) ends x := by
  refine passes rfl ?_
  rintro (failure | _)
  · obtain ⟨line, logs⟩ := failed failure
    show (k (.error failure)).Follows (feeds bytes) ends x
    rw [logs]
    exact passes rfl fun _ => rest
  · show (k (.ok ())).Follows (feeds bytes) ends x
    rw [well]
    exact rest

/-- What is done behind the loop leaves the bytes as they are. -/
theorem playBytes_feeds (whole : List UInt8) :
    (playBytes cfg h whole).Follows (feeds bytes) PlayFeeds (.due whole) := by
  refine passes rfl fun _ => passes rfl fun _ => passes rfl fun _ => passes rfl fun _ => ?_
  simp only [done_bind]
  refine Follows.bind (stream_feeds _ whole) ?_
  rintro x outcome awaited
  refine passes rfl fun _ => passes rfl fun _ => ?_
  cases outcome with
  | error e =>
    refine dropPending_feeds rfl (fun _ => ⟨_, rfl⟩) ?_
    exact passes rfl fun _ => passes rfl fun _ => passes rfl fun _ => Follows.done nofun
  | ok stopped =>
    cases stopped with
    | true =>
      refine passes rfl fun _ => dropPending_feeds rfl (fun _ => ⟨_, rfl⟩) ?_
      exact passes rfl fun _ => Follows.done fun _ => .inr awaited
    | false =>
      refine dropPending_feeds rfl (fun _ => ⟨_, rfl⟩) ?_
      exact passes rfl fun _ => Follows.done fun _ => .inl awaited

/-- A request that neither measures nor writes nor waits. -/
abbrev Aside (r : Poll.Request) : Prop := r.aside = true

theorem negotiate_asks (wanted : Paced.StreamParams) : (negotiate h wanted).Asks Aside := by
  refine ⟨rfl, ?_⟩
  rintro (failure | granted)
  · exact ⟨rfl, fun _ => trivial⟩
  · simp only [done_bind]
    split
    · exact ⟨rfl, fun _ => trivial⟩
    · split
      · exact ⟨rfl, fun _ => trivial⟩
      · split
        · exact ⟨rfl, fun _ => trivial⟩
        · trivial

theorem playOn_feeds (track : Track) (settings : PlaySettings) :
    (playOn cfg track settings.volume h).Follows (feeds (trackBytes track settings)) PlayFeeds .idle := by
  have agreed : (negotiate h (.ofTrack track)).Follows (feeds (trackBytes track settings)) (fun x _ => x = .idle) .idle :=
    Asks.follows (negotiate_asks _) (fun aside _ => .pass aside) fun _ => rfl
  refine Follows.bind agreed ?_
  rintro _ (e | granted) rfl
  · exact passes rfl fun _ => passes rfl fun _ => Follows.done nofun
  · exact fun period => ⟨_, .measure, playBytes_feeds _⟩

/-- A play of a track that is not empty keeps to the protocol. -/
theorem play_feeds {track : Track} {width : Nat} (cfg : Config) (settings : PlaySettings) (some : track.isEmpty = false)
    (valid : track.validate = .ok width) :
    (play cfg track settings).Follows (feeds (trackBytes track settings)) PlayFeeds .idle := by
  unfold play
  simp only [some, valid, Bool.false_eq_true, if_false]
  refine passes rfl ?_
  rintro (_ | h)
  · refine passes rfl ?_
    rintro (failure | h)
    · exact passes rfl fun _ => passes rfl fun _ => Follows.done nofun
    · exact playOn_feeds track settings
  · exact playOn_feeds track settings

end Programs

/-! ## What is due and what has been taken -/

/-- The first bytes of a track that is filled up to whole periods have been taken, or none before the length of a period
    was told. -/
def Begun (bytes : List UInt8) (trace : Trace Poll.Interface) : Prop :=
  (periods trace = [] ∧ taken trace = []) ∨
    ∃ period, periods trace = [period] ∧ taken trace <+: padded period bytes

/-- All has been taken, and then the device has been waited for once to drain. -/
structure Drained (bytes : List UInt8) (trace : Trace Poll.Interface) : Prop where
  all : ∃ period, periods trace = [period] ∧ taken trace = padded period bytes
  once : ∃ front h timeout back, trace = front ++ ⟨.wait h true timeout, .ok .ready⟩ :: back ∧
    drains front = [] ∧ drains back = [] ∧ writes back = []

/-- What has been taken, by where the play stands. -/
def Fed (bytes : List UInt8) (trace : Trace Poll.Interface) : Feed → Prop
  | .idle => periods trace = [] ∧ taken trace = [] ∧ drains trace = []
  | .due rest | .waiting rest =>
    ∃ period, periods trace = [period] ∧ taken trace ++ rest = padded period bytes ∧ drains trace = []
  | .drained => Drained bytes trace
  | .stopped => .ok .stopped ∈ waits trace ∧ Begun bytes trace
  | .failed => Begun bytes trace

section Fed

variable {bytes : List UInt8} {trace : Trace Poll.Interface} {r : Poll.Request} {answer : Poll.Request.Answer r}
  {x x' : Feed}

/-- A request that neither measures nor writes nor waits does nothing to a trace. -/
theorem aside_nothing (aside : r.aside = true) : took? ⟨r, answer⟩ = none ∧ period? ⟨r, answer⟩ = none ∧
    drain? ⟨r, answer⟩ = none ∧ waited ⟨r, answer⟩ = none ∧ written ⟨r, answer⟩ = none := by
  cases r with
  | periodLength | write | wait => cases aside
  | _ => exact ⟨rfl, rfl, rfl, rfl, rfl⟩

theorem Begun.snoc (begun : Begun bytes trace) {y : Σ r : Poll.Request, Poll.Request.Answer r} (took : took? y = none)
    (measured : period? y = none) : Begun bytes (trace ++ [y]) := by
  have period : periods (trace ++ [y]) = periods trace := filterMap_snoc_none measured trace
  unfold Begun
  rw [taken_silent _ _ took, period]
  exact begun

theorem Drained.snoc (drained : Drained bytes trace) (aside : r.aside = true) :
    Drained bytes (trace ++ [⟨r, answer⟩]) := by
  obtain ⟨took, measured, undrained, -, unwritten⟩ := @aside_nothing r answer aside
  obtain ⟨period, told, all⟩ := drained.all
  obtain ⟨front, h, timeout, back, rfl, before, behind, silent⟩ := drained.once
  refine ⟨⟨period, ?_, ?_⟩, front, h, timeout, back ++ [⟨r, answer⟩], ?_, before, ?_, ?_⟩
  · exact (filterMap_snoc_none measured _).trans told
  · exact (taken_silent _ _ took).trans all
  · rw [List.append_assoc, List.cons_append]
  · exact (filterMap_snoc_none undrained back).trans behind
  · exact (filterMap_snoc_none unwritten back).trans silent

theorem Fed.pass (fed : Fed bytes trace x) (aside : r.aside = true) : Fed bytes (trace ++ [⟨r, answer⟩]) x := by
  obtain ⟨took, measured, undrained, -, -⟩ := @aside_nothing r answer aside
  have same : taken (trace ++ [⟨r, answer⟩]) = taken trace := taken_silent _ _ took
  have period : periods (trace ++ [⟨r, answer⟩]) = periods trace := filterMap_snoc_none measured trace
  have still : drains (trace ++ [⟨r, answer⟩]) = drains trace := filterMap_snoc_none undrained trace
  cases x with
  | idle | due | waiting =>
    unfold Fed
    rw [same, period, still]
    exact fed
  | drained => exact Drained.snoc fed aside
  | stopped =>
    refine ⟨?_, fed.2.snoc took measured⟩
    rw [waits_snoc]
    exact List.mem_append_left _ fed.1
  | failed => exact Begun.snoc fed took measured

/-- As long as something may be waited for, the first bytes have been taken. -/
theorem Fed.begun (fed : Fed bytes trace x) : Begun bytes trace := by
  cases x with
  | idle => exact .inl ⟨fed.1, fed.2.1⟩
  | due rest | waiting rest =>
    obtain ⟨period, told, all, -⟩ := fed
    exact .inr ⟨period, told, rest, all⟩
  | drained =>
    obtain ⟨period, told, all⟩ := fed.all
    exact .inr ⟨period, told, [], (List.append_nil _).trans all⟩
  | stopped => exact fed.2
  | failed => exact fed

/-- **What is due and what has been taken make up the track**, whatever a request does. -/
theorem Feeds.fed (move : Feeds bytes x r answer x') (fed : Fed bytes trace x) : Fed bytes (trace ++ [⟨r, answer⟩]) x' := by
  cases move with
  | pass aside => exact fed.pass aside
  | @measure h period =>
    obtain ⟨untold, nothing, undrained⟩ := fed
    refine ⟨period, ?_, ?_, ?_⟩
    · rw [periods_snoc, untold]
      rfl
    · rw [taken_snoc, nothing]
      rfl
    · rw [drains_snoc, undrained]
      rfl
  | @put h rest n =>
    obtain ⟨period, told, all, undrained⟩ := fed
    refine ⟨period, ?_, ?_, ?_⟩
    · rw [periods_snoc, told]
      rfl
    · rw [taken_snoc]
      show taken trace ++ rest.take n ++ rest.drop n = padded period bytes
      rw [List.append_assoc, List.take_append_drop]
      exact all
    · rw [drains_snoc, undrained]
      rfl
  | ready =>
    obtain ⟨period, told, all, undrained⟩ := fed
    refine ⟨period, ?_, ?_, ?_⟩
    · rw [periods_snoc, told]
      rfl
    · rw [taken_snoc, ← all]
      simp [took?]
    · rw [drains_snoc, undrained]
      rfl
  | @drained h timeout =>
    obtain ⟨period, told, all, undrained⟩ := fed
    rw [List.append_nil] at all
    refine ⟨⟨period, ?_, ?_⟩, trace, h, timeout, [], rfl, undrained, rfl, rfl⟩
    · rw [periods_snoc, told]
      rfl
    · rw [taken_snoc, all]
      exact List.append_nil _
  | tore => exact fed.begun.snoc rfl rfl
  | stopped =>
    refine ⟨?_, fed.begun.snoc rfl rfl⟩
    rw [waits_snoc]
    exact List.mem_append_right _ List.mem_cons_self
  | stalled | lost => exact fed.begun.snoc rfl rfl

end Fed

/-! ## What becomes of the device -/

/-- What a call has done with devices. -/
structure Account where
  /-- Those it has taken out of the slot or opened. -/
  acquired : List Handle := []
  /-- Those it has closed. -/
  released : List Handle := []
  /-- What it has left in the slot. -/
  puts : List (Option Handle) := []
  /-- Those that had to throw away what they still held. -/
  dropped : List Handle := []
  /-- Whether it has set the mark, behind which the loop begins. -/
  streamed : Bool := false

/-- One more request. -/
def Account.note (a : Account) : (Σ r : Poll.Request, Poll.Request.Answer r) → Account
  | ⟨.takeDevice, some h⟩ | ⟨.openDevice _, .ok h⟩ => { a with acquired := a.acquired ++ [h] }
  | ⟨.releaseDevice h, _⟩ => { a with released := a.released ++ [h] }
  | ⟨.putDevice device, _⟩ => { a with puts := a.puts ++ [device] }
  | ⟨.dropPending h, _⟩ => { a with dropped := a.dropped ++ [h] }
  | ⟨.putActive true, _⟩ => { a with streamed := true }
  | _ => a

/-- What a trace has done with devices. -/
def account (trace : Trace Poll.Interface) : Account := trace.foldl Account.note {}

theorem account_snoc (trace : Trace Poll.Interface) (x : Σ r : Poll.Request, Poll.Request.Answer r) :
    account (trace ++ [x]) = (account trace).note x := by
  unfold account
  rw [List.foldl_append]
  rfl

/-- Once the loop has begun, what the device still holds is thrown away once. -/
def Account.Tidy (a : Account) : Prop := a.streamed = true → a.dropped.length = 1

/-- What a play has done with devices when it comes to a phase. -/
def Phase.Settles : Phase → Account → Prop
  | entered, a | vacant, a => a = {}
  | held h, a | spurned h, a | granted h, a | agreed h, a | marking h, a | swept h, a => a = { acquired := [h] }
  | feeding h, a | waiting h _, a | ceased h _, a | unmarking h _, a | tidying h _, a =>
    a = { acquired := [h], streamed := true }
  | tidied h _, a => a = { acquired := [h], dropped := [h], streamed := true }
  | emptied, a => a.Tidy ∧ a.released = a.acquired ∧ a.puts = []
  | gone true, a => ∃ h, a = { acquired := [h], puts := [some h], dropped := [h], streamed := true }
  | gone false, a => a.Tidy ∧ a.released = a.acquired ∧ a.puts = [none]
  | _, _ => True

theorem Turn.settles {φ φ' : Phase} {r : Poll.Request} {answer : Poll.Request.Answer r} {a : Account}
    (turn : Turn φ r answer φ') (settles : φ.Settles a) : φ'.Settles (a.note ⟨r, answer⟩) := by
  cases turn with
  | refused | condemned | released =>
    obtain rfl : a = _ := settles
    exact ⟨by simp [Account.Tidy, Account.note], rfl, rfl⟩
  | kept =>
    obtain rfl : a = _ := settles
    exact ⟨_, rfl⟩
  | left =>
    obtain ⟨tidy, gone, nothing⟩ := settles
    exact ⟨tidy, gone, by simp [Account.note, nothing]⟩
  | enter | notify | heeded | unheeded | close | closed | doomed | shut => trivial
  | _ =>
    obtain rfl : a = _ := settles
    rfl

/-- A play that has come to its end has left the device in the slot, or has closed it. -/
theorem settles_of_path {trace : Trace Poll.Interface} {s : Stage} (path : Path moves (.reach .entered) trace s) :
    s.phase.Settles (account trace) := by
  refine path.keeps (fun trace s => s.phase.Settles (account trace)) rfl ?_
  rintro trace _ r answer _ settles (turn | _)
  · rw [account_snoc]
    exact turn.settles settles
  · rw [account_snoc]
    exact settles

/-! ## Plays -/

/-- **A playback delivers the track and tidies up.** Whatever a device answers in a play of a valid track that is not
    empty, it takes nothing before it has told the length of a period, and then the first bytes of the track at the
    volume, filled up with the least silence. If the play ends well and none of its waits has been ended by a stop, the
    device has taken all of them, and has been waited for once to drain, after the last write. If the play has come as
    far as its loop, the device has to throw away what it still holds exactly once. When the play has ended well, the
    device lies in the slot; when it has failed, the slot is empty and the device closed. -/
theorem delivers_and_tidies {cfg : Config} {track : Track} {settings : PlaySettings} {width : Nat}
    {trace : Trace Poll.Interface} {p : Action (Except PlayError Unit)} (some : track.isEmpty = false)
    (valid : track.validate = .ok width) (path : Path goesOn (play cfg track settings) trace p) :
    (∀ period, ∃ silence, FilledUp period (trackBytes track settings) silence) ∧
    Begun (trackBytes track settings) trace ∧
    (p = .done (.ok ()) → .ok .stopped ∉ waits trace → Drained (trackBytes track settings) trace) ∧
    ∀ result, p = .done result → (account trace).Tidy ∧
      (result = .ok () → ∃ h, (account trace).acquired = [h] ∧ (account trace).puts = [.some h] ∧
        (account trace).released = []) ∧
      (result ≠ .ok () → (account trace).puts = [none] ∧ (account trace).released = (account trace).acquired) := by
  obtain ⟨x, along, ends⟩ := follows_goesOn path (play_feeds cfg settings some valid)
  have fed : Fed (trackBytes track settings) trace x :=
    along.keeps (fun trace x => Fed (trackBytes track settings) trace x) ⟨rfl, rfl, rfl⟩ fun fed move => move.fed fed
  have accepted : accepts track = true := accepts_iff.2 ⟨some, width, valid⟩
  obtain ⟨s, stages, ended⟩ := follows_goesOn path (play_follows cfg track settings)
  rw [enter_play accepted] at stages
  have settles := settles_of_path stages
  refine ⟨fun period => padded_filledUp period _, fed.begun, ?_, ?_⟩
  · rintro rfl unstopped
    obtain rfl | rfl := ends rfl
    · exact fed
    · exact absurd fed.1 unstopped
  · rintro result rfl
    obtain ⟨φ, left⟩ := s
    -- The play ends where the slot is done with.
    cases φ with
    | gone kept =>
      have same : result.isOk = kept := ended
      cases kept with
      | true =>
        obtain ⟨h, settled⟩ := settles
        rw [settled]
        refine ⟨fun _ => rfl, fun _ => ⟨h, rfl, rfl, rfl⟩, ?_⟩
        rintro failed
        cases result with
        | ok => exact absurd rfl failed
        | error => cases same
      | false =>
        obtain ⟨tidy, gone, emptied⟩ := settles
        refine ⟨tidy, ?_, fun _ => ⟨emptied, gone⟩⟩
        rintro rfl
        cases same
    | barred => exact absurd accepted ended
    | _ => exact ended.elim

/-! ### A period of two frames -/

/-- A sample that is filled up to two frames. The device takes nothing at first, and then three bytes and one. -/
theorem path_two_frames : ∃ trace : Trace Poll.Interface,
    Path goesOn (play sim oneSample {}) trace (.done (.ok ())) ∧ .ok .stopped ∉ waits trace ∧
    (account trace).streamed = true := by
  obtain ⟨a, b, bytes⟩ : ∃ a b : UInt8,
      padded 4 (Sample.toBytes (Sample.scale oneSample.samples 0) oneSample.bits .native .signed) = [a, b, 0, 0] :=
    ⟨_, _, rfl⟩
  have playing := congrArg (playBytes sim 0) bytes
  have path : Path goesOn (play sim oneSample {}) [] _ := .start
  replace path := goesOn_next path rfl (some 0)
  replace path := goesOn_next path rfl (Except.ok ⟨16, 1, 8000⟩ : Except Failure Paced.StreamParams)
  replace path := goesOn_next path rfl (4 : Nat)
  replace path := goesOn_next path (playing.trans rfl) ()
  replace path := goesOn_next path rfl false
  replace path := goesOn_next path rfl ()
  replace path := goesOn_next path rfl ()
  replace path := goesOn_next path rfl (Except.ok 0 : Except Failure Nat)
  replace path := goesOn_next path rfl (Except.ok .ready : Except Failure Readiness)
  replace path := goesOn_next path rfl (Except.ok 3 : Except Failure Nat)
  replace path := goesOn_next path rfl (Except.ok .ready : Except Failure Readiness)
  replace path := goesOn_next path rfl (Except.ok 1 : Except Failure Nat)
  replace path := goesOn_next path rfl (Except.ok .ready : Except Failure Readiness)
  replace path := goesOn_next path rfl ()
  replace path := goesOn_next path rfl (Except.ok .ready : Except Failure Readiness)
  replace path := goesOn_next path rfl true
  replace path := goesOn_next path rfl ()
  replace path := goesOn_next path rfl (Except.ok () : Except Failure Unit)
  replace path := goesOn_next path rfl ()
  exact ⟨_, path, by simp [waits, waited], by simp [account, Account.note]⟩

/-- The device has taken all four bytes, has thrown away what it held once, and lies in the slot. -/
theorem frames_delivered : ∃ trace : Trace Poll.Interface,
    Path goesOn (play sim oneSample {}) trace (.done (.ok ())) ∧ Drained (trackBytes oneSample {}) trace ∧
    (account trace).dropped.length = 1 ∧ ∃ h, (account trace).puts = [some h] ∧ (account trace).released = [] := by
  obtain ⟨trace, path, unstopped, streamed⟩ := path_two_frames
  obtain ⟨-, -, all, ends⟩ := delivers_and_tidies rfl (rfl : oneSample.validate = .ok 2) path
  obtain ⟨tidy, kept, -⟩ := ends _ rfl
  obtain ⟨h, -, puts, released⟩ := kept rfl
  exact ⟨trace, path, all rfl unstopped, tidy streamed, h, puts, released⟩

end Playout.Poll
