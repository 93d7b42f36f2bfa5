import Playout.Proofs.Paced.Delivery
import Playout.Proofs.Stopping

/-!
# `Playout.Proofs.Paced.Gapless` — what a device gets of a track, and when a part of it is skipped

As long as nobody stops it, a playback delivers its track byte for byte, whatever the device does. After a stop a chunk
whose write has failed counts as done. If a tail is left behind it that fits the free space, this still goes out, so that
the device plays what comes later without what comes before.

## Contents
- `Held.of_path` — what is due and what has been taken, in a whole call.
- `delivers_track` — a playback that nobody stops delivers exactly its track.
- `run_played` — a playback with a short write and a tail.
- `Skips`, `in_order_iff_not_skipped` — what a stopped playback delivers.
- `run_skipped` — a playback in which a part is skipped.
-/

namespace Playout.Paced

open Interleaving Program

variable {T : Type} [DecidableEq T] {σ : Type} {c : Config} {answers : Surroundings (fun _ : T => Paced.Interface) σ}
  {raised : σ → Bool} {commands : T → Nat → Transport.Command} {shared : σ}
  {history : History T Paced.Interface (Except PlayError Unit)}
  {s : State (fun _ => Paced.Interface) (fun _ => Except PlayError Unit) σ} {t player : T} {n : Nat} {track : Track}
  {settings : PlaySettings} {trace : Trace Paced.Interface} {bytes : List UInt8} {x : Stand}

/-! ## Whole calls -/

/-- What is due and what has been taken make up the whole all along. -/
theorem Held.of_path (path : Path deals (.entered bytes) trace x) (modest : Modest trace) (sticky : Sticky touch trace) :
    Held bytes trace x := by
  refine path.keeps (fun trace x => Modest trace → Sticky touch trace → Held bytes trace x) ?_ ?_ modest sticky
  · exact fun _ _ => ⟨rfl, rfl, rfl⟩
  · intro trace x r answer x' held move modest sticky
    exact move.held (held modest.before (sticky_snoc.1 sticky).1) modest sticky

omit [DecidableEq T] in
/-- The protocol of a play that is one call of a run. -/
theorem play_follow (plays : commands t n = .play track settings) :
    (Transport.calls (output c) commands t n).Follows deals (Dealt (.play track settings))
      (.entered (trackBytes track settings)) := by
  unfold Transport.calls
  rw [plays]
  exact play_deals track settings

/-- As long as a part of the bytes is due, or the playback has failed, a first part of them has been taken. -/
theorem Held.first (held : Held bytes trace x) (calm : ¬ Found touch trace) : taken trace <+: bytes := by
  cases x with
  | aside => exact held.elim
  | entered due =>
    obtain ⟨-, silent, -⟩ := held
    unfold taken
    rw [silent]
    exact List.nil_prefix
  | due s rest => exact held.inOrder.first
  | torn s chunk rest =>
    obtain ⟨earlier, tried, gap, -⟩ := held
    unfold taken
    rw [tried]
    exact gap.inOrder.first
  | failed => exact InOrder.first held
  | excused | jumped | halted => exact absurd held.1 calm

/-- **A playback that nobody stops delivers its track.** At any moment of it the device has taken a first part of the
    bytes of the track at its volume, and all of them when it returns without an error. -/
theorem delivers_track (signalled : Signalled touch answers raised)
    (run : Run (Transport.calls (output c) commands) answers shared history s)
    (plays : commands t n = .play track settings)
    (undisturbed : ∀ before e after, history = before ++ e :: after → Raises touch e → ¬ Running t n before)
    (modest : Modest (own t n history)) :
    taken (own t n history) <+: trackBytes track settings ∧
      (.returned t n (.ok ()) ∈ history → track.isEmpty = false →
        taken (own t n history) = trackBytes track settings) := by
  have opens (r : Paced.Request) (next : Paced.Request.Answer r → Action (Except PlayError Unit))
      (answer : Paced.Request.Answer r) (asks : Transport.calls (output c) commands t n = .ask r next) :
      touch r answer = .lower := by
    unfold Transport.calls at asks
    rw [plays] at asks
    cases asks
    rfl
  have calm := (run.calm signalled opens undisturbed).never
  have sticky := sticky_of_not_found calm
  constructor
  · obtain ⟨x, path⟩ := run.path_of (play_follow plays)
    exact (Held.of_path path modest sticky).first calm
  · intro returned nonempty
    obtain ⟨x, path, dealt⟩ := run.path_of_returned (play_follow plays) returned
    have held := Held.of_path path modest sticky
    rcases dealt rfl track settings rfl nonempty with ⟨s, rfl⟩ | stopped | rfl
    · have whole := held.2.1
      rwa [List.append_nil] at whole
    · exact absurd (held.found stopped) calm
    · exact held.elim

/-- A pacing without a lead, in exact numbers. -/
def leadless : Config := { device := "dsp", pacing := ⟨0, 0, 2⟩, arithmetic := .exact }

/-- One thread plays three samples as they are, again and again, and another stops. -/
def threeAndStop (thread : Bool) (_ : Nat) : Transport.Command :=
  if thread then .play ⟨16, 1, 8000, [1, 2, 3]⟩ { volume := 100 } else .stop

theorem trackBytes_three : trackBytes ⟨16, 1, 8000, [1, 2, 3]⟩ { volume := 100 } = [1, 0, 2, 0, 3, 0] := by
  decide +kernel

/-- Once all is written and no lead is left, the loop ends. -/
theorem stream_nil {rounds frameBytes rate written : Nat} {p : Progress} (enough : 0 < rounds) (none : p.rest = [])
    (lead : p.lead = some (waitAfter leadless frameBytes rate written Option.none).2) :
    stream leadless frameBytes rate rounds p = .done (.ok false) := by
  obtain ⟨rounds, rfl⟩ := Nat.exists_eq_add_one_of_ne_zero (Nat.ne_of_gt enough)
  have rested : settle leadless p.lead = .done false := by
    rw [lead]
    refine if_neg (not_lt_of_ge ?_)
    show (if _ < (0 : Rat) then _ else (0 : Rat)) - 0 ≤ 0
    split
    · next less =>
      rw [sub_zero]
      exact le_of_lt less
    · exact le_of_eq (sub_zero 0)
  unfold stream
  rw [none]
  show (settle leadless p.lead).bind _ = _
  rw [rested]
  rfl

/-- A fragment of four bytes is free, of which the device takes three. The other three bytes go out as a tail. -/
theorem run_played : ∃ (history : History Bool Paced.Interface (Except PlayError Unit))
      (s : State (fun _ => Paced.Interface) (fun _ => Except PlayError Unit) World),
    Run (Transport.calls (output leadless) threeAndStop) reacts {} history s ∧
    .returned true 0 (.ok ()) ∈ history ∧ (∀ e ∈ history, ¬ Raises touch e) ∧
    tries (own true 0 history) = [([1, 0, 2, 0], some 3), ([0, 3, 0], some 3)] := by
  have run : Run (Transport.calls (output leadless) threeAndStop) reacts ({} : World) [] _ := .start
  rw [pair_start] at run
  replace run := run.first rfl () .lower
  replace run := run.first rfl (Except.ok 0 : Except Failure Handle) (.other rfl ⟨nofun, nofun⟩)
  replace run := run.first rfl (Except.ok ⟨16, 1, 8000⟩ : Except Failure StreamParams) (.other rfl ⟨nofun, nofun⟩)
  replace run := run.first rfl () (.other rfl ⟨nofun, nofun⟩)
  replace run := run.first rfl (none : Option Handle) (.other rfl ⟨nofun, nofun⟩)
  replace run := run.first rfl false .look
  replace run := run.first rfl (some (.ok ⟨1, 4, 8⟩) : Option (Except Failure BufferSpace)) (.other rfl ⟨nofun, nofun⟩)
  replace run := run.first rfl () (.other rfl ⟨nofun, nofun⟩)
  replace run := run.first rfl (some (.ok 3) : Option (Except Failure Nat)) (.other rfl ⟨nofun, nofun⟩)
  replace run := run.first rfl () (.other rfl ⟨nofun, nofun⟩)
  replace run := run.first rfl (some (.ok 3) : Option (Except Failure Nat)) (.other rfl ⟨nofun, nofun⟩)
  replace run := run.first rfl () (.other rfl ⟨nofun, nofun⟩)
  replace run := run.first rfl WaitOutcome.timedOut (.timedOut rfl (le_refl _))
  replace run := run.first (congrArg (fun p => Program.bind p _) (stream_nil (Nat.add_pos_left (by decide) _) rfl rfl))
    (some 0 : Option Handle) (.other rfl ⟨nofun, nofun⟩)
  replace run := run.first rfl (Except.ok () : Except Failure Unit) (.other rfl ⟨nofun, nofun⟩)
  replace run := run.first rfl () (.other rfl ⟨nofun, nofun⟩)
  replace run := run.first rfl () (.other rfl ⟨nofun, nofun⟩)
  replace run := run.firstDone rfl
  refine ⟨_, _, run, List.mem_append_right _ List.mem_cons_self, ?_, ?_⟩
  · simp [Raises, touch]
  · decide +kernel

/-- All three samples were delivered. -/
theorem three_samples_delivered : ∃ (history : History Bool Paced.Interface (Except PlayError Unit))
      (s : State (fun _ => Paced.Interface) (fun _ => Except PlayError Unit) World),
    Run (Transport.calls (output leadless) threeAndStop) reacts {} history s ∧
    tries (own true 0 history) = [([1, 0, 2, 0], some 3), ([0, 3, 0], some 3)] ∧ Modest (own true 0 history) ∧
    .returned true 0 (.ok ()) ∈ history ∧
    taken (own true 0 history) = trackBytes ⟨16, 1, 8000, [1, 2, 3]⟩ { volume := 100 } := by
  obtain ⟨history, s, run, returned, calm, tried⟩ := run_played
  have modest : Modest (own true 0 history) := by
    intro bytes n mem
    rw [tried] at mem
    obtain ⟨rfl, rfl⟩ | ⟨rfl, rfl⟩ : bytes = [1, 0, 2, 0] ∧ n = 3 ∨ bytes = [0, 3, 0] ∧ n = 3 := by simpa using mem
    · decide
    · decide
  have undisturbed (before : History Bool Paced.Interface (Except PlayError Unit))
      (e : Event (fun _ : Bool => Paced.Interface) fun _ : Bool => Except PlayError Unit)
      (after : History Bool Paced.Interface (Except PlayError Unit)) (split : history = before ++ e :: after)
      (raises : Raises touch e) : ¬ Running true 0 before := by
    refine absurd raises (calm e ?_)
    rw [split]
    exact List.mem_append_right _ List.mem_cons_self
  have delivered := delivers_track reacts_signalled run rfl undisturbed modest
  exact ⟨history, s, run, tried, modest, returned, delivered.2 returned rfl⟩

/-! ## After a stop -/

/-- The tail behind a chunk whose write has failed goes out next, and `k` bytes of it are taken. Until then no write has
    failed, and the device has been told to play no more. -/
structure Skips (bytes : List UInt8) (trace : Trace Paced.Interface) (earlier : List Try) (chunk rest : List UInt8)
    (k : Nat) : Prop where
  gap : Gap bytes earlier chunk rest
  stopped : Found touch trace
  tail : ∃ s, lastSpace trace = some s ∧ tailFits s rest.length = true

/-- Where no write has been taken after one that failed, the last two are something else. -/
theorem InOrder.not_skipped {tries earlier : List Try} {chunk rest : List UInt8} {k : Nat}
    (order : InOrder bytes tries) : tries ≠ earlier ++ [(chunk, none), (rest, some k)] := by
  rintro rfl
  rcases order.last with whole | ⟨earlier', chunk', same⟩
  · exact whole (chunk, none) (List.mem_append_right _ List.mem_cons_self) rfl
  · have same : (earlier ++ [(chunk, none)]) ++ [(rest, some k)] = earlier' ++ [(chunk', none)] := by
      rw [← same, List.append_assoc]
      rfl
    cases (List.append_inj' same rfl).2

/-- What a call has taken that has seen a stop, or has not: a first part of the bytes, unless a tail was written behind
    a failed chunk. -/
theorem Held.skips (held : Held bytes trace x) :
    InOrder bytes (tries trace) ∨ ∃ earlier chunk rest k,
      tries trace = earlier ++ [(chunk, none), (rest, some k)] ∧ Skips bytes trace earlier chunk rest k := by
  cases x with
  | aside => exact held.elim
  | entered due =>
    obtain ⟨-, silent, -⟩ := held
    rw [silent]
    exact .inl ⟨List.nil_prefix, .inl nofun⟩
  | due s rest => exact .inl held.inOrder
  | torn s chunk rest =>
    obtain ⟨earlier, tried, gap, -⟩ := held
    rw [tried]
    exact .inl gap.inOrder
  | excused s chunk rest =>
    obtain ⟨-, earlier, tried, gap, -⟩ := held
    rw [tried]
    exact .inl gap.inOrder
  | jumped chunk rest k =>
    obtain ⟨found, earlier, s, tried, gap, space, fits⟩ := held
    exact .inr ⟨earlier, chunk, rest, k, tried, gap, found, s, space, fits⟩
  | halted => exact .inl held.2
  | failed => exact .inl held

omit [DecidableEq T] in
/-- Only plays take the signal back, and only to begin with. -/
theorem lowers_dealing (alone : ∀ u n track settings, u ≠ player → commands u n ≠ .play track settings) :
    Lowers touch (fun _ : T => deals) (fun t n => .enter (commands t n)) player
      fun x => ∃ bytes, x = .entered bytes where
  only {t x r answer x'} move lower := by
    cases move with
    | aside other => exact absurd lower other
    | idle idle => exact absurd lower (touch_of_idle idle)
    | enter => exact ⟨⟨_, rfl⟩, nofun⟩
    | clear looks | halt looks | again _ looks | unseen _ looks => exact absurd (looks.symm.trans lower) nofun
    | _ => cases lower
  back {t x r answer x'} move entered := by
    obtain ⟨bytes, rfl⟩ := entered
    cases move with
    | idle => exact ⟨bytes, rfl⟩
    | again => exact ⟨bytes, rfl⟩
  alone t n other entered := by
    obtain ⟨bytes, begins⟩ := entered
    cases command : commands t n with
    | play track settings => exact alone t n track settings other command
    | stop | close =>
      rw [command] at begins
      cases begins

/-- The signal is looked at only after it was taken back. -/
theorem Deals.blind {r : Paced.Request} {answer : Paced.Request.Answer r} {x' : Stand} {stopped : Bool}
    (move : Deals x r answer x') (looks : touch r answer = .look stopped) : ¬ ∃ bytes, x = .entered bytes := by
  rintro ⟨bytes, rfl⟩
  cases move with
  | idle idle =>
    cases r with
    | cancelled | pause => cases idle
    | _ => cases looks
  | enter => cases looks
  | again stopped => cases stopped
  | unseen stopped => cases stopped

/-- **What a stopped playback delivers.** Let one thread play, and others stop and close. Wherever a stop lands in a
    play, the device has taken a first part of the bytes of the track, unless the tail behind a chunk whose write has
    failed went out, and what was taken of it is not what comes next. A tail goes out so only after a stop was seen, when
    no write has failed before, and fits the free space that was told last. -/
theorem in_order_iff_not_skipped (signalled : Signalled touch answers raised)
    (alone : ∀ u n track settings, u ≠ player → commands u n ≠ .play track settings)
    (run : Run (Transport.calls (output c) commands) answers shared history s)
    (plays : commands player n = .play track settings) (modest : Modest (own player n history)) :
    (taken (own player n history) <+: trackBytes track settings ↔ ∀ earlier chunk rest k,
      tries (own player n history) = earlier ++ [(chunk, none), (rest, some k)] → rest.take k <+: chunk ++ rest) ∧
    ∀ earlier chunk rest k, tries (own player n history) = earlier ++ [(chunk, none), (rest, some k)] →
      Skips (trackBytes track settings) (own player n history) earlier chunk rest k := by
  have follow (t : T) (n : Nat) :
      (Transport.calls (output c) commands t n).Follows deals (fun _ _ => True) (.enter (commands t n)) :=
    (deals_follow c (commands t n)).weaken fun _ _ _ => trivial
  have sticky := run.sticky signalled (lowers_dealing alone) Deals.blind follow n
  obtain ⟨x, path⟩ := run.path_of (play_follow plays)
  rcases (Held.of_path path modest sticky).skips with order | ⟨earlier, chunk, rest, k, tried, skips⟩
  · refine ⟨iff_of_true order.first fun earlier chunk rest k tried => absurd tried order.not_skipped, ?_⟩
    exact fun earlier chunk rest k tried => absurd tried order.not_skipped
  · -- The last two writes tell what was skipped.
    have only (earlier' : List Try) (chunk' rest' : List UInt8) (k' : Nat)
        (same : tries (own player n history) = earlier' ++ [(chunk', none), (rest', some k')]) :
        earlier' = earlier ∧ chunk' = chunk ∧ rest' = rest ∧ k' = k := by
      obtain ⟨rfl, same⟩ := List.append_inj' (same.symm.trans tried) rfl
      simpa using same
    constructor
    · have parts : taken (own player n history) = takenOf earlier ++ rest.take k := by
        unfold taken
        rw [tried]
        simp [takenOf]
      rw [parts, ← skips.gap.split, List.prefix_append_right_inj]
      constructor
      · intro next earlier' chunk' rest' k' same
        obtain ⟨rfl, rfl, rfl, rfl⟩ := only earlier' chunk' rest' k' same
        exact next
      · exact fun next => next earlier chunk rest k tried
    · intro earlier' chunk' rest' k' same
      obtain ⟨rfl, rfl, rfl, rfl⟩ := only earlier' chunk' rest' k' same
      exact skips

/-! ### A part that is skipped -/

theorem run_skipped : ∃ (history : History Bool Paced.Interface (Except PlayError Unit))
      (s : State (fun _ => Paced.Interface) (fun _ => Except PlayError Unit) World),
    Run (Transport.calls (output { device := "dsp" }) threeAndStop) reacts {} history s ∧
    .returned true 0 (.ok ()) ∈ history ∧
    tries (own true 0 history) = [([1, 0, 2, 0], none), ([3, 0], some 2)] := by
  have run : Run (Transport.calls (output { device := "dsp" }) threeAndStop) reacts ({} : World) [] _ := .start
  rw [pair_start] at run
  replace run := run.first rfl () .lower
  replace run := run.first rfl (Except.ok 0 : Except Failure Handle) (.other rfl ⟨nofun, nofun⟩)
  replace run := run.first rfl (Except.ok ⟨16, 1, 8000⟩ : Except Failure StreamParams) (.other rfl ⟨nofun, nofun⟩)
  replace run := run.first rfl () (.other rfl ⟨nofun, nofun⟩)
  replace run := run.first rfl (none : Option Handle) (.other rfl ⟨nofun, nofun⟩)
  replace run := run.first rfl false .look
  replace run := run.first rfl (some (.ok ⟨1, 4, 8⟩) : Option (Except Failure BufferSpace)) (.other rfl ⟨nofun, nofun⟩)
  replace run := run.first rfl () (.other rfl ⟨nofun, nofun⟩)
  replace run := run.second rfl () (.other rfl ⟨nofun, nofun⟩)
  replace run := run.second rfl () .raise
  replace run := run.first rfl (some (.error ⟨"interrupted", []⟩) : Option (Except Failure Nat))
    (.other rfl ⟨nofun, nofun⟩)
  replace run := run.first rfl true .look
  replace run := run.first rfl () (.other rfl ⟨nofun, nofun⟩)
  replace run := run.first rfl (some (.ok 2) : Option (Except Failure Nat)) (.other rfl ⟨nofun, nofun⟩)
  replace run := run.first rfl () (.other rfl ⟨nofun, nofun⟩)
  replace run := run.first rfl WaitOutcome.cancelled (.cancelled rfl)
  replace run := run.first rfl () (.other rfl ⟨nofun, nofun⟩)
  replace run := run.first rfl (some 0 : Option Handle) (.other rfl ⟨nofun, nofun⟩)
  replace run := run.first rfl (Except.ok () : Except Failure Unit) (.other rfl ⟨nofun, nofun⟩)
  replace run := run.first rfl () (.other rfl ⟨nofun, nofun⟩)
  replace run := run.first rfl () (.other rfl ⟨nofun, nofun⟩)
  replace run := run.firstDone rfl
  refine ⟨_, _, run, List.mem_append_right _ List.mem_cons_self, ?_⟩
  decide +kernel

/-- A stop lands while the first two samples are written, their write fails, and the third one goes out. -/
theorem later_sample_taken : ∃ (history : History Bool Paced.Interface (Except PlayError Unit))
      (s : State (fun _ => Paced.Interface) (fun _ => Except PlayError Unit) World),
    Run (Transport.calls (output { device := "dsp" }) threeAndStop) reacts {} history s ∧
    .returned true 0 (.ok ()) ∈ history ∧ taken (own true 0 history) = [3, 0] ∧
    ¬ taken (own true 0 history) <+: trackBytes ⟨16, 1, 8000, [1, 2, 3]⟩ { volume := 100 } := by
  obtain ⟨history, s, run, returned, tried⟩ := run_skipped
  have part : taken (own true 0 history) = [3, 0] := by
    unfold taken
    rw [tried]
    rfl
  refine ⟨history, s, run, returned, part, ?_⟩
  rw [part, trackBytes_three]
  decide

theorem threeAndStop_alone : ∀ u n track settings, u ≠ true → threeAndStop u n ≠ .play track settings := by
  intro u n track settings other
  cases u with
  | true => exact absurd rfl other
  | false => nofun

/-- The writes of this playback tell that its first two samples were skipped. -/
theorem first_samples_skipped : ∃ (history : History Bool Paced.Interface (Except PlayError Unit))
      (s : State (fun _ => Paced.Interface) (fun _ => Except PlayError Unit) World),
    Run (Transport.calls (output { device := "dsp" }) threeAndStop) reacts {} history s ∧
    Modest (own true 0 history) ∧
    Skips (trackBytes ⟨16, 1, 8000, [1, 2, 3]⟩ { volume := 100 }) (own true 0 history) [] [1, 0, 2, 0] [3, 0] 2 ∧
    ¬ taken (own true 0 history) <+: trackBytes ⟨16, 1, 8000, [1, 2, 3]⟩ { volume := 100 } := by
  obtain ⟨history, s, run, -, tried⟩ := run_skipped
  have modest : Modest (own true 0 history) := by
    intro bytes n mem
    rw [tried] at mem
    obtain ⟨rfl, rfl⟩ : bytes = [3, 0] ∧ n = 2 := by simpa using mem
    decide
  obtain ⟨exactly, skipped⟩ := in_order_iff_not_skipped reacts_signalled threeAndStop_alone run rfl modest
  refine ⟨history, s, run, modest, skipped [] _ _ _ tried, fun order => ?_⟩
  exact absurd (exactly.1 order [] _ _ _ tried) (by decide)

end Playout.Paced
