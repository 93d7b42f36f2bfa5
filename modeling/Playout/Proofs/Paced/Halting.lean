import Playout.Proofs.Paced.Rounds

/-!
# `Playout.Proofs.Paced.Halting` — what a paced playback still writes after a stop

When the signal is set within a round, the round still writes what it was about to write: at most what the free space
holds and a tail. The wait at the end of the round sees the signal, or the look with which the next one begins.

## Contents
- `writes`, `spaces` — what a call has begun to write, and the free spaces that it was told.
- `Phase.worth`, `Stage.cost` — how many requests a call can still make, once it sees every signal.
- `Phase.mainDue`, `Phase.tailDue`, `Within` — the writes that are still to come, and how long they are.
- `Steady`, `Since` — what a call has written since some point of it.
- `Timed` — surroundings in which time passes.
- `StopsWithinRound` — how little is written after a stop.

## Main statements
- `stopsWithinRound` — so it is for every output of this kind.
-/

namespace Playout.Paced

open Interleaving

/-! ## What a call has done -/

/-- The bytes that a request begins to write. -/
def written? : (Σ r : Paced.Request, Paced.Request.Answer r) → Option (List UInt8)
  | ⟨.write bytes, _⟩ => some bytes
  | _ => none

/-- The free space that a request is told. -/
def told? : (Σ r : Paced.Request, Paced.Request.Answer r) → Option BufferSpace
  | ⟨.space, some (.ok s)⟩ => some s
  | _ => none

/-- The writes that a trace has begun. -/
def writes (trace : Trace Paced.Interface) : List (List UInt8) := trace.filterMap written?

/-- The free spaces that a trace was told. -/
def spaces (trace : Trace Paced.Interface) : List BufferSpace := trace.filterMap told?

variable {r : Paced.Request} {answer : Paced.Request.Answer r} {trace : Trace Paced.Interface}

theorem writes_snoc (trace : Trace Paced.Interface) (x : Σ r : Paced.Request, Paced.Request.Answer r) :
    writes (trace ++ [x]) = writes trace ++ (written? x).toList := filterMap_snoc ..

theorem spaces_snoc (trace : Trace Paced.Interface) (x : Σ r : Paced.Request, Paced.Request.Answer r) :
    spaces (trace ++ [x]) = spaces trace ++ (told? x).toList := filterMap_snoc ..

/-- An idle request writes nothing and is told nothing. -/
theorem idle_nothing (idle : r.idle = true) : written? ⟨r, answer⟩ = none ∧ told? ⟨r, answer⟩ = none := by
  cases r with
  | write | space => cases idle
  | _ => exact ⟨rfl, rfl⟩

/-! ## How much is left -/

namespace Phase

/-- How many requests may come after those that a phase is patient for, if no look misses the signal. -/
def worth : Phase → Nat
  | aside | outside => 0
  | entered | starved => 19
  | head | tailed => 7
  | cleared => 27
  | spaced _ => 17
  | doubted _ => 16
  | wrote _ => 12
  | doubting => 11

/-- Whether the free space is still to be filled, if no look misses the signal. -/
def mainDue : Phase → Nat
  | cleared | spaced _ => 1
  | _ => 0

/-- Whether a tail may still come, if no look misses the signal. -/
def tailDue : Phase → Nat
  | cleared | spaced _ | doubted _ | wrote _ => 1
  | _ => 0

/-- The free space that a phase is about. -/
def space? : Phase → Option BufferSpace
  | spaced s | doubted s | wrote s => some s
  | _ => none

end Phase

/-- How many requests a call can still make, if no look misses the signal. -/
def Stage.cost (s : Stage) : Nat := s.phase.worth + s.patience

/-- Every request of an alert call that plays leaves it fewer. -/
theorem Move.cost_lt {s s' : Stage} (move : Move s r answer s') (playing : s.phase ≠ .aside)
    (alert : touch r answer ≠ .look false) : s'.cost < s.cost := by
  cases move with
  | wait idle some =>
    simp only [Stage.cost]
    omega
  | aside => exact absurd rfl playing
  | turn turn =>
    cases turn with
    | clear | failed | failedTail | rested | restedTail => exact absurd rfl alert
    | _ => simp only [Stage.cost, Phase.worth, Phase.patience]; omega

theorem Move.patience_le {s s' : Stage} (move : Move s r answer s') (fits : s.patience ≤ s.phase.patience) :
    s'.patience ≤ s'.phase.patience := by
  cases move with
  | wait => exact Nat.le_trans (Nat.sub_le ..) fits
  | aside => exact fits
  | turn => exact Nat.le_refl _

theorem Stage.cost_le {s : Stage} (fits : s.patience ≤ s.phase.patience) : s.cost ≤ 27 := by
  refine Nat.le_trans (Nat.add_le_add_left fits _) ?_
  cases s.phase <;> simp [Phase.worth, Phase.patience]

/-- A call that plays goes on playing. -/
theorem Move.playing {s s' : Stage} (move : Move s r answer s') (playing : s.phase ≠ .aside) :
    s'.phase ≠ .aside := by
  cases move with
  | wait => exact playing
  | aside => exact absurd rfl playing
  | turn turn => cases turn <;> nofun

/-! ## The writes that are still to come -/

/-- The last free space that a trace was told. -/
def lastSpace (trace : Trace Paced.Interface) : Option BufferSpace := (spaces trace).getLast?

/-- The writes of one round: what the free space holds, and a tail that is shorter than a fragment. -/
structure Within (space : Option BufferSpace) (main tail : List (List UInt8)) : Prop where
  main : ∀ bytes ∈ main, ∃ s, space = some s ∧ bytes.length ≤ s.fragments * s.fragmentSize
  tail : ∀ bytes ∈ tail, ∃ s, space = some s ∧ bytes.length < s.fragmentSize

theorem within_nil (space : Option BufferSpace) : Within space [] [] := ⟨nofun, nofun⟩

theorem lastSpace_snoc (trace : Trace Paced.Interface) {x : Σ r : Paced.Request, Paced.Request.Answer r}
    (nothing : told? x = none) : lastSpace (trace ++ [x]) = lastSpace trace := by
  unfold lastSpace
  rw [spaces_snoc, nothing, Option.toList_none, List.append_nil]

/-- What one move of an alert call that plays adds to the writes. -/
structure Adds (s : Stage) (trace : Trace Paced.Interface) (x : Σ r : Paced.Request, Paced.Request.Answer r)
    (s' : Stage) (main tail : List (List UInt8)) : Prop where
  written : (written? x).toList = main ++ tail
  mainDue : main.length + s'.phase.mainDue ≤ s.phase.mainDue
  tailDue : tail.length + s'.phase.tailDue ≤ s.phase.tailDue
  within : Within (lastSpace (trace ++ [x])) main tail
  knows : ∀ b, s'.phase.space? = some b → lastSpace (trace ++ [x]) = some b
  same : lastSpace (trace ++ [x]) = lastSpace trace ∨ s.phase = .cleared

/-- A move that neither writes nor is told anything, and after which no more is due than before. -/
theorem adds_nothing {s s' : Stage} (silent : written? ⟨r, answer⟩ = none) (untold : told? ⟨r, answer⟩ = none)
    (mainDue : s'.phase.mainDue ≤ s.phase.mainDue) (tailDue : s'.phase.tailDue ≤ s.phase.tailDue)
    (knows : ∀ b, s'.phase.space? = some b → lastSpace trace = some b) :
    Adds s trace ⟨r, answer⟩ s' [] [] where
  written := by
    rw [silent]
    rfl
  mainDue := (Nat.zero_add _).trans_le mainDue
  tailDue := (Nat.zero_add _).trans_le tailDue
  within := within_nil _
  knows := by
    rw [lastSpace_snoc trace untold]
    exact knows
  same := .inl (lastSpace_snoc trace untold)

/-- The answer to the question for the free space. -/
theorem adds_asked {s s' : Stage} (asks : s.phase = .cleared) (silent : written? ⟨r, answer⟩ = none)
    (mainDue : s'.phase.mainDue ≤ 1) (tailDue : s'.phase.tailDue ≤ 1)
    (knows : ∀ b, s'.phase.space? = some b → told? ⟨r, answer⟩ = some b) : Adds s trace ⟨r, answer⟩ s' [] [] where
  written := by
    rw [silent]
    rfl
  mainDue := by
    rw [asks]
    exact (Nat.zero_add _).trans_le mainDue
  tailDue := by
    rw [asks]
    exact (Nat.zero_add _).trans_le tailDue
  within := within_nil _
  knows b about := by
    unfold lastSpace
    rw [spaces_snoc, knows b about]
    exact List.getLast?_concat
  same := .inr asks

/-- A write into the free space. -/
theorem adds_main {s s' : Stage} {b : BufferSpace} {bytes : List UInt8}
    {answer : Paced.Request.Answer (.write bytes)} (due : s.phase.mainDue = 1) (done : s'.phase.mainDue = 0)
    (tailDue : s'.phase.tailDue ≤ s.phase.tailDue) (about : s'.phase.space? = some b)
    (knows : lastSpace trace = some b) (fits : bytes.length ≤ b.room) :
    Adds s trace ⟨.write bytes, answer⟩ s' [bytes] [] where
  written := rfl
  mainDue := by
    rw [due, done]
    exact Nat.le_refl 1
  tailDue := (Nat.zero_add _).trans_le tailDue
  within := by
    refine ⟨?_, nofun⟩
    intro bytes' mem
    obtain rfl := List.mem_singleton.1 mem
    exact ⟨b, (lastSpace_snoc trace rfl).trans knows, fits⟩
  knows b' about' := by
    rw [lastSpace_snoc trace rfl, knows, ← about, about']
  same := .inl (lastSpace_snoc trace rfl)

/-- The write of a tail. -/
theorem adds_tail {s s' : Stage} {b : BufferSpace} {bytes : List UInt8}
    {answer : Paced.Request.Answer (.write bytes)} (due : s.phase.tailDue = 1) (done : s'.phase.tailDue = 0)
    (mainDue : s'.phase.mainDue ≤ s.phase.mainDue) (about : s'.phase.space? = none)
    (knows : lastSpace trace = some b) (short : bytes.length < b.fragmentSize) :
    Adds s trace ⟨.write bytes, answer⟩ s' [] [bytes] where
  written := rfl
  mainDue := (Nat.zero_add _).trans_le mainDue
  tailDue := by
    rw [due, done]
    exact Nat.le_refl 1
  within := by
    refine ⟨nofun, ?_⟩
    intro bytes' mem
    obtain rfl := List.mem_singleton.1 mem
    exact ⟨b, (lastSpace_snoc trace rfl).trans knows, short⟩
  knows b' about' := by
    rw [about] at about'
    cases about'
  same := .inl (lastSpace_snoc trace rfl)

theorem Move.adds {s s' : Stage} (move : Move s r answer s') (playing : s.phase ≠ .aside)
    (alert : touch r answer ≠ .look false) (knows : ∀ b, s.phase.space? = some b → lastSpace trace = some b) :
    ∃ main tail, Adds s trace ⟨r, answer⟩ s' main tail := by
  cases move with
  | wait idle =>
    obtain ⟨silent, untold⟩ := idle_nothing idle
    exact ⟨[], [], adds_nothing silent untold (Nat.le_refl _) (Nat.le_refl _) knows⟩
  | aside => exact absurd rfl playing
  | turn turn =>
    cases turn with
    | clear | failed | failedTail | rested | restedTail => exact absurd rfl alert
    | free => exact ⟨[], [], adds_asked rfl rfl (Nat.le_refl 1) (Nat.le_refl 1) fun _ => id⟩
    | full | lost => exact ⟨[], [], adds_asked rfl rfl (Nat.zero_le _) (Nat.zero_le _) nofun⟩
    | put fits | tore fits => exact ⟨_, [], adds_main rfl rfl (Nat.le_refl _) rfl (knows _ rfl) fits⟩
    | putTail short | toreTail short => exact ⟨[], _, adds_tail rfl rfl (Nat.le_refl _) rfl (knows _ rfl) short⟩
    | excused => exact ⟨[], [], adds_nothing rfl rfl (Nat.le_refl _) (Nat.le_refl _) knows⟩
    | _ => exact ⟨[], [], adds_nothing rfl rfl (Nat.zero_le _) (Nat.zero_le _) nofun⟩

/-- The free space that a phase is about is the last one that was told. -/
theorem Move.knows {s s' : Stage} (move : Move s r answer s') (playing : s.phase ≠ .aside)
    (knows : ∀ b, s.phase.space? = some b → lastSpace trace = some b) :
    ∀ b, s'.phase.space? = some b → lastSpace (trace ++ [⟨r, answer⟩]) = some b := by
  by_cases missed : touch r answer = .look false
  · -- A look that finds no stop leads to a phase that is about no free space.
    cases move with
    | wait idle =>
      rw [lastSpace_snoc trace (idle_nothing idle).2]
      exact knows
    | aside => exact absurd rfl playing
    | turn turn =>
      cases turn with
      | excused | excusedTail => cases missed
      | free | put | tore => cases missed
      | _ => nofun
  · obtain ⟨main, tail, adds⟩ := move.adds playing missed knows
    exact adds.knows

/-! ## Paths -/

/-- What is known of a call that plays all the way from its beginning: the free space that it is about is the last one
    it was told, and nothing is due before the first look at the signal. -/
structure Steady (trace : Trace Paced.Interface) (s : Stage) : Prop where
  playing : s.phase ≠ .aside
  fits : s.patience ≤ s.phase.patience
  knows : ∀ b, s.phase.space? = some b → lastSpace trace = some b
  quiet : (∀ x ∈ trace, ∀ stopped, touch x.1 x.2 ≠ .look stopped) →
    s.phase.mainDue = 0 ∧ s.phase.tailDue = 0 ∧ writes trace = []

theorem Steady.move {s s' : Stage} (steady : Steady trace s) (move : Move s r answer s') :
    Steady (trace ++ [⟨r, answer⟩]) s' where
  playing := move.playing steady.playing
  fits := move.patience_le steady.fits
  knows := move.knows steady.playing steady.knows
  quiet unlooked := by
    -- Without a look this call is alert as well, so that nothing comes to what was not due.
    obtain ⟨mainDue, tailDue, silent⟩ := steady.quiet fun x mem => unlooked x (List.mem_append_left _ mem)
    have blind : touch r answer ≠ .look false := unlooked _ (List.mem_append_right _ List.mem_cons_self) false
    obtain ⟨main, tail, adds⟩ := move.adds steady.playing blind steady.knows
    have main' := adds.mainDue
    have tail' := adds.tailDue
    obtain ⟨noMain, mainDue'⟩ : main.length = 0 ∧ s'.phase.mainDue = 0 := by omega
    obtain ⟨noTail, tailDue'⟩ : tail.length = 0 ∧ s'.phase.tailDue = 0 := by omega
    refine ⟨mainDue', tailDue', ?_⟩
    rw [writes_snoc, silent, adds.written, List.eq_nil_of_length_eq_zero noMain, List.eq_nil_of_length_eq_zero noTail]
    rfl

/-- The whole path of a play from its beginning. -/
theorem Steady.of_path {trace : Trace Paced.Interface} {s : Stage} (path : Path moves ⟨.entered, 0, none⟩ trace s) :
    Steady trace s :=
  path.keeps Steady ⟨nofun, Nat.le_refl _, nofun, fun _ => ⟨rfl, rfl, rfl⟩⟩ Steady.move

/-- What an alert call has added to the writes on its way from one stage to another. -/
structure Since (front : Trace Paced.Interface) (s : Stage) (back : Trace Paced.Interface) (s' : Stage) : Prop where
  steady : Steady (front ++ back) s'
  cost : back.length + s'.cost ≤ s.cost
  added : ∃ main tail, writes (front ++ back) = writes front ++ (main ++ tail) ∧
    main.length + s'.phase.mainDue ≤ s.phase.mainDue ∧ tail.length + s'.phase.tailDue ≤ s.phase.tailDue ∧
    Within (lastSpace (front ++ back)) main tail

/-- What is due at most. -/
theorem Phase.due_le (φ : Phase) : φ.mainDue ≤ φ.tailDue ∧ φ.tailDue ≤ 1 := by
  cases φ <;> simp [mainDue, tailDue]

theorem Since.move {front back : Trace Paced.Interface} {s s' s'' : Stage} (since : Since front s back s')
    (move : Move s' r answer s'') (alert : touch r answer ≠ .look false) :
    Since front s (back ++ [⟨r, answer⟩]) s'' := by
  obtain ⟨steady, cost, main, tail, written, mainDue, tailDue, within⟩ := since
  obtain ⟨main', tail', adds⟩ := move.adds steady.playing alert steady.knows
  have less := move.cost_lt steady.playing alert
  have mainDue' := adds.mainDue
  have tailDue' := adds.tailDue
  have most := s.phase.due_le
  have most' := s'.phase.due_le
  refine ⟨?_, ?_, main ++ main', tail ++ tail', ?_, ?_, ?_, ?_⟩
  · rw [← List.append_assoc]
    exact steady.move move
  · rw [List.length_append, List.length_singleton]
    omega
  · -- Nothing goes into the free space after a tail.
    have order : tail = [] ∨ main' = [] := by
      by_cases some : main' = []
      · exact .inr some
      · refine .inl (List.eq_nil_of_length_eq_zero ?_)
        have := List.length_pos_iff.2 some
        omega
    rw [← List.append_assoc, writes_snoc, written, adds.written]
    rcases order with rfl | rfl <;> simp
  · rw [List.length_append]
    omega
  · rw [List.length_append]
    omega
  · rw [← List.append_assoc]
    -- If the free space is told anew, nothing has been written since the stop.
    have earlier : Within (lastSpace (front ++ back ++ [⟨r, answer⟩])) main tail := by
      rcases adds.same with same | asks
      · rw [same]
        exact within
      · rw [asks] at mainDue tailDue
        have noMain : main = [] := List.eq_nil_of_length_eq_zero (by simp only [Phase.mainDue] at mainDue most; omega)
        have noTail : tail = [] := List.eq_nil_of_length_eq_zero (by simp only [Phase.tailDue] at tailDue most; omega)
        rw [noMain, noTail]
        exact within_nil _
    constructor
    · intro bytes mem
      rcases List.mem_append.1 mem with mem | mem
      · exact earlier.main bytes mem
      · exact adds.within.main bytes mem
    · intro bytes mem
      rcases List.mem_append.1 mem with mem | mem
      · exact earlier.tail bytes mem
      · exact adds.within.tail bytes mem

theorem Since.of_path {front back : Trace Paced.Interface} {s s' : Stage} (steady : Steady front s)
    (path : Path moves s back s') (alert : Alert touch back) : Since front s back s' := by
  suffices all : Alert touch back → Since front s back s' from all alert
  refine path.keeps (fun back s' => Alert touch back → Since front s back s') ?_ ?_
  · intro _
    rw [← List.append_nil front] at steady
    refine ⟨steady, Nat.le_of_eq (Nat.zero_add _), [], [], ?_, Nat.le_of_eq (Nat.zero_add _),
      Nat.le_of_eq (Nat.zero_add _), within_nil _⟩
    rw [List.append_nil]
    exact (List.append_nil _).symm
  · intro back s' r answer s'' since move alert
    exact (since fun x mem => alert x (List.mem_append_left _ mem)).move move
      (alert _ (List.mem_append_right _ List.mem_cons_self))

/-! ## Stopping -/

variable {T : Type} [DecidableEq T]

/-- Time does not go back, the clock tells it, and a nap takes its time. -/
structure Timed {σ : Type} (answers : Surroundings (fun _ : T => Paced.Interface) σ) (time : σ → Seconds) : Prop where
  clock : ∀ {t s moment s'}, answers t .clock s moment s' → time s ≤ moment ∧ moment ≤ time s'
  nap : ∀ {t span s answer s'}, answers t (.nap span) s answer s' → time s + span ≤ time s'
  forward : ∀ {t r s answer s'}, answers t r s answer s' → time s ≤ time s'

/-- Let one thread play and others stop and close. When the signal is set after a play has taken it back, this play
    begins at most the writes of one round: one of as many bytes as the free fragments hold, of which it was told last,
    and one that is shorter than a fragment. It begins none at all if it has not looked at the signal yet. It makes no
    more than 27 further requests, so that it leaves its loop. -/
def StopsWithinRound (T : Type) [DecidableEq T] (c : Config) : Prop :=
  ∀ {σ : Type} {answers : Surroundings (fun _ : T => Paced.Interface) σ} {raised : σ → Bool} {time : σ → Seconds}
    {commands : T → Nat → Transport.Command} {player : T} {shared : σ}
    {history before after : History T Paced.Interface (Except PlayError Unit)}
    {s : State (fun _ => Paced.Interface) (fun _ => Except PlayError Unit) σ}
    {e : Event (fun _ : T => Paced.Interface) fun _ : T => Except PlayError Unit} {n : Nat},
    Signalled touch answers raised → Timed answers time →
    (∀ u n track settings, u ≠ player → commands u n ≠ .play track settings) →
    Run (Transport.calls (output c) commands) answers shared history s → history = before ++ e :: after →
    Raises touch e → Lowered touch (own player n before) →
    ∃ main tail, writes (own player n history) = writes (own player n before) ++ (main ++ tail) ∧
      main.length ≤ 1 ∧ tail.length ≤ 1 ∧ Within (lastSpace (own player n history)) main tail ∧
      ((∀ x ∈ own player n before, ∀ stopped, touch x.1 x.2 ≠ .look stopped) → writes (own player n history) = []) ∧
      (own player n after).length ≤ 27 ∧ (s.call player).rest ≠ .unfinished

/-- An idle request does not take the signal back. -/
theorem touch_of_idle (idle : r.idle = true) : touch r answer ≠ .lower := by
  cases r with
  | resetSignal => cases idle
  | _ => nofun

omit [DecidableEq T] in
/-- Only plays take the signal back, and only to begin with. -/
theorem lowers_entered {commands : T → Nat → Transport.Command} {player : T}
    (alone : ∀ u n track settings, u ≠ player → commands u n ≠ .play track settings) :
    Lowers touch (fun _ : T => moves) (fun t n => .enter (commands t n)) player fun s => s.phase = .entered where
  only {t s r answer s'} move lower := by
    cases move with
    | wait idle => exact absurd lower (touch_of_idle idle)
    | aside other => exact absurd lower other
    | turn turn =>
      cases turn with
      | lower => exact ⟨rfl, nofun⟩
      | _ => cases lower
  back {t s r answer s'} move entered := by
    cases move with
    | wait => exact entered
    | aside => cases entered
    | turn turn => cases turn <;> cases entered
  alone t n other entered := by
    cases command : commands t n with
    | play track settings => exact alone t n track settings other command
    | stop | close =>
      rw [command] at entered
      cases entered

/-- A call that has taken the signal back plays. -/
theorem enter_of_lowered {command : Transport.Command} {trace : Trace Paced.Interface} {s : Stage}
    (path : Path moves (.enter command) trace s) (lowered : Lowered touch trace) :
    Stage.enter command = ⟨.entered, 0, none⟩ := by
  have aside (begins : Stage.enter command = ⟨.aside, 0, none⟩) : False := by
    rw [begins] at path
    have never : s.phase = .aside ∧ ¬ Lowered touch trace := by
      refine path.keeps (fun trace s => s.phase = .aside ∧ ¬ Lowered touch trace) ⟨rfl, nofun⟩ ?_
      rintro trace s r answer s' ⟨still, never⟩ move
      cases move with
      | turn turn => cases turn <;> cases still
      | wait idle => exact ⟨still, not_lowered_snoc never (touch_of_idle idle)⟩
      | aside other => exact ⟨still, not_lowered_snoc never other⟩
    exact never.2 lowered
  cases command with
  | play => rfl
  | stop | close => exact (aside rfl).elim

/-- The calls of a run are tracked, since time passes. -/
theorem run_tracked {σ : Type} {answers : Surroundings (fun _ : T => Paced.Interface) σ} {time : σ → Seconds}
    (timed : Timed answers time) (c : Config) (commands : T → Nat → Transport.Command) (shared : σ) :
    Tracked (Transport.calls (output c) commands) answers shared (fun _ => allowed) (fun _ => moves)
      (fun _ _ _ => True) fun t n => .enter (commands t n) := by
  refine tracked (fun s φ => ∀ now, φ.now = some now → now ≤ time s) (fun t n => command_completes c (commands t n))
    ?_ ?_ ?_ ?_
  · intro s t n now known
    cases command : commands t n <;> rw [command] at known <;> cases known
  · intro s t r answer s' φ fits answered
    cases r with
    | clock => exact fun now known => le_trans (fits now known) (timed.clock answered).1
    | _ => trivial
  · intro s t r answer s' φ φ' fits answered move now known
    have ticks : φ'.now = tick φ.now r answer := by cases move <;> rfl
    rw [ticks] at known
    cases r with
    | clock =>
      cases known
      exact (timed.clock answered).2
    | nap span =>
      obtain ⟨earlier, was, rfl⟩ := Option.map_eq_some_iff.1 known
      exact le_trans (add_le_add_left (fits earlier was) span) (timed.nap answered)
    | _ => exact le_trans (fits now known) (timed.forward answered)
  · intro s t r answer s' φ fits answered now known
    exact le_trans (fits now known) (timed.forward answered)

/-- **A paced playback stops within its round.** -/
theorem stopsWithinRound (c : Config) : StopsWithinRound T c := by
  intro σ answers raised time commands player shared history before after s e n signalled timed alone run split raises
    lowered
  have tracked := run_tracked timed c commands shared
  obtain ⟨stage, last, front, back, alert⟩ :=
    run.alert signalled (lowers_entered alone) tracked split raises lowered
  -- The call plays, since no other takes the signal back.
  rw [enter_of_lowered front lowered] at front
  have steady := Steady.of_path front
  obtain ⟨-, cost, main, tail, written, mainDue, tailDue, within⟩ := Since.of_path steady back alert
  rw [← own_append, ← split] at written within
  have most := stage.phase.due_le
  refine ⟨main, tail, written, by omega, by omega, within, ?_, ?_, tracked.ne_unfinished run player⟩
  · intro unlooked
    obtain ⟨noMain, noTail, silent⟩ := steady.quiet unlooked
    rw [written, silent, List.eq_nil_of_length_eq_zero (by omega : main.length = 0),
      List.eq_nil_of_length_eq_zero (by omega : tail.length = 0)]
    rfl
  · have few := length_own_le player n e after
    have small := Stage.cost_le steady.fits
    omega

end Playout.Paced
