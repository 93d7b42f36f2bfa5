import Playout.Proofs.Paced.Calls
import Playout.Proofs.Paced.Course
import Playout.Proofs.Paced.Gapless
import Playout.Proofs.Paced.Reporting

/-!
# `Playout.Proofs.Paced.Excusing` — when a failed write is excused by a stop

A write may fail because of a stop, since that resets the device. Then nobody wants what it should have played, and the
playback is to end well. The loop looks at the signal when the device has reported a failure, but not when the device
has taken nothing.

## Contents
- `Spot.isBlank`, `Course.blank`, `blank_of_path` — whether the device has taken nothing.
- `Spot.Past`, `Course.past`, `Leaves.past` — after a write has failed, with the signal set.
- `outcome_of_failure` — how a loop ends in which a write has failed after a stop.
- `failure_excused_iff` — a play in which a write has failed after a stop ends well unless the device took nothing.
- `run_excused`, `blank_write_not_excused` — a play in which two writes fail, and one in which nothing is taken.
-/

namespace Playout.Paced

open Interleaving Program

variable {c : Config} {frameBytes rate : Nat} {x x' : Spot} {r : Paced.Request} {answer : Paced.Request.Answer r}
  {trace : Trace Paced.Interface}

/-! ## Nothing taken -/

/-- Whether the device has taken nothing. -/
def Spot.isBlank : Spot → Bool
  | blank _ => true
  | _ => false

theorem takesNothing_idle (idle : r.idle = true) : takesNothing r answer = false := by
  cases r with
  | write => cases idle
  | _ => rfl

theorem takesNothing_tore {chunk : List UInt8} {answer : Paced.Request.Answer (.write chunk)}
    (failed : ∀ n, answer ≠ some (.ok n)) : takesNothing (.write chunk) answer = false := by
  rcases answer with _ | failure | n
  · rfl
  · rfl
  · exact absurd rfl (failed n)

theorem Course.blank (move : Course c frameBytes rate x r answer x') :
    x'.isBlank = (x.isBlank || takesNothing r answer) := by
  cases move with
  | idle idle => rw [takesNothing_idle idle, Bool.or_false]
  | tore failed => rw [takesNothing_tore failed]; rfl
  | _ => rfl

/-- The loop comes to where nothing was taken exactly by a write of which nothing is taken. -/
theorem blank_of_path (path : Path (course c frameBytes rate) x trace x') :
    x'.isBlank = true ↔ x.isBlank = true ∨ ∃ bytes, ⟨.write bytes, some (.ok 0)⟩ ∈ trace := by
  rw [← blank_iff]
  refine path.keeps (fun trace x' => x'.isBlank = true ↔ x.isBlank = true ∨ ∃ y ∈ trace, takesNothing y.1 y.2 = true)
    (by simp) ?_
  intro trace y r answer y' same move
  rw [move.blank, Bool.or_eq_true, same]
  simp [or_and_right, exists_or, or_assoc]

/-! ## After a failure -/

/-- Where the loop can be when a write has failed since the signal was set. -/
def Spot.Past : Spot → Prop
  | doubted .. | filled .. | writing none .. | stopped | blank _ => True
  | _ => False

/-- A write that fails. -/
theorem Course.past_of_failure {chunk : List UInt8} {answer : Paced.Request.Answer (.write chunk)}
    (move : Course c frameBytes rate x (.write chunk) answer x') (failed : ∀ n, answer ≠ some (.ok (n + 1))) :
    x.isBlank = false ∧ x'.Past := by
  cases move with
  | idle idle => cases idle
  | put => exact absurd rfl (failed _)
  | refused | tore => exact ⟨rfl, trivial⟩

/-- As long as every look finds the signal set, the loop does not begin another round. -/
theorem Course.past (move : Course c frameBytes rate x r answer x') (past : x.Past)
    (alert : touch r answer ≠ .look false) : x'.Past := by
  cases move with
  | idle => exact past
  | clear | gaveUp | paced | rested => exact absurd rfl alert
  | put | refused | tore | excused | tail | stopped => trivial
  | _ => exact past.elim

/-- The loop is left since a stop has been seen, or since nothing was taken. -/
theorem Leaves.past {outcome : Except PlayError Bool} (leaves : Leaves c x outcome) (past : x.Past) :
    outcome = if x.isBlank then .error tookNothing else .ok true := by
  cases leaves with
  | stopped | blank => rfl
  | _ => exact past.elim

/-- **A loop in which a write has failed after a stop** ends well unless the device took nothing. -/
theorem outcome_of_failure {rounds : Nat} {bytes chunk : List UInt8} {front back : Trace Paced.Interface}
    {answer : Paced.Request.Answer (.write chunk)} {outcome : Except PlayError Bool}
    (path : Path goesOn (stream c frameBytes rate rounds { rest := bytes }) (front ++ ⟨.write chunk, answer⟩ :: back)
      (.done outcome))
    (failed : ∀ n, answer ≠ some (.ok (n + 1))) (alert : Alert touch back) :
    (outcome = .ok true ∧ ∀ bytes, ⟨.write bytes, some (.ok 0)⟩ ∉ front ++ ⟨.write chunk, answer⟩ :: back) ∨
      outcome = .error tookNothing ∧
        ∃ bytes, ⟨.write bytes, some (.ok 0)⟩ ∈ front ++ ⟨.write chunk, answer⟩ :: back := by
  obtain ⟨x, whole, leaves⟩ := course_of_path path
  have blank := blank_of_path whole
  obtain ⟨y, y', -, move, rest⟩ := whole.cutAt
  have past : x.Past := by
    refine rest.keeps (fun back x => Alert touch back → x.Past) (fun _ => (move.past_of_failure failed).2) ?_ alert
    intro back x r answer x' past move alert
    refine move.past (past fun y mem => alert y (List.mem_append_left _ mem)) ?_
    exact alert _ (List.mem_append_right _ List.mem_cons_self)
  have ended := leaves.past past
  cases nothing : x.isBlank with
  | false =>
    rw [nothing] at ended blank
    refine .inl ⟨ended, fun bytes mem => ?_⟩
    exact Bool.false_ne_true (blank.2 (.inr ⟨bytes, mem⟩))
  | true =>
    rw [nothing] at ended blank
    exact .inr ⟨ended, (blank.1 rfl).resolve_left Bool.false_ne_true⟩

/-! ## Whole plays -/

/-- What stands neither in the first nor in the last of three parts stands in the middle. -/
theorem middle_of_split {β : Type} {front middle back before after : List β} {a : β}
    (same : front ++ (middle ++ back) = before ++ a :: after) (early : a ∉ front) (late : a ∉ back) :
    ∃ first last, middle = first ++ a :: last ∧ after = last ++ back := by
  obtain ⟨first, rest⟩ : ∃ first, middle ++ back = first ++ a :: after := by
    rcases List.append_eq_append_iff.1 same with ⟨first, -, rest⟩ | ⟨last, parts, rest⟩
    · exact ⟨first, rest⟩
    · cases last with
      | nil => exact ⟨[], rest.symm⟩
      | cons b last =>
        obtain ⟨rfl, -⟩ := List.cons.inj rest
        exact absurd (parts ▸ List.mem_append_right _ List.mem_cons_self) early
  rcases List.append_eq_append_iff.1 rest with ⟨between, -, parts⟩ | ⟨last, parts, behind⟩
  · exact absurd (parts ▸ List.mem_append_right _ List.mem_cons_self) late
  · cases last with
    | nil => exact absurd (behind ▸ List.mem_cons_self : a ∈ [] ++ back) late
    | cons b last =>
      obtain ⟨rfl, later⟩ := List.cons.inj behind
      exact ⟨first, last, parts, later⟩

/-- The loop of a play that has ended, where something was written. All the writing is done there. -/
theorem loop_of_write {t : Track} {settings : PlaySettings} {front back : Trace Paced.Interface} {chunk : List UInt8}
    {answer : Paced.Request.Answer (.write chunk)} {result : Except PlayError Unit}
    (path : Path goesOn (play c t settings) trace (.done result))
    (whole : trace = front ++ ⟨.write chunk, answer⟩ :: back) :
    ∃ frameBytes rate outcome first last, Path goesOn (loopOf c t settings frameBytes rate)
        (first ++ ⟨.write chunk, answer⟩ :: last) (.done outcome) ∧ result = outcome.map (fun _ => ()) ∧
      (∀ x ∈ last, x ∈ back) ∧ ∀ bytes answer', ⟨.write bytes, answer'⟩ ∈ trace ↔
        ⟨.write bytes, answer'⟩ ∈ first ++ ⟨.write chunk, answer⟩ :: last := by
  generalize ended : Program.done result = p at path
  cases stretches_of_path path with
  | before early =>
    subst whole
    cases early _ (List.mem_append_right _ List.mem_cons_self)
  | inside => exact absurd ended.symm bind_tidy_ne_done
  | @behind h opening loop closing frameBytes rate outcome p early placed loops closes =>
    subst ended
    have late := asked_of_asks closes (tidy_asks outcome)
    -- Neither before the loop nor after it is anything written.
    have neither (bytes : List UInt8) (answer' : Paced.Request.Answer (.write bytes)) :
        ⟨.write bytes, answer'⟩ ∉ opening ∧ ⟨.write bytes, answer'⟩ ∉ closing :=
      ⟨fun mem => Bool.false_ne_true (early _ mem), fun mem => Bool.false_ne_true (late _ mem)⟩
    obtain ⟨first, last, rfl, rfl⟩ := middle_of_split whole (neither chunk answer).1 (neither chunk answer).2
    refine ⟨frameBytes, rate, outcome, first, last, loops, result_of_tidy closes,
      fun x mem => List.mem_append_left _ mem, fun bytes answer' => ?_⟩
    rw [List.mem_append, List.mem_append, or_iff_right (neither bytes answer').1,
      or_iff_left (neither bytes answer').2]

variable {T : Type} [DecidableEq T] {σ : Type} {answers : Surroundings (fun _ : T => Paced.Interface) σ}
  {raised : σ → Bool} {time : σ → Seconds} {commands : T → Nat → Transport.Command} {player : T} {shared : σ}
  {history before after : History T Paced.Interface (Except PlayError Unit)}
  {s : State (fun _ => Paced.Interface) (fun _ => Except PlayError Unit) σ}
  {e : Event (fun _ : T => Paced.Interface) fun _ : T => Except PlayError Unit} {n : Nat}

/-- A call that has taken the signal back plays. -/
theorem plays_of_lowered {command : Transport.Command} {stage : Stage} (path : Path moves (.enter command) trace stage)
    (lowered : Lowered touch trace) : ∃ t settings, command = .play t settings := by
  have begins := enter_of_lowered path lowered
  cases command with
  | play t settings => exact ⟨t, settings, rfl⟩
  | stop | close => cases begins

/-- **When a failed write is excused.** Let one thread play, and others stop and close. When a write of a play has failed
    or taken nothing after the signal was set, the play returns after at most 27 further requests. It ends well exactly if
    the device has never taken nothing, and fails with that otherwise. -/
theorem failure_excused_iff (signalled : Signalled touch answers raised) (timed : Timed answers time)
    (alone : ∀ u n track settings, u ≠ player → commands u n ≠ .play track settings)
    (run : Run (Transport.calls (output c) commands) answers shared history s) (split : history = before ++ e :: after)
    (raises : Raises touch e) (lowered : Lowered touch (own player n before)) {chunk : List UInt8}
    {answer : Paced.Request.Answer (.write chunk)} (failed : ∀ k, answer ≠ some (.ok (k + 1)))
    (write : .asked player n (.write chunk) answer ∈ after) :
    (own player n after).length ≤ 27 ∧ (s.call player).rest ≠ .unfinished ∧
      ∀ result, .returned player n result ∈ history →
        (result = .ok () ↔ ∀ bytes, .asked player n (.write bytes) (some (.ok 0)) ∉ history) ∧
        (result ≠ .ok () → result = .error tookNothing) := by
  obtain ⟨_, _, -, -, -, -, -, few, goes⟩ := stopsWithinRound c signalled timed alone run split raises lowered
  refine ⟨few, goes, fun result returned => ?_⟩
  obtain ⟨_, _, entered, -, alert⟩ :=
    run.alert signalled (lowers_entered alone) (run_tracked timed c commands shared) split raises lowered
  obtain ⟨t, settings, plays⟩ := plays_of_lowered entered lowered
  obtain ⟨-, _, path, rfl⟩ := run.gone.ended player n result returned
  unfold Transport.calls at path
  rw [plays] at path
  obtain ⟨earlier, later, parts⟩ := List.append_of_mem (mem_own.2 write)
  have trace : own player n history = (own player n before ++ own player n [e] ++ earlier) ++
      ⟨.write chunk, answer⟩ :: later := by
    rw [split, own_append, own_cons, parts]
    simp
  obtain ⟨_, _, outcome, first, last, loops, ended, within, wrote⟩ := loop_of_write path trace
  have seen : Alert touch last := by
    refine fun x mem => alert x ?_
    rw [own_cons, parts]
    exact List.mem_append_right _ (List.mem_append_right _ (List.mem_cons_of_mem _ (within x mem)))
  have blank : (∀ bytes, .asked player n (.write bytes) (some (.ok 0)) ∉ history) ↔
      ∀ bytes, ⟨.write bytes, some (.ok 0)⟩ ∉ first ++ ⟨.write chunk, answer⟩ :: last := by
    refine forall_congr' fun bytes => not_congr ?_
    rw [← wrote, mem_own]
  rcases outcome_of_failure loops failed seen with ⟨rfl, never⟩ | ⟨rfl, bytes, mem⟩
  · obtain rfl : result = .ok () := ended
    exact ⟨iff_of_true rfl (blank.2 never), fun failed => absurd rfl failed⟩
  · obtain rfl : result = .error tookNothing := ended
    have bad : (.error tookNothing : Except PlayError Unit) ≠ .ok () := by
      intro same
      cases same
    exact ⟨iff_of_false bad fun never => blank.1 never bytes mem, fun _ => rfl⟩

/-! ### A device that fails and one that takes nothing -/

/-- A stop lands after the look at the signal, and then both the chunk and the tail behind it fail. -/
theorem run_excused : ∃ (before after : History Bool Paced.Interface (Except PlayError Unit))
      (s : State (fun _ => Paced.Interface) (fun _ => Except PlayError Unit) World) (result : Except PlayError Unit),
    Run (Transport.calls (output { device := "dsp" }) threeAndStop) reacts {}
      (before ++ .asked false 0 .cancelSignal () :: after) s ∧
    Lowered touch (own true 0 before) ∧
    .asked true 0 (.write [1, 0, 2, 0]) (some (.error ⟨"interrupted", []⟩)) ∈ after ∧
    .asked true 0 (.write [3, 0]) (some (.error ⟨"interrupted", []⟩)) ∈ after ∧
    .returned true 0 result ∈ before ++ .asked false 0 .cancelSignal () :: after ∧
    ∀ bytes, .asked true 0 (.write bytes) (some (.ok 0)) ∉ before ++ .asked false 0 .cancelSignal () :: after := by
  have run : Run (Transport.calls (output { device := "dsp" }) threeAndStop) reacts ({} : World) [] _ := .start
  rw [pair_start] at run
  replace run := run.first rfl () .lower
  replace run := run.first rfl (Except.ok 0 : Except Failure Handle) (.other rfl ⟨nofun, nofun⟩)
  replace run := run.first rfl (Except.ok ⟨16, 1, 8000⟩ : Except Failure StreamParams) (.other rfl ⟨nofun, nofun⟩)
  replace run := run.first rfl () (.other rfl ⟨nofun, nofun⟩)
  replace run := run.first (congrArg (fun bytes => playBytes { device := "dsp" } 0 bytes 2 8000) trackBytes_three)
    (none : Option Handle) (.other rfl ⟨nofun, nofun⟩)
  replace run := run.first rfl false .look
  replace run := run.first rfl (some (.ok ⟨1, 4, 8⟩) : Option (Except Failure BufferSpace)) (.other rfl ⟨nofun, nofun⟩)
  replace run := run.first rfl () (.other rfl ⟨nofun, nofun⟩)
  replace run := run.second rfl () (.other rfl ⟨nofun, nofun⟩)
  replace run := run.second rfl () .raise
  replace run := run.first rfl (some (.error ⟨"interrupted", []⟩) : Option (Except Failure Nat))
    (.other rfl ⟨nofun, nofun⟩)
  replace run := run.first rfl true .look
  replace run := run.first rfl () (.other rfl ⟨nofun, nofun⟩)
  replace run := run.first rfl (some (.error ⟨"interrupted", []⟩) : Option (Except Failure Nat))
    (.other rfl ⟨nofun, nofun⟩)
  replace run := run.first rfl true .look
  replace run := run.first rfl () (.other rfl ⟨nofun, nofun⟩)
  replace run := run.first rfl WaitOutcome.cancelled (.cancelled rfl)
  replace run := run.first rfl () (.other rfl ⟨nofun, nofun⟩)
  replace run := run.first rfl (some 0 : Option Handle) (.other rfl ⟨nofun, nofun⟩)
  replace run := run.first rfl (Except.ok () : Except Failure Unit) (.other rfl ⟨nofun, nofun⟩)
  replace run := run.first rfl () (.other rfl ⟨nofun, nofun⟩)
  replace run := run.first rfl () (.other rfl ⟨nofun, nofun⟩)
  replace run := run.firstDone rfl
  refine ⟨[_, _, _, _, _, _, _, _, _], [_, _, _, _, _, _, _, _, _, _, _, _, _], _, .ok (), run, ?_, ?_, ?_, ?_, ?_⟩
  · exact ⟨⟨.resetSignal, ()⟩, List.mem_cons_self, rfl⟩
  · exact List.mem_cons_self
  · exact List.mem_cons_of_mem _ (List.mem_cons_of_mem _ (List.mem_cons_of_mem _ List.mem_cons_self))
  · exact List.mem_of_getLast? rfl
  · intro bytes mem
    exact absurd (blank_iff.2 ⟨bytes, mem_own.2 mem⟩) (by decide)

/-- Neither the chunk nor the tail has made the play fail. -/
theorem torn_writes_excused : ∃ (before after : History Bool Paced.Interface (Except PlayError Unit))
      (s : State (fun _ => Paced.Interface) (fun _ => Except PlayError Unit) World),
    Run (Transport.calls (output { device := "dsp" }) threeAndStop) reacts {}
      (before ++ .asked false 0 .cancelSignal () :: after) s ∧
    .asked true 0 (.write [1, 0, 2, 0]) (some (.error ⟨"interrupted", []⟩)) ∈ after ∧
    .asked true 0 (.write [3, 0]) (some (.error ⟨"interrupted", []⟩)) ∈ after ∧
    .returned true 0 (.ok ()) ∈ before ++ .asked false 0 .cancelSignal () :: after := by
  obtain ⟨before, after, s, result, run, lowered, chunk, tail, returned, never⟩ := run_excused
  have excused :=
    failure_excused_iff reacts_signalled reacts_timed threeAndStop_alone run rfl rfl lowered (by simp) chunk
  obtain rfl : result = .ok () := (excused.2.2 result returned).1.2 never
  exact ⟨before, after, s, run, chunk, tail, returned⟩

/-- **A write of which nothing was taken is not excused.** A stop lands after the look at the signal, so that the device
    is reset and takes nothing. The play fails nevertheless. -/
theorem blank_write_not_excused : ∃ (before after : History Bool Paced.Interface (Except PlayError Unit))
      (s : State (fun _ => Paced.Interface) (fun _ => Except PlayError Unit) World),
    Run (Transport.calls (output { device := "dsp" }) threeAndStop) reacts {}
      (before ++ .asked false 0 .cancelSignal () :: after) s ∧
    Lowered touch (own true 0 before) ∧ .asked true 0 (.write [1, 0, 2, 0]) (some (.ok 0)) ∈ after ∧
    .returned true 0 (.error tookNothing) ∈ after ∧
    .returned true 0 (.ok ()) ∉ before ++ .asked false 0 .cancelSignal () :: after := by
  have run : Run (Transport.calls (output { device := "dsp" }) threeAndStop) reacts ({} : World) [] _ := .start
  rw [pair_start] at run
  replace run := run.first rfl () .lower
  replace run := run.first rfl (Except.ok 0 : Except Failure Handle) (.other rfl ⟨nofun, nofun⟩)
  replace run := run.first rfl (Except.ok ⟨16, 1, 8000⟩ : Except Failure StreamParams) (.other rfl ⟨nofun, nofun⟩)
  replace run := run.first rfl () (.other rfl ⟨nofun, nofun⟩)
  replace run := run.first (congrArg (fun bytes => playBytes { device := "dsp" } 0 bytes 2 8000) trackBytes_three)
    (none : Option Handle) (.other rfl ⟨nofun, nofun⟩)
  replace run := run.first rfl false .look
  replace run := run.first rfl (some (.ok ⟨1, 4, 8⟩) : Option (Except Failure BufferSpace)) (.other rfl ⟨nofun, nofun⟩)
  replace run := run.first rfl () (.other rfl ⟨nofun, nofun⟩)
  replace run := run.second rfl () (.other rfl ⟨nofun, nofun⟩)
  replace run := run.second rfl () .raise
  replace run := run.second rfl (some (.ok ()) : Option (Except Failure Unit)) (.other rfl ⟨nofun, nofun⟩)
  replace run := run.secondDone rfl
  replace run := run.first rfl (some (.ok 0) : Option (Except Failure Nat)) (.other rfl ⟨nofun, nofun⟩)
  replace run := run.first rfl (some 0 : Option Handle) (.other rfl ⟨nofun, nofun⟩)
  replace run := run.first rfl () (.other rfl ⟨nofun, nofun⟩)
  replace run := run.first rfl () (.other rfl ⟨nofun, nofun⟩)
  replace run := run.firstDone rfl
  refine ⟨[_, _, _, _, _, _, _, _, _], [_, _, _, _, _, _, _], _, run, ?_, ?_, ?_, ?_⟩
  · exact ⟨⟨.resetSignal, ()⟩, List.mem_cons_self, rfl⟩
  · exact List.mem_cons_of_mem _ (List.mem_cons_of_mem _ List.mem_cons_self)
  · exact List.mem_of_getLast? rfl
  · simp [Except.map]

end Playout.Paced
