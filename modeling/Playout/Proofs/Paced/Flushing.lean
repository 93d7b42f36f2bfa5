import Playout.Proofs.Paced.Calls
import Playout.Proofs.Paced.Counting
import Playout.Proofs.Paced.Gapless

/-!
# `Playout.Proofs.Paced.Flushing` — when a device is flushed

Before it is closed, a device may still be made to play what it holds. A play has that done whenever its loop has not
failed, whether it has come to its end or a stop was seen.

## Contents
- `Flushed`, `Unflushed` — the device is flushed at the end of a play, or not at all.
- `Slotted`, `slot_of_placed` — the device stays in its slot for as long as the loop runs.
- `Spot.owed`, `short_of_failed` — a loop that has failed has not had all its bytes taken.
- `flushed_unless_failed` — which plays flush the device.
- `Bench`, `stopped_playback_flushed` — a play that flushes its device after a stop.
-/

namespace Playout.Paced

open Interleaving Program

variable {c : Config} {t : Track} {settings : PlaySettings} {trace : Trace Paced.Interface} {h : Handle}

/-! ## Flushes -/

/-- Whether a request has a device play what it still holds. -/
def Request.flushes : Paced.Request → Bool
  | .flush _ => true
  | _ => false

/-- No device is flushed. -/
def Unflushed (trace : Trace Paced.Interface) : Prop := ∀ x ∈ trace, x.1.flushes = false

/-- The device that was put into the slot is flushed once, after all that was written, and closed after that. -/
def Flushed (trace : Trace Paced.Interface) : Prop :=
  ∃ front h found answer back, trace = front ++ ⟨.flush h, answer⟩ :: back ∧ ⟨.install h, found⟩ ∈ front ∧
    ⟨.releaseDevice h, ()⟩ ∈ back ∧ Unflushed front ∧ Unflushed back ∧ writes back = []

theorem Unflushed.append {front back : Trace Paced.Interface} (early : Unflushed front) (late : Unflushed back) :
    Unflushed (front ++ back) := by
  intro x mem
  rcases List.mem_append.1 mem with mem | mem
  · exact early x mem
  · exact late x mem

/-- Requests none of which is a flush. -/
theorem unflushed_of_asked {kind : Paced.Request → Bool} (never : ∀ h, kind (.flush h) = false)
    (asked : ∀ x ∈ trace, kind x.1 = true) : Unflushed trace := by
  rintro ⟨r, answer⟩ mem
  cases r with
  | flush h => exact absurd ((never h).symm.trans (asked _ mem)) Bool.false_ne_true
  | _ => rfl

/-- Requests none of which is a write. -/
theorem unwritten_of_asked {kind : Paced.Request → Bool} (never : ∀ bytes, kind (.write bytes) = false)
    (asked : ∀ x ∈ trace, kind x.1 = true) : writes trace = [] := by
  refine List.filterMap_eq_nil_iff.2 ?_
  rintro ⟨r, answer⟩ mem
  cases r with
  | write bytes => exact absurd ((never bytes).symm.trans (asked _ mem)) Bool.false_ne_true
  | _ => rfl

/-- What is asked after the device was flushed, or instead of that. -/
def Request.closing : Paced.Request → Bool
  | .log _ | .releaseDevice _ => true
  | _ => false

/-- After a loop that has not failed, a device that lies in the slot is flushed and closed. -/
theorem flush_of_tidy {stopped : Bool} {result : Except PlayError Unit}
    (path : Path goesOn (tidy (.ok stopped)) trace (.done result)) : ∃ found rest, trace = ⟨.uninstall, found⟩ :: rest ∧
      ∀ h, found = some h → ∃ answer back, rest = ⟨.flush h, answer⟩ :: back ∧ ⟨.releaseDevice h, ()⟩ ∈ back ∧
        ∀ x ∈ back, x.1.closing = true := by
  obtain ⟨found, rest, rfl, emptied⟩ := goesOn_answered path
  refine ⟨found, rest, rfl, ?_⟩
  rintro h rfl
  obtain ⟨answer, back, rfl, flushed⟩ := goesOn_answered emptied
  refine ⟨answer, back, rfl, ?_⟩
  cases answer with
  | error failure =>
    obtain ⟨_, _, rfl, warned⟩ := goesOn_answered flushed
    obtain ⟨_, _, rfl, released⟩ := goesOn_answered warned
    obtain ⟨_, _, rfl, told⟩ := goesOn_answered released
    obtain ⟨rfl, -⟩ := goesOn_done told
    simp [Request.closing]
  | ok =>
    obtain ⟨_, _, rfl, released⟩ := goesOn_answered flushed
    obtain ⟨_, _, rfl, told⟩ := goesOn_answered released
    obtain ⟨rfl, -⟩ := goesOn_done told
    simp [Request.closing]

/-- After a loop that has failed nothing is flushed. -/
theorem unflushed_of_tidy {e : PlayError} {p : Action (Except PlayError Unit)}
    (path : Path goesOn (tidy (.error e)) trace p) : Unflushed trace := by
  have asks : (tidy (.error e)).Asks fun r : Paced.Request => r.flushes = false := by
    refine ⟨rfl, ?_⟩
    rintro (_ | h)
    · trivial
    · exact ⟨rfl, fun _ => ⟨rfl, fun _ => trivial⟩⟩
  exact asked_of_asks path asks

/-! ## The slot -/

variable {T : Type} [DecidableEq T] {σ : Type} {answers : Surroundings (fun _ : T => Paced.Interface) σ}
  {slot : σ → Option Handle} {commands : T → Nat → Transport.Command} {player : T} {shared : σ}
  {history : History T Paced.Interface (Except PlayError Unit)}
  {s : State (fun _ => Paced.Interface) (fun _ => Except PlayError Unit) σ} {n : Nat} {result : Except PlayError Unit}

/-- The slot keeps what is put there until it is taken out. -/
structure Slotted (answers : Surroundings (fun _ : T => Paced.Interface) σ) (slot : σ → Option Handle) : Prop where
  install : ∀ {t h s found s'}, answers t (.install h) s found s' → found = slot s ∧ slot s' = some h
  uninstall : ∀ {t s found s'}, answers t .uninstall s found s' → found = slot s ∧ slot s' = none
  keep : ∀ {t r s answer s'}, answers t r s answer s' → r.places = false → slot s' = slot s

/-- Where a device has been placed, the last request has put it there, or has left it there. -/
theorem Placed.last {r : Paced.Request} {answer : Paced.Request.Answer r} (placed : Placed h (trace ++ [⟨r, answer⟩])) :
    r = .install h ∨ r.places = false ∧ Placed h trace := by
  obtain ⟨front, found, back, parts, still⟩ := placed
  rcases List.eq_nil_or_concat back with rfl | ⟨back, x, rfl⟩
  · obtain ⟨-, same⟩ := List.append_inj' parts rfl
    cases same
    exact .inl rfl
  · rw [List.concat_eq_append] at parts still
    rw [← List.cons_append, ← List.append_assoc] at parts
    obtain ⟨rfl, same⟩ := List.append_inj' parts rfl
    obtain rfl := List.singleton_inj.1 same
    refine .inr ⟨still _ (List.mem_append_right _ List.mem_cons_self), front, found, back, rfl, ?_⟩
    exact fun x mem => still x (List.mem_append_left _ mem)

/-- What has been placed was put there. -/
theorem Placed.installed (placed : Placed h trace) : ∃ found, ⟨.install h, found⟩ ∈ trace := by
  obtain ⟨front, found, back, rfl, -⟩ := placed
  exact ⟨found, List.mem_append_right _ List.mem_cons_self⟩

/-- What leaves the device where it is. -/
theorem Placed.append {back : Trace Paced.Interface} (placed : Placed h trace)
    (still : ∀ x ∈ back, x.1.places = false) : Placed h (trace ++ back) := by
  obtain ⟨front, found, between, rfl, earlier⟩ := placed
  refine ⟨front, found, between ++ back, by simp, fun x mem => ?_⟩
  rcases List.mem_append.1 mem with mem | mem
  · exact earlier x mem
  · exact still x mem

/-- A stop leaves the device in the slot. -/
theorem stop_asks : ((Transport.Command.stop).program (output c)).Asks fun r : Paced.Request => r.places = false := by
  refine ⟨rfl, fun _ => ⟨rfl, fun _ => ⟨rfl, ?_⟩⟩⟩
  rintro (_ | failure | _)
  · trivial
  · exact ⟨rfl, fun _ => trivial⟩
  · trivial

/-- **A device stays where a play has put it**, as long as the other threads only stop. -/
theorem slot_of_placed (slotted : Slotted answers slot) (alone : ∀ u m, u ≠ player → commands u m = .stop)
    (run : Run (Transport.calls (output c) commands) answers shared history s)
    (placed : Placed h (own player (s.call player).number history)) : slot s.shared = some h := by
  have nowhere : ¬ Placed h [] := by
    rintro ⟨front, found, back, no, -⟩
    simp at no
  induction run with
  | start => exact absurd placed nowhere
  | @step history s event s' run next ih =>
    cases next with
    | @ask t r next answer shared' asks answered =>
      dsimp only at placed
      by_cases same : t = player
      · subst same
        rw [Function.update_self, own_asked, if_pos ⟨rfl, rfl⟩] at placed
        rcases placed.last with rfl | ⟨still, earlier⟩
        · exact (slotted.install answered).2
        · exact (slotted.keep answered still).trans (ih earlier)
      · rw [Function.update_of_ne (Ne.symm same), own_asked, if_neg fun both => same both.1, List.append_nil] at placed
        have path := run.gone.running t
        unfold Transport.calls at path
        rw [alone t _ same, asks] at path
        exact (slotted.keep answered (goesOn_asks path stop_asks).2.1).trans (ih placed)
    | @finish t result done =>
      dsimp only at placed
      rw [own_append, own_returned, List.append_nil] at placed
      by_cases same : t = player
      · -- The next call has not begun.
        subst same
        rw [Function.update_self, run.gone.begun t _ (Nat.lt_succ_self _)] at placed
        exact absurd placed nowhere
      · rw [Function.update_of_ne (Ne.symm same)] at placed
        exact ih placed

/-! ## What a failed loop leaves -/

/-- As long as nothing is written, nothing is taken. -/
theorem taken_of_unwritten (silent : writes trace = []) : taken trace = [] := by
  have none (x : Σ r : Paced.Request, Paced.Request.Answer r) (mem : x ∈ trace) : attempt? x = none := by
    have unwritten := List.filterMap_eq_nil_iff.1 silent x mem
    obtain ⟨r, answer⟩ := x
    cases r with
    | write => cases unwritten
    | _ => rfl
  unfold taken tries
  rw [List.filterMap_eq_nil_iff.2 none]
  rfl

theorem taken_append (front back : Trace Paced.Interface) : taken (front ++ back) = taken front ++ taken back := by
  unfold taken tries
  rw [List.filterMap_append, takenOf_append]

theorem taken_put (chunk : List UInt8) (n : Nat) : taken [⟨.write chunk, some (.ok n)⟩] = chunk.take n := takenOf_done _ _

theorem taken_tore {chunk : List UInt8} {answer : Paced.Request.Answer (.write chunk)}
    (failed : ∀ n, answer ≠ some (.ok n)) : taken [⟨.write chunk, answer⟩] = [] := by
  unfold taken tries
  rw [List.filterMap_cons_some (attempt?_failed failed)]
  rfl

/-- How many bytes have not been taken at least. -/
def Spot.owed : Spot → Nat
  | head rest _ | cleared rest _ | starved rest _ | writing _ _ _ rest _ | doubted _ _ _ rest _ | filled _ _ rest _ |
    blank rest | failed rest => rest.length
  | rested _ | stopped => 0

theorem Course.owed {frameBytes rate k : Nat} {x x' : Spot} {r : Paced.Request} {answer : Paced.Request.Answer r}
    (move : Course c frameBytes rate x r answer x') (sound : x.Sound) (within : (taken trace).length + x.owed ≤ k) :
    (taken (trace ++ [⟨r, answer⟩])).length + x'.owed ≤ k := by
  rw [taken_append, List.length_append]
  have silent (unwritten : written? ⟨r, answer⟩ = none) (fewer : x'.owed ≤ x.owed) :
      (taken trace).length + (taken [⟨r, answer⟩]).length + x'.owed ≤ k := by
    have nothing : taken [⟨r, answer⟩] = [] := taken_of_unwritten (by simp [writes, unwritten])
    rw [nothing, List.length_nil]
    omega
  cases move with
  | idle idle => exact silent (idle_nothing idle).1 (Nat.le_refl _)
  | halt | stopped => exact silent rfl (Nat.zero_le _)
  | excused =>
    refine silent rfl ?_
    simp [Spot.owed]
  | @put tail chunk written rest lead n =>
    have few := sound.2.1.length_le
    rw [taken_put, List.length_take]
    simp only [Spot.owed, List.length_drop] at within ⊢
    omega
  | refused =>
    rw [taken_put, List.take_zero]
    exact within
  | tore failed =>
    rw [taken_tore failed]
    exact within
  | _ => exact silent rfl (Nat.le_refl _)

/-- A loop that has failed has not had all its bytes taken. -/
theorem short_of_failed {frameBytes rate rounds : Nat} {bytes : List UInt8} {e : PlayError}
    (path : Path goesOn (stream c frameBytes rate rounds { rest := bytes }) trace (.done (.error e))) :
    (taken trace).length < bytes.length := by
  obtain ⟨x, along, leaves⟩ := course_of_path path
  have within : x.Sound ∧ (taken trace).length + x.owed ≤ bytes.length := by
    refine along.keeps (fun trace x => x.Sound ∧ (taken trace).length + x.owed ≤ bytes.length) ?_ ?_
    · exact ⟨trivial, Nat.le_of_eq (Nat.zero_add _)⟩
    · rintro trace x r answer x' ⟨sound, within⟩ move
      exact ⟨move.sound sound, move.owed sound within⟩
  obtain ⟨sound, within⟩ := within
  have due : 0 < x.owed := by
    cases leaves with
    | blank | failed | stalled => exact List.length_pos_iff.2 sound
  omega

/-! ## Whole plays -/

/-- An empty track is played with a single request. -/
theorem play_empty (empty : t.isEmpty = true) : play c t settings = .ask .resetSignal fun _ => .done (.ok ()) := by
  simp [play, empty]

/-- A track that is not empty has bytes to play. -/
theorem trackBytes_pos (nonempty : t.isEmpty = false) : 0 < (trackBytes t settings).length := by
  have samples : ¬ t.samples.length < max t.channels.toNat 1 := by
    rw [← t.isEmpty_iff, nonempty]
    exact Bool.false_ne_true
  unfold trackBytes
  rw [Sample.length_toBytes, Sample.length_scale]
  split <;> omega

/-- A play that has failed has flushed nothing, and has not had all its bytes taken. -/
theorem of_play_failed {e : PlayError} (path : Path goesOn (play c t settings) trace (.done (.error e))) :
    Unflushed trace ∧ (t.isEmpty = false → taken trace ≠ trackBytes t settings) := by
  generalize ended : (Program.done (.error e) : Action (Except PlayError Unit)) = p at path
  cases stretches_of_path path with
  | before early =>
    refine ⟨unflushed_of_asked (fun _ => rfl) early, fun nonempty whole => ?_⟩
    have some : 0 < (trackBytes t settings).length := trackBytes_pos nonempty
    rw [← whole, taken_of_unwritten (unwritten_of_asked (fun _ => rfl) early)] at some
    exact Nat.lt_irrefl 0 some
  | inside => exact absurd ended.symm bind_tidy_ne_done
  | @behind h front loop back frameBytes rate outcome p early placed loops closes =>
    subst ended
    have failed := result_of_tidy closes
    cases outcome with
    | ok stopped => cases failed
    | error e' =>
      have looping := asked_of_asks loops (stream_asks frameBytes rate _ _)
      have late := asked_of_asks closes (tidy_asks _)
      constructor
      · have first := unflushed_of_asked (fun _ => rfl) early
        have between := unflushed_of_asked (fun _ => rfl) looping
        exact first.append (between.append (unflushed_of_tidy closes))
      · intro _ whole
        have few := short_of_failed loops
        rw [taken_append, taken_append, taken_of_unwritten (unwritten_of_asked (fun _ => rfl) early),
          taken_of_unwritten (unwritten_of_asked (fun _ => rfl) late), List.nil_append, List.append_nil] at whole
        rw [whole] at few
        exact Nat.lt_irrefl _ few

/-- A play that ends well has flushed its device, unless it had nothing to play. -/
theorem flushed_of_returned {track : Track} (slotted : Slotted answers slot)
    (alone : ∀ u m, u ≠ player → commands u m = .stop)
    (run : Run (Transport.calls (output c) commands) answers shared history s)
    (plays : commands player n = .play track settings) (returned : .returned player n (.ok ()) ∈ history)
    (nonempty : track.isEmpty = false) : Flushed (own player n history) := by
  obtain ⟨-, _, path, rfl⟩ := run.gone.ended player n _ returned
  unfold Transport.calls at path
  rw [plays] at path
  generalize whole : own player n history = trace at path ⊢
  generalize ended : (Program.done (.ok ()) : Action (Except PlayError Unit)) = p at path
  cases stretches_of_path path with
  | before _ empty => exact absurd (nonempty.symm.trans (empty ended.symm)) Bool.false_ne_true
  | inside => exact absurd ended.symm bind_tidy_ne_done
  | @behind h front loop back frameBytes rate outcome p early placed loops closes =>
    subst ended
    have looping := asked_of_asks loops (stream_asks frameBytes rate _ _)
    have still (x : Σ r : Paced.Request, Paced.Request.Answer r) (mem : x ∈ loop) : x.1.places = false := by
      have asked := looping x mem
      obtain ⟨r, answer⟩ := x
      cases r with
      | install | uninstall => cases asked
      | _ => rfl
    have placed' := placed.append still
    cases outcome with
    | error e => cases result_of_tidy closes
    | ok stopped =>
      obtain ⟨found, rest, rfl, flush⟩ := flush_of_tidy closes
      -- When the device is taken out of the slot, it is still there.
      rw [← List.append_assoc] at whole
      obtain ⟨before, after, rfl, earlier, -⟩ := moment_of_own whole
      obtain ⟨s₁, next, shared', run₁, number, -, answered⟩ := run.asked
      rw [← earlier, ← number] at placed'
      have there := (slotted.uninstall answered).1.trans (slot_of_placed slotted alone run₁ placed')
      obtain ⟨answer, closing, rfl, released, closed⟩ := flush h there
      obtain ⟨other, installed⟩ := placed.installed
      refine ⟨front ++ loop ++ [⟨.uninstall, found⟩], h, other, answer, closing, by simp, by simp [installed], released,
        ?_, unflushed_of_asked (fun _ => rfl) closed, unwritten_of_asked (fun _ => rfl) closed⟩
      have first := unflushed_of_asked (fun _ => rfl) early
      have second := unflushed_of_asked (fun _ => rfl) looping
      have third : Unflushed [⟨.uninstall, found⟩] := by simp [Unflushed, Request.flushes]
      exact (first.append second).append third

/-- As long as no stop was seen, a play that ends well has had all its bytes taken. -/
theorem taken_of_returned {track : Track} (run : Run (Transport.calls (output c) commands) answers shared history s)
    (plays : commands player n = .play track settings) (modest : Modest (own player n history))
    (returned : .returned player n (.ok ()) ∈ history) (nonempty : track.isEmpty = false)
    (calm : ¬ Found touch (own player n history)) : taken (own player n history) = trackBytes track settings := by
  obtain ⟨x, path, dealt⟩ := run.path_of_returned (play_follow plays) returned
  have held := Held.of_path path modest (sticky_of_not_found calm)
  rcases dealt rfl track settings rfl nonempty with ⟨s, rfl⟩ | stopped | rfl
  · have whole := held.2.1
    rwa [List.append_nil] at whole
  · exact absurd (held.found stopped) calm
  · exact held.elim

/-- **Which plays flush their device.** Let one thread play, and others stop. A play that ends well flushes its device
    exactly once, after the last write and before it is closed, even if a stop was seen. A play that fails or has nothing
    to play flushes none. If no stop was seen, a play ends well exactly when all its bytes were taken. -/
theorem flushed_unless_failed {track : Track} (slotted : Slotted answers slot)
    (alone : ∀ u m, u ≠ player → commands u m = .stop)
    (run : Run (Transport.calls (output c) commands) answers shared history s)
    (plays : commands player n = .play track settings) (modest : Modest (own player n history))
    (returned : .returned player n result ∈ history) :
    (track.isEmpty = false → result = .ok () → Flushed (own player n history)) ∧
      (track.isEmpty = true ∨ result ≠ .ok () → Unflushed (own player n history)) ∧
      (track.isEmpty = false → ¬ Found touch (own player n history) →
        (result = .ok () ↔ taken (own player n history) = trackBytes track settings)) := by
  obtain ⟨-, _, path, rfl⟩ := run.gone.ended player n result returned
  unfold Transport.calls at path
  rw [plays] at path
  refine ⟨?_, ?_, ?_⟩
  · rintro nonempty rfl
    exact flushed_of_returned slotted alone run plays returned nonempty
  · rintro (empty | failed)
    · have short : Path goesOn (play c track settings) (own player n history) (.done result) := path
      rw [play_empty empty] at short
      obtain ⟨_, rest, parts, done⟩ := goesOn_answered short
      obtain ⟨rfl, -⟩ := goesOn_done done
      rw [parts]
      simp [Unflushed, Request.flushes]
    · cases result with
      | ok => exact absurd rfl failed
      | error e => exact (of_play_failed path).1
  · intro nonempty calm
    cases result with
    | ok => exact iff_of_true rfl (taken_of_returned run plays modest returned nonempty calm)
    | error e => exact iff_of_false nofun ((of_play_failed path).2 nonempty)

/-! ### A device that is flushed after a stop -/

/-- A signal and a clock, and a slot for a device. -/
structure Bench extends World where
  slot : Option Handle := none

/-- The slot keeps what is put there. All else is as without a slot. -/
inductive Serves : Bench → (r : Paced.Request) → Paced.Request.Answer r → Bench → Prop where
  | install {b h} : Serves b (.install h) b.slot { b with slot := some h }
  | uninstall {b} : Serves b .uninstall b.slot { b with slot := none }
  | other {b r answer w} (apart : r.places = false) (reacts : Reacts b.toWorld r answer w) :
      Serves b r answer { b with toWorld := w }

/-- The surroundings of two threads. -/
def serves : Surroundings (fun _ : Bool => Paced.Interface) Bench := fun _ r b answer b' => Serves b r answer b'

theorem serves_slotted : Slotted serves Bench.slot where
  install {t h b found b'} answered := by
    have answered : Serves b (.install h) found b' := answered
    cases answered with
    | install => exact ⟨rfl, rfl⟩
    | other apart => cases apart
  uninstall {t b found b'} answered := by
    have answered : Serves b .uninstall found b' := answered
    cases answered with
    | uninstall => exact ⟨rfl, rfl⟩
    | other apart => cases apart
  keep {t r b answer b'} answered apart := by
    have answered : Serves b r answer b' := answered
    cases answered with
    | install | uninstall => cases apart
    | other => rfl

/-- A stop lands after the look at the signal, then all is written, and the wait finds the signal set. -/
theorem run_flushed : ∃ (history : History Bool Paced.Interface (Except PlayError Unit))
      (s : State (fun _ => Paced.Interface) (fun _ => Except PlayError Unit) Bench),
    Run (Transport.calls (output { device := "dsp" }) threeAndStop) serves {} history s ∧
    .returned true 0 (.ok ()) ∈ history ∧ Found touch (own true 0 history) ∧
    .asked true 0 (.flush 0) (.ok ()) ∈ history ∧ tries (own true 0 history) = [([1, 0, 2, 0, 3, 0], some 6)] := by
  have run : Run (Transport.calls (output { device := "dsp" }) threeAndStop) serves ({} : Bench) [] _ := .start
  rw [pair_start] at run
  replace run := run.first rfl () (.other rfl .lower)
  replace run := run.first rfl (Except.ok 0 : Except Failure Handle) (.other rfl (.other rfl ⟨nofun, nofun⟩))
  replace run := run.first rfl (Except.ok ⟨16, 1, 8000⟩ : Except Failure StreamParams)
    (.other rfl (.other rfl ⟨nofun, nofun⟩))
  replace run := run.first rfl () (.other rfl (.other rfl ⟨nofun, nofun⟩))
  replace run := run.first (congrArg (fun bytes => playBytes { device := "dsp" } 0 bytes 2 8000) trackBytes_three)
    (none : Option Handle) .install
  replace run := run.first rfl false (.other rfl .look)
  replace run := run.first rfl (some (.ok ⟨1, 6, 6⟩) : Option (Except Failure BufferSpace))
    (.other rfl (.other rfl ⟨nofun, nofun⟩))
  replace run := run.first rfl () (.other rfl (.other rfl ⟨nofun, nofun⟩))
  replace run := run.second rfl () (.other rfl (.other rfl ⟨nofun, nofun⟩))
  replace run := run.second rfl () (.other rfl .raise)
  replace run := run.first rfl (some (.ok 6) : Option (Except Failure Nat)) (.other rfl (.other rfl ⟨nofun, nofun⟩))
  replace run := run.first rfl () (.other rfl (.other rfl ⟨nofun, nofun⟩))
  replace run := run.first rfl WaitOutcome.cancelled (.other rfl (.cancelled rfl))
  replace run := run.first rfl () (.other rfl (.other rfl ⟨nofun, nofun⟩))
  replace run := run.first rfl (some 0 : Option Handle) .uninstall
  replace run := run.first rfl (Except.ok () : Except Failure Unit) (.other rfl (.other rfl ⟨nofun, nofun⟩))
  replace run := run.first rfl () (.other rfl (.other rfl ⟨nofun, nofun⟩))
  replace run := run.first rfl () (.other rfl (.other rfl ⟨nofun, nofun⟩))
  replace run := run.firstDone rfl
  refine ⟨_, _, run, List.mem_append_right _ List.mem_cons_self, ?_, ?_, ?_⟩
  · unfold Found
    decide
  · simp
  · decide +kernel

/-- **A playback that was stopped is flushed.** Its wait has found the signal set, and the device is made to play what it
    holds nevertheless. -/
theorem stopped_playback_flushed : ∃ (history : History Bool Paced.Interface (Except PlayError Unit))
      (s : State (fun _ => Paced.Interface) (fun _ => Except PlayError Unit) Bench),
    Run (Transport.calls (output { device := "dsp" }) threeAndStop) serves {} history s ∧
    Found touch (own true 0 history) ∧ ¬ Unflushed (own true 0 history) := by
  obtain ⟨history, s, run, -, found, flushed, -⟩ := run_flushed
  exact ⟨history, s, run, found, fun never => Bool.false_ne_true (never _ (mem_own.2 flushed)).symm⟩

theorem threeAndStop_stops : ∀ u m, u ≠ true → threeAndStop u m = .stop := by
  intro u m other
  cases u with
  | true => exact absurd rfl other
  | false => rfl

/-- Its device was flushed exactly once, at its end. -/
theorem flushed_after_stop : ∃ (history : History Bool Paced.Interface (Except PlayError Unit))
      (s : State (fun _ => Paced.Interface) (fun _ => Except PlayError Unit) Bench),
    Run (Transport.calls (output { device := "dsp" }) threeAndStop) serves {} history s ∧
    Modest (own true 0 history) ∧ .returned true 0 (.ok ()) ∈ history ∧ Flushed (own true 0 history) := by
  obtain ⟨history, s, run, returned, -, -, tried⟩ := run_flushed
  have modest : Modest (own true 0 history) := by
    intro bytes n mem
    rw [tried] at mem
    obtain ⟨rfl, rfl⟩ : bytes = [1, 0, 2, 0, 3, 0] ∧ n = 6 := by simpa using mem
    decide
  have flushed := flushed_unless_failed serves_slotted threeAndStop_stops run rfl modest returned
  exact ⟨history, s, run, modest, returned, flushed.1 rfl rfl⟩

end Playout.Paced
