import Playout.Proofs.Paced.Counting
import Playout.Proofs.Paced.Positions

/-!
# `Playout.Proofs.Paced.Bounds` — a playback writes no more than what is free

In one round two chunks may go out, for which the free space is asked only once. The first one fits the free fragments.
The second one is shorter than a fragment, and goes out only if all free bytes hold it besides the fragments. So both
together fit, whatever the device takes of the first.

## Contents
- `spent` — how many bytes have been handed over.
- `Spot.Affords`, `Course.affords` — what has been handed over since the free space was asked for, and what may follow.
- `spent_le`, `chunk_at_counted` — the bytes of one round, and where a chunk begins.
- `writes_within_space` — all writes stay inside the free space and inside the bytes.
- `path_two_chunks` — a round with two chunks.
-/

namespace Playout.Paced

open Interleaving Program

variable {c : Config} {frameBytes rate rounds : Nat} {x x' : Spot} {r : Paced.Request} {answer : Paced.Request.Answer r}
  {trace front back between : Trace Paced.Interface} {bytes chunk : List UInt8} {s : BufferSpace}
  {p : Action (Except PlayError Bool)}

/-! ## What is handed over -/

/-- How many bytes have been handed over to the device, whatever it took of them. -/
def spent (trace : Trace Paced.Interface) : Nat := ((writes trace).map List.length).sum

theorem spent_silent (silent : written? ⟨r, answer⟩ = none) : spent (trace ++ [⟨r, answer⟩]) = spent trace := by
  unfold spent
  rw [writes_snoc, silent, Option.toList_none, List.append_nil]

theorem spent_write (chunk : List UInt8) (answer : Paced.Request.Answer (.write chunk)) :
    spent (trace ++ [⟨.write chunk, answer⟩]) = spent trace + chunk.length := by
  unfold spent
  rw [writes_snoc]
  simp [written?]

/-- `n` bytes fit into the free fragments of this space, if a tail may still follow, and else into all of it. -/
def Fits (s : BufferSpace) (n : Nat) : Option BufferSpace → Prop
  | some s' => s' = s ∧ n ≤ s.room
  | none => n ≤ s.bytes

/-- What has been handed over since this free space was told, `n` bytes, leaves room for what comes next. -/
def Spot.Affords (s : BufferSpace) (n : Nat) : Spot → Prop
  | writing tail chunk _ _ _ => Fits s (n + chunk.length) tail
  | doubted tail _ _ _ _ | filled tail _ _ _ => Fits s n tail
  | _ => n ≤ s.bytes

theorem Fits.le {n : Nat} {tail : Option BufferSpace} (fits : Fits s n tail) (room : s.room ≤ s.bytes) :
    n ≤ s.bytes := by
  cases tail with
  | none => exact fits
  | some => exact fits.2.trans room

/-- In any case no more was handed over than what is free. -/
theorem Spot.Affords.le {n : Nat} (affords : x.Affords s n) (room : s.room ≤ s.bytes) : n ≤ s.bytes := by
  cases x with
  | writing => exact Nat.le_of_add_right_le (Fits.le affords room)
  | doubted | filled => exact Fits.le affords room
  | _ => exact affords

theorem Course.affords (move : Course c frameBytes rate x r answer x') (unasked : r ≠ .space)
    (room : s.room ≤ s.bytes) (affords : x.Affords s (spent trace)) :
    x'.Affords s (spent (trace ++ [⟨r, answer⟩])) := by
  cases move with
  | full | free | lost => exact absurd rfl unasked
  | idle idle =>
    rw [spent_silent (idle_nothing idle).1]
    exact affords
  | clear | halt | napped | excused | rested | cutShort =>
    rw [spent_silent rfl]
    exact affords
  | put | tore =>
    rw [spent_write]
    exact affords
  | refused =>
    rw [spent_write]
    exact Fits.le affords room
  | gaveUp | paced | stopped =>
    rw [spent_silent rfl]
    exact affords.le room
  | @tail s' written rest lead line fits =>
    -- The tail fits besides the free fragments.
    rw [spent_silent rfl]
    obtain ⟨rfl, within⟩ := affords
    have besides : s'.room + rest.length < s'.bytes := of_decide_eq_true (Bool.and_eq_true_iff.1 fits).2
    show spent trace + rest.length ≤ s'.bytes
    omega

/-! ## The bounds -/

theorem modest_of_fair (fair : ∀ y ∈ trace, Fair bytes y.1 y.2) : Modest trace := by
  intro chunk n mem
  obtain ⟨⟨r, answer⟩, mem, is⟩ := List.mem_filterMap.1 mem
  cases r with
  | write chunk' =>
    rcases answer with _ | failure | k
    · cases is
    · cases is
    · cases is
      exact fair _ mem
  | _ => cases is

/-- Between two questions for the free space no more is handed over than what is free. -/
theorem spent_le (path : Path (course c frameBytes rate) (.head bytes none) trace x)
    (fair : ∀ y ∈ trace, Fair bytes y.1 y.2)
    (parts : trace = front ++ ⟨.space, some (.ok s)⟩ :: (between ++ back)) (unasked : ∀ y ∈ between, y.1 ≠ .space) :
    spent between ≤ s.bytes := by
  subst parts
  obtain ⟨room, -⟩ : Fair bytes .space (some (.ok s)) := fair _ (List.mem_append_right _ List.mem_cons_self)
  obtain ⟨y, z, -, asked, later⟩ := path.cutAt
  have begins : z.Affords s (spent []) := by
    cases asked with
    | idle idle => cases idle
    | full => exact Nat.zero_le _
    | free =>
      refine ⟨rfl, ?_⟩
      show 0 + _ ≤ s.room
      rw [Nat.zero_add]
      exact List.length_take_le ..
    | lost failed => exact absurd rfl (failed s)
  obtain ⟨w, round, -⟩ := later.split
  have affords : w.Affords s (spent between) := by
    refine round.keeps (fun between w => (∀ y ∈ between, y.1 ≠ Paced.Request.space) → w.Affords s (spent between))
      (fun _ => begins) ?_ unasked
    intro between w r answer w' before move unasked
    have earlier := before fun y mem => unasked y (List.mem_append_left _ mem)
    exact move.affords (unasked _ (List.mem_append_right _ List.mem_cons_self)) room earlier
  exact affords.le room

/-- A chunk begins right behind the bytes that were counted before. -/
theorem chunk_at_counted {answer : Paced.Request.Answer (.write chunk)}
    (path : Path (course c frameBytes rate) (.head bytes none) trace x) (modest : Modest trace)
    (parts : trace = front ++ ⟨.write chunk, answer⟩ :: back) : chunk ≠ [] ∧ chunk <+: bytes.drop (counted front) := by
  subst parts
  obtain ⟨y, z, before, written, -⟩ := path.cutAt
  have earlier : Modest front := fun bytes n mem => modest bytes n (by
    unfold tries at mem ⊢
    rw [List.filterMap_append]
    exact List.mem_append_left _ mem)
  obtain ⟨sound, due⟩ := due_of_path before earlier
  have writing : ∃ tail written rest lead, y = .writing tail chunk written rest lead := by
    cases written with
    | idle idle => cases idle
    | put | refused | tore => exact ⟨_, _, _, _, rfl⟩
  obtain ⟨tail, written, rest, lead, rfl⟩ := writing
  obtain ⟨-, same⟩ := due rest rfl
  rw [← same]
  exact ⟨sound.1, sound.2.1⟩

/-- **A playback writes no more than what is free.** Let the device never tell of more free fragments than of free bytes,
    and take no more of a write than it is given. Between two questions for the free space the chunks that are handed
    over are together no longer than what is free. None of them is empty, and each begins right behind the bytes that
    were counted before. On words of a machine nothing overflows, and no slice is out of bounds: the loop with checked
    positions asks the same, comes to the same end, and never to a fault. -/
theorem writes_within_space (path : Path goesOn (stream c frameBytes rate rounds { rest := bytes }) trace p)
    (fair : ∀ y ∈ trace, Fair bytes y.1 y.2) :
    (∀ front s between back, trace = front ++ ⟨.space, some (.ok s)⟩ :: (between ++ back) →
      (∀ y ∈ between, y.1 ≠ .space) → ((writes between).map List.length).sum ≤ s.bytes) ∧
    (∀ front chunk answer back, trace = front ++ ⟨.write chunk, answer⟩ :: back →
      chunk ≠ [] ∧ chunk <+: bytes.drop (counted front)) ∧
    ∃ q, Path goesOn (streamAt c frameBytes rate bytes rounds {}) trace q ∧ q ≠ .done none ∧
      ∀ outcome, p = .done outcome ↔ q = .done (some outcome) := by
  obtain ⟨x, along, -⟩ := follows_goesOn path (stream_course rounds { rest := bytes })
  refine ⟨?_, ?_, ?_⟩
  · intro front s between back parts unasked
    exact spent_le along fair parts unasked
  · intro front chunk answer back parts
    exact chunk_at_counted along (modest_of_fair fair) parts
  · have steps : InStep (Fair bytes) (fun outcome outcome' => outcome' = some outcome)
        (stream c frameBytes rate rounds { rest := bytes }) (streamAt c frameBytes rate bytes rounds {}) :=
      stream_inStep (p := {}) rounds (Nat.zero_le _)
    obtain ⟨q, path', still⟩ := steps.path path fair
    refine ⟨q, path', ?_, ?_⟩
    · rintro rfl
      obtain ⟨outcome, -, no⟩ := still.done_of
      cases no
    · intro outcome
      constructor
      · rintro rfl
        obtain ⟨_, rfl, rfl⟩ := still.of_done
        rfl
      · rintro rfl
        obtain ⟨outcome', rfl, same⟩ := still.done_of
        rw [Option.some.inj same]

/-! ### Two chunks in one space -/

/-- A fragment of four bytes is free, of which the device takes three, and four bytes besides, where the tail goes. -/
theorem path_two_chunks : ∃ (between : Trace Paced.Interface) (p : Action (Except PlayError Bool)),
    Path goesOn (stream { device := "dsp" } 2 8000 1 { rest := [1, 2, 3, 4, 5, 6] })
      (⟨.cancelled, false⟩ :: ⟨.space, some (.ok ⟨1, 4, 8⟩)⟩ :: between) p ∧
    writes between = [[1, 2, 3, 4], [4, 5, 6]] ∧ (∀ y ∈ between, y.1 ≠ .space) ∧
    ∀ y ∈ (⟨.cancelled, false⟩ :: ⟨.space, some (.ok ⟨1, 4, 8⟩)⟩ :: between : Trace Paced.Interface),
      Fair [1, 2, 3, 4, 5, 6] y.1 y.2 := by
  have path : Path goesOn (stream { device := "dsp" } 2 8000 1 { rest := [1, 2, 3, 4, 5, 6] }) [] _ := .start
  replace path := goesOn_next path rfl false
  replace path := goesOn_next path rfl (some (.ok ⟨1, 4, 8⟩) : Option (Except Failure BufferSpace))
  replace path := goesOn_next path rfl ()
  replace path := goesOn_next path rfl (some (.ok 3) : Option (Except Failure Nat))
  replace path := goesOn_next path rfl ()
  replace path := goesOn_next path rfl (some (.ok 3) : Option (Except Failure Nat))
  replace path := goesOn_next path rfl ()
  refine ⟨[_, _, _, _, _], _, path, rfl, by simp, ?_⟩
  have small : 6 + 8 < UInt64.size := by decide
  simp [Fair, BufferSpace.room, small]

/-- Seven bytes are handed over where eight are free, and the loop with positions has no fault. -/
theorem two_chunks_within_space :
    ∃ (between : Trace Paced.Interface) (p : Action (Except PlayError Bool))
        (q : Action (Option (Except PlayError Bool))),
      Path goesOn (stream { device := "dsp" } 2 8000 1 { rest := [1, 2, 3, 4, 5, 6] })
        (⟨.cancelled, false⟩ :: ⟨.space, some (.ok ⟨1, 4, 8⟩)⟩ :: between) p ∧
      writes between = [[1, 2, 3, 4], [4, 5, 6]] ∧ ((writes between).map List.length).sum ≤ 8 ∧
      Path goesOn (streamAt { device := "dsp" } 2 8000 [1, 2, 3, 4, 5, 6] 1 {})
        (⟨.cancelled, false⟩ :: ⟨.space, some (.ok ⟨1, 4, 8⟩)⟩ :: between) q ∧ q ≠ .done none := by
  obtain ⟨between, p, path, wrote, unasked, fair⟩ := path_two_chunks
  obtain ⟨within, -, q, path', sound, -⟩ := writes_within_space path fair
  refine ⟨between, p, q, path, wrote, within [⟨.cancelled, false⟩] ⟨1, 4, 8⟩ between [] ?_ unasked, path', sound⟩
  rw [List.append_nil]
  rfl

end Playout.Paced
