import Mathlib.Data.List.Induction
import Playout.Flow.Pump
import Playout.Proofs.Flow.Framing
import Playout.Proofs.Flow.Pending

/-!
# `Playout.Proofs.Flow.Bookkeeping` — what the pump knows about its requests

Requests are started and abandoned, who waits for an answer may go away, and the server answers what it likes,
twice, late or never asked. The pump's own programs are run on each of these, and the books tell what has come
of them.

## Contents
- `Act`, `Books`, `books` — runs of the pump's programs, act after act.
- `Kept` — the invariant that ties what is pending to what has happened.
- `forgotten` — when an abandoned request is forgotten.

## Main statement
- `books_are_kept`.
-/

namespace Playout.Flow

namespace Bookkeeping

open Pump

/-! ## Runs, act after act -/

/-- What the pump's surroundings have noted. -/
structure Desk where
  /-- Whose receivers have gone away. -/
  gone : List UInt32 := []
  /-- The replies that were taken, in order. -/
  replies : List (UInt32 × Reply) := []
  /-- The requests that have been abandoned, in order. -/
  forsaken : List UInt32 := []
  /-- The bytes written to the server. -/
  written : List UInt8 := []

/-- A reply is taken unless its receiver has gone away. Writing works, and there is no other input. -/
def react : Program.Reaction Pump.Interface Desk
  | .log _, d => some ((), d)
  | .next, _ => none
  | .reply serial r, d =>
    if serial ∈ d.gone then some (false, d) else some (true, { d with replies := d.replies ++ [(serial, r)] })
  | .forsake serial, d => some ((), { d with forsaken := d.forsaken ++ [serial] })
  | .addSerial, d => some (1, d)
  | .write bytes, d => some (.ok (), { d with written := d.written ++ bytes })

/-- What can happen to the pump. -/
inductive Act where
  | start (serial : UInt32) (request : Flow.Request)
  | abandon (serial : UInt32)
  /-- The receiver of a request goes away. -/
  | leave (serial : UInt32)
  /-- The server answers. -/
  | event (serial : UInt32) (event : Event)

/-- What is pending, and what has come of the requests so far. -/
structure Books where
  pending : Pending := {}
  desk : Desk := {}
  /-- The orphans with the requests that they were started for, in order. -/
  orphans : List (UInt32 × UInt32) := []

namespace Books

/-- The pump carries out an order. -/
def order (b : Books) (o : Order) : Books :=
  match (obey { pending := b.pending } o).run react b.desk with
  | (.finished (.goOn s), desk) => { b with pending := s.pending, desk }
  | (_, desk) => { b with desk }

/-- The pump acts on an event. -/
def dispatch (b : Books) (serial : UInt32) (event : Event) : Books :=
  match (handle b.pending serial event).run react b.desk with
  | (.finished (pending, orphan), desk) =>
    { pending, desk, orphans := b.orphans ++ orphan.toList.map (serial, ·) }
  | (_, desk) => { b with desk }

def act (b : Books) : Act → Books
  | .start serial request => b.order (.start serial request)
  | .abandon serial => b.order (.abandon serial)
  | .leave serial => { b with desk.gone := serial :: b.desk.gone }
  | .event serial event => b.dispatch serial event

end Books

/-- The books after some acts. -/
def books (acts : List Act) : Books := acts.foldl Books.act {}

theorem books_append (acts more : List Act) : books (acts ++ more) = more.foldl Books.act (books acts) :=
  List.foldl_append ..

theorem books_snoc (acts : List Act) (a : Act) : books (acts ++ [a]) = (books acts).act a :=
  List.foldl_concat ..

/-! ### What each act does -/

namespace Books

variable {b : Books} {serial flow : UInt32}

theorem act_start (b : Books) (serial : UInt32) (request : Flow.Request) :
    b.act (.start serial request) =
      { b with
        pending := b.pending.expect serial
        desk.written := b.desk.written ++ encodeRequest serial request } := rfl

theorem act_abandon (waits : serial ∈ b.pending.waiting) :
    b.act (.abandon serial) =
      { b with
        pending := b.pending.abandon serial
        desk.forsaken := b.desk.forsaken ++ [serial] } := by
  simp [act, order, obey, Program.run, react, waits]

theorem act_abandon_unknown (idle : serial ∉ b.pending.waiting) : b.act (.abandon serial) = b := by
  simp [act, order, obey, Program.run, react, idle, Pending.abandon_of_not_mem idle]

/-- Somebody waits for the flow: it is handed over if the receiver is still there. -/
theorem act_deliver (waits : serial ∈ b.pending.waiting) :
    b.act (.event serial (.started flow)) =
      if serial ∈ b.desk.gone then
        { b with pending := (b.pending.started serial).1, orphans := b.orphans ++ [(serial, flow)] }
      else
        { b with
          pending := (b.pending.started serial).1
          desk.replies := b.desk.replies ++ [(serial, .ok flow)] } := by
  by_cases gone : serial ∈ b.desk.gone <;>
    simp [act, dispatch, handle, Program.run, react, Pending.started, waits, gone]

theorem act_orphan (idle : serial ∉ b.pending.waiting) (abandoned : serial ∈ b.pending.abandoned) :
    b.act (.event serial (.started flow)) =
      { b with pending := (b.pending.started serial).1, orphans := b.orphans ++ [(serial, flow)] } := by
  simp [act, dispatch, handle, Program.run, react, Pending.started, idle, abandoned]

theorem act_unknown (idle : serial ∉ b.pending.waiting) (unknown : serial ∉ b.pending.abandoned) :
    b.act (.event serial (.started flow)) = b := by
  simp [act, dispatch, handle, Program.run, react, Pending.started, idle, unknown]

/-- Whatever becomes of the flow, the request is not pending any more. -/
theorem act_started_pending (b : Books) (serial flow : UInt32) :
    (b.act (.event serial (.started flow))).pending = (b.pending.started serial).1 := by
  by_cases waits : serial ∈ b.pending.waiting
  · rw [act_deliver waits]
    split <;> rfl
  · by_cases abandoned : serial ∈ b.pending.abandoned
    · rw [act_orphan waits abandoned]
    · rw [act_unknown waits abandoned, Pending.started, if_neg waits, if_neg abandoned]

theorem act_done (b : Books) (serial flow : UInt32) : b.act (.event serial (.done flow)) = b := by
  simp [act, dispatch, handle, Program.run, react]

/-- An error is handed over if somebody waits and the receiver is still there. -/
theorem act_failed (b : Books) (serial : UInt32) (e : ServerError) :
    b.act (.event serial (.failed e)) =
      { b with
        pending := b.pending.forget serial
        desk.replies := b.desk.replies ++
          if serial ∈ b.pending.waiting ∧ serial ∉ b.desk.gone then [(serial, .error e)] else [] } := by
  by_cases waits : serial ∈ b.pending.waiting <;> by_cases gone : serial ∈ b.desk.gone <;>
    simp [act, dispatch, handle, report, Program.run, react, Pending.failed, Pending.forget, waits, gone]

theorem act_event_forsaken (b : Books) (serial : UInt32) (event : Event) :
    (b.act (.event serial event)).desk.forsaken = b.desk.forsaken := by
  cases event with
  | started flow =>
    by_cases waits : serial ∈ b.pending.waiting
    · rw [act_deliver waits]
      split <;> rfl
    · by_cases abandoned : serial ∈ b.pending.abandoned
      · rw [act_orphan waits abandoned]
      · rw [act_unknown waits abandoned]
  | done flow => rw [act_done]
  | failed e => rw [act_failed]

end Books

/-! ## The invariant -/

/-- The serial that an act starts, if any. -/
def Act.start? : Act → Option UInt32
  | .start serial _ => some serial
  | .abandon _ | .leave _ | .event _ _ => none

/-- The serials that have been started, in order. -/
def starts (acts : List Act) : List UInt32 := acts.filterMap Act.start?

/-- The requests that have been answered: by a reply that was taken, or by an orphan. -/
def Books.answered (b : Books) : List UInt32 := b.desk.replies.map Prod.fst ++ b.orphans.map Prod.fst

/-- What is pending agrees with what has happened. -/
structure Kept (started : List UInt32) (b : Books) : Prop where
  sound : b.pending.Sound
  inOrder : b.pending.abandoned.Sublist b.desk.forsaken
  forsakenOnce : b.desk.forsaken.Nodup
  waiting : ∀ serial ∈ b.pending.waiting, serial ∈ started ∧ serial ∉ b.desk.forsaken
  forsaken : ∀ serial ∈ b.desk.forsaken, serial ∈ started
  answeredOnce : b.answered.Nodup
  answered : ∀ serial ∈ b.answered,
    serial ∈ started ∧ serial ∉ b.pending.waiting ∧ serial ∉ b.pending.abandoned

variable {started : List UInt32} {b b' : Books} {serial flow : UInt32}

theorem kept_start : Kept [] {} where
  sound := ⟨List.nodup_nil, List.nodup_nil, nofun, Nat.zero_le _⟩
  inOrder := List.Sublist.refl []
  forsakenOnce := List.nodup_nil
  waiting := nofun
  forsaken := nofun
  answeredOnce := List.nodup_nil
  answered := nofun

theorem Kept.start (h : Kept started b) (request : Flow.Request) (fresh : serial ∉ started) :
    Kept (started ++ [serial]) (b.act (.start serial request)) := by
  rw [Books.act_start]
  have unforsaken : serial ∉ b.desk.forsaken := fun here => fresh (h.forsaken serial here)
  have unknown : serial ∉ b.pending.abandoned := fun here => unforsaken (h.inOrder.subset here)
  constructor
  · exact h.sound.expect unknown
  · rw [Pending.abandoned_expect]
    exact h.inOrder
  · exact h.forsakenOnce
  · intro other waits
    rcases Pending.mem_waiting_expect.mp waits with before | rfl
    · obtain ⟨known, apart⟩ := h.waiting other before
      exact ⟨List.mem_append_left _ known, apart⟩
    · exact ⟨List.mem_append_right _ List.mem_cons_self, unforsaken⟩
  · intro other forsaken
    exact List.mem_append_left _ (h.forsaken other forsaken)
  · exact h.answeredOnce
  · intro other here
    obtain ⟨known, idle, forgotten⟩ := h.answered other here
    refine ⟨List.mem_append_left _ known, ?_, ?_⟩
    · intro waits
      rcases Pending.mem_waiting_expect.mp waits with before | rfl
      · exact idle before
      · exact fresh known
    · rw [Pending.abandoned_expect]
      exact forgotten

theorem Kept.abandon (h : Kept started b) (waits : serial ∈ b.pending.waiting) :
    Kept started
      { b with
        pending := b.pending.abandon serial
        desk.forsaken := b.desk.forsaken ++ [serial] } := by
  obtain ⟨known, unforsaken⟩ := h.waiting serial waits
  constructor
  · exact h.sound.abandon serial
  · rw [Pending.abandon_of_mem waits]
    exact ((Pending.remembered_sublist _).trans h.inOrder).append (List.Sublist.refl [serial])
  · exact h.forsakenOnce.append (List.nodup_singleton serial) (List.disjoint_singleton.mpr unforsaken)
  · rw [Pending.abandon_of_mem waits]
    intro other stillWaits
    obtain ⟨different, before⟩ := h.sound.waiting.mem_erase_iff.mp stillWaits
    obtain ⟨knownOther, apart⟩ := h.waiting other before
    refine ⟨knownOther, ?_⟩
    rw [List.mem_append, List.mem_singleton]
    rintro (here | same)
    · exact apart here
    · exact different same
  · intro other forsaken
    rcases List.mem_append.mp forsaken with before | here
    · exact h.forsaken other before
    · rw [List.mem_singleton.mp here]
      exact known
  · exact h.answeredOnce
  · rw [Pending.abandon_of_mem waits]
    intro other here
    obtain ⟨knownOther, idle, forgotten⟩ := h.answered other here
    refine ⟨knownOther, fun stillWaits => idle (List.mem_of_mem_erase stillWaits), ?_⟩
    rw [List.mem_append, List.mem_singleton]
    rintro (before | rfl)
    · exact forgotten ((Pending.remembered_sublist _).subset before)
    · exact idle waits

/-- After an answer the request is forgotten; whether it had been pending or not, nothing else changes. -/
theorem Kept.forget (h : Kept started b) (serial : UInt32) :
    Kept started { b with pending := b.pending.forget serial } := by
  constructor
  · exact h.sound.forget serial
  · exact List.erase_sublist.trans h.inOrder
  · exact h.forsakenOnce
  · intro other waits
    exact h.waiting other (List.mem_of_mem_erase waits)
  · exact h.forsaken
  · exact h.answeredOnce
  · intro other here
    obtain ⟨known, idle, forgotten⟩ := h.answered other here
    exact ⟨known, fun waits => idle (List.mem_of_mem_erase waits),
      fun abandoned => forgotten (List.mem_of_mem_erase abandoned)⟩

/-- A request that was pending is answered once. -/
theorem Kept.answer (h : Kept started b)
    (pending : serial ∈ b.pending.waiting ∨ serial ∈ b.pending.abandoned)
    (forgotten : b'.pending = b.pending.forget serial) (forsaken : b'.desk.forsaken = b.desk.forsaken)
    (answered : b'.answered.Perm (serial :: b.answered)) : Kept started b' := by
  have after := h.forget serial
  have known : serial ∈ started := by
    rcases pending with waits | abandoned
    · exact (h.waiting serial waits).1
    · exact h.forsaken serial (h.inOrder.subset abandoned)
  -- What has been answered is not pending any more, so this is the first answer.
  have unanswered : serial ∉ b.answered := by
    intro here
    obtain ⟨_, idle, forgotten⟩ := h.answered serial here
    rcases pending with waits | abandoned
    · exact idle waits
    · exact forgotten abandoned
  constructor
  · rw [forgotten]
    exact after.sound
  · rw [forgotten, forsaken]
    exact after.inOrder
  · rw [forsaken]
    exact h.forsakenOnce
  · rw [forgotten, forsaken]
    exact after.waiting
  · rw [forsaken]
    exact h.forsaken
  · rw [answered.nodup_iff]
    exact List.nodup_cons.mpr ⟨unanswered, h.answeredOnce⟩
  · rw [forgotten]
    intro other here
    rcases List.mem_cons.mp (answered.mem_iff.mp here) with rfl | before
    · exact ⟨known, h.sound.not_mem_forget⟩
    · exact after.answered other before

theorem answered_orphan (b : Books) (pending : Pending) (serial flow : UInt32) :
    ({ b with pending, orphans := b.orphans ++ [(serial, flow)] } : Books).answered.Perm
      (serial :: b.answered) := by
  simp only [Books.answered, List.map_append, List.map_cons, List.map_nil, ← List.append_assoc]
  exact List.perm_append_singleton serial _

theorem answered_reply (b : Books) (pending : Pending) (serial : UInt32) (r : Reply) :
    ({ b with pending, desk.replies := b.desk.replies ++ [(serial, r)] } : Books).answered.Perm
      (serial :: b.answered) := by
  simp only [Books.answered, List.map_append, List.map_cons, List.map_nil, List.append_assoc,
    List.singleton_append]
  exact List.perm_middle

/-- Every event keeps the books. -/
theorem Kept.event (h : Kept started b) (serial : UInt32) (event : Event) :
    Kept started (b.act (.event serial event)) := by
  cases event with
  | started flow =>
    by_cases waits : serial ∈ b.pending.waiting
    · rw [Books.act_deliver waits]
      split
      · exact h.answer (Or.inl waits) (h.sound.started_fst serial) rfl (answered_orphan ..)
      · exact h.answer (Or.inl waits) (h.sound.started_fst serial) rfl (answered_reply ..)
    · by_cases abandoned : serial ∈ b.pending.abandoned
      · rw [Books.act_orphan waits abandoned]
        exact h.answer (Or.inr abandoned) (h.sound.started_fst serial) rfl (answered_orphan ..)
      · rw [Books.act_unknown waits abandoned]
        exact h
  | done flow =>
    rw [Books.act_done]
    exact h
  | failed e =>
    rw [Books.act_failed]
    split
    · next taken => exact h.answer (Or.inl taken.1) rfl rfl (answered_reply ..)
    · rw [List.append_nil]
      exact h.forget serial

/-- **One act keeps the books**, if it starts no serial for a second time. -/
theorem Kept.act (h : Kept started b) (a : Act) (fresh : (started ++ a.start?.toList).Nodup) :
    Kept (started ++ a.start?.toList) (b.act a) := by
  cases a with
  | start serial request =>
    have new : serial ∉ started := fun here =>
      (List.nodup_append.mp fresh).2.2 serial here serial List.mem_cons_self rfl
    exact h.start request new
  | abandon serial =>
    rw [Act.start?, Option.toList_none, List.append_nil]
    by_cases waits : serial ∈ b.pending.waiting
    · rw [Books.act_abandon waits]
      exact h.abandon waits
    · rw [Books.act_abandon_unknown waits]
      exact h
  | leave serial =>
    rw [Act.start?, Option.toList_none, List.append_nil]
    exact ⟨h.sound, h.inOrder, h.forsakenOnce, h.waiting, h.forsaken, h.answeredOnce, h.answered⟩
  | event serial event =>
    rw [Act.start?, Option.toList_none, List.append_nil]
    exact h.event serial event

/-- **Every run keeps the books.** -/
theorem books_kept (acts : List Act) (fresh : (starts acts).Nodup) : Kept (starts acts) (books acts) := by
  induction acts using List.reverseRecOn with
  | nil => exact kept_start
  | append_singleton acts a ih =>
    have split : starts (acts ++ [a]) = starts acts ++ a.start?.toList := by
      rw [starts, List.filterMap_append]
      cases here : a.start? <;> simp [starts, here]
    rw [split] at fresh ⊢
    rw [books_snoc]
    exact (ih (List.nodup_append.mp fresh).1).act a fresh

/-! ## When an abandoned request is forgotten -/

/-- The request that an act answers, if any. -/
def Act.answers? : Act → Option UInt32
  | .event serial (.started _) | .event serial (.failed _) => some serial
  | .start _ _ | .abandon _ | .leave _ | .event _ (.done _) => none

/-- An answer makes its request forgotten. -/
theorem act_pending_of_answers (sound : b.pending.Sound) {a : Act} (answers : a.answers? = some serial) :
    (b.act a).pending = b.pending.forget serial := by
  cases a with
  | start | abandon | leave => cases answers
  | event other event =>
    cases event with
    | started flow =>
      cases answers
      rw [Books.act_started_pending]
      exact sound.started_fst serial
    | failed e =>
      cases answers
      rw [Books.act_failed]
    | done => cases answers

/-- At least as many requests as are remembered have been abandoned after this one. -/
def Overtaken (b : Books) (serial : UInt32) : Prop :=
  ∃ before after, b.desk.forsaken = before ++ serial :: after ∧ Pending.abandonedLimit ≤ after.length

theorem tail_sublist_of_nodup {x : UInt32} {rest before after : List UInt32}
    (once : (before ++ x :: after).Nodup) (sub : (x :: rest).Sublist (before ++ x :: after)) :
    rest.Sublist after := by
  induction before with
  | nil => exact List.cons_sublist_cons.mp sub
  | cons y before ih =>
    obtain ⟨new, once⟩ := List.nodup_cons.mp once
    cases sub with
    | cons _ sub => exact ih once sub
    | cons_cons _ sub => exact absurd (List.mem_append_right before List.mem_cons_self) new

/-- The requests abandoned so far stay on record. -/
theorem forsaken_prefix_act (b : Books) (a : Act) : b.desk.forsaken <+: (b.act a).desk.forsaken := by
  cases a with
  | start => exact List.prefix_refl _
  | leave => exact List.prefix_refl _
  | event serial event =>
    refine ⟨[], ?_⟩
    rw [List.append_nil, Books.act_event_forsaken]
  | abandon serial =>
    by_cases waits : serial ∈ b.pending.waiting
    · rw [Books.act_abandon waits]
      exact List.prefix_append ..
    · refine ⟨[], ?_⟩
      rw [List.append_nil, Books.act_abandon_unknown waits]

theorem Overtaken.act (h : Overtaken b serial) (a : Act) : Overtaken (b.act a) serial := by
  obtain ⟨before, after, same, many⟩ := h
  obtain ⟨more, grown⟩ := forsaken_prefix_act b a
  refine ⟨before, after ++ more, ?_, ?_⟩
  · rw [← grown, same, List.append_assoc, List.cons_append]
  · rw [List.length_append]
    exact Nat.le_add_right_of_le many

/-- Only its own answer or the bound makes the pump forget an abandoned request. -/
theorem Kept.forgets (h : Kept started b) (abandoned : serial ∈ b.pending.abandoned) (a : Act) :
    serial ∈ (b.act a).pending.abandoned ∨ a.answers? = some serial ∨ Overtaken (b.act a) serial := by
  have answered {other : UInt32} (answers : a.answers? = some other) :
      serial ∈ (b.act a).pending.abandoned ∨ a.answers? = some serial := by
    by_cases same : other = serial
    · subst same
      exact Or.inr answers
    · rw [act_pending_of_answers h.sound answers]
      exact Or.inl ((List.mem_erase_of_ne (Ne.symm same)).mpr abandoned)
  cases a with
  | start other request =>
    left
    rw [Books.act_start, Pending.abandoned_expect]
    exact abandoned
  | leave => exact Or.inl abandoned
  | event other event =>
    cases event with
    | started flow => exact (answered rfl).imp_right Or.inl
    | failed e => exact (answered rfl).imp_right Or.inl
    | done flow =>
      rw [Books.act_done]
      exact Or.inl abandoned
  | abandon other =>
    by_cases waits : other ∈ b.pending.waiting
    · rcases Pending.mem_remembered_or_full abandoned with kept | ⟨rest, oldest, full⟩
      · left
        rw [Books.act_abandon waits, Pending.abandon_of_mem waits]
        exact List.mem_append_left _ kept
      · -- The oldest gives way; all others that are remembered have been abandoned after it.
        right
        right
        obtain ⟨before, after, same⟩ := List.append_of_mem (h.inOrder.subset abandoned)
        have later : rest.Sublist after := by
          have once := h.forsakenOnce
          have inOrder := h.inOrder
          rw [same] at once
          rw [same, oldest] at inOrder
          exact tail_sublist_of_nodup once inOrder
        refine ⟨before, after ++ [other], ?_, ?_⟩
        · rw [Books.act_abandon waits, same, List.append_assoc, List.cons_append]
        · rw [List.length_append, List.length_singleton, ← full]
          exact Nat.succ_le_succ later.length_le
    · rw [Books.act_abandon_unknown waits]
      exact Or.inl abandoned

/-- **An abandoned request is remembered** until it is answered, or until as many others as can be remembered
    have been abandoned after it. -/
theorem forgotten (acts more : List Act) (fresh : (starts (acts ++ more)).Nodup)
    (abandoned : serial ∈ (books acts).pending.abandoned) :
    serial ∈ (books (acts ++ more)).pending.abandoned ∨ (∃ a ∈ more, a.answers? = some serial) ∨
      Overtaken (books (acts ++ more)) serial := by
  induction more using List.reverseRecOn with
  | nil =>
    rw [List.append_nil]
    exact Or.inl abandoned
  | append_singleton more a ih =>
    rw [← List.append_assoc] at fresh ⊢
    have earlier : (starts (acts ++ more)).Nodup := by
      rw [starts, List.filterMap_append] at fresh
      exact (List.nodup_append.mp fresh).1
    rw [books_snoc]
    rcases ih earlier with still | ⟨answer, here, answers⟩ | overtaken
    · rcases (books_kept _ earlier).forgets still a with kept | answers | overtaken
      · exact Or.inl kept
      · exact Or.inr (Or.inl ⟨a, List.mem_append_right _ List.mem_cons_self, answers⟩)
      · exact Or.inr (Or.inr overtaken)
    · exact Or.inr (Or.inl ⟨answer, List.mem_append_left _ here, answers⟩)
    · exact Or.inr (Or.inr (overtaken.act a))

/-! ## Events that come together -/

/-- The events of a reading, as acts. -/
def eventActs (messages : List (UInt32 × Event)) : List Act :=
  messages.map fun message => .event message.1 message.2

/-- Acting on an event always comes to an end. -/
theorem run_handle_finished (b : Books) (serial : UInt32) (event : Event) :
    ∃ pending orphan desk,
      (handle b.pending serial event).run react b.desk = (.finished (pending, orphan), desk) := by
  cases event with
  | started flow =>
    by_cases waits : serial ∈ b.pending.waiting <;> by_cases gone : serial ∈ b.desk.gone <;>
      by_cases abandoned : serial ∈ b.pending.abandoned <;>
      simp [handle, Program.run, react, Pending.started, waits, gone, abandoned]
  | done flow => simp [handle, Program.run, react]
  | failed e =>
    by_cases waits : serial ∈ b.pending.waiting <;> by_cases gone : serial ∈ b.desk.gone <;>
      simp [handle, report, Program.run, react, Pending.failed, waits, gone]

theorem run_handle (b : Books) (serial : UInt32) (event : Event) :
    ∃ orphan : Option UInt32,
      (handle b.pending serial event).run react b.desk =
        (.finished ((b.act (.event serial event)).pending, orphan), (b.act (.event serial event)).desk) ∧
      (b.act (.event serial event)).orphans = b.orphans ++ orphan.toList.map (serial, ·) := by
  obtain ⟨pending, orphan, desk, finished⟩ := run_handle_finished b serial event
  have same : b.act (.event serial event) =
      { pending, desk, orphans := b.orphans ++ orphan.toList.map (serial, ·) } := by
    simp only [Books.act, Books.dispatch, finished]
  rw [same]
  exact ⟨orphan, finished, rfl⟩

/-- The pump acts on a whole reading as on its events one by one, and reports their orphans. -/
theorem run_handleAll (messages : List (UInt32 × Event)) (b : Books) :
    ∃ orphans : List (UInt32 × UInt32),
      (handleAll b.pending messages).run react b.desk =
        (.finished (((eventActs messages).foldl Books.act b).pending, orphans.map Prod.snd),
          ((eventActs messages).foldl Books.act b).desk) ∧
      ((eventActs messages).foldl Books.act b).orphans = b.orphans ++ orphans := by
  induction messages generalizing b with
  | nil => exact ⟨[], rfl, (List.append_nil _).symm⟩
  | cons message rest ih =>
    obtain ⟨serial, event⟩ := message
    obtain ⟨orphan, first, reported⟩ := run_handle b serial event
    obtain ⟨orphans, others, later⟩ := ih (b.act (.event serial event))
    -- The orphan of the first event, if there is one, comes before those of the others.
    refine ⟨orphan.toList.map (serial, ·) ++ orphans, ?_, ?_⟩
    · have flows : (orphan.toList.map (serial, ·) ++ orphans).map Prod.snd
          = orphan.toList ++ orphans.map Prod.snd := by
        rw [List.map_append, List.map_map]
        exact congrArg (· ++ orphans.map Prod.snd) (List.map_id _)
      rw [flows, handleAll, Program.bind_eq, Program.run_bind, first]
      simp only [Program.bind_eq, Program.run_bind, others]
      rfl
    · rw [← List.append_assoc, ← reported]
      exact later

/-- The frames that stop some flows, when every serial drawn is 1. -/
def stops (flows : List UInt32) : List UInt8 := encodeRequests (flows.map fun flow => (1, .stop flow))

theorem run_drawSerial (attempts : Nat) (d : Desk) :
    (drawSerial Pump.addSerial (attempts + 1)).run react d = (.finished 1, d) := by
  simp [drawSerial, Program.run, react]

theorem run_stopOrphans (flows : List UInt32) (d : Desk) :
    (stopOrphans flows).run react d = (.finished (stops flows), d) := by
  induction flows with
  | nil => rfl
  | cons flow rest ih =>
    have drawn : (drawSerial Pump.addSerial serialAttempts).run react d = (.finished 1, d) :=
      run_drawSerial (UInt32.size - 1) d
    simp only [stopOrphans, Program.bind_eq, Program.ask_bind, Program.done_bind, Program.run, react,
      Program.run_bind, drawn, ih]
    rfl

/-- The pump's run on a reading leads to these books: each new orphan is ordered to be stopped once, in
    order. -/
def ReadInto (b : Books) (buffer bytes : List UInt8) (b' : Books) : Prop :=
  ∃ orphans : List (UInt32 × UInt32), b'.orphans = b.orphans ++ orphans ∧
    (receive { buffer, pending := b.pending } bytes).run react b.desk =
      (.finished (.goOn { buffer := (takeEvents (buffer ++ bytes)).rest, pending := b'.pending }),
        { b'.desk with written := b'.desk.written ++ stops (orphans.map Prod.snd) })

/-- A whole reading is acted on event by event. -/
theorem read_into_books (acts : List Act) {buffer bytes : List UInt8}
    (whole : (takeEvents (buffer ++ bytes)).fault = none) :
    ReadInto (books acts) buffer bytes
      (books (acts ++ eventActs (takeEvents (buffer ++ bytes)).messages)) := by
  obtain ⟨orphans, handled, reported⟩ := run_handleAll (takeEvents (buffer ++ bytes)).messages (books acts)
  rw [books_append]
  refine ⟨orphans, reported, ?_⟩
  simp only [receive, Program.bind_eq, Program.run_bind, handled, whole]
  cases orphans with
  | nil =>
    simp [Program.run, stops, encodeRequests]
  | cons orphan rest =>
    simp [Program.run_bind, run_stopOrphans, send, Program.run, react]

/-! ## The books are kept -/

/-- What a started flow leads to: it is handed to who waits for it; it is an orphan, when the receiver has gone
    away or the request is abandoned; or nothing at all happens. -/
structure Handled (b : Books) (serial flow : UInt32) (b' : Books) : Prop where
  delivered : serial ∈ b.pending.waiting → serial ∉ b.desk.gone →
    b'.desk.replies = b.desk.replies ++ [(serial, .ok flow)] ∧ b'.orphans = b.orphans
  orphaned : serial ∈ b.pending.waiting ∧ serial ∈ b.desk.gone ∨ serial ∈ b.pending.abandoned →
    b'.desk.replies = b.desk.replies ∧ b'.orphans = b.orphans ++ [(serial, flow)]
  ignored : serial ∉ b.pending.waiting → serial ∉ b.pending.abandoned → b' = b

theorem handled_started (sound : b.pending.Sound) (serial flow : UInt32) :
    Handled b serial flow (b.act (.event serial (.started flow))) := by
  constructor
  · intro waits here
    rw [Books.act_deliver waits, if_neg here]
    exact ⟨rfl, rfl⟩
  · rintro (⟨waits, gone⟩ | abandoned)
    · rw [Books.act_deliver waits, if_pos gone]
      exact ⟨rfl, rfl⟩
    · have idle : serial ∉ b.pending.waiting := fun waits => sound.apart serial waits abandoned
      rw [Books.act_orphan idle abandoned]
      exact ⟨rfl, rfl⟩
  · intro idle unknown
    exact Books.act_unknown idle unknown

/-- **The books are kept.** After any acts that start no serial twice: nobody waits for an abandoned request,
    and those remembered are the last ones abandoned, in order and at most 32; a started flow is delivered, an
    orphan or ignored; an answer makes its request forgotten; no request is answered twice, be it by a reply or
    by an orphan; an abandoned request is forgotten only by its answer or when 32 others have been abandoned
    after it; and every orphan of a reading is ordered to be stopped once. -/
theorem books_are_kept (acts : List Act) (fresh : (starts acts).Nodup) :
    (books acts).pending.Sound ∧
    (books acts).pending.abandoned.Sublist (books acts).desk.forsaken ∧ (books acts).desk.forsaken.Nodup ∧
    (∀ serial flow, Handled (books acts) serial flow (books (acts ++ [.event serial (.started flow)]))) ∧
    (∀ a serial, a.answers? = some serial →
      serial ∉ (books (acts ++ [a])).pending.waiting ∧ serial ∉ (books (acts ++ [a])).pending.abandoned) ∧
    ((books acts).desk.replies.map Prod.fst ++ (books acts).orphans.map Prod.fst).Nodup ∧
    (∀ earlier later serial, acts = earlier ++ later → serial ∈ (books earlier).pending.abandoned →
      serial ∉ (books acts).pending.abandoned → (∃ a ∈ later, a.answers? = some serial) ∨
        ∃ before after, (books acts).desk.forsaken = before ++ serial :: after ∧ 32 ≤ after.length) ∧
    (∀ buffer bytes, (takeEvents (buffer ++ bytes)).fault = none →
      ReadInto (books acts) buffer bytes
        (books (acts ++ eventActs (takeEvents (buffer ++ bytes)).messages))) := by
  have kept := books_kept acts fresh
  refine ⟨kept.sound, kept.inOrder, kept.forsakenOnce, ?_, ?_, kept.answeredOnce, ?_,
    fun buffer bytes => read_into_books acts⟩
  · intro serial flow
    rw [books_snoc]
    exact handled_started kept.sound serial flow
  · intro a serial answers
    rw [books_snoc, act_pending_of_answers kept.sound answers]
    exact kept.sound.not_mem_forget
  · rintro earlier later serial rfl abandoned gone
    exact (forgotten earlier later fresh abandoned).resolve_left gone

/-- A flow that is started after its request has been abandoned. -/
theorem late_flow_is_orphan :
    (starts [.start 5 (.stop 0), .abandon 5]).Nodup ∧
    5 ∈ (books [.start 5 (.stop 0), .abandon 5]).pending.abandoned ∧
    (books ([.start 5 (.stop 0), .abandon 5] ++ [.event 5 (.started 9)])).orphans = [(5, 9)] := by
  have fresh : (starts [.start 5 (.stop 0), .abandon 5]).Nodup := by decide
  have abandoned : 5 ∈ (books [.start 5 (.stop 0), .abandon 5]).pending.abandoned := by decide
  obtain ⟨_, _, _, handled, _⟩ := books_are_kept _ fresh
  exact ⟨fresh, abandoned, ((handled 5 9).orphaned (Or.inr abandoned)).2⟩

end Bookkeeping

end Playout.Flow
