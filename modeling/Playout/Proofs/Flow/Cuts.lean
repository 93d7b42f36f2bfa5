import Playout.Flow.Pump
import Playout.Proofs.Flow.Grammar

/-!
# `Playout.Proofs.Flow.Cuts` — what the pump does with a stream, however it is cut

The pump reads what the server sends in pieces. It hands over replies while it goes through the events of a piece, and
stops the orphans once it has gone through all of them; if there is a fault in the piece, they are not stopped any more. So
two cuts of one stream come to the same, unless one of them brings orphans together with a fault.

## Contents
- `Line`, `Notes`, `react` — a server that may refuse what is written, and what has come of a run.
- `readAll`, `reading` — the pump reads pieces, one after another.
- `Upshot`, `deal`, `dealAll`, `run_handleAll` — what events come to.
- `following`, `stops`, `run_stopOrphans` — the frames that stop flows.
- `due`, `lost` — what a stream calls for, and the orphans that come together with a fault.
- `Course`, `course_readAll` — what a run over some pieces comes to.
- `lost_singletons` — byte by byte nothing is lost.

## Main statements
- `cuts_agree_iff` — two cuts come to the same, if and only if they lose the same orphans.
- `orphan_lost` — an orphan is stopped if the fault behind it comes later, and not if it comes at once.
-/

namespace Playout.Flow

namespace Cuts

open Pump

/-! ## Runs over pieces -/

/-- What the surroundings of the pump are like: whose receivers have gone away, and which writes are refused, by how many
    there have been before. Of what is refused some bytes may have come through. -/
structure Line where
  gone : UInt32 → Bool
  refuses : Nat → Option (String × Nat)

/-- What has come of a run. -/
structure Notes where
  /-- The counter of serials. -/
  counter : UInt32
  /-- The replies that were taken, in order. -/
  replies : List (UInt32 × Reply) := []
  /-- The bytes that have come through to the server. -/
  written : List UInt8 := []
  /-- How many writes there have been. -/
  writes : Nat := 0
  /-- The reasons of those that were refused. -/
  refused : List String := []

/-- A reply is taken unless its receiver has gone away. There is no input but the pieces. -/
def react (l : Line) : Program.Reaction Pump.Interface Notes
  | .log _, d => some ((), d)
  | .next, _ => none
  | .reply serial r, d =>
    if l.gone serial then some (false, d) else some (true, { d with replies := d.replies ++ [(serial, r)] })
  | .forsake _, d => some ((), d)
  | .addSerial, d => some (d.counter + 1, { d with counter := d.counter + 1 })
  | .write bytes, d =>
    match l.refuses d.writes with
    | none => some (.ok (), { d with written := d.written ++ bytes, writes := d.writes + 1 })
    | some (reason, through) =>
      some (.error reason,
        { d with
          written := d.written ++ bytes.take through
          writes := d.writes + 1
          refused := d.refused ++ [reason] })

/-- The pump reads pieces until it ends. -/
def readAll (s : State) : List (List UInt8) → Action Next
  | [] => pure (.goOn s)
  | piece :: pieces => do
    match ← step s (.received piece) with
    | .goOn s => readAll s pieces
    | .finish s => return .finish s

/-- A run of the pump over some pieces. -/
def reading (l : Line) (counter : UInt32) (s : State) (pieces : List (List UInt8)) : Program.Ending Next × Notes :=
  (readAll s pieces).run (react l) { counter }

/-! ## What events come to -/

/-- What is pending after some events, the replies that were taken, and the flows nobody waits for. -/
structure Upshot where
  pending : Pending
  replies : List (UInt32 × Reply) := []
  orphans : List UInt32 := []

/-- Go on from what is pending. -/
def Upshot.andThen (u : Upshot) (more : Pending → Upshot) : Upshot where
  pending := (more u.pending).pending
  replies := u.replies ++ (more u.pending).replies
  orphans := u.orphans ++ (more u.pending).orphans

/-- What one event comes to. -/
def deal (gone : UInt32 → Bool) (p : Pending) (serial : UInt32) : Event → Upshot
  | .started flow =>
    match p.started serial with
    | (p, .deliver) =>
      if gone serial then { pending := p, orphans := [flow] } else { pending := p, replies := [(serial, .ok flow)] }
    | (p, .orphan) => { pending := p, orphans := [flow] }
    | (p, .nothing) => { pending := p }
  | .done _ => { pending := p }
  | .failed e =>
    { pending := (p.failed serial).1
      replies := if (p.failed serial).2 = true ∧ gone serial = false then [(serial, .error e)] else [] }

/-- What events come to, in order. -/
def dealAll (gone : UInt32 → Bool) (p : Pending) : List (UInt32 × Event) → Upshot
  | [] => { pending := p }
  | (serial, event) :: rest => (deal gone p serial event).andThen fun p => dealAll gone p rest

theorem dealAll_append (gone : UInt32 → Bool) (p : Pending) (front back : List (UInt32 × Event)) :
    dealAll gone p (front ++ back) = (dealAll gone p front).andThen fun p => dealAll gone p back := by
  induction front generalizing p with
  | nil => simp [dealAll, Upshot.andThen]
  | cons message front ih =>
    obtain ⟨serial, event⟩ := message
    simp only [List.cons_append, dealAll, ih]
    simp [Upshot.andThen, List.append_assoc]

variable {l : Line}

theorem run_handle (p : Pending) (serial : UInt32) (event : Event) (d : Notes) :
    ∃ orphan : Option UInt32, orphan.toList = (deal l.gone p serial event).orphans ∧
      (handle p serial event).run (react l) d =
        (.finished ((deal l.gone p serial event).pending, orphan),
          { d with replies := d.replies ++ (deal l.gone p serial event).replies }) := by
  cases event with
  | started flow =>
    rcases answer : p.started serial with ⟨after, what⟩
    cases what with
    | deliver =>
      by_cases gone : l.gone serial = true
      · refine ⟨some flow, ?_, ?_⟩ <;> simp [handle, deal, answer, gone, Program.run, react]
      · refine ⟨none, ?_, ?_⟩ <;> simp [handle, deal, answer, gone, Program.run, react]
    | orphan => refine ⟨some flow, ?_, ?_⟩ <;> simp [handle, deal, answer, Program.run, react]
    | nothing => refine ⟨none, ?_, ?_⟩ <;> simp [handle, deal, answer, Program.run, react]
  | done flow => refine ⟨none, rfl, ?_⟩; simp [handle, deal, Program.run, react]
  | failed e =>
    refine ⟨none, rfl, ?_⟩
    rcases answer : p.failed serial with ⟨after, waited⟩
    cases waited <;> by_cases gone : l.gone serial = true <;>
      simp [handle, report, deal, answer, gone, Program.run, react]

/-- The pump goes through events as they are dealt with. -/
theorem run_handleAll (messages : List (UInt32 × Event)) (p : Pending) (d : Notes) :
    (handleAll p messages).run (react l) d =
      (.finished ((dealAll l.gone p messages).pending, (dealAll l.gone p messages).orphans),
        { d with replies := d.replies ++ (dealAll l.gone p messages).replies }) := by
  induction messages generalizing p d with
  | nil => simp [handleAll, dealAll, Program.run]
  | cons message rest ih =>
    obtain ⟨serial, event⟩ := message
    obtain ⟨orphan, same, first⟩ := run_handle (l := l) p serial event d
    simp only [handleAll, Program.bind_eq, Program.run_bind, first, ih, Program.pure_eq, Program.run]
    simp [dealAll, Upshot.andThen, same, List.append_assoc]

/-! ## Stopping orphans -/

/-- The serial that is drawn next, which is also what the counter stands at afterwards. -/
def following (counter : UInt32) : UInt32 := if counter + 1 = 0 then 1 else counter + 1

/-- Where the counter stands after some serials have been drawn. -/
def drawn (counter : UInt32) (flows : List UInt32) : UInt32 := flows.foldl (fun n _ => following n) counter

/-- The frames that stop some flows, with one serial after the other. -/
def stops (counter : UInt32) : List UInt32 → List UInt8
  | [] => []
  | flow :: rest => encodeRequest (following counter) (.stop flow) ++ stops (following counter) rest

theorem stops_append (counter : UInt32) (front back : List UInt32) :
    stops counter (front ++ back) = stops counter front ++ stops (drawn counter front) back := by
  induction front generalizing counter with
  | nil => rfl
  | cons flow front ih =>
    have rest := ih (following counter)
    simp only [List.cons_append, stops, rest, List.append_assoc]
    rfl

/-- Every flow is stopped by as many bytes. -/
theorem length_stops (counter : UInt32) (flows : List UInt32) : (stops counter flows).length = 13 * flows.length := by
  induction flows generalizing counter with
  | nil => rfl
  | cons flow rest ih =>
    have first : (encodeRequest (following counter) (.stop flow)).length = 13 := rfl
    rw [stops, List.length_append, first, ih, List.length_cons]
    omega

theorem run_drawSerial (attempts : Nat) (d : Notes) :
    (drawSerial Pump.addSerial (attempts + 2)).run (react l) d =
      (.finished (following d.counter), { d with counter := following d.counter }) := by
  by_cases zero : d.counter + 1 = 0
  · simp [drawSerial, Program.run, react, following, zero]
  · simp [drawSerial, Program.run, react, following, zero]

theorem run_stopOrphans (flows : List UInt32) (d : Notes) :
    (stopOrphans flows).run (react l) d =
      (.finished (stops d.counter flows), { d with counter := drawn d.counter flows }) := by
  induction flows generalizing d with
  | nil => rfl
  | cons flow rest ih =>
    have draws : (drawSerial Pump.addSerial serialAttempts).run (react l) d =
        (.finished (following d.counter), { d with counter := following d.counter }) :=
      run_drawSerial 4294967294 d
    simp only [stopOrphans, Program.bind_eq, Program.ask_bind, Program.done_bind, Program.run, react,
      Program.run_bind, draws, ih, Program.pure_eq]
    rfl

/-! ## What bytes come to -/

/-- What the events come to that are complete when some bytes have arrived. -/
def due (gone : UInt32 → Bool) (s : State) (bytes : List UInt8) : Upshot :=
  dealAll gone s.pending (takeEvents (s.buffer ++ bytes)).messages

/-- Where the pump stands after some bytes. -/
def after (gone : UInt32 → Bool) (s : State) (bytes : List UInt8) : State where
  buffer := (takeEvents (s.buffer ++ bytes)).rest
  pending := (due gone s bytes).pending

section Receive

variable {s : State} {piece : List UInt8} (d : Notes)

/-- With a fault the pump ends, and writes nothing any more. -/
theorem run_receive_fault {fault : FrameError} (faulty : (takeEvents (s.buffer ++ piece)).fault = some fault) :
    (step s (.received piece)).run (react l) d =
      (.finished (.finish (after l.gone s piece)),
        { d with replies := d.replies ++ (due l.gone s piece).replies }) := by
  simp only [step, receive, Program.bind_eq, Program.run_bind, run_handleAll, faulty]
  rfl

/-- Without orphans nothing is written. -/
theorem run_receive_nothing (sound : (takeEvents (s.buffer ++ piece)).fault = none)
    (nobody : (due l.gone s piece).orphans = []) :
    (step s (.received piece)).run (react l) d =
      (.finished (.goOn (after l.gone s piece)),
        { d with replies := d.replies ++ (due l.gone s piece).replies }) := by
  unfold due at nobody
  simp only [step, receive, Program.bind_eq, Program.run_bind, run_handleAll, sound, nobody]
  rfl

/-- The orphans are stopped by one write, if it is not refused. -/
theorem run_receive_orphans (sound : (takeEvents (s.buffer ++ piece)).fault = none)
    (somebody : (due l.gone s piece).orphans ≠ []) :
    (step s (.received piece)).run (react l) d =
      match l.refuses d.writes with
      | none =>
        (.finished (.goOn (after l.gone s piece)),
          { d with
            counter := drawn d.counter (due l.gone s piece).orphans
            replies := d.replies ++ (due l.gone s piece).replies
            written := d.written ++ stops d.counter (due l.gone s piece).orphans
            writes := d.writes + 1 })
      | some (reason, through) =>
        (.finished (.finish (after l.gone s piece)),
          { d with
            counter := drawn d.counter (due l.gone s piece).orphans
            replies := d.replies ++ (due l.gone s piece).replies
            written := d.written ++ (stops d.counter (due l.gone s piece).orphans).take through
            writes := d.writes + 1
            refused := d.refused ++ [reason] }) := by
  have nonempty : (due l.gone s piece).orphans.isEmpty = false := by simpa using somebody
  unfold due at nonempty
  simp only [step, receive, Program.bind_eq, Program.run_bind, run_handleAll, sound, nonempty, Bool.false_eq_true,
    if_false, run_stopOrphans, send, Program.ask_bind, Program.done_bind, Program.run, react]
  cases l.refuses d.writes with
  | none => rfl
  | some refusal => rfl

end Receive

/-! ## What a stream comes to -/

/-- Nothing can be read from a buffer until more arrives. -/
def Settled (buffer : List UInt8) : Prop := takeEvents buffer = ⟨[], none, buffer⟩

section Stream

variable {gone : UInt32 → Bool} {s : State} {piece : List UInt8} (rest : List UInt8)

variable (gone) in
theorem settled_after (sound : (takeEvents (s.buffer ++ piece)).fault = none) : Settled (after gone s piece).buffer :=
  takeAll_rest sound

theorem due_nil (settled : Settled s.buffer) : due gone s [] = { pending := s.pending } := by
  unfold due
  rw [List.append_nil, settled]
  rfl

theorem after_nil (settled : Settled s.buffer) : after gone s [] = s := by
  unfold after
  rw [due_nil settled, List.append_nil, settled]

/-- Behind a fault nothing is read. -/
theorem takeEvents_fault {fault : FrameError} (faulty : (takeEvents (s.buffer ++ piece)).fault = some fault) :
    (takeEvents (s.buffer ++ (piece ++ rest))).messages = (takeEvents (s.buffer ++ piece)).messages ∧
      (takeEvents (s.buffer ++ (piece ++ rest))).fault = some fault := by
  have whole := takeAll_append RawFrame.toEvent (s.buffer ++ piece) rest
  unfold takeEvents at faulty ⊢
  rw [← List.append_assoc, whole, Batch.readOn, faulty]
  exact ⟨rfl, rfl⟩

variable (gone) in
/-- Without a fault the reading goes on with what is left. -/
theorem takeEvents_sound (sound : (takeEvents (s.buffer ++ piece)).fault = none) :
    takeEvents (s.buffer ++ (piece ++ rest)) =
      { takeEvents ((after gone s piece).buffer ++ rest) with
        messages := (takeEvents (s.buffer ++ piece)).messages ++
          (takeEvents ((after gone s piece).buffer ++ rest)).messages } := by
  have whole := takeAll_append RawFrame.toEvent (s.buffer ++ piece) rest
  unfold takeEvents at sound
  rw [← List.append_assoc, takeEvents, whole, Batch.readOn, sound]
  rfl

theorem due_fault {fault : FrameError} (faulty : (takeEvents (s.buffer ++ piece)).fault = some fault) :
    due gone s (piece ++ rest) = due gone s piece := by
  unfold due
  rw [(takeEvents_fault rest faulty).1]

variable (gone) in
theorem due_sound (sound : (takeEvents (s.buffer ++ piece)).fault = none) :
    due gone s (piece ++ rest) = (due gone s piece).andThen fun _ => due gone (after gone s piece) rest := by
  have whole := takeEvents_sound gone rest sound
  unfold due
  rw [whole, dealAll_append]
  rfl

end Stream

/-- The orphans that a cut loses: those that come in one piece with a fault. -/
def lost (gone : UInt32 → Bool) (s : State) : List (List UInt8) → List UInt32
  | [] => []
  | piece :: pieces =>
    match (takeEvents (s.buffer ++ piece)).fault with
    | some _ => (due gone s piece).orphans
    | none => lost gone (after gone s piece) pieces

/-- Where the pump stands after a stream: it goes on unless there has been a fault. -/
def Stands (gone : UInt32 → Bool) (s : State) (stream : List UInt8) : Next → Prop
  | .goOn s' => (takeEvents (s.buffer ++ stream)).fault = none ∧ s' = after gone s stream
  | .finish s' => (takeEvents (s.buffer ++ stream)).fault ≠ none ∧ s'.pending = (due gone s stream).pending

/-- What a run over some pieces comes to. The replies that are taken and the bytes that are written are the first of those
    that the whole stream calls for. If no write is refused they are all of them, up to the orphans that are lost. -/
structure Course (l : Line) (s : State) (pieces : List (List UInt8)) (d : Notes) (next : Next) (d' : Notes) : Prop where
  replies : ∃ taken, d'.replies = d.replies ++ taken ∧ taken <+: (due l.gone s pieces.flatten).replies ∧
    (d'.refused = [] → taken = (due l.gone s pieces.flatten).replies)
  written : ∃ through, d'.written = d.written ++ through ∧
    through <+: stops d.counter (due l.gone s pieces.flatten).orphans ∧
    (d'.refused = [] → ∃ stopped, stopped ++ lost l.gone s pieces = (due l.gone s pieces.flatten).orphans ∧
      through = stops d.counter stopped)
  stands : d'.refused = [] → Stands l.gone s pieces.flatten next
  accepted : (∀ n, l.refuses n = none) → d'.refused = d.refused

section Course

variable {s : State} {piece : List UInt8} {pieces : List (List UInt8)} {d d' : Notes} {next : Next}

theorem course_nil (settled : Settled s.buffer) (d : Notes) : Course l s [] d (.goOn s) d where
  replies := by
    rw [List.flatten_nil, due_nil settled]
    exact ⟨[], (List.append_nil _).symm, List.prefix_rfl, fun _ => rfl⟩
  written := by
    rw [List.flatten_nil, due_nil settled]
    exact ⟨[], (List.append_nil _).symm, List.prefix_rfl, fun _ => ⟨[], rfl, rfl⟩⟩
  stands := by
    intro _
    show (takeEvents (s.buffer ++ [])).fault = none ∧ s = after l.gone s []
    rw [after_nil settled, List.append_nil, settled]
    exact ⟨rfl, rfl⟩
  accepted _ := rfl

/-- In a piece with a fault the orphans are lost. -/
theorem course_fault {fault : FrameError} (faulty : (takeEvents (s.buffer ++ piece)).fault = some fault) (d : Notes) :
    Course l s (piece :: pieces) d (.finish (after l.gone s piece))
      { d with replies := d.replies ++ (due l.gone s piece).replies } where
  replies := by
    rw [List.flatten_cons, due_fault _ faulty]
    exact ⟨_, rfl, List.prefix_rfl, fun _ => rfl⟩
  written := by
    rw [List.flatten_cons, due_fault _ faulty]
    refine ⟨[], (List.append_nil _).symm, List.nil_prefix, fun _ => ⟨[], ?_, rfl⟩⟩
    rw [lost, faulty]
    rfl
  stands := by
    intro _
    show (takeEvents (s.buffer ++ (piece ++ pieces.flatten))).fault ≠ none ∧ _
    rw [(takeEvents_fault _ faulty).2, List.flatten_cons, due_fault _ faulty]
    exact ⟨nofun, rfl⟩
  accepted _ := rfl

theorem Stands.cons (sound : (takeEvents (s.buffer ++ piece)).fault = none) {rest : List UInt8}
    (stands : Stands l.gone (after l.gone s piece) rest next) : Stands l.gone s (piece ++ rest) next := by
  have whole := takeEvents_sound l.gone rest sound
  have all := due_sound l.gone rest sound
  cases next with
  | goOn s' =>
    obtain ⟨faultless, same⟩ := stands
    refine ⟨?_, ?_⟩
    · rw [whole]
      exact faultless
    · show s' = ⟨(takeEvents (s.buffer ++ (piece ++ rest))).rest, (due l.gone s (piece ++ rest)).pending⟩
      rw [same, whole, all]
      rfl
  | finish s' =>
    obtain ⟨faulty, same⟩ := stands
    refine ⟨?_, ?_⟩
    · rw [whole]
      exact faulty
    · rw [same, all]
      rfl

/-- After a piece without a fault the rest of the stream is read from where the pump stands. -/
theorem Course.cons (sound : (takeEvents (s.buffer ++ piece)).fault = none) {between : Notes}
    (later : Course l (after l.gone s piece) pieces between next d')
    (counter : between.counter = drawn d.counter (due l.gone s piece).orphans)
    (replied : between.replies = d.replies ++ (due l.gone s piece).replies)
    (wrote : between.written = d.written ++ stops d.counter (due l.gone s piece).orphans)
    (accepted : between.refused = d.refused) : Course l s (piece :: pieces) d next d' where
  replies := by
    obtain ⟨taken, same, first, all⟩ := later.replies
    rw [List.flatten_cons, due_sound _ _ sound]
    refine ⟨(due l.gone s piece).replies ++ taken, ?_, ?_, ?_⟩
    · rw [same, replied, List.append_assoc]
    · exact (List.prefix_append_right_inj _).2 first
    · intro accepted
      rw [all accepted]
      rfl
  written := by
    obtain ⟨through, same, first, all⟩ := later.written
    rw [counter] at first all
    rw [List.flatten_cons, due_sound _ _ sound]
    refine ⟨stops d.counter (due l.gone s piece).orphans ++ through, ?_, ?_, ?_⟩
    · rw [same, wrote, List.append_assoc]
    · show _ <+: stops d.counter (_ ++ _)
      rw [stops_append]
      exact (List.prefix_append_right_inj _).2 first
    · intro accepted
      obtain ⟨stopped, whole, rfl⟩ := all accepted
      refine ⟨(due l.gone s piece).orphans ++ stopped, ?_, (stops_append ..).symm⟩
      rw [lost, sound, List.append_assoc, whole]
      rfl
  stands unrefused := (later.stands unrefused).cons sound
  accepted willing := (later.accepted willing).trans accepted

/-- A write that is refused ends the run; what has come through is a first part of what was to be written. -/
theorem course_refused (sound : (takeEvents (s.buffer ++ piece)).fault = none) {last : State} {n through : Nat}
    {reason : String} (refuses : l.refuses n = some (reason, through))
    (replied : d'.replies = d.replies ++ (due l.gone s piece).replies)
    (wrote : d'.written = d.written ++ (stops d.counter (due l.gone s piece).orphans).take through)
    (refused : d'.refused ≠ []) : Course l s (piece :: pieces) d (.finish last) d' where
  replies := by
    rw [List.flatten_cons, due_sound _ _ sound]
    exact ⟨_, replied, List.prefix_append _ _, fun accepted => absurd accepted refused⟩
  written := by
    rw [List.flatten_cons, due_sound _ _ sound]
    refine ⟨_, wrote, ?_, fun accepted => absurd accepted refused⟩
    show _ <+: stops d.counter (_ ++ _)
    rw [stops_append]
    exact (List.take_prefix _ _).trans (List.prefix_append _ _)
  stands accepted := absurd accepted refused
  accepted willing := by
    rw [willing n] at refuses
    cases refuses

/-- **Every run takes its course**, whatever the pieces are and whatever is refused. -/
theorem course_readAll (l : Line) (pieces : List (List UInt8)) {s : State} (settled : Settled s.buffer) (d : Notes) :
    ∃ next d', (readAll s pieces).run (react l) d = (.finished next, d') ∧ Course l s pieces d next d' := by
  induction pieces generalizing s d with
  | nil => exact ⟨.goOn s, d, rfl, course_nil settled d⟩
  | cons piece pieces ih =>
    simp only [readAll, Program.bind_eq, Program.run_bind]
    cases met : (takeEvents (s.buffer ++ piece)).fault with
    | some fault =>
      rw [run_receive_fault d met]
      exact ⟨_, _, rfl, course_fault met d⟩
    | none =>
      by_cases nobody : (due l.gone s piece).orphans = []
      · rw [run_receive_nothing d met nobody]
        obtain ⟨next, d', run, later⟩ := ih (settled_after l.gone met)
          { d with replies := d.replies ++ (due l.gone s piece).replies }
        refine ⟨next, d', run, Course.cons met later ?_ rfl ?_ rfl⟩
        · rw [nobody]
          rfl
        · rw [nobody]
          exact (List.append_nil _).symm
      · rw [run_receive_orphans d met nobody]
        cases refuses : l.refuses d.writes with
        | none =>
          obtain ⟨next, d', run, later⟩ := ih (settled_after l.gone met)
            { d with
              counter := drawn d.counter (due l.gone s piece).orphans
              replies := d.replies ++ (due l.gone s piece).replies
              written := d.written ++ stops d.counter (due l.gone s piece).orphans
              writes := d.writes + 1 }
          exact ⟨next, d', run, Course.cons met later rfl rfl rfl rfl⟩
        | some refusal =>
          obtain ⟨reason, through⟩ := refusal
          exact ⟨_, _, rfl, course_refused met refuses rfl rfl (by simp)⟩

end Course

/-! ## What cuts lose -/

section Lost

variable {gone : UInt32 → Bool} {s : State}

variable (gone) in
/-- What is lost are the last of all orphans. -/
theorem lost_suffix (settled : Settled s.buffer) (pieces : List (List UInt8)) :
    lost gone s pieces <:+ (due gone s pieces.flatten).orphans := by
  induction pieces generalizing s with
  | nil => exact List.nil_suffix
  | cons piece pieces ih =>
    rw [lost, List.flatten_cons]
    cases met : (takeEvents (s.buffer ++ piece)).fault with
    | some fault =>
      have same : due gone s (piece ++ pieces.flatten) = due gone s piece := due_fault _ met
      exact same ▸ List.suffix_rfl
    | none =>
      have later := ih (settled_after gone met)
      rw [due_sound _ _ met]
      exact later.trans (List.suffix_append _ _)

/-- Without a fault nothing is lost. -/
theorem lost_of_sound {pieces : List (List UInt8)} (sound : (takeEvents (s.buffer ++ pieces.flatten)).fault = none) :
    lost gone s pieces = [] := by
  induction pieces generalizing s with
  | nil => rfl
  | cons piece pieces ih =>
    rw [List.flatten_cons] at sound
    rw [lost]
    cases met : (takeEvents (s.buffer ++ piece)).fault with
    | some fault =>
      rw [(takeEvents_fault _ met).2] at sound
      cases sound
    | none =>
      rw [takeEvents_sound gone _ met] at sound
      exact ih sound

/-- In one piece with a fault all orphans are lost. -/
theorem lost_whole {stream : List UInt8} {fault : FrameError}
    (faulty : (takeEvents (s.buffer ++ stream)).fault = some fault) :
    lost gone s [stream] = (due gone s stream).orphans := by
  rw [lost, faulty]

/-! ### Byte by byte -/

variable {buffer : List UInt8} {byte : UInt8}

/-- What cannot be read is waited for. -/
theorem waits_of_settled (settled : Settled buffer) : Waits buffer := by
  have incomplete : (decodeWith RawFrame.toEvent buffer).1 = .incomplete := by
    have nothing : takeAll RawFrame.toEvent buffer = ⟨[], none, buffer⟩ := settled
    rcases read : decodeWith RawFrame.toEvent buffer with ⟨_ | reason | message, rest⟩
    · rfl
    · rw [takeAll_of_malformed read] at nothing
      cases nothing
    · rw [takeAll_of_message read] at nothing
      cases nothing
  exact waits_of_incomplete incomplete

/-- A frame that one byte completes ends with it. -/
theorem length_of_completed (waits : Waits buffer) (ready : ¬ Waits (buffer ++ [byte]))
    (fits : ¬ Oversized (buffer ++ [byte])) : headerLength + declared (buffer ++ [byte]) = (buffer ++ [byte]).length := by
  obtain ⟨long, -, whole⟩ := complete_of_not ready fits
  rw [List.length_append, List.length_singleton] at long whole ⊢
  by_cases short : buffer.length < headerLength
  · omega
  · have missing := (waits.resolve_left short).2
    rw [← declared_append (Nat.le_of_not_lt short) [byte]] at missing
    omega

/-- If a byte leads to a fault, it does not complete an event. -/
theorem messages_of_fault (settled : Settled buffer) (faulty : (takeEvents (buffer ++ [byte])).fault ≠ none) :
    (takeEvents (buffer ++ [byte])).messages = [] := by
  unfold takeEvents at faulty ⊢
  rcases read : decodeWith RawFrame.toEvent (buffer ++ [byte]) with ⟨_ | reason | message, rest⟩
  · rw [takeAll_of_incomplete read]
  · rw [takeAll_of_malformed read]
  · -- The frame of the message is all there is, so that nothing behind it is at fault.
    obtain ⟨ready, fits⟩ := complete_of_message (congrArg Prod.fst read)
    have left : rest = [] := by
      rw [decodeWith_of_complete ready fits, length_of_completed (waits_of_settled settled) ready fits,
        List.drop_length] at read
      exact (Prod.mk.inj read).2.symm
    rw [takeAll_of_message read, left, takeAll_nil] at faulty
    exact absurd rfl faulty

/-- **Byte by byte nothing is lost.** -/
theorem lost_singletons (settled : Settled s.buffer) (stream : List UInt8) :
    lost gone s (stream.map ([·])) = [] := by
  induction stream generalizing s with
  | nil => rfl
  | cons byte stream ih =>
    rw [List.map_cons, lost]
    cases met : (takeEvents (s.buffer ++ [byte])).fault with
    | some fault =>
      have nothing : (takeEvents (s.buffer ++ [byte])).messages = [] := by
        apply messages_of_fault settled
        rw [met]
        nofun
      show (due gone s [byte]).orphans = []
      unfold due
      rw [nothing]
      rfl
    | none => exact ih (settled_after gone met)

theorem flatten_singletons (stream : List UInt8) : (stream.map ([·])).flatten = stream := by
  induction stream with
  | nil => rfl
  | cons byte stream ih => rw [List.map_cons, List.flatten_cons, ih, List.singleton_append]

/-- All cuts of a stream lose the same, exactly if there is no fault in it, or no orphan before the fault. -/
theorem lost_eq_iff (settled : Settled s.buffer) (stream : List UInt8) :
    (∀ pieces pieces' : List (List UInt8), pieces.flatten = stream → pieces'.flatten = stream →
      lost gone s pieces = lost gone s pieces') ↔
    (takeEvents (s.buffer ++ stream)).fault = none ∨ (due gone s stream).orphans = [] := by
  constructor
  · intro same
    cases met : (takeEvents (s.buffer ++ stream)).fault with
    | none => exact .inl rfl
    | some fault =>
      have whole : [stream].flatten = stream := by simp
      have equal := same [stream] (stream.map ([·])) whole (flatten_singletons stream)
      rw [lost_whole met, lost_singletons settled] at equal
      exact .inr equal
  · rintro (sound | nobody) pieces pieces' rfl same
    · have sound' : (takeEvents (s.buffer ++ pieces'.flatten)).fault = none := same ▸ sound
      rw [lost_of_sound sound, lost_of_sound sound']
    · have one := lost_suffix gone settled pieces
      have other := lost_suffix gone settled pieces'
      rw [nobody] at one
      rw [same, nobody] at other
      rw [List.suffix_nil.1 one, List.suffix_nil.1 other]

end Lost

/-! ## Two cuts of one stream -/

/-- Two runs have come to the same place: both go on, in the same state, or both end, with the same requests pending. -/
def SamePlace : Program.Ending Next → Program.Ending Next → Prop
  | .finished (.goOn s), .finished (.goOn s') => s = s'
  | .finished (.finish s), .finished (.finish s') => s.pending = s'.pending
  | _, _ => False

theorem Stands.samePlace {gone : UInt32 → Bool} {s : State} {stream : List UInt8} {next next' : Next}
    (one : Stands gone s stream next) (other : Stands gone s stream next') :
    SamePlace (.finished next) (.finished next') := by
  cases next with
  | goOn s₁ =>
    cases next' with
    | goOn s₂ => exact one.2.trans other.2.symm
    | finish s₂ => exact absurd one.1 other.1
  | finish s₁ =>
    cases next' with
    | goOn s₂ => exact absurd other.1 one.1
    | finish s₂ => exact one.2.trans other.2.symm

/-- What has been stopped tells what has been lost. -/
theorem stops_eq_iff {counter : UInt32} {stopped stopped' lost lost' : List UInt32}
    (same : stopped ++ lost = stopped' ++ lost') :
    stops counter stopped = stops counter stopped' ↔ lost = lost' := by
  constructor
  · intro equal
    have lengths := congrArg List.length equal
    rw [length_stops, length_stops] at lengths
    exact (List.append_inj same (by omega)).2
  · rintro rfl
    rw [List.append_cancel_right same]

/-- **Two cuts come to the same, if and only if they lose the same orphans.** Let the pump read a stream in pieces, and let
    nothing else happen. Whatever is refused, the replies that are taken and the bytes that are written are the first of
    those that the stream calls for. If no write is refused, the replies are the same for every cut, and so is the place
    that the pump comes to; what is written is the same exactly if the same orphans are lost, each of which has come in one
    piece with a fault. All cuts lose the same exactly if the stream is without a fault, or without an orphan before it. -/
theorem cuts_agree_iff {s : State} (settled : Settled s.buffer) (gone : UInt32 → Bool) (counter : UInt32)
    (stream : List UInt8) :
    (∀ (l : Line) (pieces : List (List UInt8)), l.gone = gone → pieces.flatten = stream →
      (∃ next, (reading l counter s pieces).1 = .finished next) ∧
      (reading l counter s pieces).2.replies <+: (due gone s stream).replies ∧
      (reading l counter s pieces).2.written <+: stops counter (due gone s stream).orphans) ∧
    (∀ (l l' : Line) (pieces pieces' : List (List UInt8)), l.gone = gone → l'.gone = gone →
      pieces.flatten = stream → pieces'.flatten = stream →
      (reading l counter s pieces).2.refused = [] → (reading l' counter s pieces').2.refused = [] →
        (reading l counter s pieces).2.replies = (reading l' counter s pieces').2.replies ∧
        SamePlace (reading l counter s pieces).1 (reading l' counter s pieces').1 ∧
        ((reading l counter s pieces).2.written = (reading l' counter s pieces').2.written ↔
          lost gone s pieces = lost gone s pieces')) ∧
    ((∀ pieces pieces' : List (List UInt8), pieces.flatten = stream → pieces'.flatten = stream →
      lost gone s pieces = lost gone s pieces') ↔
        (takeEvents (s.buffer ++ stream)).fault = none ∨ (due gone s stream).orphans = []) := by
  refine ⟨?_, ?_, lost_eq_iff settled stream⟩
  · rintro l pieces rfl rfl
    obtain ⟨next, d, run, course⟩ := course_readAll l pieces settled { counter }
    obtain ⟨taken, replies, first, -⟩ := course.replies
    obtain ⟨through, written, front, -⟩ := course.written
    unfold reading
    rw [run]
    refine ⟨⟨next, rfl⟩, ?_, ?_⟩
    · rw [replies]
      exact first
    · rw [written]
      exact front
  · rintro l l' pieces pieces' rfl there rfl same accepted accepted'
    obtain ⟨next, d, run, course⟩ := course_readAll l pieces settled { counter }
    obtain ⟨next', d', run', course'⟩ := course_readAll l' pieces' settled { counter }
    unfold reading at accepted accepted' ⊢
    rw [run] at accepted ⊢
    rw [run'] at accepted' ⊢
    obtain ⟨taken, replies, -, all⟩ := course.replies
    obtain ⟨taken', replies', -, all'⟩ := course'.replies
    obtain ⟨through, written, -, every⟩ := course.written
    obtain ⟨through', written', -, every'⟩ := course'.written
    have stands := course.stands accepted
    have stands' := course'.stands accepted'
    obtain ⟨stopped, whole, rfl⟩ := every accepted
    obtain ⟨stopped', whole', rfl⟩ := every' accepted'
    rw [there, same] at all' whole' stands'
    refine ⟨?_, stands.samePlace stands', ?_⟩
    · rw [replies, replies', all accepted, all' accepted']
    · rw [written, written']
      exact stops_eq_iff (whole.trans whole'.symm)

/-! ### An orphan in front of a fault -/

/-- A server that takes all that is written; nobody has gone away. -/
def willing : Line := ⟨fun _ => false, fun _ => none⟩

/-- The pump when one request has been abandoned. -/
def abandoned : State := { pending := { abandoned := [1] } }

/-- The flow that the abandoned request has started. -/
def late : List UInt8 := encodeEvent 1 (.started 9)

/-- A frame with an opcode that does not exist. -/
def garbage : List UInt8 := frame 0x7f 0 []

theorem takeEvents_late (rest : List UInt8) : takeEvents (late ++ rest) =
    { takeEvents rest with messages := (1, .started 9) :: (takeEvents rest).messages } :=
  takeAll_frame (Event.length_payload_le _) (Event.toEvent_payload 1 (.started 9)) rest

theorem takeEvents_garbage : takeEvents garbage = ⟨[], some (.unknownEvent 0x7f), []⟩ :=
  takeAll_of_malformed rfl

/-- A willing server refuses nothing. -/
theorem refused_willing (counter : UInt32) {s : State} (settled : Settled s.buffer) (pieces : List (List UInt8)) :
    (reading willing counter s pieces).2.refused = [] := by
  obtain ⟨next, d, run, course⟩ := course_readAll willing pieces settled { counter }
  unfold reading
  rw [run]
  exact course.accepted fun _ => rfl

theorem due_late (rest : List UInt8) : due willing.gone abandoned (late ++ rest) =
    (deal willing.gone abandoned.pending 1 (.started 9)).andThen
      fun p => dealAll willing.gone p (takeEvents rest).messages := by
  unfold due
  show dealAll _ _ (takeEvents (late ++ rest)).messages = _
  rw [takeEvents_late]
  rfl

theorem settled_abandoned : Settled abandoned.buffer := takeAll_nil RawFrame.toEvent

/-- What is written for these pieces, by what they lose. -/
theorem written_of_lost {pieces : List (List UInt8)} (whole : pieces.flatten = late ++ garbage) (counter : UInt32)
    {stopped : List UInt32} (lose : stopped ++ lost willing.gone abandoned pieces = [9]) :
    (reading willing counter abandoned pieces).2.written = stops counter stopped := by
  obtain ⟨next, d, run, course⟩ := course_readAll willing pieces settled_abandoned { counter }
  obtain ⟨through, written, -, every⟩ := course.written
  obtain ⟨stopped', same, rfl⟩ := every (course.accepted fun _ => rfl)
  rw [whole, due_late, takeEvents_garbage] at same
  have equal : stopped' = stopped := List.append_cancel_right (same.trans lose.symm)
  unfold reading
  rw [run, ← equal]
  exact written

theorem lost_at_once : lost willing.gone abandoned [late ++ garbage] = [9] := by
  have faulty : (takeEvents (abandoned.buffer ++ (late ++ garbage))).fault = some (.unknownEvent 0x7f) := by
    show (takeEvents (late ++ garbage)).fault = _
    rw [takeEvents_late, takeEvents_garbage]
  rw [lost_whole faulty, due_late, takeEvents_garbage]
  rfl

theorem lost_apart : lost willing.gone abandoned [late, garbage] = [] := by
  have first : takeEvents (abandoned.buffer ++ late) = ⟨[(1, .started 9)], none, []⟩ := by
    show takeEvents late = _
    rw [← List.append_nil late, takeEvents_late, takeEvents, takeAll_nil]
  have second : takeEvents ((after willing.gone abandoned late).buffer ++ garbage) =
      ⟨[], some (.unknownEvent 0x7f), []⟩ := by
    show takeEvents ((takeEvents (abandoned.buffer ++ late)).rest ++ garbage) = _
    rw [first]
    exact takeEvents_garbage
  simp only [lost, first, second]
  show (dealAll _ _ (takeEvents ((after willing.gone abandoned late).buffer ++ garbage)).messages).orphans = []
  rw [second]
  rfl

/-- A stream without a fault comes to the same when it is cut inside the header of its only event. -/
theorem late_cut_in_header :
    Settled abandoned.buffer ∧ [late].flatten = late ∧ [late.take 5, late.drop 5].flatten = late ∧
    (reading willing 2 abandoned [late]).2.refused = [] ∧
    (reading willing 2 abandoned [late.take 5, late.drop 5]).2.refused = [] ∧
    (reading willing 2 abandoned [late]).2.replies = (reading willing 2 abandoned [late.take 5, late.drop 5]).2.replies ∧
    SamePlace (reading willing 2 abandoned [late]).1 (reading willing 2 abandoned [late.take 5, late.drop 5]).1 ∧
    ((reading willing 2 abandoned [late]).2.written = (reading willing 2 abandoned [late.take 5, late.drop 5]).2.written ↔
      lost willing.gone abandoned [late] = lost willing.gone abandoned [late.take 5, late.drop 5]) :=
  ⟨settled_abandoned, rfl, rfl, refused_willing 2 settled_abandoned _, refused_willing 2 settled_abandoned _,
    (cuts_agree_iff settled_abandoned willing.gone 2 late).2.1 willing willing [late] [late.take 5, late.drop 5] rfl rfl
      rfl rfl (refused_willing 2 settled_abandoned _) (refused_willing 2 settled_abandoned _)⟩

/-- **An orphan is lost if the fault behind it comes at once.** One request has been abandoned; the server tells that its
    flow has started, and then sends what cannot be read. If both come in one piece, nothing is written; if they come one
    after the other, the flow is stopped. -/
theorem orphan_lost :
    Settled abandoned.buffer ∧ [late ++ garbage].flatten = [late, garbage].flatten ∧
    (reading willing 2 abandoned [late ++ garbage]).2.refused = [] ∧
    (reading willing 2 abandoned [late, garbage]).2.refused = [] ∧
    (reading willing 2 abandoned [late ++ garbage]).2.written = [] ∧
    (reading willing 2 abandoned [late, garbage]).2.written = encodeRequest 3 (.stop 9) := by
  refine ⟨settled_abandoned, rfl, refused_willing 2 settled_abandoned _, refused_willing 2 settled_abandoned _, ?_, ?_⟩
  · have nothing : [] ++ lost willing.gone abandoned [late ++ garbage] = [9] := lost_at_once
    exact written_of_lost rfl 2 nothing
  · have all : [9] ++ lost willing.gone abandoned [late, garbage] = [9] := by rw [lost_apart, List.append_nil]
    exact written_of_lost rfl 2 all

end Cuts

end Playout.Flow
