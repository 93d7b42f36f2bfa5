import Mathlib.Data.List.Forall2
import Playout.Proofs.Log.Handles
import Playout.Registry

/-!
# `Playout.Proofs.Registry.Selecting` — which output is used, and with which log

Of a list of methods, those that name an entry of the table are tried in order until one opens. How an
entry is opened is left open: what opens it may answer anything, may use any logs, and may depend on all
that has happened so far. What comes of it is told by the calls that were made.

Every attempt is given a log of its own, forked off the log that was given. So a device that was opened has
a level of its own, which begins where that of the given log is and is not seen by it.

## Contents
- `Opener`, `Scene`, `react` — surroundings with arbitrary ways of opening.
- `SameName`, `Names`, `find?_eq_some_iff` — which entry a method names.
- `Tried` — one attempt after another; `Tried.inOrder`, `Tried.failed_before`, `Tried.last_opened`,
  `Tried.all_failed`, `Tried.only` — what it says.
- `Scene.after`, `levels_after`, `apart_after` — one attempt and the logs after it.
- `Came`, `came` — all attempts of a run; `run_openFirst` — what is made of them.

## Main statement
`first_that_opens` — the first of the methods that opens is used, and none after it is tried.
-/

namespace Playout.Registry

open Log (Book)

variable {β ω : Type}

/-! ## Surroundings -/

/-- What opening an entry comes to: an answer, what was done with logs meanwhile, and the rest of the world. -/
structure Attempt (β ω : Type) where
  outcome : Except OpenError β
  actions : List Log.Action
  world : ω

/-- How an entry is opened, with parameters and a log for the device. It may know all logs there are. -/
abbrev Opener (β ω : Type) := OpenParams → Nat → Book → ω → Attempt β ω

/-- One entry that was tried: the one at a place in the table. -/
structure Call (β : Type) where
  place : Nat
  params : OpenParams
  deviceLog : Nat
  outcome : Except OpenError β
  deriving DecidableEq

/-- All logs, the rest of the world, and what was tried so far, in order. -/
structure Scene (β ω : Type) where
  book : Book
  world : ω
  calls : List (Call β) := []
  deriving DecidableEq

/-- The answers to what opening asks, with the given log and a way of opening for each place of the table. -/
def react (openers : Nat → Opener β ω) (given : Nat) : Program.Reaction (Interface β) (Scene β ω)
  | .log line, s => some ((), { s with book := s.book.act (.log given line) })
  | .forkLog, s => some (s.book.handles.length, { s with book := s.book.act (.fork given) })
  | .openEntry place params deviceLog, s =>
    let attempt := openers place params deviceLog s.book s.world
    some (attempt.outcome,
      { book := attempt.actions.foldl Book.act s.book
        world := attempt.world
        calls := s.calls ++ [⟨place, params, deviceLog, attempt.outcome⟩] })

/-- Opening sets neither the level of the log that was given nor that of the device's log. -/
def KeepsLevels (openers : Nat → Opener β ω) (given : Nat) : Prop :=
  ∀ place params deviceLog (book : Book) world, book.Sound → deviceLog < book.handles.length →
    ∀ h, h = given ∨ h = deviceLog →
      ((openers place params deviceLog book world).actions.foldl Book.act book).level? h = book.level? h

/-! ## Names -/

/-- Two texts that differ at most in the case of ASCII letters. -/
def SameName (a b : String) : Prop := List.Forall₂ (fun c d => c.toLower = d.toLower) a.toList b.toList

/-- A method names the first entry whose name it is, up to blanks around it. -/
def Names (table : List Entry) (method : String) (place : Nat) : Prop :=
  ∃ entry, table[place]? = some entry ∧ SameName entry.name (Text.trim method)
    ∧ ∀ i < place, ∀ other, table[i]? = some other → ¬ SameName other.name (Text.trim method)

theorem isNamed_iff (e : Entry) (name : String) : e.isNamed name = true ↔ SameName e.name name := by
  unfold Entry.isNamed SameName Text.lowerAscii
  rw [decide_eq_true_iff, String.ofList_inj, ← List.forall₂_eq_eq_eq, List.forall₂_map_left_iff,
    List.forall₂_map_right_iff]

theorem find?_eq_some_iff (table : List Entry) (method : String) (place : Nat) :
    find? table method = some place ↔ Names table method place := by
  unfold find? Names
  rw [List.findIdx?_eq_some_iff_getElem]
  constructor
  · rintro ⟨inside, named, before⟩
    refine ⟨table[place], List.getElem?_eq_getElem inside, (isNamed_iff _ _).1 named, ?_⟩
    intro i earlier other found same
    obtain ⟨within, rfl⟩ := List.getElem?_eq_some_iff.1 found
    exact before i earlier ((isNamed_iff _ _).2 same)
  · rintro ⟨entry, found, named, before⟩
    obtain ⟨inside, rfl⟩ := List.getElem?_eq_some_iff.1 found
    refine ⟨inside, (isNamed_iff _ _).2 named, ?_⟩
    intro i earlier same
    exact before i earlier _ (List.getElem?_eq_getElem _) ((isNamed_iff _ _).1 same)

/-! ## One attempt after another -/

variable {table : List Entry} {params : OpenParams} {last : Option OpenError} {methods : List String}
  {calls : List (Call β)} {result : Except (Option OpenError) (Opened β)}

/-- What trying methods comes to, with the calls it makes: a method without an entry is passed over, one that
    fails leaves its error, and the first one that opens ends it. -/
inductive Tried (table : List Entry) (params : OpenParams) :
    Option OpenError → List String → List (Call β) → Except (Option OpenError) (Opened β) → Prop
  | exhausted {last : Option OpenError} : Tried table params last [] [] (.error last)
  | unknown {last : Option OpenError} {method : String} {rest : List String} {calls : List (Call β)}
      {result : Except (Option OpenError) (Opened β)} : find? table method = none →
      Tried table params (some (.unknownBackend method)) rest calls result →
      Tried table params last (method :: rest) calls result
  | opened {last : Option OpenError} {method : String} {rest : List String} {place deviceLog : Nat} {output : β} :
      find? table method = some place →
      Tried table params last (method :: rest) [⟨place, params, deviceLog, .ok output⟩] (.ok ⟨output, deviceLog⟩)
  | failed {last : Option OpenError} {method : String} {rest : List String} {place deviceLog : Nat} {e : OpenError}
      {calls : List (Call β)} {result : Except (Option OpenError) (Opened β)} : find? table method = some place →
      Tried table params (some e) rest calls result →
      Tried table params last (method :: rest) (⟨place, params, deviceLog, .error e⟩ :: calls) result

/-- An entry that was tried did not open. -/
def Call.Failed (c : Call β) : Prop := ∃ e, c.outcome = .error e

theorem Tried.passes_params (tried : Tried table params last methods calls result) : ∀ c ∈ calls, c.params = params := by
  induction tried with
  | exhausted => exact fun _ mem => absurd mem List.not_mem_nil
  | unknown _ _ ih => exact ih
  | opened _ => exact fun c mem => List.mem_singleton.1 mem ▸ rfl
  | failed _ _ ih =>
    intro c mem
    rcases List.mem_cons.1 mem with rfl | later
    · rfl
    · exact ih c later

/-- The entries that are tried are the first ones of those that are named. -/
theorem Tried.inOrder (tried : Tried table params last methods calls result) :
    calls.map (·.place) <+: methods.filterMap (find? table) := by
  induction tried with
  | exhausted => exact List.prefix_rfl
  | unknown missing _ ih =>
    rw [List.filterMap_cons_none missing]
    exact ih
  | opened found =>
    rw [List.filterMap_cons_some found]
    exact (List.prefix_cons_inj _).2 List.nil_prefix
  | failed found _ ih =>
    rw [List.filterMap_cons_some found]
    exact (List.prefix_cons_inj _).2 ih

/-- Nothing is tried after an entry that opens. -/
theorem Tried.failed_before (tried : Tried table params last methods calls result) :
    ∀ c ∈ calls.dropLast, c.Failed := by
  induction tried with
  | exhausted => exact fun _ mem => absurd mem List.not_mem_nil
  | unknown _ _ ih => exact ih
  | opened _ => exact fun _ mem => absurd mem List.not_mem_nil
  | @failed _ _ _ _ _ e calls _ _ _ ih =>
    intro c mem
    cases calls with
    | nil => exact absurd mem List.not_mem_nil
    | cons d calls =>
      rcases List.mem_cons.1 mem with rfl | later
      · exact ⟨e, rfl⟩
      · exact ih c later

/-- What is returned is what the entry tried last opened. -/
theorem Tried.last_opened {opened : Opened β} (tried : Tried table params last methods calls (.ok opened)) :
    ∃ c, calls.getLast? = some c ∧ c.outcome = .ok opened.output ∧ c.deviceLog = opened.deviceLog := by
  generalize same : (Except.ok opened : Except (Option OpenError) (Opened β)) = result at tried
  induction tried with
  | exhausted => cases same
  | unknown _ _ ih => exact ih same
  | opened _ =>
    cases same
    exact ⟨_, rfl, rfl, rfl⟩
  | failed _ _ ih =>
    obtain ⟨c, here, opens⟩ := ih same
    refine ⟨c, ?_, opens⟩
    rw [List.getLast?_cons, here]
    rfl

/-- When nothing is returned, every entry that is named has been tried, and none has opened. -/
theorem Tried.all_failed {e : Option OpenError} (tried : Tried table params last methods calls (.error e)) :
    calls.map (·.place) = methods.filterMap (find? table) ∧ ∀ c ∈ calls, c.Failed := by
  generalize same : (Except.error e : Except (Option OpenError) (Opened β)) = result at tried
  induction tried with
  | exhausted => exact ⟨rfl, fun _ mem => absurd mem List.not_mem_nil⟩
  | unknown missing _ ih =>
    rw [List.filterMap_cons_none missing]
    exact ih same
  | opened _ => cases same
  | @failed _ _ _ _ _ e _ _ found _ ih =>
    obtain ⟨every, failed⟩ := ih same
    rw [List.filterMap_cons_some found, List.map_cons, every]
    refine ⟨rfl, fun c mem => ?_⟩
    rcases List.mem_cons.1 mem with rfl | later
    · exact ⟨e, rfl⟩
    · exact failed c later

/-- A method that is the only one leaves its own error. -/
theorem Tried.only {method : String} {e : Option OpenError}
    (tried : Tried table params last [method] calls (.error e)) :
    (find? table method = none ∧ e = some (.unknownBackend method))
      ∨ ∃ c own, calls = [c] ∧ c.outcome = .error own ∧ e = some own := by
  cases tried with
  | unknown missing rest =>
    cases rest
    exact .inl ⟨missing, rfl⟩
  | failed found rest =>
    cases rest
    exact .inr ⟨_, _, rfl, rfl, rfl⟩

/-! ## Whole runs -/

variable {openers : Nat → Opener β ω} {given : Nat} {s s' : Scene β ω}

/-- What comes of trying the entry at a place, on a log forked off the given one. -/
def Scene.attempt (s : Scene β ω) (openers : Nat → Opener β ω) (given place : Nat) (params : OpenParams) :
    Attempt β ω := openers place params s.book.handles.length (s.book.act (.fork given)) s.world

/-- The scene after that. -/
def Scene.after (s : Scene β ω) (openers : Nat → Opener β ω) (given place : Nat) (params : OpenParams) : Scene β ω :=
  let attempt := s.attempt openers given place params
  { book := attempt.actions.foldl Book.act (s.book.act (.fork given))
    world := attempt.world
    calls := s.calls ++ [⟨place, params, s.book.handles.length, attempt.outcome⟩] }

/-- The scene after one more message on the given log. -/
def Scene.say (s : Scene β ω) (given : Nat) (severity : Severity) (text : String) : Scene β ω :=
  { s with book := s.book.act (.log given ⟨severity, text⟩) }

theorem run_unknown {method : String} {rest : List String} (missing : find? table method = none) :
    (tryMethods table params last (method :: rest)).run (react openers given) s
      = (tryMethods table params (some (.unknownBackend method)) rest).run (react openers given)
          (s.say given .warning ("audio: unknown output method '" ++ method ++ "'")) := by
  rw [tryMethods, missing]
  rfl

theorem run_opened {method : String} {rest : List String} {place : Nat} {output : β}
    (found : find? table method = some place) (opens : (s.attempt openers given place params).outcome = .ok output) :
    (tryMethods table params last (method :: rest)).run (react openers given) s
      = (.finished (.ok ⟨output, s.book.handles.length⟩),
          (s.after openers given place params).say given .info
            ("audio: using the " ++ (table[place]?.map (·.name)).getD "" ++ " output method")) := by
  rw [Scene.attempt] at opens
  rw [tryMethods, found]
  simp only [Program.bind_eq, Program.ask_bind, Program.done_bind, Program.pure_eq, Program.run, react, opens,
    Scene.after, Scene.attempt, Scene.say]

theorem run_failed {method : String} {rest : List String} {place : Nat} {e : OpenError}
    (found : find? table method = some place) (fails : (s.attempt openers given place params).outcome = .error e) :
    (tryMethods table params last (method :: rest)).run (react openers given) s
      = (tryMethods table params (some e) rest).run (react openers given)
          ((s.after openers given place params).say given .warning
            ("audio: output method " ++ (table[place]?.map (·.name)).getD "" ++ " failed: " ++ e.message)) := by
  rw [Scene.attempt] at fails
  rw [tryMethods, found]
  simp only [Program.bind_eq, Program.ask_bind, Program.done_bind, Program.run, react, fails,
    Scene.after, Scene.attempt, Scene.say]

/-! ### The logs -/

theorem grown_say (s : Scene β ω) (given : Nat) (severity : Severity) (text : String) :
    s.book.Grown (s.say given severity text).book := .act (.log given ⟨severity, text⟩) .same

theorem level?_say (s : Scene β ω) (given h : Nat) (severity : Severity) (text : String) :
    (s.say given severity text).book.level? h = s.book.level? h := Book.level?_log ..

theorem grown_after (s : Scene β ω) (openers : Nat → Opener β ω) (given place : Nat) (params : OpenParams) :
    s.book.Grown (s.after openers given place params).book :=
  (Book.Grown.same.act (.fork given)).trans (Book.grown_foldl _ _)

/-- The log for the device is in a group of its own. -/
theorem apart_after (sound : s.book.Sound) (known : given < s.book.handles.length)
    (openers : Nat → Opener β ω) (place : Nat) (params : OpenParams) :
    Book.Apart s.book (s.after openers given place params).book s.book.handles.length :=
  (Book.apart_fork sound known).grown (Book.Grown.same.act _) (Book.grown_foldl _ _)

/-- When opening sets no level, the given log and that of the device are at the level at which the given one
    was. -/
theorem levels_after (sound : s.book.Sound) (known : given < s.book.handles.length)
    (keeps : KeepsLevels openers given) (place : Nat) (params : OpenParams) :
    (s.after openers given place params).book.level? given = s.book.level? given
      ∧ (s.after openers given place params).book.level? s.book.handles.length = s.book.level? given := by
  have inside := (Book.apart_fork sound known).1
  have kept := keeps place params s.book.handles.length (s.book.act (.fork given)) s.world (sound.act _) inside
  constructor
  · rw [Scene.after, Scene.attempt, kept given (.inl rfl)]
    apply Book.level?_act sound known
    exact fun _ _ same => Log.Action.noConfusion same
  · rw [Scene.after, Scene.attempt, kept _ (.inr rfl), Book.level?_fork sound known]

/-- What a run that tries methods comes to. -/
structure Came (openers : Nat → Opener β ω) (given : Nat) (table : List Entry) (params : OpenParams)
    (last : Option OpenError) (methods : List String) (s s' : Scene β ω)
    (result : Except (Option OpenError) (Opened β)) : Prop where
  tried : ∃ calls, s'.calls = s.calls ++ calls ∧ Tried table params last methods calls result
  grown : s.book.Grown s'.book
  apart : ∀ opened, result = .ok opened → Book.Apart s.book s'.book opened.deviceLog
  level : KeepsLevels openers given → ∀ opened, result = .ok opened →
    s'.book.level? opened.deviceLog = s.book.level? given

/-- What was done before the rest of the methods were tried comes before what comes of them. -/
theorem Came.before {s₁ : Scene β ω} {error : Option OpenError} {rest : List String} {front : List (Call β)}
    (further : Came openers given table params error rest s₁ s' result) (made : s₁.calls = s.calls ++ front)
    (grown : s.book.Grown s₁.book)
    (level : KeepsLevels openers given → s₁.book.level? given = s.book.level? given)
    (tried : ∀ calls, Tried table params error rest calls result →
      Tried table params last methods (front ++ calls) result) :
    Came openers given table params last methods s s' result where
  tried := by
    obtain ⟨calls, more, rest_tried⟩ := further.tried
    refine ⟨front ++ calls, ?_, tried calls rest_tried⟩
    rw [more, made, List.append_assoc]
  grown := grown.trans further.grown
  apart opened ok := (further.apart opened ok).of_grown grown
  level keeps opened ok := (further.level keeps opened ok).trans (level keeps)

/-- **Every run comes to an end**, and to what is told of it. -/
theorem came (openers : Nat → Opener β ω) (table : List Entry) (params : OpenParams) (last : Option OpenError)
    (methods : List String) (sound : s.book.Sound) (known : given < s.book.handles.length) :
    ∃ result s', (tryMethods table params last methods).run (react openers given) s = (.finished result, s')
      ∧ Came openers given table params last methods s s' result := by
  induction methods generalizing s last with
  | nil =>
    exact ⟨.error last, s, rfl, ⟨[], (List.append_nil _).symm, .exhausted⟩, .same, nofun, nofun⟩
  | cons method rest ih =>
    cases found : find? table method with
    | none =>
      have said := grown_say s given .warning ("audio: unknown output method '" ++ method ++ "'")
      obtain ⟨result, s', run, further⟩ :=
        ih (some (.unknownBackend method)) (said.sound sound) (Nat.lt_of_lt_of_le known said.length_le)
      refine ⟨result, s', (run_unknown found).trans run, further.before (List.append_nil _).symm said ?_ ?_⟩
      · exact fun _ => level?_say ..
      · exact fun calls tried => .unknown found tried
    | some place =>
      have after := grown_after s openers given place params
      cases outcome : (s.attempt openers given place params).outcome with
      | ok output =>
        have alone := apart_after sound known openers place params
        refine ⟨_, _, run_opened found outcome, ⟨_, ?_, .opened found⟩, after.trans (grown_say ..), ?_, ?_⟩
        · show s.calls ++ _ = _
          rw [outcome]
        · rintro _ ⟨⟩
          exact alone.grown after (grown_say ..)
        · rintro keeps _ ⟨⟩
          rw [level?_say]
          exact (levels_after sound known keeps place params).2
      | error e =>
        have said := after.trans (grown_say (s.after openers given place params) given .warning
          ("audio: output method " ++ (table[place]?.map (·.name)).getD "" ++ " failed: " ++ e.message))
        obtain ⟨result, s', run, further⟩ :=
          ih (some e) (said.sound sound) (Nat.lt_of_lt_of_le known said.length_le)
        have made : (s.after openers given place params).calls
            = s.calls ++ [⟨place, params, s.book.handles.length, .error e⟩] := by
          rw [← outcome]
          rfl
        refine ⟨result, s', (run_failed found outcome).trans run, further.before made said ?_ ?_⟩
        · intro keeps
          rw [level?_say]
          exact (levels_after sound known keeps place params).1
        · exact fun calls tried => .failed found tried

/-! ## Opening -/

/-- What is told when nothing opens: the error of a method that is the only one, or else all methods. -/
def Reports (table : List Entry) (methods : List String) (calls : List (Call β)) (e : OpenError) : Prop :=
  match methods with
  | [method] => (find? table method = none ∧ e = .unknownBackend method) ∨ ∃ c, calls = [c] ∧ c.outcome = .error e
  | _ => e = .noBackendAvailable (",".intercalate methods)

/-- The end of `openFirst`: it gives the output that opened, or the error that is told. -/
theorem run_openFirst {tries : Except (Option OpenError) (Opened β)} {calls : List (Call β)}
    (run : (tryMethods table params none methods).run (react openers given) s = (.finished tries, s'))
    (tried : Tried table params none methods calls tries) :
    ∃ result, (openFirst table methods params).run (react openers given) s = (.finished result, s')
      ∧ match result with
        | .ok opened => tries = .ok opened
        | .error e => (∃ last, tries = .error last) ∧ Reports table methods calls e := by
  rw [openFirst, Program.bind_eq, Program.run_bind, run]
  cases tries with
  | ok opened => exact ⟨.ok opened, rfl, rfl⟩
  | error last =>
    match methods with
    | [] =>
      cases tried
      exact ⟨_, rfl, ⟨_, rfl⟩, rfl⟩
    | [method] =>
      rcases tried.only with ⟨missing, rfl⟩ | ⟨c, own, rfl, outcome, rfl⟩
      · exact ⟨_, rfl, ⟨_, rfl⟩, .inl ⟨missing, rfl⟩⟩
      · exact ⟨_, rfl, ⟨_, rfl⟩, .inr ⟨c, rfl, outcome⟩⟩
    | _ :: _ :: _ => cases last <;> exact ⟨_, rfl, ⟨_, rfl⟩, rfl⟩

/-- **The first that opens is used.** For any table, methods and ways of opening, opening comes to an end. The
    entries that are tried are those that the methods name, in order, up to the first one that opens. The
    result is what that one opened, with a log in a group of its own, which is at the level of the given log
    if opening sets none, and can be set without being seen by any log there was before. If none opens, all
    were tried, and the result is the error of the only method or tells all methods. -/
theorem first_that_opens (openers : Nat → Opener β ω) (table : List Entry) (methods : List String)
    (params : OpenParams) {given : Nat} {book : Book} (world : ω) (sound : book.Sound)
    (known : given < book.handles.length) :
    (∀ method place, find? table method = some place ↔ Names table method place)
      ∧ ∃ result s, (openFirst table methods params).run (react openers given) { book, world } = (.finished result, s)
        ∧ s.calls.map (·.place) <+: methods.filterMap (find? table)
        ∧ (∀ c ∈ s.calls, c.params = params)
        ∧ (∀ c ∈ s.calls.dropLast, c.Failed)
        ∧ match result with
          | .ok opened =>
            (∃ c, s.calls.getLast? = some c ∧ c.outcome = .ok opened.output ∧ c.deviceLog = opened.deviceLog)
              ∧ (KeepsLevels openers given → s.book.level? opened.deviceLog = book.level? given)
              ∧ ∀ later : Book, s.book.Grown later → ∀ level,
                (later.act (.setLevel opened.deviceLog level)).level? opened.deviceLog = some level
                  ∧ ∀ h < book.handles.length,
                    (later.act (.setLevel opened.deviceLog level)).level? h = later.level? h
                      ∧ (∀ severity, (later.act (.setLevel opened.deviceLog level)).enabled h severity
                          = later.enabled h severity)
                      ∧ ∀ line, ((later.act (.setLevel opened.deviceLog level)).act (.log h line)).delivered
                          = (later.act (.log h line)).delivered
          | .error e =>
            s.calls.map (·.place) = methods.filterMap (find? table) ∧ (∀ c ∈ s.calls, c.Failed)
              ∧ Reports table methods s.calls e := by
  refine ⟨find?_eq_some_iff table, ?_⟩
  obtain ⟨tries, s, run, ⟨calls, made, tried⟩, grown, apart, level⟩ :=
    came openers table params none methods (s := { book, world }) sound known
  obtain ⟨result, run, tells⟩ := run_openFirst run tried
  obtain rfl : s.calls = calls := made
  refine ⟨result, s, run, tried.inOrder, tried.passes_params, tried.failed_before, ?_⟩
  cases result with
  | ok opened =>
    obtain rfl : tries = .ok opened := tells
    refine ⟨tried.last_opened, fun keeps => level keeps opened rfl, ?_⟩
    intro later more severity
    have alone := (apart opened rfl).grown grown more
    have healthy := more.sound (grown.sound sound)
    refine ⟨Book.level?_setLevel_group healthy alone.1 rfl severity, fun h old => ?_⟩
    have there := Nat.lt_of_lt_of_le old (grown.trans more).length_le
    exact Book.setLevel_elsewhere healthy there (alone.2 h old) severity
  | error e =>
    obtain ⟨⟨last, rfl⟩, reports⟩ := tells
    obtain ⟨every, failed⟩ := tried.all_failed
    exact ⟨every, failed, reports⟩

/-! ### Two outputs of which one opens -/

def twoEntries : List Entry := [⟨"unplugged", none⟩, ⟨"paced", none⟩]

/-- Only the second entry opens; both log a notice. -/
def onlySecond : Nat → Opener String Unit := fun place _ deviceLog _ _ =>
  { outcome := if place = 1 then .ok "paced output" else .error (.deviceUnavailable "unplugged")
    actions := [.log deviceLog ⟨.notice, "opening"⟩]
    world := () }

/-- One log, at warnings. -/
def warningBook : Book := Log.Book.act (Log.Book.act {} (.create .collect)) (.setLevel 0 .warning)

theorem sound_warningBook : warningBook.Sound :=
  (Log.Book.Grown.same.act (.create .collect)).act (.setLevel 0 .warning) |>.sound
    fun _ here => absurd here List.not_mem_nil

theorem keepsLevels_onlySecond : KeepsLevels onlySecond 0 := by
  intro place params deviceLog book world sound inside h same
  exact Log.Book.level?_log book deviceLog h _

/-- Of four methods the first is unknown, the second fails, the third opens and the last is not tried. The
    device's log begins at warnings and is set to debug without the given log. -/
theorem third_method_opens : warningBook.Sound ∧ 0 < warningBook.handles.length ∧ KeepsLevels onlySecond 0
    ∧ ∃ s, (openFirst twoEntries ["nowhere", " UNPLUGGED", "Paced\t", "unplugged"] {}).run (react onlySecond 0)
        ⟨warningBook, (), []⟩ = (.finished (.ok ⟨"paced output", 2⟩), s)
      ∧ s.calls.map (·.place) = [0, 1]
      ∧ s.book.level? 2 = some .warning
      ∧ (s.book.act (.setLevel 2 .debug)).level? 2 = some .debug
      ∧ (s.book.act (.setLevel 2 .debug)).level? 0 = s.book.level? 0 := by
  obtain ⟨-, result, s, run, -, -, -, tells⟩ :=
    first_that_opens onlySecond twoEntries ["nowhere", " UNPLUGGED", "Paced\t", "unplugged"] {} ()
      sound_warningBook (show 0 < warningBook.handles.length by decide)
  have ends : ((openFirst twoEntries ["nowhere", " UNPLUGGED", "Paced\t", "unplugged"] {}).run (react onlySecond 0)
      ⟨warningBook, (), []⟩).1 = .finished (.ok ⟨"paced output", 2⟩) := by decide +kernel
  have calls : ((openFirst twoEntries ["nowhere", " UNPLUGGED", "Paced\t", "unplugged"] {}).run (react onlySecond 0)
      ⟨warningBook, (), []⟩).2.calls.map (·.place) = [0, 1] := by decide +kernel
  rw [run] at ends calls
  cases ends
  obtain ⟨-, level, apart⟩ := tells
  have first := apart s.book .same .debug
  exact ⟨sound_warningBook, by decide, keepsLevels_onlySecond, s, run, calls, level keepsLevels_onlySecond, first.1,
    (first.2 0 (by decide)).1⟩

end Playout.Registry
