import Mathlib.Data.List.Induction
import Playout.Proofs.Text.Decimal
import Playout.Settings

/-!
# `Playout.Proofs.Settings.Applying` — settings changed pair by pair

Settings are changed by pairs of a key and a value, of which any may be wrong. What a value means for a key
is told here by rules of its own: the word that clears, texts as they are, a number that is spelled within
32 bits, the name of a level. A pair that means nothing is refused and changes nothing; all others set the
value of their key and nothing else.

## Contents
- `Value`, `get` — the value of each key; `Means`, `Accepted` — what values mean.
- `apply_of_means`, `apply_of_meaningless`, `apply_of_unknown` — one pair; `apply_of_refused`,
  `apply_ok_iff` — the ones that are refused and the ones that are not.
- `after`, `afterAll` — some pairs, one after another; `Ends` — what they leave of each key.
- `after_comm` — pairs with different keys can be exchanged.
- `parseMinLength_openParams` — the length that the settings say is the one that is read.

## Main statement
`settings_follow_pairs` — all of that for every list of pairs.
-/

namespace Playout.Settings

/-! ## What values mean -/

/-- The value of a setting. -/
inductive Value where
  | text (text : String)
  | optional (text : Option String)
  | length (bytes : UInt32)
  | level (level : Severity)
  deriving DecidableEq, Repr

/-- The value of a key. -/
def get (s : Settings) : Key → Value
  | .outputMethod => .text s.audio.outputMethods
  | .card => .optional s.audio.card
  | .flowServer => .optional s.audio.flowServer
  | .simpleServer => .optional s.audio.simpleServer
  | .minLength => .length s.audio.minLength
  | .logLevel => .level s.audio.logLevel

/-- The settings that may have no value. -/
def optionalKeys : List Key := [.card, .flowServer, .simpleServer]

/-- What a text means for a key. -/
inductive Means : Key → String → Value → Prop
  | noMethods : Means .outputMethod cleared (.text "")
  | methods {value : String} : value ≠ cleared → Means .outputMethod value (.text value)
  | nothing {key : Key} : key ∈ optionalKeys → Means key cleared (.optional none)
  | something {key : Key} {value : String} : key ∈ optionalKeys → value ≠ cleared →
      Means key value (.optional (some value))
  | standardLength : Means .minLength cleared (.length 100)
  | length {value : String} {n : UInt32} : value ≠ cleared → Text.Spells (Text.trim value) n.toNat →
      Means .minLength value (.length n)
  | everything : Means .logLevel cleared (.level .debug)
  | level {value : String} {level : Severity} : value ≠ cleared →
      Text.lowerAscii (Text.trim value) = level.name → Means .logLevel value (.level level)

/-- A pair of the name of a key and a text that means something for it. -/
def Accepted (p : String × String) : Prop := ∃ key x, p.1 = key.name ∧ Means key p.2 x

theorem means_textSetting (value : String) : Means .outputMethod value (.text (textSetting value)) := by
  unfold textSetting
  split
  · next same => exact same ▸ .noMethods
  · next other => exact .methods other

theorem means_optionalSetting {key : Key} (optional : key ∈ optionalKeys) (value : String) :
    Means key value (.optional (optionalSetting value)) := by
  unfold optionalSetting
  split
  · next same => exact same ▸ .nothing optional
  · next other => exact .something optional other

theorem means_length_iff {value : String} {n : UInt32} :
    Means .minLength value (.length n) ↔ lengthSetting? value = some n := by
  unfold lengthSetting?
  constructor
  · intro means
    cases means with
    | standardLength => rfl
    | length other spells =>
      have read := Text.readBelow?_eq_some_iff.2 ⟨spells, n.toNat_lt⟩
      rw [if_neg other, show UInt32.size = 2 ^ 32 from rfl, read, Option.map_some, UInt32.ofNat_toNat]
  · intro reads
    split at reads
    · next same =>
      cases reads
      exact same ▸ .standardLength
    · next other =>
      obtain ⟨m, read, rfl⟩ := Option.map_eq_some_iff.1 reads
      obtain ⟨spells, below⟩ := Text.readBelow?_eq_some_iff.1 read
      refine .length other ?_
      rwa [UInt32.toNat_ofNat_of_lt' below]

theorem means_level_iff {value : String} {level : Severity} :
    Means .logLevel value (.level level) ↔ levelSetting? value = some level := by
  unfold levelSetting? Severity.parse Severity.normalize
  constructor
  · intro means
    cases means with
    | everything => rfl
    | level other named =>
      rw [if_neg other, named, Severity.ofName?_name]
      rfl
  · intro reads
    split at reads
    · next same =>
      cases reads
      exact same ▸ .everything
    · next other =>
      cases found : Severity.ofName? (Text.lowerAscii (Text.trim value)) with
      | none =>
        rw [found] at reads
        cases reads
      | some named =>
        rw [found] at reads
        cases reads
        exact .level other (Severity.name_of_ofName? found).symm

/-! ## One pair -/

variable {s t : Settings} {key : Key} {name value : String} {x : Value}

/-- A change sets the value of its key to what is meant, and nothing else. -/
theorem get_of_set? (changed : s.set? key value = some t) :
    Means key value (t.get key) ∧ (∀ other ≠ key, t.get other = s.get other) ∧ t.pacing = s.pacing := by
  refine ⟨?_, ?_, pacing_of_set? changed⟩
  · cases key with
    | outputMethod =>
      cases changed
      exact means_textSetting value
    | card | flowServer | simpleServer =>
      cases changed
      exact means_optionalSetting (by decide) value
    | minLength =>
      obtain ⟨n, reads, rfl⟩ := Option.map_eq_some_iff.1 changed
      exact means_length_iff.2 reads
    | logLevel =>
      obtain ⟨level, reads, rfl⟩ := Option.map_eq_some_iff.1 changed
      exact means_level_iff.2 reads
  · intro other apart
    cases key with
    | outputMethod | card | flowServer | simpleServer =>
      cases changed
      cases other <;> simp_all [get]
    | minLength | logLevel =>
      obtain ⟨_, -, rfl⟩ := Option.map_eq_some_iff.1 changed
      cases other <;> simp_all [get]

/-- What means something can be set. -/
theorem set?_of_means (s : Settings) (means : Means key value x) : ∃ t, s.set? key value = some t ∧ t.get key = x := by
  cases means with
  | noMethods | standardLength | everything => exact ⟨_, rfl, rfl⟩
  | methods other => exact ⟨_, rfl, by simp [get, textSetting, other]⟩
  | nothing optional =>
    simp only [optionalKeys, List.mem_cons, List.not_mem_nil, or_false] at optional
    rcases optional with rfl | rfl | rfl <;> exact ⟨_, rfl, rfl⟩
  | something optional other =>
    simp only [optionalKeys, List.mem_cons, List.not_mem_nil, or_false] at optional
    rcases optional with rfl | rfl | rfl <;> exact ⟨_, rfl, by simp [get, optionalSetting, other]⟩
  | length other spells =>
    have reads := means_length_iff.1 (.length other spells)
    exact ⟨_, by rw [set?, reads, Option.map_some], rfl⟩
  | level other named =>
    have reads := means_level_iff.1 (.level other named)
    exact ⟨_, by rw [set?, reads, Option.map_some], rfl⟩

theorem ofName?_eq_some_iff : Key.ofName? name = some key ↔ name = key.name := by
  constructor
  · intro found
    have named := List.find?_some found
    exact (of_decide_eq_true named).symm
  · rintro rfl
    exact Key.ofName?_name key

/-- A name is that of one key at most. -/
theorem name_injective {key other : Key} (same : key.name = other.name) : key = other := by
  have found := Key.ofName?_name key
  rw [same, Key.ofName?_name] at found
  exact (Option.some.inj found).symm

/-- A pair that means something sets its key, and nothing else. -/
theorem apply_of_means (s : Settings) (means : Means key value x) :
    ∃ t, s.apply key.name value = (.ok (), t) ∧ t.get key = x ∧ (∀ other ≠ key, t.get other = s.get other)
      ∧ t.pacing = s.pacing := by
  obtain ⟨t, changed, rfl⟩ := set?_of_means s means
  obtain ⟨-, others, pacing⟩ := get_of_set? changed
  refine ⟨t, ?_, rfl, others, pacing⟩
  rw [apply, Key.ofName?_name]
  simp only [changed]

/-- A value that means nothing for its key is refused, and the settings stay. -/
theorem apply_of_meaningless (s : Settings) (meaningless : ∀ x, ¬ Means key value x) :
    s.apply key.name value = (.error (.invalidValue key.name value), s) := by
  rw [apply, Key.ofName?_name]
  cases changed : s.set? key value with
  | none => simp only [changed]
  | some t => exact absurd (get_of_set? changed).1 (meaningless _)

/-- A name of no key is refused, and the settings stay. -/
theorem apply_of_unknown (s : Settings) (value : String) (unknown : ∀ key : Key, name ≠ key.name) :
    s.apply name value = (.error (.unknownKey name), s) := by
  cases found : Key.ofName? name with
  | none => rw [apply, found]
  | some key => exact absurd (ofName?_eq_some_iff.1 found) (unknown key)

variable {p q : String × String} {pairs : List (String × String)}

/-- A pair that means nothing is refused in one way or the other. -/
theorem apply_of_refused (s : Settings) (refused : ¬ Accepted p) : ∃ e, s.apply p.1 p.2 = (.error e, s) := by
  by_cases known : ∃ key : Key, p.1 = key.name
  · obtain ⟨key, named⟩ := known
    have meaningless : ∀ x, ¬ Means key p.2 x := fun x means => refused ⟨key, x, named, means⟩
    rw [named]
    exact ⟨_, apply_of_meaningless s meaningless⟩
  · have unknown : ∀ key : Key, p.1 ≠ key.name := fun key named => known ⟨key, named⟩
    exact ⟨_, apply_of_unknown s p.2 unknown⟩

theorem apply_ok_iff (s : Settings) (p : String × String) : (s.apply p.1 p.2).1 = .ok () ↔ Accepted p := by
  constructor
  · intro ok
    by_contra refused
    obtain ⟨e, outcome⟩ := apply_of_refused s refused
    rw [outcome] at ok
    cases ok
  · rintro ⟨key, x, named, means⟩
    obtain ⟨t, outcome, -⟩ := apply_of_means s means
    rw [named, outcome]

/-! ## Some pairs -/

/-- The settings after a pair was given. -/
def after (s : Settings) (p : String × String) : Settings := (s.apply p.1 p.2).2

/-- The settings after some pairs, one after another. -/
def afterAll (s : Settings) (pairs : List (String × String)) : Settings := pairs.foldl after s

theorem afterAll_append (s : Settings) (front back : List (String × String)) :
    s.afterAll (front ++ back) = (s.afterAll front).afterAll back := List.foldl_append ..

theorem after_of_refused (s : Settings) (refused : ¬ Accepted p) : s.after p = s := by
  obtain ⟨e, outcome⟩ := apply_of_refused s refused
  rw [after, outcome]

/-- A pair that is taken sets its key, and nothing else. -/
theorem after_of_means (s : Settings) (named : p.1 = key.name) (means : Means key p.2 x) :
    (s.after p).get key = x ∧ (∀ other ≠ key, (s.after p).get other = s.get other)
      ∧ (s.after p).pacing = s.pacing := by
  obtain ⟨t, outcome, taken⟩ := apply_of_means s means
  rw [after, named, outcome]
  exact taken

theorem get_after_of_means (s : Settings) (named : p.1 = key.name) (means : Means key p.2 x) :
    (s.after p).get key = x := (after_of_means s named means).1

/-- A pair that means nothing for a key leaves its value. -/
theorem get_after_of_other (s : Settings) (other : ∀ x, p.1 = key.name → ¬ Means key p.2 x) :
    (s.after p).get key = s.get key := by
  by_cases accepted : Accepted p
  · obtain ⟨k, x, named, means⟩ := accepted
    apply (after_of_means s named means).2.1
    rintro rfl
    exact other x named means
  · rw [after_of_refused s accepted]

theorem pacing_after (s : Settings) (p : String × String) : (s.after p).pacing = s.pacing := by
  by_cases accepted : Accepted p
  · obtain ⟨k, x, named, means⟩ := accepted
    exact (after_of_means s named means).2.2
  · rw [after_of_refused s accepted]

theorem pacing_afterAll (s : Settings) (pairs : List (String × String)) : (s.afterAll pairs).pacing = s.pacing := by
  induction pairs generalizing s with
  | nil => rfl
  | cons p pairs ih => exact (ih (s.after p)).trans (pacing_after s p)

/-- Settings are their values and the pacing. -/
theorem ext_get (values : ∀ key, s.get key = t.get key) (pacing : s.pacing = t.pacing) : s = t := by
  obtain ⟨⟨methods, card, flow, simple, length, level⟩, pacing⟩ := s
  obtain ⟨⟨methods', card', flow', simple', length', level'⟩, pacing'⟩ := t
  have first := values .outputMethod
  have second := values .card
  have third := values .flowServer
  have fourth := values .simpleServer
  have fifth := values .minLength
  have sixth := values .logLevel
  simp_all [get]

/-- Pairs with different keys can be exchanged. -/
theorem after_comm (s : Settings) (apart : p.1 ≠ q.1) : (s.after p).after q = (s.after q).after p := by
  apply ext_get
  · intro key
    by_cases first : ∃ x, p.1 = key.name ∧ Means key p.2 x
    · obtain ⟨x, named, means⟩ := first
      have other : ∀ y, q.1 = key.name → ¬ Means key q.2 y := fun _ same => absurd (named.trans same.symm) apart
      rw [get_after_of_other _ other, get_after_of_means s named means, get_after_of_means _ named means]
    · have noFirst : ∀ x, p.1 = key.name → ¬ Means key p.2 x := fun x named means => first ⟨x, named, means⟩
      rw [get_after_of_other (s.after q) noFirst]
      by_cases second : ∃ x, q.1 = key.name ∧ Means key q.2 x
      · obtain ⟨x, named, means⟩ := second
        rw [get_after_of_means _ named means, get_after_of_means _ named means]
      · have noSecond : ∀ x, q.1 = key.name → ¬ Means key q.2 x := fun x named means => second ⟨x, named, means⟩
        rw [get_after_of_other _ noSecond, get_after_of_other _ noFirst, get_after_of_other _ noSecond]
  · rw [pacing_after, pacing_after, pacing_after, pacing_after]

/-! ## What is left in the end -/

/-- The value of a key after some pairs: what the last pair that means something for it means, or else what
    it was. -/
inductive Ends (s : Settings) (pairs : List (String × String)) (key : Key) : Value → Prop
  | last {front back : List (String × String)} {value : String} {x : Value} :
      pairs = front ++ (key.name, value) :: back → Means key value x →
      (∀ later y, (key.name, later) ∈ back → ¬ Means key later y) → Ends s pairs key x
  | untouched : (∀ value y, (key.name, value) ∈ pairs → ¬ Means key value y) → Ends s pairs key (s.get key)

theorem get_afterAll_of_others (s : Settings)
    (others : ∀ value y, (key.name, value) ∈ pairs → ¬ Means key value y) :
    (s.afterAll pairs).get key = s.get key := by
  induction pairs generalizing s with
  | nil => rfl
  | cons p pairs ih =>
    have rest := ih (s.after p) fun value y mem => others value y (List.mem_cons_of_mem _ mem)
    refine rest.trans (get_after_of_other s ?_)
    intro x named
    apply others p.2 x
    rw [← named]
    exact List.mem_cons_self

theorem others_append {more : List (String × String)}
    (front : ∀ value y, (key.name, value) ∈ pairs → ¬ Means key value y)
    (back : ∀ value y, (key.name, value) ∈ more → ¬ Means key value y) :
    ∀ value y, (key.name, value) ∈ pairs ++ more → ¬ Means key value y := by
  intro value y mem
  rcases List.mem_append.1 mem with before | later
  · exact front value y before
  · exact back value y later

theorem get_of_ends (ends : Ends s pairs key x) : (s.afterAll pairs).get key = x := by
  cases ends with
  | @last front back value x split means none =>
    rw [split, afterAll_append]
    show (((s.afterAll front).after (key.name, value)).afterAll back).get key = x
    rw [get_afterAll_of_others _ none]
    exact get_after_of_means _ rfl means
  | untouched others => exact get_afterAll_of_others s others

/-- The pairs always leave some value. -/
theorem ends_get (s : Settings) (pairs : List (String × String)) (key : Key) :
    Ends s pairs key ((s.afterAll pairs).get key) := by
  induction pairs using List.reverseRecOn with
  | nil => exact .untouched fun _ _ mem => absurd mem List.not_mem_nil
  | append_singleton pairs p ih =>
    rw [afterAll_append]
    show Ends s (pairs ++ [p]) key (((s.afterAll pairs).after p).get key)
    by_cases means : ∃ x, p.1 = key.name ∧ Means key p.2 x
    · obtain ⟨x, named, means⟩ := means
      rw [get_after_of_means _ named means]
      have whole : pairs ++ [p] = pairs ++ [(key.name, p.2)] := by rw [← named]
      exact .last whole means fun _ _ mem => absurd mem List.not_mem_nil
    · have other : ∀ x, p.1 = key.name → ¬ Means key p.2 x := fun x named holds => means ⟨x, named, holds⟩
      have none : ∀ value y, (key.name, value) ∈ [p] → ¬ Means key value y := by
        intro value y mem
        obtain rfl := List.mem_singleton.1 mem
        exact other y rfl
      rw [get_after_of_other _ other]
      generalize (s.afterAll pairs).get key = x at ih
      cases ih with
      | @last front back value x split means later =>
        have whole : pairs ++ [p] = front ++ (key.name, value) :: (back ++ [p]) := by
          rw [split, List.append_assoc]
          rfl
        exact .last whole means (others_append later none)
      | untouched others => exact .untouched (others_append others none)

theorem get_afterAll_iff : (s.afterAll pairs).get key = x ↔ Ends s pairs key x := by
  constructor
  · rintro rfl
    exact ends_get s pairs key
  · exact get_of_ends

/-! ## What outputs read -/

/-- The length that is read is the one that was set; zero asks for the default. -/
theorem parseMinLength_openParams (s : Settings) :
    Simple.parseMinLength (s.openParams.get slotMinLength)
      = if s.audio.minLength = 0 then 100 else s.audio.minLength.toNat := by
  have below : s.audio.minLength.toNat < UInt64.size := by
    have := s.audio.minLength.toNat_lt
    show _ < 2 ^ 64
    omega
  have slot : s.openParams.get slotMinLength = some (toString s.audio.minLength.toNat) := rfl
  rw [slot, Simple.parseMinLength, Option.bind_some, Text.trim_toString, Text.readBelow?_toString below]
  by_cases zero : s.audio.minLength = 0
  · simp [zero, Option.filter, Simple.defaultMinLength]
  · have positive : 0 < s.audio.minLength.toNat := by
      apply Nat.pos_of_ne_zero
      intro none
      exact zero (UInt32.toNat_inj.1 none)
    simp [zero, Option.filter, positive]

/-- **Settings follow the pairs.** A pair is taken exactly when it means something, and is refused by its key or
    by its value otherwise; a refused pair leaves the settings as they are, and can be left out. After any pairs each
    key has the value that the last pair meant that meant something for it, or its first value; pairs with different
    keys can be exchanged; the pacing stays. An output finds in its slots what the settings say then. -/
theorem settings_follow_pairs (s : Settings) (pairs : List (String × String)) :
    (∀ p, (s.apply p.1 p.2).1 = .ok () ↔ Accepted p)
      ∧ (∀ (p : String × String) e, (s.apply p.1 p.2).1 = .error e → (s.apply p.1 p.2).2 = s)
      ∧ (∀ name value, (∀ key : Key, name ≠ key.name) → s.apply name value = (.error (.unknownKey name), s))
      ∧ (∀ (key : Key) value, (∀ x, ¬ Means key value x) →
          s.apply key.name value = (.error (.invalidValue key.name value), s))
      ∧ (∀ front p back, pairs = front ++ p :: back → ¬ Accepted p → s.afterAll pairs = s.afterAll (front ++ back))
      ∧ (∀ key x, (s.afterAll pairs).get key = x ↔ Ends s pairs key x)
      ∧ (∀ front p q back, pairs = front ++ p :: q :: back → p.1 ≠ q.1 →
          s.afterAll pairs = s.afterAll (front ++ q :: p :: back))
      ∧ (s.afterAll pairs).pacing = s.pacing
      ∧ (s.afterAll pairs).openParams.get slotCard = (s.afterAll pairs).audio.card
      ∧ (s.afterAll pairs).openParams.get slotFlowServer = (s.afterAll pairs).audio.flowServer
      ∧ (s.afterAll pairs).openParams.get slotSimpleServer = (s.afterAll pairs).audio.simpleServer
      ∧ (s.afterAll pairs).openParams.pacing = s.corrections
      ∧ Simple.parseMinLength ((s.afterAll pairs).openParams.get slotMinLength)
          = if (s.afterAll pairs).audio.minLength = 0 then 100 else (s.afterAll pairs).audio.minLength.toNat := by
  refine ⟨apply_ok_iff s, ?_, fun name value => apply_of_unknown s value,
    fun key value => apply_of_meaningless s, ?_, fun key x => get_afterAll_iff, ?_, pacing_afterAll s pairs, rfl,
    rfl, rfl, ?_, parseMinLength_openParams _⟩
  · intro p e failed
    apply after_of_refused
    intro accepted
    rw [(apply_ok_iff s p).2 accepted] at failed
    cases failed
  · rintro front p back rfl refused
    rw [afterAll_append, afterAll_append]
    show ((s.afterAll front).after p).afterAll back = _
    rw [after_of_refused _ refused]
  · rintro front p q back rfl apart
    rw [afterAll_append, afterAll_append]
    show (((s.afterAll front).after p).after q).afterAll back = (((s.afterAll front).after q).after p).afterAll back
    rw [after_comm _ apart]
  · show (s.afterAll pairs).corrections = s.corrections
    rw [corrections, corrections, pacing_afterAll]

/-! ### Four pairs, of which two are refused -/

def fourPairs : List (String × String) :=
  [("audio_pulse_min_length", " +0250 "), ("audio_log_level", "chatty"), ("audio_alsa_device", "NULL"),
    ("audio_oss_volume", "3")]

theorem chatty_meaningless (x : Value) : ¬ Means .logLevel "chatty" x := by
  intro means
  obtain ⟨t, changed, -⟩ := set?_of_means {} means
  have refused : ({} : Settings).set? .logLevel "chatty" = none := by decide +kernel
  rw [refused] at changed
  cases changed

theorem chatty_refused : ¬ Accepted ("audio_log_level", "chatty") := by
  rintro ⟨key, x, named, means⟩
  obtain rfl : Key.logLevel = key := name_injective named
  exact chatty_meaningless x means

/-- The length is read with its sign and blanks; the level that is none is refused and can be left out, and so
    is the key that is none; the others can be exchanged with their neighbours. -/
theorem two_pairs_taken :
    (∀ key : Key, "audio_oss_volume" ≠ key.name)
      ∧ ({} : Settings).apply "audio_oss_volume" "3" = (.error (.unknownKey "audio_oss_volume"), {})
      ∧ (∀ x, ¬ Means .logLevel "chatty" x)
      ∧ ({} : Settings).apply "audio_log_level" "chatty" = (.error (.invalidValue "audio_log_level" "chatty"), {})
      ∧ (({} : Settings).apply "audio_log_level" "chatty").2 = {}
      ∧ ¬ Accepted ("audio_log_level", "chatty")
      ∧ ({} : Settings).afterAll fourPairs = ({} : Settings).afterAll
          [("audio_pulse_min_length", " +0250 "), ("audio_alsa_device", "NULL"), ("audio_oss_volume", "3")]
      ∧ Ends {} fourPairs .minLength (.length 250)
      ∧ "audio_pulse_min_length" ≠ "audio_log_level"
      ∧ ({} : Settings).afterAll fourPairs = ({} : Settings).afterAll
          [("audio_log_level", "chatty"), ("audio_pulse_min_length", " +0250 "), ("audio_alsa_device", "NULL"),
            ("audio_oss_volume", "3")] := by
  obtain ⟨-, kept, unknown, meaningless, refused, ends, exchange, -⟩ := settings_follow_pairs {} fourPairs
  have noKey : ∀ key : Key, "audio_oss_volume" ≠ key.name := by
    intro key
    cases key <;> decide
  have chatty := meaningless .logLevel "chatty" chatty_meaningless
  exact ⟨noKey, unknown _ "3" noKey, chatty_meaningless, chatty,
    kept ("audio_log_level", "chatty") _ (congrArg Prod.fst chatty), chatty_refused,
    refused [_] _ [_, _] rfl chatty_refused, (ends .minLength _).1 (by decide +kernel), by decide,
    exchange [] _ _ [_, _] rfl (by decide)⟩

end Playout.Settings
