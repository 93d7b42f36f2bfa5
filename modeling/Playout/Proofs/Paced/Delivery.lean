import Playout.Proofs.Paced.Halting
import Playout.Proofs.Paced.Lodging
import Playout.Proofs.Paced.Parts

/-!
# `Playout.Proofs.Paced.Delivery` — what a device takes of a track

Each write hands some bytes over, of which the device may take only the first ones. What has been taken so far and what
is still due make up the whole track, as long as no write is taken as done that has failed.

## Contents
- `tries`, `taken` — the writes of a trace, and the bytes that the device has taken.
- `trackBytes` — the bytes of a track at a volume.
- `Stand`, `Deals`, `deals` — the protocol: what is still due.
- `play_deals`, `deals_follow` — the programs keep to it.
- `Held`, `Deals.held` — what is due and what has been taken.
-/

namespace Playout.Paced

open Interleaving Program

/-! ## What is taken -/

/-- A write, and how many bytes of it the device has taken, unless it failed. -/
abbrev Try := List UInt8 × Option Nat

/-- The write that a request is. -/
def attempt? : (Σ r : Paced.Request, Paced.Request.Answer r) → Option Try
  | ⟨.write bytes, some (.ok n)⟩ => some (bytes, some n)
  | ⟨.write bytes, _⟩ => some (bytes, none)
  | _ => none

/-- The writes of a trace. -/
def tries (trace : Trace Paced.Interface) : List Try := trace.filterMap attempt?

/-- The bytes that the device has taken in some writes: of each one the first so many. -/
def takenOf (tries : List Try) : List UInt8 := tries.flatMap fun x => x.1.take (x.2.getD 0)

/-- The bytes that the device has taken in a trace. -/
def taken (trace : Trace Paced.Interface) : List UInt8 := takenOf (tries trace)

/-- The device takes no more of a write than it is given. -/
def Modest (trace : Trace Paced.Interface) : Prop := ∀ bytes n, (bytes, some n) ∈ tries trace → n ≤ bytes.length

/-- The bytes of a track at a volume. -/
def trackBytes (t : Track) (settings : PlaySettings) : List UInt8 :=
  Sample.toBytes (Sample.scale t.samples settings.volume) t.bits .native .signed

section Tries

variable {r : Paced.Request} {answer : Paced.Request.Answer r} {trace : Trace Paced.Interface}

theorem tries_snoc (trace : Trace Paced.Interface) (x : Σ r : Paced.Request, Paced.Request.Answer r) :
    tries (trace ++ [x]) = tries trace ++ (attempt? x).toList := filterMap_snoc ..

@[simp] theorem takenOf_append (earlier later : List Try) :
    takenOf (earlier ++ later) = takenOf earlier ++ takenOf later := List.flatMap_append

@[simp] theorem takenOf_failed (bytes : List UInt8) : takenOf [(bytes, none)] = [] := by
  simp [takenOf]

@[simp] theorem takenOf_done (bytes : List UInt8) (n : Nat) : takenOf [(bytes, some n)] = bytes.take n := by
  simp [takenOf]

/-- A write that has failed is one. -/
theorem attempt?_failed {bytes : List UInt8} {answer : Paced.Request.Answer (.write bytes)}
    (failed : ∀ n, answer ≠ some (.ok n)) : attempt? ⟨.write bytes, answer⟩ = some (bytes, none) := by
  rcases answer with _ | failure | n
  · rfl
  · rfl
  · exact absurd rfl (failed n)

/-- A request that is no write adds none. -/
theorem tries_silent (silent : written? ⟨r, answer⟩ = none) : tries (trace ++ [⟨r, answer⟩]) = tries trace := by
  rw [tries_snoc]
  cases r with
  | write => cases silent
  | _ => exact List.append_nil _

theorem Modest.before {x : Σ r : Paced.Request, Paced.Request.Answer r} (modest : Modest (trace ++ [x])) :
    Modest trace := by
  intro bytes n mem
  refine modest bytes n ?_
  rw [tries_snoc]
  exact List.mem_append_left _ mem

end Tries

/-! ## The protocol -/

/-- Where a call stands with the bytes of its track. -/
inductive Stand where
  /-- Nothing is said of the call, or nothing more. -/
  | aside
  | entered (bytes : List UInt8)
  /-- All but `rest` has been taken, and this free space was told last. -/
  | due (s : Option BufferSpace) (rest : List UInt8)
  /-- The write of `chunk` has failed, and the signal tells whether that matters. -/
  | torn (s : Option BufferSpace) (chunk rest : List UInt8)
  /-- It does not matter, since a stop has been seen. -/
  | excused (s : Option BufferSpace) (chunk rest : List UInt8)
  /-- What comes behind it has been written all the same, and `k` bytes of it were taken. -/
  | jumped (chunk rest : List UInt8) (k : Nat)
  /-- A stop has been seen, and nothing more is written. -/
  | halted
  | failed

/-- Whether a stop has been seen. -/
def Stand.stopped : Stand → Bool
  | excused .. | jumped .. | halted => true
  | _ => false

/-- How a request changes what is due. -/
inductive Deals : Stand → (r : Paced.Request) → Paced.Request.Answer r → Stand → Prop where
  | aside {r answer} (other : touch r answer ≠ .lower) : Deals .aside r answer .aside
  | idle {x r answer} (idle : r.idle = true) : Deals x r answer x
  | enter {bytes} : Deals (.entered bytes) .resetSignal () (.due none bytes)
  | clear {s rest r answer} (looks : touch r answer = .look false) : Deals (.due s rest) r answer (.due s rest)
  | halt {s rest r answer} (looks : touch r answer = .look true) : Deals (.due s rest) r answer .halted
  | told {s s' rest} : Deals (.due s rest) .space (some (.ok s')) (.due (some s') rest)
  | lost {s rest answer} (failed : ∀ s, answer ≠ some (.ok s)) : Deals (.due s rest) .space answer .failed
  -- Of a chunk that goes out, what was not taken is still due.
  | put {s chunk rest n} :
      Deals (.due s (chunk ++ rest)) (.write chunk) (some (.ok n)) (.due s ((chunk ++ rest).drop n))
  | tore {s chunk rest answer} (nonempty : chunk ≠ []) (failed : ∀ n, answer ≠ some (.ok n)) :
      Deals (.due s (chunk ++ rest)) (.write chunk) answer (.torn s chunk rest)
  | failed {s chunk rest} : Deals (.torn s chunk rest) .cancelled false .failed
  | excused {s chunk rest} : Deals (.torn s chunk rest) .cancelled true (.excused s chunk rest)
  -- The tail behind a chunk that was never taken.
  | jump {s chunk rest k} (fits : tailFits s rest.length = true) :
      Deals (.excused (some s) chunk rest) (.write rest) (some (.ok k)) (.jumped chunk rest k)
  | toreTail {s chunk rest answer} (failed : ∀ n, answer ≠ some (.ok n)) :
      Deals (.excused s chunk rest) (.write rest) answer .halted
  -- A stop that has been seen is seen again.
  | again {x r answer} (stopped : x.stopped = true) (looks : touch r answer = .look true) : Deals x r answer x
  | unseen {x r answer} (stopped : x.stopped = true) (looks : touch r answer = .look false) :
      Deals x r answer .aside

/-- The protocol. -/
def deals : Moves Paced.Interface Stand := fun x r answer x' => Deals x r answer x'

/-- Where a call begins. -/
def Stand.enter : Transport.Command → Stand
  | .play track settings => .entered (trackBytes track settings)
  | .stop | .close => .aside

/-- Where a playback stands when it has not failed: all is taken, or a stop has been seen. -/
def Stand.ended (x : Stand) : Prop := (∃ s, x = .due s []) ∨ x.stopped = true ∨ x = .aside

/-- Where a call may end. -/
def Dealt (command : Transport.Command) (x : Stand) (result : Except PlayError Unit) : Prop :=
  result = .ok () → ∀ track settings, command = .play track settings → track.isEmpty = false → x.ended

/-! ## The programs -/

variable {α : Type} {c : Config} {h : Handle} {x : Stand} {ends : Stand → α → Prop}

/-- An idle request. -/
theorem idle_deals {r : Paced.Request} {next : Paced.Request.Answer r → Action α} (idle : r.idle = true)
    (rest : ∀ answer, (next answer).Follows deals ends x) : (Program.ask r next).Follows deals ends x :=
  Follows.stay (fun _ => .idle idle) rest

/-- A request of a call of which nothing is said. -/
theorem aside_deals {r : Paced.Request} {next : Paced.Request.Answer r → Action α}
    (other : ∀ answer, touch r answer ≠ .lower) (rest : ∀ answer, (next answer).Follows deals ends .aside) :
    (Program.ask r next).Follows deals ends .aside :=
  Follows.stay (fun answer => .aside (other answer)) rest

/-- A tail has at least one byte. -/
theorem ne_nil_of_tailFits {s : BufferSpace} {rest : List UInt8} (fits : tailFits s rest.length = true) :
    rest ≠ [] := by
  rintro rfl
  simp [tailFits] at fits

/-- What has been written of a chunk: it is done with, and what was not taken of it is due, or it has failed and a stop
    has been seen. -/
def Wrote (s : Option BufferSpace) (chunk rest : List UInt8) (x : Stand) (outcome : Except PlayError Nat) : Prop :=
  ∀ n, outcome = .ok n →
    x = .due s ((chunk ++ rest).drop n) ∨ n = chunk.length ∧ x = .excused s chunk rest

theorem writeChunk_deals {s : Option BufferSpace} {chunk : List UInt8} (rest : List UInt8) (nonempty : chunk ≠ []) :
    (writeChunk chunk).Follows deals (Wrote s chunk rest) (.due s (chunk ++ rest)) := by
  have doubted (failure : Failure) : (excuse chunk failure).Follows deals (Wrote s chunk rest) (.torn s chunk rest) := by
    rintro (_ | _)
    · exact ⟨_, .failed, idle_deals rfl fun _ => Follows.done nofun⟩
    · refine ⟨_, .excused, Follows.done ?_⟩
      rintro n ⟨⟩
      exact .inr ⟨rfl, rfl⟩
  rintro (_ | failure | n)
  · exact ⟨_, .tore nonempty nofun, doubted slotEmpty⟩
  · exact ⟨_, .tore nonempty nofun, doubted failure⟩
  · refine ⟨_, .put, ?_⟩
    cases n with
    | zero => exact Follows.done nofun
    | succ n =>
      refine Follows.done ?_
      rintro n ⟨⟩
      exact .inl rfl

/-- The tail behind a chunk that has failed. -/
theorem writeTail_deals {s : BufferSpace} {chunk rest : List UInt8} (fits : tailFits s rest.length = true) :
    (writeChunk rest).Follows deals (fun x outcome => outcome.isOk = true → x.stopped = true)
      (.excused (some s) chunk rest) := by
  have doubted (failure : Failure) : (excuse rest failure).Follows deals
      (fun x outcome => outcome.isOk = true → x.stopped = true) .halted := by
    rintro (_ | _)
    · exact ⟨_, .unseen rfl rfl, idle_deals rfl fun _ => Follows.done nofun⟩
    · exact ⟨_, .again rfl rfl, Follows.done fun _ => rfl⟩
  rintro (_ | failure | k)
  · exact ⟨_, .toreTail nofun, doubted slotEmpty⟩
  · exact ⟨_, .toreTail nofun, doubted failure⟩
  · refine ⟨_, .jump fits, ?_⟩
    cases k with
    | zero => exact Follows.done nofun
    | succ k => exact Follows.done fun _ => rfl

/-- Where a round ends: the next one has all before it that is due, or a stop has been seen. -/
def RoundDealt (x : Stand) : Round → Prop
  | .goOn p => (∃ s, x = .due s p.rest) ∨ x = .aside
  | .stopped => x.stopped = true ∨ x = .aside
  | .failed _ => True

theorem starve_deals {s : Option BufferSpace} (p : Progress) :
    (starve c p).Follows deals RoundDealt (.due s p.rest) := by
  have asleep (since : Seconds) : (starveSince c p since).Follows deals RoundDealt (.due s p.rest) := by
    refine idle_deals rfl fun moment => ?_
    simp only [done_bind]
    split
    · exact idle_deals rfl fun _ => idle_deals rfl fun _ => Follows.done trivial
    · exact idle_deals rfl fun _ => idle_deals rfl fun _ => Follows.done (.inl ⟨s, rfl⟩)
  unfold starve
  cases p.starvedSince with
  | some since => exact asleep since
  | none => exact idle_deals rfl asleep

/-- The wait at the end of a round. -/
theorem waitOut_deals {p : Progress} (text : String) (span : Seconds)
    (stands : (∃ s, x = .due s p.rest) ∨ x.stopped = true) :
    (waitOut text span p).Follows deals RoundDealt x := by
  refine idle_deals rfl fun _ => ?_
  rcases stands with ⟨s, rfl⟩ | stopped
  · rintro (_ | _)
    · exact ⟨_, .halt rfl, idle_deals rfl fun _ => Follows.done (.inl rfl)⟩
    · exact ⟨_, .clear rfl, Follows.done (.inl ⟨s, rfl⟩)⟩
  · rintro (_ | _)
    · exact ⟨_, .again stopped rfl, idle_deals rfl fun _ => Follows.done (.inl stopped)⟩
    · exact ⟨_, .unseen stopped rfl, Follows.done (.inr rfl)⟩

theorem fill_deals {s : BufferSpace} {p : Progress} (frameBytes rate : Nat) (free : s.isStarved = false)
    (nonempty : p.rest ≠ []) : (fill c frameBytes rate s p).Follows deals RoundDealt (.due (some s) p.rest) := by
  refine idle_deals rfl fun _ => ?_
  simp only [done_bind]
  have chunk : p.rest.take s.room ≠ [] := by
    rw [Ne, List.take_eq_nil_iff, not_or]
    exact ⟨Nat.ne_of_gt (room_pos free), nonempty⟩
  have main := writeChunk_deals (s := some s) (p.rest.drop s.room) chunk
  unfold Wrote at main
  rw [List.take_append_drop] at main
  refine Follows.bind main ?_
  rintro x (e | written) wrote
  · exact Follows.done trivial
  · rcases wrote written rfl with rfl | ⟨rfl, rfl⟩
    · -- What the device has not taken is due, and as a tail it may go out at once.
      dsimp only
      split
      · next fits =>
        refine idle_deals rfl fun _ => ?_
        simp only [done_bind]
        have tail : (writeChunk (p.rest.drop written)).Follows deals (Wrote (some s) (p.rest.drop written) [])
            (.due (some s) (p.rest.drop written ++ [])) := writeChunk_deals [] (ne_nil_of_tailFits fits)
        unfold Wrote at tail
        rw [List.append_nil] at tail
        refine Follows.bind tail ?_
        rintro x (e | extra) wrote
        · exact Follows.done trivial
        · refine waitOut_deals _ _ ?_
          rcases wrote extra rfl with rfl | ⟨-, rfl⟩
          · exact .inl ⟨some s, rfl⟩
          · exact .inr rfl
      · exact waitOut_deals _ _ (.inl ⟨some s, rfl⟩)
    · -- The chunk has failed and is taken as done; a tail behind it goes out all the same.
      have behind : p.rest.drop (p.rest.take s.room).length = p.rest.drop s.room := by
        rw [List.length_take, ← List.drop_eq_drop_min]
      dsimp only
      split
      · next fits =>
        refine idle_deals rfl fun _ => ?_
        simp only [done_bind]
        rw [behind] at fits ⊢
        refine Follows.bind (writeTail_deals fits) ?_
        rintro x (e | extra) stopped
        · exact Follows.done trivial
        · exact waitOut_deals _ _ (.inr (stopped rfl))
      · exact waitOut_deals _ _ (.inr rfl)

theorem round_deals {s : Option BufferSpace} {p : Progress} (frameBytes rate : Nat) (nonempty : p.rest ≠ []) :
    (round c frameBytes rate p).Follows deals RoundDealt (.due s p.rest) := by
  have lost (failure : Failure) : (queryFailed failure).Follows deals RoundDealt .failed :=
    idle_deals rfl fun _ => Follows.done trivial
  rintro (_ | _)
  · refine ⟨_, .clear rfl, ?_⟩
    rintro (_ | failure | s)
    · exact ⟨_, .lost nofun, lost slotEmpty⟩
    · exact ⟨_, .lost nofun, lost failure⟩
    · refine ⟨_, .told, ?_⟩
      simp only [Option.getD_some, done_bind]
      cases free : s.isStarved with
      | true => exact starve_deals p
      | false => exact fill_deals frameBytes rate free nonempty
  · exact ⟨_, .halt rfl, Follows.done (.inl rfl)⟩

theorem settle_deals {s : Option BufferSpace} (lead : Option Rat) :
    (settle c lead).Follows deals (fun x _ => x.ended) (.due s []) := by
  unfold settle
  cases lead with
  | none => exact Follows.done (.inl ⟨s, rfl⟩)
  | some lead =>
    dsimp only
    split
    · refine idle_deals rfl fun _ => ?_
      rintro (_ | _)
      · exact ⟨_, .halt rfl, Follows.done (.inr (.inl rfl))⟩
      · exact ⟨_, .clear rfl, Follows.done (.inl ⟨s, rfl⟩)⟩
    · exact Follows.done (.inl ⟨s, rfl⟩)

/-- A loop of which nothing is said any more. -/
theorem stream_aside (frameBytes rate rounds : Nat) (p : Progress) {ends : Stand → Except PlayError Bool → Prop}
    (ending : ∀ outcome, ends .aside outcome) : (stream c frameBytes rate rounds p).Follows deals ends .aside := by
  refine Asks.follows (stream_asks frameBytes rate rounds p) (fun {r} looping answer => .aside ?_) ending
  cases r with
  | resetSignal => cases looping
  | _ => nofun

/-- When the loop has not failed, all is taken, or a stop has been seen. -/
theorem stream_deals (frameBytes rate rounds : Nat) {s : Option BufferSpace} (p : Progress) :
    (stream c frameBytes rate rounds p).Follows deals (fun x outcome => outcome.isOk = true → x.ended)
      (.due s p.rest) := by
  induction rounds generalizing s p with
  | zero => trivial
  | succ rounds ih =>
    unfold stream
    split
    · next none =>
      rw [List.isEmpty_iff.1 none]
      exact Follows.bind (settle_deals p.lead) fun _ _ ended => Follows.done fun _ => ended
    · next nonempty =>
      refine Follows.bind (round_deals frameBytes rate (mt List.isEmpty_iff.2 nonempty)) ?_
      rintro x (p' | _ | e) dealt
      · rcases dealt with ⟨s, rfl⟩ | rfl
        · exact ih p'
        · exact stream_aside frameBytes rate rounds p' fun _ _ => .inr (.inr rfl)
      · exact Follows.done fun _ => .inr dealt
      · exact Follows.done fun ok => absurd ok Bool.false_ne_true

theorem playBytes_deals (bytes : List UInt8) (frameBytes rate : Nat) :
    (playBytes c h bytes frameBytes rate).Follows deals (fun x result => result = .ok () → x.ended)
      (.due none bytes) := by
  have playing : (playOut c bytes frameBytes rate).Follows deals (fun x result => result = .ok () → x.ended)
      (.due none bytes) := by
    refine Follows.bind (stream_deals frameBytes rate _ { rest := bytes }) ?_
    rintro x (e | stopped) ended
    · refine idle_deals rfl ?_
      rintro (_ | h)
      · exact Follows.done nofun
      · exact idle_deals rfl fun _ => idle_deals rfl fun _ => Follows.done nofun
    · have ended := ended rfl
      refine idle_deals rfl ?_
      rintro (_ | h)
      · exact Follows.done fun _ => ended
      · refine idle_deals rfl ?_
        rintro (failure | _)
        · exact idle_deals rfl fun _ => idle_deals rfl fun _ => idle_deals rfl fun _ => Follows.done fun _ => ended
        · exact idle_deals rfl fun _ => idle_deals rfl fun _ => Follows.done fun _ => ended
  refine idle_deals rfl ?_
  rintro (_ | other)
  · exact playing
  · exact idle_deals rfl fun _ => playing

/-- An idle request. -/
abbrev Idle (r : Paced.Request) : Prop := r.idle = true

theorem negotiate_asks (wanted : StreamParams) : (negotiate h wanted).Asks Idle := by
  refine ⟨rfl, ?_⟩
  rintro (failure | granted)
  · exact ⟨rfl, fun _ => trivial⟩
  · simp only [done_bind]
    split
    · exact ⟨rfl, fun _ => trivial⟩
    · split
      · exact ⟨rfl, fun _ => trivial⟩
      · split
        · exact ⟨rfl, fun _ => trivial⟩
        · trivial

theorem play_deals (track : Track) (settings : PlaySettings) : (play c track settings).Follows deals
    (Dealt (.play track settings)) (.entered (trackBytes track settings)) := by
  intro _
  refine ⟨_, .enter, ?_⟩
  simp only [done_bind]
  split
  · next empty =>
    refine Follows.done ?_
    rintro - _ _ ⟨⟩ some
    rw [empty] at some
    cases some
  · split
    · exact idle_deals rfl fun _ => Follows.done nofun
    · refine idle_deals rfl ?_
      rintro (failure | h)
      · exact idle_deals rfl fun _ => Follows.done nofun
      · simp only [done_bind]
        have agreed : (negotiate h (.ofTrack track)).Follows deals (fun x _ => x = .due none (trackBytes track settings))
            (.due none (trackBytes track settings)) :=
          Asks.follows (negotiate_asks (.ofTrack track)) (fun idle _ => .idle idle) fun _ => rfl
        refine Follows.bind agreed ?_
        rintro _ (e | granted) rfl
        · exact idle_deals rfl fun _ => Follows.done nofun
        · refine idle_deals rfl fun _ => ?_
          refine (playBytes_deals _ _ _).weaken fun x result ended ok _ _ _ _ => ended ok

/-- Every command keeps to the protocol. -/
theorem deals_follow (c : Config) (command : Transport.Command) :
    (command.program (output c)).Follows deals (Dealt command) (.enter command) := by
  cases command with
  | play track settings => exact play_deals track settings
  | stop =>
    refine aside_deals nofun fun _ => aside_deals nofun fun _ => aside_deals nofun ?_
    rintro (_ | failure | _)
    · exact Follows.done (fun _ _ _ no => nomatch no)
    · exact aside_deals nofun fun _ => Follows.done (fun _ _ _ no => nomatch no)
    · exact Follows.done (fun _ _ _ no => nomatch no)
  | close =>
    refine aside_deals nofun fun _ => aside_deals nofun ?_
    rintro (_ | h)
    · exact Follows.done (fun _ _ _ no => nomatch no)
    · exact aside_deals nofun fun _ => Follows.done (fun _ _ _ no => nomatch no)

/-! ## What is due and what has been taken -/

/-- None of some writes has failed. -/
def Whole (tries : List Try) : Prop := ∀ x ∈ tries, x.2 ≠ none

/-- Behind writes none of which has failed, `chunk` and `rest` are what is left of the bytes. -/
structure Gap (bytes : List UInt8) (earlier : List Try) (chunk rest : List UInt8) : Prop where
  whole : Whole earlier
  split : takenOf earlier ++ (chunk ++ rest) = bytes
  nonempty : chunk ≠ []

/-- A first part of the bytes has been taken, and none has been after a write that failed. -/
structure InOrder (bytes : List UInt8) (tries : List Try) : Prop where
  first : takenOf tries <+: bytes
  last : Whole tries ∨ ∃ earlier chunk, tries = earlier ++ [(chunk, none)]

/-- What has been taken and told, by where the call stands. -/
def Held (bytes : List UInt8) (trace : Trace Paced.Interface) : Stand → Prop
  | .aside => False
  | .entered due => due = bytes ∧ tries trace = [] ∧ lastSpace trace = none
  | .due s rest => Whole (tries trace) ∧ taken trace ++ rest = bytes ∧ lastSpace trace = s
  | .torn s chunk rest =>
    ∃ earlier, tries trace = earlier ++ [(chunk, none)] ∧ Gap bytes earlier chunk rest ∧ lastSpace trace = s
  | .excused s chunk rest => Found touch trace ∧
    ∃ earlier, tries trace = earlier ++ [(chunk, none)] ∧ Gap bytes earlier chunk rest ∧ lastSpace trace = s
  | .jumped chunk rest k => Found touch trace ∧ ∃ earlier s, tries trace = earlier ++ [(chunk, none), (rest, some k)] ∧
    Gap bytes earlier chunk rest ∧ lastSpace trace = some s ∧ tailFits s rest.length = true
  | .halted => Found touch trace ∧ InOrder bytes (tries trace)
  | .failed => InOrder bytes (tries trace)

section Held

variable {bytes : List UInt8} {trace : Trace Paced.Interface} {r : Paced.Request} {answer : Paced.Request.Answer r}
  {x x' : Stand}

theorem whole_snoc {earlier : List Try} {chunk : List UInt8} {n : Nat} (whole : Whole earlier) :
    Whole (earlier ++ [(chunk, some n)]) := by
  intro y mem
  rcases List.mem_append.1 mem with mem | mem
  · exact whole y mem
  · obtain rfl := List.mem_singleton.1 mem
    exact nofun

/-- A stop has been seen wherever the protocol says so. -/
theorem Held.found (held : Held bytes trace x) (stopped : x.stopped = true) : Found touch trace := by
  cases x with
  | excused | jumped | halted => exact held.1
  | _ => cases stopped

/-- A request that neither writes nor is told of free space. -/
theorem Held.same (held : Held bytes trace x) (silent : written? ⟨r, answer⟩ = none) (untold : told? ⟨r, answer⟩ = none) :
    Held bytes (trace ++ [⟨r, answer⟩]) x := by
  have same : tries (trace ++ [⟨r, answer⟩]) = tries trace := tries_silent silent
  have space := lastSpace_snoc trace untold
  cases x with
  | aside => exact held
  | excused | jumped | halted =>
    simp only [Held, same, space] at held ⊢
    exact ⟨Found.snoc held.1 _, held.2⟩
  | _ =>
    simp only [Held, taken, same, space] at held ⊢
    exact held

/-- A look is no write and tells of no free space. -/
theorem look_nothing {stopped : Bool} (looks : touch r answer = .look stopped) :
    written? ⟨r, answer⟩ = none ∧ told? ⟨r, answer⟩ = none := by
  cases r with
  | write | space => cases looks
  | _ => exact ⟨rfl, rfl⟩

/-- What is due is due in order. -/
theorem Held.inOrder {s : Option BufferSpace} {rest : List UInt8} (held : Held bytes trace (.due s rest)) :
    InOrder bytes (tries trace) := ⟨⟨rest, held.2.1⟩, .inl held.1⟩

/-- What is left when a write has failed is in order. -/
theorem Gap.inOrder {earlier : List Try} {chunk rest : List UInt8} (gap : Gap bytes earlier chunk rest) :
    InOrder bytes (earlier ++ [(chunk, none)]) where
  first := by
    rw [takenOf_append, takenOf_failed, List.append_nil]
    exact ⟨_, gap.split⟩
  last := .inr ⟨earlier, chunk, rfl⟩

/-- **What is due and what has been taken make up the whole**, whatever a request does. -/
theorem Deals.held (move : Deals x r answer x') (held : Held bytes trace x)
    (modest : Modest (trace ++ [⟨r, answer⟩])) (sticky : Sticky touch (trace ++ [⟨r, answer⟩])) :
    Held bytes (trace ++ [⟨r, answer⟩]) x' := by
  have looked {stopped : Bool} (looks : touch r answer = .look stopped) :=
    held.same (look_nothing looks).1 (look_nothing looks).2
  cases move with
  | aside => exact held
  | idle idle => exact held.same (idle_nothing idle).1 (idle_nothing idle).2
  | enter =>
    obtain ⟨rfl, silent, untold⟩ := held
    have silent' : tries (trace ++ [⟨.resetSignal, ()⟩]) = [] := (tries_silent rfl).trans silent
    have untold' : lastSpace (trace ++ [⟨.resetSignal, ()⟩]) = none := (lastSpace_snoc trace rfl).trans untold
    refine ⟨?_, ?_, untold'⟩
    · rw [silent']
      exact nofun
    · unfold taken
      rw [silent']
      rfl
  | clear looks => exact looked looks
  | halt looks => exact ⟨found_snoc.2 (.inr looks), (looked looks).inOrder⟩
  | told =>
    obtain ⟨whole, split, -⟩ := held
    refine ⟨?_, ?_, ?_⟩
    · rw [tries_silent rfl]
      exact whole
    · unfold taken
      rw [tries_silent rfl]
      exact split
    · simp [lastSpace, spaces_snoc, told?]
  | lost =>
    show InOrder bytes _
    rw [tries_silent rfl]
    exact held.inOrder
  | @put s chunk rest n =>
    obtain ⟨whole, split, space⟩ := held
    have tried : tries (trace ++ [⟨.write chunk, some (.ok n)⟩]) = tries trace ++ [(chunk, some n)] := tries_snoc ..
    have few : n ≤ chunk.length := modest chunk n (by rw [tried]; simp)
    refine ⟨?_, ?_, (lastSpace_snoc trace rfl).trans space⟩
    · rw [tried]
      exact whole_snoc whole
    · -- What was taken of the chunk and what was not are the chunk.
      unfold taken at split ⊢
      rw [tried, takenOf_append, takenOf_done, List.drop_append_of_le_length few, List.append_assoc,
        ← List.append_assoc (chunk.take n), List.take_append_drop]
      exact split
  | @tore s chunk rest answer nonempty failed =>
    obtain ⟨whole, split, space⟩ := held
    refine ⟨tries trace, ?_, ⟨whole, split, nonempty⟩, (lastSpace_snoc trace rfl).trans space⟩
    rw [tries_snoc, attempt?_failed failed]
    rfl
  | failed =>
    obtain ⟨earlier, tried, gap, -⟩ := held
    show InOrder bytes _
    rw [tries_silent rfl, tried]
    exact gap.inOrder
  | excused =>
    obtain ⟨earlier, tried, gap, space⟩ := held
    refine ⟨found_snoc.2 (.inr rfl), earlier, ?_, gap, (lastSpace_snoc trace rfl).trans space⟩
    rw [tries_silent rfl, tried]
  | @jump s chunk rest k fits =>
    obtain ⟨found, earlier, tried, gap, space⟩ := held
    refine ⟨Found.snoc found _, earlier, s, ?_, gap, (lastSpace_snoc trace rfl).trans space, fits⟩
    have last : tries (trace ++ [⟨.write rest, some (.ok k)⟩]) = tries trace ++ [(rest, some k)] := tries_snoc ..
    rw [last, tried, List.append_assoc]
    rfl
  | @toreTail s chunk rest answer failed =>
    obtain ⟨found, earlier, tried, gap, -⟩ := held
    have last : tries (trace ++ [⟨.write rest, answer⟩]) = tries trace ++ [(rest, none)] := by
      rw [tries_snoc, attempt?_failed failed]
      rfl
    refine ⟨Found.snoc found _, ?_, .inr ⟨_, rest, last⟩⟩
    rw [last, takenOf_append, takenOf_failed, List.append_nil, tried]
    exact gap.inOrder.first
  | again stopped looks => exact looked looks
  | unseen stopped looks => exact absurd looks ((sticky_snoc.1 sticky).2 (held.found stopped))

end Held

end Playout.Paced
