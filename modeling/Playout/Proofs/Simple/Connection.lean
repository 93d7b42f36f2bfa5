import Playout.Proofs.Simple.Keeper
import Playout.Proofs.Simple.Listening
import Playout.Proofs.Transport.Books

/-!
# `Playout.Proofs.Simple.Connection` — each connection carries one stream

However plays, stops and closes follow each other, and whatever fails in between: what comes over a connection is a
header and then the tracks that were played on it, all in the format of the header, each from its beginning and up
to its end unless it was stopped or the connection failed.

## Contents
- `Opens` — the output has been opened.
- `Bears`, `OneStream` — what a piece of a stream is, and what a stream is.
- `leads_openOutput`, `opens_prepared` — opening leaves a connection in the slot over which its header has come.
- `bears_of_wants`, `fit_of_clean` — pieces are first parts of tracks, and end between two samples.

- `run_twoSamples` — a run in which a track is played on the connection of the opened output.

## Main statements
- `connection_carries_one_stream` — every connection carries one stream.
-/

namespace Playout.Simple

open Interleaving Transport

variable {T : Type} [DecidableEq T]

/-! ## Opening -/

/-- The output has been opened, which leaves the world as it is in `w`. -/
def Opens (T : Type) (c : Config) (w : World T SampleSpec) : Prop :=
  ∃ t : T, Leads (answers act t) (openOutput c) {} (.ok (output c)) w

omit [DecidableEq T] in
/-- Opening leaves one connection, over which its header has come. -/
theorem leads_openOutput {c : Config} {o : Output Simple.Interface} {t : T} {w : World T SampleSpec}
    (leads : Leads (answers act t) (openOutput c) {} (.ok o) w) :
    o = output c ∧
      ∃ h, w = World.deliver { opened := [h], live := [h], slot := some (.initial, h) } h (greeting c .initial) := by
  unfold openOutput connect at leads
  obtain ⟨outcome, w₁, dialled, leads⟩ := leads.asked
  cases outcome with
  | error failure =>
    obtain ⟨_, _, -, leads⟩ := leads.asked
    cases leads
  | ok h =>
    obtain ⟨outcome, w₂, greeted, leads⟩ := leads.asked
    cases outcome with
    | error failure =>
      obtain ⟨_, _, -, leads⟩ := leads.asked
      obtain ⟨_, _, -, leads⟩ := leads.asked
      cases leads
    | ok _ =>
      obtain ⟨_, w₃, taken, leads⟩ := leads.asked
      obtain ⟨_, w₄, put, leads⟩ := leads.asked
      cases leads
      cases dialled
      cases greeted
      cases taken
      cases put
      exact ⟨rfl, h, rfl⟩

omit [DecidableEq T] in
/-- The connection of a freshly opened output has announced its format, and nothing more. -/
theorem opens_prepared {c : Config} {w : World T SampleSpec} (opens : Opens T c w) :
    Prepared (design c).header w := by
  obtain ⟨t, leads⟩ := opens
  obtain ⟨-, h, rfl⟩ := leads_openOutput leads
  have header : ((design c).header .initial).getD [] = greeting c .initial := rfl
  refine ⟨rfl, ?_, ?_, ?_⟩
  · intro g
    simp [World.deliver, eq_comm]
  · intro spec g found
    cases found
    rw [header]
    simp [World.deliver, greeting]
  · intro g closed
    have other : g ≠ h := by
      rintro rfl
      exact closed List.mem_cons_self
    simp [World.deliver, other]

/-! ## Streams -/

/-- A call has seen a stop before it was over. -/
def Stopped (history : History T Simple.Interface (Except PlayError Unit)) (call : T × Nat) : Prop :=
  ⟨call, .look true⟩ ∈ journal act history

/-- The bytes in which a track is sent. -/
def sentBytes (track : Track) (settings : PlaySettings) : List UInt8 :=
  Sample.toBytes track.samples track.bits settings.order .unsigned

/-- A piece of a stream in the format `spec` is a first part of the track of its play, which is one of that format;
    and it is the whole track if the play has ended well without being stopped. -/
def Bears (commands : T → Nat → Command) (history : History T Simple.Interface (Except PlayError Unit))
    (spec : SampleSpec) (p : Piece T) : Prop :=
  ∃ track settings, commands p.call.1 p.call.2 = .play track settings ∧
    SampleSpec.ofTrack track settings.order = spec ∧
    p.bytes <+: sentBytes track settings ∧ spec.format.values p.bytes <+: track.values ∧
    (.returned p.call.1 p.call.2 (.ok ()) ∈ history → ¬ Stopped history p.call →
      p.bytes = sentBytes track settings ∧ spec.format.values p.bytes = track.values)

/-- What has come over a connection: its header, and one piece for each play on it, in order. A play whose write has
    failed is the last. However the stream is cut, a listener finds the header, and hears the pieces one by one. -/
structure OneStream (c : Config) (commands : T → Nat → Command) (given : List Handle)
    (history : History T Simple.Interface (Except PlayError Unit)) (h : Handle) (sent : List UInt8)
    (spec : SampleSpec) (pieces : List (Piece T)) : Prop where
  sent_eq : sent = encode spec (UInt32.ofNat c.minLength) ++ (pieces.map (·.bytes)).flatten
  plays_eq : pieces.map (·.call) = ((design c).ledger commands given history).plays h
  bears : ∀ p ∈ pieces, Bears commands history spec p
  last : ∀ call, ((design c).ledger commands given history).Fails h call →
    (pieces.map (·.call)).getLast? = some call
  heard : ∀ cut : List (List UInt8), cut.flatten = sent → ∃ target audio,
    listen cut = .hearing spec target audio ∧ target.toNat = c.minLength ∧
      spec.format.values audio = (pieces.map fun p => spec.format.values p.bytes).flatten

section Pieces

variable {c : Config} {commands : T → Nat → Command} {given : List Handle}
  {history : History T Simple.Interface (Except PlayError Unit)} {h : Handle} {sent : List UInt8}
  {spec : SampleSpec} {p : Piece T} {pieces : List (Piece T)}

omit [DecidableEq T] in
/-- A first part of the chunks of a play is a first part of its track. -/
theorem bears_of_wants {plan : Plan SampleSpec}
    (wants : ((design c).ledger commands given history).Wants p.call plan)
    (first : p.bytes <+: plan.chunks.flatten)
    (whole : .returned p.call.1 p.call.2 (.ok ()) ∈ history → ¬ Stopped history p.call →
      p.bytes = plan.chunks.flatten) : Bears commands history plan.spec p := by
  obtain ⟨track, settings, command, -, rfl⟩ := Design.errand_eq_play wants
  rw [Design.flatten_plan] at first whole
  have values : (SampleSpec.ofTrack track settings.order).format.values (sentBytes track settings) = track.values :=
    values_toBytes track settings.order
  refine ⟨track, settings, command, rfl, first, ?_, ?_⟩
  · show (SampleSpec.ofTrack track settings.order).format.values p.bytes <+: _
    rw [← values]
    exact values_prefix _ first
  · intro fine unstopped
    have all := whole fine unstopped
    refine ⟨all, ?_⟩
    rw [all]
    exact values

omit [DecidableEq T] in
theorem bears_of_clean (clean : Clean ((design c).ledger commands given history) spec p) :
    Bears commands history spec p := by
  obtain ⟨plan, done, rest, wants, rfl, chunks, bytes, reason⟩ := clean
  refine bears_of_wants wants ?_ ?_
  · rw [bytes, chunks, List.flatten_append]
    exact List.prefix_append _ _
  · intro _ unstopped
    rcases reason with rfl | stopped
    · rw [bytes, chunks, List.append_nil]
    · exact absurd stopped unstopped

omit [DecidableEq T] in
/-- A piece that ends between two chunks ends between two samples. -/
theorem fit_of_clean (clean : Clean ((design c).ledger commands given history) spec p) :
    spec.format.bytesPerSample ∣ p.bytes.length := by
  obtain ⟨plan, done, rest, wants, rfl, chunks, bytes, -⟩ := clean
  obtain ⟨track, settings, -, -, rfl⟩ := Design.errand_eq_play wants
  rw [bytes]
  by_cases all : rest = []
  · subst all
    rw [List.append_nil] at chunks
    rw [← chunks, Design.flatten_plan]
    exact bytesPerSample_dvd track settings.order
  · have length := Sample.length_flatten_of_chunks_eq (by decide) chunks all
    rw [length]
    refine Nat.dvd_trans ?_ (Nat.dvd_mul_right _ _)
    show SampleFormat.bytesPerSample _ ∣ 256
    cases ((design c).plan track settings).spec.format <;> decide

omit [DecidableEq T] in
/-- A stream whose pieces end between two samples, but for the last one perhaps. -/
theorem oneStream_of_carries {front back : List (Piece T)} (short : c.minLength < UInt32.size)
    (carries : Carries ((design c).ledger commands given history) spec h sent (front ++ back))
    (clean : ∀ p ∈ front, Clean ((design c).ledger commands given history) spec p)
    (one : back.length ≤ 1) (bears : ∀ p ∈ back, Bears commands history spec p)
    (last : ∀ call, ((design c).ledger commands given history).Fails h call →
      ((front ++ back).map (·.call)).getLast? = some call) :
    OneStream c commands given history h sent spec (front ++ back) where
  sent_eq := carries.sent_eq
  plays_eq := carries.plays_eq
  bears p mem := (List.mem_append.1 mem).elim (fun mem => bears_of_clean (clean p mem)) (bears p)
  last := last
  heard cut whole := by
    have sent_eq : sent = encode spec (UInt32.ofNat c.minLength) ++ ((front ++ back).map (·.bytes)).flatten :=
      carries.sent_eq
    refine ⟨_, _, listen_encode (whole.trans sent_eq), ?_, ?_⟩
    · rw [UInt32.toNat_ofNat', Nat.mod_eq_of_lt short]
    · have fit : ∀ piece ∈ front.map (·.bytes), spec.format.bytesPerSample ∣ piece.length := by
        intro piece mem
        obtain ⟨p, inFront, rfl⟩ := List.mem_map.1 mem
        exact fit_of_clean (clean p inFront)
      have flat := values_flatten spec.format (back.map (·.bytes)).flatten fit
      rw [List.map_append, List.flatten_append, flat, List.map_append, List.flatten_append, List.map_map]
      -- The last piece is heard by itself.
      match back, one with
      | [], _ => simp [Function.comp_def]
      | [p], _ => simp [Function.comp_def]

end Pieces

/-! ## Every connection -/

section Run

variable {c : Config} {commands : T → Nat → Command} {w : World T SampleSpec}
  {history : History T Simple.Interface (Except PlayError Unit)}
  {s : State (fun _ => Simple.Interface) (fun _ => Except PlayError Unit) (World T SampleSpec)}
  {h : Handle} {sent : List UInt8} {spec : SampleSpec}

omit [DecidableEq T] in
/-- A connection on which no write has failed is one stream. -/
theorem Healthy.oneStream (short : c.minLength < UInt32.size)
    (healthy : Healthy ((design c).ledger commands w.opened history) spec h sent) :
    ∃ pieces, OneStream c commands w.opened history h sent spec pieces := by
  obtain ⟨pieces, carries, clean, fine⟩ := healthy
  rw [← List.append_nil pieces] at carries
  exact ⟨_, oneStream_of_carries short carries clean (Nat.zero_le _) (fun _ no => absurd no List.not_mem_nil)
    fun call fails => absurd fails (fine call)⟩

/-- A connection on which a write has failed is one stream, and the play that failed is the last on it. -/
theorem Broken.oneStream (run : Run (calls (output c) commands) (answers act) w history s)
    (short : c.minLength < UInt32.size)
    (broken : Broken ((design c).ledger commands w.opened history) spec h sent) :
    ∃ pieces, OneStream c commands w.opened history h sent spec pieces := by
  obtain ⟨pieces, last, carries, clean, ⟨plan, wants, rfl, first, failed⟩, only⟩ := broken
  refine ⟨_, oneStream_of_carries short carries clean (Nat.le_refl _) ?_ ?_⟩
  · intro p mem
    obtain rfl := List.mem_singleton.1 mem
    refine bears_of_wants wants first ?_
    intro fine _
    exact absurd failed ((keeper c).fine_of_ok commands run fine h)
  · intro call fails
    rw [only call fails]
    simp

/-- A connection that a play is using is one stream, and the piece of that play is growing. -/
theorem Underway.oneStream {t : T} {plan : Plan SampleSpec} {rest : List (List UInt8)}
    (run : Run (calls (output c) commands) (answers act) w history s) (short : c.minLength < UInt32.size)
    (wants : ((design c).ledger commands w.opened history).Wants (t, (s.call t).number) plan)
    (underway : Underway ((design c).ledger commands w.opened history) (t, (s.call t).number) plan h sent rest) :
    ∃ pieces, OneStream c commands w.opened history h sent plan.spec pieces := by
  obtain ⟨pieces, done, chunks, carries, clean, fine⟩ := underway
  refine ⟨_, oneStream_of_carries short carries clean (Nat.le_refl _) ?_ fun call fails =>
    absurd fails (fine call)⟩
  intro p mem
  obtain rfl := List.mem_singleton.1 mem
  refine bears_of_wants wants ?_ ?_
  · rw [chunks, List.flatten_append]
    exact List.prefix_append _ _
  · -- The call is not over yet.
    intro returned _
    exact absurd returned ((keeper c).unreturned commands run t _)

end Run

/-- **Every connection carries one stream.** Let the output be opened, and let any number of threads play, stop and
    close in any order, with any outcome of what they ask. Then what has come over a connection is one stream, whose
    header announces the configured length, unless not even the header has come through. -/
theorem connection_carries_one_stream (c : Config) (commands : T → Nat → Command) {w : World T SampleSpec}
    (short : c.minLength < UInt32.size) (opens : Opens T c w)
    {history : History T Simple.Interface (Except PlayError Unit)}
    {s : State (fun _ => Simple.Interface) (fun _ => Except PlayError Unit) (World T SampleSpec)}
    (run : Run (calls (output c) commands) (answers act) w history s) (h : Handle)
    (opened : h ∈ s.shared.opened) :
    (∃ spec pieces, OneStream c commands w.opened history h (s.shared.sent h) spec pieces) ∨
      ¬ ((design c).ledger commands w.opened history).Established h ∧
        ∃ spec, s.shared.sent h <+: encode spec (UInt32.ofNat c.minLength) := by
  obtain ⟨φ, -, books⟩ := (keeper c).run_books commands (opens_prepared opens) run
  by_cases used : ∃ t, (φ t).phase.hand = some h
  · obtain ⟨t, uses⟩ := used
    have part := books.part t
    have errand := books.errand t
    -- The phase of the play that uses it says how far the connection has come.
    cases phase : (φ t).phase with
    | greeting g =>
      rw [phase] at uses part
      obtain rfl := Option.some.inj uses
      obtain ⟨plan, -, -, silent, nothing, -⟩ := part
      refine .inr ⟨silent, .initial, ?_⟩
      rw [nothing]
      exact List.nil_prefix
    | streaming g rest =>
      rw [phase] at uses part
      obtain rfl := Option.some.inj uses
      obtain ⟨plan, plays, -, underway⟩ := part
      exact .inl ⟨_, Underway.oneStream run short (errand.symm.trans plays) underway⟩
    | cleared g chunk rest =>
      rw [phase] at uses part
      obtain rfl := Option.some.inj uses
      obtain ⟨plan, plays, -, underway⟩ := part
      exact .inl ⟨_, Underway.oneStream run short (errand.symm.trans plays) underway⟩
    | leaving g =>
      rw [phase] at uses part
      obtain rfl := Option.some.inj uses
      obtain ⟨plan, -, -, healthy⟩ := part
      exact .inl ⟨_, Healthy.oneStream short healthy⟩
    | _ =>
      rw [phase] at uses
      cases uses
  · rcases books.settled h opened (not_exists.1 used) with ⟨spec, healthy | broken⟩ | mute
    · exact .inl ⟨spec, Healthy.oneStream short healthy⟩
    · exact .inl ⟨spec, Broken.oneStream run short broken⟩
    · obtain ⟨silent, call, plan, header, -, due, part, -⟩ := mute
      obtain rfl : greeting c plan.spec = header := Option.some.inj due
      exact .inr ⟨silent, plan.spec, part⟩

/-! ### One track -/

/-- An output whose server plays exactly in time. -/
def exactly : Config where
  server := ⟨.v4 127 0 0 1, 4711, 0⟩
  minLength := 100
  arithmetic := .exact

/-- A track in the format that a connection is opened with. -/
def twoSamples : Track := ⟨16, 1, 44100, [1, -2]⟩

/-- One thread plays the track again and again. -/
def playing (_ : Bool) (_ : Nat) : Command := .play twoSamples {}

/-- The world with one connection, over which a header has come. -/
def greeted : World Bool SampleSpec :=
  World.deliver { opened := [0], live := [0], slot := some (.initial, 0) } 0 (greeting exactly .initial)

theorem opens_greeted : Opens Bool exactly greeted := by
  refine ⟨true, ?_⟩
  refine .next (Except.ok 0 : Except Failure Handle) (.opened (h := 0) (List.not_mem_nil)) ?_
  refine .next (Except.ok () : Except Failure Unit) .wrote ?_
  refine .next none (.take rfl rfl) ?_
  exact .next () .put .done

/-- A first chunk within the target length is written as soon as the signal has been looked at. -/
theorem stream_short {c : Config} {h : Handle} {rate : Nat} {start : Seconds} {chunk : List UInt8}
    (few : chunk.length ≤ c.minLength) :
    stream c h rate start 0 [chunk] = .ask .clock fun _ => .ask .cancelled fun stopped =>
      if stopped then .done (.ok true)
      else (send h chunk).bind fun outcome =>
        match outcome with
        | .ok _ => stream c h rate start (0 + chunk.length) []
        | .error failure => .done (.error (failure.within "Failed to write audio data")) := by
  have within (played : Nat) : ¬ 0 < excess c 0 played chunk.length := by
    unfold excess
    omega
  unfold stream
  simp only [Program.bind_eq, Program.ask_bind, Program.done_bind, if_neg (within _), Program.pure_eq]
  rfl

/-- The track is one chunk, which the server has room for. -/
theorem stream_twoSamples (rate : Nat) (start : Seconds)
    (k : Except Failure Bool → Action (Except PlayError Unit)) :
    (stream exactly 0 rate start 0 (Sample.chunks chunkLength (sentBytes twoSamples {}))).bind k =
      .ask .clock fun _ => .ask .cancelled fun stopped =>
        (if stopped then .done (.ok true)
        else (send 0 (sentBytes twoSamples {})).bind fun outcome =>
          match outcome with
          | .ok _ => stream exactly 0 rate start 4 []
          | .error failure => .done (.error (failure.within "Failed to write audio data"))).bind k := by
  have chunks : Sample.chunks chunkLength (sentBytes twoSamples {}) = [sentBytes twoSamples {}] :=
    Sample.chunks_of_short (by decide) (by decide)
  rw [chunks, stream_short (by decide)]
  rfl

/-- The track goes over the connection in one chunk. -/
theorem run_twoSamples :
    ∃ history s, Run (calls (output exactly) playing) (answers act) greeted history s ∧
      .returned true 0 (.ok ()) ∈ history ∧ 0 ∈ s.shared.opened := by
  have run : Run (calls (output exactly) playing) (answers act) greeted [] _ := .start
  rw [pair_start] at run
  replace run := run.first rfl () .lower
  replace run := run.first rfl () .other
  replace run := run.first rfl _ (.take rfl rfl)
  replace run := run.first rfl () .other
  replace run := run.first rfl (0 : Seconds) .other
  replace run := run.first (stream_twoSamples _ _ _) (0 : Seconds) .other
  replace run := run.first rfl false (.look rfl)
  replace run := run.first rfl (Except.ok () : Except Failure Unit) .wrote
  replace run := run.first rfl (0 : Seconds) .other
  replace run := run.first rfl WaitOutcome.timedOut (.look rfl)
  replace run := run.first rfl () .put
  replace run := run.firstDone rfl
  exact ⟨_, _, run, List.mem_append_right _ List.mem_cons_self, List.mem_cons_self⟩

/-- The connection of the opened output is one stream after the track has been played on it. -/
theorem twoSamples_on_one_stream :
    ∃ history s, Run (calls (output exactly) playing) (answers act) greeted history s ∧
      .returned true 0 (.ok ()) ∈ history ∧
      ∃ spec pieces, OneStream exactly playing greeted.opened history 0 (s.shared.sent 0) spec pieces := by
  obtain ⟨history, s, run, returned, opened⟩ := run_twoSamples
  refine ⟨history, s, run, returned, ?_⟩
  have carried := connection_carries_one_stream exactly playing (by decide) opens_greeted run 0 opened
  refine carried.resolve_right ?_
  rintro ⟨silent, -⟩
  exact silent (.inl List.mem_cons_self)

end Playout.Simple
