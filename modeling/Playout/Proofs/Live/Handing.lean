import Playout.Live.Output
import Playout.Proofs.Simple.Listening
import Playout.Proofs.Traces

/-!
# `Playout.Proofs.Live.Handing` — what a play hands over to a library

A play finds a stream for the format of its track in the slot, or opens one. It hands over one chunk after another until
all of them are handed over, a stop is seen or a chunk fails. Whoever takes the chunks one by one and reads each as
samples hears the track from its beginning.

## Contents
- `length_of_mem_dropLast`, `flatMap_ofBytes`, `ofBytes_prefix`, `ofBytes_toBytes` — bytes that are read piece by piece.
- `pieces`, `Given`, `Sourced` — the chunks of a trace, and the streams that it was given.
- `Reel`, `Reels`, `play_reels` — the protocol: which chunks are still due.
- `trackChunks`, `read_first_trackChunks`, `read_trackChunks` — the chunks of a track, read one by one.
- `Handed`, `Reels.handed`, `Reels.sourced` — what was handed over and what is due make up the track, and no other
  stream is used than one that was given for its format.
- `play_handed` — both together, for a play.
-/

namespace Playout

/-! ## Reading chunk by chunk -/

namespace Sample

/-- A chunk that is followed by another one is full. -/
theorem length_of_mem_dropLast {α : Type} {size : Nat} {items chunk : List α} {front rest : List (List α)}
    (positive : 0 < size) (cut : chunks size items = front ++ rest) (mem : chunk ∈ front.dropLast) :
    chunk.length = size := by
  obtain ⟨before, after, split⟩ := List.append_of_mem mem
  have nonempty : front ≠ [] := by
    rintro rfl
    cases mem
  have whole : front = before ++ chunk :: (after ++ [front.getLast nonempty]) := by
    rw [← List.cons_append, ← List.append_assoc, ← split]
    exact (List.dropLast_append_getLast nonempty).symm
  rw [whole] at cut
  have up : before.flatten.length = size * before.length := by
    refine length_flatten_of_chunks_eq positive (cut.trans (List.append_assoc ..)) ?_
    exact List.cons_ne_nil _ _
  have further : chunks size items = (before ++ [chunk]) ++ (after ++ front.getLast nonempty :: rest) := by
    rw [cut]
    simp
  have on : (before ++ [chunk]).flatten.length = size * (before ++ [chunk]).length :=
    length_flatten_of_chunks_eq positive further (by simp)
  rw [List.flatten_append, List.length_append, up, List.length_append] at on
  simp only [List.flatten_cons, List.flatten_nil, List.append_nil, List.length_cons, List.length_nil] at on
  rw [Nat.mul_add] at on
  omega

variable {order : ByteOrder} {bits : UInt16}

/-- Whole samples in every piece but the last are read piece by piece. -/
theorem ofWords_flatten {pieces : List (List UInt8)} (last : List UInt8) (even : ∀ piece ∈ pieces, 2 ∣ piece.length) :
    ofWords order (pieces.flatten ++ last) = pieces.flatMap (ofWords order) ++ ofWords order last := by
  induction pieces with
  | nil => rfl
  | cons piece pieces ih =>
    have later := ih fun piece mem => even piece (List.mem_cons_of_mem _ mem)
    rw [List.flatten_cons, List.append_assoc, ofWords_append _ _ (even piece List.mem_cons_self), later,
      List.flatMap_cons, List.append_assoc]

/-- Pieces of which only the last may end within a sample are read one by one. -/
theorem flatMap_ofBytes {pieces : List (List UInt8)} (even : ∀ piece ∈ pieces.dropLast, 2 ∣ piece.length) :
    (pieces.flatMap fun piece => ofBytes piece bits order) = ofBytes pieces.flatten bits order := by
  unfold ofBytes
  by_cases eight : bits = 8
  · simp only [eight, if_true]
    rw [List.map_flatten, List.flatMap_def]
  · simp only [eight, if_false]
    rcases List.eq_nil_or_concat pieces with rfl | ⟨front, last, rfl⟩
    · rfl
    · rw [List.concat_eq_append] at even ⊢
      rw [List.dropLast_concat] at even
      rw [List.flatten_append, List.flatten_singleton, ofWords_flatten last even, List.flatMap_append,
        List.flatMap_singleton]

/-- A first part of the bytes holds a first part of the samples. -/
theorem ofBytes_prefix {front whole : List UInt8} (first : front <+: whole) :
    ofBytes front bits order <+: ofBytes whole bits order := by
  unfold ofBytes
  split
  · exact first.map _
  · exact ofWords_prefix order first

/-- A sample of 8 bits is limited to a signed byte, and comes back as the highest byte of a sample of 16 bits. -/
theorem widen_eightByte (s : Int16) : widen (eightByte .signed s) = Int16.ofInt (256 * max (-128) (min s.toInt 127)) := by
  have limited : clampEight s = max (-128) (min s.toInt 127) := by
    unfold clampEight
    simp only
    split
    · omega
    · split <;> omega
  have kept : (UInt8.ofInt (clampEight s)).toInt8.toInt = clampEight s := by
    show (BitVec.ofNat 8 (clampEight s % 2 ^ 8).toNat).toInt = clampEight s
    rw [BitVec.toInt_eq_toNat_bmod, BitVec.toNat_ofNat, Int.bmod_def]
    omega
  unfold widen eightByte
  simp only
  rw [kept, limited]

/-- The samples that are read from the bytes of a track. -/
theorem ofBytes_toBytes (samples : List Int16) : ofBytes (toBytes samples bits order .signed) bits order =
    if bits = 8 then samples.map fun s => Int16.ofInt (256 * max (-128) (min s.toInt 127)) else samples := by
  unfold ofBytes toBytes
  split
  · rw [List.map_map]
    exact List.map_congr_left fun s _ => widen_eightByte s
  · exact ofWords_flatMap_wordBytes order samples

end Sample

namespace Live

open Interleaving Program

/-! ## Traces -/

/-- The chunk that a request hands over. -/
def piece? : (Σ r : Live.Request, Live.Request.Answer r) → Option (List UInt8)
  | ⟨.playChunk _ bytes, _⟩ => some bytes
  | _ => none

/-- The chunks that a trace has handed over. -/
def pieces (trace : Trace Live.Interface) : List (List UInt8) := trace.filterMap piece?

/-- A stream was found in the slot for a format, or opened for it. -/
def Given (format : Format) (h : Handle) (trace : Trace Live.Interface) : Prop :=
  ⟨.takeStream, some (format, h)⟩ ∈ trace ∨ ⟨.openStream format, .ok h⟩ ∈ trace

/-- The stream that a request uses, if it is one of a format, or keeps for the format it says. -/
def Request.uses? (format : Format) : Live.Request → Option (Format × Handle)
  | .playChunk h _ => some (format, h)
  | .putStream kept => kept
  | _ => none

/-- Every stream that a trace has used was given to it for the format. -/
def Sourced (format : Format) (trace : Trace Live.Interface) : Prop :=
  ∀ x ∈ trace, ∀ f h, x.1.uses? format = some (f, h) → f = format ∧ Given format h trace

section Traces

variable {format : Format} {trace : Trace Live.Interface} {r : Live.Request} {answer : Live.Request.Answer r} {h : Handle}

theorem pieces_snoc (trace : Trace Live.Interface) (x : Σ r : Live.Request, Live.Request.Answer r) :
    pieces (trace ++ [x]) = pieces trace ++ (piece? x).toList := filterMap_snoc ..

theorem Given.snoc (given : Given format h trace) (x : Σ r : Live.Request, Live.Request.Answer r) :
    Given format h (trace ++ [x]) :=
  given.imp (List.mem_append_left _) (List.mem_append_left _)

theorem Sourced.snoc (sourced : Sourced format trace)
    (uses : ∀ f h, r.uses? format = some (f, h) → f = format ∧ Given format h trace) :
    Sourced format (trace ++ [⟨r, answer⟩]) := by
  intro x mem f h used
  rcases List.mem_append.1 mem with before | now
  · obtain ⟨same, given⟩ := sourced x before f h used
    exact ⟨same, given.snoc _⟩
  · obtain rfl := List.mem_singleton.1 now
    obtain ⟨same, given⟩ := uses f h used
    exact ⟨same, given.snoc _⟩

end Traces

/-! ## The protocol -/

/-- Where a play stands with its chunks. -/
inductive Reel where
  /-- It has no stream. -/
  | bare
  /-- These chunks are still to be handed over. -/
  | due (h : Handle) (rest : List (List UInt8))
  /-- There was no stop, and the next chunk is handed over. -/
  | cleared (h : Handle) (chunk : List UInt8) (rest : List (List UInt8))
  | stopped (h : Handle)
  /-- A chunk has failed. -/
  | torn

/-- Where a play stands when it has looked into the slot. -/
def Reel.taken (format : Format) (chunks : List (List UInt8)) : Option (Format × Handle) → Reel
  | some (f, h) => if f = format then .due h chunks else .bare
  | none => .bare

/-- The stream that a play has. -/
def Reel.hand : Reel → Option Handle
  | due h _ | cleared h _ _ | stopped h => some h
  | _ => none

/-- A request that uses no stream and sees no stop. -/
def Request.aside : Live.Request → Bool
  | .log _ | .setStop _ | .releaseStream _ | .putStream none => true
  | _ => false

/-- How a request changes what is due. -/
inductive Reels (format : Format) (chunks : List (List UInt8)) :
    Reel → (r : Live.Request) → Live.Request.Answer r → Reel → Prop where
  | pass {x r answer} (aside : r.aside = true) : Reels format chunks x r answer x
  | took {found} : Reels format chunks .bare .takeStream found (.taken format chunks found)
  | opened {h} : Reels format chunks .bare (.openStream format) (.ok h) (.due h chunks)
  | refused {failure} : Reels format chunks .bare (.openStream format) (.error failure) .bare
  -- A chunk is handed over when a look has not seen a stop.
  | goOn {h chunk rest} : Reels format chunks (.due h (chunk :: rest)) .stopRequested false (.cleared h chunk rest)
  | halt {h rest} : Reels format chunks (.due h rest) .stopRequested true (.stopped h)
  | hand {h chunk rest} : Reels format chunks (.cleared h chunk rest) (.playChunk h chunk) (.ok ()) (.due h rest)
  | tear {h chunk rest failure} : Reels format chunks (.cleared h chunk rest) (.playChunk h chunk) (.error failure) .torn
  | keep {x h} (has : x.hand = some h) : Reels format chunks x (.putStream (some (format, h))) () x

/-- The protocol. -/
def reels (format : Format) (chunks : List (List UInt8)) : Moves Live.Interface Reel :=
  fun x r answer x' => Reels format chunks x r answer x'

section Programs

variable {α : Type} {format : Format} {chunks : List (List UInt8)} {x : Reel} {ends : Reel → α → Prop}

/-- A request that uses no stream and sees no stop. -/
theorem sets {r : Live.Request} {next : Live.Request.Answer r → Action α} (aside : r.aside = true)
    (rest : ∀ answer, (next answer).Follows (reels format chunks) ends x) :
    (Program.ask r next).Follows (reels format chunks) ends x :=
  Follows.stay (fun _ => .pass aside) rest

/-- There is a stream for the format now, or none could be opened. -/
def HasStream (chunks : List (List UInt8)) (x : Reel) : Except PlayError Handle → Prop
  | .ok h => x = .due h chunks
  | .error _ => True

/-- All chunks have been handed over, or a stop was seen, or a chunk has failed. -/
def Over (h : Handle) (x : Reel) : Except Failure Unit → Prop
  | .ok _ => x = .due h [] ∨ x = .stopped h
  | .error _ => True

/-- A new stream. -/
theorem streamFor_none_reels : (streamFor format none).Follows (reels format chunks) (HasStream chunks) .bare := by
  rintro (failure | h)
  · exact ⟨_, .refused, sets rfl fun _ => sets rfl fun _ => Follows.done trivial⟩
  · exact ⟨_, .opened, Follows.done rfl⟩

/-- What lies in the slot is used if it fits. -/
theorem streamFor_reels (current : Option (Format × Handle)) :
    (streamFor format current).Follows (reels format chunks) (HasStream chunks) (.taken format chunks current) := by
  rcases current with _ | ⟨f, h⟩
  · exact streamFor_none_reels
  · by_cases fits : f = format
    · simp only [streamFor, Reel.taken, if_pos fits]
      exact Follows.done rfl
    · simp only [streamFor, Reel.taken, if_neg fits]
      exact sets rfl fun _ => sets rfl fun _ => streamFor_none_reels

theorem writeChunks_reels (h : Handle) (rest : List (List UInt8)) :
    (writeChunks h rest).Follows (reels format chunks) (Over h) (.due h rest) := by
  induction rest with
  | nil => exact Follows.done (.inl rfl)
  | cons chunk rest ih =>
    rintro (_ | _)
    · refine ⟨_, .goOn, ?_⟩
      rintro (failure | _)
      · exact ⟨_, .tear, Follows.done trivial⟩
      · exact ⟨_, .hand, ih⟩
    · exact ⟨_, .halt, sets rfl fun _ => Follows.done (.inr rfl)⟩

end Programs

/-- The chunks of a track. -/
def trackChunks (track : Track) (order : ByteOrder) : List (List UInt8) :=
  Sample.chunks chunkLength (Sample.toBytes track.samples track.bits order .signed)

section Chunks

variable {track : Track} {order : ByteOrder} {read : List (List UInt8)}

/-- No chunk is empty, and none is longer than the library takes. -/
theorem length_of_mem_trackChunks {chunk : List UInt8} (mem : chunk ∈ trackChunks track order) :
    1 ≤ chunk.length ∧ chunk.length ≤ chunkLength :=
  ⟨List.length_pos_iff.2 (Sample.ne_nil_of_mem_chunks mem), Sample.length_le_of_mem_chunks (by decide) mem⟩

/-- Only the last chunk that was handed over may be shorter. -/
theorem length_of_first_trackChunks (first : read <+: trackChunks track order) {chunk : List UInt8}
    (mem : chunk ∈ read.dropLast) : chunk.length = chunkLength := by
  obtain ⟨rest, cut⟩ := first
  exact Sample.length_of_mem_dropLast (by decide) cut.symm mem

/-- **Chunks are read one by one**: no chunk ends within a sample, but the last one. -/
theorem flatMap_first_trackChunks (first : read <+: trackChunks track order) :
    (read.flatMap fun chunk => Sample.ofBytes chunk track.bits order) =
      Sample.ofBytes read.flatten track.bits order := by
  apply Sample.flatMap_ofBytes
  intro chunk mem
  rw [length_of_first_trackChunks first mem]
  decide

theorem flatten_trackChunks : (trackChunks track order).flatten =
    Sample.toBytes track.samples track.bits order .signed := Sample.flatten_chunks _ _

/-- The first chunks hold the first samples. -/
theorem read_first_trackChunks (first : read <+: trackChunks track order) :
    (read.flatMap fun chunk => Sample.ofBytes chunk track.bits order) <+:
      Sample.ofBytes (Sample.toBytes track.samples track.bits order .signed) track.bits order := by
  rw [flatMap_first_trackChunks first, ← flatten_trackChunks]
  obtain ⟨rest, cut⟩ := first
  refine Sample.ofBytes_prefix ⟨rest.flatten, ?_⟩
  rw [← List.flatten_append, cut]

/-- All chunks hold all samples. -/
theorem read_trackChunks : ((trackChunks track order).flatMap fun chunk => Sample.ofBytes chunk track.bits order) =
    Sample.ofBytes (Sample.toBytes track.samples track.bits order .signed) track.bits order := by
  rw [flatMap_first_trackChunks (List.prefix_refl _), flatten_trackChunks]

end Chunks

/-- A play that has ended well has handed over all chunks, or has seen a stop, unless there was nothing to play. -/
def PlayReels (track : Track) (x : Reel) (result : Except PlayError Unit) : Prop :=
  result = .ok () → track.isEmpty = false → ∃ h, x = .due h [] ∨ x = .stopped h

theorem playReels_error {track : Track} {x : Reel} {e : PlayError} : PlayReels track x (.error e) := by
  intro well
  cases well

theorem playBytes_reels (track : Track) (order : ByteOrder) :
    (playBytes track order).Follows (reels (.ofTrack track order) (trackChunks track order)) (PlayReels track) .bare := by
  intro current
  refine ⟨_, .took, ?_⟩
  simp only [done_bind]
  refine Follows.bind (streamFor_reels current) ?_
  rintro x (e | h) has
  · exact Follows.done playReels_error
  · obtain rfl := has
    refine sets rfl fun _ => ?_
    simp only [done_bind]
    refine Follows.bind (writeChunks_reels h _) ?_
    rintro x (failure | _) written
    · exact sets rfl fun _ => sets rfl fun _ => sets rfl fun _ => Follows.done playReels_error
    · have has : x.hand = some h := by
        rcases written with rfl | rfl <;> rfl
      exact fun _ => ⟨_, .keep has, Follows.done fun _ _ => ⟨h, written⟩⟩

/-- A play keeps to the protocol. -/
theorem play_reels (track : Track) (settings : PlaySettings) :
    (play track settings).Follows (reels (.ofTrack track settings.order) (trackChunks track settings.order))
      (PlayReels track) .bare := by
  refine sets rfl fun _ => ?_
  simp only [done_bind]
  split
  · next empty =>
    refine Follows.done fun _ some => ?_
    rw [empty] at some
    cases some
  · split
    · exact sets rfl fun _ => Follows.done playReels_error
    · exact playBytes_reels track settings.order

/-! ## What was handed over -/

/-- What has been handed over, by where the play stands. -/
def Handed (chunks : List (List UInt8)) (trace : Trace Live.Interface) : Reel → Prop
  | .bare => pieces trace = []
  | .due _ rest => pieces trace ++ rest = chunks
  | .cleared _ chunk rest => pieces trace ++ chunk :: rest = chunks
  | .stopped _ => ⟨.stopRequested, true⟩ ∈ trace ∧ pieces trace <+: chunks
  | .torn => pieces trace <+: chunks

section Handed

variable {format : Format} {chunks : List (List UInt8)} {trace : Trace Live.Interface} {r : Live.Request}
  {answer : Live.Request.Answer r} {h : Handle} {x x' : Reel}

theorem Handed.first (handed : Handed chunks trace x) : pieces trace <+: chunks := by
  cases x with
  | bare =>
    have none : pieces trace = [] := handed
    rw [none]
    exact List.nil_prefix
  | due _ rest => exact ⟨rest, handed⟩
  | cleared _ chunk rest => exact ⟨chunk :: rest, handed⟩
  | stopped => exact handed.2
  | torn => exact handed

theorem pieces_silent (silent : piece? ⟨r, answer⟩ = none) : pieces (trace ++ [⟨r, answer⟩]) = pieces trace :=
  filterMap_snoc_none silent trace

/-- A request that hands nothing over. -/
theorem Handed.same (handed : Handed chunks trace x) (silent : piece? ⟨r, answer⟩ = none) :
    Handed chunks (trace ++ [⟨r, answer⟩]) x := by
  cases x with
  | stopped =>
    refine ⟨List.mem_append_left _ handed.1, ?_⟩
    rw [pieces_silent silent]
    exact handed.2
  | _ =>
    unfold Handed
    rw [pieces_silent silent]
    exact handed

/-- With a stream, all chunks are due. -/
theorem handed_due (none : pieces trace = []) : Handed chunks trace (.due h chunks) := by
  show pieces trace ++ chunks = chunks
  rw [none, List.nil_append]

theorem piece?_aside (aside : r.aside = true) : piece? ⟨r, answer⟩ = none := by
  cases r with
  | playChunk => cases aside
  | _ => rfl

/-- **What was handed over and what is due make up the chunks of the track**, whatever a request does. -/
theorem Reels.handed (move : Reels format chunks x r answer x') (handed : Handed chunks trace x) :
    Handed chunks (trace ++ [⟨r, answer⟩]) x' := by
  cases move with
  | pass aside => exact handed.same (piece?_aside aside)
  | @took found =>
    have none : pieces (trace ++ [⟨.takeStream, found⟩]) = [] := (pieces_silent rfl).trans handed
    unfold Reel.taken
    split
    · split
      · exact handed_due none
      · exact none
    · exact none
  | opened => exact handed_due ((pieces_silent rfl).trans handed)
  | refused | keep => exact handed.same rfl
  | @goOn h chunk rest =>
    show pieces (trace ++ [⟨.stopRequested, false⟩]) ++ chunk :: rest = chunks
    rw [pieces_silent rfl]
    exact handed
  | @halt h rest =>
    refine ⟨List.mem_append_right _ List.mem_cons_self, ?_⟩
    rw [pieces_silent rfl]
    exact ⟨rest, handed⟩
  | @hand h chunk rest =>
    have due : pieces trace ++ chunk :: rest = chunks := handed
    show pieces (trace ++ [⟨.playChunk h chunk, .ok ()⟩]) ++ rest = chunks
    rw [pieces_snoc, ← due]
    exact List.append_assoc ..
  | @tear h chunk rest failure =>
    have due : pieces trace ++ chunk :: rest = chunks := handed
    show pieces (trace ++ [⟨.playChunk h chunk, .error failure⟩]) <+: chunks
    rw [pieces_snoc, ← due]
    exact ⟨rest, List.append_assoc ..⟩

/-- The stream that a play has was given to it for the format. -/
def Holds (format : Format) (trace : Trace Live.Interface) (x : Reel) : Prop :=
  ∀ h, x.hand = some h → Given format h trace

/-- **No other stream is used than one that was given for the format**, whatever a request does. -/
theorem Reels.sourced (move : Reels format chunks x r answer x') (holds : Holds format trace x)
    (sourced : Sourced format trace) :
    Holds format (trace ++ [⟨r, answer⟩]) x' ∧ Sourced format (trace ++ [⟨r, answer⟩]) := by
  have still (same : ∀ h, x'.hand = some h → x.hand = some h) : Holds format (trace ++ [⟨r, answer⟩]) x' :=
    fun h has => (holds h (same h has)).snoc _
  have unused (unused : r.uses? format = none) : Sourced format (trace ++ [⟨r, answer⟩]) := by
    refine sourced.snoc fun f h used => ?_
    rw [unused] at used
    cases used
  have uses {h : Handle} (has : x.hand = some h) (uses : r.uses? format = some (format, h)) :
      Sourced format (trace ++ [⟨r, answer⟩]) := by
    refine sourced.snoc fun f g used => ?_
    cases uses.symm.trans used
    exact ⟨rfl, holds _ has⟩
  cases move with
  | pass aside =>
    refine ⟨still fun _ has => has, unused ?_⟩
    rcases r with _ | _ | _ | _ | (_ | _) | _ | _ | _ <;> first | rfl | cases aside
  | @took found =>
    refine ⟨?_, unused rfl⟩
    intro h has
    unfold Reel.taken at has
    split at has
    · split at has
      · next fits =>
        cases has
        cases fits
        exact .inl (List.mem_append_right _ List.mem_cons_self)
      · cases has
    · cases has
  | opened =>
    refine ⟨?_, unused rfl⟩
    rintro _ ⟨⟩
    exact .inr (List.mem_append_right _ List.mem_cons_self)
  | refused => exact ⟨still fun _ has => has, unused rfl⟩
  | goOn | halt => exact ⟨still fun _ has => has, unused rfl⟩
  | hand => exact ⟨still fun _ has => has, uses rfl rfl⟩
  | tear =>
    refine ⟨?_, uses rfl rfl⟩
    rintro _ ⟨⟩
  | keep has => exact ⟨still fun _ has => has, uses has rfl⟩

end Handed

/-- **What a play hands over** is the chunks of its track from the first one on, over a stream that it was given for the
    format of the track, and no other stream is put back. A play that has ended well and has seen no stop has handed over
    all of them, unless the track holds no complete frame. -/
theorem play_handed {track : Track} {settings : PlaySettings} {trace : Trace Live.Interface}
    {p : Action (Except PlayError Unit)} (path : Path goesOn (play track settings) trace p) :
    pieces trace <+: trackChunks track settings.order ∧ Sourced (.ofTrack track settings.order) trace ∧
    (p = .done (.ok ()) → track.isEmpty = false → ⟨.stopRequested, true⟩ ∉ trace →
      pieces trace = trackChunks track settings.order) := by
  obtain ⟨x, along, ends⟩ := follows_goesOn path (play_reels track settings)
  have handed : Handed (trackChunks track settings.order) trace x :=
    along.keeps (fun trace x => Handed _ trace x) rfl fun handed move => move.handed handed
  have sourced : Holds (.ofTrack track settings.order) trace x ∧ Sourced (.ofTrack track settings.order) trace := by
    refine along.keeps (fun trace x => Holds (.ofTrack track settings.order) trace x ∧
      Sourced (.ofTrack track settings.order) trace) ⟨?_, List.forall_mem_nil _⟩ ?_
    · rintro _ ⟨⟩
    · rintro trace x r answer x' ⟨holds, sourced⟩ move
      exact move.sourced holds sourced
  refine ⟨handed.first, sourced.2, ?_⟩
  rintro rfl some unseen
  obtain ⟨h, rfl | rfl⟩ := ends rfl some
  · have all : pieces trace ++ [] = trackChunks track settings.order := handed
    rwa [List.append_nil] at all
  · exact absurd handed.1 unseen

/-- A play begins by taking the signal back. -/
theorem lowered_of_path {track : Track} {settings : PlaySettings} {trace : Trace Live.Interface}
    {p : Action (Except PlayError Unit)} (path : Path goesOn (play track settings) trace p) :
    trace = [] ∨ ∃ later, trace = ⟨.setStop false, ()⟩ :: later := by
  rcases goesOn_ask path with ⟨none, -⟩ | ⟨answer, later, parts, -⟩
  · exact .inl none
  · exact .inr ⟨later, parts⟩

end Live

end Playout
