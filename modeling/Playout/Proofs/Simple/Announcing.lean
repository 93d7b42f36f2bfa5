import Playout.Proofs.Simple.Connection

/-!
# `Playout.Proofs.Simple.Announcing` — the target length that servers are told

The target length is a natural number to the sender, which may be as long as 64 bits, and 32 bits of the header. So it is
told as it is if it is short enough, and else without its upper bits.

## Contents
- `Headed`, `Books.headed` — every stream begins with a header, as far as it has come.
- `decode_of_headed` — what is read from a connection.
- `opens_of_openFor` — what is opened for some parameters.
- `leads_asking` — outputs that are opened for a length.

## Main statements
- `told_iff_short` — all servers are told the length that the sender keeps to, if and only if it is short enough.
- `told_nothing` — a server may be told that it shall buffer nothing.
-/

namespace Playout

open Interleaving

/-! ## How streams begin -/

namespace Transport

variable {T Spec : Type} [DecidableEq Spec] {l : Ledger T Spec} {w : World T Spec} {number : T → Nat}
  {φ : T → Stage Spec} {h : Handle}

/-- A stream that carries anything begins with a header. -/
theorem Carries.headed {spec : Spec} {sent : List UInt8} {pieces : List (Piece T)} (carries : Carries l spec h sent pieces) :
    (l.header spec).getD [] <+: sent := by
  rw [carries.sent_eq]
  exact List.prefix_append _ _

/-- What has come over a stream begins with a header; or nothing but a part of a header has come. -/
def Headed (l : Ledger T Spec) (h : Handle) (sent : List UInt8) : Prop :=
  ∃ spec, (l.header spec).getD [] <+: sent ∨ ¬ l.Established h ∧ sent <+: (l.header spec).getD []

theorem Settled.headed {sent : List UInt8} (settled : Settled l h sent) : Headed l h sent := by
  rcases settled with ⟨spec, ⟨pieces, carries, -⟩ | ⟨pieces, last, carries, -⟩⟩ | mute
  · exact ⟨spec, .inl carries.headed⟩
  · exact ⟨spec, .inl carries.headed⟩
  · obtain ⟨silent, call, plan, header, -, due, first, -⟩ := mute
    refine ⟨plan.spec, .inr ⟨silent, ?_⟩⟩
    rw [due]
    exact first

/-- The stream that a play is using begins like all others. -/
theorem Part.headed {call : T × Nat} {errand : Errand Spec} {phase : Phase Spec} (part : Part l w call errand phase)
    (uses : phase.hand = some h) : Headed l h (w.sent h) := by
  cases phase with
  | greeting g =>
    obtain rfl := Option.some.inj uses
    obtain ⟨plan, -, -, silent, nothing, -⟩ := part
    refine ⟨plan.spec, .inr ⟨silent, ?_⟩⟩
    rw [nothing]
    exact List.nil_prefix
  | streaming g rest | cleared g chunk rest =>
    obtain rfl := Option.some.inj uses
    obtain ⟨plan, -, -, pieces, done, -, carries, -⟩ := part
    exact ⟨plan.spec, .inl carries.headed⟩
  | leaving g =>
    obtain rfl := Option.some.inj uses
    obtain ⟨plan, -, -, pieces, carries, -⟩ := part
    exact ⟨plan.spec, .inl carries.headed⟩
  | _ => cases uses

/-- **Every stream begins with a header**, as far as it has come. -/
theorem Books.headed (books : Books l w number φ) (opened : h ∈ w.opened) : Headed l h (w.sent h) := by
  by_cases used : ∃ t, (φ t).phase.hand = some h
  · obtain ⟨t, uses⟩ := used
    exact (books.part t).headed uses
  · exact (books.settled h opened (not_exists.1 used)).headed

/-- A stream over which something has come has been opened. -/
theorem Books.opened_of_established (books : Books l w number φ) (established : l.Established h) : h ∈ w.opened := by
  by_contra closed
  obtain ⟨-, silent, -⟩ := books.unopened h closed
  exact silent established

end Transport

namespace Simple

open Transport

variable {T : Type} {c : Config} {w : World T SampleSpec} {h : Handle} {sent : List UInt8}

/-! ## What is read -/

/-- From a part of a header nothing is read, and from a whole one what it says. -/
theorem decode_of_prefix {spec : SampleSpec} {target : UInt32} (part : sent <+: encode spec target) :
    decode sent = (.incomplete, sent) ∨ decode sent = (.message (spec, target), []) := by
  by_cases short : sent.length < headerLength
  · exact .inl (decode_short short)
  · have whole : sent = encode spec target := by
      refine part.eq_of_length_le ?_
      rw [length_encode]
      exact Nat.le_of_not_lt short
    rw [whole, ← List.append_nil (encode spec target)]
    exact .inr (decode_encode spec target [])

/-- The header of a connection tells the low bits of the length, unless it has not come through. -/
theorem decode_of_headed {commands : T → Nat → Command} {given : List Handle}
    {history : History T Simple.Interface (Except PlayError Unit)}
    (headed : Headed ((design c).ledger commands given history) h sent) :
    (∃ spec audio, decode sent = (.message (spec, UInt32.ofNat c.minLength), audio)) ∨
      ¬ ((design c).ledger commands given history).Established h ∧ decode sent = (.incomplete, sent) := by
  obtain ⟨spec, came | ⟨silent, part⟩⟩ := headed
  · obtain ⟨audio, rfl⟩ := came
    exact .inl ⟨spec, audio, decode_encode spec _ audio⟩
  · rcases decode_of_prefix (part : sent <+: encode spec (UInt32.ofNat c.minLength)) with nothing | whole
    · exact .inr ⟨silent, nothing⟩
    · exact .inl ⟨spec, [], whole⟩

/-- A length is told as it is if it is short enough. -/
theorem toNat_ofNat_iff (n : Nat) : (UInt32.ofNat n).toNat = n ↔ n < UInt32.size := by
  rw [UInt32.toNat_ofNat']
  exact Nat.mod_eq_iff_lt (by decide)

/-! ## Opening -/

/-- What is opened for some parameters is the output that they ask for. -/
theorem opens_of_openFor {names : String → Option Net.Ip} {params : OpenParams} {o : Output Simple.Interface} {t : T}
    (opened : Leads (answers act t) (openFor names params) {} (.ok o) w) :
    ∃ c, o = output c ∧ c.minLength = parseMinLength (params.get slotMinLength) ∧ Opens T c w := by
  unfold openFor Config.ofParams at opened
  cases server : endpoint names (params.target slotSimpleServer) with
  | error failure =>
    rw [server] at opened
    cases opened
  | ok server =>
    simp only [server] at opened
    obtain ⟨rfl, -⟩ := leads_openOutput opened
    exact ⟨_, rfl, rfl, t, opened⟩

/-- Over the connection of an opened output something has come. -/
theorem opens_given (opens : Opens T c w) : ∃ h, h ∈ w.opened := by
  obtain ⟨t, leads⟩ := opens
  obtain ⟨-, h, rfl⟩ := leads_openOutput leads
  exact ⟨h, List.mem_cons_self⟩

/-! ## Some lengths -/

/-- Parameters that ask for a length, and for the server on this machine. -/
def asking (text : String) : OpenParams := ({} : OpenParams).set slotMinLength text

/-- What they set the output up with. -/
def localConfig (text : String) : Config where
  server := ⟨.v4 127 0 0 1, 4711, 0⟩
  minLength := parseMinLength (some text)

/-- The world with one connection, over which a header has come. -/
def told (text : String) : World Bool SampleSpec :=
  World.deliver { opened := [0], live := [0], slot := some (.initial, 0) } 0 (greeting (localConfig text) .initial)

theorem ofParams_asking (text : String) :
    Config.ofParams Net.Endpoint.noNames (asking text) = .ok (localConfig text) := by
  have server : (asking text).get slotSimpleServer = none := by
    rw [asking, OpenParams.get_set_of_ne _ (by decide)]
    rfl
  have target : (asking text).target slotSimpleServer = none := by
    unfold OpenParams.target
    rw [server]
    rfl
  have found : endpoint Net.Endpoint.noNames none = .ok ⟨.v4 127 0 0 1, 4711, 0⟩ := rfl
  unfold Config.ofParams
  rw [target, found, asking, OpenParams.get_set]
  rfl

theorem leads_asking (text : String) : Leads (answers act true) (openFor Net.Endpoint.noNames (asking text)) {}
    (.ok (output (localConfig text))) (told text) := by
  unfold openFor
  rw [ofParams_asking]
  refine .next (Except.ok 0 : Except Failure Handle) (.opened (h := 0) (List.not_mem_nil)) ?_
  refine .next (Except.ok () : Except Failure Unit) .wrote ?_
  refine .next none (.take rfl rfl) ?_
  exact .next () .put .done

/-! ## What is told -/

/-- **Servers are told the length that the sender keeps to, if and only if it is short enough.** Let an output be opened
    with some parameters, and let any number of threads play, stop and close, with any outcome of what they ask. The header
    of every connection tells the low 32 bits of the length, unless it has not come through. -/
theorem told_iff_short [DecidableEq T] {names : String → Option Net.Ip} {params : OpenParams} {o : Output Simple.Interface} {t : T}
    (opened : Leads (answers act t) (openFor names params) {} (.ok o) w) (commands : T → Nat → Command)
    {history : History T Simple.Interface (Except PlayError Unit)}
    {s : State (fun _ => Simple.Interface) (fun _ => Except PlayError Unit) (World T SampleSpec)}
    (run : Run (calls o commands) (answers act) w history s) :
    ∃ c, o = output c ∧ c.minLength = parseMinLength (params.get slotMinLength) ∧
      (∀ h ∈ s.shared.opened, decode (s.shared.sent h) = (.incomplete, s.shared.sent h) ∨
        ∃ spec audio, decode (s.shared.sent h) = (.message (spec, UInt32.ofNat c.minLength), audio)) ∧
      ((∀ h ∈ s.shared.opened, ∀ spec target audio,
          decode (s.shared.sent h) = (.message (spec, target), audio) → target.toNat = c.minLength) ↔
        c.minLength < UInt32.size) := by
  obtain ⟨c, rfl, length, opens⟩ := opens_of_openFor opened
  obtain ⟨φ, -, books⟩ := (keeper c).run_books commands (opens_prepared opens) run
  refine ⟨c, rfl, length, ?_, ?_, ?_⟩
  · intro h mem
    exact (decode_of_headed (books.headed mem)).symm.imp_left And.right
  · intro told
    -- The connection of the opened output tells the length.
    obtain ⟨h, given⟩ := opens_given opens
    have mem : h ∈ s.shared.opened := books.opened_of_established (.inl given)
    rcases decode_of_headed (books.headed mem) with ⟨spec, audio, tells⟩ | ⟨silent, -⟩
    · exact (toNat_ofNat_iff c.minLength).1 (told h mem spec _ audio tells)
    · exact absurd (.inl given) silent
  · intro short h mem spec target audio tells
    rcases decode_of_headed (books.headed mem) with ⟨spec', audio', same⟩ | ⟨-, nothing⟩
    · rw [same] at tells
      cases tells
      exact (toNat_ofNat_iff c.minLength).2 short
    · rw [nothing] at tells
      cases tells

/-- A length of 250 bytes is told as it is. -/
theorem told_as_asked : ∃ c, output (localConfig "250") = output c ∧
    c.minLength = parseMinLength ((asking "250").get slotMinLength) ∧
    (∀ h ∈ (told "250").opened, decode ((told "250").sent h) = (.incomplete, (told "250").sent h) ∨
      ∃ spec audio, decode ((told "250").sent h) = (.message (spec, UInt32.ofNat c.minLength), audio)) ∧
    ((∀ h ∈ (told "250").opened, ∀ spec target audio,
        decode ((told "250").sent h) = (.message (spec, target), audio) → target.toNat = c.minLength) ↔
      c.minLength < UInt32.size) :=
  told_iff_short (leads_asking "250") playing .start

/-- **A server may be told to buffer nothing.** The parameters ask for 4294967296 bytes, which the sender keeps to; the
    header of its connection tells zero. -/
theorem told_nothing :
    Leads (answers act true) (openFor Net.Endpoint.noNames (asking "4294967296")) {}
      (.ok (output (localConfig "4294967296"))) (told "4294967296") ∧
    (localConfig "4294967296").minLength = 4294967296 ∧ 0 ∈ (told "4294967296").opened ∧
    decode ((told "4294967296").sent 0) = (.message (.initial, 0), []) := by
  have length : (localConfig "4294967296").minLength = 4294967296 := by decide +kernel
  refine ⟨leads_asking "4294967296", length, List.mem_cons_self, ?_⟩
  have sent : (told "4294967296").sent 0 = encode .initial (UInt32.ofNat (localConfig "4294967296").minLength) := rfl
  rw [sent, length, ← List.append_nil (encode _ _)]
  exact decode_encode .initial 0 []

end Simple

end Playout
