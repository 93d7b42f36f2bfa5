import Playout.Error
import Playout.Net.Ip

/-!
# `Playout.Net.Endpoint` — where a server listens

A server is named by a text such as `host:port`. A numeric host needs no look-up; for any other the
caller supplies the names it knows.

## Contents
- `Endpoint` and its text.
- `Endpoint.parse?` — an address with its port, in the strict form.
- `Endpoint.lookup` — any `host:port`.
- `Endpoint.resolve` — a server's name with an optional scheme and a default port.
-/

namespace Playout.Net

/-- An address and a port; an address of the long form may belong to a numbered scope. -/
structure Endpoint where
  ip : Ip
  port : UInt16
  scope : UInt32 := 0
  deriving DecidableEq, Repr, Inhabited

namespace Endpoint

/-- An endpoint as text; a long address stands in brackets. -/
def text (e : Endpoint) : String :=
  let port := ":" ++ toString e.port.toNat
  match e.ip with
  | .v4 .. => e.ip.text ++ port
  | .v6 _ =>
    let scope := if e.scope = 0 then "" else "%" ++ toString e.scope.toNat
    "[" ++ e.ip.text ++ scope ++ "]" ++ port

/-- A colon and a port that end the text. -/
def readPort (chars : List Char) : Option UInt16 := do
  let (port, rest) ← readNumber 10 65536 none true (← readChar ':' chars)
  if rest.isEmpty then some (UInt16.ofNat port) else none

/-- The scope behind a long address, 0 when none is written. -/
def readScope (chars : List Char) : Option (UInt32 × List Char) :=
  match chars with
  | '%' :: rest => (readNumber 10 UInt32.size none true rest).map fun (n, rest) => (UInt32.ofNat n, rest)
  | _ => some (0, chars)

/-- Read an endpoint in the form in which it is written. -/
def parse? (text : String) : Option Endpoint :=
  let short := do
    let ((a, b, c, d), rest) ← readV4 text.toList
    return { ip := .v4 a b c d, port := ← readPort rest }
  let long := do
    let (groups, rest) ← readV6 (← readChar '[' text.toList)
    let (scope, rest) ← readScope rest
    return { ip := .v6 groups, port := ← readPort (← readChar ']' rest), scope }
  short <|> long

/-- The two parts of a text around its last colon. -/
def splitLastColon (text : String) : Option (String × String) :=
  let back := text.toList.reverse
  match back.dropWhile (· ≠ ':') with
  | [] => none
  | _ :: host => some (String.ofList host.reverse, String.ofList (back.takeWhile (· ≠ ':')).reverse)

/-- The endpoint that `text` means: one written out, or a host and a port. The port is read first, so
    that it is the port that is blamed when both are wrong. `names` gives the addresses of the host
    names that are known. -/
def lookup (names : String → Option Ip) (text : String) : Except Failure Endpoint :=
  match parse? text with
  | some endpoint => .ok endpoint
  | none =>
    match splitLastColon text with
    | none => .error { cause := "invalid socket address" }
    | some (host, port) =>
      match Text.readBelow? 65536 port with
      | none => .error { cause := "invalid port value" }
      | some port =>
        if host.toList.contains (Char.ofNat 0) then
          .error { cause := "file name contained an unexpected NUL byte" }
        else
          match (Ip.ofNumericHost? host <|> (names host).map (·, 0)) with
          | some (ip, scope) => .ok { ip, port := UInt16.ofNat port, scope }
          | none =>
            .error { cause := "failed to lookup address information: Name or service not known" }

/-- `text` without `scheme` in front, if it starts with it. -/
def dropScheme (scheme text : String) : String :=
  if scheme.toList.isPrefixOf text.toList then String.ofList (text.toList.drop scheme.length) else text

/-- The endpoint of a server named with an optional scheme and an optional port. -/
def resolve (names : String → Option Ip) (scheme : String) (defaultPort : UInt16) (server : String) :
    Except Failure Endpoint :=
  let host := dropScheme scheme server
  let full := if host.toList.contains ':' then host else host ++ ":" ++ toString defaultPort.toNat
  match lookup names full with
  | .ok endpoint => .ok endpoint
  | .error failure => .error (failure.within ("Failed to resolve " ++ full))

/-- No host name is known. -/
def noNames : String → Option Ip := fun _ => none

/-! ## Small facts -/

example : (parse? "[::1]:80").map text = some "[::1]:80" := by decide +kernel
example : splitLastColon "a:b:80" = some ("a:b", "80") := by decide +kernel

end Endpoint

end Playout.Net
