import Playout.Net.Endpoint

/-!
# `Playout.Simple.Server` — the name of a simple-protocol server

A simple-protocol server is named `host` or `host:port`, with `tcp:` in front if wanted. When nothing
names one it is on this machine.
-/

namespace Playout.Simple

/-- The port of a simple-protocol server. -/
def defaultPort : UInt16 := 4711

/-- The server used when none is named. -/
def defaultServer : String := "127.0.0.1:4711"

/-- The endpoint of the named server, or of the local one. -/
def endpoint (names : String → Option Net.Ip) (server : Option String) :
    Except Failure Net.Endpoint :=
  Net.Endpoint.resolve names "tcp:" defaultPort (server.getD defaultServer)

end Playout.Simple
