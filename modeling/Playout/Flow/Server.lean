import Playout.Net.Endpoint

/-!
# `Playout.Flow.Server` — the name of a flow server

A flow server is named `host` or `host:port`, with `tcp/` in front if wanted. When nothing names one, the
environment may, and else it is the local one.
-/

namespace Playout.Flow

/-- The port of a flow server. -/
def defaultPort : UInt16 := 5450

/-- The server used when neither the parameters nor the environment name one. -/
def defaultServer : String := "localhost:5450"

/-- The endpoint of the named server, of the one the environment names, or of the local one. -/
def endpoint (names : String → Option Net.Ip) (environment server : Option String) :
    Except Failure Net.Endpoint :=
  Net.Endpoint.resolve names "tcp/" defaultPort ((server <|> environment).getD defaultServer)

end Playout.Flow
