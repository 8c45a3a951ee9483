import ServiceBeacon.Address.Socket
import ServiceBeacon.Duration
import ServiceBeacon.Http.Exchange

namespace ServiceBeacon
namespace Http

/-!
# The server

A server answers for one site.  It gives every request a time limit, and the
connections that are open at the end a time of grace.
-/

/-- A server: what it answers, how long one request may take, and how long open
connections are given at the end. -/
structure Server where
  site : Site
  requestLimit : Duration
  grace : Duration
deriving DecidableEq, Repr

/-- A request that arrives, with the identifier that is made up for it if it has
none.  It is overdue if answering it takes longer than the limit. -/
structure Arrival where
  request : Request
  fresh : String
  overdue : Bool
deriving DecidableEq, Repr

namespace Server

/-- The server for an identity. -/
def ofConfig (timeouts : Config.Timeouts) (identity : Identity) (secure : Bool) : Server :=
  ⟨⟨identity, secure⟩, .ofSeconds timeouts.requestSeconds.toNat,
    .ofSeconds timeouts.shutdownGraceSeconds.toNat⟩

/-- The scheme under which a server is reached. -/
def scheme (server : Server) : String := if server.site.secure then "https" else "http"

/-- Answers a request that arrives. -/
def respond (server : Server) (arrival : Arrival) : Response × List Notice :=
  serve server.site arrival.fresh arrival.overdue arrival.request

def startEvent (server : Server) (address : SocketAddress) : Notice :=
  .logged ⟨.info, .server, "HTTP server starting",
    [("address", .shown (toString address)), ("scheme", .quoted server.scheme)]⟩

def drainEvent (server : Server) : Notice :=
  report .info .server "Draining connections"
    [("grace_secs", toString (server.grace.milliseconds / 1000))]

def stopEvent (address : SocketAddress) : Notice :=
  report .info .server "HTTP server stopped" [("address", toString address)]

end Server
end Http
end ServiceBeacon
