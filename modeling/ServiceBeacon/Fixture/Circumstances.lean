import ServiceBeacon.Address.Socket
import ServiceBeacon.FileContent
import ServiceBeacon.Http.Server
import ServiceBeacon.Issuer.TempFiles

namespace ServiceBeacon
namespace Fixture

/-!
# Circumstances

A run depends on its configuration and on what the world does meanwhile.  All
of the latter is gathered here, so that a run is a function of both: what is
drawn for the certificate, how files and sockets behave, what the registry
agent answers, who asks for what, and when a shutdown is requested.
-/

/-- The stretches of a run in which a shutdown can be requested.  Within one of them
it makes no difference when.

Starting lasts until the run first looks at its signal, preparing until the
certificate is picked up, binding until the run asks whether to go on, and
announcing until the server waits for the signal.  Draining begins when the server
has taken notice. -/
inductive Phase where
  | starting
  | preparing
  | binding
  | announcing
  | serving
  | draining
deriving DecidableEq, Repr

/-- Whose listener a run uses: it is given one, or it binds one itself, which works
or not. -/
inductive Socket where
  | given
  | own (binding : Except String Unit)

/-- How a server breaks down: it cannot take its listener over and never accepts a
connection, or it fails when it has started. -/
inductive Breakdown where
  | atStart (cause : String)
  | whileServing (cause : String)
deriving DecidableEq, Repr

def Breakdown.cause : Breakdown → String
  | atStart cause | whileServing cause => cause

/-- What the world does during a run.  A reader finds at a path whatever `reread`
makes of the bytes that were written there. -/
structure Circumstances where
  draw : Issuer.Draw
  disk : Issuer.Disk
  reread : String → List UInt8 → FileContent
  socket : Socket
  localAddress : Except String SocketAddress
  agent : Registry.Agent
  arrivals : List Http.Arrival
  serving : Except Breakdown Unit
  requested : Phase → Bool

end Fixture
end ServiceBeacon
