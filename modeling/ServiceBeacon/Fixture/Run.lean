import ServiceBeacon.Fixture.Circumstances
import ServiceBeacon.Fixture.Failure
import ServiceBeacon.History
import ServiceBeacon.Registry.Guard
import ServiceBeacon.Shutdown

namespace ServiceBeacon
namespace Fixture

/-!
# A run of the fixture

A run issues a certificate if it needs one, binds its listener, announces the
service, serves until a shutdown is requested, and withdraws the service.

A shutdown that is requested before the certificate is there makes the run give
up, even if there is not going to be one.  A later one is noticed before the
service is announced, and otherwise by the server.  Nothing that the registry
does keeps the service from being served, and whatever was announced is
withdrawn when the server has stopped, for whatever reason.
-/

/-- How a run ends: as it should, with a failure, or not at all, because it serves
until a shutdown is requested. -/
inductive Ending where
  | finished
  | failed (failure : Failure)
  | unfinished
deriving DecidableEq, Repr

/-- What comes of a run. -/
structure Outcome where
  ending : Ending
  history : History
deriving DecidableEq, Repr

/-- The outcome with something in front of its history. -/
def Outcome.behind (outcome : Outcome) (before : History) : Outcome :=
  { outcome with history := before ++ outcome.history }

/-- The outcome with something at the end of its history, if it ends. -/
def Outcome.followedBy (outcome : Outcome) (after : History) : Outcome :=
  if outcome.ending = .unfinished then outcome
  else { outcome with history := outcome.history ++ after }

/-! ## The latch -/

def handle : Nat := 0

/-- The signal that is looked at while the certificate is issued. -/
def startupSignal : Nat := 0

/-- The signal that the server waits for. -/
def serverSignal : Nat := 1

/-- The latch after a phase. -/
def passPhase (circumstances : Circumstances) (phase : Phase) (latch : Shutdown) : Shutdown :=
  if circumstances.requested phase then latch.after (.trigger handle) else latch

/-- What happens to the latch in a phase. -/
def requests (circumstances : Circumstances) (phase : Phase) : History :=
  if circumstances.requested phase then [.shutdownRequested] else []

/-! ## Certificates -/

/-- The files of a certificate and the listener that was set up with them. -/
structure Material where
  persisted : Issuer.Persisted
  listener : Tls.Listener
deriving DecidableEq, Repr

/-- What letting go of the material does. -/
def releaseMaterial (material : Option Material) : History :=
  match material with
  | some material => material.persisted.release
  | none => []

/-- Issues the certificate of a configuration. -/
def issue (config : Config) (circumstances : Circumstances) :
    Except Issuer.Error Issuer.Persisted × History :=
  Issuer.issueToFiles config.tls.keyBits config.service.containerName config.tls.extraSans
    circumstances.draw circumstances.disk

/-- What a listener finds in the file at a path. -/
def fileAt (circumstances : Circumstances) (path : String) (written : List UInt8) : Tls.File :=
  ⟨path, circumstances.reread path written⟩

/-- Sets a listener up with files that were written. -/
def loadMaterial (config : Config) (circumstances : Circumstances)
    (persisted : Issuer.Persisted) : Except Failure Material × History :=
  let certificate :=
    fileAt circumstances persisted.certificatePath persisted.bundle.certificateText
  let key := fileAt circumstances persisted.keyPath persisted.bundle.keyText
  match Tls.load certificate key config.tls.cipherSuites with
  | (.error problem, notices) =>
    (.error (.tls problem), History.ofNotices notices ++ persisted.release)
  | (.ok listener, notices) => (.ok ⟨persisted, listener⟩, History.ofNotices notices)

/-- Prepares what is needed for TLS, if anything is. -/
def prepare (config : Config) (circumstances : Circumstances) :
    Except Failure (Option Material) × History :=
  if config.tls.enabled then
    match issue config circumstances with
    | (.error error, history) => (.error (.certificate error), history)
    | (.ok persisted, history) =>
      match loadMaterial config circumstances persisted with
      | (.error failure, loaded) => (.error failure, history ++ loaded)
      | (.ok material, loaded) => (.ok (some material), history ++ loaded)
  else (.ok none, [])

/-- What becomes of an issuance that nobody waits for: it goes on to its end,
and what was issued is let go of. -/
def abandon (config : Config) (circumstances : Circumstances) : History :=
  match issue config circumstances with
  | (.error _, history) => history
  | (.ok persisted, history) => history ++ persisted.release

/-! ## Events -/

/-- The event of a run that gives up before it serves. -/
def earlyStopEvent : Notice :=
  report .info .startup "Shutdown requested during startup, exiting before serving" []

/-- The event of a run that stops before it announces the service. -/
def lateStopEvent : Notice :=
  report .info .startup "Shutdown requested before serving, skipping registration" []

def identityEvent (identity : Identity) (secure : Bool) : Notice :=
  report .info .startup "Service identity resolved"
    [("service", identity.serviceName), ("service_id", identity.serviceId),
      ("address", identity.address), ("port", toString identity.port.toNat),
      ("tls", flagText secure)]

def noRegistryEvent : Notice := report .info .startup "Registry integration disabled" []

/-- The event of a registry whose URL cannot be used. -/
def badRegistryEvent (config : Config.Registry) (error : Registry.CallError) : Notice :=
  report .warn .startup "Registry client unavailable, serving without registration"
    [("registry", config.baseUrl), ("error", error.message)]

/-! ## The registry -/

/-- A registry call as a history. -/
def callHistory {α : Type} (operation : Registry.Operation) (identity : Identity)
    (effect : Registry.Effect α) : History :=
  effect.sent.map .sent ++ History.ofNotices effect.notices ++ [.called operation identity]

/-- What comes of announcing a service. -/
structure Announcement where
  guard : Option Registry.Guard
  history : History
  agent : Registry.Agent

/-- Announces a service, if the configuration asks for it. -/
def announce (config : Config.Registry) (identity : Identity) (agent : Registry.Agent) :
    Announcement :=
  if config.enabled then
    match Registry.Client.ofConfig config with
    | .error error => ⟨none, [.noticed (badRegistryEvent config error)], agent⟩
    | .ok client =>
      let made := Registry.Guard.acquire client identity agent
      ⟨some made.value, callHistory .register identity made, made.agent⟩
  else ⟨none, [.noticed noRegistryEvent], agent⟩

/-- The errands of the background, run one after the other. -/
def background (agent : Registry.Agent) : List Registry.Errand → History
  | [] => []
  | errand :: rest =>
    let ran := errand.run agent
    callHistory .deregister errand.identity ran ++ background ran.agent rest

/-- Withdraws what was announced.  What the guard leaves to the background comes
behind that. -/
def withdraw (announced : Announcement) : History :=
  match announced.guard with
  | some guard =>
    let (released, errands) := guard.release announced.agent
    callHistory .deregister guard.identity released ++ background released.agent errands
  | none => []

/-! ## Serving -/

/-- Answers the requests that arrive. -/
def respond (server : Http.Server) (arrivals : List Http.Arrival) : History :=
  arrivals.flatMap fun arrival =>
    let responded := server.respond arrival
    History.ofNotices responded.2 ++ [.answered responded.1]

/-- Serves until the signal is ready or the server breaks down.  A server that cannot
take its listener over neither says that it starts nor that it stops. -/
def serve (server : Http.Server) (address : SocketAddress) (circumstances : Circumstances)
    (latch : Shutdown) : Outcome :=
  let started : History := [.noticed (server.startEvent address), .accepting]
  let served :=
    started ++ respond server circumstances.arrivals ++ requests circumstances .serving
  let ready := (passPhase circumstances .serving latch).isReady serverSignal
  let drained : History :=
    if ready then .noticed server.drainEvent :: requests circumstances .draining else []
  match circumstances.serving with
  | .error (.atStart cause) => ⟨.failed (.serve cause), []⟩
  | .error (.whileServing cause) => ⟨.failed (.serve cause), served ++ drained ++ [.stopped]⟩
  | .ok _ =>
    if ready then
      ⟨.finished, served ++ drained ++ [.stopped, .noticed (Http.Server.stopEvent address)]⟩
    else ⟨.unfinished, served⟩

/-- Announces the service, serves, and withdraws it. -/
def announceAndServe (config : Config) (circumstances : Circumstances) (identity : Identity)
    (secure : Bool) (address : SocketAddress) (latch : Shutdown) : Outcome :=
  let announced := announce config.registry identity circumstances.agent
  let server := Http.Server.ofConfig config.timeouts identity secure
  let latch := passPhase circumstances .announcing latch
  ((serve server address circumstances latch).followedBy (withdraw announced)).behind
    (announced.history ++ requests circumstances .announcing)

/-- Goes on with a bound listener. -/
def serveWith (config : Config) (circumstances : Circumstances) (secure : Bool)
    (latch : Shutdown) : Outcome :=
  let latch := latch.after (.subscribe handle)
  match circumstances.localAddress with
  | .error cause => ⟨.failed (.serve cause), []⟩
  | .ok address =>
    let identity := (Identity.ofConfig config).withPort address.port
    let resolved : History := [.noticed (identityEvent identity secure)]
    if latch.isTriggered handle then ⟨.finished, resolved ++ [.noticed lateStopEvent]⟩
    else
      (announceAndServe config circumstances identity secure address latch).behind resolved

/-- Goes on with what was prepared: gets a listener, and serves. -/
def bindAndServe (config : Config) (circumstances : Circumstances) (material : Option Material)
    (latch : Shutdown) : Outcome :=
  let latch := passPhase circumstances .binding (latch.after (.dropSignal startupSignal))
  let secure := material.isSome
  let outcome :=
    match circumstances.socket with
    | .given => serveWith config circumstances secure latch
    | .own (.error cause) => ⟨.failed (.bind config.listener.bindAddress cause), []⟩
    | .own (.ok _) => (serveWith config circumstances secure latch).behind [.bound]
  (outcome.behind (requests circumstances .binding)).followedBy (releaseMaterial material)

/-- Runs the fixture. -/
def run (config : Config) (circumstances : Circumstances) : Outcome :=
  let latch :=
    passPhase circumstances .starting (Shutdown.initial.after (.subscribe handle))
  let started := requests circumstances .starting
  if latch.isReady startupSignal then ⟨.finished, started ++ [.noticed earlyStopEvent]⟩
  else
    let latch := passPhase circumstances .preparing latch
    let prepared := started ++ requests circumstances .preparing
    if config.tls.enabled && latch.isReady startupSignal then
      ⟨.finished, prepared ++ [.noticed earlyStopEvent] ++ abandon config circumstances⟩
    else
      match prepare config circumstances with
      | (.error failure, history) => ⟨.failed failure, prepared ++ history⟩
      | (.ok material, history) =>
        (bindAndServe config circumstances material latch).behind (prepared ++ history)

end Fixture
end ServiceBeacon
