import ServiceBeacon.CommandLine.Help
import ServiceBeacon.Fixture.Run
import ServiceBeacon.Logging

namespace ServiceBeacon
namespace Program

/-!
# The program

The program reads its command line and its configuration, sets logging up, and
runs the fixture until a signal comes.  The first signal requests a shutdown;
a second one ends it at once, whatever is left to be done.
-/

/-- The signals that end the program. -/
inductive Signal where
  | terminate
  | interrupt
deriving DecidableEq, Repr

def Signal.name : Signal → String
  | terminate => "SIGTERM"
  | interrupt => "SIGINT"

/-- What surrounds the program: its arguments and variables, what is found at a
path, whether counters can be exposed at an address, what happens during a run, and
the signals that request a shutdown, of which a second one may come. -/
structure World where
  arguments : List String
  environment : CommandLine.Environment
  files : String → FileContent
  exposing : SocketAddress → Except String Unit
  circumstances : Config → Fixture.Circumstances
  first : Signal
  second : Signal

/-- What the program leaves behind: its exit status, if it ends, what is printed
besides the log, the logger, if it came to that, and what happened. -/
structure Report where
  exitCode : Option Nat
  printed : String
  complaints : String
  logger : Option Logger
  history : History

/-! ## Events -/

def startEvent : Notice :=
  .logged ⟨.info, .process, "mesh-fixture starting", [("version", .quoted Http.version)]⟩

def configEvent (config : Config) : Notice :=
  report .info .process "Configuration loaded"
    [("service", config.service.name), ("bind_address", config.listener.bindAddress),
      ("container_name", config.service.containerName),
      ("registry_enabled", flagText config.registry.enabled),
      ("registry", config.registry.baseUrl), ("tls", flagText config.tls.enabled)]

def badMetricsEvent (text : String) : Notice :=
  report .error .process "Failed to parse metrics address" [("metrics_address", text)]

def metricsEvent (address : SocketAddress) : Notice :=
  report .info .metrics "Metrics endpoint listening" [("address", toString address)]

def noMetricsEvent (address : SocketAddress) (cause : String) : Notice :=
  report .error .metrics "Failed to start metrics exporter"
    [("address", toString address), ("error", "failed to create HTTP listener: " ++ cause)]

def signalEvent (signal : Signal) : Notice :=
  .logged ⟨.info, .shutdown, "Shutdown signal received", [("signal", .quoted signal.name)]⟩

def secondSignalEvent (signal : Signal) : Notice :=
  .logged ⟨.warn, .shutdown, "Second shutdown signal received, exiting immediately",
    [("signal", .quoted signal.name)]⟩

def completeEvent : Notice := report .info .process "Shutdown complete" []

def failureEvent (failure : Fixture.Failure) : Notice :=
  report .error .process "Fatal error" [("error", failure.message)]

/-! ## Running -/

/-- Exposes counters, if the configuration asks for it. -/
def exposeMetrics (world : World) (config : Config.Observability) : List Notice :=
  if config.metricsEnabled then
    match SocketAddress.parse? config.metricsAddress.toList with
    | none => [badMetricsEvent config.metricsAddress]
    | some address =>
      match world.exposing address with
      | .ok _ => [metricsEvent address]
      | .error cause => [noMetricsEvent address cause]
  else []

/-- What happens before the next request for a shutdown. -/
def untilRequested (history : History) : History := history.takeWhile (· ≠ .shutdownRequested)

/-- What happens after the next request for a shutdown, if there is one. -/
def afterRequested? (history : History) : Option History :=
  match history.dropWhile (· ≠ .shutdownRequested) with
  | [] => none
  | _ :: rest => some rest

/-- What happens after a run. -/
def conclude : Fixture.Ending → Option Nat × History
  | .finished => (some 0, [.noticed completeEvent])
  | .failed failure => (some failure.exitCode, [.noticed (failureEvent failure)])
  | .unfinished => (none, [])

/-- What the program makes of a run: each request for a shutdown is a signal,
and the second one cuts the run off. -/
def supervise (world : World) (outcome : Fixture.Outcome) : Option Nat × History :=
  let concluded := conclude outcome.ending
  match afterRequested? outcome.history with
  | none => (concluded.1, outcome.history ++ concluded.2)
  | some rest =>
    let before :=
      untilRequested outcome.history ++ [.noticed (signalEvent world.first), .shutdownRequested]
    match afterRequested? rest with
    | none => (concluded.1, before ++ rest ++ concluded.2)
    | some _ =>
      (some 1, before ++ untilRequested rest ++ [.noticed (secondSignalEvent world.second)])

/-- Runs with a configuration. -/
def runWith (world : World) (config : Config) : Report :=
  let (logger, complaints) :=
    Logger.ofConfig (CommandLine.lookup? world.environment Logger.environmentName)
      config.observability
  let (exitCode, history) := supervise world (Fixture.run config (world.circumstances config))
  { exitCode
    printed := ""
    complaints := String.join (complaints.map (· ++ "\n"))
    logger := some logger
    history :=
      History.ofNotices
          (startEvent :: configEvent config :: exposeMetrics world config.observability) ++
        history }

/-- Runs the program. -/
def run (world : World) : Report :=
  match CommandLine.parse world.arguments world.environment with
  | .error .help =>
    ⟨some (CommandLine.Refusal.exitCode .help),
      CommandLine.Refusal.message world.environment .help, "", none, []⟩
  | .error refusal =>
    ⟨some refusal.exitCode, "", refusal.message world.environment ++ "\n", none, []⟩
  | .ok overrides =>
    match overrides.resolve world.files with
    | .error problem =>
      ⟨some (Fixture.Failure.config problem).exitCode, "",
        CommandLine.programName ++ ": " ++ problem.message ++ "\n", none, []⟩
    | .ok config => runWith world config

def Report.events (report : Report) : List Event :=
  match report.logger with
  | some logger => logger.written report.history.notices
  | none => []

end Program
end ServiceBeacon
