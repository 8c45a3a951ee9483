import ServiceBeacon.Registry.Client

namespace ServiceBeacon
namespace Registry

/-!
# Registration guards

A guard stands for one announcement.  Making it registers the identity, giving
it up deregisters it, each once and whatever came of the other.  The outcome
of each call is logged and counted here and goes no further.

Every guard goes out of scope in the end, also one that was given up.  It
remembers whether it was, because otherwise there is still something to do: the
withdrawal is handed to the background, which needs a runtime that is alive,
and is made whenever the runtime gets round to it.
-/

/-- An announced identity, with whether the agent accepted the announcement and
whether it has been given up. -/
structure Guard where
  client : Client
  identity : Identity
  registered : Bool
  released : Bool
deriving DecidableEq, Repr

/-- A withdrawal that is left to the background. -/
structure Errand where
  client : Client
  identity : Identity
deriving DecidableEq, Repr

def operationCounter (operation : Operation) (outcome : String) : Counter :=
  ⟨"fixture_registry_operations_total", [("operation", operation.name), ("outcome", outcome)]⟩

/-- The outcome under which a call is counted. -/
def outcomeName : Except CallError Unit → String
  | .ok _ => "success"
  | .error error => if error.isTimeout then "timeout" else "failure"

def succeeded : Except CallError Unit → Bool
  | .ok _ => true
  | .error _ => false

/-- The event about the outcome of a call. -/
def outcomeEvent (operation : Operation) (client : Client) (identity : Identity) :
    Except CallError Unit → Notice
  | .ok _ =>
    report .info .registration "Registry call succeeded"
      [("operation", operation.name), ("registry", toString client.baseUrl),
        ("service", identity.serviceName), ("service_id", identity.serviceId),
        ("address", identity.address), ("port", toString identity.port.toNat)]
  | .error error =>
    report .warn .registration "Registry call failed, continuing without it"
      [("operation", operation.name), ("registry", toString client.baseUrl),
        ("service_id", identity.serviceId), ("timeout", client.timeout.text),
        ("error", error.message)]

/-- Performs a call, logs and counts its outcome, and tells whether it succeeded. -/
def reportedCall (client : Client) (operation : Operation) (identity : Identity)
    (agent : Agent) : Effect Bool :=
  let called := client.call operation identity agent
  ⟨succeeded called.value, called.sent,
    called.notices ++
      [outcomeEvent operation client identity called.value,
        .counted (operationCounter operation (outcomeName called.value))],
    called.agent⟩

/-- What the background does with an errand.  Nobody waits for the outcome. -/
def Errand.run (errand : Errand) (agent : Agent) : Effect Bool :=
  reportedCall errand.client .deregister errand.identity agent

namespace Guard

/-- Announces an identity. -/
def acquire (client : Client) (identity : Identity) (agent : Agent) : Effect Guard :=
  let called := reportedCall client .register identity agent
  ⟨⟨client, identity, called.value, false⟩, called.sent, called.notices, called.agent⟩

def lossEvent (guard : Guard) : Notice :=
  report .warn .registration "Registration dropped without release, deregistering in background"
    [("service_id", guard.identity.serviceId)]

def leftBehindEvent (guard : Guard) : Notice :=
  report .error .registration "No runtime available, registry entry left behind"
    [("service_id", guard.identity.serviceId)]

/-- What happens when a guard goes out of scope, with or without a runtime that is
alive: what is logged, and what is left to the background. -/
def drop (guard : Guard) (alive : Bool) : List Notice × List Errand :=
  if guard.released then ([], [])
  else if alive then ([guard.lossEvent], [⟨guard.client, guard.identity⟩])
  else ([guard.lossEvent, guard.leftBehindEvent], [])

/-- Gives a guard up, and tells whether the agent accepted the withdrawal.  The
guard goes out of scope behind the call, and may leave something to the background
as every guard may. -/
def release (guard : Guard) (agent : Agent) : Effect Bool × List Errand :=
  let marked := { guard with released := true }
  let called := reportedCall marked.client .deregister marked.identity agent
  let (notices, errands) := marked.drop true
  (⟨called.value, called.sent, called.notices ++ notices, called.agent⟩, errands)

end Guard
end Registry
end ServiceBeacon
