import ServiceBeacon.Duration
import ServiceBeacon.Observation
import ServiceBeacon.Registration
import ServiceBeacon.Registry.Exchange
import ServiceBeacon.Text.Marked
import ServiceBeacon.Text.Quoted

namespace ServiceBeacon
namespace Registry

/-!
# The registry client

A client knows the base URL of an agent and the time limit of a call.  There
are two calls: one puts the descriptor of an identity to the agent, the other
withdraws an identity by its identifier, which is one path segment.  A call is
tried once; any status but a success is a rejection.

Two things are left out.  Setting up the machinery below a client could fail as
well, before anything is sent; that depends on the system it runs on and on
nothing that is read here.  And a rejection is read as text without regard to a
character set that its content type may name, of which there are some forty.
-/

/-- The two calls. -/
inductive Operation where
  | register
  | deregister
deriving DecidableEq, Repr

def Operation.name : Operation → String
  | register => "register"
  | deregister => "deregister"

/-- Why a call did not succeed: no answer came, the agent answered otherwise than
with success, or the base URL cannot be used. -/
inductive CallError where
  | transport (failure : Failure)
  | rejected (status : Http.Status) (body : String)
  | invalidUrl (fault : Url.Fault)
deriving DecidableEq, Repr

namespace CallError

def message : CallError → String
  | transport failure => "registry transport error: " ++ failure.message
  | rejected status body => "registry rejected request with " ++ status.text ++ ": " ++ body
  | invalidUrl fault => "invalid registry URL: " ++ fault.message

def isTimeout : CallError → Bool
  | transport failure => failure.isTimeout
  | _ => false

end CallError

/-- A client of one agent: the URL below which it answers, and the time one call may
take. -/
structure Client where
  baseUrl : Url
  timeout : Duration
deriving DecidableEq, Repr

/-- What an action with an agent brings about: a result, the requests the agent
received, what was logged and counted, and the agent afterwards. -/
structure Effect (α : Type) where
  value : α
  sent : List Request
  notices : List Notice
  agent : Agent

namespace Client

/-- The client for a base URL. -/
def ofText (baseUrl : String) (timeout : Duration) : Except CallError Client :=
  match Url.parse baseUrl.toList with
  | .ok url => .ok ⟨url, timeout⟩
  | .error fault => .error (.invalidUrl fault)

def ofConfig (config : Config.Registry) : Except CallError Client :=
  ofText config.baseUrl (.ofSeconds config.timeoutSeconds.toNat)

/-- A client in one line. -/
def description (client : Client) : String :=
  "RegistryClient \x7b base_url: " ++ Text.quoted (toString client.baseUrl) ++ ", timeout: " ++
    client.timeout.text ++ " \x7d"

/-- The path segments of a call. -/
def segments (identity : Identity) : Operation → List (List Char)
  | .register => ["v1".toList, "agent".toList, "service".toList, "register".toList]
  | .deregister =>
    ["v1".toList, "agent".toList, "service".toList, "deregister".toList,
      identity.serviceId.toList]

/-- The URL of a call. -/
def endpoint (client : Client) (identity : Identity) (operation : Operation) :
    Except CallError Url :=
  match client.baseUrl.extend (segments identity operation) with
  | .ok url => .ok url
  | .error fault => .error (.invalidUrl fault)

/-- What a call carries. -/
def payload (identity : Identity) : Operation → Option String
  | .register => some (Registration.ofIdentity identity).body
  | .deregister => none

/-- The event in front of a call. -/
def announcement (url : Url) (identity : Identity) : Operation → Notice
  | .register =>
    report .debug .client "Sending registration"
      [("url", toString url), ("service_id", identity.serviceId),
        ("meta_keys", toString identity.routing.size)]
  | .deregister =>
    report .debug .client "Sending deregistration"
      [("url", toString url), ("service_id", identity.serviceId)]

/-- The event of a rejection whose body was cut short. -/
def unreadBody (operation : Operation) : Notice :=
  report .debug .client "Failed to read registry error body"
    [("operation", operation.name), ("error", "error decoding response body")]

/-- What an answer means for a call, and what is logged about it. -/
def judge (operation : Operation) (answer : Answer) :
    Except CallError Unit × List Notice :=
  if answer.status.isSuccess then (.ok (), [])
  else if answer.complete then
    (.error (.rejected answer.status (Text.ofMarked answer.body)), [])
  else (.error (.rejected answer.status ""), [unreadBody operation])

/-- Performs a call. -/
def call (client : Client) (operation : Operation) (identity : Identity) (agent : Agent) :
    Effect (Except CallError Unit) :=
  match client.endpoint identity operation with
  | .error error => ⟨.error error, [], [], agent⟩
  | .ok url =>
    let announced := announcement url identity operation
    let exchanged := exchange redirectLimit agent ⟨.put, url, payload identity operation⟩
    match exchanged.outcome with
    | .error failure => ⟨.error (.transport failure), exchanged.sent, [announced], exchanged.agent⟩
    | .ok answer =>
      let judged := judge operation answer
      ⟨judged.1, exchanged.sent, announced :: judged.2, exchanged.agent⟩

end Client
end Registry
end ServiceBeacon
