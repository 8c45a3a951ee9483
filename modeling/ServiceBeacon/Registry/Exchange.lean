import ServiceBeacon.Http.Status
import ServiceBeacon.Url.Segments

namespace ServiceBeacon
namespace Registry

/-!
# Exchanges with a registry agent

An agent is described by what it would do: which URLs reach it, and how it
treats the requests it receives, one after the other.  An exchange is then a
function of the agent and the request; it returns every request that was sent.

Redirects are followed: after 301, 302 and 303 by a GET without a body, after
307 and 308 by the same request, and at most ten times.
-/

/-- The methods of the requests that are sent. -/
inductive Method where
  | put
  | get
deriving DecidableEq, Repr

def Method.name : Method → String
  | put => "PUT"
  | get => "GET"

/-- A request. -/
structure Request where
  method : Method
  url : Url
  body : Option String
deriving DecidableEq, Repr

/-- What a request asks for: the path and the query of its URL. -/
def Request.target (request : Request) : List Char :=
  request.url.path.text ++ Url.markedText '?' request.url.query

/-- What an agent answers.  A body that is not complete is what arrives of it. -/
structure Answer where
  status : Http.Status
  location : Option (List Char)
  body : List UInt8
  complete : Bool
deriving DecidableEq, Repr

/-- The answer of an agent that has no instructions: success without a body. -/
def Answer.empty : Answer := ⟨.ok, none, [], true⟩

/-- How an agent treats a request that it received: it answers, it is silent until
the time limit passes, or it closes the connection. -/
inductive Reply where
  | answer (answer : Answer)
  | silence
  | closure
deriving DecidableEq, Repr

/-- An agent: the URLs at which it accepts connections, and what it does with the
requests to come. -/
structure Agent where
  reaches : Url → Bool
  replies : List Reply

namespace Agent

/-- An agent that accepts no connection. -/
def absent : Agent := ⟨fun _ => false, []⟩

/-- What it does with the next request; out of instructions, it answers emptily. -/
def nextReply (agent : Agent) : Reply := agent.replies.head?.getD (.answer .empty)

/-- The agent after one request. -/
def served (agent : Agent) : Agent := { agent with replies := agent.replies.tail }

end Agent

/-- Why no answer came, with the URL of the request that failed.  Under a scheme
that is not one of HTTP nothing is sent; a request is unanswered if there was no
connection, or it was closed. -/
inductive Failure where
  | unsupported (url : Url)
  | unanswered (url : Url)
  | timedOut (url : Url)
  | endlessRedirect (url : Url)
deriving DecidableEq, Repr

namespace Failure

def isTimeout : Failure → Bool
  | timedOut _ => true
  | _ => false

/-- How a failure is worded.  User names and passwords are not shown. -/
def message : Failure → String
  | unsupported url => "builder error for url (" ++ toString url.withoutUserInfo ++ ")"
  | unanswered url => "error sending request for url (" ++ toString url.withoutUserInfo ++ ")"
  | timedOut url => "error sending request for url (" ++ toString url.withoutUserInfo ++ ")"
  | endlessRedirect url =>
    "error following redirect for url (" ++ toString url.withoutUserInfo ++ ")"

end Failure

/-- Whether requests can be sent under a scheme. -/
def isHttpScheme (scheme : List Char) : Bool :=
  scheme == "http".toList || scheme == "https".toList

/-- The request that an answer redirects to.  A location that is no URL
redirects nowhere. -/
def Request.redirected? (request : Request) (answer : Answer) : Option Request := do
  let location ← answer.location
  let url ← (Url.join request.url location).toOption
  match answer.status.code with
  | 301 | 302 | 303 => some ⟨.get, url, none⟩
  | 307 | 308 => some { request with url }
  | _ => none

/-- How an exchange went: the answer that no redirect followed, or why there is
none, the requests the agent received, and the agent afterwards. -/
structure Exchange where
  outcome : Except Failure Answer
  sent : List Request
  agent : Agent

/-- Sends a request and follows at most `allowance` redirects. -/
def exchange (allowance : Nat) (agent : Agent) (request : Request) : Exchange :=
  if !isHttpScheme request.url.scheme then ⟨.error (.unsupported request.url), [], agent⟩
  else if !agent.reaches request.url then ⟨.error (.unanswered request.url), [], agent⟩
  else
    match agent.nextReply with
    | .silence => ⟨.error (.timedOut request.url), [request], agent.served⟩
    | .closure => ⟨.error (.unanswered request.url), [request], agent.served⟩
    | .answer answer =>
      match request.redirected? answer, allowance with
      | none, _ => ⟨.ok answer, [request], agent.served⟩
      | some _, 0 => ⟨.error (.endlessRedirect request.url), [request], agent.served⟩
      | some following, allowance + 1 =>
        let rest := exchange allowance agent.served following
        ⟨rest.outcome, request :: rest.sent, rest.agent⟩

/-- The number of redirects that are followed. -/
def redirectLimit : Nat := 10

end Registry
end ServiceBeacon
