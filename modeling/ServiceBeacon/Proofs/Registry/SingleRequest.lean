import ServiceBeacon.Proofs.Text.Utf8
import ServiceBeacon.Proofs.Url.Hierarchy
import ServiceBeacon.Proofs.Url.PlainHost
import ServiceBeacon.Registry.Client

namespace ServiceBeacon
namespace Registry

/-!
# When a call is one request

A call is meant to be one request whose reply alone decides what comes of it.
It is, unless the agent replies with a redirect: then the client asks somewhere
else, and a success that is reported may be the answer to another question.
The theorems here find the exact replies after which that happens.

An exchange recurses on the redirects it may still follow, so it is described
by what the next reply makes of it: it ends there, or it is the exchange of
the following request behind the present one.
-/

/-! ## Replies that redirect -/

/-- The codes whose answers are followed if they name another place. -/
def redirectCodes : List Nat := [301, 302, 303, 307, 308]

/-- Whether a reply to a request at a URL sends the client elsewhere. -/
def Reply.Redirects (url : Url) : Reply → Prop
  | .answer given =>
    given.status.code ∈ redirectCodes ∧
      ∃ location target, given.location = some location ∧ Url.join url location = .ok target
  | .silence => False
  | .closure => False

/-- The client follows exactly the answers that redirect. -/
theorem redirected?_isSome_iff (request : Request) (answer : Answer) :
    (request.redirected? answer).isSome ↔ (Reply.answer answer).Redirects request.url := by
  cases place : answer.location with
  | none => simp [Request.redirected?, Reply.Redirects, place]
  | some location =>
    cases target : Url.join request.url location with
    | error fault => simp [Request.redirected?, Reply.Redirects, place, target, Except.toOption]
    | ok url =>
      simp only [Request.redirected?, Reply.Redirects, place, target, Except.toOption,
        Option.bind_eq_bind, Option.bind_some]
      split <;> simp_all [redirectCodes]

theorem redirected?_eq_none {request : Request} {answer : Answer}
    (final : ¬ (Reply.answer answer).Redirects request.url) :
    request.redirected? answer = none := by
  rw [← redirected?_isSome_iff] at final
  exact Option.not_isSome_iff_eq_none.mp final

/-- An answer that redirects is no success. -/
theorem isSuccess_of_redirects {url : Url} {answer : Answer}
    (redirects : (Reply.answer answer).Redirects url) : answer.status.isSuccess = false := by
  have listed := redirects.1
  simp only [redirectCodes, List.mem_cons, List.not_mem_nil, or_false] at listed
  rcases listed with code | code | code | code | code <;>
    simp only [Http.Status.isSuccess, code] <;> decide

/-! ## Exchanges -/

/-- What an exchange comes to if the first reply ends it. -/
def Request.settled (request : Request) : Reply → Except Failure Answer
  | .answer answer => .ok answer
  | .silence => .error (.timedOut request.url)
  | .closure => .error (.unanswered request.url)

/-- An agent that cannot be reached receives nothing. -/
theorem exchange_of_unreached (allowance : Nat) {agent : Agent} (request : Request)
    (http : isHttpScheme request.url.scheme = true)
    (unreached : agent.reaches request.url = false) :
    exchange allowance agent request = ⟨.error (.unanswered request.url), [], agent⟩ := by
  unfold exchange
  simp only [http, unreached, Bool.not_true, Bool.not_false, Bool.false_eq_true, if_false, if_true]

/-- A reply that does not redirect ends the exchange. -/
theorem exchange_of_final (allowance : Nat) {agent : Agent} (request : Request)
    (http : isHttpScheme request.url.scheme = true) (reached : agent.reaches request.url = true)
    (final : ¬ agent.nextReply.Redirects request.url) :
    exchange allowance agent request =
      ⟨request.settled agent.nextReply, [request], agent.served⟩ := by
  unfold exchange
  simp only [http, reached, Bool.not_true, Bool.false_eq_true, if_false]
  cases reply : agent.nextReply with
  | silence => rfl
  | closure => rfl
  | answer answer =>
    rw [reply] at final
    simp only [redirected?_eq_none final, Request.settled]

/-- A redirect puts the request in front of the exchange of the following one. -/
theorem exchange_of_redirect (allowance : Nat) {agent : Agent} {request following : Request}
    {answer : Answer} (http : isHttpScheme request.url.scheme = true)
    (reached : agent.reaches request.url = true) (reply : agent.nextReply = .answer answer)
    (redirected : request.redirected? answer = some following) :
    exchange (allowance + 1) agent request =
      ⟨(exchange allowance agent.served following).outcome,
        request :: (exchange allowance agent.served following).sent,
        (exchange allowance agent.served following).agent⟩ := by
  rw [exchange.eq_def]
  simp only [http, reached, Bool.not_true, Bool.false_eq_true, if_false, reply, redirected]

/-- A request to a URL that reaches the agent is the first that is received. -/
theorem head?_sent (allowance : Nat) {agent : Agent} {request : Request}
    (http : isHttpScheme request.url.scheme = true)
    (reached : agent.reaches request.url = true) :
    (exchange allowance agent request).sent.head? = some request := by
  unfold exchange
  simp only [http, reached, Bool.not_true, Bool.false_eq_true, if_false]
  split
  · rfl
  · rfl
  · split <;> rfl

/-- Where nothing is received, nothing is answered. -/
theorem outcome_of_sent_eq_nil {allowance : Nat} {agent : Agent} {request : Request}
    (unsent : (exchange allowance agent request).sent = []) :
    ∃ failure, (exchange allowance agent request).outcome = .error failure := by
  cases http : isHttpScheme request.url.scheme with
  | false =>
    unfold exchange
    simp only [http, Bool.not_false, if_true]
    exact ⟨_, rfl⟩
  | true =>
    cases reached : agent.reaches request.url with
    | false =>
      rw [exchange_of_unreached allowance request http reached]
      exact ⟨_, rfl⟩
    | true =>
      have received := head?_sent allowance http reached
      rw [unsent] at received
      cases received

/-! ## Agents that never redirect -/

/-- Whether no reply of an agent sends anybody elsewhere. -/
def Agent.NeverRedirects (agent : Agent) : Prop :=
  ∀ reply ∈ agent.replies, ∀ url, ¬ reply.Redirects url

namespace Agent.NeverRedirects

theorem served {agent : Agent} (never : agent.NeverRedirects) : agent.served.NeverRedirects :=
  fun reply member => never reply (List.mem_of_mem_tail member)

/-- An agent without instructions does not redirect either. -/
theorem nextReply {agent : Agent} (never : agent.NeverRedirects) (url : Url) :
    ¬ agent.nextReply.Redirects url := by
  unfold Agent.nextReply
  cases replies : agent.replies with
  | nil =>
    rintro ⟨listed, _⟩
    revert listed
    decide
  | cons reply rest => exact never reply (replies ▸ List.mem_cons_self) url

end Agent.NeverRedirects

/-! ## Calls -/

/-- What a call comes to if the first reply settles it. -/
def verdict (url : Url) : Reply → Except CallError Unit
  | .answer answer =>
    if answer.status.isSuccess then .ok ()
    else
      .error (.rejected answer.status
        (if answer.complete then Text.ofMarked answer.body else ""))
  | .silence => .error (.transport (.timedOut url))
  | .closure => .error (.transport (.unanswered url))

/-- What an agent says about a rejection is reported as it was written. -/
theorem verdict_of_text (url : Url) {status : Http.Status} (failed : status.isSuccess = false)
    (location : Option (List Char)) {text : String}
    (unmarked : text.toList.head? ≠ some '\uFEFF') :
    verdict url (.answer ⟨status, location, Text.Utf8.ofString text, true⟩) =
      .error (.rejected status text) := by
  rw [verdict, failed, if_neg Bool.false_ne_true, if_pos rfl, Text.ofMarked_ofString unmarked]

namespace Client

/-- Whether a call is one PUT request of its own URL and payload, settled by the
reply to that request. -/
def SettledAtOnce (client : Client) (operation : Operation) (identity : Identity)
    (agent : Agent) : Prop :=
  ∃ url, client.endpoint identity operation = .ok url ∧
    (client.call operation identity agent).sent = [⟨.put, url, payload identity operation⟩] ∧
    (client.call operation identity agent).value = verdict url agent.nextReply

/-- A client whose base URL has a scheme that web browsers know has a URL for
every call, under the same scheme. -/
theorem endpoint_of_ofText {baseUrl : String} {timeout : Duration} {client : Client}
    (read : ofText baseUrl timeout = .ok client)
    (special : Url.isSpecial client.baseUrl.scheme = true) (identity : Identity)
    (operation : Operation) :
    ∃ url, client.endpoint identity operation = .ok url ∧
      url.scheme = client.baseUrl.scheme := by
  unfold ofText at read
  cases parsed : Url.parse baseUrl.toList with
  | error fault =>
    rw [parsed] at read
    cases read
  | ok base =>
    rw [parsed] at read
    cases read
    rcases Url.parse_hierarchy parsed special with ⟨parts, path⟩
    simp only [endpoint, Url.extend, path]
    exact ⟨_, rfl, rfl⟩

/-- How the base URL of a configuration is written. -/
theorem toList_baseUrl (registry : Config.Registry) :
    registry.baseUrl.toList =
      "http://".toList ++ Url.hostAndPort registry.host.toList registry.port := by
  simp only [Config.Registry.baseUrl, String.toList_append, List.append_assoc, Url.hostAndPort,
    Text.decimal]
  rfl

/-- The client of a configuration with a plain host. -/
theorem ofConfig_of_isPlainHost {registry : Config.Registry}
    (plain : Url.IsPlainHost registry.host.toList) :
    ofConfig registry =
      .ok ⟨Url.ofPlainHost registry.host.toList registry.port,
        .ofSeconds registry.timeoutSeconds.toNat⟩ := by
  unfold ofConfig ofText
  rw [toList_baseUrl, Url.hostAndPort, plain.parse_eq]

/-- The base URL of a configuration is an `http` one. -/
theorem scheme_of_ofConfig {registry : Config.Registry} {client : Client}
    (made : ofConfig registry = .ok client) : client.baseUrl.scheme = "http".toList := by
  unfold ofConfig ofText at made
  rw [toList_baseUrl] at made
  split at made
  · rename_i url read
    cases made
    exact Url.scheme_of_parse_http read
  · cases made

/-- What a call makes of an answer is the verdict on it. -/
theorem judge_value (operation : Operation) (url : Url) (answer : Answer) :
    (judge operation answer).1 = verdict url (.answer answer) := by
  unfold judge
  cases success : answer.status.isSuccess <;> cases whole : answer.complete <;>
    simp [verdict, success, whole]

/-- The request that a call starts with. -/
def firstRequest (url : Url) (operation : Operation) (identity : Identity) : Request :=
  ⟨.put, url, payload identity operation⟩

section Located

variable {client : Client} {operation : Operation} {identity : Identity} {agent : Agent}
  {url : Url}

/-- What a call brings about is what the exchange of its first request brings
about; an answer counts as its status says. -/
theorem call_of_located (located : client.endpoint identity operation = .ok url) :
    let exchanged := exchange redirectLimit agent (firstRequest url operation identity)
    (client.call operation identity agent).sent = exchanged.sent ∧
      (client.call operation identity agent).agent = exchanged.agent ∧
      (client.call operation identity agent).value =
        match exchanged.outcome with
        | .error failure => .error (.transport failure)
        | .ok answer => verdict url (.answer answer) := by
  unfold call
  rw [located]
  dsimp only [firstRequest]
  cases outcome : (exchange redirectLimit agent
    ⟨.put, url, payload identity operation⟩).outcome with
  | error failure => exact ⟨rfl, rfl, rfl⟩
  | ok answer => exact ⟨rfl, rfl, judge_value operation url answer⟩

/-- A call that finds its agent starts with its own request. -/
theorem head?_sent_of_located (located : client.endpoint identity operation = .ok url)
    (http : isHttpScheme url.scheme = true) (reached : agent.reaches url = true) :
    (client.call operation identity agent).sent.head? =
      some (firstRequest url operation identity) := by
  have called := @call_of_located client operation identity agent url located
  rw [called.1]
  exact head?_sent redirectLimit http reached

/-- A call that finds its agent and is not redirected: the request that is
received, the agent that is left, and what comes of it. -/
theorem call_of_final (located : client.endpoint identity operation = .ok url)
    (http : isHttpScheme url.scheme = true) (reached : agent.reaches url = true)
    (final : ¬ agent.nextReply.Redirects url) :
    (client.call operation identity agent).sent = [firstRequest url operation identity] ∧
      (client.call operation identity agent).agent = agent.served ∧
      (client.call operation identity agent).value = verdict url agent.nextReply := by
  have called := @call_of_located client operation identity agent url located
  rw [exchange_of_final redirectLimit (firstRequest url operation identity) http reached
    final] at called
  refine ⟨called.1, called.2.1, called.2.2.trans ?_⟩
  cases agent.nextReply <;> rfl

/-- A call that does not find its agent sends nothing. -/
theorem call_of_unreached (located : client.endpoint identity operation = .ok url)
    (http : isHttpScheme url.scheme = true) (unreached : agent.reaches url = false) :
    (client.call operation identity agent).sent = [] ∧
      (client.call operation identity agent).agent = agent ∧
      (client.call operation identity agent).value = .error (.transport (.unanswered url)) := by
  have called := @call_of_located client operation identity agent url located
  rw [exchange_of_unreached redirectLimit (firstRequest url operation identity) http
    unreached] at called
  exact called

/-- An agent that never redirects receives the call's own request, if it is reached. -/
theorem sent_of_neverRedirects (located : client.endpoint identity operation = .ok url)
    (http : isHttpScheme url.scheme = true) (never : agent.NeverRedirects) :
    (client.call operation identity agent).sent =
        [firstRequest url operation identity].filter (fun request => agent.reaches request.url) ∧
      (client.call operation identity agent).agent.NeverRedirects ∧
      (client.call operation identity agent).agent.reaches = agent.reaches := by
  cases reached : agent.reaches url with
  | true =>
    have called := call_of_final located http reached (never.nextReply url)
    have target : agent.reaches (firstRequest url operation identity).url = true := reached
    rw [called.1, called.2.1]
    simp only [List.filter_cons, List.filter_nil, target, if_true]
    exact ⟨trivial, never.served, rfl⟩
  | false =>
    have called := call_of_unreached located http reached
    have target : agent.reaches (firstRequest url operation identity).url = false := reached
    rw [called.1, called.2.1]
    simp only [List.filter_cons, List.filter_nil, target, Bool.false_eq_true, if_false]
    exact ⟨trivial, never, trivial⟩

/-- A call that is redirected puts its own request in front of what is sent
elsewhere, and takes what comes of that for its own result. -/
theorem call_of_redirect {answer : Answer} {following : Request}
    (located : client.endpoint identity operation = .ok url)
    (http : isHttpScheme url.scheme = true) (reached : agent.reaches url = true)
    (reply : agent.nextReply = .answer answer)
    (redirected : (firstRequest url operation identity).redirected? answer = some following) :
    let elsewhere := exchange 9 agent.served following
    (client.call operation identity agent).sent =
        firstRequest url operation identity :: elsewhere.sent ∧
      (client.call operation identity agent).value =
        match elsewhere.outcome with
        | .error failure => .error (.transport failure)
        | .ok answer => verdict url (.answer answer) := by
  have called := @call_of_located client operation identity agent url located
  rw [redirectLimit, exchange_of_redirect 9 http reached reply redirected] at called
  exact ⟨called.1, called.2.2⟩

/-- A redirect that is followed spoils the call: a second request is received,
or the call fails although it was answered. -/
theorem not_settledAtOnce_of_redirects (located : client.endpoint identity operation = .ok url)
    (http : isHttpScheme url.scheme = true) (reached : agent.reaches url = true)
    (redirects : agent.nextReply.Redirects url) :
    ¬ client.SettledAtOnce operation identity agent := by
  rintro ⟨found, foundAt, sent, value⟩
  cases located.symm.trans foundAt
  cases reply : agent.nextReply with
  | silence =>
    rw [reply] at redirects
    exact redirects
  | closure =>
    rw [reply] at redirects
    exact redirects
  | answer answer =>
    rw [reply] at redirects value
    have followed : ((firstRequest url operation identity).redirected? answer).isSome :=
      (redirected?_isSome_iff _ answer).mpr redirects
    rcases Option.isSome_iff_exists.mp followed with ⟨following, redirected⟩
    have called := call_of_redirect located http reached reply redirected
    -- If no second request is received, the failure to send it is what is reported.
    have unsent : (exchange 9 agent.served following).sent = [] := by
      have same := called.1.symm.trans sent
      exact (List.cons.inj same).2
    rcases outcome_of_sent_eq_nil unsent with ⟨failure, outcome⟩
    have reported := called.2
    rw [outcome, value] at reported
    simp only [verdict, isSuccess_of_redirects redirects, Bool.false_eq_true, if_false] at reported
    cases reported

end Located

/-- A call of a client whose base URL is an `http` URL is one request settled
by its reply exactly when that reply does not redirect.  Where the URL of the
call does not reach the agent, nothing is received and the call fails. -/
theorem settledAtOnce_iff {baseUrl : String} {timeout : Duration} {client : Client}
    (read : ofText baseUrl timeout = .ok client)
    (http : client.baseUrl.scheme = "http".toList) (operation : Operation)
    (identity : Identity) (agent : Agent) :
    ∃ url, client.endpoint identity operation = .ok url ∧
      (agent.reaches url = true →
        (client.SettledAtOnce operation identity agent ↔ ¬ agent.nextReply.Redirects url)) ∧
      (agent.reaches url = false →
        (client.call operation identity agent).sent = [] ∧
          (client.call operation identity agent).value =
            .error (.transport (.unanswered url))) := by
  have special : Url.isSpecial client.baseUrl.scheme = true := by
    rw [http]
    rfl
  rcases endpoint_of_ofText read special identity operation with ⟨url, located, scheme⟩
  have plain : isHttpScheme url.scheme = true := by
    rw [scheme, http]
    rfl
  refine ⟨url, located, ?_, ?_⟩
  · intro reached
    constructor
    · intro settled redirects
      exact not_settledAtOnce_of_redirects located plain reached redirects settled
    · intro final
      have called := call_of_final located plain reached final
      exact ⟨url, located, called.1, called.2.2⟩
  · intro unreached
    have called := call_of_unreached located plain unreached
    exact ⟨called.1, called.2.2⟩

/-- An agent on the same host that refuses the announcement settles it at once. -/
theorem settledAtOnce_of_refusal :
    ∃ client, ofText Config.Registry.default.baseUrl (.ofSeconds 5) = .ok client ∧
      client.baseUrl.scheme = "http".toList ∧
      client.SettledAtOnce .register (Identity.ofConfig Config.default)
        ⟨fun _ => true, [.answer ⟨⟨500⟩, none, [], true⟩]⟩ := by
  have plain : Url.IsPlainHost Config.Registry.default.host.toList := by decide
  have made := ofConfig_of_isPlainHost plain
  rcases settledAtOnce_iff made rfl .register (Identity.ofConfig Config.default)
    ⟨fun _ => true, [.answer ⟨⟨500⟩, none, [], true⟩]⟩ with ⟨_, _, settled, _⟩
  refine ⟨_, made, rfl, (settled rfl).mpr ?_⟩
  rintro ⟨listed, _⟩
  revert listed
  decide

/-- An agent that sends the announcement elsewhere and welcomes whoever arrives
there: a second request is received, which carries no descriptor, and the
announcement counts as accepted. -/
theorem register_succeeds_elsewhere :
    ∃ client, ofText Config.Registry.default.baseUrl (.ofSeconds 5) = .ok client ∧
      client.baseUrl.scheme = "http".toList ∧
      ∃ agent : Agent,
        agent.nextReply = .answer ⟨⟨302⟩, some "/elsewhere".toList, [], true⟩ ∧
        (client.call .register (Identity.ofConfig Config.default) agent).sent.map
            Request.method = [.put, .get] ∧
        (client.call .register (Identity.ofConfig Config.default) agent).value = .ok () ∧
        ¬ client.SettledAtOnce .register (Identity.ofConfig Config.default) agent := by
  have plain : Url.IsPlainHost Config.Registry.default.host.toList := by decide
  have made := ofConfig_of_isPlainHost plain
  let identity := Identity.ofConfig Config.default
  let agent : Agent := ⟨fun _ => true, [.answer ⟨⟨302⟩, some "/elsewhere".toList, [], true⟩]⟩
  let url : Url :=
    { Url.ofPlainHost Config.Registry.default.host.toList Config.Registry.default.port with
      path := .segments ["v1".toList, "agent".toList, "service".toList, "register".toList] }
  let following : Request := ⟨.get, { url with path := .segments ["elsewhere".toList] }, none⟩
  have joined : Url.join url "/elsewhere".toList = .ok following.url := rfl
  have redirected : (firstRequest url .register identity).redirected?
      ⟨⟨302⟩, some "/elsewhere".toList, [], true⟩ = some following := rfl
  have welcomed : ¬ agent.served.nextReply.Redirects following.url := by
    rintro ⟨listed, _⟩
    revert listed
    decide
  have located : (Client.mk (Url.ofPlainHost Config.Registry.default.host.toList
      Config.Registry.default.port) (.ofSeconds 5)).endpoint identity .register = .ok url := rfl
  have called := @call_of_redirect _ _ identity agent url _ following located rfl rfl rfl redirected
  rw [exchange_of_final 9 following rfl rfl welcomed] at called
  refine ⟨_, made, rfl, agent, rfl, ?_, called.2, ?_⟩
  · exact congrArg (List.map Request.method) called.1
  · exact not_settledAtOnce_of_redirects located rfl rfl
      ⟨by decide, "/elsewhere".toList, following.url, rfl, joined⟩

end Client
end Registry
end ServiceBeacon
