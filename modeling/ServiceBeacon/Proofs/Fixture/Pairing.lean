import ServiceBeacon.Proofs.Fixture.Serving
import ServiceBeacon.Proofs.Registry.SingleRequest

namespace ServiceBeacon
namespace Fixture

open History (Lacks Silent Uneventful)

/-!
# Announced once, withdrawn once

A run that comes to an end either leaves the registry alone or announces one
identity and withdraws the same one, each once.  The announcement is over
before the server accepts connections, and the withdrawal begins after it has
stopped, also if it broke down.  Which of the two it is depends on nothing
that the registry does.
-/

variable {config : Config} {circumstances : Circumstances}

/-- Whether a run gets as far as announcing its service: there are a registry, a certificate
if one is needed, and a listener, and no shutdown is requested before. -/
structure Announces (config : Config) (circumstances : Circumstances) : Prop where
  registry : HasRegistry config.registry
  started : circumstances.requested .starting = false
  prepared : ∃ material, (prepare config circumstances).1 = .ok material
  proceeds : Proceeds circumstances

/-- Whether a part is the time of a server: if it starts, it accepts connections once and
stops once, and otherwise neither.  Nothing in it concerns the registry. -/
inductive IsServerTime (starts : Prop) : History → Prop where
  | never {part : History} : ¬ starts → Uneventful part → IsServerTime starts part
  | once {opening service closing : History} : starts → Uneventful opening →
      Uneventful service → Uneventful closing →
      IsServerTime starts (opening ++ [.accepting] ++ service ++ [.stopped] ++ closing)

/-- Whether a history has the call that announces an identity, the time of the server,
and the call that withdraws the identity, in this order, and nothing else that concerns
the registry or the server's life. -/
def IsPaired (client : Registry.Client) (identity : Identity) (agent : Registry.Agent)
    (starts : Prop) (history : History) : Prop :=
  ∃ before between after, Uneventful before ∧ IsServerTime starts between ∧ Uneventful after ∧
    history =
      before ++ callHistory .register identity (Registry.Guard.acquire client identity agent) ++
        between ++
        callHistory .deregister identity
          ((Registry.Guard.acquire client identity agent).value.release
            (Registry.Guard.acquire client identity agent).agent).1 ++
        after

namespace IsServerTime

variable {starts : Prop} {part : History}

theorem withoutRegistry (time : IsServerTime starts part) :
    Lacks Happening.concernsRegistry part := by
  cases time with
  | never _ uneventful => exact uneventful.withoutRegistry
  | once _ opening service closing =>
    simp only [History.lacks_append, opening.withoutRegistry, service.withoutRegistry,
      closing.withoutRegistry, true_and, and_true]
    exact ⟨History.lacks_singleton rfl, History.lacks_singleton rfl⟩

/-- The time of a server that comes to an end is such a part, and so is what happens
silently before. -/
theorem of_served {server : Http.Server} {address : SocketAddress}
    (served : Served server address circumstances part) {front : History}
    (silent : Silent front) : IsServerTime (TakesOver circumstances) (front ++ part) := by
  cases served with
  | @never cause refused =>
    rw [List.append_nil]
    exact .never (fun takesOver => takesOver cause refused) silent.uneventful
  | @once service closing takesOver uneventful quiet _ =>
    have opening := History.lacks_append.mpr
      ⟨silent.uneventful, (History.silent_noticed (server.startEvent address)).uneventful⟩
    have same : front ++ ([.noticed (server.startEvent address), .accepting] ++ service ++
          [.stopped] ++ closing) =
        (front ++ [.noticed (server.startEvent address)]) ++ [.accepting] ++ service ++
          [.stopped] ++ closing := by
      simp only [List.append_assoc, List.cons_append, List.nil_append]
    rw [same]
    exact .once takesOver opening uneventful quiet.uneventful

end IsServerTime

/-! ## Views of a call -/

section Call

variable {α : Type} (operation : Registry.Operation) (identity : Identity)
  (effect : Registry.Effect α)

theorem calls_callHistory :
    (callHistory operation identity effect).calls = [(operation, identity)] := by
  have sent : History.calls (effect.sent.map .sent) = [] := by
    rw [History.calls, List.filterMap_map]
    exact List.filterMap_eq_nil_iff.mpr fun _ _ => rfl
  have noticed := (History.calls_eq_nil
    (History.silent_ofNotices effect.notices).uneventful.withoutRegistry).1
  unfold callHistory
  rw [History.calls_append, History.calls_append, sent, noticed]
  rfl

theorem requests_callHistory :
    (callHistory operation identity effect).requests = effect.sent := by
  have sent : History.requests (effect.sent.map .sent) = effect.sent := by
    rw [History.requests, List.filterMap_map]
    exact List.filterMap_some
  have noticed := (History.calls_eq_nil
    (History.silent_ofNotices effect.notices).uneventful.withoutRegistry).2
  unfold callHistory
  rw [History.requests_append, History.requests_append, sent, noticed]
  exact (List.append_nil _).trans (List.append_nil _)

theorem responses_callHistory : (callHistory operation identity effect).responses = [] := by
  have sent : History.responses (effect.sent.map .sent) = [] := by
    rw [History.responses, List.filterMap_map]
    exact List.filterMap_eq_nil_iff.mpr fun _ _ => rfl
  unfold callHistory
  rw [History.responses_append, History.responses_append, sent,
    History.responses_eq_nil (History.silent_ofNotices effect.notices).unanswered]
  rfl

end Call

namespace IsPaired

variable {client : Registry.Client} {identity : Identity} {agent : Registry.Agent}
  {starts : Prop} {history : History}

theorem calls_eq (paired : IsPaired client identity agent starts history) :
    history.calls = [(.register, identity), (.deregister, identity)] := by
  rcases paired with ⟨before, between, after, early, time, late, rfl⟩
  have none : ∀ {part : History}, Uneventful part → part.calls = [] :=
    fun uneventful => (History.calls_eq_nil uneventful.withoutRegistry).1
  simp only [History.calls_append, calls_callHistory, none early,
    (History.calls_eq_nil time.withoutRegistry).1, none late, List.nil_append, List.append_nil]
  rfl

/-- The registry receives what the two calls send. -/
theorem requests_eq (paired : IsPaired client identity agent starts history) :
    history.requests =
      (client.call .register identity agent).sent ++
        (client.call .deregister identity (client.call .register identity agent).agent).sent := by
  rcases paired with ⟨before, between, after, early, time, late, rfl⟩
  have none : ∀ {part : History}, Uneventful part → part.requests = [] :=
    fun uneventful => (History.calls_eq_nil uneventful.withoutRegistry).2
  simp only [History.requests_append, requests_callHistory, none early,
    (History.calls_eq_nil time.withoutRegistry).2, none late, List.nil_append, List.append_nil,
    Registry.Guard.release_eq]
  rfl

/-- An agent that never redirects receives one request for each call, if it is reached. -/
theorem requests_of_neverRedirects {registry : Config.Registry}
    (paired : IsPaired client identity agent starts history)
    (made : Registry.Client.ofConfig registry = .ok client) (never : agent.NeverRedirects) :
    ∃ announced withdrawn, client.endpoint identity .register = .ok announced ∧
      client.endpoint identity .deregister = .ok withdrawn ∧
      history.requests =
        [Registry.Client.firstRequest announced .register identity,
          Registry.Client.firstRequest withdrawn .deregister identity].filter
            fun request => agent.reaches request.url := by
  have scheme := Registry.Client.scheme_of_ofConfig made
  have special : Url.isSpecial client.baseUrl.scheme = true := by
    rw [scheme]
    rfl
  have located := Registry.Client.endpoint_of_ofText made special identity
  rcases located .register with ⟨announced, announcedAt, announcedScheme⟩
  rcases located .deregister with ⟨withdrawn, withdrawnAt, withdrawnScheme⟩
  have http : Registry.isHttpScheme client.baseUrl.scheme = true := by
    rw [scheme]
    rfl
  have first := Registry.Client.sent_of_neverRedirects announcedAt (announcedScheme ▸ http) never
  have second := Registry.Client.sent_of_neverRedirects withdrawnAt (withdrawnScheme ▸ http)
    first.2.1
  refine ⟨announced, withdrawn, announcedAt, withdrawnAt, ?_⟩
  rw [paired.requests_eq, first.1, second.1, first.2.2, ← List.filter_append]
  rfl

/-- Parts without turning points in front and behind change nothing. -/
theorem surrounded (paired : IsPaired client identity agent starts history) {front back : History}
    (quietFront : Uneventful front) (quietBack : Uneventful back) :
    IsPaired client identity agent starts (front ++ history ++ back) := by
  rcases paired with ⟨before, between, after, early, time, late, rfl⟩
  refine ⟨front ++ before, between, after ++ back, History.lacks_append.mpr ⟨quietFront, early⟩,
    time, History.lacks_append.mpr ⟨late, quietBack⟩, ?_⟩
  simp only [List.append_assoc]

end IsPaired

/-! ## Runs without and with an announcement -/

/-- A listener without a registry has nothing to do with one. -/
theorem Listening.apart {secure : Bool} {outcome : Outcome}
    (listening : Listening config circumstances secure outcome)
    (complete : outcome.ending ≠ .unfinished)
    (absent : Proceeds circumstances → ¬ HasRegistry config.registry) :
    Lacks Happening.concernsRegistry outcome.history := by
  cases listening with
  | unbound failed => exact History.lacks_nil
  | unaddressed opened failed => exact opened.uneventful.withoutRegistry
  | stopped opened addressed requested =>
    refine History.lacks_append.mpr ⟨opened.uneventful.withoutRegistry, ?_⟩
    exact History.lacks_cons.mpr ⟨rfl, History.lacks_cons.mpr ⟨rfl, History.lacks_nil⟩⟩
  | @served opening address opened addressed prepared bound =>
    -- Here the run proceeds, so it is the registry that is missing.
    have none := absent ⟨opened.bound, ⟨address, addressed⟩, prepared, bound⟩
    rw [announceAndServe_eq] at complete ⊢
    rcases announce_of_none none (announcedIdentity config address) circumstances.agent with
      ⟨notice, announced⟩
    rw [announced] at complete ⊢
    simp only [Outcome.behind_ending, Outcome.followedBy_ending] at complete
    have served := (serve_of_complete _ address complete).2
    have time := (IsServerTime.of_served served
      (silent_requests circumstances .announcing)).withoutRegistry
    rw [History.lacks_append] at time
    rw [Outcome.behind_history, Outcome.behind_history, Outcome.followedBy_history complete]
    simp only [History.lacks_append, History.lacks_cons, History.lacks_nil, and_true,
      opened.uneventful.withoutRegistry, time.1, time.2, withdraw, true_and]
    exact ⟨rfl, rfl⟩

/-- A run that does not get as far as announcing has nothing to do with the registry. -/
theorem Course.apart {outcome : Outcome} (course : Course config circumstances outcome)
    (complete : outcome.ending ≠ .unfinished) (silent : ¬ Announces config circumstances) :
    Lacks Happening.concernsRegistry outcome.history := by
  cases course with
  | stoppedAtOnce requested =>
    exact History.lacks_cons.mpr ⟨rfl, History.lacks_cons.mpr ⟨rfl, History.lacks_nil⟩⟩
  | stoppedPreparing secure requested =>
    have abandoned := (silent_abandon config circumstances).uneventful.withoutRegistry
    exact History.lacks_cons.mpr ⟨rfl, History.lacks_cons.mpr ⟨rfl, abandoned⟩⟩
  | unprepared patient failed =>
    exact (silent_of_prepare failed).uneventful.withoutRegistry
  | @prepared material history outcome patient prepared listening =>
    rw [Outcome.followedBy_ending] at complete
    have front := (silent_of_prepare prepared).uneventful.withoutRegistry
    have requested := (silent_requests circumstances .binding).uneventful.withoutRegistry
    have released := (silent_releaseMaterial material).uneventful.withoutRegistry
    have absent : Proceeds circumstances → ¬ HasRegistry config.registry := by
      intro proceeds registry
      have started : circumstances.requested .starting = false :=
        Bool.eq_false_iff.mpr fun requested => patient (Or.inl requested)
      exact silent ⟨registry, started, ⟨material, congrArg Prod.fst prepared⟩, proceeds⟩
    rw [Outcome.followedBy_history complete, Outcome.behind_history]
    exact History.lacks_append.mpr ⟨History.lacks_append.mpr
      ⟨History.lacks_append.mpr ⟨front, requested⟩, listening.apart complete absent⟩, released⟩

/-- Announcing through a client, serving and withdrawing is a pair of calls
around the time of the server. -/
theorem paired_announceAndServe {client : Registry.Client}
    (enabled : config.registry.enabled = true)
    (made : Registry.Client.ofConfig config.registry = .ok client) (identity : Identity)
    (secure : Bool) (address : SocketAddress)
    (complete : (announceAndServe config circumstances identity secure address
      (listeningLatch false)).ending ≠ .unfinished) :
    let served := announceAndServe config circumstances identity secure address
      (listeningLatch false)
    IsPaired client identity circumstances.agent (TakesOver circumstances) served.history ∧
      served.history.responses =
        circumstances.reaching.map fun arrival =>
          ((Http.Server.ofConfig config.timeouts identity secure).respond arrival).1 := by
  rw [announceAndServe_eq, announce_of_client enabled made] at complete ⊢
  simp only [Outcome.behind_ending, Outcome.followedBy_ending] at complete
  have served := (serve_of_complete _ address complete).2
  have announcing := silent_requests circumstances .announcing
  simp only [Outcome.behind_history, Outcome.followedBy_history complete, withdraw_of_guard]
  constructor
  · refine ⟨[], _, [], History.lacks_nil, .of_served served announcing, History.lacks_nil, ?_⟩
    simp only [List.append_assoc, List.nil_append, List.append_nil]
    rfl
  · simp only [History.responses_append, responses_callHistory,
      History.responses_eq_nil announcing.unanswered, served.responses_eq, List.nil_append,
      List.append_nil]

/-- A run that gets as far as announcing does so once, and withdraws what it
announced. -/
theorem Course.paired {outcome : Outcome} (course : Course config circumstances outcome)
    (complete : outcome.ending ≠ .unfinished) (announces : Announces config circumstances) :
    ∃ client address secure, Registry.Client.ofConfig config.registry = .ok client ∧
      circumstances.localAddress = .ok address ∧
      IsPaired client (announcedIdentity config address) circumstances.agent
        (TakesOver circumstances) outcome.history ∧
      outcome.history.responses =
        circumstances.reaching.map fun arrival =>
          ((Http.Server.ofConfig config.timeouts (announcedIdentity config address)
            secure).respond arrival).1 := by
  rcases announces with ⟨⟨enabled, client, made⟩, started, ready, proceeds⟩
  have patient : ¬ StopsEarly config circumstances := by
    rintro (requested | ⟨_, requested⟩)
    · exact Bool.false_ne_true (started.symm.trans requested)
    · exact Bool.false_ne_true (proceeds.unrequested.1.symm.trans requested)
  rcases course.served_of_proceeds patient ready proceeds with
    ⟨front, address, material, uneventful, unanswered, addressed, rfl⟩
  rw [Outcome.followedBy_ending] at complete
  rcases paired_announceAndServe enabled made (announcedIdentity config address)
    material.isSome address complete with ⟨paired, responses⟩
  have released := silent_releaseMaterial material
  rw [Outcome.followedBy_history complete, Outcome.behind_history]
  refine ⟨client, address, material.isSome, made, addressed, ?_, ?_⟩
  · exact paired.surrounded uneventful released.uneventful
  · rw [History.responses_surrounded unanswered released.unanswered, responses]

/-- Whether a request that arrives asks for the description of the service, and
can be answered in time. -/
def AsksForDescription (arrival : Http.Arrival) : Prop :=
  arrival.overdue = false ∧ arrival.request.method = "GET" ∧
    arrival.request.target.path = "/info".toList

/-- A run that comes to an end makes no registry call at all, or it announces one
identity before it serves and withdraws the same one after it has served.  That
identity has the port of the listener, and its name and identifier are what clients
read in the description of the service.  The run does the latter exactly if it gets as
far as announcing.  Agents that never redirect anybody receive one request for each
call, if they are reached. -/
theorem registry_calls_paired (complete : (run config circumstances).ending ≠ .unfinished) :
    (¬ Announces config circumstances ∧ (run config circumstances).history.calls = [] ∧
        (run config circumstances).history.requests = []) ∨
      (Announces config circumstances ∧ ∃ client address identity secure,
        Registry.Client.ofConfig config.registry = .ok client ∧
        circumstances.localAddress = .ok address ∧
        identity = (Identity.ofConfig config).withPort address.port ∧
        identity.port = address.port ∧
        (run config circumstances).history.calls =
          [(.register, identity), (.deregister, identity)] ∧
        IsPaired client identity circumstances.agent (TakesOver circumstances)
          (run config circumstances).history ∧
        (circumstances.agent.NeverRedirects → ∃ announced withdrawn,
          client.endpoint identity .register = .ok announced ∧
          client.endpoint identity .deregister = .ok withdrawn ∧
          (run config circumstances).history.requests =
            [Registry.Client.firstRequest announced .register identity,
              Registry.Client.firstRequest withdrawn .deregister identity].filter
                fun request => circumstances.agent.reaches request.url) ∧
        (run config circumstances).history.responses =
          circumstances.reaching.map (fun arrival =>
            ((Http.Server.ofConfig config.timeouts identity secure).respond arrival).1) ∧
        ∀ arrival, AsksForDescription arrival →
          let response := ((Http.Server.ofConfig config.timeouts identity secure).respond arrival).1
          response.status = .ok ∧
            ∃ members, Json.ReadsAs response.body (.object members) ∧
              members.lookup "name" = some (.string identity.serviceName) ∧
              members.lookup "id" = some (.string identity.serviceId)) := by
  have course := course_run config circumstances
  by_cases announces : Announces config circumstances
  · rcases course.paired complete announces with
      ⟨client, address, secure, made, addressed, paired, responses⟩
    refine Or.inr ⟨announces, client, address, announcedIdentity config address, secure, made,
      addressed, rfl, rfl, paired.calls_eq, paired,
      fun never => paired.requests_of_neverRedirects made never, responses, ?_⟩
    rintro arrival ⟨timely, method, path⟩
    exact respond_info _ timely method path
  · have apart := History.calls_eq_nil (course.apart complete announces)
    exact Or.inl ⟨announces, apart.1, apart.2⟩

/-- The configuration of a service that is announced on the same host. -/
def announcing : Config :=
  { Config.default with registry := { Config.Registry.default with enabled := true } }

/-- A server that breaks down before anybody asks it to stop. -/
def brokenDown : Circumstances where
  draw := ⟨⟨0, 0, 0, 0, 0, 0, 0, 0⟩, List.replicate 16 0, rfl, 0⟩
  disk := ⟨"", .complete, "", .complete⟩
  reread := fun _ written => .bytes written
  socket := .given
  localAddress := .ok ⟨.v4 ⟨127, 0, 0, 1⟩, 0, 8080⟩
  agent := .absent
  arrivals := []
  serving := .error (.whileServing "connection reset")
  requested := fun _ => false

/-- What is announced is withdrawn although the server breaks down. -/
theorem registry_calls_brokenDown :
    (run announcing brokenDown).ending ≠ .unfinished ∧
      (run announcing brokenDown).history.calls =
        [(.register, (Identity.ofConfig announcing).withPort 8080),
          (.deregister, (Identity.ofConfig announcing).withPort 8080)] := by
  have complete := (course_run announcing brokenDown).complete (Or.inl ⟨_, rfl⟩)
  have plain : Url.IsPlainHost announcing.registry.host.toList := by decide
  have announces : Announces announcing brokenDown :=
    ⟨⟨rfl, _, Registry.Client.ofConfig_of_isPlainHost plain⟩, rfl, ⟨none, rfl⟩,
      ⟨fun cause => by rintro ⟨⟩, ⟨_, rfl⟩, rfl, rfl⟩⟩
  rcases registry_calls_paired complete with
    ⟨silent, _⟩ | ⟨_, client, address, identity, secure, _, addressed, rfl, _, calls, _⟩
  · exact absurd announces silent
  · cases addressed
    exact ⟨complete, calls⟩

end Fixture
end ServiceBeacon
