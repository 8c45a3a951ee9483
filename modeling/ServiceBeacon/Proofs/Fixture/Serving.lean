import ServiceBeacon.Proofs.Fixture.Course
import ServiceBeacon.Proofs.Http.Identifier
import ServiceBeacon.Proofs.Json.Trees
import ServiceBeacon.Proofs.Registry.Reports

namespace ServiceBeacon
namespace Fixture

open History (Silent Uneventful)

/-!
# Serving and what surrounds it

The server is started once and stopped once, unless it goes on for ever.  In
front of it stands the announcement, if there is one, and behind it the
withdrawal through the same guard.  A signal that is ready makes the server
drain its connections before it stops, also if it breaks down meanwhile.  A server
that cannot take its listener over does none of this.
-/

variable {config : Config} {circumstances : Circumstances}

/-! ## Requests of clients -/

theorem uneventful_respond (server : Http.Server) (arrivals : List Http.Arrival) :
    Uneventful (respond server arrivals) := by
  intro happening member
  rcases List.mem_flatMap.mp member with ⟨arrival, _, within⟩
  have part : Uneventful (History.ofNotices (server.respond arrival).2 ++
      [.answered (server.respond arrival).1]) := by
    refine History.lacks_append.mpr ⟨(History.silent_ofNotices _).uneventful, ?_⟩
    exact History.lacks_cons.mpr ⟨rfl, History.lacks_nil⟩
  exact part happening within

/-- Every request that arrives is answered, in the order of their arrival. -/
theorem responses_respond (server : Http.Server) (arrivals : List Http.Arrival) :
    (respond server arrivals).responses =
      arrivals.map fun arrival => (server.respond arrival).1 := by
  induction arrivals with
  | nil => rfl
  | cons arrival rest inductionHypothesis =>
    have first : respond server (arrival :: rest) =
        (History.ofNotices (server.respond arrival).2 ++ [.answered (server.respond arrival).1]) ++
          respond server rest := rfl
    rw [first, History.responses_append, History.responses_append, inductionHypothesis,
      History.responses_eq_nil (History.silent_ofNotices _).unanswered]
    rfl

/-- Who asks for the description of the service in time is told its name and its
identifier. -/
theorem respond_info (server : Http.Server) {arrival : Http.Arrival}
    (timely : arrival.overdue = false) (method : arrival.request.method = "GET")
    (path : arrival.request.target.path = "/info".toList) :
    (server.respond arrival).1.status = .ok ∧
      ∃ members, Json.ReadsAs (server.respond arrival).1.body (.object members) ∧
        members.lookup "name" = some (.string server.site.identity.serviceName) ∧
        members.lookup "id" = some (.string server.site.identity.serviceId) := by
  have route : Http.Route.ofPath? "/info".toList = some .info := rfl
  have answered : server.site.answer arrival.request = .ofJson .ok server.site.description := by
    unfold Http.Site.answer Http.Site.fullAnswer
    rw [path, route, method, if_neg (by decide)]
    rfl
  have body : (server.respond arrival).1.body = server.site.description.text := by
    rw [Http.Server.respond, Http.serve_eq, timely, answered]
    rfl
  constructor
  · rw [Http.Server.respond, Http.serve_eq, timely, answered]
    rfl
  · rw [body]
    exact ⟨_, Json.readsAs_text _, rfl, rfl⟩

/-! ## The server -/

/-- How a server ends that stops: as it should, or with what broke it down. -/
def endingOf : Except Breakdown Unit → Ending
  | .ok _ => .finished
  | .error breakdown => .failed (.serve breakdown.cause)

theorem endingOf_ne_unfinished (result : Except Breakdown Unit) :
    endingOf result ≠ .unfinished := by
  cases result <;> rintro ⟨⟩

/-- Whether the server can take its listener over. -/
def TakesOver (circumstances : Circumstances) : Prop :=
  ∀ cause, circumstances.serving ≠ .error (.atStart cause)

/-- The requests that get to the server, which are none if it has no listener. -/
def Circumstances.reaching (circumstances : Circumstances) : List Http.Arrival :=
  match circumstances.serving with
  | .error (.atStart _) => []
  | _ => circumstances.arrivals

theorem reaching_of_takesOver (takesOver : TakesOver circumstances) :
    circumstances.reaching = circumstances.arrivals := by
  unfold Circumstances.reaching
  split
  · rename_i refused
    exact absurd refused (takesOver _)
  · rfl

theorem serve_of_atStart (server : Http.Server) (address : SocketAddress) {latch : Shutdown}
    {cause : String} (refused : circumstances.serving = .error (.atStart cause)) :
    serve server address circumstances latch = ⟨.failed (.serve cause), []⟩ := by
  unfold serve
  dsimp only
  rw [refused]

/-- A server whose signal is ready drains its connections and stops. -/
theorem serve_of_ready (server : Http.Server) (address : SocketAddress) {latch : Shutdown}
    (takesOver : TakesOver circumstances)
    (ready : (passPhase circumstances .serving latch).isReady serverSignal = true) :
    (serve server address circumstances latch).ending = endingOf circumstances.serving ∧
      ∃ closing, Silent closing ∧
        (serve server address circumstances latch).history =
          [.noticed (server.startEvent address), .accepting] ++
            (respond server circumstances.arrivals ++ requests circumstances .serving ++
              .noticed server.drainEvent :: requests circumstances .draining) ++
            [.stopped] ++ closing := by
  unfold serve
  dsimp only
  rw [ready]
  cases serving : circumstances.serving with
  | error breakdown =>
    cases breakdown with
    | atStart cause => exact absurd serving (takesOver cause)
    | whileServing cause =>
      refine ⟨rfl, [], History.lacks_nil, ?_⟩
      simp only [if_true, List.append_assoc, List.append_nil, List.cons_append, List.nil_append]
  | ok goesOn =>
    refine ⟨rfl, [.noticed (Http.Server.stopEvent address)],
      History.lacks_cons.mpr ⟨rfl, History.lacks_nil⟩, ?_⟩
    simp only [if_true, List.append_assoc, List.cons_append, List.nil_append]

/-- A server whose signal is not ready stops only if it breaks down. -/
theorem serve_of_unready (server : Http.Server) (address : SocketAddress) {latch : Shutdown}
    (takesOver : TakesOver circumstances)
    (unready : (passPhase circumstances .serving latch).isReady serverSignal = false)
    (complete : (serve server address circumstances latch).ending ≠ .unfinished) :
    (serve server address circumstances latch).ending = endingOf circumstances.serving ∧
      (serve server address circumstances latch).history =
        [.noticed (server.startEvent address), .accepting] ++
          (respond server circumstances.arrivals ++ requests circumstances .serving) ++
          [.stopped] := by
  unfold serve at complete ⊢
  dsimp only at complete ⊢
  rw [unready] at complete ⊢
  cases serving : circumstances.serving with
  | error breakdown =>
    cases breakdown with
    | atStart cause => exact absurd serving (takesOver cause)
    | whileServing cause =>
      refine ⟨rfl, ?_⟩
      simp only [Bool.false_eq_true, if_false, List.append_assoc, List.append_nil]
  | ok goesOn =>
    rw [serving] at complete
    exact absurd rfl complete

/-- What becomes of the time of a server that comes to an end: it was started once and
stopped once and answered everybody in between, or it never had a listener. -/
inductive Served (server : Http.Server) (address : SocketAddress) (circumstances : Circumstances) :
    History → Prop where
  | never {cause : String} (refused : circumstances.serving = .error (.atStart cause)) :
      Served server address circumstances []
  | once {service closing : History} (takesOver : TakesOver circumstances)
      (uneventful : Uneventful service) (silent : Silent closing)
      (responses : service.responses =
        circumstances.arrivals.map fun arrival => (server.respond arrival).1) :
      Served server address circumstances
        ([.noticed (server.startEvent address), .accepting] ++ service ++ [.stopped] ++ closing)

/-- A server that comes to an end has had its time. -/
theorem serve_of_complete (server : Http.Server) (address : SocketAddress) {latch : Shutdown}
    (complete : (serve server address circumstances latch).ending ≠ .unfinished) :
    (serve server address circumstances latch).ending = endingOf circumstances.serving ∧
      Served server address circumstances (serve server address circumstances latch).history := by
  by_cases takesOver : TakesOver circumstances
  · have requested := silent_requests circumstances .serving
    have answered := uneventful_respond server circumstances.arrivals
    -- Only a server whose signal is ready has something to drain.
    cases ready : (passPhase circumstances .serving latch).isReady serverSignal with
    | true =>
      rcases serve_of_ready server address takesOver ready with
        ⟨ending, closing, silent, history⟩
      have drained : Silent (.noticed server.drainEvent :: requests circumstances .draining) :=
        History.lacks_cons.mpr ⟨rfl, silent_requests circumstances .draining⟩
      rw [history]
      refine ⟨ending, .once takesOver ?_ silent ?_⟩
      · exact History.lacks_append.mpr
          ⟨History.lacks_append.mpr ⟨answered, requested.uneventful⟩, drained.uneventful⟩
      · rw [History.responses_append, History.responses_append, responses_respond,
          History.responses_eq_nil requested.unanswered,
          History.responses_eq_nil (History.Silent.unanswered drained), List.append_nil,
          List.append_nil]
    | false =>
      rcases serve_of_unready server address takesOver ready complete with ⟨ending, history⟩
      rw [history.trans (List.append_nil _).symm]
      refine ⟨ending, .once takesOver ?_ History.lacks_nil ?_⟩
      · exact History.lacks_append.mpr ⟨answered, requested.uneventful⟩
      · rw [History.responses_append, responses_respond,
          History.responses_eq_nil requested.unanswered, List.append_nil]
  · rcases Classical.not_forall_not.mp takesOver with ⟨cause, refused⟩
    rw [serve_of_atStart server address refused, refused]
    exact ⟨rfl, .never refused⟩

/-- Clients get the responses to the requests that reach the server. -/
theorem Served.responses_eq {server : Http.Server} {address : SocketAddress} {history : History}
    (served : Served server address circumstances history) :
    history.responses = circumstances.reaching.map fun arrival => (server.respond arrival).1 := by
  cases served with
  | never refused =>
    rw [Circumstances.reaching, refused]
    rfl
  | once takesOver _ silent responses =>
    have started : ∀ notice, History.responses [.noticed notice, .accepting] = [] := fun _ => rfl
    have stopped : History.responses [.stopped] = [] := rfl
    rw [reaching_of_takesOver takesOver, ← responses]
    simp only [History.responses_append, started, stopped,
      History.responses_eq_nil silent.unanswered, List.nil_append, List.append_nil]

/-- A server that breaks down, or whose signal gets ready, comes to an end. -/
theorem ending_serve (server : Http.Server) (address : SocketAddress) {latch : Shutdown}
    (ends : (∃ breakdown, circumstances.serving = .error breakdown) ∨
      (passPhase circumstances .serving latch).isReady serverSignal = true) :
    (serve server address circumstances latch).ending = endingOf circumstances.serving := by
  refine (serve_of_complete server address ?_).1
  unfold serve
  dsimp only
  rcases ends with ⟨breakdown, broken⟩ | ready
  · rw [broken]
    cases breakdown <;> rintro ⟨⟩
  · rw [ready]
    split <;> rintro ⟨⟩

/-! ## The announcement -/

/-- Whether there is anything to announce a service through. -/
def HasRegistry (config : Config.Registry) : Prop :=
  config.enabled = true ∧ ∃ client, Registry.Client.ofConfig config = .ok client

/-- With a registry, announcing is acquiring a guard. -/
theorem announce_of_client {config : Config.Registry} {client : Registry.Client}
    (enabled : config.enabled = true) (made : Registry.Client.ofConfig config = .ok client)
    (identity : Identity) (agent : Registry.Agent) :
    let guard := Registry.Guard.acquire client identity agent
    announce config identity agent =
      ⟨some guard.value, callHistory .register identity guard, guard.agent⟩ := by
  unfold announce
  rw [if_pos enabled, made]

/-- Without a registry, announcing only says so. -/
theorem announce_of_none {config : Config.Registry} (absent : ¬ HasRegistry config)
    (identity : Identity) (agent : Registry.Agent) :
    ∃ notice, announce config identity agent = ⟨none, [.noticed notice], agent⟩ := by
  unfold announce
  by_cases enabled : config.enabled = true
  · rw [if_pos enabled]
    cases made : Registry.Client.ofConfig config with
    | error error => exact ⟨_, rfl⟩
    | ok client => exact absurd ⟨enabled, client, made⟩ absent
  · rw [if_neg enabled]
    exact ⟨_, rfl⟩

/-- What is announced through a guard is withdrawn by one call, which leaves nothing to
the background. -/
theorem withdraw_of_guard (guard : Registry.Guard) (history : History)
    (agent : Registry.Agent) :
    withdraw ⟨some guard, history, agent⟩ =
      callHistory .deregister guard.identity (guard.release agent).1 := by
  unfold withdraw
  dsimp only
  rw [guard.release_eq]
  exact List.append_nil _

/-- What stands between the check and the end of the run: the announcement, the
server, and the withdrawal once the server has stopped. -/
theorem announceAndServe_eq (config : Config) (circumstances : Circumstances)
    (identity : Identity) (secure : Bool) (address : SocketAddress) :
    let announced := announce config.registry identity circumstances.agent
    let server := Http.Server.ofConfig config.timeouts identity secure
    announceAndServe config circumstances identity secure address (listeningLatch false) =
      ((serve server address circumstances
        (listeningLatch (circumstances.requested .announcing))).followedBy
          (withdraw announced)).behind
        (announced.history ++ requests circumstances .announcing) := by
  unfold announceAndServe
  rw [passPhase_listeningLatch, Bool.false_or]

/-- A run that is told to stop, or whose server breaks down, comes to an end. -/
theorem Course.complete {outcome : Outcome} (course : Course config circumstances outcome)
    (ends : (∃ breakdown, circumstances.serving = .error breakdown) ∨
      (circumstances.requested .announcing || circumstances.requested .serving) = true) :
    outcome.ending ≠ .unfinished := by
  cases course with
  | stoppedAtOnce requested => rintro ⟨⟩
  | stoppedPreparing secure requested => rintro ⟨⟩
  | unprepared patient failed => rintro ⟨⟩
  | prepared patient prepared listening =>
    rw [Outcome.followedBy_ending, Outcome.behind_ending]
    cases listening with
    | unbound failed => rintro ⟨⟩
    | unaddressed opened failed => rintro ⟨⟩
    | stopped opened addressed requested => rintro ⟨⟩
    | served opened addressed _ _ =>
      rw [announceAndServe_eq, Outcome.behind_ending, Outcome.behind_ending,
        Outcome.followedBy_ending, ending_serve]
      · exact endingOf_ne_unfinished circumstances.serving
      · rwa [passPhase_listeningLatch, isReady_serverSignal]

end Fixture
end ServiceBeacon
