import ServiceBeacon.Proofs.Fixture.Pairing
import ServiceBeacon.Proofs.Registry.Reports

namespace ServiceBeacon

/-!
# What clients see of a run

Clients get responses, their requests are counted, and sooner or later the run
ends in some way.  Provided that nobody asks it to stop before it serves, all of
this is a function of the configuration without its registry section, of how the
preparation went, of the port, and of what clients and operators do.  So two runs
that agree in this cannot be told apart by their clients, whatever their
registries are and do.

Nothing is assumed about the agents, and the two runs may draw different
certificates, write them to different files and have listeners at different
addresses.
-/

/-- Whether a counter counts requests of clients. -/
def isRequestCounter (counter : Counter) : Bool := counter.name == "fixture_http_requests_total"

namespace History

/-- The counters of requests of clients. -/
def requestCounters (history : History) : List Counter :=
  (countersOf history.notices).filter isRequestCounter

theorem requestCounters_append (first second : History) :
    History.requestCounters (first ++ second) =
      first.requestCounters ++ second.requestCounters := by
  simp only [requestCounters, notices_append, countersOf_append, List.filter_append]

theorem requestCounters_ofNotices (reported : List Notice) :
    (ofNotices reported).requestCounters = (countersOf reported).filter isRequestCounter := by
  rw [requestCounters, notices_ofNotices]

theorem requestCounters_map_eq_nil {α : Type} {happening : α → Happening}
    (unnoticed : ∀ item, (happening item).notice? = none) (items : List α) :
    History.requestCounters (items.map happening) = [] := by
  rw [requestCounters, notices_map_eq_nil unnoticed]
  rfl

theorem requestCounters_ofChanges (changes : List FileChange) :
    (ofChanges changes).requestCounters = [] :=
  requestCounters_map_eq_nil (fun _ => rfl) changes

/-- Whether clients have no part in what happens. -/
structure Unseen (part : History) : Prop where
  responses : part.responses = []
  counters : part.requestCounters = []

theorem Unseen.nil : Unseen [] := ⟨rfl, rfl⟩

theorem Unseen.append {first second : History} (one : Unseen first) (two : Unseen second) :
    Unseen (first ++ second) := by
  constructor
  · rw [responses_append, one.responses, two.responses]
    rfl
  · rw [requestCounters_append, one.counters, two.counters]
    rfl

theorem unseen_event (event : Event) : Unseen [.noticed (.logged event)] := ⟨rfl, rfl⟩

end History

namespace Fixture

open History (Unseen)

variable {config : Config} {circumstances : Circumstances}

/-!
## What clients have no part in

Parts that nobody outside notices have no responses in them, but what is logged and
counted in them has to be looked at.
-/

theorem unseen_requests (circumstances : Circumstances) (phase : Phase) :
    Unseen (requests circumstances phase) := by
  unfold requests
  split
  · exact ⟨rfl, rfl⟩
  · exact .nil

theorem requestCounters_bundle (config : Config) (draw : Issuer.Draw) :
    (countersOf (Issuer.issue config.tls.keyBits config.service.containerName
      config.tls.extraSans draw).2).filter isRequestCounter = [] := by
  unfold Issuer.issue
  dsimp only
  split
  · rfl
  · split
    · rfl
    · split <;> rfl

theorem requestCounters_persist (disk : Issuer.Disk) (bundle : Issuer.Bundle) :
    (Issuer.persist disk bundle).2.requestCounters = [] := by
  unfold Issuer.persist
  split
  · exact History.requestCounters_ofChanges _
  · split
    · exact History.requestCounters_ofChanges _
    · rw [History.requestCounters_append, History.requestCounters_ofChanges]
      rfl

theorem requestCounters_issue (config : Config) (circumstances : Circumstances) :
    (issue config circumstances).2.requestCounters = [] := by
  have bundled := requestCounters_bundle config circumstances.draw
  unfold issue Issuer.issueToFiles
  split <;> rename_i issuing <;> rw [issuing] at bundled
  · rw [History.requestCounters_ofNotices]
    exact bundled
  · rw [History.requestCounters_append, History.requestCounters_ofNotices, bundled,
      requestCounters_persist]
    rfl

theorem requestCounters_load (certificate key : Tls.File) (names : List String) :
    (countersOf (Tls.load certificate key names).2).filter isRequestCounter = [] := by
  unfold Tls.load
  split <;> rfl

theorem requestCounters_loadMaterial (config : Config) (circumstances : Circumstances)
    (persisted : Issuer.Persisted) :
    (loadMaterial config circumstances persisted).2.requestCounters = [] := by
  unfold loadMaterial
  dsimp only
  split <;> rename_i loading
  · have loaded := loading ▸ requestCounters_load _ _ _
    rw [History.requestCounters_append, History.requestCounters_ofNotices, loaded]
    exact History.requestCounters_ofChanges _
  · have loaded := loading ▸ requestCounters_load _ _ _
    rw [History.requestCounters_ofNotices]
    exact loaded

theorem unseen_prepare (config : Config) (circumstances : Circumstances) :
    Unseen (prepare config circumstances).2 := by
  refine ⟨History.responses_eq_nil (silent_prepare config circumstances).unanswered, ?_⟩
  unfold prepare
  split
  · have issued := requestCounters_issue config circumstances
    split <;> rename_i issuing <;> rw [issuing] at issued
    · exact issued
    · rename_i persisted _
      have loaded := requestCounters_loadMaterial config circumstances persisted
      split <;> rename_i loading <;> rw [loading] at loaded
      · rw [History.requestCounters_append, issued, loaded]
        rfl
      · rw [History.requestCounters_append, issued, loaded]
        rfl
  · rfl

theorem unseen_releaseMaterial (material : Option Material) :
    Unseen (releaseMaterial material) := by
  refine ⟨History.responses_eq_nil (silent_releaseMaterial material).unanswered, ?_⟩
  cases material with
  | none => rfl
  | some material => exact History.requestCounters_ofChanges _

theorem Opens.unseen {socket : Socket} {opening : History} (opened : Opens socket opening) :
    Unseen opening := by
  cases opened with
  | given => exact .nil
  | own => exact ⟨rfl, rfl⟩

/-! ## The registry -/

theorem unseen_reportedCall {α : Type} (operation : Registry.Operation) (identity : Identity)
    {effect : Registry.Effect α} {client : Registry.Client} {agent : Registry.Agent}
    (reported : effect.notices = (Registry.reportedCall client operation identity agent).notices) :
    Unseen (callHistory operation identity effect) := by
  refine ⟨responses_callHistory operation identity effect, ?_⟩
  have sent : History.requestCounters (effect.sent.map .sent) = [] :=
    History.requestCounters_map_eq_nil (fun _ => rfl) effect.sent
  unfold callHistory
  rw [History.requestCounters_append, History.requestCounters_append, sent,
    History.requestCounters_ofNotices, reported, Registry.counters_reportedCall]
  rfl

/-- Clients have no part in the announcement, whether there is one or not. -/
theorem unseen_announce (config : Config.Registry) (identity : Identity)
    (agent : Registry.Agent) : Unseen (announce config identity agent).history := by
  unfold announce
  split
  · split
    · exact History.unseen_event _
    · exact unseen_reportedCall .register identity rfl
  · exact History.unseen_event _

theorem unseen_withdraw (announced : Announcement) : Unseen (withdraw announced) := by
  rcases announced with ⟨guard, history, agent⟩
  cases guard with
  | none => exact .nil
  | some guard =>
    rw [withdraw_of_guard, guard.release_eq]
    exact unseen_reportedCall .deregister guard.identity rfl

/-! ## Views of a run -/

/-- What clients see of a run, and how it ends. -/
structure View where
  ending : Ending
  responses : List Http.Response
  counters : List Counter

namespace Outcome

def view (outcome : Outcome) : View :=
  ⟨outcome.ending, outcome.history.responses, outcome.history.requestCounters⟩

theorem view_of_unseen (ending : Ending) {history : History} (unseen : Unseen history) :
    (Outcome.mk ending history).view = ⟨ending, [], []⟩ := by
  unfold view
  rw [unseen.responses, unseen.counters]

theorem view_behind (outcome : Outcome) {before : History} (unseen : Unseen before) :
    (outcome.behind before).view = outcome.view := by
  unfold view
  rw [behind_ending, behind_history, History.responses_append, History.requestCounters_append,
    unseen.responses, unseen.counters, List.nil_append, List.nil_append]

theorem view_followedBy (outcome : Outcome) {after : History} (unseen : Unseen after) :
    (outcome.followedBy after).view = outcome.view := by
  by_cases complete : outcome.ending = .unfinished
  · unfold followedBy
    rw [if_pos complete]
  · unfold view
    rw [followedBy_ending, followedBy_history complete, History.responses_append,
      History.requestCounters_append, unseen.responses, unseen.counters, List.append_nil,
      List.append_nil]

end Outcome

/-- How a server ends that is told to stop, or not. -/
def serverEnding (stopped : Bool) : Except Breakdown Unit → Ending
  | .error breakdown => .failed (.serve breakdown.cause)
  | .ok _ => if stopped then .finished else .unfinished

/-- What clients see of a server that gets their requests. -/
def serverView (server : Http.Server) (reaching : List Http.Arrival)
    (serving : Except Breakdown Unit) (stopped : Bool) : View where
  ending := serverEnding stopped serving
  responses := reaching.map fun arrival => (server.respond arrival).1
  counters := reaching.flatMap fun arrival =>
    (countersOf (server.respond arrival).2).filter isRequestCounter

/-- What clients see of a run that nobody asks to stop before it serves. -/
def serviceView (config : Config) (prepared : Except Failure Bool) (port : Except String UInt16)
    (reaching : List Http.Arrival) (serving : Except Breakdown Unit) (stopped : Bool) : View :=
  match prepared, port with
  | .error failure, _ => ⟨.failed failure, [], []⟩
  | .ok _, .error cause => ⟨.failed (.serve cause), [], []⟩
  | .ok secure, .ok port =>
    let identity := (Identity.ofConfig config).withPort port
    serverView (.ofConfig config.timeouts identity secure) reaching serving stopped

theorem requestCounters_respond (server : Http.Server) (arrivals : List Http.Arrival) :
    (respond server arrivals).requestCounters =
      arrivals.flatMap fun arrival =>
        (countersOf (server.respond arrival).2).filter isRequestCounter := by
  induction arrivals with
  | nil => rfl
  | cons arrival rest inductionHypothesis =>
    have first : respond server (arrival :: rest) =
        (History.ofNotices (server.respond arrival).2 ++ [.answered (server.respond arrival).1]) ++
          respond server rest := rfl
    have answered : History.requestCounters [.answered (server.respond arrival).1] = [] := rfl
    rw [first, History.requestCounters_append, History.requestCounters_append,
      History.requestCounters_ofNotices, answered, List.append_nil, inductionHypothesis,
      List.flatMap_cons]

/-- However a server goes on, its responses are what clients see of it. -/
theorem view_answering (server : Http.Server) (address : SocketAddress)
    (arrivals : List Http.Arrival) (ending : Ending) {rest : History} (unseen : Unseen rest) :
    (Outcome.mk ending
      ([.noticed (server.startEvent address), .accepting] ++ respond server arrivals ++ rest)).view =
      ⟨ending, arrivals.map fun arrival => (server.respond arrival).1,
        arrivals.flatMap fun arrival =>
          (countersOf (server.respond arrival).2).filter isRequestCounter⟩ := by
  have started : Unseen [.noticed (server.startEvent address), .accepting] := ⟨rfl, rfl⟩
  rw [← responses_respond, ← requestCounters_respond]
  unfold Outcome.view
  rw [History.responses_append, History.requestCounters_append, History.responses_append,
    History.requestCounters_append, started.responses, started.counters, unseen.responses,
    unseen.counters, List.append_nil, List.append_nil]
  rfl

theorem view_serve_of_takesOver (server : Http.Server) (address : SocketAddress)
    (takesOver : TakesOver circumstances) :
    (serve server address circumstances (listeningLatch false)).view =
      serverView server circumstances.arrivals circumstances.serving
        (circumstances.requested .serving) := by
  have asked := unseen_requests circumstances .serving
  have drained : Unseen (.noticed server.drainEvent :: requests circumstances .draining) :=
    (History.unseen_event _).append (unseen_requests circumstances .draining)
  have brokenDown : Unseen [.stopped] := ⟨rfl, rfl⟩
  have stopped : Unseen [.stopped, .noticed (Http.Server.stopEvent address)] := ⟨rfl, rfl⟩
  have view := view_answering server address circumstances.arrivals
  unfold serve
  dsimp only
  rw [passPhase_listeningLatch, Bool.false_or, isReady_serverSignal]
  cases circumstances.requested .serving with
  | true =>
    rw [if_pos rfl, if_pos rfl]
    cases serving : circumstances.serving with
    | error breakdown =>
      cases breakdown with
      | atStart cause => exact absurd serving (takesOver cause)
      | whileServing cause =>
        have seen := view (.failed (.serve cause)) ((asked.append drained).append brokenDown)
        simp only [List.append_assoc] at seen ⊢
        exact seen
    | ok goesOn =>
      have seen := view .finished ((asked.append drained).append stopped)
      simp only [List.append_assoc] at seen ⊢
      exact seen
  | false =>
    rw [if_neg Bool.false_ne_true, if_neg Bool.false_ne_true, List.append_nil]
    cases serving : circumstances.serving with
    | error breakdown =>
      cases breakdown with
      | atStart cause => exact absurd serving (takesOver cause)
      | whileServing cause =>
        have seen := view (.failed (.serve cause)) (asked.append brokenDown)
        rw [← List.append_assoc] at seen
        exact seen
    | ok goesOn => exact view _ asked

theorem view_serve (server : Http.Server) (address : SocketAddress) :
    (serve server address circumstances (listeningLatch false)).view =
      serverView server circumstances.reaching circumstances.serving
        (circumstances.requested .serving) := by
  by_cases takesOver : TakesOver circumstances
  · rw [reaching_of_takesOver takesOver, view_serve_of_takesOver server address takesOver]
  · rcases Classical.not_forall_not.mp takesOver with ⟨cause, refused⟩
    rw [serve_of_atStart server address refused, Circumstances.reaching, refused]
    rfl

/-! ## Runs that are left alone -/

/-- Whether there is a listener, and nobody asks the run to stop before it serves. -/
structure Undisturbed (circumstances : Circumstances) : Prop where
  bound : ∀ cause, circumstances.socket ≠ .own (.error cause)
  unrequested : ∀ phase ∈ [Phase.starting, .preparing, .binding, .announcing],
    circumstances.requested phase = false

namespace Undisturbed

theorem patient (undisturbed : Undisturbed circumstances) (config : Config) :
    ¬ StopsEarly config circumstances := by
  rintro (requested | ⟨_, requested⟩)
  · exact Bool.false_ne_true ((undisturbed.unrequested .starting (by decide)).symm.trans requested)
  · exact Bool.false_ne_true ((undisturbed.unrequested .preparing (by decide)).symm.trans requested)

/-- Announcing, serving and withdrawing look like serving. -/
theorem view_announceAndServe (undisturbed : Undisturbed circumstances) (config : Config)
    (identity : Identity) (secure : Bool) (address : SocketAddress) :
    (announceAndServe config circumstances identity secure address (listeningLatch false)).view =
      serverView (.ofConfig config.timeouts identity secure) circumstances.reaching
        circumstances.serving (circumstances.requested .serving) := by
  have announced := unseen_announce config.registry identity circumstances.agent
  have announcing := announced.append (unseen_requests circumstances .announcing)
  rw [announceAndServe_eq, Outcome.view_behind _ announcing,
    Outcome.view_followedBy _ (unseen_withdraw _),
    undisturbed.unrequested .announcing (by decide), view_serve]

theorem view_listening (undisturbed : Undisturbed circumstances) {secure : Bool}
    {outcome : Outcome} (listening : Listening config circumstances secure outcome) :
    outcome.view =
      serviceView config (.ok secure) (circumstances.localAddress.map SocketAddress.port)
        circumstances.reaching circumstances.serving (circumstances.requested .serving) := by
  cases listening with
  | unbound failed => exact absurd failed (undisturbed.bound _)
  | unaddressed opened failed =>
    rw [failed]
    exact Outcome.view_of_unseen (.failed (.serve _)) opened.unseen
  | stopped opened addressed requested =>
    rcases requested with requested | requested
    · exact absurd ((undisturbed.unrequested .preparing (by decide)).symm.trans requested)
        Bool.false_ne_true
    · exact absurd ((undisturbed.unrequested .binding (by decide)).symm.trans requested)
        Bool.false_ne_true
  | @served opening address opened addressed _ _ =>
    have resolved : Unseen
        [.noticed (identityEvent (announcedIdentity config address) secure)] := ⟨rfl, rfl⟩
    rw [Outcome.view_behind _ (opened.unseen.append resolved),
      undisturbed.view_announceAndServe, addressed]
    rfl

theorem view_course (undisturbed : Undisturbed circumstances) {outcome : Outcome}
    (course : Course config circumstances outcome) :
    outcome.view =
      serviceView config ((prepare config circumstances).1.map Option.isSome)
        (circumstances.localAddress.map SocketAddress.port) circumstances.reaching
        circumstances.serving (circumstances.requested .serving) := by
  have preparing := unseen_requests circumstances .preparing
  have unseen := unseen_prepare config circumstances
  cases course with
  | stoppedAtOnce requested => exact absurd (Or.inl requested) (undisturbed.patient config)
  | stoppedPreparing secure requested =>
    exact absurd (Or.inr ⟨secure, requested⟩) (undisturbed.patient config)
  | unprepared _ failed =>
    rw [failed] at unseen ⊢
    exact Outcome.view_of_unseen (.failed _) (preparing.append unseen)
  | @prepared material history outcome _ prepared listening =>
    rw [prepared] at unseen ⊢
    have front := (preparing.append unseen).append (unseen_requests circumstances .binding)
    rw [Outcome.view_followedBy _ (unseen_releaseMaterial material),
      Outcome.view_behind _ front, undisturbed.view_listening listening]
    rfl

/-- What clients see of a run that is left alone. -/
theorem view_run (undisturbed : Undisturbed circumstances) (config : Config) :
    (run config circumstances).view =
      serviceView config ((prepare config circumstances).1.map Option.isSome)
        (circumstances.localAddress.map SocketAddress.port) circumstances.reaching
        circumstances.serving (circumstances.requested .serving) :=
  undisturbed.view_course (course_run config circumstances)

end Undisturbed

/-- Clients cannot tell two runs apart whose configurations differ only in their
registry sections, whatever the agents do: if neither is asked to stop before it
serves, their preparations come to the same, they have the same port, and their
servers are asked the same and go on in the same way, then the responses, the
counters of requests and the endings are the same.  The responses are those of the
server for the port, if the preparation succeeded. -/
theorem registry_never_influences_service (config : Config) (first second : Config.Registry)
    {here there : Circumstances} (undisturbedHere : Undisturbed here)
    (undisturbedThere : Undisturbed there)
    (prepared : (prepare { config with registry := first } here).1.map Option.isSome =
      (prepare { config with registry := second } there).1.map Option.isSome)
    (port : here.localAddress.map SocketAddress.port =
      there.localAddress.map SocketAddress.port)
    (arrivals : here.arrivals = there.arrivals) (serving : here.serving = there.serving)
    (stopped : here.requested .serving = there.requested .serving) :
    let one := run { config with registry := first } here
    let other := run { config with registry := second } there
    one.history.responses = other.history.responses ∧
      one.history.requestCounters = other.history.requestCounters ∧
      one.ending = other.ending ∧
      ∀ secure address,
        (prepare { config with registry := first } here).1.map Option.isSome = .ok secure →
        here.localAddress = .ok address →
          one.history.responses = here.reaching.map fun arrival =>
            ((Http.Server.ofConfig config.timeouts
              ((Identity.ofConfig config).withPort address.port) secure).respond arrival).1 := by
  intro one other
  have view := undisturbedHere.view_run { config with registry := first }
  have same : one.view = other.view := by
    have reaching : here.reaching = there.reaching := by
      unfold Circumstances.reaching
      rw [arrivals, serving]
    rw [view, undisturbedThere.view_run, prepared, port, reaching, serving, stopped]
    rfl
  refine ⟨congrArg View.responses same, congrArg View.counters same, congrArg View.ending same, ?_⟩
  intro secure address ready addressed
  rw [ready, addressed] at view
  exact congrArg View.responses view

/-- A run that is asked about its health once and then asked to stop, beside an agent. -/
def visited (agent : Registry.Agent) : Circumstances :=
  { brokenDown with
    agent
    arrivals := [⟨⟨"GET", ⟨"/health".toList, none⟩, []⟩, "visit", false⟩]
    serving := .ok ()
    requested := fun phase => decide (phase = .serving) }

theorem undisturbed_visited (agent : Registry.Agent) : Undisturbed (visited agent) where
  bound := by
    rintro cause ⟨⟩
  unrequested := by
    intro phase early
    cases phase with
    | serving => exact absurd early (by decide)
    | _ => rfl

/-- Without a registry, and with an agent that never answers the announcement and hangs up
on the withdrawal, a visitor gets the same answer. -/
theorem visit_beside_registries :
    let alone := run { Config.default with registry := .default } (visited .absent)
    let silent := run { Config.default with registry := ⟨true, "localhost", 8500, 5⟩ }
      (visited ⟨fun _ => true, [.silence, .closure]⟩)
    alone.history.responses.map Http.Response.status = [.ok] ∧
      alone.history.responses = silent.history.responses ∧
      alone.history.requestCounters = silent.history.requestCounters ∧
      alone.ending = silent.ending := by
  intro alone silent
  have plain : ∀ registry agent,
      (prepare { Config.default with registry := registry } (visited agent)).1.map Option.isSome =
        .ok false := fun _ _ => rfl
  rcases registry_never_influences_service Config.default .default ⟨true, "localhost", 8500, 5⟩
    (undisturbed_visited .absent) (undisturbed_visited ⟨fun _ => true, [.silence, .closure]⟩)
    ((plain _ _).trans (plain _ _).symm) rfl rfl rfl rfl with
    ⟨responses, counters, ending, answered⟩
  have served := congrArg (List.map Http.Response.status) (answered false _ (plain _ _) rfl)
  exact ⟨served, responses, counters, ending⟩

end Fixture
end ServiceBeacon
