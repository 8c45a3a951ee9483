import ServiceBeacon.Proofs.Fixture.Pairing

namespace ServiceBeacon
namespace Fixture

open History (Lacks Silent Uneventful)

/-!
# A request to stop is never lost

A run looks for a shutdown in three places: while its certificate is issued,
before it announces its service, and as long as it serves.  Whatever the moment
at which the shutdown is requested, one of them sees it.  The results here go
through the phases of a run in their order and say what comes of a request in
each of them, whatever else goes wrong.
-/

variable {config : Config} {circumstances : Circumstances}

/-- Whether nothing was announced and nobody was served. -/
structure Withheld (history : History) : Prop where
  calls : history.calls = []
  requests : history.requests = []
  unserved : history.served = false
  responses : history.responses = []

theorem withheld_of_uneventful {history : History} (uneventful : Uneventful history)
    (unanswered : Lacks Happening.isAnswer history) : Withheld history where
  calls := (History.calls_eq_nil uneventful.withoutRegistry).1
  requests := (History.calls_eq_nil uneventful.withoutRegistry).2
  unserved := by
    have absent : Happening.accepting ∉ history := uneventful.notMem rfl
    simpa only [History.served, List.contains_eq_mem, decide_eq_false_iff_not] using absent
  responses := History.responses_eq_nil unanswered

/-! ## Before the certificate is there -/

/-- A run that is stopped before its certificate is there ends as it should,
without a listener, whether or not there would have been a certificate. -/
theorem Course.finished_of_stopsEarly {outcome : Outcome}
    (course : Course config circumstances outcome) (early : StopsEarly config circumstances) :
    outcome.ending = .finished ∧ Silent outcome.history := by
  cases course with
  | stoppedAtOnce requested =>
    exact ⟨rfl, History.lacks_cons.mpr ⟨rfl, History.silent_noticed earlyStopEvent⟩⟩
  | stoppedPreparing secure requested =>
    have noticed := History.silent_noticed earlyStopEvent
    exact ⟨rfl, History.lacks_cons.mpr
      ⟨rfl, History.lacks_append.mpr ⟨noticed, silent_abandon config circumstances⟩⟩⟩
  | unprepared patient failed => exact absurd early patient
  | prepared patient prepared listening => exact absurd early patient

/-! ## Before the service is announced -/

/-- What a run comes to that obtains its listener, or fails to, and goes no further. -/
def bindingEnding (config : Config) (circumstances : Circumstances) : Ending :=
  match circumstances.socket, circumstances.localAddress with
  | .own (.error cause), _ => .failed (.bind config.listener.bindAddress cause)
  | _, .error cause => .failed (.serve cause)
  | _, .ok _ => .finished

theorem bindingEnding_of_opens {opening : History}
    (opened : Opens circumstances.socket opening) :
    bindingEnding config circumstances =
      match circumstances.localAddress with
      | .error cause => .failed (.serve cause)
      | .ok _ => .finished := by
  unfold bindingEnding
  cases socket : circumstances.socket with
  | given => cases circumstances.localAddress <;> rfl
  | own binding =>
    cases binding with
    | error cause => exact absurd socket (opened.bound cause)
    | ok bound => cases circumstances.localAddress <;> rfl

/-- A prepared run that is to stop does no more than obtain its listener. -/
theorem Listening.withheld {secure : Bool} {outcome : Outcome}
    (listening : Listening config circumstances secure outcome)
    (requested : circumstances.requested .preparing = true ∨
      circumstances.requested .binding = true) :
    outcome.ending = bindingEnding config circumstances ∧ Uneventful outcome.history ∧
      Lacks Happening.isAnswer outcome.history := by
  cases listening with
  | unbound failed =>
    refine ⟨?_, History.lacks_nil, History.lacks_nil⟩
    rw [bindingEnding, failed]
  | unaddressed opened failed =>
    refine ⟨?_, opened.uneventful, opened.unanswered⟩
    rw [bindingEnding_of_opens opened, failed]
  | @stopped opening address opened addressed _ =>
    have noticed : Silent [.noticed (identityEvent (announcedIdentity config address) secure),
        .noticed lateStopEvent] :=
      History.lacks_cons.mpr ⟨rfl, History.silent_noticed lateStopEvent⟩
    refine ⟨?_, History.lacks_append.mpr ⟨opened.uneventful, noticed.uneventful⟩,
      History.lacks_append.mpr ⟨opened.unanswered, noticed.unanswered⟩⟩
    rw [bindingEnding_of_opens opened, addressed]
  | served opened addressed prepared bound =>
    rcases requested with requested | requested
    · exact absurd (prepared.symm.trans requested) Bool.false_ne_true
    · exact absurd (bound.symm.trans requested) Bool.false_ne_true

/-- A run that is to stop before it announces its service announces nothing and
serves nobody; if it is prepared, all that can fail is to obtain the listener. -/
theorem Course.withheld {outcome : Outcome} (course : Course config circumstances outcome)
    (requested : circumstances.requested .preparing = true ∨
      circumstances.requested .binding = true) :
    Withheld outcome.history ∧
      (¬ StopsEarly config circumstances →
        (∃ material, (prepare config circumstances).1 = .ok material) →
          outcome.ending = bindingEnding config circumstances) := by
  by_cases early : StopsEarly config circumstances
  · have silent := (course.finished_of_stopsEarly early).2
    exact ⟨withheld_of_uneventful silent.uneventful silent.unanswered,
      fun patient => absurd early patient⟩
  cases course with
  | stoppedAtOnce starting => exact absurd (Or.inl starting) early
  | stoppedPreparing secure preparing => exact absurd (Or.inr ⟨secure, preparing⟩) early
  | unprepared patient failed =>
    have silent := silent_of_prepare failed
    refine ⟨withheld_of_uneventful silent.uneventful silent.unanswered, ?_⟩
    rintro _ ⟨material, ready⟩
    rw [failed] at ready
    cases ready
  | @prepared material history outcome patient prepared listening =>
    rcases listening.withheld requested with ⟨ending, uneventful, unanswered⟩
    have front := History.lacks_append.mpr
      ⟨silent_of_prepare prepared, silent_requests circumstances .binding⟩
    have released := silent_releaseMaterial material
    have complete : (outcome.behind (requests circumstances .preparing ++ history ++
        requests circumstances .binding)).ending ≠ .unfinished := by
      rw [Outcome.behind_ending, ending]
      unfold bindingEnding
      split <;> rintro ⟨⟩
    constructor
    · rw [Outcome.followedBy_history complete, Outcome.behind_history]
      apply withheld_of_uneventful
      · exact History.lacks_append.mpr ⟨History.lacks_append.mpr
          ⟨History.Silent.uneventful front, uneventful⟩, released.uneventful⟩
      · exact History.lacks_append.mpr ⟨History.lacks_append.mpr
          ⟨History.Silent.unanswered front, unanswered⟩, released.unanswered⟩
    · rw [Outcome.followedBy_ending, Outcome.behind_ending]
      exact fun _ _ => ending

/-! ## While the service is announced and served -/

/-- Whether a run has a server that is told to stop: its signal is ready as soon
as it waits, or gets ready while it does, so it drains its connections and
stops, and the run ends as the server does.  Only a server that cannot take its
listener over never waits, and the run ends with that. -/
def StopsItsServer (circumstances : Circumstances) (outcome : Outcome) : Prop :=
  ∃ server address before after,
    let latch := listeningLatch (circumstances.requested .announcing)
    let served := serve server address circumstances latch
    outcome.history = before ++ served.history ++ after ∧
    (circumstances.requested .announcing = true → latch.isReady serverSignal = true) ∧
    (passPhase circumstances .serving latch).isReady serverSignal = true ∧
    (TakesOver circumstances → ∃ service closing,
      served.history =
        [.noticed (server.startEvent address), .accepting] ++
          (service ++ .noticed server.drainEvent :: requests circumstances .draining) ++
          [.stopped] ++ closing ∧
      Uneventful service ∧ Silent closing) ∧
    (¬ TakesOver circumstances → served.history = []) ∧
    outcome.ending = served.ending ∧
    outcome.ending = endingOf circumstances.serving

namespace StopsItsServer

variable {outcome : Outcome}

/-- A server that is told to stop before it waits, or while it does, is such a one. -/
theorem of_serve (server : Http.Server) (address : SocketAddress)
    (requested : circumstances.requested .announcing = true ∨
      circumstances.requested .serving = true) :
    StopsItsServer circumstances (serve server address circumstances
      (listeningLatch (circumstances.requested .announcing))) := by
  have ready : (passPhase circumstances .serving
      (listeningLatch (circumstances.requested .announcing))).isReady serverSignal = true := by
    rw [passPhase_listeningLatch, isReady_serverSignal]
    exact Bool.or_eq_true_iff.mpr requested
  have answered := uneventful_respond server circumstances.arrivals
  have asked := (silent_requests circumstances .serving).uneventful
  refine ⟨server, address, [], [], ?_, ?_, ready, ?_, ?_, rfl,
    ending_serve server address (.inr ready)⟩
  · rw [List.nil_append, List.append_nil]
  · rw [isReady_serverSignal]
    exact id
  · intro takesOver
    rcases serve_of_ready server address takesOver ready with ⟨_, closing, silent, history⟩
    exact ⟨respond server circumstances.arrivals ++ requests circumstances .serving, closing,
      history, History.lacks_append.mpr ⟨answered, asked⟩, silent⟩
  · intro missing
    rcases Classical.not_forall_not.mp missing with ⟨cause, refused⟩
    rw [serve_of_atStart server address refused]

/-- What goes on in front of it leaves the server alone. -/
theorem behind (stops : StopsItsServer circumstances outcome) (front : History) :
    StopsItsServer circumstances (outcome.behind front) := by
  rcases stops with ⟨server, address, before, after, history, rest⟩
  refine ⟨server, address, front ++ before, after, ?_, rest⟩
  rw [Outcome.behind_history, history]
  simp only [List.append_assoc]

/-- What goes on behind it leaves the server alone. -/
theorem followedBy (stops : StopsItsServer circumstances outcome) (back : History) :
    StopsItsServer circumstances (outcome.followedBy back) := by
  rcases stops with ⟨server, address, before, after, history, announcing, ready, served,
    unserved, ending, result⟩
  have complete : outcome.ending ≠ .unfinished :=
    result ▸ endingOf_ne_unfinished circumstances.serving
  refine ⟨server, address, before, after ++ back, ?_, announcing, ready, served, unserved,
    ?_, ?_⟩
  · rw [Outcome.followedBy_history complete, history, List.append_assoc]
  · rw [Outcome.followedBy_ending, ending]
  · rw [Outcome.followedBy_ending, result]

end StopsItsServer

/-- A run that has announced its service, or is about to, stops through its server. -/
theorem Course.stopsItsServer {outcome : Outcome} (course : Course config circumstances outcome)
    (patient : ¬ StopsEarly config circumstances)
    (ready : ∃ material, (prepare config circumstances).1 = .ok material)
    (proceeds : Proceeds circumstances)
    (requested : circumstances.requested .announcing = true ∨
      circumstances.requested .serving = true) : StopsItsServer circumstances outcome := by
  rcases course.served_of_proceeds patient ready proceeds with
    ⟨front, address, material, _, _, _, rfl⟩
  rw [announceAndServe_eq, Outcome.behind_behind]
  apply StopsItsServer.followedBy
  apply StopsItsServer.behind
  apply StopsItsServer.followedBy
  exact StopsItsServer.of_serve _ address requested

/-- A request to stop is never lost.  If it is made before the certificate is
there, the run ends as it should, without a listener and without service, even
if there would have been no certificate.  If it is made later, but before the
run looks, nothing is announced and nobody is served, and only obtaining the
listener can fail.  If it is made later still, the server sees it. -/
theorem shutdown_never_lost (config : Config) (circumstances : Circumstances) :
    (StopsEarly config circumstances →
      (run config circumstances).ending = .finished ∧
        Happening.bound ∉ (run config circumstances).history ∧
        Withheld (run config circumstances).history) ∧
    (¬ StopsEarly config circumstances →
      (circumstances.requested .preparing = true ∨ circumstances.requested .binding = true) →
      Withheld (run config circumstances).history ∧
        ((∃ material, (prepare config circumstances).1 = .ok material) →
          (run config circumstances).ending = bindingEnding config circumstances)) ∧
    (¬ StopsEarly config circumstances →
      (∃ material, (prepare config circumstances).1 = .ok material) → Proceeds circumstances →
      (circumstances.requested .announcing = true ∨ circumstances.requested .serving = true) →
      StopsItsServer circumstances (run config circumstances)) := by
  have course := course_run config circumstances
  refine ⟨?_, ?_, ?_⟩
  · intro early
    rcases course.finished_of_stopsEarly early with ⟨finished, silent⟩
    exact ⟨finished, silent.notMem rfl,
      withheld_of_uneventful silent.uneventful silent.unanswered⟩
  · intro patient requested
    rcases course.withheld requested with ⟨withheld, ending⟩
    exact ⟨withheld, ending patient⟩
  · exact course.stopsItsServer

/-- A run whose server goes on until a shutdown is requested, which happens in one phase. -/
def stoppedIn (phase : Phase) : Circumstances :=
  { brokenDown with serving := .ok (), requested := fun other => decide (other = phase) }

/-- A service that is announced on the same host stops in each of the three ways. -/
theorem shutdown_seen_in_time :
    (run announcing (stoppedIn .starting)).ending = .finished ∧
      (Withheld (run announcing (stoppedIn .binding)).history ∧
        (run announcing (stoppedIn .binding)).ending = .finished) ∧
      StopsItsServer (stoppedIn .serving) (run announcing (stoppedIn .serving)) := by
  have patient : ∀ phase, phase ≠ .starting → ¬ StopsEarly announcing (stoppedIn phase) := by
    rintro phase later (requested | ⟨secure, _⟩)
    · exact later (of_decide_eq_true requested).symm
    · cases secure
  refine ⟨?_, ?_, ?_⟩
  · exact ((shutdown_never_lost announcing (stoppedIn .starting)).1 (Or.inl rfl)).1
  · have withheld := (shutdown_never_lost announcing (stoppedIn .binding)).2.1
      (patient .binding (by decide)) (Or.inr rfl)
    exact ⟨withheld.1, withheld.2 ⟨none, rfl⟩⟩
  · exact (shutdown_never_lost announcing (stoppedIn .serving)).2.2
      (patient .serving (by decide)) ⟨none, rfl⟩
      ⟨fun cause => by rintro ⟨⟩, ⟨_, rfl⟩, rfl, rfl⟩ (Or.inr rfl)

end Fixture
end ServiceBeacon
