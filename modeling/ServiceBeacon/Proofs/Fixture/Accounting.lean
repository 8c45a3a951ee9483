import Mathlib.Algebra.BigOperators.Group.List.Lemmas
import Mathlib.Algebra.GroupWithZero.Nat
import ServiceBeacon.Proofs.Fixture.Independence
import ServiceBeacon.Proofs.Http.Routing

namespace ServiceBeacon

/-!
# How requests are counted

Every request that is answered in time raises one counter, which is told from
others by a path and a status.  The label of the path is chosen by the status of
the response alone.  It is the right one because nothing is found exactly at the
paths that are not served, and so there are four labels however many paths clients
think of.
-/

namespace Http

/-- The paths that counters tell apart; all others are one. -/
def countedPaths : List String := ["/health", "/hello", "/info", "unmatched"]

/-- The label under which a request is counted. -/
def Request.label (request : Request) : String :=
  let path := String.ofList request.target.path
  if path ∈ ["/health", "/hello", "/info"] then path else "unmatched"

/-- The paths that are told apart are the ones that are served. -/
theorem Request.label_eq (request : Request) :
    request.label =
      if String.ofList request.target.path ∈ Route.endpoints then
        String.ofList request.target.path
      else "unmatched" := rfl

theorem Request.label_mem (request : Request) : request.label ∈ countedPaths := by
  unfold label
  dsimp only
  split
  · rename_i served
    exact List.mem_append_left ["unmatched"] served
  · decide

/-- The label that the status chooses is the one that the path would. -/
theorem pathLabel_answer (site : Site) (request : Request) :
    pathLabel request (site.answer request).status = request.label := by
  rw [pathLabel, Request.label_eq]
  by_cases served : String.ofList request.target.path ∈ Route.endpoints
  · rw [if_pos served, if_neg]
    intro missed
    exact (site.status_answer_eq_notFound_iff request).mp missed served
  · rw [if_neg served, if_pos ((site.status_answer_eq_notFound_iff request).mpr served)]

/-- The counter of a request that gets a response. -/
def Server.counterOf (server : Server) (arrival : Arrival) : Counter :=
  ⟨"fixture_http_requests_total",
    [("path", arrival.request.label),
      ("status", toString (server.respond arrival).1.status.code)]⟩

/-- What a request is counted as. -/
theorem Server.counters_respond (server : Server) (arrival : Arrival) :
    (countersOf (server.respond arrival).2).filter isRequestCounter =
      if arrival.overdue then [] else [server.counterOf arrival] := by
  cases timely : arrival.overdue with
  | true =>
    rw [respond, serve_eq, timely]
    rfl
  | false =>
    rw [counterOf, ← pathLabel_answer server.site, respond_of_timely server timely]
    rfl

end Http

namespace Fixture

/-- The requests of a run are counted in the order in which they arrive. -/
theorem requestCounters_respond_eq_map (server : Http.Server) (arrivals : List Http.Arrival) :
    (respond server arrivals).requestCounters =
      (arrivals.filter (!·.overdue)).map server.counterOf := by
  rw [requestCounters_respond]
  induction arrivals with
  | nil => rfl
  | cons arrival rest inductionHypothesis =>
    rw [List.flatMap_cons, inductionHypothesis, server.counters_respond]
    cases timely : arrival.overdue with
    | true =>
      simp only [List.filter_cons, timely, Bool.not_true, Bool.false_eq_true, if_false, if_true,
        List.nil_append]
    | false =>
      simp only [List.filter_cons, timely, Bool.not_false, Bool.false_eq_true, if_false, if_true,
        List.map_cons, List.cons_append, List.nil_append]

/-- Over any sequence of requests, those that are answered in time are counted one by
one, each with the status of its response, and the counters add up to their number. -/
theorem requests_accounted (server : Http.Server) (arrivals : List Http.Arrival) :
    let answered := arrivals.filter (!·.overdue)
    let counters := (respond server arrivals).requestCounters
    counters = answered.map server.counterOf ∧
      (counters.dedup.map counters.count).sum = answered.length ∧
      ∀ counter ∈ counters, ∃ label ∈ Http.countedPaths,
        counter.labels.lookup "path" = some label := by
  intro answered counters
  have oneByOne : counters = answered.map server.counterOf :=
    requestCounters_respond_eq_map server arrivals
  refine ⟨oneByOne, ?_, ?_⟩
  · rw [List.sum_map_count_dedup_eq_length, oneByOne, List.length_map]
  · intro counter counted
    rw [oneByOne] at counted
    rcases List.mem_map.mp counted with ⟨arrival, _, rfl⟩
    exact ⟨_, arrival.request.label_mem, rfl⟩

end Fixture
end ServiceBeacon
