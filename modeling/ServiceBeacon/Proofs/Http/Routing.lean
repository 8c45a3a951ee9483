import ServiceBeacon.Proofs.Http.Identifier
import ServiceBeacon.Proofs.Json.Trees

namespace ServiceBeacon
namespace Http

/-!
# What becomes of a request

The path of a request decides first whether it is served, as it was sent and
whatever the method; then the method does, and of a request to greet, its query.
These three are looked at in different places, and the list that a server gives
of its own paths in yet another.

A request counts as answered in time if it is not overdue.  Nothing is assumed of
its method, path and header fields: a path need not even start with a slash.
-/

namespace Route

/-- The paths that the fixture lists are the ones in the table of its router. -/
theorem endpoints_eq_table : endpoints = table.map Prod.fst := rfl

theorem mem_table_of_ofPath? {path : List Char} {route : Route}
    (found : ofPath? path = some route) : (String.ofList path, route) ∈ table := by
  rcases List.lookup_eq_some_iff.mp found with ⟨before, after, split, _⟩
  rw [split]
  exact List.mem_append_right before List.mem_cons_self

/-- The router finds something exactly at the paths that are listed. -/
theorem mem_endpoints {path : List Char} :
    String.ofList path ∈ endpoints ↔ ∃ route, ofPath? path = some route := by
  rw [endpoints_eq_table, List.mem_map]
  constructor
  · rintro ⟨⟨key, route⟩, member, same⟩
    refine Option.ne_none_iff_exists'.mp fun missing => ?_
    have differs := List.lookup_eq_none_iff.mp missing (key, route) member
    exact (bne_iff_ne.mp differs) same.symm
  · rintro ⟨route, found⟩
    exact ⟨(String.ofList path, route), mem_table_of_ofPath? found, rfl⟩

theorem ofPath?_eq_none {path : List Char} (unserved : String.ofList path ∉ endpoints) :
    ofPath? path = none := by
  cases found : ofPath? path with
  | none => rfl
  | some route => exact absurd (mem_endpoints.mpr ⟨route, found⟩) unserved

theorem eq_of_ofPath?_hello {path : List Char} (found : ofPath? path = some hello) :
    path = "/hello".toList := by
  have member := mem_table_of_ofPath? found
  simp only [table, List.mem_cons, Prod.mk.injEq, reduceCtorEq, and_false, and_true, false_or,
    or_false, List.not_mem_nil] at member
  rw [← member, String.toList_ofList]

end Route

/-- Whether a query gives the name to greet more than once. -/
def Form.RepeatsName (query : Option (List Char)) : Prop :=
  1 < (values "name".toList (query.getD [])).length

theorem Form.not_repeatsName_none : ¬ RepeatsName none := by
  unfold RepeatsName
  decide

/-! ## Answers of a site -/

namespace Site

variable (site : Site) {request : Request}

theorem greet_of_repeated {query : Option (List Char)} (repeated : Form.RepeatsName query) :
    site.greet (query.getD []) = repeatedName := by
  unfold Form.RepeatsName at repeated
  unfold greet
  split
  · rename_i given
    rw [given] at repeated
    exact absurd repeated (by decide)
  · rename_i given
    rw [given] at repeated
    exact absurd repeated (Nat.lt_irrefl 1)
  · rfl

theorem status_greet_of_single {query : Option (List Char)}
    (single : ¬ Form.RepeatsName query) : (site.greet (query.getD [])).status = .ok := by
  unfold greet
  split
  · rfl
  · rfl
  · rename_i one two
    refine absurd ?_ single
    unfold Form.RepeatsName
    cases given : Form.values "name".toList (query.getD []) with
    | nil => exact absurd given one
    | cons first rest =>
      cases rest with
      | nil => exact absurd given (two first)
      | cons second others => exact Nat.succ_lt_succ (Nat.succ_pos _)

/-- Every route answers with success, but nobody can be greeted by two names. -/
theorem status_get {query : Option (List Char)} {route : Route}
    (readable : ¬ (route = .hello ∧ Form.RepeatsName query)) :
    (site.get (query.getD []) route).status = .ok := by
  cases route with
  | health => rfl
  | info => rfl
  | hello => exact site.status_greet_of_single fun repeated => readable ⟨rfl, repeated⟩

theorem fullAnswer_of_unserved (unserved : String.ofList request.target.path ∉ Route.endpoints) :
    site.fullAnswer request = .ofJson .notFound (missing request.target.path) := by
  unfold fullAnswer
  rw [Route.ofPath?_eq_none unserved]

theorem fullAnswer_of_found {route : Route}
    (found : Route.ofPath? request.target.path = some route) :
    site.fullAnswer request =
      if request.method = "GET" ∨ request.method = "HEAD" then
        site.get (request.target.query.getD []) route
      else refusal := by
  unfold fullAnswer
  rw [found]

/-- HEAD is answered as GET is, before the body is left out. -/
theorem fullAnswer_of_head (head : request.method = "HEAD") :
    site.fullAnswer { request with method := "GET" } = site.fullAnswer request := by
  unfold fullAnswer
  dsimp only
  cases Route.ofPath? request.target.path with
  | none => rfl
  | some route => exact (if_pos (.inl rfl)).trans (if_pos (.inr head)).symm

theorem status_answer (request : Request) :
    (site.answer request).status = (site.fullAnswer request).status := by
  unfold answer
  split <;> rfl

/-- Nothing is found exactly at the paths that are not served. -/
theorem status_answer_eq_notFound_iff (request : Request) :
    (site.answer request).status = .notFound ↔
      String.ofList request.target.path ∉ Route.endpoints := by
  rw [status_answer]
  constructor
  · intro missed served
    rcases Route.mem_endpoints.mp served with ⟨route, found⟩
    rw [fullAnswer_of_found site found] at missed
    split at missed
    · by_cases repeated : route = .hello ∧ Form.RepeatsName request.target.query
      · rcases repeated with ⟨rfl, repeated⟩
        rw [get, greet_of_repeated site repeated] at missed
        exact absurd missed (by decide)
      · rw [status_get site repeated] at missed
        exact absurd missed (by decide)
    · exact absurd missed (by decide)
  · intro unserved
    rw [fullAnswer_of_unserved site unserved]
    rfl

end Site

/-! ## Answers in time -/

namespace Server

variable (server : Server) {arrival : Arrival}

/-- A request that is answered in time gets the site's answer with its identifier, and is
counted and logged with the status of that answer. -/
theorem respond_of_timely (timely : arrival.overdue = false) :
    server.respond arrival =
      ((server.site.answer arrival.request).withHeader
          ⟨requestIdField, requestId arrival.fresh arrival.request⟩,
        [.counted (requestCounter arrival.request (server.site.answer arrival.request).status),
          servedEvent (arrival.request.identified arrival.fresh)
            (server.site.answer arrival.request).status]) := by
  rw [respond, serve_eq, timely]
  rfl

end Server

/-- The request with GET in place of its method. -/
def Arrival.asGet (arrival : Arrival) : Arrival :=
  { arrival with request := { arrival.request with method := "GET" } }

/-- What a request gets that is answered in time.  A path that is not served is not found,
whatever the method, and the document about it repeats it as it was sent.  A path that is
served refuses all methods but two, and says which.  GET is answered with success, unless it
asks to greet by a name that is given more than once, and HEAD gets the status that GET
would get, and no body. -/
structure Server.Routes (server : Server) (arrival : Arrival) : Prop where
  missing : String.ofList arrival.request.target.path ∉ Route.endpoints →
    (server.respond arrival).1.status = .notFound
  repeats : String.ofList arrival.request.target.path ∉ Route.endpoints →
    arrival.request.method ≠ "HEAD" →
    Json.ReadsAs (server.respond arrival).1.body
      (.object [("error", .string "not found"),
        ("path", .string (String.ofList arrival.request.target.path))])
  refused : String.ofList arrival.request.target.path ∈ Route.endpoints →
    arrival.request.method ≠ "GET" → arrival.request.method ≠ "HEAD" →
    (server.respond arrival).1.status = .methodNotAllowed ∧
      (server.respond arrival).1.headers.filter (·.name == "allow") =
        [Response.field "allow" "GET,HEAD"]
  found : String.ofList arrival.request.target.path ∈ Route.endpoints →
    arrival.request.method = "GET" →
    ¬ (arrival.request.target.path = "/hello".toList ∧
      Form.RepeatsName arrival.request.target.query) →
    (server.respond arrival).1.status = .ok
  unreadable : arrival.request.target.path = "/hello".toList → arrival.request.method = "GET" →
    Form.RepeatsName arrival.request.target.query →
    (server.respond arrival).1.status = .badRequest
  bodiless : arrival.request.method = "HEAD" →
    (server.respond arrival).1.body = "" ∧
      (server.respond arrival).1.status = (server.respond arrival.asGet).1.status

namespace Server

variable (server : Server) {arrival : Arrival}

theorem status_respond (timely : arrival.overdue = false) :
    (server.respond arrival).1.status = (server.site.fullAnswer arrival.request).status := by
  rw [respond_of_timely server timely, ← Site.status_answer]
  rfl

theorem routes_of_timely (timely : arrival.overdue = false) : server.Routes arrival where
  missing := by
    intro unserved
    rw [status_respond server timely, Site.fullAnswer_of_unserved _ unserved]
    rfl
  repeats := by
    intro unserved notHead
    have body : (server.respond arrival).1.body =
        (Site.missing arrival.request.target.path).text := by
      rw [respond_of_timely server timely, Site.answer, if_neg notHead,
        Site.fullAnswer_of_unserved _ unserved]
      rfl
    rw [body]
    exact Json.readsAs_text _
  refused := by
    intro served notGet notHead
    rcases Route.mem_endpoints.mp served with ⟨route, found⟩
    have answered : server.site.answer arrival.request = Site.refusal := by
      rw [Site.answer, if_neg notHead, Site.fullAnswer_of_found _ found, if_neg]
      rintro (get | head)
      · exact notGet get
      · exact notHead head
    rw [respond_of_timely server timely, answered]
    exact ⟨rfl, rfl⟩
  found := by
    intro served get readable
    rcases Route.mem_endpoints.mp served with ⟨route, found⟩
    rw [status_respond server timely, Site.fullAnswer_of_found _ found, if_pos (.inl get)]
    refine Site.status_get _ ?_
    rintro ⟨rfl, repeated⟩
    exact readable ⟨Route.eq_of_ofPath?_hello found, repeated⟩
  unreadable := by
    intro path get repeated
    have hello : Route.ofPath? arrival.request.target.path = some .hello := by rw [path]; rfl
    rw [status_respond server timely, Site.fullAnswer_of_found _ hello, if_pos (.inl get),
      Site.get, Site.greet_of_repeated _ repeated]
    rfl
  bodiless := by
    intro head
    constructor
    · rw [respond_of_timely server timely, Site.answer, if_pos head]
      rfl
    · have timelyGet : arrival.asGet.overdue = false := timely
      rw [status_respond server timely, status_respond server timelyGet]
      exact congrArg Response.status (Site.fullAnswer_of_head _ head).symm

end Server
end Http
end ServiceBeacon
