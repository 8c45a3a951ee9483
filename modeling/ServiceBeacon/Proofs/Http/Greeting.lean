import ServiceBeacon.Proofs.Http.Form
import ServiceBeacon.Proofs.Http.Routing

namespace ServiceBeacon
namespace Http

/-!
# Who is greeted

The answer to a request to greet depends on what its query says about a name, and
on nothing else of it.  A query that says nothing greets everybody, one that names
somebody greets that name whatever it is, and one that is undecided is refused.
-/

/-- That a response greets by a name, on behalf of a service. -/
structure Response.Greets (response : Response) (service name : String) : Prop where
  status : response.status = .ok
  body : Json.ReadsAs response.body
    (.object
      [("message", .string ("Hello " ++ name ++ " from " ++ service)), ("service", .string service),
        ("name", .string name)])

/-- That a request is one to greet, and is answered in time. -/
structure Arrival.IsHello (arrival : Arrival) : Prop where
  timely : arrival.overdue = false
  method : arrival.request.method = "GET"
  path : arrival.request.target.path = "/hello".toList

/-- The query of a request; without one, it is empty. -/
def Arrival.query (arrival : Arrival) : List Char := arrival.request.target.query.getD []

namespace Server

variable (server : Server) {arrival : Arrival}

theorem respond_of_isHello (hello : arrival.IsHello) :
    (server.respond arrival).1.status = (server.site.greet arrival.query).status ∧
      (server.respond arrival).1.body = (server.site.greet arrival.query).body := by
  have found : Route.ofPath? arrival.request.target.path = some .hello := by rw [hello.path]; rfl
  have answered : server.site.answer arrival.request = server.site.greet arrival.query := by
    rw [Site.answer, if_neg (by rw [hello.method]; decide), Site.fullAnswer_of_found _ found,
      if_pos (.inl hello.method)]
    rfl
  rw [respond_of_timely server hello.timely, answered]
  exact ⟨rfl, rfl⟩

theorem greets_of_greet (hello : arrival.IsHello) {name : String}
    (greeted : server.site.greet arrival.query = .ofJson .ok (server.site.greeting name)) :
    (server.respond arrival).1.Greets server.site.identity.serviceName name := by
  have answered := respond_of_isHello server hello
  rw [greeted] at answered
  refine ⟨answered.1, ?_⟩
  rw [answered.2]
  exact Json.readsAs_text (server.site.greeting name)

theorem greets_world (hello : arrival.IsHello)
    (said : Form.Says arrival.query "name".toList []) :
    (server.respond arrival).1.Greets server.site.identity.serviceName "World" := by
  apply greets_of_greet server hello
  rw [Site.greet, Form.says_iff.mp said]

theorem greets_named (hello : arrival.IsHello) {name : List Char}
    (said : Form.Says arrival.query "name".toList [name]) :
    (server.respond arrival).1.Greets server.site.identity.serviceName (String.ofList name) := by
  apply greets_of_greet server hello
  rw [Site.greet, Form.says_iff.mp said]

theorem status_of_repeated (hello : arrival.IsHello) {given : List (List Char)}
    (said : Form.Says arrival.query "name".toList given) (repeated : 1 < given.length) :
    (server.respond arrival).1.status = .badRequest := by
  rw [← Form.says_iff.mp said] at repeated
  rw [(respond_of_isHello server hello).1, Arrival.query, Site.greet_of_repeated _ repeated]
  rfl

/-- A request to greet is answered by what its query says about the name: nothing,
one value, or too much.  So every text is greeted that is encoded as the name, among
whatever else is not about the name. -/
theorem greets_as_asked (hello : arrival.IsHello) :
    (∃ given, Form.Says arrival.query "name".toList given ∧
      (∀ other, Form.Says arrival.query "name".toList other → other = given) ∧
      (given = [] → (server.respond arrival).1.Greets server.site.identity.serviceName "World") ∧
      (∀ value, given = [value] →
        (server.respond arrival).1.Greets server.site.identity.serviceName (String.ofList value)) ∧
      (1 < given.length → (server.respond arrival).1.status = .badRequest)) ∧
    ∀ (name : String) (spelled : List Char) (before after : List (List Char)),
      Form.Encodes spelled name.toList →
      (∀ part ∈ before ++ after, Form.IsUnrelated "name".toList part) →
      arrival.request.target.query =
        some (Text.join '&' (before ++ ("name=".toList ++ spelled) :: after)) →
      (server.respond arrival).1.Greets server.site.identity.serviceName name := by
  constructor
  · have said := Form.says_iff.mpr (rfl : Form.values "name".toList arrival.query = _)
    refine ⟨_, said, fun other also => ?_, fun nothing => ?_, fun value single => ?_,
      status_of_repeated server hello said⟩
    · exact (Form.says_iff.mp also).symm
    · exact greets_world server hello (nothing ▸ said)
    · exact greets_named server hello (single ▸ said)
  · intro name spelled before after encodes unrelated asked
    have own : Form.Reads "name".toList "name".toList := Form.reads_iff.mpr (by decide +kernel)
    have said := Form.says_single (by decide) (by decide) own unrelated encodes
    have query : arrival.query =
        Text.join '&' (before ++ ("name".toList ++ '=' :: spelled) :: after) := by
      rw [Arrival.query, asked]
      rfl
    rw [← query] at said
    have greeted := greets_named server hello said
    rwa [String.ofList_toList] at greeted

/-- A name of two words, each spelled in its own way, beside a language. -/
theorem greets_encoded_name :
    let server : Server :=
      ⟨⟨⟨"web", "web-1", "web", 80, Metadata.empty⟩, false⟩, .ofSeconds 30, .ofSeconds 10⟩
    let arrival : Arrival :=
      ⟨⟨"GET", ⟨"/hello".toList, some "lang=de&name=a+%C3%A9".toList⟩, []⟩, "", false⟩
    (server.respond arrival).1.Greets "web" "a é" := by
  intro server arrival
  have hello : arrival.IsHello := ⟨rfl, rfl, rfl⟩
  have encodes : Form.Encodes "a+%C3%A9".toList "a é".toList :=
    ⟨by decide, Form.spells_iff.mpr (by decide +kernel)⟩
  have unrelated : ∀ part ∈ ["lang=de".toList] ++ [], Form.IsUnrelated "name".toList part := by
    intro part listed
    rw [List.mem_singleton.mp listed]
    exact Form.isUnrelated_iff.mpr ⟨by decide, by decide +kernel⟩
  exact (greets_as_asked server hello).2 "a é" _ _ _ encodes unrelated rfl

end Server
end Http
end ServiceBeacon
