import ServiceBeacon.Proofs.Json.Trees
import ServiceBeacon.Proofs.Registration.Decoding
import ServiceBeacon.Proofs.Registry.SingleRequest

namespace ServiceBeacon

/-!
# The descriptor that an agent reads

Whatever texts an identity consists of, an agent that reads the body of a
registration finds exactly the identity's descriptor in it: the same texts, the
same port, and the same metadata in the same order.  A descriptor of other origin
is written in one way only, so reading and writing it again changes nothing.

A redirect may take the body away from a request, but it never changes it.
-/

namespace Registration

open Json (Datum)

theorem portOf?_natural (port : UInt16) :
    portOf? (.number (.ofNat port.toNat)) = some port :=
  portOf?_eq_some_iff.mpr ⟨_, rfl, Json.natural?_ofNat port.toNat⟩

theorem metadataOf?_entries (metadata : Metadata) :
    metadataOf? (Json.datum (.object
      (metadata.entries.map fun entry => (entry.1, .string entry.2)))) = some metadata := by
  have texts : ∀ entries : List (String × String),
      Json.memberData (entries.map fun entry => (entry.1, .string entry.2)) =
        entries.map fun entry => (entry.1, .string entry.2) := by
    intro entries
    induction entries with
    | nil => rfl
    | cons entry rest inductionHypothesis =>
      rw [List.map_cons, Json.memberData, inductionHypothesis]
      rfl
  rw [metadataOf?_eq_some_iff]
  refine ⟨metadata.entries, ?_, metadata.ofList_entries.symm⟩
  rw [Json.datum, texts]

/-- What is written for a descriptor is read as that descriptor. -/
theorem ofText_body (registration : Registration) :
    ofText registration.body = .ok registration := by
  rcases Json.exists_writtenObject
    [("ID", .string registration.id), ("Name", .string registration.name),
      ("Address", .string registration.address), ("Port", .number registration.port.toNat),
      ("Meta", .object (registration.metadata.entries.map fun entry => (entry.1, .string entry.2)))]
    with ⟨object, text, members⟩
  rw [body, toJson, ← text, ofText_eq_ok_iff, members]
  refine ⟨rfl, rfl, rfl, ?_, ?_⟩
  · exact congrArg ([·]) (portOf?_natural registration.port)
  · exact congrArg ([·]) (metadataOf?_entries registration.metadata)

end Registration

namespace Registry

/-- An exchange is nothing, its first request, or that and the exchange of the
request that a redirect makes of it. -/
theorem sent_cases (allowance : Nat) (agent : Agent) (first : Request) :
    (exchange allowance agent first).sent = [] ∨
      (exchange allowance agent first).sent = [first] ∨
        ∃ less answer following, allowance = less + 1 ∧
          first.redirected? answer = some following ∧
          (exchange allowance agent first).sent =
            first :: (exchange less agent.served following).sent := by
  rw [exchange.eq_def]
  split
  · exact .inl rfl
  split
  · exact .inl rfl
  split
  · exact .inr (.inl rfl)
  · exact .inr (.inl rfl)
  · rename_i answer _
    split
    · exact .inr (.inl rfl)
    · exact .inr (.inl rfl)
    · rename_i following less redirected
      exact .inr (.inr ⟨less, answer, following, rfl, redirected, rfl⟩)

theorem Request.body_of_redirected {request following : Request} {answer : Answer}
    (redirected : request.redirected? answer = some following) :
    following.body = request.body ∨ following.body = none := by
  simp only [redirected?, Option.bind_eq_bind, Option.bind_eq_some_iff] at redirected
  rcases redirected with ⟨location, -, url, -, followed⟩
  split at followed <;> cases followed
  all_goals first
    | exact .inl rfl
    | exact .inr rfl

/-- Every request of an exchange carries the body of the first one, or none. -/
theorem body_of_mem_sent {allowance : Nat} {agent : Agent} {first request : Request}
    (sent : request ∈ (exchange allowance agent first).sent) :
    request.body = first.body ∨ request.body = none := by
  induction allowance using Nat.strongRecOn generalizing agent first with
  | ind allowance inductionHypothesis =>
    rcases sent_cases allowance agent first with
      none | one | ⟨less, _, following, more, redirected, rest⟩
    · rw [none] at sent
      exact absurd sent List.not_mem_nil
    · rw [one] at sent
      rw [List.mem_singleton.mp sent]
      exact .inl rfl
    · rw [rest, List.mem_cons] at sent
      rcases sent with same | later
      · rw [same]
        exact .inl rfl
      · rcases inductionHypothesis less (by omega) later with carried | dropped
        · rw [carried]
          exact Request.body_of_redirected redirected
        · exact .inr dropped

namespace Client

variable (client : Client) (identity : Identity) (agent : Agent)

/-- A call sends what its exchange sends, if its URL can be made. -/
theorem sent_call (operation : Operation) :
    (client.call operation identity agent).sent = [] ∨
      ∃ url, (client.call operation identity agent).sent =
        (exchange redirectLimit agent (firstRequest url operation identity)).sent := by
  cases located : client.endpoint identity operation with
  | error fault =>
    rw [call, located]
    exact .inl rfl
  | ok url => exact .inr ⟨url, (call_of_located located).1⟩

/-- A registration that finds its agent carries a descriptor.  What a registration
carries is read as the identity's descriptor.  A descriptor that was read from any
text keeps its value and its text when it is written and read again. -/
theorem descriptor_round_trips :
    (∀ url, client.endpoint identity .register = .ok url → isHttpScheme url.scheme = true →
      agent.reaches url = true →
        ∃ text, (client.call .register identity agent).sent.head? = some ⟨.put, url, some text⟩) ∧
    (∀ request ∈ (client.call .register identity agent).sent, ∀ text, request.body = some text →
      ∃ read, Registration.ofText text = .ok read ∧ read = .ofIdentity identity ∧
        read.id = identity.serviceId ∧ read.name = identity.serviceName ∧
        read.address = identity.address ∧ read.port = identity.port ∧
        read.metadata.entries = identity.routing.entries) ∧
    ∀ text read, Registration.ofText text = .ok read →
      ∃ again, Registration.ofText read.body = .ok again ∧ again = read ∧
        again.body = read.body := by
  refine ⟨?_, ?_, ?_⟩
  · intro url located http reached
    exact ⟨_, head?_sent_of_located located http reached⟩
  · intro request sent text carried
    rcases client.sent_call identity agent .register with none | ⟨url, exchanged⟩
    · rw [none] at sent
      exact absurd sent List.not_mem_nil
    · rw [exchanged] at sent
      have own : text = (Registration.ofIdentity identity).body := by
        rcases body_of_mem_sent sent with same | dropped
        · exact Option.some.inj (carried.symm.trans same)
        · cases carried.symm.trans dropped
      rw [own]
      exact ⟨_, Registration.ofText_body _, rfl, rfl, rfl, rfl, rfl, rfl⟩
  · intro text read _
    exact ⟨read, Registration.ofText_body read, rfl, rfl⟩

/-- Marks, control characters and keys out of order arrive as they are. -/
theorem descriptor_round_trips_unusual :
    let identity : Identity :=
      ⟨"a \"name\"", "C:\\dev\x00", "höst", 65535, .ofList [("b", "\t"), ("a", "")]⟩
    ∃ client url text read, ofConfig Config.Registry.default = .ok client ∧
      (client.call .register identity ⟨fun _ => true, []⟩).sent.head? =
          some ⟨.put, url, some text⟩ ∧
        Registration.ofText text = .ok read ∧ read.id = "C:\\dev\x00" ∧
        read.metadata.entries = [("b", "\t"), ("a", "")] := by
  intro identity
  have plain : Url.IsPlainHost Config.Registry.default.host.toList := by decide
  have made := ofConfig_of_isPlainHost plain
  rcases endpoint_of_ofText made rfl identity .register with ⟨url, located, scheme⟩
  have http : isHttpScheme url.scheme = true := by
    rw [scheme]
    rfl
  rcases descriptor_round_trips _ identity ⟨fun _ => true, []⟩ with ⟨carries, reads, -⟩
  rcases carries url located http rfl with ⟨text, first⟩
  rcases reads _ (List.mem_of_mem_head? first) text rfl with
    ⟨read, decoded, -, id, -, -, -, entries⟩
  exact ⟨_, url, text, read, made, first, decoded, id, entries⟩

end Client
end Registry
end ServiceBeacon
