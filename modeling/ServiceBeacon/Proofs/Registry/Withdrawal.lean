import ServiceBeacon.Config.Validation
import ServiceBeacon.Proofs.Json.Strings
import ServiceBeacon.Proofs.Registry.SingleRequest
import ServiceBeacon.Proofs.Url.Extension

namespace ServiceBeacon
namespace Registry

/-!
# Announcing and withdrawing under one identifier

The identifier of an identity travels in two ways.  The announcement has it in
its body, as the first member of a JSON object; the withdrawal has it in its
URL, as the last segment of the path.  JSON carries every text.  A segment
carries every text but the dot segments and those with tabs or line ends, which
are lost on the way, so the theorems here are about exactly the other ones.
-/

/-- Whether the first member of a body is an identifier that reads as a text. -/
def Identifies (body id : String) : Prop :=
  ∃ quoted behind, body.toList = "\x7b\"ID\":\"".toList ++ quoted ∧
    Json.readString quoted = some (some id, behind)

/-- The segments in front of the identifier in the path of a withdrawal. -/
def withdrawalPath : List (List Char) :=
  ["v1".toList, "agent".toList, "service".toList, "deregister".toList]

/-- Whether a path is a path of withdrawals with one more segment, which reads as a text. -/
def Withdraws (url : Url) (id : String) : Prop :=
  ∃ segment, url.path = .segments (withdrawalPath ++ [segment]) ∧ '/' ∉ segment ∧
    Url.percentDecode (Text.Utf8.encode segment) = Text.Utf8.encode id.toList

/-- Whether an identifier survives as a segment. -/
def IsSegmentId (id : String) : Prop :=
  (∀ c ∈ id.toList, Url.isDropped c = false) ∧ id ≠ "." ∧ id ≠ ".."

instance (id : String) : Decidable (IsSegmentId id) :=
  decidable_of_iff ((!id.toList.any Url.isDropped && id != "." && id != "..") = true)
    (by
      simp only [IsSegmentId, Bool.and_eq_true, Bool.not_eq_true', List.any_eq_false,
        Bool.not_eq_true, bne_iff_ne, and_assoc])

/-! ## The announcement -/

/-- Every descriptor shows its identifier, whatever characters it has. -/
theorem identifies_body (registration : Registration) :
    Identifies registration.body registration.id := by
  have behind : ∀ members, (Json.object (("ID", .string registration.id) :: members)).text.toList =
      "\x7b\"ID\":\"".toList ++ (registration.id.toList.flatMap Json.escape ++
        '"' :: (Json.renderMembers members ++ ['\x7d'])) := by
    intro members
    simp only [Json.text, Json.render, Json.quote, String.toList_ofList, List.append_assoc,
      List.cons_append, List.nil_append]
    rfl
  exact ⟨_, _, behind _, Json.readString_written registration.id _⟩

/-! ## The withdrawal -/

/-- A URL withdraws one identifier at most. -/
theorem Withdraws.unique {url : Url} {first second : String} (one : Withdraws url first)
    (other : Withdraws url second) : first = second := by
  rcases one with ⟨written, path, _, decoded⟩
  rcases other with ⟨writtenToo, pathToo, _, decodedToo⟩
  have paths := Url.Path.segments.inj (path.symm.trans pathToo)
  have same : written = writtenToo := (List.cons.inj (List.append_cancel_left paths)).1
  rw [← same] at decodedToo
  exact String.toList_inj.mp (Text.Utf8.encode_injective (decoded.symm.trans decodedToo))

private theorem isLiteral_withdrawalPath : ∀ segment ∈ withdrawalPath, Url.IsLiteral segment := by
  intro segment member
  simp only [withdrawalPath, List.mem_cons, List.not_mem_nil, or_false] at member
  rcases member with rfl | rfl | rfl | rfl <;>
    exact ⟨by decide, ⟨by decide, by decide⟩, by decide⟩

/-- The path of a withdrawal is that of the base URL, the fixed segments, and the identifier. -/
theorem extend_withdrawal {url : Url} {path : List (List Char)} (hierarchy : url.path = .segments path)
    (identity : Identity) :
    url.extend (Client.segments identity .deregister) =
      .ok { url with
        path := .segments
          (Url.pushSegment (Url.isSpecial url.scheme)
            (Url.beforePush (Url.dropTrailingSlash path) ++ withdrawalPath)
            identity.serviceId.toList) } := by
  have fixed : withdrawalPath.foldl (Url.pushSegment (Url.isSpecial url.scheme))
      (Url.dropTrailingSlash path) = Url.beforePush (Url.dropTrailingSlash path) ++ withdrawalPath :=
    Url.foldl_pushSegment_of_literal _ _ isLiteral_withdrawalPath
  have listed : Client.segments identity .deregister =
      withdrawalPath ++ [identity.serviceId.toList] := rfl
  rw [Url.extend, hierarchy, listed]
  simp only [List.foldl_append, fixed, List.foldl_cons, List.foldl_nil]

/-- Behind the fixed segments, the identifier is the one that is withdrawn
exactly if it survives. -/
theorem withdraws_pushSegment_iff (base : Url) (special : Bool) (id : String) :
    Withdraws
        { base with path := .segments (Url.pushSegment special withdrawalPath id.toList) } id ↔
      IsSegmentId id := by
  have other : withdrawalPath ≠ [[]] := by decide
  have readsBack := Url.pushSegment_readsBack_iff special other id.toList
  have single : id.toList ≠ ['.'] ↔ id ≠ "." := not_congr (@String.toList_inj id ".")
  have double : id.toList ≠ ['.', '.'] ↔ id ≠ ".." := not_congr (@String.toList_inj id "..")
  rw [single, double] at readsBack
  constructor
  · rintro ⟨segment, path, slashless, decoded⟩
    exact readsBack.mp ⟨segment, Url.Path.segments.inj path, slashless, decoded⟩
  · intro survives
    rcases readsBack.mpr survives with ⟨segment, pushed, slashless, decoded⟩
    exact ⟨segment, congrArg Url.Path.segments pushed, slashless, decoded⟩

namespace Client

section PlainHost

variable (host : List Char) (port : UInt16) (timeout : Duration) (identity : Identity)

/-- The URL at which an agent with a plain host is asked to forget an identity. -/
def withdrawalUrl : Url :=
  { Url.ofPlainHost host port with
    path := .segments (Url.pushSegment true withdrawalPath identity.serviceId.toList) }

theorem endpoint_deregister_eq :
    (Client.mk (Url.ofPlainHost host port) timeout).endpoint identity .deregister =
      .ok (withdrawalUrl host port identity) := by
  have root : (Url.ofPlainHost host port).path = .segments [[]] := rfl
  unfold endpoint
  rw [extend_withdrawal root identity]
  rfl

theorem withdraws_withdrawalUrl_iff :
    Withdraws (withdrawalUrl host port identity) identity.serviceId ↔
      IsSegmentId identity.serviceId :=
  withdraws_pushSegment_iff (Url.ofPlainHost host port) true identity.serviceId

end PlainHost

/-- A client of an agent with a plain host announces every identity under its
identifier, and withdraws it under the same one exactly if that survives as a
segment.  Different such identifiers are never withdrawn at the same URL. -/
theorem withdraws_as_announced_iff {registry : Config.Registry}
    (plain : Url.IsPlainHost registry.host.toList) :
    ∃ client, ofConfig registry = .ok client ∧
      (∀ identity, ∃ announced withdrawn body,
        (∀ agent : Agent, agent.reaches announced = true →
          (client.call .register identity agent).sent.head? =
            some ⟨.put, announced, some body⟩) ∧
        (∀ agent : Agent, agent.reaches withdrawn = true →
          (client.call .deregister identity agent).sent.head? = some ⟨.put, withdrawn, none⟩) ∧
        Identifies body identity.serviceId ∧
        (Withdraws withdrawn identity.serviceId ↔ IsSegmentId identity.serviceId)) ∧
      ∀ first second url, IsSegmentId first.serviceId → IsSegmentId second.serviceId →
        client.endpoint first .deregister = .ok url →
        client.endpoint second .deregister = .ok url → first.serviceId = second.serviceId := by
  have made := ofConfig_of_isPlainHost plain
  have withdrawnAt := endpoint_deregister_eq registry.host.toList registry.port
    (.ofSeconds registry.timeoutSeconds.toNat)
  have survives := withdraws_withdrawalUrl_iff registry.host.toList registry.port
  refine ⟨_, made, ?_, ?_⟩
  · intro identity
    rcases endpoint_of_ofText made rfl identity .register with ⟨announced, announcedAt, scheme⟩
    have http : isHttpScheme announced.scheme = true := by
      rw [scheme]
      rfl
    refine ⟨announced, _, (Registration.ofIdentity identity).body, ?_, ?_, ?_, survives identity⟩
    · exact fun agent reached => head?_sent_of_located announcedAt http reached
    · exact fun agent reached => head?_sent_of_located (withdrawnAt identity) rfl reached
    · exact identifies_body (Registration.ofIdentity identity)
  · intro first second url firstSurvives secondSurvives firstAt secondAt
    cases (withdrawnAt first).symm.trans firstAt
    have same := Except.ok.inj ((withdrawnAt second).symm.trans secondAt)
    have one := (survives first).mpr firstSurvives
    have other := (survives second).mpr secondSurvives
    rw [same] at other
    exact one.unique other

/-- An identifier with a slash and a blank is withdrawn as announced on the same host. -/
theorem withdraws_divided_identifier :
    Url.IsPlainHost Config.Registry.default.host.toList ∧
      ∃ client withdrawn, ofConfig Config.Registry.default = .ok client ∧
        (∀ agent : Agent, agent.reaches withdrawn = true →
          (client.call .deregister ⟨"web", "a/b c", "web", 80, Metadata.empty⟩ agent).sent.head? =
            some ⟨.put, withdrawn, none⟩) ∧
        Withdraws withdrawn "a/b c" := by
  have plain : Url.IsPlainHost Config.Registry.default.host.toList := by decide
  have survives : IsSegmentId "a/b c" := by decide
  rcases withdraws_as_announced_iff plain with ⟨client, made, every, _⟩
  rcases every ⟨"web", "a/b c", "web", 80, Metadata.empty⟩ with
    ⟨_, withdrawn, _, _, requested, _, withdraws⟩
  exact ⟨plain, client, withdrawn, made, requested, withdraws.mpr survives⟩

/-- A configuration whose identifier has a tab. -/
def tabbed : Config :=
  { Config.default with
    registry := { Config.Registry.default with enabled := true }
    service := { Config.Service.default with id := some "a\tb" } }

/-- The tab is accepted, and gets lost in the withdrawal, which is that of another identifier. -/
theorem withdraws_without_tab :
    tabbed.violations = [] ∧ tabbed.registry.enabled = true ∧
      Url.IsPlainHost tabbed.registry.host.toList ∧
      ∃ client url, ofConfig tabbed.registry = .ok client ∧
        client.endpoint (Identity.ofConfig tabbed) .deregister = .ok url ∧
        ¬ Withdraws url (Identity.ofConfig tabbed).serviceId ∧
        client.endpoint { Identity.ofConfig tabbed with serviceId := "ab" } .deregister =
          .ok url := by
  have plain : Url.IsPlainHost tabbed.registry.host.toList := by decide
  have withdrawnAt := endpoint_deregister_eq tabbed.registry.host.toList tabbed.registry.port
    (.ofSeconds tabbed.registry.timeoutSeconds.toNat)
  have lost : ¬ IsSegmentId (Identity.ofConfig tabbed).serviceId := by decide
  have pushed : Url.pushSegment true withdrawalPath "ab".toList =
      Url.pushSegment true withdrawalPath "a\tb".toList := by decide
  refine ⟨by decide, rfl, plain, _, _, ofConfig_of_isPlainHost plain,
    withdrawnAt (Identity.ofConfig tabbed),
    mt (withdraws_withdrawalUrl_iff _ _ (Identity.ofConfig tabbed)).mp lost, ?_⟩
  rw [withdrawnAt]
  exact congrArg (fun path => Except.ok { Url.ofPlainHost tabbed.registry.host.toList
    tabbed.registry.port with path := .segments path }) pushed

end Client
end Registry
end ServiceBeacon
