import ServiceBeacon.Proofs.Registry.Withdrawal
import ServiceBeacon.Proofs.Url.Below

namespace ServiceBeacon
namespace Registry

/-!
# Where the calls of a client lie

A client makes the URLs of its calls by extending its base URL.  Everything of
the base stays, its query and its fragment too, and the calls lie below its path.
An identifier takes one segment at most, which it can neither leave nor take
back.  A base without a hierarchy has nothing below it, so there are no calls.

Segments are kept as they are written, so these are statements about the texts
of paths: that is what an agent is asked for.
-/

namespace Client

/-- Whether a call starts with its own request to a URL, at every agent that has it. -/
structure CallsAt (client : Client) (operation : Operation) (identity : Identity) (url : Url) :
    Prop where
  located : client.endpoint identity operation = .ok url
  requested : ∀ agent : Agent, agent.reaches url = true →
    (client.call operation identity agent).sent.head? = some (firstRequest url operation identity)

variable {client : Client} {identity : Identity}

theorem endpoint_of_extend {operation : Operation} {url : Url}
    (extended : client.baseUrl.extend (segments identity operation) = .ok url) :
    client.endpoint identity operation = .ok url := by
  unfold endpoint
  rw [extended]

theorem callsAt_of_extend {operation : Operation} {url : Url}
    (extended : client.baseUrl.extend (segments identity operation) = .ok url)
    (http : isHttpScheme url.scheme = true) : client.CallsAt operation identity url where
  located := endpoint_of_extend extended
  requested := fun _ reached => head?_sent_of_located (endpoint_of_extend extended) http reached

/-! ## Bases with a hierarchy -/

section Hierarchy

variable {parts : List (List Char)}

theorem isSpecial_of_isHttpScheme {scheme : List Char} (http : isHttpScheme scheme = true) :
    Url.isSpecial scheme = true := by
  simp only [isHttpScheme, Bool.or_eq_true, beq_iff_eq] at http
  rcases http with rfl | rfl <;> rfl

/-- Announcements have a path of their own. -/
def announcementPath : List (List Char) :=
  ["v1".toList, "agent".toList, "service".toList, "register".toList]

theorem isLiteral_announcementPath : ∀ segment ∈ announcementPath, Url.IsLiteral segment := by
  intro segment member
  simp only [announcementPath, List.mem_cons, List.not_mem_nil, or_false] at member
  rcases member with rfl | rfl | rfl | rfl <;>
    exact ⟨by decide, ⟨by decide, by decide⟩, by decide⟩

theorem extend_announcement {url : Url} (hierarchy : url.path = .segments parts)
    (identity : Identity) :
    url.extend (segments identity .register) =
      .ok { url with
        path := .segments (Url.beforePush (Url.dropTrailingSlash parts) ++ announcementPath) } := by
  have fixed : (segments identity .register).foldl (Url.pushSegment (Url.isSpecial url.scheme))
      (Url.dropTrailingSlash parts) =
        Url.beforePush (Url.dropTrailingSlash parts) ++ announcementPath :=
    Url.foldl_pushSegment_of_literal _ _ isLiteral_announcementPath
  rw [Url.extend, hierarchy]
  simp only [fixed]

theorem text_announcementPath :
    (Url.Path.segments announcementPath).text = "/v1/agent/service/register".toList := rfl

theorem text_withdrawalPath (further : Option (List Char)) :
    (Url.Path.segments (withdrawalPath ++ further.toList)).text =
      "/v1/agent/service/deregister".toList ++ Url.markedText '/' further := by
  rw [Url.text_append]
  cases further with
  | none => rfl
  | some segment => exact congrArg (_ ++ '/' :: ·) (List.append_nil segment)

/-- An identifier that loses no characters takes one segment, which encloses it.
Only the dot segments take none. -/
theorem pushSegment_identifier (path : List (List Char)) {id : String}
    (whole : ∀ c ∈ id.toList, Url.isDropped c = false) :
    ∃ further : Option (List Char),
      Url.pushSegment true (path ++ withdrawalPath) id.toList =
        path ++ (withdrawalPath ++ further.toList) ∧
      (further = none ↔ id = "." ∨ id = "..") ∧
      ∀ segment ∈ further, Url.Encloses segment id.toList := by
  have single : id = "." ↔ id.toList = ['.'] := (@String.toList_inj id ".").symm
  have double : id = ".." ↔ id.toList = ['.', '.'] := (@String.toList_inj id "..").symm
  rw [single, double]
  by_cases dots : id.toList = ['.'] ∨ id.toList = ['.', '.']
  · refine ⟨none, ?_, iff_of_true rfl dots, fun segment member => nomatch member⟩
    rw [Url.pushSegment_of_dots true _ dots, Option.toList_none, List.append_nil]
  · have kept := Url.keptSegment_eq_self_iff.mpr whole
    have ordinary : Url.IsOrdinary id.toList :=
      ⟨kept.symm ▸ fun dot => dots (Or.inl dot), kept.symm ▸ fun dot => dots (Or.inr dot)⟩
    have other : path ++ withdrawalPath ≠ [[]] := by
      have divided : path ++ withdrawalPath =
          (path ++ withdrawalPath.dropLast) ++ ["deregister".toList] :=
        (List.append_assoc path withdrawalPath.dropLast _).symm
      rw [divided]
      exact Url.append_singleton_ne_root _ (by decide)
    refine ⟨some (Url.writtenSegment true id.toList), ?_, iff_of_false (fun missing => nomatch missing) dots,
      ?_⟩
    · rw [Url.pushSegment_of_ordinary true _ ordinary, Url.beforePush_of_ne other,
        Option.toList_some, List.append_assoc]
    · intro segment member
      rw [← Option.some.inj member]
      exact Url.encloses_writtenSegment kept ordinary

end Hierarchy

/-! ## Bases without a hierarchy -/

theorem call_of_undivided (undivided : ∀ parts, client.baseUrl.path ≠ .segments parts)
    (operation : Operation) (agent : Agent) :
    client.call operation identity agent =
      ⟨.error (.invalidUrl .noHierarchy), [], [], agent⟩ := by
  cases path : client.baseUrl.path with
  | segments parts => exact absurd path (undivided parts)
  | opaqueText text =>
    unfold call endpoint Url.extend
    rw [path]

/-- The base URL of a client is what its text is read as. -/
theorem parse_of_ofText {text : String} {timeout : Duration}
    (made : ofText text timeout = .ok client) :
    Url.parse text.toList = .ok client.baseUrl := by
  unfold ofText at made
  split at made
  · rename_i url read
    cases made
    exact read
  · cases made

/-- The calls of a client lie below its base URL, if that has a hierarchy under a
scheme of HTTP and no gaps in its path.  Behind their fixed paths there is at most
one segment, which encloses the identifier.  Without a hierarchy every call fails,
and nothing is sent. -/
theorem calls_lie_below_base {text : String} {timeout : Duration}
    (made : ofText text timeout = .ok client) (identity : Identity) :
    (isHttpScheme client.baseUrl.scheme = true → client.baseUrl.IsGapless →
      (∃ url, client.CallsAt .register identity url ∧
        url.LiesBelow client.baseUrl "/v1/agent/service/register".toList) ∧
      ((∀ c ∈ identity.serviceId.toList, Url.isDropped c = false) →
        ∃ url further, client.CallsAt .deregister identity url ∧
          url.LiesBelow client.baseUrl
            ("/v1/agent/service/deregister".toList ++ Url.markedText '/' further) ∧
          (further = none ↔ identity.serviceId = "." ∨ identity.serviceId = "..") ∧
          ∀ segment ∈ further, Url.Encloses segment identity.serviceId.toList)) ∧
    ((∀ parts, client.baseUrl.path ≠ .segments parts) →
      ∀ operation agent, client.call operation identity agent =
        ⟨.error (.invalidUrl .noHierarchy), [], [], agent⟩) := by
  have read := parse_of_ofText made
  have divided := Url.isDivided_of_parse read
  refine ⟨fun http gapless => ?_, fun undivided => call_of_undivided undivided⟩
  have special := isSpecial_of_isHttpScheme http
  rcases Url.parse_hierarchy read special with ⟨parts, hierarchy⟩
  have below := Url.liesBelow_of_segments hierarchy divided gapless
  constructor
  · refine ⟨_, callsAt_of_extend (extend_announcement hierarchy identity) http, ?_⟩
    exact text_announcementPath ▸ below announcementPath
  · intro whole
    rcases pushSegment_identifier (Url.beforePush (Url.dropTrailingSlash parts)) whole with
      ⟨further, pushed, none_iff, encloses⟩
    have extended := extend_withdrawal hierarchy identity
    rw [special, pushed] at extended
    refine ⟨_, further, callsAt_of_extend extended http, ?_, none_iff, encloses⟩
    exact text_withdrawalPath further ▸ below (withdrawalPath ++ further.toList)

/-- An identifier that tries to leave its place, below a base with all parts, and a
base without a hierarchy. -/
theorem calls_lie_below_prefix :
    let identity : Identity := ⟨"web", "../x?#", "web", 80, Metadata.empty⟩
    (∃ client, ofText "http://me:pw@agent:81/pre/?q#f" (.ofSeconds 5) = .ok client ∧
      ∃ url segment, client.CallsAt .deregister identity url ∧
        url.LiesBelow client.baseUrl
          ("/v1/agent/service/deregister".toList ++ Url.markedText '/' (some segment)) ∧
        Url.Encloses segment "../x?#".toList) ∧
    ∃ client, ofText "mailto:x" (.ofSeconds 5) = .ok client ∧
      ∀ operation agent, client.call operation identity agent =
        ⟨.error (.invalidUrl .noHierarchy), [], [], agent⟩ := by
  intro identity
  let base : Url :=
    { scheme := "http".toList, username := "me".toList, password := "pw".toList
      host := some (.name "agent".toList), port := some 81
      path := .segments ["pre".toList, []], query := some "q".toList, fragment := some "f".toList }
  have read : Url.parse "http://me:pw@agent:81/pre/?q#f".toList = .ok base := by decide +kernel
  have made : ofText "http://me:pw@agent:81/pre/?q#f" (.ofSeconds 5) = .ok ⟨base, .ofSeconds 5⟩ := by
    rw [ofText, read]
  have gapless : base.IsGapless := by
    intro parts path
    rw [← Url.Path.segments.inj path]
    decide
  have whole : ∀ c ∈ identity.serviceId.toList, Url.isDropped c = false :=
    List.all_iff_forall_prop.mp (by decide)
  constructor
  · rcases ((calls_lie_below_base made identity).1 rfl gapless).2 whole with
      ⟨url, further, calls, below, none_iff, encloses⟩
    have present : further ≠ none := mt none_iff.mp (by decide)
    rcases Option.ne_none_iff_exists'.mp present with ⟨segment, rfl⟩
    exact ⟨_, made, url, segment, calls, below, encloses segment rfl⟩
  · let address : Url :=
      { scheme := "mailto".toList, username := [], password := [], host := none, port := none
        path := .opaqueText "x".toList, query := none, fragment := none }
    have readAddress : Url.parse "mailto:x".toList = .ok address := by decide +kernel
    have madeAddress : ofText "mailto:x" (.ofSeconds 5) = .ok ⟨address, .ofSeconds 5⟩ := by
      rw [ofText, readAddress]
    exact ⟨_, madeAddress, (calls_lie_below_base madeAddress identity).2 fun parts path => nomatch path⟩

end Client
end Registry
end ServiceBeacon
