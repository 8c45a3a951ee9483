import ServiceBeacon.Http.Server
import ServiceBeacon.Proofs.Text.Utf8

namespace ServiceBeacon
namespace Http

/-!
# Identifiers of requests

The identifier of a request is set before anything else is done, copied to the response
outside of the time limit, and logged inside of it.  So what the layers further in make
of a request decides neither whether its response carries the identifier nor which one
that is.  All that is asked of them is that they put no identifier into a response
themselves.

Nothing is assumed of the identifiers that clients send.  They may be sent repeatedly,
be empty or hold bytes that are no text.
-/

/-! ## The request on its way in -/

/-- The identifier of a request: its first one, or the one made up for it. -/
def requestId (fresh : String) (request : Request) : List UInt8 :=
  (request.header? requestIdField).getD (Text.Utf8.ofString fresh)

theorem isNamed_mk (name field : String) (value : List UInt8) :
    Header.isNamed name ⟨field, value⟩ = (Text.asciiLower field == name) := rfl

theorem isNamed_requestIdField (id : List UInt8) :
    Header.isNamed requestIdField ⟨requestIdField, id⟩ = true := by
  rw [isNamed_mk]
  decide

theorem header?_identified (fresh : String) (request : Request) :
    (request.identified fresh).header? requestIdField = some (requestId fresh request) := by
  unfold Request.identified requestId
  cases given : request.header? requestIdField with
  | some id => exact given
  | none =>
    have absent : request.headers.find? (·.isNamed requestIdField) = none := by
      simpa [Request.header?] using given
    simp [Request.header?, absent, isNamed_requestIdField]

/-! ## The response on its way out -/

/-- Whether no response of a handler has an identifier of its own. -/
def Handler.Anonymous (handler : Handler) : Prop :=
  ∀ request, (handler request).1.header? requestIdField = none

theorem header?_empty (status : Status) : (Response.empty status []).header? requestIdField = none := rfl

theorem header?_ofText (status : Status) (type body : String) :
    (Response.ofText status type body).header? requestIdField = none := by
  have typed (value : String) :
      Header.isNamed requestIdField (Response.field "content-type" value) = false := by
    rw [Response.field, isNamed_mk]
    decide
  have measured (value : String) :
      Header.isNamed requestIdField (Response.field "content-length" value) = false := by
    rw [Response.field, isNamed_mk]
    decide
  simp [Response.header?, Response.ofText, typed, measured]

theorem header?_answer (site : Site) (request : Request) :
    (site.answer request).header? requestIdField = none := by
  have whole : (site.fullAnswer request).header? requestIdField = none := by
    unfold Site.fullAnswer
    split
    · apply header?_ofText
    · rename_i route _
      split
      · cases route with
        | health => apply header?_ofText
        | info => apply header?_ofText
        | hello =>
          change (site.greet _).header? requestIdField = none
          unfold Site.greet
          split <;> apply header?_ofText
      · decide
  unfold Site.answer
  split
  · exact whole
  · exact whole

theorem anonymous_track {inner : Handler} (anonymous : inner.Anonymous) :
    (track inner).Anonymous := anonymous

theorem anonymous_limit {inner : Handler} (anonymous : inner.Anonymous) (overdue : Bool) :
    (limit overdue inner).Anonymous := by
  intro request
  unfold limit
  split
  · exact header?_empty .requestTimeout
  · exact anonymous request

theorem propagate_of_anonymous {inner : Handler} (anonymous : inner.Anonymous) {request : Request}
    {id : List UInt8} (identified : request.header? requestIdField = some id) :
    propagate inner request =
      ((inner request).1.withHeader ⟨requestIdField, id⟩, (inner request).2) := by
  unfold propagate
  dsimp only
  rw [anonymous request, identified]

/-- All layers at once, around a site. -/
theorem serve_eq (site : Site) (fresh : String) (overdue : Bool) (request : Request) :
    serve site fresh overdue request =
      if overdue then
        ((Response.empty .requestTimeout []).withHeader ⟨requestIdField, requestId fresh request⟩, [])
      else
        ((site.answer request).withHeader ⟨requestIdField, requestId fresh request⟩,
          [.counted (requestCounter request (site.answer request).status),
            servedEvent (request.identified fresh) (site.answer request).status]) := by
  have anonymous : Handler.Anonymous fun request => (site.answer request, []) :=
    header?_answer site
  rw [serve, identify, propagate_of_anonymous (anonymous_limit (anonymous_track anonymous) overdue)
    (header?_identified fresh request)]
  cases overdue <;> rfl

/-! ## Identifiers that are made up -/

/-- A number in lower-case hexadecimal digits of which there are as many as asked for. -/
def hexDigits : Nat → Nat → List Char
  | 0, _ => []
  | width + 1, value => hexDigits width (value / 16) ++ [Text.lowerHexDigit (value % 16)]

/-- A UUID of version 4: random bits around those that mark the version and the variant. -/
structure Uuid where
  first : BitVec 32
  second : BitVec 16
  third : BitVec 12
  fourth : BitVec 14
  fifth : BitVec 48

/-- The usual text of a UUID. -/
def Uuid.text (uuid : Uuid) : String :=
  String.ofList (hexDigits 8 uuid.first.toNat ++ '-' :: hexDigits 4 uuid.second.toNat ++
    '-' :: hexDigits 4 (0x4000 + uuid.third.toNat) ++
    '-' :: hexDigits 4 (0x8000 + uuid.fourth.toNat) ++ '-' :: hexDigits 12 uuid.fifth.toNat)

example : Uuid.text ⟨0xd9428888, 0x122b, 0x1e1, 0x0b85, 0x61cd3cbb3210⟩ =
    "d9428888-122b-41e1-8b85-61cd3cbb3210" := by decide

/-- Whether a byte is a visible ASCII character, a blank or a tab. -/
def IsVisible (byte : UInt8) : Prop := 0x20 ≤ byte ∧ byte < 0x7F ∨ byte = 0x09

theorem isPlainByte_iff {byte : UInt8} : isPlainByte byte = true ↔ IsVisible byte := by
  simp [isPlainByte, IsVisible]

theorem IsVisible.ascii {byte : UInt8} (visible : IsVisible byte) : byte < 0x80 := by
  rcases visible with ⟨_, below⟩ | rfl
  · exact UInt8.lt_trans below (by decide)
  · decide

theorem isPlainByte_of_mem_hexDigits {width value : Nat} {c : Char}
    (member : c ∈ hexDigits width value) :
    c.toNat < 128 ∧ isPlainByte (UInt8.ofNat c.toNat) = true := by
  induction width generalizing value with
  | zero => cases member
  | succ width inductionHypothesis =>
    rcases List.mem_append.mp member with front | last
    · exact inductionHypothesis front
    · have checked : ∀ digit < 16, (Text.lowerHexDigit digit).toNat < 128 ∧
          isPlainByte (UInt8.ofNat (Text.lowerHexDigit digit).toNat) = true := by decide
      rw [List.mem_singleton.mp last]
      exact checked _ (Nat.mod_lt value (by decide))

theorem isVisible_of_mem_text (uuid : Uuid) {byte : UInt8}
    (member : byte ∈ Text.Utf8.ofString uuid.text) : IsVisible byte := by
  have plain : ∀ c ∈ uuid.text.toList, c.toNat < 128 ∧ isPlainByte (UInt8.ofNat c.toNat) = true := by
    intro c member
    have hyphen : ('-' : Char).toNat < 128 ∧ isPlainByte (UInt8.ofNat ('-' : Char).toNat) = true := by
      decide
    simp only [Uuid.text, String.toList_ofList, List.mem_append, List.mem_cons] at member
    rcases member with (((digit | rfl | digit) | rfl | digit) | rfl | digit) | rfl | digit
    all_goals
      first
        | exact hyphen
        | exact isPlainByte_of_mem_hexDigits digit
  rw [Text.Utf8.ofString, Text.Utf8.encode_of_ascii fun c member => (plain c member).1] at member
  rcases List.mem_map.mp member with ⟨c, within, rfl⟩
  exact isPlainByte_iff.mp (plain c within).2

/-! ## Identifiers that are logged -/

/-- How an identifier is logged: as it is, if all of its bytes can be shown. -/
inductive LoggedAs (id : List UInt8) : String → Prop
  | itself {text : String} : (∀ byte ∈ id, IsVisible byte) → Text.Utf8.ofString text = id →
    LoggedAs id text
  | unknown {byte : UInt8} : byte ∈ id → ¬ IsVisible byte → LoggedAs id "unknown"

theorem loggedAs_loggedId {request : Request} {id : List UInt8}
    (identified : request.header? requestIdField = some id) : LoggedAs id (loggedId request) := by
  unfold loggedId plainText?
  rw [identified, Option.bind_some]
  split
  · rename_i plain
    have visible : ∀ byte ∈ id, IsVisible byte := by
      intro byte member
      exact isPlainByte_iff.mp (List.all_eq_true.mp plain byte member)
    apply LoggedAs.itself visible
    rw [Option.getD_some, Text.Utf8.ofString, Text.Utf8.textLossy, String.toList_ofList]
    exact Text.Utf8.encode_decodeLossy_of_ascii fun byte member => (visible byte member).ascii
  · rename_i hidden
    rcases List.all_eq_false.mp (Bool.eq_false_iff.mpr hidden) with ⟨byte, member, strange⟩
    exact .unknown member fun visible => strange (isPlainByte_iff.mpr visible)

/-! ## Every response -/

/-- Which identifier is that of a request: the first one it was sent with or, if there is
none, the one made up for it. -/
structure Identifies (request : Request) (uuid : Uuid) (id : List UInt8) : Prop where
  given : ∀ before header after, request.headers = before ++ header :: after →
    (∀ other ∈ before, other.isNamed requestIdField = false) →
    header.isNamed requestIdField = true → id = header.value
  made : (∀ header ∈ request.headers, header.isNamed requestIdField = false) →
    id = Text.Utf8.ofString uuid.text

theorem identifies_requestId (request : Request) (uuid : Uuid) :
    Identifies request uuid (requestId uuid.text request) where
  given := by
    intro before header after divided others named
    have first : request.headers.find? (·.isNamed requestIdField) = some header := by
      rw [divided, List.find?_append, List.find?_eq_none.mpr, Option.none_or,
        List.find?_cons_of_pos named]
      intro other member
      rw [others other member]
      exact Bool.false_ne_true
    rw [requestId, Request.header?, first, Option.map_some, Option.getD_some]
  made := by
    intro others
    have absent : request.headers.find? (·.isNamed requestIdField) = none := by
      apply List.find?_eq_none.mpr
      intro header member
      rw [others header member]
      exact Bool.false_ne_true
    rw [requestId, Request.header?, absent, Option.map_none, Option.getD_none]

theorem filter_headers_withHeader {response : Response}
    (anonymous : response.header? requestIdField = none) (id : List UInt8) :
    (response.withHeader ⟨requestIdField, id⟩).headers.filter (·.isNamed requestIdField) =
      [⟨requestIdField, id⟩] := by
  rw [Response.header?, Option.map_eq_none_iff, List.find?_eq_none] at anonymous
  rw [Response.withHeader, List.filter_append, List.filter_eq_nil_iff.mpr anonymous,
    List.filter_cons_of_pos (isNamed_requestIdField id)]
  rfl

/-- Whatever becomes of a request, its response carries one identifier, which is that of
the request.  A request that is answered in time is logged once, under the identifier if
it can be shown.  One that was made up always can. -/
theorem identifier_carried (server : Server) (request : Request) (uuid : Uuid) (overdue : Bool) :
    ∃ id, Identifies request uuid id ∧
      (server.respond ⟨request, uuid.text, overdue⟩).1.headers.filter
        (·.isNamed requestIdField) = [⟨requestIdField, id⟩] ∧
      (overdue = false → ∃ event logged,
        eventsOf (server.respond ⟨request, uuid.text, overdue⟩).2 = [event] ∧
          event.message = "Request served" ∧
          event.fields.lookup "request_id" = some (.shown logged) ∧ LoggedAs id logged) ∧
      ∀ byte ∈ Text.Utf8.ofString uuid.text, IsVisible byte := by
  refine ⟨requestId uuid.text request, identifies_requestId request uuid, ?_, ?_, ?_⟩
  · rw [Server.respond, serve_eq]
    split
    · exact filter_headers_withHeader (header?_empty .requestTimeout) _
    · exact filter_headers_withHeader (header?_answer server.site request) _
  · rintro rfl
    rw [Server.respond, serve_eq]
    exact ⟨_, _, rfl, rfl, rfl, loggedAs_loggedId (header?_identified uuid.text request)⟩
  · intro byte member
    exact isVisible_of_mem_text uuid member

end Http
end ServiceBeacon
