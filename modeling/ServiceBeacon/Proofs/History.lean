import ServiceBeacon.History

namespace ServiceBeacon

/-!
# Parts of histories

A history is put together from parts, and every view of it is put together
from the same views of the parts.  Most parts have little in them: logging,
counting, changes of files and the request to shut down are noticed by nobody
but the operator, and only a few happenings decide when the service is
announced, served and withdrawn.
-/

namespace Happening

/-- Whether clients, the registry or other listeners can notice a happening. -/
def isLoud : Happening → Bool
  | noticed _ | shutdownRequested | changed _ => false
  | bound | sent _ | called _ _ | accepting | answered _ | stopped => true

/-- Whether a happening belongs to a registry call. -/
def concernsRegistry : Happening → Bool
  | sent _ | called _ _ => true
  | noticed _ | shutdownRequested | changed _ | bound | accepting | answered _ | stopped => false

/-- Whether a happening belongs to a registry call, or starts or stops the server. -/
def isTurningPoint : Happening → Bool
  | sent _ | called _ _ | accepting | stopped => true
  | noticed _ | shutdownRequested | changed _ | bound | answered _ => false

/-- Whether a client gets a response. -/
def isAnswer : Happening → Bool
  | answered _ => true
  | noticed _ | shutdownRequested | changed _ | bound | sent _ | called _ _ | accepting |
    stopped => false

end Happening

namespace History

/-! ## Views -/

theorem calls_append (first second : History) :
    History.calls (first ++ second) = first.calls ++ second.calls := List.filterMap_append

theorem requests_append (first second : History) :
    History.requests (first ++ second) = first.requests ++ second.requests :=
  List.filterMap_append

theorem responses_append (first second : History) :
    History.responses (first ++ second) = first.responses ++ second.responses :=
  List.filterMap_append

theorem notices_append (first second : History) :
    History.notices (first ++ second) = first.notices ++ second.notices := List.filterMap_append

theorem notices_ofNotices (reported : List Notice) : (ofNotices reported).notices = reported := by
  have same : ∀ notice, (Happening.notice? ∘ Happening.noticed) notice = some notice :=
    fun _ => rfl
  rw [notices, ofNotices, List.filterMap_map, funext same]
  exact List.filterMap_some

theorem notices_map_eq_nil {α : Type} {happening : α → Happening}
    (unnoticed : ∀ item, (happening item).notice? = none) (items : List α) :
    History.notices (items.map happening) = [] := by
  rw [notices, List.filterMap_map]
  exact List.filterMap_eq_nil_iff.mpr fun item _ => unnoticed item

theorem changes_append (first second : History) :
    History.changes (first ++ second) = first.changes ++ second.changes := List.filterMap_append

theorem changes_ofChanges (changes : List FileChange) : (ofChanges changes).changes = changes := by
  have same : ∀ change, (Happening.change? ∘ Happening.changed) change = some change :=
    fun _ => rfl
  rw [History.changes, ofChanges, List.filterMap_map, funext same]
  exact List.filterMap_some

theorem changes_ofNotices (notices : List Notice) : (ofNotices notices).changes = [] := by
  refine List.filterMap_eq_nil_iff.mpr fun happening member => ?_
  rcases List.mem_map.mp member with ⟨notice, _, rfl⟩
  rfl

/-! ## What does not occur -/

/-- Whether nothing of a kind happens in a part. -/
def Lacks (kind : Happening → Bool) (part : History) : Prop :=
  ∀ happening ∈ part, kind happening = false

/-- Whether nobody outside notices anything of a part. -/
abbrev Silent : History → Prop := Lacks Happening.isLoud

/-- Whether a part has no turning point in it. -/
abbrev Uneventful : History → Prop := Lacks Happening.isTurningPoint

section Lacks

variable {kind : Happening → Bool} {part : History}

@[simp] theorem lacks_nil : Lacks kind [] := List.forall_mem_nil _

@[simp] theorem lacks_cons {happening : Happening} :
    Lacks kind (happening :: part) ↔ kind happening = false ∧ Lacks kind part :=
  List.forall_mem_cons

theorem lacks_singleton {happening : Happening} (other : kind happening = false) :
    Lacks kind [happening] :=
  lacks_cons.mpr ⟨other, lacks_nil⟩

@[simp] theorem lacks_append {first second : History} :
    Lacks kind (first ++ second) ↔ Lacks kind first ∧ Lacks kind second :=
  List.forall_mem_append

theorem Lacks.notMem (lacks : Lacks kind part) {happening : Happening}
    (present : kind happening = true) : happening ∉ part := by
  intro member
  exact Bool.false_ne_true ((lacks happening member).symm.trans present)

theorem Lacks.mono {other : Happening → Bool} (lacks : Lacks kind part)
    (within : ∀ happening, other happening = true → kind happening = true) : Lacks other part := by
  intro happening member
  refine Bool.eq_false_iff.mpr fun present => ?_
  exact lacks.notMem (within happening present) member

theorem lacks_map {α : Type} {happening : α → Happening} {items : List α}
    (other : ∀ item ∈ items, kind (happening item) = false) : Lacks kind (items.map happening) := by
  intro happened member
  rcases List.mem_map.mp member with ⟨item, listed, rfl⟩
  exact other item listed

theorem silent_noticed (notice : Notice) : Silent [.noticed notice] := lacks_singleton rfl

theorem silent_ofNotices (notices : List Notice) : Silent (ofNotices notices) :=
  lacks_map fun _ _ => rfl

theorem silent_ofChanges (changes : List FileChange) : Silent (ofChanges changes) :=
  lacks_map fun _ _ => rfl

theorem Silent.uneventful (silent : Silent part) : Uneventful part := by
  intro happening member
  have quiet := silent happening member
  cases happening <;> first | rfl | cases quiet

theorem Uneventful.withoutRegistry (uneventful : Uneventful part) :
    Lacks Happening.concernsRegistry part := by
  intro happening member
  have minor := uneventful happening member
  cases happening <;> first | rfl | cases minor

theorem Silent.unanswered (silent : Silent part) : Lacks Happening.isAnswer part := by
  intro happening member
  have quiet := silent happening member
  cases happening <;> first | rfl | cases quiet

theorem responses_eq_nil (unanswered : Lacks Happening.isAnswer part) : part.responses = [] := by
  refine List.filterMap_eq_nil_iff.mpr fun happening member => ?_
  have other := unanswered happening member
  cases happening <;> first | rfl | cases other

/-- Clients get their responses in the part in which they are answered. -/
theorem responses_surrounded {front back : History} (before : Lacks Happening.isAnswer front)
    (after : Lacks Happening.isAnswer back) (part : History) :
    History.responses (front ++ part ++ back) = part.responses := by
  rw [responses_append, responses_append, responses_eq_nil before, responses_eq_nil after,
    List.nil_append, List.append_nil]

/-- Where the registry has no part, it is neither called nor sent anything. -/
theorem calls_eq_nil (apart : Lacks Happening.concernsRegistry part) :
    part.calls = [] ∧ part.requests = [] := by
  constructor <;> refine List.filterMap_eq_nil_iff.mpr fun happening member => ?_ <;>
    have remote := apart happening member <;>
    cases happening <;> first | rfl | cases remote

end Lacks

end History
end ServiceBeacon
