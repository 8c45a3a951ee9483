import ServiceBeacon.Registry.Guard

namespace ServiceBeacon
namespace Registry

/-!
# What registry calls log and count

A call by itself is only traced: everything that it logs is of the least
importance but one, and it counts nothing.  A call that is made through a guard
is reported on top of that, with one event about its outcome and one counter.
The outcome is a success, the passing of the time limit, or any other failure.
-/

/-! ## Outcomes -/

/-- Whether an event tells the outcome of a call.  All that is told at the usual level
or as a warning does, except that a guard is lost. -/
def isOutcome (event : Event) : Bool :=
  (event.severity == .info || event.severity == .warn) &&
    event.message != "Registration dropped without release, deregistering in background"

/-- The outcomes among notices, in order. -/
def outcomesOf (notices : List Notice) : List Event := (eventsOf notices).filter isOutcome

@[simp] theorem outcomesOf_append (first second : List Notice) :
    outcomesOf (first ++ second) = outcomesOf first ++ outcomesOf second := by
  simp [outcomesOf]

/-- A success is told at the usual level, and everything else is a warning. -/
theorem outcomeEvent_spec (operation : Operation) (client : Client) (identity : Identity)
    (result : Except CallError Unit) :
    ∃ event, outcomeEvent operation client identity result = .logged event ∧
      isOutcome event = true ∧
      event.severity = if succeeded result then .info else .warn := by
  cases result with
  | ok _ => exact ⟨_, rfl, rfl, rfl⟩
  | error _ => exact ⟨_, rfl, rfl, rfl⟩

/-- The name under which a call is counted is one of three, as it went. -/
theorem outcomeName_spec (result : Except CallError Unit) :
    (outcomeName result = "success" ↔ result = .ok ()) ∧
      (outcomeName result = "timeout" ↔
        ∃ failure, result = .error (.transport failure) ∧ failure.isTimeout = true) ∧
      (outcomeName result = "failure" ↔
        ∃ error, result = .error error ∧ error.isTimeout = false) := by
  cases result with
  | ok _ => simp [outcomeName]
  | error error =>
    cases error with
    | transport failure =>
      cases timeout : failure.isTimeout <;> simp [outcomeName, CallError.isTimeout, timeout]
    | rejected status body => simp [outcomeName, CallError.isTimeout]
    | invalidUrl fault => simp [outcomeName, CallError.isTimeout]

/-! ## Calls without a guard -/

/-- Whether notices are traces of a client. -/
def Traces (notices : List Notice) : Prop :=
  ∀ notice ∈ notices, ∃ message fields,
    notice = .logged ⟨.debug, .client, message, fields⟩

theorem Traces.counters_eq_nil {notices : List Notice} (traces : Traces notices) :
    countersOf notices = [] := by
  apply List.filterMap_eq_nil_iff.mpr
  intro notice member
  rcases traces notice member with ⟨message, fields, rfl⟩
  rfl

theorem Traces.outcomes_eq_nil {notices : List Notice} (traces : Traces notices) :
    outcomesOf notices = [] := by
  apply List.filter_eq_nil_iff.mpr
  intro event member
  rcases List.mem_filterMap.mp member with ⟨notice, present, same⟩
  rcases traces notice present with ⟨message, fields, rfl⟩
  cases same
  exact Bool.false_ne_true

theorem traces_announcement (url : Url) (identity : Identity) (operation : Operation) :
    Traces [Client.announcement url identity operation] := by
  intro notice member
  rw [List.mem_singleton.mp member]
  cases operation <;> exact ⟨_, _, rfl⟩

theorem traces_judge (operation : Operation) (answer : Answer) :
    Traces (Client.judge operation answer).2 := by
  intro notice member
  unfold Client.judge at member
  split at member
  · cases member
  · split at member
    · cases member
    · rw [List.mem_singleton.mp member]
      exact ⟨_, _, rfl⟩

theorem traces_call (client : Client) (operation : Operation) (identity : Identity)
    (agent : Agent) : Traces (client.call operation identity agent).notices := by
  unfold Client.call
  split
  · intro notice member
    cases member
  · rename_i url _
    have announced := traces_announcement url identity operation
    dsimp only
    split
    · exact announced
    · rename_i answer _
      intro notice member
      rcases List.mem_cons.mp member with same | later
      · exact announced notice (List.mem_singleton.mpr same)
      · exact traces_judge operation answer notice later

/-! ## Calls through a guard -/

namespace Guard

/-- A guard that was given up leaves nothing to do. -/
theorem drop_of_released {guard : Guard} (released : guard.released = true) (alive : Bool) :
    guard.drop alive = ([], []) := by
  unfold drop
  rw [if_pos released]

/-- Giving a guard up is one call, because the guard is marked before it goes out of
scope. -/
theorem release_eq (guard : Guard) (agent : Agent) :
    guard.release agent = (reportedCall guard.client .deregister guard.identity agent, []) := by
  have marked : Guard.drop { guard with released := true } true = ([], []) :=
    drop_of_released rfl true
  unfold release
  dsimp only
  rw [marked, List.append_nil]

end Guard

section Reported

variable (client : Client) (operation : Operation) (identity : Identity) (agent : Agent)

theorem counters_reportedCall :
    countersOf (reportedCall client operation identity agent).notices =
      [operationCounter operation
        (outcomeName (client.call operation identity agent).value)] := by
  have traced := (traces_call client operation identity agent).counters_eq_nil
  rcases outcomeEvent_spec operation client identity
    (client.call operation identity agent).value with ⟨event, logged, _, _⟩
  unfold reportedCall
  dsimp only
  rw [countersOf_append, traced, logged]
  rfl

theorem outcomes_reportedCall :
    outcomesOf (reportedCall client operation identity agent).notices =
      (outcomeEvent operation client identity
        (client.call operation identity agent).value).event?.toList := by
  have traced := (traces_call client operation identity agent).outcomes_eq_nil
  rcases outcomeEvent_spec operation client identity
    (client.call operation identity agent).value with ⟨event, logged, told, _⟩
  unfold reportedCall
  dsimp only
  rw [outcomesOf_append, traced, logged]
  exact List.filter_cons_of_pos told

end Reported

end Registry
end ServiceBeacon
