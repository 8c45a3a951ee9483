import Mathlib.Data.List.Forall2
import Mathlib.Data.List.InsertIdx
import ServiceBeacon.Proofs.Registry.Plan
import ServiceBeacon.Proofs.Registry.Reports

namespace ServiceBeacon
namespace Registry

/-!
# The ledger of a session

To perform a plan is to call the agent for one call after the other; the ledger
has what comes of each.  A session brings about what its plan brings about: it
sends the same requests, and it reports every call that goes through a guard
once, and no other.  What a guard says about its own announcement is found in
the ledger as well.

Nothing is assumed about the agent or about the base URL of the client.
-/

/-- A call that was performed. -/
structure Entry where
  call : Call
  effect : Effect (Except CallError Unit)

namespace Entry

/-- The counter that is raised for a call. -/
def counter? (entry : Entry) : Option Counter :=
  entry.call.guard.map fun _ =>
    operationCounter entry.call.operation (outcomeName entry.effect.value)

/-- The event about the outcome of a call. -/
def outcome? (client : Client) (identity : Identity) (entry : Entry) : Option Event :=
  entry.call.guard.bind fun _ =>
    (outcomeEvent entry.call.operation client identity entry.effect.value).event?

/-- Whether a call is reported as it went: once in each way if it went through a guard,
and not at all otherwise. -/
structure Reported (client : Client) (identity : Identity) (entry : Entry) : Prop where
  direct : entry.call.guard = none →
    entry.counter? = none ∧ entry.outcome? client identity = none
  guarded : ∀ number, entry.call.guard = some number →
    ∃ outcome event,
      entry.counter? = some (operationCounter entry.call.operation outcome) ∧
        (outcome = "success" ↔ entry.effect.value = .ok ()) ∧
        (outcome = "timeout" ↔
          ∃ failure, entry.effect.value = .error (.transport failure) ∧
            failure.isTimeout = true) ∧
        (outcome = "failure" ↔
          ∃ error, entry.effect.value = .error error ∧ error.isTimeout = false) ∧
        entry.outcome? client identity = some event ∧
        event.severity = if succeeded entry.effect.value then .info else .warn

theorem reported (client : Client) (identity : Identity) (entry : Entry) :
    entry.Reported client identity := by
  rcases entry with ⟨⟨guard, operation⟩, effect⟩
  constructor
  · intro direct
    cases direct
    exact ⟨rfl, rfl⟩
  · intro number guarded
    cases guarded
    rcases outcomeName_spec effect.value with ⟨success, timeout, failure⟩
    rcases outcomeEvent_spec operation client identity effect.value with
      ⟨event, logged, _, severity⟩
    exact ⟨outcomeName effect.value, event, rfl, success, timeout, failure,
      congrArg Notice.event? logged, severity⟩

end Entry

section Performing

variable (client : Client) (identity : Identity)

/-- Performs calls, and returns the agent afterwards. -/
def perform (agent : Agent) : List Call → List Entry × Agent
  | [] => ([], agent)
  | call :: rest =>
    let effect := client.call call.operation identity agent
    let later := perform effect.agent rest
    (⟨call, effect⟩ :: later.1, later.2)

/-- Performs the calls of a plan. -/
def performAll (agent : Agent) : List (List Call) → List (List Entry)
  | [] => []
  | calls :: rest =>
    let performed := perform client identity agent calls
    performed.1 :: performAll performed.2 rest

theorem map_call_perform (agent : Agent) (calls : List Call) :
    (perform client identity agent calls).1.map Entry.call = calls := by
  induction calls generalizing agent with
  | nil => rfl
  | cons call rest inductionHypothesis =>
    exact congrArg (call :: ·) (inductionHypothesis _)

theorem map_call_performAll (agent : Agent) (plan : List (List Call)) :
    (performAll client identity agent plan).flatten.map Entry.call = plan.flatten := by
  induction plan generalizing agent with
  | nil => rfl
  | cons calls rest inductionHypothesis =>
    have first := map_call_perform client identity agent calls
    have later := inductionHypothesis (perform client identity agent calls).2
    simp only [performAll, List.flatten_cons, List.map_append, first, later]

/-! ## What entries account for -/

/-- Whether entries account for what an action sends and reports. -/
structure Accounts {α : Type} (effect : Effect α) (entries : List Entry) : Prop where
  sent : effect.sent = entries.flatMap fun entry => entry.effect.sent
  counters : countersOf effect.notices = entries.filterMap Entry.counter?
  outcomes : outcomesOf effect.notices = entries.filterMap (Entry.outcome? client identity)

/-- Whether an action brings about what performed calls bring about. -/
structure Brings {α : Type} (effect : Effect α) (performed : List Entry × Agent) : Prop where
  accounts : Accounts client identity effect performed.1
  agent : effect.agent = performed.2

namespace Brings

variable {client identity} {α β γ : Type} {agent : Agent}

theorem nothing (value : α) (agent : Agent) :
    Brings client identity (⟨value, [], [], agent⟩ : Effect α) ([], agent) :=
  ⟨⟨rfl, rfl, rfl⟩, rfl⟩

/-- A call without a guard is not reported. -/
theorem direct (operation : Operation) (agent : Agent) :
    Brings client identity (client.call operation identity agent)
      (perform client identity agent [⟨none, operation⟩]) := by
  have traces := traces_call client operation identity agent
  refine ⟨⟨?_, ?_, ?_⟩, rfl⟩
  · exact (List.append_nil _).symm
  · exact traces.counters_eq_nil
  · exact traces.outcomes_eq_nil

/-- A call through a guard is reported once. -/
theorem reported (number : Nat) (operation : Operation) (agent : Agent) :
    Brings client identity (reportedCall client operation identity agent)
      (perform client identity agent [⟨some number, operation⟩]) := by
  refine ⟨⟨?_, ?_, ?_⟩, rfl⟩
  · exact (List.append_nil _).symm
  · exact counters_reportedCall client operation identity agent
  · rcases outcomeEvent_spec operation client identity
      (client.call operation identity agent).value with ⟨event, logged, _, _⟩
    have told : Entry.outcome? client identity
        ⟨⟨some number, operation⟩, client.call operation identity agent⟩ = some event :=
      congrArg Notice.event? logged
    rw [outcomes_reportedCall, logged, perform, List.filterMap_cons_some told]
    rfl

/-- The value of an action does not matter. -/
theorem valued {effect : Effect α} {performed : List Entry × Agent}
    (brings : Brings client identity effect performed) (value : β) :
    Brings client identity (⟨value, effect.sent, effect.notices, effect.agent⟩ : Effect β)
      performed :=
  ⟨⟨brings.accounts.sent, brings.accounts.counters, brings.accounts.outcomes⟩, brings.agent⟩

/-- Two actions bring about what the calls of both bring about. -/
theorem both {first : Effect α} {second : Effect β} {call : Call} {calls : List Call}
    (one : Brings client identity first (perform client identity agent [call]))
    (two : Brings client identity second (perform client identity first.agent calls))
    (value : γ) :
    Brings client identity
      (⟨value, first.sent ++ second.sent, first.notices ++ second.notices, second.agent⟩ : Effect γ)
      (perform client identity agent (call :: calls)) := by
  have between : first.agent = (client.call call.operation identity agent).agent := one.agent
  rw [between] at two
  have entries : (perform client identity agent (call :: calls)).1 =
      (perform client identity agent [call]).1 ++
        (perform client identity (client.call call.operation identity agent).agent calls).1 := rfl
  refine ⟨⟨?_, ?_, ?_⟩, two.agent⟩
  · rw [entries, List.flatMap_append, ← one.accounts.sent, ← two.accounts.sent]
  · rw [entries, List.filterMap_append, ← one.accounts.counters, ← two.accounts.counters,
      countersOf_append]
  · rw [entries, List.filterMap_append, ← one.accounts.outcomes, ← two.accounts.outcomes,
      outcomesOf_append]

end Brings

/-! ## Steps -/

/-- Whether a guard is the one that entries say is held.  It has not been given up. -/
inductive Holds (entries : List Entry) : Option Guard → Option Nat → Prop
  | nothing : Holds entries none none
  | guard {number : Nat} {entry : Entry} (member : entry ∈ entries)
      (announces : entry.call = ⟨some number, .register⟩) :
      Holds entries (some ⟨client, identity, succeeded entry.effect.value, false⟩) (some number)

/-- The errands of the background, one for each guard that has left one. -/
def errandsOf (pending : List Nat) : List Errand := pending.map fun _ => ⟨client, identity⟩

variable {client identity}

theorem errandsOf_append (first second : List Nat) :
    errandsOf client identity (first ++ second) =
      errandsOf client identity first ++ errandsOf client identity second := List.map_append

theorem errandsOf_eraseIdx (pending : List Nat) (index : Nat) :
    errandsOf client identity (pending.eraseIdx index) =
      (errandsOf client identity pending).eraseIdx index := (List.eraseIdx_map _ pending index).symm

theorem Holds.append {past : List Entry} {guard : Option Guard} {held : Option Nat}
    (holds : Holds client identity past guard held) (more : List Entry) :
    Holds client identity (past ++ more) guard held := by
  cases holds with
  | nothing => exact .nothing
  | guard member announces => exact .guard (List.mem_append_left more member) announces

/-- Whether a session holds the guard that the book says is held, and has left to the
background what the book says is left. -/
structure Agrees (past : List Entry) (book : Book) (session : Session) : Prop where
  holds : Holds session.client session.identity past session.guard book.held
  errands : session.surroundings.errands =
    errandsOf session.client session.identity book.pending

/-- Whether a session brings about in a step what the calls bring about that the step asks
for, and the book still agrees with it. -/
structure Follows (past : List Entry) (book : Book) (session : Session) (step : Step) :
    Prop where
  brings : Brings session.client session.identity (session.step step).effect
    (perform session.client session.identity session.surroundings.agent (book.calls step))
  agrees : Agrees
    (past ++ (perform session.client session.identity session.surroundings.agent
      (book.calls step)).1)
    (book.after step) (session.after (session.step step))

section Steps

variable {book : Book} {session : Session} {past : List Entry}

/-- The new guard registers first; the old one is given up to the agent that this leaves. -/
theorem follows_acquire (agrees : Agrees past book session) :
    Follows past book session .acquire := by
  rcases agrees with ⟨holds, left⟩
  rcases session with ⟨client, identity, guard, ⟨agent, errands⟩⟩
  rcases book with ⟨made, held, pending, known, earlier, apart⟩
  dsimp only at holds left
  have announced : Brings client identity (reportedCall client .register identity agent)
      (perform client identity agent [⟨some made, .register⟩]) :=
    .reported made .register agent
  have listed : ∀ later : List Entry,
      Holds client identity
        (past ++ ⟨⟨some made, .register⟩, client.call .register identity agent⟩ :: later)
        (some (Guard.acquire client identity agent).value) (some made) := by
    intro later
    exact .guard (List.mem_append_right past List.mem_cons_self) rfl
  cases holds with
  | nothing => exact ⟨announced.valued _, listed _, left⟩
  | guard member announces =>
    constructor
    · simp only [Session.step, Guard.release_eq]
      exact announced.both (.reported _ .deregister _) _
    · simp only [Session.step, Guard.release_eq, List.append_nil]
      exact ⟨listed _, left⟩

theorem follows_release (agrees : Agrees past book session) :
    Follows past book session .release := by
  rcases agrees with ⟨holds, left⟩
  rcases session with ⟨client, identity, guard, ⟨agent, errands⟩⟩
  rcases book with ⟨made, held, pending, known, earlier, apart⟩
  dsimp only at holds left
  cases holds with
  | nothing => exact ⟨.nothing _ agent, .nothing, left⟩
  | guard member announces =>
    constructor
    · simp only [Session.step, Guard.release_eq]
      exact (Brings.reported _ .deregister agent).valued _
    · simp only [Session.step, Guard.release_eq, List.append_nil]
      exact ⟨.nothing, left⟩

/-- Nothing is called yet; a runtime that is alive has one errand more. -/
theorem follows_lose (alive : Bool) (agrees : Agrees past book session) :
    Follows past book session (.lose alive) := by
  rcases agrees with ⟨holds, left⟩
  rcases session with ⟨client, identity, guard, ⟨agent, errands⟩⟩
  rcases book with ⟨made, held, pending, known, earlier, apart⟩
  dsimp only at holds left
  cases holds with
  | nothing =>
    cases alive with
    | true => exact ⟨.nothing _ agent, .nothing, left.trans (congrArg _ (List.append_nil _).symm)⟩
    | false => exact ⟨.nothing _ agent, .nothing, left⟩
  | @guard number _ member announces =>
    cases alive with
    | true =>
      have more : errands ++ [⟨client, identity⟩] =
          errandsOf client identity (pending ++ [number]) := by
        rw [left, errandsOf_append]
        rfl
      exact ⟨⟨⟨rfl, rfl, rfl⟩, rfl⟩, .nothing, more⟩
    | false =>
      exact ⟨⟨⟨rfl, rfl, rfl⟩, rfl⟩, .nothing, (List.append_nil errands).trans left⟩

/-- The errand that is run is the one that the book has in its place. -/
theorem follows_background (index : Nat) (agrees : Agrees past book session) :
    Follows past book session (.background index) := by
  rcases agrees with ⟨holds, left⟩
  rcases session with ⟨client, identity, guard, ⟨agent, errands⟩⟩
  rcases book with ⟨made, held, pending, known, earlier, apart⟩
  dsimp only at holds left
  have found : errands[index]? = (pending[index]?).map fun _ => ⟨client, identity⟩ := by
    rw [left, errandsOf, List.getElem?_map]
  have asked : (⟨made, held, pending, known, earlier, apart⟩ : Book).calls (.background index) =
      Book.withdrawals pending[index]? := rfl
  cases listed : pending[index]? with
  | none =>
    have beyond : pending.length ≤ index := List.getElem?_eq_none_iff.mp listed
    have kept : errands = errandsOf client identity (pending.eraseIdx index) := by
      rw [left, List.eraseIdx_of_length_le beyond]
    rw [listed] at found asked
    constructor
    · simp only [Session.step, found, Option.map_none, asked]
      exact .nothing _ agent
    · simp only [Session.step, found, Option.map_none, asked]
      exact ⟨holds.append [], kept⟩
  | some number =>
    have reported : Brings client identity (Errand.run ⟨client, identity⟩ agent)
        (perform client identity agent [⟨some number, .deregister⟩]) :=
      .reported number .deregister agent
    have fewer : errands.eraseIdx index =
        errandsOf client identity (pending.eraseIdx index) := by
      rw [left, errandsOf_eraseIdx]
    rw [listed] at found asked
    constructor
    · simp only [Session.step, found, Option.map_some, asked]
      exact reported.valued _
    · simp only [Session.step, found, Option.map_some, asked]
      exact ⟨holds.append _, fewer⟩

/-- The book goes on to agree with a session, whatever its steps. -/
theorem follows (step : Step) (agrees : Agrees past book session) :
    Follows past book session step := by
  cases step with
  | call operation =>
    exact ⟨(Brings.direct operation _).valued _, agrees.holds.append _, agrees.errands⟩
  | acquire => exact follows_acquire agrees
  | isRegistered =>
    rcases agrees with ⟨holds, left⟩
    rcases session with ⟨client, identity, guard, surroundings⟩
    cases guard with
    | none => exact ⟨.nothing _ _, holds.append [], left⟩
    | some guard => exact ⟨.nothing _ _, holds.append [], left⟩
  | release => exact follows_release agrees
  | lose alive => exact follows_lose alive agrees
  | background index => exact follows_background index agrees

end Steps

/-! ## Runs -/

/-- A session that has made no guard yet, and nothing is left to do. -/
def Session.opening (client : Client) (identity : Identity) (agent : Agent) : Session :=
  ⟨client, identity, none, ⟨agent, []⟩⟩

/-- The ledger of a session that takes steps. -/
def Session.ledger (session : Session) (book : Book) (steps : List Step) : List (List Entry) :=
  performAll session.client session.identity session.surroundings.agent (book.plan steps)

section Runs

variable {book : Book} {session : Session} {past : List Entry}

theorem Session.ledger_cons (agrees : Agrees past book session) (step : Step)
    (rest : List Step) :
    session.ledger book (step :: rest) =
      (perform session.client session.identity session.surroundings.agent (book.calls step)).1 ::
        (session.after (session.step step)).ledger (book.after step) rest := by
  have same := (follows step agrees).brings.agent
  unfold Session.ledger Session.after
  dsimp only
  rw [same]
  rfl

/-- The ledger accounts for what every step sends and reports. -/
theorem trace_accounts (agrees : Agrees past book session) (steps : List Step) :
    List.Forall₂ (Accounts session.client session.identity) (session.trace steps)
      (session.ledger book steps) := by
  induction steps generalizing book session past with
  | nil => exact .nil
  | cons step rest inductionHypothesis =>
    rcases follows step agrees with ⟨brings, next⟩
    rw [session.ledger_cons agrees step rest]
    exact .cons brings.accounts (inductionHypothesis next)

/-- The background has what the book says is left to do. -/
theorem errands_afterAll (agrees : Agrees past book session) (steps : List Step) :
    (session.afterAll steps).surroundings.errands =
      errandsOf session.client session.identity (book.afterAll steps).pending := by
  induction steps generalizing book session past with
  | nil => exact agrees.errands
  | cons step rest inductionHypothesis => exact inductionHypothesis (follows step agrees).agrees

/-- A guard says of its announcement what came of the call that made it. -/
theorem trace_answers (agrees : Agrees past book session) (before after : List Step)
    {number : Nat} (held : (book.afterAll before).held = some number) :
    ∃ entry ∈ past ++ (session.ledger book (before ++ .isRegistered :: after)).flatten,
      entry.call = ⟨some number, .register⟩ ∧
        ((session.trace (before ++ .isRegistered :: after))[before.length]?).map Effect.value =
          some (.flag (succeeded entry.effect.value)) := by
  induction before generalizing book session past with
  | nil =>
    rcases session with ⟨client, identity, guard, surroundings⟩
    have same : book.held = some number := held
    have holds := agrees.holds
    dsimp only at holds
    rw [same] at holds
    cases holds with
    | guard member announces =>
      exact ⟨_, List.mem_append_left _ member, announces, rfl⟩
  | cons step rest inductionHypothesis =>
    rcases inductionHypothesis (follows step agrees).agrees held with
      ⟨entry, member, announces, answered⟩
    refine ⟨entry, ?_, announces, answered⟩
    rw [List.append_assoc] at member
    rw [List.cons_append, session.ledger_cons agrees step _, List.flatten_cons]
    exact member

end Runs

/-! ## Counts -/

/-- Whether a counter counts calls of a kind. -/
def counts (operation : Operation) (counter : Counter) : Bool :=
  counter.name == "fixture_registry_operations_total" &&
    counter.labels.lookup "operation" == some operation.name

theorem counts_operationCounter (operation other : Operation) (outcome : String) :
    counts operation (operationCounter other outcome) = (other == operation) := by
  cases operation <;> cases other <;> simp [counts, operationCounter, Operation.name]

/-- The counters of entries sum to the number of calls that went through a guard. -/
theorem countP_counters (operation : Operation) (entries : List Entry) :
    (entries.filterMap Entry.counter?).countP (counts operation) =
      entries.countP fun entry =>
        entry.call.guard.isSome && entry.call.operation == operation := by
  induction entries with
  | nil => rfl
  | cons entry rest inductionHypothesis =>
    rcases entry with ⟨⟨guard, other⟩, effect⟩
    cases guard with
    | none => exact inductionHypothesis
    | some number =>
      have counter : (Entry.mk ⟨some number, other⟩ effect).counter? =
          some (operationCounter other (outcomeName effect.value)) := rfl
      rw [List.filterMap_cons_some counter, List.countP_cons, List.countP_cons,
        inductionHypothesis, counts_operationCounter]
      rfl

/-- Accounts of single steps add up. -/
theorem flatMap_counters {α : Type} {effects : List (Effect α)} {ledger : List (List Entry)}
    (accounts : List.Forall₂ (Accounts client identity) effects ledger) :
    (effects.flatMap fun effect => countersOf effect.notices) =
      ledger.flatten.filterMap Entry.counter? := by
  induction accounts with
  | nil => rfl
  | cons account _ inductionHypothesis =>
    rw [List.flatMap_cons, List.flatten_cons, List.filterMap_append, inductionHypothesis,
      account.counters]

end Performing

/-! ## Waiting for the background -/

/-- The background gets done, and no guard's fate changes by that: as many steps of its
own as there are errands leave none. -/
theorem settled_by_background (steps : List Step) (book : Book) :
    let waits := List.replicate (book.afterAll steps).pending.length (Step.background 0)
    fates (steps ++ waits) = fates steps ∧ (book.afterAll (steps ++ waits)).pending = [] := by
  intro waits
  have relieved : ∀ count (book : Book), book.pending.length ≤ count →
      (book.afterAll (List.replicate count (.background 0))).pending = [] := by
    intro count
    induction count with
    | zero => exact fun book short => List.eq_nil_of_length_eq_zero (Nat.le_zero.mp short)
    | succ count inductionHypothesis =>
      intro book short
      have fewer : (book.relieved 0).pending.length ≤ count := by
        have erased : (book.relieved 0).pending = book.pending.tail := List.eraseIdx_zero
        rw [erased, List.length_tail]
        exact Nat.sub_le_of_le_add short
      exact inductionHypothesis (book.relieved 0) fewer
  constructor
  · exact fates_append_background steps _
  · rw [Book.afterAll, List.foldl_append]
    exact relieved _ _ (Nat.le_refl _)

/-- What a session brings about that waits behind every step is what the same steps bring
about with the background's turns in between. -/
theorem Session.run_eq_trace (session : Session) (steps : List Step) :
    let turns := steps.flatMap fun step => [step, .background 0]
    (session.run steps).flatMap Effect.sent = (session.trace turns).flatMap Effect.sent ∧
      (session.run steps).flatMap Effect.notices =
        (session.trace turns).flatMap Effect.notices := by
  induction steps generalizing session with
  | nil => exact ⟨rfl, rfl⟩
  | cons step rest inductionHypothesis =>
    rcases inductionHypothesis ((session.after (session.step step)).after
      ((session.after (session.step step)).step (.background 0))) with ⟨sent, notices⟩
    constructor
    · rw [run, List.flatMap_cons, sent, List.append_assoc]
      rfl
    · rw [run, List.flatMap_cons, notices, List.append_assoc]
      rfl

end Registry
end ServiceBeacon
