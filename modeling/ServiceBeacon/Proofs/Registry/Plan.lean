import Mathlib.Data.List.Perm.Basic
import ServiceBeacon.Registry.Session

namespace ServiceBeacon
namespace Registry

/-!
# The calls that steps ask for

Which calls a session makes depends on its steps alone, and not on what the
agent replies: a guard registers when it is made, and deregisters when it is
given up, or some time after it was lost where something still runs.  The calls
are planned here, guard by guard.

Guards are numbered in the order in which they are made.  A guard that is made
while another one is held replaces it, and the other one is given up then, so at
most one is held after a step.  A guard that is lost leaves an errand behind, and
what it asks for in the end is what it has called together with what is left to do.
-/

/-- A call of a session, through the guard of a number or without one. -/
structure Call where
  guard : Option Nat
  operation : Operation
deriving DecidableEq

/-! ## Plans -/

/-- How many guards were made, which one is held, and which ones have left an errand
to the background. -/
structure Book where
  made : Nat
  held : Option Nat
  pending : List Nat
  known : ∀ number, held = some number → number < made
  earlier : ∀ number ∈ pending, number < made
  apart : ∀ number ∈ pending, held ≠ some number

namespace Book

def empty : Book where
  made := 0
  held := none
  pending := []
  known := by
    intro number held
    cases held
  earlier := List.forall_mem_nil _
  apart := List.forall_mem_nil _

def announced (book : Book) : Book where
  made := book.made + 1
  held := some book.made
  pending := book.pending
  known := by
    intro number held
    cases held
    exact Nat.lt_succ_self book.made
  earlier number member := Nat.lt_succ_of_lt (book.earlier number member)
  apart := by
    intro number member same
    exact Nat.ne_of_gt (book.earlier number member) (Option.some.inj same)

def withdrawn (book : Book) : Book where
  made := book.made
  held := none
  pending := book.pending
  known := by
    intro number held
    cases held
  earlier := book.earlier
  apart number _ := (Option.some_ne_none number).symm

/-- The guards once the one that is held has left an errand. -/
def lost (book : Book) : Book where
  made := book.made
  held := none
  pending := book.pending ++ book.held.toList
  known := by
    intro number held
    cases held
  earlier := by
    intro number member
    rcases List.mem_append.mp member with before | held
    · exact book.earlier number before
    · exact book.known number (Option.mem_toList.mp held)
  apart number _ := (Option.some_ne_none number).symm

/-- The guards once an errand is run. -/
def relieved (book : Book) (index : Nat) : Book where
  made := book.made
  held := book.held
  pending := book.pending.eraseIdx index
  known := book.known
  earlier number member := book.earlier number (List.mem_of_mem_eraseIdx member)
  apart number member := book.apart number (List.mem_of_mem_eraseIdx member)

/-- The guards after a step. -/
def after (book : Book) : Step → Book
  | .call _ | .isRegistered => book
  | .acquire => book.announced
  | .release | .lose false => book.withdrawn
  | .lose true => book.lost
  | .background index => book.relieved index

def afterAll (book : Book) (steps : List Step) : Book := steps.foldl after book

/-- The call that withdraws what a guard announced. -/
def withdrawals (guard : Option Nat) : List Call :=
  match guard with
  | some number => [⟨some number, .deregister⟩]
  | none => []

/-- The calls that a step asks for. -/
def calls (book : Book) : Step → List Call
  | .call operation => [⟨none, operation⟩]
  | .acquire => ⟨some book.made, .register⟩ :: withdrawals book.held
  | .isRegistered | .lose _ => []
  | .release => withdrawals book.held
  | .background index => withdrawals book.pending[index]?

/-- The calls that steps ask for, step by step. -/
def plan (book : Book) : List Step → List (List Call)
  | [] => []
  | step :: rest => book.calls step :: (book.after step).plan rest

end Book

/-! ## What becomes of a guard -/

/-- What becomes of a guard in the course of steps: it is given up, it is lost where
something runs or nothing, or it is held to the end. -/
inductive Fate where
  | released
  | lost (alive : Bool)
  | kept
deriving DecidableEq

namespace Fate

/-- The calls that a guard asks for when it is gone. -/
def withdrawals : Fate → List Operation
  | released | lost true => [.deregister]
  | lost false | kept => []

/-- The calls that a guard asks for. -/
def operations (fate : Fate) : List Operation := .register :: fate.withdrawals

end Fate

/-- What becomes of a guard that is held at first. -/
def fate : List Step → Fate
  | [] => .kept
  | .call _ :: rest | .isRegistered :: rest | .background _ :: rest => fate rest
  | .acquire :: _ | .release :: _ => .released
  | .lose alive :: _ => .lost alive

/-- What becomes of the guards that are made, in the order of their making. -/
def fates : List Step → List Fate
  | [] => []
  | .acquire :: rest => fate rest :: fates rest
  | .call _ :: rest | .isRegistered :: rest | .release :: rest | .lose _ :: rest
  | .background _ :: rest => fates rest

theorem fate_append_background (steps : List Step) (count : Nat) :
    fate (steps ++ List.replicate count (.background 0)) = fate steps := by
  induction steps with
  | nil =>
    induction count with
    | zero => rfl
    | succ count inductionHypothesis => exact inductionHypothesis
  | cons step rest inductionHypothesis =>
    cases step <;> first | exact inductionHypothesis | rfl

/-- What the background does has no part in what becomes of guards. -/
theorem fates_append_background (steps : List Step) (count : Nat) :
    fates (steps ++ List.replicate count (.background 0)) = fates steps := by
  induction steps with
  | nil =>
    induction count with
    | zero => rfl
    | succ count inductionHypothesis => exact inductionHypothesis
  | cons step rest inductionHypothesis =>
    cases step with
    | acquire => exact congrArg₂ List.cons (fate_append_background rest count) inductionHypothesis
    | _ => exact inductionHypothesis

/-- The calls that go through a guard, in order. -/
def operationsOf (number : Nat) (calls : List Call) : List Operation :=
  (calls.filter fun call => call.guard = some number).map Call.operation

/-- What is left to do for a guard. -/
def outstanding (number : Nat) (book : Book) : List Operation :=
  List.replicate (book.pending.count number) .deregister

section Operations

variable {number : Nat} {book : Book}

theorem operationsOf_append (first second : List Call) :
    operationsOf number (first ++ second) =
      operationsOf number first ++ operationsOf number second := by
  simp only [operationsOf, List.filter_append, List.map_append]

theorem operationsOf_eq_nil {calls : List Call}
    (other : ∀ call ∈ calls, call.guard ≠ some number) : operationsOf number calls = [] := by
  have none : (calls.filter fun call => decide (call.guard = some number)) = [] := by
    apply List.filter_eq_nil_iff.mpr
    intro call member
    exact fun same => other call member (of_decide_eq_true same)
  rw [operationsOf, none]
  rfl

theorem operationsOf_singleton (operation : Operation) :
    operationsOf number [⟨some number, operation⟩] = [operation] := by
  simp [operationsOf]

theorem operationsOf_singleton_of_ne (operation : Operation) {other : Nat}
    (different : other ≠ number) : operationsOf number [⟨some other, operation⟩] = [] := by
  apply operationsOf_eq_nil
  intro call member same
  rw [List.mem_singleton.mp member] at same
  exact different (Option.some.inj same)

theorem operationsOf_withdrawals (number : Nat) :
    operationsOf number (Book.withdrawals (some number)) = [.deregister] :=
  operationsOf_singleton .deregister

theorem operationsOf_withdrawals_of_ne {guard : Option Nat} (other : guard ≠ some number) :
    operationsOf number (Book.withdrawals guard) = [] := by
  cases guard with
  | none => rfl
  | some found =>
    exact operationsOf_singleton_of_ne .deregister fun same => other (congrArg some same)

theorem operationsOf_acquire (book : Book) :
    operationsOf number (book.calls .acquire) =
      operationsOf number [⟨some book.made, .register⟩] ++
        operationsOf number (Book.withdrawals book.held) :=
  operationsOf_append [_] (Book.withdrawals book.held)

/-- An errand is done once, and then there is one less. -/
theorem outstanding_relieved (book : Book) (index : Nat) :
    operationsOf number (book.calls (.background index)) ++
        outstanding number (book.relieved index) = outstanding number book := by
  unfold outstanding Book.relieved Book.calls
  dsimp only
  cases found : book.pending[index]? with
  | none =>
    have beyond : book.pending.length ≤ index := List.getElem?_eq_none_iff.mp found
    rw [List.eraseIdx_of_length_le beyond]
    rfl
  | some other =>
    rcases List.getElem?_eq_some_iff.mp found with ⟨within, rfl⟩
    have counted := (List.getElem_cons_eraseIdx_perm within).count_eq number
    by_cases same : book.pending[index] = number
    · rw [← counted, same, operationsOf_withdrawals, List.count_cons_self]
      rfl
    · rw [← counted, operationsOf_withdrawals_of_ne fun held => same (Option.some.inj held),
        List.count_cons_of_ne same]
      rfl

/-- A guard that is neither held nor made by a step has no other part in it than that
an errand of its own may be run. -/
theorem operationsOf_calls_of_ne (step : Step) (unheld : book.held ≠ some number)
    (older : step = .acquire → number ≠ book.made) :
    operationsOf number (book.calls step) ++ outstanding number (book.after step) =
      outstanding number book := by
  have withdrawn := operationsOf_withdrawals_of_ne unheld
  cases step with
  | call operation =>
    rw [operationsOf_eq_nil (by simp [Book.calls])]
    rfl
  | acquire =>
    rw [operationsOf_acquire, operationsOf_singleton_of_ne .register (older rfl).symm, withdrawn]
    rfl
  | isRegistered => rfl
  | release =>
    rw [show book.calls .release = Book.withdrawals book.held from rfl, withdrawn]
    rfl
  | lose alive =>
    cases alive with
    | true =>
      have absent : number ∉ book.held.toList :=
        fun member => unheld (Option.mem_toList.mp member)
      have counted : (book.pending ++ book.held.toList).count number =
          book.pending.count number := by
        rw [List.count_append, List.count_eq_zero.mpr absent, Nat.add_zero]
      exact congrArg (List.replicate · Operation.deregister) counted
    | false => rfl
  | background index => exact outstanding_relieved book index

theorem operationsOf_plan_cons (step : Step) (rest : List Step) :
    operationsOf number (book.plan (step :: rest)).flatten =
      operationsOf number (book.calls step) ++
        operationsOf number ((book.after step).plan rest).flatten := by
  rw [Book.plan, List.flatten_cons, operationsOf_append]

theorem operationsOf_plan_cons_append (step : Step) (rest : List Step)
    {whole later : List Operation}
    (here : operationsOf number (book.calls step) ++ later = whole)
    (behind : operationsOf number ((book.after step).plan rest).flatten ++
      outstanding number ((book.after step).afterAll rest) = later) :
    operationsOf number (book.plan (step :: rest)).flatten ++
      outstanding number (book.afterAll (step :: rest)) = whole := by
  rw [operationsOf_plan_cons, List.append_assoc, ← here, ← behind]
  rfl

/-- The guard that a step makes is the only one that is held then. -/
theorem held_after_of_ne (step : Step) (unheld : book.held ≠ some number)
    (older : step = .acquire → number ≠ book.made) : (book.after step).held ≠ some number := by
  cases step with
  | call operation => exact unheld
  | acquire => exact fun same => older rfl (Option.some.inj same).symm
  | isRegistered => exact unheld
  | release => exact (Option.some_ne_none number).symm
  | lose alive => cases alive <;> exact (Option.some_ne_none number).symm
  | background index => exact unheld

theorem made_le_after (step : Step) (book : Book) : book.made ≤ (book.after step).made := by
  cases step with
  | acquire => exact Nat.le_succ book.made
  | lose alive => cases alive <;> exact Nat.le_refl _
  | _ => exact Nat.le_refl _

/-- A guard that is gone makes no more calls than it has left errands. -/
theorem operationsOf_plan_of_gone (steps : List Step) (gone : book.held ≠ some number)
    (known : number < book.made) :
    operationsOf number (book.plan steps).flatten ++ outstanding number (book.afterAll steps) =
      outstanding number book := by
  induction steps generalizing book with
  | nil => rfl
  | cons step rest inductionHypothesis =>
    have older : step = .acquire → number ≠ book.made := fun _ => Nat.ne_of_lt known
    exact operationsOf_plan_cons_append step rest (operationsOf_calls_of_ne step gone older)
      (inductionHypothesis (held_after_of_ne step gone older)
        (Nat.lt_of_lt_of_le known (made_le_after step book)))

/-! ## Guards that are held, and guards that are yet to be made -/

theorem outstanding_eq_nil (absent : number ∉ book.pending) : outstanding number book = [] := by
  rw [outstanding, List.count_eq_zero.mpr absent]
  rfl

theorem outstanding_eq_nil_of_held (held : book.held = some number) :
    outstanding number book = [] :=
  outstanding_eq_nil fun member => book.apart number member held

theorem outstanding_eq_nil_of_unmade (unmade : book.made ≤ number) :
    outstanding number book = [] :=
  outstanding_eq_nil fun member => Nat.not_lt_of_le unmade (book.earlier number member)

theorem held_ne_of_unmade (unmade : book.made ≤ number) : book.held ≠ some number :=
  fun held => Nat.not_lt_of_le unmade (book.known number held)

/-- A step asks for nothing through a guard that is neither made before it nor by it. -/
theorem operationsOf_calls_of_unmade (step : Step) (unmade : book.made ≤ number)
    (older : step = .acquire → number ≠ book.made) :
    operationsOf number (book.calls step) = [] := by
  have whole := operationsOf_calls_of_ne step (held_ne_of_unmade unmade) older
  rw [outstanding_eq_nil_of_unmade unmade] at whole
  exact (List.append_eq_nil_iff.mp whole).1

/-- A step that leaves a guard in its place asks for nothing through it. -/
theorem operationsOf_calls_of_kept (step : Step) (held : book.held = some number)
    (kept : (book.after step).held = some number) : operationsOf number (book.calls step) = [] := by
  cases step with
  | call operation => exact operationsOf_eq_nil (by simp [Book.calls])
  | acquire => exact absurd (Option.some.inj kept) (Nat.ne_of_gt (book.known number held))
  | isRegistered => rfl
  | release => cases kept
  | lose alive => rfl
  | background index =>
    -- the errand that is run is not this guard's
    have whole : operationsOf number (book.calls (.background index)) ++
        outstanding number (book.relieved index) = outstanding number book :=
      outstanding_relieved book index
    rw [outstanding_eq_nil_of_held held] at whole
    exact (List.append_eq_nil_iff.mp whole).1

/-- The step that ends a guard asks for what the guard's fate asks for, at once or later. -/
theorem operationsOf_calls_of_ended (step : Step) (held : book.held = some number)
    (ended : (book.after step).held ≠ some number) :
    operationsOf number (book.calls step) ++ outstanding number (book.after step) =
      (fate [step]).withdrawals := by
  have clear := outstanding_eq_nil_of_held held
  have withdrawn : operationsOf number (Book.withdrawals book.held) = [.deregister] := by
    rw [held]
    exact operationsOf_withdrawals number
  cases step with
  | call operation => exact absurd held ended
  | acquire =>
    have older : book.made ≠ number := Nat.ne_of_gt (book.known number held)
    have still : outstanding number book.announced = [] := clear
    rw [operationsOf_acquire, operationsOf_singleton_of_ne .register older, withdrawn]
    exact congrArg ([Operation.deregister] ++ ·) still
  | isRegistered => exact absurd held ended
  | release =>
    rw [show book.calls .release = Book.withdrawals book.held from rfl, withdrawn,
      show outstanding number (book.after .release) = [] from clear]
    rfl
  | lose alive =>
    cases alive with
    | true =>
      -- the call is not made yet, but there is one errand now
      have absent : book.pending.count number = 0 :=
        List.count_eq_zero.mpr fun member => book.apart number member held
      rw [outstanding, show (book.after (.lose true)).pending = book.pending ++ book.held.toList
        from rfl, List.count_append, absent, held]
      simp [Book.calls, operationsOf, fate, Fate.withdrawals]
    | false => exact clear
  | background index => exact absurd held ended

theorem fate_cons_of_kept {step : Step} (held : book.held = some number)
    (kept : (book.after step).held = some number) (rest : List Step) :
    fate (step :: rest) = fate rest := by
  cases step with
  | acquire => exact absurd (Option.some.inj kept) (Nat.ne_of_gt (book.known number held))
  | release => cases kept
  | lose alive => cases alive <;> cases kept
  | _ => rfl

theorem fate_cons_of_ended {step : Step} (held : book.held = some number)
    (ended : (book.after step).held ≠ some number) (rest : List Step) :
    fate (step :: rest) = fate [step] := by
  cases step with
  | acquire => rfl
  | release => rfl
  | lose alive => rfl
  | _ => exact absurd held ended

/-- A guard that is held asks for the calls of its fate. -/
theorem operationsOf_plan_of_held (steps : List Step) (held : book.held = some number) :
    operationsOf number (book.plan steps).flatten ++ outstanding number (book.afterAll steps) =
      (fate steps).withdrawals := by
  induction steps generalizing book with
  | nil => exact outstanding_eq_nil_of_held held
  | cons step rest inductionHypothesis =>
    by_cases kept : (book.after step).held = some number
    · rw [fate_cons_of_kept held kept]
      have silent := operationsOf_calls_of_kept step held kept
      exact operationsOf_plan_cons_append step rest (congrArg (· ++ _) silent)
        (inductionHypothesis kept)
    · rw [fate_cons_of_ended held kept]
      have known := Nat.lt_of_lt_of_le (book.known number held) (made_le_after step book)
      exact operationsOf_plan_cons_append step rest (operationsOf_calls_of_ended step held kept)
        (operationsOf_plan_of_gone rest kept known)

theorem made_after_of_ne {step : Step} (other : step ≠ .acquire) (book : Book) :
    (book.after step).made = book.made := by
  cases step with
  | acquire => exact absurd rfl other
  | lose alive => cases alive <;> rfl
  | _ => rfl

theorem fates_cons_of_ne {step : Step} (other : step ≠ .acquire) (rest : List Step) :
    fates (step :: rest) = fates rest := by
  cases step with
  | acquire => exact absurd rfl other
  | _ => rfl

/-- The guards that are yet to be made ask for the calls of their fates. -/
theorem operationsOf_plan (steps : List Step) (book : Book) (index : Nat) :
    operationsOf (book.made + index) (book.plan steps).flatten ++
        outstanding (book.made + index) (book.afterAll steps) =
      (((fates steps)[index]?).map Fate.operations).getD [] := by
  induction steps generalizing book index with
  | nil => exact outstanding_eq_nil_of_unmade (Nat.le_add_right book.made index)
  | cons step rest inductionHypothesis =>
    have unmade : book.made ≤ book.made + index := Nat.le_add_right book.made index
    by_cases acquires : step = .acquire
    · subst acquires
      cases index with
      | zero =>
        have held : book.announced.held = some book.made := rfl
        refine operationsOf_plan_cons_append .acquire rest ?_ (operationsOf_plan_of_held rest held)
        rw [Nat.add_zero, operationsOf_acquire, operationsOf_singleton,
          operationsOf_withdrawals_of_ne (held_ne_of_unmade (Nat.le_refl book.made))]
        rfl
      | succ index =>
        have next : book.made + (index + 1) = book.announced.made + index := by
          simp only [Book.announced]
          omega
        refine operationsOf_plan_cons_append .acquire rest
          (congrArg (· ++ _) (operationsOf_calls_of_unmade .acquire unmade fun _ => by omega)) ?_
        rw [next]
        exact inductionHypothesis book.announced index
    · have silent := operationsOf_calls_of_unmade step unmade fun same => absurd same acquires
      refine operationsOf_plan_cons_append step rest (congrArg (· ++ _) silent) ?_
      rw [fates_cons_of_ne acquires, ← made_after_of_ne acquires book]
      exact inductionHypothesis (book.after step) index

example : fates [.acquire, .call .register, .lose true, .acquire, .background 0, .release] =
    [.lost true, .released] := by decide

end Operations

end Registry
end ServiceBeacon
