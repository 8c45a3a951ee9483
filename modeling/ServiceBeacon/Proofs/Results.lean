import Mathlib.Data.List.Forall2

namespace ServiceBeacon

/-!
# Computations that may fail

What a computation in steps returns is what its last step returns, if every step
before it returned something.
-/

variable {ε α β : Type}

theorem map_eq_ok_iff {read : Except ε α} {f : α → β} {result : β} :
    read.map f = .ok result ↔ ∃ value, read = .ok value ∧ f value = result := by
  cases read with
  | error problem => exact ⟨nofun, nofun⟩
  | ok value =>
    constructor
    · intro same
      exact ⟨value, rfl, Except.ok.inj same⟩
    · rintro ⟨_, same, rfl⟩
      cases same
      rfl

theorem bind_eq_ok_iff {read : Except ε α} {next : α → Except ε β} {result : β} :
    read >>= next = .ok result ↔ ∃ value, read = .ok value ∧ next value = .ok result := by
  cases read with
  | error problem => exact ⟨nofun, nofun⟩
  | ok value =>
    constructor
    · intro done
      exact ⟨value, rfl, done⟩
    · rintro ⟨_, same, done⟩
      cases same
      exact done

theorem mapM_eq_ok_iff {read : α → Except ε β} {items : List α} {results : List β} :
    items.mapM read = .ok results ↔
      List.Forall₂ (fun item result => read item = .ok result) items results := by
  induction items generalizing results with
  | nil =>
    rw [List.mapM_nil, List.forall₂_nil_left_iff]
    exact ⟨fun same => (Except.ok.inj same).symm, fun same => same ▸ rfl⟩
  | cons item rest inductionHypothesis =>
    rw [List.mapM_cons, bind_eq_ok_iff, List.forall₂_cons_left_iff]
    constructor
    · rintro ⟨value, first, done⟩
      rcases bind_eq_ok_iff.mp done with ⟨others, later, same⟩
      exact ⟨value, others, first, inductionHypothesis.mp later, (Except.ok.inj same).symm⟩
    · rintro ⟨value, others, first, later, rfl⟩
      exact ⟨value, first, bind_eq_ok_iff.mpr ⟨others, inductionHypothesis.mpr later, rfl⟩⟩

end ServiceBeacon
