import Mathlib.Data.List.Induction
import ServiceBeacon.Address.Printer

namespace ServiceBeacon
namespace Ipv6

/-!
# Runs of zero groups

The text of an IPv6 address leaves out a run of zeros that one pass over the groups
has found.  Whether it is the longest is the printer's concern.  A reader only needs
that the groups left out were zero and that there is more than one of them, since it
puts back as many zeros as are missing.
-/

/-- Whether a run is a stretch of zero groups. -/
def ZeroRun.IsIn (run : ZeroRun) (groups : List UInt16) : Prop :=
  ∃ before after, groups = before ++ List.replicate run.length 0 ++ after ∧
    before.length = run.start

theorem ZeroRun.isIn_none (groups : List UInt16) : IsIn ⟨0, 0⟩ groups :=
  ⟨[], groups, rfl, rfl⟩

theorem ZeroRun.IsIn.append {groups : List UInt16} {run : ZeroRun} (isIn : run.IsIn groups)
    (more : List UInt16) : run.IsIn (groups ++ more) := by
  rcases isIn with ⟨before, after, rfl, start⟩
  exact ⟨before, after ++ more, List.append_assoc _ after more, start⟩

/-- A run up to the last group goes on with one more zero group. -/
theorem ZeroRun.IsIn.extend {groups : List UInt16} {run : ZeroRun} (isIn : run.IsIn groups)
    (reaches : run.start + run.length = groups.length) :
    IsIn ⟨run.start, run.length + 1⟩ (groups ++ [0]) := by
  rcases isIn with ⟨before, after, rfl, start⟩
  have nothing : after = [] := by
    apply List.eq_nil_of_length_eq_zero
    simp only [List.length_append, List.length_replicate] at reaches
    omega
  refine ⟨before, [], ?_, start⟩
  simp [nothing, List.replicate_succ']

/-- What a search has found in the groups it has looked at.  A run that is being counted
reaches up to the last of them. -/
structure RunSearch.Found (groups : List UInt16) (search : RunSearch) : Prop where
  longest : search.longest.IsIn groups
  current : search.current.IsIn groups
  reaches : search.current.length ≠ 0 →
    search.current.start + search.current.length = groups.length

theorem RunSearch.Found.step {groups : List UInt16} {search : RunSearch}
    (found : search.Found groups) (group : UInt16) :
    (search.step (group, groups.length)).Found (groups ++ [group]) := by
  by_cases zero : group = 0
  · subst group
    -- The run that the group ends, which then competes with the longest one.
    obtain ⟨current, counted, isIn, reaches⟩ : ∃ current : ZeroRun,
        search.step (0, groups.length) =
          ⟨if search.longest.length < current.length then current else search.longest, current⟩ ∧
        current.IsIn (groups ++ [0]) ∧
        current.start + current.length = (groups ++ [0]).length := by
      simp only [RunSearch.step, if_true, List.length_append, List.length_singleton]
      by_cases started : search.current.length = 0
      · exact ⟨⟨groups.length, 1⟩, by rw [if_pos started], ⟨groups, [], by simp, rfl⟩, rfl⟩
      · refine ⟨_, by rw [if_neg started], found.current.extend (found.reaches started), ?_⟩
        rw [← found.reaches started, Nat.add_assoc]
    rw [counted]
    refine ⟨?_, isIn, fun _ => reaches⟩
    dsimp only
    split
    · exact isIn
    · exact found.longest.append [0]
  · rw [RunSearch.step, if_neg zero]
    exact ⟨found.longest.append [group], ZeroRun.isIn_none _, fun counted => absurd rfl counted⟩

/-- By induction on the groups that have been looked at. -/
theorem isIn_longestZeroRun (groups : List UInt16) : (longestZeroRun groups).IsIn groups := by
  apply RunSearch.Found.longest
  induction groups using List.reverseRecOn with
  | nil => exact ⟨ZeroRun.isIn_none [], ZeroRun.isIn_none [], fun counted => absurd rfl counted⟩
  | append_singleton groups group inductionHypothesis =>
    rw [List.zipIdx_append, List.foldl_append, Nat.zero_add]
    exact inductionHypothesis.step group

theorem ZeroRun.IsIn.divide {groups : List UInt16} {run : ZeroRun} (isIn : run.IsIn groups) :
    groups = groups.take run.start ++ List.replicate run.length 0 ++
      groups.drop (run.start + run.length) := by
  rcases isIn with ⟨before, after, divided, start⟩
  have front : groups.take run.start = before := by
    rw [divided, List.append_assoc]
    exact List.take_left' start
  have back : groups.drop (run.start + run.length) = after := by
    rw [divided]
    apply List.drop_left'
    rw [List.length_append, List.length_replicate, start]
  rw [front, back]
  exact divided

/-- An address is written in full, or zeros are left out of it in one place. -/
theorem compressed_cases (groups : List UInt16) :
    compressed groups = joinGroups groups ∨
      ∃ before count after, 1 < count ∧ groups = before ++ List.replicate count 0 ++ after ∧
        compressed groups = joinGroups before ++ ':' :: ':' :: joinGroups after := by
  simp only [compressed]
  split
  · rename_i several
    exact .inr ⟨_, _, _, several, (isIn_longestZeroRun groups).divide, rfl⟩
  · exact .inl rfl

end Ipv6
end ServiceBeacon
