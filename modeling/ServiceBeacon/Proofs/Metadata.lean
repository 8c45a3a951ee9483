import Mathlib.Data.List.Induction
import ServiceBeacon.Metadata

namespace ServiceBeacon
namespace Metadata

/-!
# What a sequence of pairs builds

A map has one entry for each key of the pairs that built it, where the key came
first, with the value that came last.  Pairs whose keys are distinct are kept as
they are, in their order.
-/

/-! ## Pairs without repetition -/

theorem putEntry_of_notMem {key : String} (value : String) {entries : List (String × String)}
    (fresh : key ∉ entries.map Prod.fst) :
    putEntry key value entries = entries ++ [(key, value)] := by
  induction entries with
  | nil => rfl
  | cons entry rest inductionHypothesis =>
    rw [List.map_cons, List.mem_cons, not_or] at fresh
    rw [putEntry, if_neg fun same => fresh.1 same.symm, inductionHypothesis fresh.2]
    rfl

theorem entries_foldl_put {pairs : List (String × String)} {metadata : Metadata}
    (distinct : ((metadata.entries ++ pairs).map Prod.fst).Nodup) :
    (pairs.foldl (fun metadata pair => metadata.put pair.1 pair.2) metadata).entries =
      metadata.entries ++ pairs := by
  induction pairs generalizing metadata with
  | nil => rw [List.foldl_nil, List.append_nil]
  | cons pair rest inductionHypothesis =>
    have fresh : pair.1 ∉ metadata.entries.map Prod.fst := by
      rw [List.map_append, List.nodup_append] at distinct
      exact fun member => distinct.2.2 _ member _ List.mem_cons_self rfl
    have put : (metadata.put pair.1 pair.2).entries = metadata.entries ++ [pair] :=
      putEntry_of_notMem pair.2 fresh
    have split : metadata.entries ++ pair :: rest =
        (metadata.put pair.1 pair.2).entries ++ rest := by
      rw [put, List.append_assoc, List.singleton_append]
    rw [split] at distinct ⊢
    exact inductionHypothesis distinct

theorem entries_ofList {pairs : List (String × String)} (distinct : (pairs.map Prod.fst).Nodup) :
    (ofList pairs).entries = pairs :=
  @entries_foldl_put pairs empty distinct

theorem ofList_entries (metadata : Metadata) : ofList metadata.entries = metadata :=
  ext (entries_ofList metadata.distinct)

/-! ## Pairs with repetition -/

/-- Whether entries are what pairs become if each key keeps its first position and takes
its last value. -/
structure Collapses (pairs entries : List (String × String)) : Prop where
  keys : entries.map Prod.fst = (pairs.map Prod.fst).eraseDups
  values : ∀ entry ∈ entries, ∃ earlier later,
    pairs = earlier ++ entry :: later ∧ entry.1 ∉ later.map Prod.fst

theorem mem_putEntry {key value : String} {entries : List (String × String)}
    (distinct : (entries.map Prod.fst).Nodup) {entry : String × String}
    (member : entry ∈ putEntry key value entries) :
    entry = (key, value) ∨ entry ∈ entries ∧ entry.1 ≠ key := by
  induction entries with
  | nil => exact .inl (List.mem_singleton.mp member)
  | cons first rest inductionHypothesis =>
    rcases first with ⟨other, old⟩
    rw [List.map_cons, List.nodup_cons] at distinct
    by_cases same : other = key
    · rw [putEntry, if_pos same, List.mem_cons] at member
      rcases member with own | later
      · exact .inl own
      · refine .inr ⟨List.mem_cons_of_mem _ later, fun repeated => distinct.1 ?_⟩
        rw [same, ← repeated]
        exact List.mem_map.mpr ⟨entry, later, rfl⟩
    · rw [putEntry, if_neg same, List.mem_cons] at member
      rcases member with rfl | later
      · exact .inr ⟨List.mem_cons_self, same⟩
      · exact (inductionHypothesis distinct.2 later).imp_right fun found =>
          ⟨List.mem_cons_of_mem _ found.1, found.2⟩

theorem ofList_append_singleton (pairs : List (String × String)) (pair : String × String) :
    ofList (pairs ++ [pair]) = (ofList pairs).put pair.1 pair.2 := by
  rw [ofList, List.foldl_append]
  rfl

theorem eraseDups_append_singleton (keys : List String) (key : String) :
    (keys ++ [key]).eraseDups = if key ∈ keys then keys.eraseDups else keys.eraseDups ++ [key] := by
  rw [List.eraseDups_append]
  by_cases known : key ∈ keys
  · have removed : [key].removeAll keys = [] := by simp [List.removeAll, known]
    rw [if_pos known, removed, List.eraseDups_nil, List.append_nil]
  · have kept : [key].removeAll keys = [key] := by simp [List.removeAll, known]
    rw [if_neg known, kept]
    rfl

theorem collapses_ofList (pairs : List (String × String)) :
    Collapses pairs (ofList pairs).entries := by
  -- Each further pair is put behind the ones before it, so the induction is on the last pair.
  induction pairs using List.reverseRecOn with
  | nil => exact ⟨rfl, fun _ member => absurd member List.not_mem_nil⟩
  | append_singleton pairs pair inductionHypothesis =>
    have keys := inductionHypothesis.keys
    have put : (ofList (pairs ++ [pair])).entries =
        putEntry pair.1 pair.2 (ofList pairs).entries :=
      congrArg entries (ofList_append_singleton pairs pair)
    constructor
    · rw [put, map_fst_putEntry, keys, List.map_append, List.map_singleton,
        eraseDups_append_singleton]
      simp only [List.mem_eraseDups]
    · intro entry member
      rw [put] at member
      rcases mem_putEntry (ofList pairs).distinct member with rfl | ⟨old, other⟩
      · exact ⟨pairs, [], rfl, List.not_mem_nil⟩
      · rcases inductionHypothesis.values entry old with ⟨earlier, later, split, last⟩
        refine ⟨earlier, later ++ [pair], ?_, ?_⟩
        · rw [split, List.append_assoc, List.cons_append]
        · rw [List.map_append, List.mem_append, not_or]
          exact ⟨last, fun same => other (List.mem_singleton.mp same)⟩

end Metadata
end ServiceBeacon
