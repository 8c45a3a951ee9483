namespace ServiceBeacon

/-!
# Routing metadata

A service announces key-value pairs whose order is part of the announcement:
a proxy reads `route_1_…` before `route_2_…`.  The map therefore keeps the
order of first insertion, and writing a key again changes its value in place.
No key occurs twice; the type says so.
-/

/-- Pairs in the order of their first insertion, each key once. -/
structure Metadata where
  entries : List (String × String)
  distinct : (entries.map Prod.fst).Nodup

namespace Metadata

@[ext] theorem ext {first second : Metadata} (same : first.entries = second.entries) :
    first = second := by
  cases first
  cases second
  cases same
  rfl

instance : DecidableEq Metadata := fun first second =>
  if same : first.entries = second.entries then isTrue (ext same)
  else isFalse (fun equal => same (congrArg entries equal))

instance : Repr Metadata := ⟨fun metadata _ => repr metadata.entries⟩

def empty : Metadata := ⟨[], List.nodup_nil⟩

instance : Inhabited Metadata := ⟨empty⟩

/-- Writes a pair into a list of pairs: in place if the key is there, at the end if not. -/
def putEntry (key value : String) : List (String × String) → List (String × String)
  | [] => [(key, value)]
  | (other, old) :: rest =>
    if other = key then (key, value) :: rest else (other, old) :: putEntry key value rest

theorem map_fst_putEntry (key value : String) (entries : List (String × String)) :
    (putEntry key value entries).map Prod.fst =
      if key ∈ entries.map Prod.fst then entries.map Prod.fst
      else entries.map Prod.fst ++ [key] := by
  induction entries with
  | nil => simp [putEntry]
  | cons entry rest inductionHypothesis =>
    obtain ⟨other, old⟩ := entry
    by_cases same : other = key
    · simp [putEntry, same]
    · have different : ¬ key = other := fun equal => same equal.symm
      simp only [putEntry, same, if_false, List.map_cons, inductionHypothesis, List.mem_cons,
        different, false_or]
      split <;> simp_all

/-- Writes a pair; a key that is there keeps its position and takes the new value. -/
def put (metadata : Metadata) (key value : String) : Metadata where
  entries := putEntry key value metadata.entries
  distinct := by
    rw [map_fst_putEntry]
    split
    · exact metadata.distinct
    · rename_i absent
      rw [List.nodup_append]
      refine ⟨metadata.distinct, by simp, ?_⟩
      intro first firstMember second secondMember equal
      simp only [List.mem_singleton] at secondMember
      subst secondMember
      exact absent (equal ▸ firstMember)

/-- The map that a sequence of pairs builds, written one after the other. -/
def ofList (pairs : List (String × String)) : Metadata :=
  pairs.foldl (fun metadata pair => metadata.put pair.1 pair.2) empty

def size (metadata : Metadata) : Nat := metadata.entries.length

def isEmpty (metadata : Metadata) : Bool := metadata.entries.isEmpty

end Metadata
end ServiceBeacon
