import ServiceBeacon.Storage

namespace ServiceBeacon

/-!
# New files in a directory

A file that is new has a path of its own, so neither writing it nor removing it
touches any other file.  A file is written as a whole or not at all.
-/

namespace Directory

/-- Whether no file of a directory has a path. -/
def Avoids (directory : Directory) (path : String) : Prop :=
  ∀ file ∈ directory, file.path ≠ path

variable {directory : Directory} {path : String}

theorem avoids_append {other : Directory} :
    Avoids (directory ++ other) path ↔ directory.Avoids path ∧ other.Avoids path :=
  List.forall_mem_append

theorem avoids_singleton {file : StoredFile} : Avoids [file] path ↔ file.path ≠ path :=
  List.forall_mem_singleton

theorem map_extend_of_avoids (avoids : directory.Avoids path) (bytes : List UInt8) :
    directory.map (extend path bytes) = directory := by
  refine (List.map_congr_left fun file member => ?_).trans (List.map_id directory)
  exact if_neg (avoids file member)

theorem filter_of_avoids (avoids : directory.Avoids path) :
    directory.filter (·.path ≠ path) = directory := by
  rw [List.filter_eq_self]
  intro file member
  exact decide_eq_true (avoids file member)

theorem change_appended (avoids : directory.Avoids path) (mode : Nat)
    (written bytes : List UInt8) :
    change (directory ++ [⟨path, mode, written⟩]) (.appended path bytes) =
      directory ++ [⟨path, mode, written ++ bytes⟩] := by
  have last : extend path bytes ⟨path, mode, written⟩ = ⟨path, mode, written ++ bytes⟩ := if_pos rfl
  rw [change, List.map_append, map_extend_of_avoids avoids, List.map_singleton, last]

/-- Removing a file leaves those before and behind it. -/
theorem change_removed {behind : Directory} (avoids : directory.Avoids path)
    (apart : behind.Avoids path) (mode : Nat) (content : List UInt8) :
    change (directory ++ ⟨path, mode, content⟩ :: behind) (.removed path) = directory ++ behind := by
  have gone : ¬ (decide ((⟨path, mode, content⟩ : StoredFile).path ≠ path)) = true := by
    rw [decide_eq_true_eq]
    exact fun kept => kept rfl
  rw [change, List.filter_append, filter_of_avoids avoids, List.filter_cons, if_neg gone,
    filter_of_avoids apart]

theorem after_written (avoids : directory.Avoids path) (mode : Nat) (bytes : List UInt8) :
    directory.after [.created path mode, .appended path bytes] =
      directory ++ [⟨path, mode, bytes⟩] := by
  rw [after_cons, after_cons, after_nil]
  exact change_appended avoids mode [] bytes

/-- What comes of writing a new file: the whole file, or nothing. -/
theorem after_writeFile (avoids : directory.Avoids path) (content : List UInt8)
    (writing : Writing) :
    directory.after (writeFile path content writing).2 =
      match (writeFile path content writing).1 with
      | .ok _ => directory ++ [⟨path, 0o600, content⟩]
      | .error _ => directory := by
  have discarded : ∀ bytes,
      directory.after [.created path 0o600, .appended path bytes, .removed path] = directory := by
    intro bytes
    have removed := change_removed avoids (List.forall_mem_nil _) 0o600 bytes
    rw [List.append_nil] at removed
    calc directory.after ([.created path 0o600, .appended path bytes] ++ [.removed path])
      _ = after (directory ++ [⟨path, 0o600, bytes⟩]) [.removed path] := by
        rw [after_append, after_written avoids]
      _ = directory := removed
  cases writing with
  | uncreated cause => rfl
  | unwritten count cause => exact discarded (content.take count)
  | unflushed cause => exact discarded content
  | complete => exact after_written avoids 0o600 content

/-- A new file is found with its content. -/
theorem content?_append {behind : Directory} (avoids : directory.Avoids path) (mode : Nat)
    (content : List UInt8) :
    content? (directory ++ ⟨path, mode, content⟩ :: behind) path = some content := by
  have missed : directory.find? (·.path == path) = none :=
    List.find?_eq_none.mpr fun file member same => avoids file member (beq_iff_eq.mp same)
  have found : (⟨path, mode, content⟩ :: behind : Directory).find? (·.path == path) =
      some ⟨path, mode, content⟩ := List.find?_cons_of_pos (beq_self_eq_true path)
  unfold content?
  rw [List.find?_append, missed, Option.none_or, found]
  rfl

end Directory
end ServiceBeacon
