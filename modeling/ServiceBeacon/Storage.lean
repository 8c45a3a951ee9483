namespace ServiceBeacon

/-!
# Files that are written and removed

A directory is the list of its files.  What happens to it is a list of changes,
each of which names the file it concerns, so that what is left behind after a
failure is a matter of replaying the changes and not of a promise.
-/

/-- A file in a directory.  Its mode says who may do what with it, as a number of
nine bits. -/
structure StoredFile where
  path : String
  mode : Nat
  content : List UInt8
deriving DecidableEq, Repr

/-- The files of a directory, in the order of their creation. -/
abbrev Directory : Type := List StoredFile

/-- A change of a directory: a new file, which is empty, bytes at the end of a file,
or a file that is gone. -/
inductive FileChange where
  | created (path : String) (mode : Nat)
  | appended (path : String) (bytes : List UInt8)
  | removed (path : String)
deriving DecidableEq, Repr

namespace Directory

/-- The file with more bytes at its end, if it is the one that is meant. -/
def extend (path : String) (bytes : List UInt8) (file : StoredFile) : StoredFile :=
  if file.path = path then { file with content := file.content ++ bytes } else file

/-- A directory after one change. -/
def change (directory : Directory) : FileChange → Directory
  | .created path mode => directory ++ [⟨path, mode, []⟩]
  | .appended path bytes => directory.map (extend path bytes)
  | .removed path => directory.filter (·.path ≠ path)

/-- A directory after changes. -/
def after (directory : Directory) (changes : List FileChange) : Directory :=
  changes.foldl change directory

@[simp] theorem after_nil (directory : Directory) : directory.after [] = directory := rfl

@[simp] theorem after_cons (directory : Directory) (first : FileChange)
    (rest : List FileChange) :
    directory.after (first :: rest) = (directory.change first).after rest := rfl

@[simp] theorem after_append (directory : Directory) (first second : List FileChange) :
    directory.after (first ++ second) = (directory.after first).after second := by
  simp [after]

def content? (directory : Directory) (path : String) : Option (List UInt8) :=
  (directory.find? (·.path == path)).map (·.content)

end Directory

/-- How the writing of a new file goes: it cannot be created, only so many bytes can
be written, the bytes cannot be handed over to the disk, or nothing goes wrong. -/
inductive Writing where
  | uncreated (cause : String)
  | unwritten (count : Nat) (cause : String)
  | unflushed (cause : String)
  | complete
deriving DecidableEq, Repr

/-- Writes a new file that only its owner may read and write.  A file that
cannot be finished is removed. -/
def writeFile (path : String) (content : List UInt8) :
    Writing → Except String Unit × List FileChange
  | .uncreated cause => (.error cause, [])
  | .unwritten count cause =>
    (.error cause, [.created path 0o600, .appended path (content.take count), .removed path])
  | .unflushed cause =>
    (.error cause, [.created path 0o600, .appended path content, .removed path])
  | .complete => (.ok (), [.created path 0o600, .appended path content])

end ServiceBeacon
