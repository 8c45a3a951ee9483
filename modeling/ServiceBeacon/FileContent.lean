import ServiceBeacon.Text.Utf8

namespace ServiceBeacon

/-!
# Files as they are found

What stands at a path is nothing, a directory or bytes.  A reader asks for the
bytes or for the text that they spell.
-/

/-- What is found at a path. -/
inductive FileContent where
  | missing
  | directory
  | bytes (content : List UInt8)
deriving DecidableEq, Repr

namespace FileContent

/-- Why bytes or text cannot be had. -/
inductive Unreadable where
  | missing
  | directory
  | noText
deriving DecidableEq, Repr

def Unreadable.message : Unreadable → String
  | missing => "No such file or directory (os error 2)"
  | directory => "Is a directory (os error 21)"
  | noText => "stream did not contain valid UTF-8"

/-- The bytes of a file. -/
def read : FileContent → Except Unreadable (List UInt8)
  | missing => .error .missing
  | directory => .error .directory
  | bytes content => .ok content

def text (found : FileContent) : Except Unreadable String :=
  match found.read with
  | .error cause => .error cause
  | .ok content =>
    match Text.Utf8.decode? content with
    | some characters => .ok (String.ofList characters)
    | none => .error .noText

end FileContent
end ServiceBeacon
