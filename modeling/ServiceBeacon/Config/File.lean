import ServiceBeacon.Config.OfDocument
import ServiceBeacon.Config.Validation
import ServiceBeacon.FileContent

namespace ServiceBeacon
namespace Config

/-!
# Configuration files

A file is read in three steps, each of which can refuse it: its bytes are
text, the text is a document, and the document's values fit the
configuration.  Loading a file validates what was read; reading one leaves
that to a caller who is going to replace some fields.
-/

/-- Why there is no configuration: the file cannot be read, its text is no document,
a value of the document does not fit, or the configuration violates rules. -/
inductive Problem where
  | unreadable (cause : FileContent.Unreadable)
  | malformed (source : String) (fault : Toml.Fault)
  | unfitting (source : String) (fault : Toml.Fault)
  | invalid (violations : List Violation)
deriving DecidableEq, Repr

def Problem.message : Problem → String
  | unreadable cause => "IO error: " ++ cause.message
  | malformed source fault => "Parse error: " ++ fault.text source
  | unfitting source fault => "Parse error: " ++ fault.text source
  | invalid violations =>
    "Validation failed: " ++ String.intercalate ", " (violations.map Violation.message)

/-- The configuration that a text describes. -/
def ofText (source : String) : Except Problem Config :=
  match Toml.parse source with
  | .error fault => .error (.malformed source fault)
  | .ok table =>
    match ofTable table with
    | .error fault => .error (.unfitting source fault)
    | .ok config => .ok config

/-- Reads a file without validating what it says. -/
def ofContent (content : FileContent) : Except Problem Config :=
  match content.text with
  | .ok source => ofText source
  | .error cause => .error (.unreadable cause)

/-- The configuration, if it violates no rule. -/
def checked (config : Config) : Except Problem Config :=
  match config.validate with
  | .ok config => .ok config
  | .error violations => .error (.invalid violations)

/-- Reads a file and validates what it says. -/
def loadContent (content : FileContent) : Except Problem Config := ofContent content >>= checked

end Config
end ServiceBeacon
