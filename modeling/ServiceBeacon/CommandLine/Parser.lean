import ServiceBeacon.CommandLine.Overrides

namespace ServiceBeacon
namespace CommandLine

/-!
# Reading the command line

Words are read from left to right.  An option takes its value from behind an
equals sign, from behind its letter, or from the next word if that does not
begin with a hyphen.  A value in the next word is judged when the option after
it is reached, or at the end; so a word that nobody expects is refused before
a value that cannot be read.  Settings that the command line leaves alone are
taken from the environment.
-/

/-- Why a command line is not carried out.  The help text is wanted, a word is one
that nobody expects, an option has a value and takes none, is given twice or has a
value that is refused. -/
inductive Refusal where
  | help
  | unexpected (word : String)
  | unneeded (value : String)
  | repeated (setting : Setting)
  | badValue (setting : Setting) (value : String) (problem : BadValue)
deriving DecidableEq, Repr

/-- The option that is waiting for a value, or has got one that was not judged yet. -/
structure Pending where
  setting : Setting
  value : Option String
deriving DecidableEq, Repr

/-- What was read so far: what is set, the option whose value is not settled, and
whether the mark was met behind which no options follow. -/
structure Progress where
  given : Overrides
  pending : Option Pending
  trailing : Bool
deriving DecidableEq, Repr

def Progress.start : Progress := ⟨.none, none, false⟩

/-- Sets a setting, once. -/
def assign (given : Overrides) (setting : Setting) (value : String) : Except Refusal Overrides :=
  if given.isSet setting then .error (.repeated setting)
  else match given.put setting value with
    | .ok given => .ok given
    | .error problem => .error (.badValue setting value problem)

/-- Sets the setting of an option.  Without a value, what can be switched is on,
and everything else lacks one. -/
def apply (given : Overrides) (setting : Setting) (value : Option String) :
    Except Refusal Overrides :=
  match value with
  | some value => assign given setting value
  | none =>
    if setting.kind = .flag then assign given setting "true"
    else .error (.badValue setting "" .absent)

namespace Progress

/-- What is set once the pending option is settled. -/
def settled (progress : Progress) : Except Refusal Overrides :=
  match progress.pending with
  | none => .ok progress.given
  | some pending => apply progress.given pending.setting pending.value

/-- Meets an option, with the value attached to it if there is one. -/
def meet (progress : Progress) (setting : Setting) (attached : Option String) :
    Except Refusal Progress := do
  let given ← progress.settled
  match attached with
  | some value => return ⟨← apply given setting (some value), none, progress.trailing⟩
  | none => return ⟨given, some ⟨setting, none⟩, progress.trailing⟩

/-- Meets the wish for the help text. -/
def meetHelp (progress : Progress) : Except Refusal Progress := do
  let _ ← progress.settled
  .error .help

/-- Meets a word that is no option: the value of the option that waits for one. -/
def meetWord (progress : Progress) (word : String) : Except Refusal Progress :=
  match progress.pending with
  | some ⟨setting, none⟩ =>
    if progress.trailing then .error (.unexpected word)
    else .ok { progress with pending := some ⟨setting, some word⟩ }
  | _ => .error (.unexpected word)

end Progress

/-- Splits a word at its first equals sign. -/
def splitAtEquals (word : List Char) : List Char × Option (List Char) :=
  match word.dropWhile (· ≠ '=') with
  | _ :: value => (word.takeWhile (· ≠ '='), some value)
  | [] => (word, none)

/-- Meets a word that begins with two hyphens, which are left out here. -/
def meetLong (progress : Progress) (body : List Char) : Except Refusal Progress :=
  let (name, value) := splitAtEquals body
  let name := String.ofList name
  let value := value.map String.ofList
  match Setting.ofLong? name with
  | some setting => progress.meet setting value
  | none =>
    if name = "help" then
      match value with
      | some value => .error (.unneeded value)
      | none => progress.meetHelp
    else .error (.unexpected ("--" ++ name))

/-- Meets a word that begins with one hyphen, which is left out here.  An equals
sign behind the letter does not belong to the value. -/
def meetShort (progress : Progress) (letter : Char) (rest : List Char) :
    Except Refusal Progress :=
  match Setting.ofShort? letter with
  | some setting =>
    match rest with
    | [] => progress.meet setting none
    | '=' :: value => progress.meet setting (some (String.ofList value))
    | value => progress.meet setting (some (String.ofList value))
  | none =>
    if letter = 'h' then progress.meetHelp
    else .error (.unexpected ("-" ++ String.ofList [letter]))

/-- Meets one word. -/
def step (progress : Progress) (word : String) : Except Refusal Progress :=
  if progress.trailing then progress.meetWord word
  else match word.toList with
    | ['-', '-'] => .ok { progress with trailing := true }
    | '-' :: '-' :: body => meetLong progress body
    | '-' :: letter :: rest => meetShort progress letter rest
    | _ => progress.meetWord word

/-- The variables of an environment. -/
abbrev Environment := List (String × String)

def lookup? (environment : Environment) (name : String) : Option String :=
  (environment.find? fun entry => entry.1 == name).map Prod.snd

/-- The value that the environment has for a setting. -/
def environmentValue? (environment : Environment) (setting : Setting) : Option String :=
  setting.environmentName?.bind (lookup? environment)

/-- Takes a setting from the environment, unless it is set. -/
def inherit (environment : Environment) (given : Overrides) (setting : Setting) :
    Except Refusal Overrides :=
  if given.isSet setting then .ok given
  else match environmentValue? environment setting with
    | none => .ok given
    | some value => assign given setting value

/-- What the command line and the environment set. -/
def parse (words : List String) (environment : Environment) : Except Refusal Overrides := do
  let progress ← words.foldlM step Progress.start
  let given ← progress.settled
  Setting.all.foldlM (inherit environment) given

end CommandLine
end ServiceBeacon
