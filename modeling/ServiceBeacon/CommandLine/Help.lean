import ServiceBeacon.CommandLine.Parser

namespace ServiceBeacon
namespace CommandLine

/-!
# What is said about a command line

The help text shows for every setting with a variable what the environment
holds.  A refusal is one paragraph; its exit status is that of a usage error,
while asking for help succeeds.
-/

/-- What the help text says the program is. -/
def about : String := "HTTP test service that registers itself with a service registry"

def programName : String := "mesh-fixture"

/-- A list of values, as the help text and messages show it. -/
def listed (choices : List String) : String :=
  "[possible values: " ++ String.intercalate ", " choices ++ "]"

/-- Whether messages about a refused value list the values that are understood. -/
def listsChoices (setting : Setting) : Bool := setting.kind == .logFormat

/-- The lines of a setting in the help text. -/
def helpEntry (environment : Environment) (setting : Setting) : String :=
  let letter :=
    match setting.short? with
    | some letter => "  -" ++ String.ofList [letter] ++ ", "
    | none => "      "
  let inherited :=
    match setting.environmentName? with
    | some name => ["[env: " ++ name ++ "=" ++ (lookup? environment name).getD "" ++ "]"]
    | none => []
  let choices :=
    if setting.kind.choices.isEmpty then [] else [listed setting.kind.choices]
  let description := if setting.description.isEmpty then [] else [setting.description]
  letter ++ setting.usage ++ "\n          " ++
    String.intercalate " " (description ++ inherited ++ choices) ++ "\n"

/-- The help text. -/
def helpText (environment : Environment) : String :=
  about ++ "\n\nUsage: " ++ programName ++ " [OPTIONS]\n\nOptions:\n" ++
    String.join (Setting.all.map (helpEntry environment)) ++
      "  -h, --help\n          Print help\n"

/-- The list of values behind a message, for settings that have one. -/
def choicesBehind (setting : Setting) : String :=
  if listsChoices setting then "\n  " ++ listed setting.kind.choices else ""

namespace Refusal

/-- What is said about a refusal. -/
def message (environment : Environment) : Refusal → String
  | help => helpText environment
  | unexpected word => "error: unexpected argument '" ++ word ++ "' found"
  | unneeded value =>
    "error: unexpected value '" ++ value ++ "' for '--help' found; no more were expected"
  | repeated setting =>
    "error: the argument '" ++ setting.usage ++ "' cannot be used multiple times"
  | badValue setting _ .absent =>
    "error: a value is required for '" ++ setting.usage ++ "' but none was supplied" ++
      choicesBehind setting
  | badValue setting value .unlisted =>
    "error: invalid value '" ++ value ++ "' for '" ++ setting.usage ++ "'" ++
      choicesBehind setting
  | badValue setting value (.unreadable reason) =>
    "error: invalid value '" ++ value ++ "' for '" ++ setting.usage ++ "': " ++ reason

def exitCode : Refusal → Nat
  | help => 0
  | _ => 2

end Refusal
end CommandLine
end ServiceBeacon
