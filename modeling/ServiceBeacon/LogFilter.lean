import ServiceBeacon.Observation
import ServiceBeacon.Text.Blank
import ServiceBeacon.Text.Digits

namespace ServiceBeacon

/-!
# Log filters

A filter is a list of directives `target=level`.  The fixture's own events
follow the configured level; the HTTP layer below it stays at `info` unless
the level is more verbose than that.  An event passes if the most specific
directive whose target is the start of the event's source admits its severity.
-/

namespace LogFilter

/-- The directives for a configured level. -/
def directives (level : String) : String :=
  let level := Text.asciiLower (Text.trim level)
  if level = "trace" ∨ level = "debug" then
    "mesh_fixture=" ++ level ++ ",tower_http=" ++ level
  else "mesh_fixture=" ++ level ++ ",tower_http=info"

/-- A directive: the start of the sources it speaks of, which is empty for all, and
the highest rank of the events it admits, which is zero for none. -/
structure Directive where
  target : String
  limit : Nat
deriving DecidableEq, Repr

/-- The rank that a level's name or number stands for. -/
def levelRank? (level : String) : Option Nat :=
  match Text.asciiLower level with
  | "off" | "0" => some 0
  | "error" | "1" => some 1
  | "warn" | "2" => some 2
  | "info" | "3" => some 3
  | "debug" | "4" => some 4
  | "trace" | "5" => some 5
  | _ => none

def isTargetCharacter (c : Char) : Bool :=
  c.isAlphanum || c == '_' || c == ':' || c == '-'

/-- Reads one directive.  A bare level speaks of all sources; a target without
a level admits everything. -/
def Directive.parse? (text : String) : Option Directive :=
  match levelRank? text with
  | some limit => some ⟨"", limit⟩
  | none =>
    let target := text.toList.takeWhile isTargetCharacter
    match text.toList.drop target.length with
    | [] => some ⟨String.ofList target, 5⟩
    | ['='] => some ⟨String.ofList target, 5⟩
    | '=' :: level => (levelRank? (String.ofList level)).map (⟨String.ofList target, ·⟩)
    | _ => none

def parts (text : String) : List String :=
  (text.splitOn ",").filter (· ≠ "")

/-- Reads directives, leaving out those that cannot be read. -/
def parseLenient (text : String) : List Directive :=
  (parts text).filterMap Directive.parse?

/-- The directives that cannot be read, each with what is said about it. -/
def complaints (text : String) : List String :=
  ((parts text).filter fun part => (Directive.parse? part).isNone).map fun part =>
    "ignoring `" ++ part ++ "`: invalid filter directive"

/-- Reads directives, refusing the whole text if one cannot be read. -/
def parseStrict? (text : String) : Option (List Directive) :=
  (parts text).mapM Directive.parse?

/-- The directive that decides about a source: the one with the longest
matching target, the last of several. -/
def deciding? (filter : List Directive) (source : String) : Option Directive :=
  (filter.filter fun directive => directive.target.toList.isPrefixOf source.toList).foldl
    (fun best directive =>
      match best with
      | some chosen =>
        if directive.target.length < chosen.target.length then best else some directive
      | none => some directive)
    none

/-- Whether an event passes a filter.  A filter without directives admits errors. -/
def admits (filter : List Directive) (event : Event) : Bool :=
  if filter.isEmpty then event.severity.rank ≤ 1
  else match deciding? filter event.source.path with
    | some directive => event.severity.rank ≤ directive.limit
    | none => false

end LogFilter
end ServiceBeacon
