import ServiceBeacon.Json.Reader
import ServiceBeacon.Registration
import ServiceBeacon.Text.Quoted
import ServiceBeacon.Text.Utf8

namespace ServiceBeacon
namespace Registration

/-!
# Reading a registration descriptor

A descriptor is a JSON object with five members in any order, each exactly
once; other members are ignored.  An array of the five values in their order
is understood too.  Routing metadata may repeat a key: it keeps its first
position and takes its last value.
-/

open Json (Node Ending Numeral)

/-- Why a text is no descriptor: it is no JSON as far as it was read, or it is JSON
but no descriptor, and so many characters were left. -/
inductive Refusal where
  | syntaxError
  | unfitting (reason : String) (left : Nat)
deriving DecidableEq, Repr

/-- What a node is, in messages about values of the wrong type; nothing if it
cannot be told because the text is broken. -/
def described? : Node → Option String
  | .null _ => some "null"
  | .boolean value _ => some ("boolean `" ++ (if value then "true" else "false") ++ "`")
  | .number numeral _ =>
    numeral.magnitude?.map fun magnitude =>
      match magnitude with
      | .natural value => "integer `" ++ toString value ++ "`"
      | .negative value => "integer `" ++ toString value ++ "`"
      | .float bits => "floating point `" ++ Json.floatText bits ++ "`"
  | .string text _ => text.map fun text => "string " ++ Text.quoted text
  | .array _ _ _ => some "sequence"
  | .object _ _ _ => some "map"
  | .broken => none

/-- The number of characters left where a node is refused. -/
def leftOf : Node → Nat
  | .null left | .boolean _ left | .number _ left | .string _ left => left
  | .array left _ _ | .object left _ _ => left
  | .broken => 0

def wrongType (expected : String) (node : Node) : Refusal :=
  match described? node with
  | some description =>
    .unfitting ("invalid type: " ++ description ++ ", expected " ++ expected) (leftOf node)
  | none => .syntaxError

def textOf (node : Node) : Except Refusal String :=
  match node with
  | .string (some text) _ => .ok text
  | _ => .error (wrongType "a string" node)

def portOf (node : Node) : Except Refusal UInt16 :=
  match node with
  | .number numeral left =>
    match numeral.magnitude? with
    | some (.natural value) =>
      if value < Nat.pow 2 16 then .ok (UInt16.ofNat value)
      else
        .error (.unfitting ("invalid value: integer `" ++ toString value ++ "`, expected u16") left)
    | some (.negative value) =>
      .error (.unfitting ("invalid value: integer `" ++ toString value ++ "`, expected u16") left)
    | _ => .error (wrongType "u16" node)
  | _ => .error (wrongType "u16" node)

def pairsOf : List (Option String × Nat × Node) → Except Refusal (List (String × String))
  | [] => .ok []
  | (none, _, _) :: _ => .error .syntaxError
  | (some key, _, value) :: rest => do
    let text ← textOf value
    let pairs ← pairsOf rest
    return (key, text) :: pairs

def metadataOf (node : Node) : Except Refusal Metadata :=
  match node with
  | .object _ members ending => do
    let pairs ← pairsOf members
    match ending with
    | .closed _ => return Metadata.ofList pairs
    | .broken => .error .syntaxError
  | _ => .error (wrongType "a map" node)

/-- The members read so far. -/
structure Partial where
  id : Option String
  name : Option String
  address : Option String
  port : Option UInt16
  metadata : Option Metadata

def Partial.empty : Partial := ⟨none, none, none, none, none⟩

/-- A member that may be given once.  It is refused before its value is looked at. -/
def once {α : Type} (name : String) (earlier : Option α) (left : Nat) (value : Except Refusal α) :
    Except Refusal α :=
  if earlier.isSome then .error (.unfitting ("duplicate field `" ++ name ++ "`") left) else value

/-- Takes one member of an object. -/
def Partial.take (read : Partial) (key : String) (left : Nat) (value : Node) :
    Except Refusal Partial :=
  match key with
  | "ID" => (once key read.id left (textOf value)).map fun id => { read with id := some id }
  | "Name" =>
    (once key read.name left (textOf value)).map fun name => { read with name := some name }
  | "Address" =>
    (once key read.address left (textOf value)).map fun address =>
      { read with address := some address }
  | "Port" =>
    (once key read.port left (portOf value)).map fun port => { read with port := some port }
  | "Meta" =>
    (once key read.metadata left (metadataOf value)).map fun metadata =>
      { read with metadata := some metadata }
  | _ => if value.isWhole then .ok read else .error .syntaxError

/-- Takes all members of an object in order. -/
def Partial.takeAll : Partial → List (Option String × Nat × Node) → Except Refusal Partial
  | read, [] => .ok read
  | _, (none, _, _) :: _ => .error .syntaxError
  | read, (some key, left, value) :: rest => do
    let read ← read.take key left value
    read.takeAll rest

/-- A member that must be there. -/
def present {α : Type} (name : String) (left : Nat) : Option α → Except Refusal α
  | some value => .ok value
  | none => .error (.unfitting ("missing field `" ++ name ++ "`") left)

/-- The descriptor of the members read, the first missing one reported. -/
def Partial.complete (read : Partial) (left : Nat) : Except Refusal Registration := do
  let id ← present "ID" left read.id
  let name ← present "Name" left read.name
  let address ← present "Address" left read.address
  let port ← present "Port" left read.port
  let metadata ← present "Meta" left read.metadata
  return ⟨id, name, address, port, metadata⟩

/-- The refusal of an array that ends after so many items. -/
def tooShort (count : Nat) (ending : Ending) : Refusal :=
  match ending with
  | .closed left =>
    .unfitting
      ("invalid length " ++ toString count ++ ", expected struct ServiceRegistration with 5 elements")
      left
  | .broken => .syntaxError

def nextItem {α : Type} (count : Nat) (ending : Ending) (read : Node → Except Refusal α) :
    List Node → Except Refusal (α × List Node)
  | [] => .error (tooShort count ending)
  | item :: rest => (read item).map (·, rest)

/-- The descriptor of an array's items. -/
def ofItems (items : List Node) (ending : Ending) : Except Refusal Registration := do
  let (id, items) ← nextItem 0 ending textOf items
  let (name, items) ← nextItem 1 ending textOf items
  let (address, items) ← nextItem 2 ending textOf items
  let (port, items) ← nextItem 3 ending portOf items
  let (metadata, items) ← nextItem 4 ending metadataOf items
  match items, ending with
  | [], .closed _ => return ⟨id, name, address, port, metadata⟩
  | _, _ => .error .syntaxError

/-- The descriptor that a tree describes. -/
def ofNode (node : Node) : Except Refusal Registration :=
  match node with
  | .object _ members ending => do
    let read ← Partial.empty.takeAll members
    match ending with
    | .closed left => read.complete left
    | .broken => .error .syntaxError
  | .array _ items ending => ofItems items ending
  | _ => .error (wrongType "struct ServiceRegistration" node)

def ofCharacters (text : List Char) : Except Refusal Registration := do
  let (node, clean) := Json.readText text
  let registration ← ofNode node
  if clean then return registration else .error .syntaxError

/-- The descriptor that a text describes. -/
def ofText (text : String) : Except Refusal Registration := ofCharacters text.toList

/-- A place in a text: its line from 1, and the number of bytes before it in that line. -/
structure Place where
  line : Nat
  column : Nat
deriving DecidableEq, Repr

/-- The place behind a piece of text. -/
def placeBehind (text : List Char) : Place :=
  ⟨text.count '\n' + 1, Text.Utf8.size (text.reverse.takeWhile (· ≠ '\n'))⟩

/-- What is said about a refusal; nothing more than that about a text that is no JSON. -/
def Refusal.message? (text : String) : Refusal → Option String
  | syntaxError => none
  | unfitting reason left =>
    let place := placeBehind (text.toList.take (text.length - left))
    some (reason ++ " at line " ++ toString place.line ++ " column " ++ toString place.column)

end Registration
end ServiceBeacon
