import ServiceBeacon.Text.Digits

namespace ServiceBeacon

/-!
# Compact JSON

The fixture writes JSON without blanks, members in the order in which they are
given.  In strings only the quotation mark, the backslash and the control
characters below U+0020 are escaped; everything else, DEL included, stands
for itself.
-/

/-- The JSON values that the fixture writes.  Numbers are natural, and the members
of an object are in the order in which they are written. -/
inductive Json where
  | string (text : String)
  | number (value : Nat)
  | boolean (value : Bool)
  | array (items : List Json)
  | object (members : List (String × Json))

namespace Json

/-- How a character is written inside a string. -/
def escape (c : Char) : List Char :=
  if c = '"' then ['\\', '"']
  else if c = '\\' then ['\\', '\\']
  else if c = '\x08' then ['\\', 'b']
  else if c = '\t' then ['\\', 't']
  else if c = '\n' then ['\\', 'n']
  else if c = '\x0C' then ['\\', 'f']
  else if c = '\r' then ['\\', 'r']
  else if c.toNat < 0x20 then
    ['\\', 'u', '0', '0', Text.lowerHexDigit (c.toNat / 16), Text.lowerHexDigit (c.toNat % 16)]
  else [c]

def quote (text : List Char) : List Char := '"' :: text.flatMap escape ++ ['"']

mutual

/-- The text of a value. -/
def render : Json → List Char
  | string text => quote text.toList
  | number value => Text.decimal value
  | boolean value => if value then "true".toList else "false".toList
  | array [] => ['[', ']']
  | array (item :: rest) => '[' :: render item ++ renderItems rest ++ [']']
  | object [] => ['\x7b', '\x7d']
  | object ((key, value) :: rest) =>
    '\x7b' :: quote key.toList ++ ':' :: render value ++ renderMembers rest ++ ['\x7d']

/-- The items after the first, each behind its comma. -/
def renderItems : List Json → List Char
  | [] => []
  | item :: rest => ',' :: render item ++ renderItems rest

/-- The members after the first, each behind its comma. -/
def renderMembers : List (String × Json) → List Char
  | [] => []
  | (key, value) :: rest => ',' :: quote key.toList ++ ':' :: render value ++ renderMembers rest

end

def text (value : Json) : String := String.ofList value.render

end Json
end ServiceBeacon
