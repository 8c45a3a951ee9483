import ServiceBeacon.Text.Digits
import ServiceBeacon.Text.Visible

namespace ServiceBeacon
namespace Text

/-!
# Quoted text in messages

Messages and log fields show texts between quotation marks such that nothing
in them is lost on a terminal: marks and backslashes get a backslash, the
usual controls their letter, and every other character that does not show by
itself its code in hexadecimal.
-/

def hexadecimal (value : Nat) : List Char := Nat.toDigits 16 value

/-- How a character is shown between quotation marks. -/
def shownInQuotes (c : Char) : List Char :=
  match c with
  | '\x00' => ['\\', '0']
  | '\t' => ['\\', 't']
  | '\n' => ['\\', 'n']
  | '\r' => ['\\', 'r']
  | '"' => ['\\', '"']
  | '\\' => ['\\', '\\']
  | c => if isVisible c then [c] else '\\' :: 'u' :: '\x7b' :: hexadecimal c.toNat ++ ['\x7d']

/-- A text between quotation marks. -/
def quoted (text : String) : String :=
  String.ofList ('"' :: text.toList.flatMap shownInQuotes ++ ['"'])

end Text
end ServiceBeacon
