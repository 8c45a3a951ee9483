import ServiceBeacon.Address.Parser
import ServiceBeacon.Address.Printer
import ServiceBeacon.Url.DomainName
import ServiceBeacon.Url.Fault
import ServiceBeacon.Url.Percent

namespace ServiceBeacon
namespace Url

/-!
# Hosts

Brackets hold an IPv6 address.  Under a scheme that web browsers know, any
other host is a domain name, unless its last label is a number: then the whole
must be an IPv4 address, of which one to four parts may be given, each in
decimal, octal or hexadecimal.  Under any other scheme a host is a plain text.
-/

/-- The host of a URL.  Under an unknown scheme a name is any text. -/
inductive Host where
  | name (text : List Char)
  | v4 (address : Ipv4)
  | v6 (address : Ipv6)
deriving DecidableEq, Repr

namespace Host

/-- The text of a host.  An IPv6 address is never written with an IPv4 address
inside. -/
def text : Host → List Char
  | name text => text
  | v4 address => address.text
  | v6 address => '[' :: Ipv6.compressed address.groups ++ [']']

/-- The number that one part of an IPv4 address denotes. -/
def partNumber? (part : List Char) : Option Nat :=
  match part with
  | [] => none
  | '0' :: 'x' :: digits => if digits.all Text.isHex then some (Text.ofDigits 16 digits) else none
  | '0' :: 'X' :: digits => if digits.all Text.isHex then some (Text.ofDigits 16 digits) else none
  | '0' :: c :: rest =>
    if (c :: rest).all fun c => (Text.digit? 8 c).isSome then some (Text.ofDigits 8 (c :: rest))
    else none
  | digits => if digits.all Text.isDecimal then some (Text.ofDigits 10 digits) else none

/-- The labels of a name without the empty one that a final dot makes. -/
def labels (name : List Char) : List (List Char) :=
  let parts := Text.split (· == '.') name
  if 1 < parts.length && parts.getLast? == some [] then parts.dropLast else parts

/-- Whether the last label of a name is a number, or would be one. -/
def endsInNumber (name : List Char) : Bool :=
  match (labels name).getLast? with
  | none => false
  | some last =>
    !last.isEmpty && (last.all Text.isDecimal || (partNumber? last).isSome)

/-- The IPv4 address whose parts are given: all but the last are octets, and
the last one fills what they leave. -/
def ofParts? (parts : List Nat) : Option Ipv4 :=
  match parts.reverse with
  | [] => none
  | last :: before =>
    if 3 < before.length || before.any (255 < ·) || Nat.pow 256 (4 - before.length) ≤ last then none
    else
      let leading := before.reverse.zipIdx.foldl
        (fun total part => total + part.1 * Nat.pow 256 (3 - part.2)) 0
      some (Ipv4.ofNat (leading + last))

def ipv4? (name : List Char) : Option Ipv4 := do
  let parts ← (labels name).mapM partNumber?
  ofParts? parts

/-- The host between brackets: the text starts with the opening one. -/
def ofBrackets (text : List Char) : Except Fault Host :=
  if text.getLast? == some ']' then
    match Ipv6.read? (text.drop 1).dropLast with
    | some (address, []) => .ok (.v6 address)
    | _ => .error .badIpv6
  else .error .badIpv6

/-- Reads a host that is a domain name or an address. -/
def ofDomain (text : List Char) : Except Fault Host :=
  if text.isEmpty then .error .emptyHost
  else if text.head? == some '[' then ofBrackets text
  else
    match (Text.Utf8.decode? (percentDecode (Text.Utf8.encode text))).bind DomainName.ascii? with
    | none => .error .badDomainName
    | some [] => .error .emptyHost
    | some domain =>
      if endsInNumber domain then
        match ipv4? domain with
        | some address => .ok (.v4 address)
        | none => .error .badIpv4
      else .ok (.name domain)

/-- Characters that no host may have, whatever the scheme. -/
def isForbidden (c : Char) : Bool := "\x00\t\n\r #/:<>?@[\\]^|".toList.contains c

/-- Reads a host that may be any text. -/
def ofPlain (text : List Char) : Except Fault Host :=
  if text.head? == some '[' then ofBrackets text
  else if text.any isForbidden then .error .badHostCharacter
  else .ok (.name (percentEncode EncodeSet.controls text))

end Host
end Url
end ServiceBeacon
