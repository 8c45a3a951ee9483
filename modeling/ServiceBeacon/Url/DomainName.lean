import ServiceBeacon.Text.Composition
import ServiceBeacon.Text.Split
import ServiceBeacon.Text.Visible
import ServiceBeacon.Url.Punycode

namespace ServiceBeacon
namespace Url
namespace DomainName

/-!
# Domain names

Names that are compared as equal have one ASCII form.  A name is folded and
composed as a whole, then taken label by label: a label outside ASCII becomes
`xn--` and its Punycode; a label that comes with `xn--` must be what writing
its reading gives.  Empty labels, hyphens anywhere, underscores and any length
are fine.  Characters that have a meaning in URLs are refused, also if they
came from folding or from an escape.
-/

/-- ASCII characters that no domain name may have. -/
def isForbidden (c : Char) : Bool :=
  c.toNat ≤ 0x20 || c.toNat == 0x7F || "%#/:<>?@[\\]^\x60\x7b|\x7d".toList.contains c

/-- Characters outside ASCII that no domain name may have although they show
or join others: layout hints, the zero-width non-joiner and replacement signs. -/
def isExcluded (c : Char) : Bool :=
  c.toNat == 0x1806 || c.toNat == 0x200C || (0x2FF0 ≤ c.toNat && c.toNat ≤ 0x2FFF) ||
    c.toNat == 0x31EF || c.toNat == 0xFFFC || c.toNat == 0xFFFD

/-- Whether a character may occur in a folded label. -/
def isPermitted (c : Char) : Bool :=
  c.toNat < 0x80 ||
    ((Text.isVisible c || Text.isMark c) && !isExcluded c && Text.foldCharacter c == [c])

/-- Whether a folded label outside ASCII is well formed: permitted characters,
composed, and no mark at the start. -/
def isLabel (label : List Char) : Bool :=
  label.all isPermitted && Text.composed label == label && !label.head?.any Text.isMark

/-- The text in front of the Punycode of a label. -/
def marker : List Char := "xn--".toList

def isAscii (text : List Char) : Bool := text.all (·.toNat < 0x80)

/-- The ASCII form of a folded label. -/
def asciiLabel? (label : List Char) : Option (List Char) :=
  if isAscii label then
    if marker.isPrefixOf label then do
      let decoded ← Punycode.decode? (label.drop marker.length)
      if !isAscii decoded && isLabel decoded &&
          marker ++ Punycode.encode decoded == label then some label else none
    else some label
  else if isLabel label && !marker.isPrefixOf label then some (marker ++ Punycode.encode label)
  else none

/-- The ASCII form of a domain name. -/
def ascii? (name : List Char) : Option (List Char) := do
  let folded := Text.composed (name.flatMap Text.foldCharacter)
  let labels ← (Text.split (· == '.') folded).mapM asciiLabel?
  let result := Text.join '.' labels
  if result.any isForbidden then none else some result

end DomainName
end Url
end ServiceBeacon
