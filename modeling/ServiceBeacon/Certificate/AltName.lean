import ServiceBeacon.Address.Parser
import ServiceBeacon.Address.Printer

namespace ServiceBeacon

/-!
# Subject alternative names

A certificate is valid for the loopback names, its common name and whatever
else is configured.  A configured text is an address if it spells one and a
DNS name otherwise; duplicates are judged by what a text means, so two
spellings of one address are one name.
-/

/-- A name that a certificate is valid for. -/
inductive AltName where
  | dns (name : String)
  | ip (address : Address)
deriving DecidableEq, Repr

namespace AltName

/-- What a configured text means. -/
def parse (text : String) : AltName :=
  match Address.parse? text.toList with
  | some address => .ip address
  | none => .dns text

def text : AltName → String
  | dns name => "DNS:" ++ name
  | ip address => "IP:" ++ toString address

/-- A list with one more name, unless it is there. -/
def addNew (names : List AltName) (name : AltName) : List AltName :=
  if name ∈ names then names else names ++ [name]

/-- The names without repetitions, in the order of their first occurrence. -/
def distinct (names : List AltName) : List AltName := names.foldl addNew []

/-- The names of a certificate: the loopback names around the common name,
which is never read as an address, and then the configured ones. -/
def ofCertificate (commonName : String) (extras : List String) : List AltName :=
  distinct (.dns "localhost" :: .dns commonName :: .ip (.v4 Ipv4.loopback) :: extras.map parse)

end AltName
end ServiceBeacon
