namespace ServiceBeacon
namespace Url

/-!
# Why a text is no URL

The causes are told apart because callers print them.
-/

/-- What is wrong with a text that should be a URL, or with a URL that should carry
a path.  Without a scheme there is nothing the text could be relative to, a bad IPv4
address is a host that ends in a number, and a bad host character is one in a host
that need not be a domain name. -/
inductive Fault where
  | noScheme
  | emptyHost
  | badPort
  | badIpv4
  | badIpv6
  | badDomainName
  | badHostCharacter
  | noHierarchy
deriving DecidableEq, Repr

def Fault.message : Fault → String
  | noScheme => "relative URL without a base"
  | emptyHost => "empty host"
  | badPort => "invalid port number"
  | badIpv4 => "invalid IPv4 address"
  | badIpv6 => "invalid IPv6 address"
  | badDomainName => "invalid international domain name"
  | badHostCharacter => "invalid domain character"
  | noHierarchy => "relative URL with a cannot-be-a-base base"

end Url
end ServiceBeacon
