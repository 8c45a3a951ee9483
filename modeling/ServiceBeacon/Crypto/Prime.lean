import ServiceBeacon.Crypto.Residue

namespace ServiceBeacon
namespace Prime

/-!
# Numbers that are very likely prime

A number is taken for a prime if no small prime divides it and if no base of a
fixed list shows that it is composite.  A base does so unless some power of it
on the way to the last but one residue is one or the last residue.
-/

/-- The primes that are tried as divisors and then as bases. -/
def small : List Nat :=
  [2, 3, 5, 7, 11, 13, 17, 19, 23, 29, 31, 37, 41, 43, 47, 53, 59, 61, 67, 71, 73, 79, 83, 89, 97]

/-- How often a number can be halved, and what is left; at most so many times. -/
def halvings : Nat → Nat → Nat × Nat
  | 0, number => (0, number)
  | limit + 1, number =>
    if number % 2 = 1 then (0, number)
    else
      let rest := halvings limit (number / 2)
      (rest.1 + 1, rest.2)

/-- Whether the last residue is among a residue and its next squares. -/
def reachesLast (number : Nat) : Nat → Nat → Bool
  | 0, _ => false
  | count + 1, residue =>
    residue == number - 1 || reachesLast number count (residue * residue % number)

/-- Whether a base does not show that an odd number is composite. -/
def passes (number base : Nat) : Bool :=
  let split := halvings number.log2 (number - 1)
  let start := Residue.power number base split.2
  start == 1 || reachesLast number split.1 start

/-- Whether a number is very likely prime. -/
def isLikely (number : Nat) : Bool :=
  small.contains number ||
    (98 < number && small.all (fun prime => number % prime != 0) && small.all (passes number))

end Prime
end ServiceBeacon
