namespace ServiceBeacon
namespace Residue

/-!
# Residues

Arithmetic modulo a number on natural numbers below it.
-/

def power (modulus base exponent : Nat) : Nat :=
  if exponent = 0 then 1 % modulus
  else
    let half := power modulus (base * base % modulus) (exponent / 2)
    if exponent % 2 = 1 then half * base % modulus else half
termination_by exponent
decreasing_by omega

def minus (modulus first second : Nat) : Nat := (first + (modulus - second % modulus)) % modulus

/-- Factors whose combination of two numbers is their greatest common divisor. -/
def bezout (first second : Nat) : Int × Int :=
  if second = 0 then (1, 0)
  else
    let factors := bezout second (first % second)
    (factors.2, factors.1 - (first / second : Nat) * factors.2)
termination_by second
decreasing_by exact Nat.mod_lt _ (by omega)

def inverse (modulus value : Nat) : Nat := ((bezout value modulus).1 % (modulus : Int)).toNat

end Residue
end ServiceBeacon
