import ServiceBeacon.Crypto.Residue
import ServiceBeacon.Crypto.Sha2

namespace ServiceBeacon
namespace Curve

open Residue

/-!
# Public keys of elliptic curves

A public key is a multiple of a curve's base point.  Coordinates are residues
modulo the curve's prime, kept as natural numbers below it.  Points are
projective, so that only the final coordinates need a division.
-/

/-! ## Curves in short form -/

/-- A curve `y² = x³ - 3x + b` with a base point: the prime of the coordinates, the
order of the base point, and how many bytes a coordinate takes. -/
structure Short where
  prime : Nat
  order : Nat
  base : Nat × Nat
  size : Nat

def p256 : Short where
  prime := 0xffffffff00000001000000000000000000000000ffffffffffffffffffffffff
  order := 0xffffffff00000000ffffffffffffffffbce6faada7179e84f3b9cac2fc632551
  base :=
    (0x6b17d1f2e12c4247f8bce6e563a440f277037d812deb33a0f4a13945d898c296,
      0x4fe342e2fe1a7f9b8ee7eb4a7c0f9e162bce33576b315ececbb6406837bf51f5)
  size := 32

def p384 : Short where
  prime :=
    0xfffffffffffffffffffffffffffffffffffffffffffffffffffffffffffffffeffffffff0000000000000000ffffffff
  order :=
    0xffffffffffffffffffffffffffffffffffffffffffffffffc7634d81f4372ddf581a0db248b0a77aecec196accc52973
  base :=
    (0xaa87ca22be8b05378eb1c71ef320ad746e1d3b628ba79b9859f741e082542a385502f25dbf55296c3a545e3872760ab7,
      0x3617de4a96262c6f5d9e98bf9292dc29f8f41dbd289a147ce9da3113b5f0b8c00a60b1ce1d7e819d7a431d7c90ea0e5f)
  size := 48

/-- A point `(x / z², y / z³)`; no point of the plane if `z` is zero. -/
structure ShortPoint where
  (x y z : Nat)

namespace Short

def neutral : ShortPoint := ⟨1, 1, 0⟩

def double (curve : Short) (point : ShortPoint) : ShortPoint :=
  let p := curve.prime
  let zz := point.z * point.z % p
  let slope := 3 * (minus p point.x zz * ((point.x + zz) % p)) % p
  let yy := point.y * point.y % p
  let cross := 4 * (point.x * yy) % p
  let x := minus p (slope * slope) (2 * cross)
  ⟨x, minus p (slope * minus p cross x) (8 * (yy * yy)), 2 * (point.y * point.z) % p⟩

def add (curve : Short) (first second : ShortPoint) : ShortPoint :=
  if first.z = 0 then second
  else if second.z = 0 then first
  else
    let p := curve.prime
    let zz1 := first.z * first.z % p
    let zz2 := second.z * second.z % p
    let u1 := first.x * zz2 % p
    let u2 := second.x * zz1 % p
    let s1 := first.y * (second.z * zz2 % p) % p
    let s2 := second.y * (first.z * zz1 % p) % p
    if u1 = u2 then if s1 = s2 then curve.double first else neutral
    else
      let h := minus p u2 u1
      let r := minus p s2 s1
      let hh := h * h % p
      let hhh := h * hh % p
      let v := u1 * hh % p
      let x := minus p (r * r) (hhh + 2 * v)
      ⟨x, minus p (r * minus p v x) (s1 * hhh), first.z * second.z % p * h % p⟩

def multiple (curve : Short) (point : ShortPoint) (count : Nat) : ShortPoint :=
  if count = 0 then neutral
  else
    let half := curve.multiple (curve.double point) (count / 2)
    if count % 2 = 1 then curve.add half point else half
termination_by count
decreasing_by omega

/-- The public key of a secret number: both coordinates, not compressed. -/
def publicKey (curve : Short) (secret : Nat) : List UInt8 :=
  let point := curve.multiple ⟨curve.base.1, curve.base.2, 1⟩ secret
  let inverted := inverse curve.prime point.z
  let square := inverted * inverted % curve.prime
  0x04 :: Der.fixedBytes curve.size (point.x * square % curve.prime) ++
    Der.fixedBytes curve.size (point.y * (square * inverted % curve.prime) % curve.prime)

end Short

/-! ## The twisted curve of Ed25519 -/

namespace Ed25519

def prime : Nat := Nat.pow 2 255 - 19

/-- The coefficient of the curve `y² - x² = 1 + d x² y²`. -/
def coefficient : Nat :=
  37095705934669439343138083508754565189542113879843219016388785533085940283555

/-- A point `(x / z, y / z)` with the product `t = x y / z`. -/
structure Point where
  (x y z t : Nat)

def neutral : Point := ⟨0, 1, 1, 0⟩

/-- The base point. -/
def base : Point :=
  let x := 15112221349535400772501151409588531511454012693041857206046113283949847762202
  let y := 46316835694926478169428394003475163141307993866256225615783033603165251855960
  ⟨x, y, 1, x * y % prime⟩

def add (first second : Point) : Point :=
  let a := minus prime first.y first.x * minus prime second.y second.x % prime
  let b := (first.y + first.x) * (second.y + second.x) % prime
  let c := 2 * (first.t * second.t % prime * coefficient) % prime
  let d := 2 * (first.z * second.z) % prime
  let e := minus prime b a
  let f := minus prime d c
  let g := (d + c) % prime
  let h := (b + a) % prime
  ⟨e * f % prime, g * h % prime, f * g % prime, e * h % prime⟩

def multiple (point : Point) (count : Nat) : Point :=
  if count = 0 then neutral
  else
    let half := multiple (add point point) (count / 2)
    if count % 2 = 1 then add half point else half
termination_by count
decreasing_by omega

/-- The secret number of a seed: the first half of its hash, least byte first,
with its lowest three bits and its highest bit cleared and the next one set. -/
def secret (seed : List UInt8) : Nat :=
  let number := Der.number ((Sha2.sha512.hash seed).take 32).reverse
  number % Nat.pow 2 254 / 8 * 8 + Nat.pow 2 254

/-- The public key of a seed: the second coordinate, least byte first, with the
parity of the first one as its highest bit. -/
def publicKey (seed : List UInt8) : List UInt8 :=
  let point := multiple base (secret seed)
  let inverted := inverse prime point.z
  let x := point.x * inverted % prime
  let y := point.y * inverted % prime
  (Der.fixedBytes 32 (y + x % 2 * Nat.pow 2 255)).reverse

end Ed25519
end Curve
end ServiceBeacon
