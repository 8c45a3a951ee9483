namespace ServiceBeacon
namespace Url
namespace Punycode

/-!
# Punycode

A domain label outside ASCII is carried as its ASCII characters, a hyphen, and
a series of numbers in base 36 that say where each further character goes.
The numbers have variable length: a digit below a threshold ends its number,
and the threshold adapts to how large the last numbers were.

The reader takes one character at a time, so it is a fold over the label; the
writer visits the distinct characters outside ASCII in ascending order.
-/

/-- The character of a digit: 26 letters, then ten decimal digits. -/
def digit (value : Nat) : Char :=
  if value < 26 then Char.ofNat (0x61 + value) else Char.ofNat (0x30 + (value - 26))

/-- The value of a digit; letters count in either case. -/
def digitValue? (c : Char) : Option Nat :=
  if 'a' ≤ c && c ≤ 'z' then some (c.toNat - 0x61)
  else if 'A' ≤ c && c ≤ 'Z' then some (c.toNat - 0x41)
  else if '0' ≤ c && c ≤ '9' then some (c.toNat - 0x30 + 26)
  else none

/-- The value from which on a digit continues its number, at a position that
counts 36 per digit. -/
def threshold (position bias : Nat) : Nat :=
  if position ≤ bias then 1 else if bias + 26 ≤ position then 26 else position - bias

theorem one_le_threshold (position bias : Nat) : 1 ≤ threshold position bias := by
  unfold threshold
  split
  · exact Nat.le_refl 1
  · split <;> omega

/-- Divides a difference by 35 until it is small; each division adds 36 to the bias. -/
def settle (difference bias : Nat) : Nat :=
  if 455 < difference then settle (difference / 35) (bias + 36)
  else bias + 36 * difference / (difference + 38)
termination_by difference
decreasing_by exact Nat.div_lt_self (by omega) (by omega)

/-- The bias after a number was written or read: `count` characters are placed
by then. -/
def adapt (difference count : Nat) (first : Bool) : Nat :=
  let damped := if first then difference / 700 else difference / 2
  settle (damped + damped / count) 0

/-! ## Writing -/

def digits (bias position value : Nat) : List Char :=
  if value < threshold position bias then [digit value]
  else
    digit (threshold position bias +
        (value - threshold position bias) % (36 - threshold position bias)) ::
      digits bias (position + 36)
        ((value - threshold position bias) / (36 - threshold position bias))
termination_by value
decreasing_by
  have positive := one_le_threshold position bias
  have quotient := Nat.div_le_self (value - threshold position bias)
    (36 - threshold position bias)
  omega

/-- The state of the writer: the digits written, the steps counted since the last
number, the current bias, and how many characters are placed. -/
structure Writer where
  output : List Char
  difference : Nat
  bias : Nat
  placed : Nat

/-- Passes one character of the label while the characters with code point
`current` are placed.  Those below are there already and each count one step. -/
def Writer.pass (basic current : Nat) (writer : Writer) (c : Char) : Writer :=
  if c.toNat < current then { writer with difference := writer.difference + 1 }
  else if c.toNat = current then
    { output := writer.output ++ digits writer.bias 36 writer.difference
      difference := 0
      bias := adapt writer.difference (writer.placed + 1) (writer.placed == basic)
      placed := writer.placed + 1 }
  else writer

/-- Places the characters of each code point of an ascending list; `next` is
the least code point not yet considered. -/
def place (label : List Char) (basic : Nat) : Nat → Writer → List Nat → Writer
  | _, writer, [] => writer
  | next, writer, current :: rest =>
    let reached :=
      { writer with difference := writer.difference + (current - next) * (writer.placed + 1) }
    let passed := label.foldl (Writer.pass basic current) reached
    place label basic (current + 1) { passed with difference := passed.difference + 1 } rest

/-- Inserts a number into an ascending list without repetition. -/
def insertAscending (value : Nat) : List Nat → List Nat
  | [] => [value]
  | head :: rest =>
    if value < head then value :: head :: rest
    else if value = head then head :: rest
    else head :: insertAscending value rest

/-- The ASCII form of a label, without the `xn--` in front. -/
def encode (label : List Char) : List Char :=
  let basic := label.filter fun c => c.toNat < 0x80
  let others := (label.filter fun c => 0x80 ≤ c.toNat).foldl
    (fun ascending c => insertAscending c.toNat ascending) []
  let written := place label basic.length 0x80 ⟨[], 0, 72, basic.length⟩ others
  (if basic.isEmpty then [] else basic ++ ['-']) ++ written.output

/-! ## Reading -/

/-- The state of the reader: the label so far, the code point placed last, the place
of the next character as far as its number is read, the place at which that number
started, the bias, and the weight and the position of the next digit. -/
structure Reader where
  output : List Char
  current : Nat
  index : Nat
  start : Nat
  bias : Nat
  weight : Nat
  position : Nat

/-- Takes one digit.  A number past 32 bits and a value that is no character
refuse the label. -/
def Reader.step? (reader : Reader) (c : Char) : Option Reader := do
  let value ← digitValue? c
  let index := reader.index + value * reader.weight
  if 0xFFFFFFFF < index then none
  else if value < threshold reader.position reader.bias then
    let count := reader.output.length + 1
    let code := reader.current + index / count
    if 0x10FFFF < code || (0xD800 ≤ code && code ≤ 0xDFFF) then none
    else
      let place := index % count
      some
        { output := reader.output.take place ++ Char.ofNat code :: reader.output.drop place
          current := code
          index := place + 1
          start := place + 1
          bias := adapt (index - reader.start) count (reader.start == 0)
          weight := 1
          position := 36 }
  else
    some
      { reader with
        index
        weight := reader.weight * (36 - threshold reader.position reader.bias)
        position := reader.position + 36 }

/-- What stands before the last hyphen, and what stands after it. -/
def splitBasic (text : List Char) : List Char × List Char :=
  let tail := text.reverse.takeWhile (· ≠ '-')
  (text.take (text.length - tail.length - 1), tail.reverse)

/-- The label that an ASCII form, without the `xn--` in front, stands for. -/
def decode? (text : List Char) : Option (List Char) := do
  let (basic, numbers) := splitBasic text
  let reader ← numbers.foldlM Reader.step? ⟨basic, 0x80, 0, 0, 72, 1, 36⟩
  if reader.position = 36 then some reader.output else none

end Punycode
end Url
end ServiceBeacon
