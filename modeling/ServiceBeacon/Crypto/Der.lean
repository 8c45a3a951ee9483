namespace ServiceBeacon
namespace Der

/-!
# Distinguished encoding

Certificates and keys are nested elements: a tag, a length and a content.  A
length is written in as few bytes as possible, so every element has one
encoding, and encodings can be compared as bytes.
-/

/-- An element: its tag and its content. -/
structure Element where
  tag : UInt8
  content : List UInt8
deriving DecidableEq, Repr

def integerTag : UInt8 := 0x02

def bitStringTag : UInt8 := 0x03

def octetStringTag : UInt8 := 0x04

def nullTag : UInt8 := 0x05

def objectIdTag : UInt8 := 0x06

def booleanTag : UInt8 := 0x01

def sequenceTag : UInt8 := 0x30

def taggedTag (number : Nat) : UInt8 := UInt8.ofNat (0xA0 + number)

/-- The number whose digits in base 256 are bytes. -/
def number (bytes : List UInt8) : Nat := bytes.foldl (fun total byte => total * 256 + byte.toNat) 0

/-- The digits of a number in base 256, none for zero. -/
def bytesOf (value : Nat) : List UInt8 :=
  if value = 0 then [] else bytesOf (value / 256) ++ [UInt8.ofNat value]
termination_by value
decreasing_by omega

/-- A given count of the last digits of a number in base 256. -/
def fixedBytes : Nat → Nat → List UInt8
  | 0, _ => []
  | count + 1, value => fixedBytes count (value / 256) ++ [UInt8.ofNat value]

/-! ## Writing -/

/-- The bytes of a length. -/
def lengthBytes (length : Nat) : List UInt8 :=
  if length < 0x80 then [UInt8.ofNat length]
  else UInt8.ofNat (0x80 + (bytesOf length).length) :: bytesOf length

/-- The bytes of an element. -/
def encode (tag : UInt8) (content : List UInt8) : List UInt8 :=
  tag :: lengthBytes content.length ++ content

/-- The content of a positive integer given by its digits in base 256: no zero
in front, unless the first bit would read as a sign. -/
def positiveContent (bytes : List UInt8) : List UInt8 :=
  match bytes.dropWhile (· == 0) with
  | [] => [0]
  | first :: rest => if 0x80 ≤ first then 0 :: first :: rest else first :: rest

/-- The element of a natural number. -/
def natural (value : Nat) : List UInt8 := encode integerTag (positiveContent (bytesOf value))

/-- The element of a bit string of whole bytes. -/
def bitString (content : List UInt8) : List UInt8 := encode bitStringTag (0 :: content)

/-- The element of a sequence of elements. -/
def sequence (items : List (List UInt8)) : List UInt8 := encode sequenceTag items.flatten

/-! ## Reading -/

/-- The numbers that the content of an object identifier spells: seven bits a
byte, the highest bit set on all but the last byte of a number. -/
def objectIdNumbers (content : List UInt8) : List Nat :=
  let step (state : List Nat × Nat) (byte : UInt8) : List Nat × Nat :=
    let number := state.2 * 128 + byte.toNat % 128
    if byte < 0x80 then (state.1 ++ [number], 0) else (state.1, number)
  match (content.foldl step ([], 0)).1 with
  | [] => []
  | first :: rest => min 2 (first / 40) :: (first - 40 * min 2 (first / 40)) :: rest

/-- The text of an object identifier. -/
def objectIdText (content : List UInt8) : String :=
  String.intercalate "." ((objectIdNumbers content).map toString)

/-- A length at the head of a text, with what follows. -/
def length? : List UInt8 → Option (Nat × List UInt8)
  | [] => none
  | first :: rest =>
    if first < 0x80 then some (first.toNat, rest)
    else
      let count := first.toNat - 0x80
      let digits := rest.take count
      let length := number digits
      if count = 0 ∨ 3 < count ∨ digits.length < count ∨
          lengthBytes length ≠ first :: digits then none
      else some (length, rest.drop count)

/-- The element at the head of a text, with what follows. -/
def next? : List UInt8 → Option (Element × List UInt8)
  | [] => none
  | tag :: rest => do
    let (length, rest) ← length? rest
    if tag.toNat % 32 = 31 ∨ rest.length < length then none
    else some (⟨tag, rest.take length⟩, rest.drop length)

/-- The content of the element at the head of a text, if it has a tag. -/
def expect? (tag : UInt8) (text : List UInt8) : Option (List UInt8 × List UInt8) := do
  let (element, rest) ← next? text
  if element.tag = tag then some (element.content, rest) else none

/-- The content of the element that is the whole text, if it has a tag. -/
def whole? (tag : UInt8) (text : List UInt8) : Option (List UInt8) :=
  match expect? tag text with
  | some (content, []) => some content
  | _ => none

/-- The positive integer at the head of a text. -/
def positive? (text : List UInt8) : Option (Nat × List UInt8) := do
  let (content, rest) ← expect? integerTag text
  if content = positiveContent content ∧ number content ≠ 0 then some (number content, rest)
  else none

/-- What follows a small integer with a given value. -/
def afterSmall? (value : UInt8) (text : List UInt8) : Option (List UInt8) :=
  match expect? integerTag text with
  | some ([byte], rest) => if byte = value then some rest else none
  | _ => none

/-- The whole bytes of the bit string at the head of a text. -/
def bits? (tag : UInt8) (text : List UInt8) : Option (List UInt8 × List UInt8) :=
  match expect? tag text with
  | some (0 :: content, rest) => some (content, rest)
  | _ => none

end Der
end ServiceBeacon
