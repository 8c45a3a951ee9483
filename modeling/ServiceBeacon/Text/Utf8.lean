namespace ServiceBeacon
namespace Text
namespace Utf8

/-!
# UTF-8

Bytes become text in two ways.  Reading a configuration file is strict: one
malformed sequence refuses the whole file.  Query strings and reply bodies
are read leniently: each maximal malformed part becomes one U+FFFD, so a
truncated three-byte sequence is one replacement and not two.

Both readings share `next`, which looks at the head of a byte text once.
-/

/-- What a lead byte promises: the number of continuation bytes, the range of
the first of them, and the bits the lead byte contributes.  The narrowed
ranges exclude overlong forms, surrogates and values past U+10FFFF. -/
def lead (byte : UInt8) : Option (Nat × UInt8 × UInt8 × Nat) :=
  if 0xC2 ≤ byte && byte ≤ 0xDF then some (1, 0x80, 0xBF, byte.toNat - 0xC0)
  else if byte == 0xE0 then some (2, 0xA0, 0xBF, 0)
  else if byte == 0xED then some (2, 0x80, 0x9F, 13)
  else if 0xE1 ≤ byte && byte ≤ 0xEF then some (2, 0x80, 0xBF, byte.toNat - 0xE0)
  else if byte == 0xF0 then some (3, 0x90, 0xBF, 0)
  else if 0xF1 ≤ byte && byte ≤ 0xF3 then some (3, 0x80, 0xBF, byte.toNat - 0xF0)
  else if byte == 0xF4 then some (3, 0x80, 0x8F, 4)
  else none

/-- Reads the promised continuation bytes.  A byte outside the range ends the
malformed part before it, so that byte is looked at again. -/
def continuation : Nat → UInt8 → UInt8 → Nat → List UInt8 → Option Char × List UInt8
  | 0, _, _, bits, rest => (some (Char.ofNat bits), rest)
  | _ + 1, _, _, _, [] => (none, [])
  | count + 1, low, high, bits, byte :: rest =>
    if low ≤ byte && byte ≤ high then
      continuation count 0x80 0xBF (bits * 64 + (byte.toNat - 0x80)) rest
    else (none, byte :: rest)

/-- The character at the head of a byte text, or `none` for a malformed part,
with what follows it. -/
def next (byte : UInt8) (rest : List UInt8) : Option Char × List UInt8 :=
  if byte < 0x80 then (some (Char.ofNat byte.toNat), rest)
  else match lead byte with
    | some (count, low, high, bits) => continuation count low high bits rest
    | none => (none, rest)

theorem length_continuation_le (count : Nat) (low high : UInt8) (bits : Nat) (bytes : List UInt8) :
    (continuation count low high bits bytes).2.length ≤ bytes.length := by
  induction bytes generalizing count low high bits with
  | nil => cases count <;> simp [continuation]
  | cons byte rest inductionHypothesis =>
    cases count with
    | zero => simp [continuation]
    | succ count =>
      simp only [continuation]
      split
      · exact Nat.le_succ_of_le (inductionHypothesis ..)
      · simp

theorem length_next_le (byte : UInt8) (rest : List UInt8) :
    (next byte rest).2.length ≤ rest.length := by
  unfold next
  split
  · simp
  · split
    · exact length_continuation_le ..
    · simp

/-- Reads bytes leniently: U+FFFD stands for each maximal malformed part. -/
def decodeLossy : List UInt8 → List Char
  | [] => []
  | byte :: rest =>
    ((next byte rest).1.getD '\uFFFD') :: decodeLossy (next byte rest).2
termination_by bytes => bytes.length
decreasing_by
  have := length_next_le byte rest
  simp only [List.length_cons]
  omega

/-- Reads bytes strictly: `none` if any part is malformed. -/
def decode? : List UInt8 → Option (List Char)
  | [] => some []
  | byte :: rest =>
    match (next byte rest).1 with
    | none => none
    | some c => (decode? (next byte rest).2).map (c :: ·)
termination_by bytes => bytes.length
decreasing_by
  have := length_next_le byte rest
  simp only [List.length_cons]
  omega

def encode (text : List Char) : List UInt8 :=
  text.flatMap String.utf8EncodeChar

def size (text : List Char) : Nat :=
  text.foldl (fun total c => total + c.utf8Size) 0

/-- The text of bytes, malformed parts replaced. -/
def textLossy (bytes : List UInt8) : String :=
  String.ofList (decodeLossy bytes)

def ofString (text : String) : List UInt8 :=
  encode text.toList

end Utf8
end Text
end ServiceBeacon
