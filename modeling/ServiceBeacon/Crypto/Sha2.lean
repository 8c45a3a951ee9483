import ServiceBeacon.Crypto.Der

namespace ServiceBeacon
namespace Sha2

/-!
# SHA-2

The text is filled up to whole blocks of sixteen words, and each block is
mixed into a state of eight words over as many rounds as there are constants.
SHA-256 and SHA-512 differ in the width of the words, in the constants and in
how far words are turned, and in nothing else, so a family says just that.
-/

/-- The eight words that are mixed. -/
structure Words (width : Nat) where
  (a b c d e f g h : BitVec width)

/-- Three distances by which a word is turned or shifted. -/
structure Turns where
  (first second third : Nat)

/-- What distinguishes one hash function from another: the constants of the rounds,
the state before the first block, and the turns of the words of a state and of the
schedule, where the last turn is a shift. -/
structure Family (width : Nat) where
  constants : List (BitVec width)
  initial : Words width
  majorityTurns : Turns
  choiceTurns : Turns
  earlyTurns : Turns
  lateTurns : Turns

def sha256 : Family 32 where
  constants :=
    [0x428a2f98, 0x71374491, 0xb5c0fbcf, 0xe9b5dba5, 0x3956c25b, 0x59f111f1,
      0x923f82a4, 0xab1c5ed5, 0xd807aa98, 0x12835b01, 0x243185be, 0x550c7dc3,
      0x72be5d74, 0x80deb1fe, 0x9bdc06a7, 0xc19bf174, 0xe49b69c1, 0xefbe4786,
      0x0fc19dc6, 0x240ca1cc, 0x2de92c6f, 0x4a7484aa, 0x5cb0a9dc, 0x76f988da,
      0x983e5152, 0xa831c66d, 0xb00327c8, 0xbf597fc7, 0xc6e00bf3, 0xd5a79147,
      0x06ca6351, 0x14292967, 0x27b70a85, 0x2e1b2138, 0x4d2c6dfc, 0x53380d13,
      0x650a7354, 0x766a0abb, 0x81c2c92e, 0x92722c85, 0xa2bfe8a1, 0xa81a664b,
      0xc24b8b70, 0xc76c51a3, 0xd192e819, 0xd6990624, 0xf40e3585, 0x106aa070,
      0x19a4c116, 0x1e376c08, 0x2748774c, 0x34b0bcb5, 0x391c0cb3, 0x4ed8aa4a,
      0x5b9cca4f, 0x682e6ff3, 0x748f82ee, 0x78a5636f, 0x84c87814, 0x8cc70208,
      0x90befffa, 0xa4506ceb, 0xbef9a3f7, 0xc67178f2]
  initial :=
    ⟨0x6a09e667, 0xbb67ae85, 0x3c6ef372, 0xa54ff53a, 0x510e527f, 0x9b05688c, 0x1f83d9ab,
      0x5be0cd19⟩
  majorityTurns := ⟨2, 13, 22⟩
  choiceTurns := ⟨6, 11, 25⟩
  earlyTurns := ⟨7, 18, 3⟩
  lateTurns := ⟨17, 19, 10⟩

def sha512 : Family 64 where
  constants :=
    [0x428a2f98d728ae22, 0x7137449123ef65cd, 0xb5c0fbcfec4d3b2f, 0xe9b5dba58189dbbc,
      0x3956c25bf348b538, 0x59f111f1b605d019, 0x923f82a4af194f9b, 0xab1c5ed5da6d8118,
      0xd807aa98a3030242, 0x12835b0145706fbe, 0x243185be4ee4b28c, 0x550c7dc3d5ffb4e2,
      0x72be5d74f27b896f, 0x80deb1fe3b1696b1, 0x9bdc06a725c71235, 0xc19bf174cf692694,
      0xe49b69c19ef14ad2, 0xefbe4786384f25e3, 0x0fc19dc68b8cd5b5, 0x240ca1cc77ac9c65,
      0x2de92c6f592b0275, 0x4a7484aa6ea6e483, 0x5cb0a9dcbd41fbd4, 0x76f988da831153b5,
      0x983e5152ee66dfab, 0xa831c66d2db43210, 0xb00327c898fb213f, 0xbf597fc7beef0ee4,
      0xc6e00bf33da88fc2, 0xd5a79147930aa725, 0x06ca6351e003826f, 0x142929670a0e6e70,
      0x27b70a8546d22ffc, 0x2e1b21385c26c926, 0x4d2c6dfc5ac42aed, 0x53380d139d95b3df,
      0x650a73548baf63de, 0x766a0abb3c77b2a8, 0x81c2c92e47edaee6, 0x92722c851482353b,
      0xa2bfe8a14cf10364, 0xa81a664bbc423001, 0xc24b8b70d0f89791, 0xc76c51a30654be30,
      0xd192e819d6ef5218, 0xd69906245565a910, 0xf40e35855771202a, 0x106aa07032bbd1b8,
      0x19a4c116b8d2d0c8, 0x1e376c085141ab53, 0x2748774cdf8eeb99, 0x34b0bcb5e19b48a8,
      0x391c0cb3c5c95a63, 0x4ed8aa4ae3418acb, 0x5b9cca4f7763e373, 0x682e6ff3d6b2b8a3,
      0x748f82ee5defb2fc, 0x78a5636f43172f60, 0x84c87814a1f0ab72, 0x8cc702081a6439ec,
      0x90befffa23631e28, 0xa4506cebde82bde9, 0xbef9a3f7b2c67915, 0xc67178f2e372532b,
      0xca273eceea26619c, 0xd186b8c721c0c207, 0xeada7dd6cde0eb1e, 0xf57d4f7fee6ed178,
      0x06f067aa72176fba, 0x0a637dc5a2c898a6, 0x113f9804bef90dae, 0x1b710b35131c471b,
      0x28db77f523047d84, 0x32caab7b40c72493, 0x3c9ebe0a15c9bebc, 0x431d67c49c100d4c,
      0x4cc5d4becb3e42b6, 0x597f299cfc657e2a, 0x5fcb6fab3ad6faec, 0x6c44198c4a475817]
  initial :=
    ⟨0x6a09e667f3bcc908, 0xbb67ae8584caa73b, 0x3c6ef372fe94f82b, 0xa54ff53a5f1d36f1,
      0x510e527fade682d1, 0x9b05688c2b3e6c1f, 0x1f83d9abfb41bd6b, 0x5be0cd19137e2179⟩
  majorityTurns := ⟨28, 34, 39⟩
  choiceTurns := ⟨14, 18, 41⟩
  earlyTurns := ⟨1, 8, 7⟩
  lateTurns := ⟨19, 61, 6⟩

variable {width : Nat}

/-- Mixes a word with itself under three turns. -/
def Turns.around (turns : Turns) (word : BitVec width) : BitVec width :=
  word.rotateRight turns.first ^^^ word.rotateRight turns.second ^^^ word.rotateRight turns.third

/-- Mixes a word with itself under two turns and a shift. -/
def Turns.across (turns : Turns) (word : BitVec width) : BitVec width :=
  word.rotateRight turns.first ^^^ word.rotateRight turns.second ^^^ (word >>> turns.third)

def Words.add (first second : Words width) : Words width :=
  ⟨first.a + second.a, first.b + second.b, first.c + second.c, first.d + second.d,
    first.e + second.e, first.f + second.f, first.g + second.g, first.h + second.h⟩

def Words.toList (words : Words width) : List (BitVec width) :=
  [words.a, words.b, words.c, words.d, words.e, words.f, words.g, words.h]

namespace Family

/-- One round with its constant and its word. -/
def round (family : Family width) (s : Words width) (input : BitVec width × BitVec width) :
    Words width :=
  let choice := (s.e &&& s.f) ^^^ ((~~~s.e) &&& s.g)
  let majority := (s.a &&& s.b) ^^^ (s.a &&& s.c) ^^^ (s.b &&& s.c)
  let first := s.h + family.choiceTurns.around s.e + choice + input.1 + input.2
  let second := family.majorityTurns.around s.a + majority
  ⟨first + second, s.a, s.b, s.c, s.d + first, s.e, s.f, s.g⟩

/-- Puts words in front of the sixteen words of a block, the newest first. -/
def schedule (family : Family width) : Nat → List (BitVec width) → List (BitVec width)
  | 0, words => words
  | count + 1, words =>
    let word (back : Nat) : BitVec width := words[back - 1]?.getD 0
    let mixed :=
      family.earlyTurns.across (word 15) + word 16 + family.lateTurns.across (word 2) + word 7
    family.schedule count (mixed :: words)

/-- Mixes one block into a state. -/
def block (family : Family width) (state : Words width) (words : List (BitVec width)) :
    Words width :=
  let scheduled := (family.schedule (family.constants.length - 16) words.reverse).reverse
  state.add ((family.constants.zip scheduled).foldl family.round state)

def blocks (family : Family width) (state : Words width) (words : List (BitVec width)) :
    Words width :=
  if words.length < 16 then state
  else family.blocks (family.block state (words.take 16)) (words.drop 16)
termination_by words.length
decreasing_by
  simp only [List.length_drop]
  omega

end Family

/-- The words of bytes; bytes that fill no word are dropped. -/
def wordsOf (width : Nat) (bytes : List UInt8) : List (BitVec width) :=
  if bytes.length < width / 8 ∨ width < 8 then []
  else
    BitVec.ofNat width (Der.number (bytes.take (width / 8))) ::
      wordsOf width (bytes.drop (width / 8))
termination_by bytes.length
decreasing_by
  simp only [List.length_drop]
  omega

/-- A text filled up to whole blocks: a one bit, zeros, and the length in bits,
which takes two words. -/
def padded (width : Nat) (text : List UInt8) : List UInt8 :=
  let size := 2 * width
  let tail := width / 4
  text ++ 0x80 :: List.replicate ((2 * size - 1 - tail - text.length % size) % size) 0 ++
    Der.fixedBytes tail (text.length * 8)

/-- The bytes of the hash of a text. -/
def Family.hash (family : Family width) (text : List UInt8) : List UInt8 :=
  (family.blocks family.initial (wordsOf width (padded width text))).toList.flatMap fun word =>
    Der.fixedBytes (width / 8) word.toNat

end Sha2
end ServiceBeacon
