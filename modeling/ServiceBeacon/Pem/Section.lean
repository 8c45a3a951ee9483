import ServiceBeacon.Pem.Base64
import ServiceBeacon.Text.Quoted
import ServiceBeacon.Text.Utf8

namespace ServiceBeacon
namespace Pem

/-!
# Sections of a PEM text

A section is bytes under a label, written in base64 between a line that begins
it and a line that ends it.  The writer ends every line with a line feed and
puts 64 characters on a line.  The reader takes any text: it skips what stands
outside sections and sections whose label it does not know, and splits lines
at line feeds and carriage returns alike.
-/

/-- Bytes under a label. -/
structure Section where
  label : List UInt8
  content : List UInt8
deriving DecidableEq, Repr

/-- The start of a line that begins a section. -/
def beginMark : List UInt8 := Text.Utf8.ofString "-----BEGIN "

/-- The start of a line that ends a section. -/
def endMark : List UInt8 := Text.Utf8.ofString "-----END "

/-- What follows the label on both lines. -/
def dashes : List UInt8 := Text.Utf8.ofString "-----"

def certificateLabel : List UInt8 := Text.Utf8.ofString "CERTIFICATE"

def privateKeyLabel : List UInt8 := Text.Utf8.ofString "PRIVATE KEY"

def rsaKeyLabel : List UInt8 := Text.Utf8.ofString "RSA PRIVATE KEY"

/-- The label of a bare private key of an elliptic curve. -/
def curveKeyLabel : List UInt8 := Text.Utf8.ofString "EC PRIVATE KEY"

/-- The labels whose sections are read. -/
def knownLabels : List (List UInt8) :=
  [certificateLabel, privateKeyLabel, rsaKeyLabel, curveKeyLabel,
    Text.Utf8.ofString "PUBLIC KEY", Text.Utf8.ofString "X509 CRL",
    Text.Utf8.ofString "CERTIFICATE REQUEST", Text.Utf8.ofString "ECHCONFIG"]

/-! ## Writing -/

/-- A text in lines of at most 64 characters. -/
def wrap (text : List UInt8) : List UInt8 :=
  match text with
  | [] => []
  | byte :: rest =>
    (byte :: rest).take 64 ++ 0x0A :: wrap ((byte :: rest).drop 64)
termination_by text.length
decreasing_by
  simp only [List.length_drop, List.length_cons]
  omega

def Section.encode (item : Section) : List UInt8 :=
  beginMark ++ item.label ++ dashes ++ 0x0A :: wrap (Base64.encode item.content) ++
    endMark ++ item.label ++ dashes ++ [0x0A]

/-! ## Reading -/

/-- What is wrong with a text: it ends inside a section, a line begins a section
without ending in five dashes, or the content of a section is no base64. -/
inductive Fault where
  | missingEnd (label : List UInt8)
  | illegalBegin (line : List UInt8)
  | content (fault : Base64.Fault)
deriving DecidableEq, Repr

/-- Bytes as a list of numbers. -/
def listed (bytes : List UInt8) : String :=
  "[" ++ String.intercalate ", " (bytes.map fun byte => toString byte.toNat) ++ "]"

def Fault.message : Fault → String
  | missingEnd label => "section end " ++ Text.quoted (Text.Utf8.textLossy label) ++ " missing"
  | illegalBegin line => "illegal section start: " ++ listed line
  | content fault => fault.message

def isLineEnd (byte : UInt8) : Bool := byte == 0x0A || byte == 0x0D

/-- The lines of a text, each with the byte that ends it. -/
def lines : List UInt8 → List (List UInt8)
  | [] => []
  | byte :: rest =>
    if isLineEnd byte then [byte] :: lines rest
    else match lines rest with
      | [] => [[byte]]
      | line :: others => (byte :: line) :: others

/-- What follows a text at the head of another. -/
def afterPrefix? (start text : List UInt8) : Option (List UInt8) :=
  if start.isPrefixOf text then some (text.drop start.length) else none

/-- The label on a line, given without the mark at its start.  Behind the
label stand exactly five dashes; blanks and line ends among and behind them do
not count. -/
def labelOf? (line : List UInt8) : Option (List UInt8) :=
  let isTail (byte : UInt8) : Bool := byte == 0x2D || isLineEnd byte || byte == 0x20
  let tail := line.reverse.takeWhile isTail
  if (tail.filter (· == 0x2D)).length = 5 then
    let kept := tail.reverse.takeWhile (· != 0x2D)
    some (line.take (line.length - tail.length) ++ kept)
  else none

/-- A text that is being read: the label of the open section, the characters inside
sections since the last finished one, and the finished sections, the last one first. -/
structure Reader where
  label : Option (List UInt8)
  content : List UInt8
  sections : List Section

/-- Whether a line ends the section of a label. -/
def isEnd (label line : List UInt8) : Bool := (endMark ++ label ++ dashes).isPrefixOf line

/-- Takes one line.  A line that begins a section does so inside another one, too. -/
def Reader.step (reader : Reader) (line : List UInt8) : Except Fault Reader :=
  match afterPrefix? beginMark line with
  | some rest =>
    match labelOf? rest with
    | some label => .ok { reader with label := some label }
    | none => .error (.illegalBegin line)
  | none =>
    match reader.label with
    | none => .ok reader
    | some label =>
      if isEnd label line then
        if knownLabels.contains label then
          match Base64.decode reader.content with
          | .ok content => .ok ⟨none, [], ⟨label, content⟩ :: reader.sections⟩
          | .error fault => .error (.content fault)
        else .ok ⟨none, [], reader.sections⟩
      else .ok { reader with content := reader.content ++ line }

/-- What a text holds up to its first fault: the sections, and the fault. -/
structure Contents where
  sections : List Section
  fault : Option Fault
deriving DecidableEq, Repr

/-- Takes lines one after the other. -/
def Reader.run (reader : Reader) : List (List UInt8) → Contents
  | [] => ⟨reader.sections.reverse, reader.label.map Fault.missingEnd⟩
  | line :: rest =>
    match reader.step line with
    | .ok reader => reader.run rest
    | .error fault => ⟨reader.sections.reverse, some fault⟩

/-- What a text holds. -/
def contents (text : List UInt8) : Contents := Reader.run ⟨none, [], []⟩ (lines text)

def certificates (text : List UInt8) : Except Fault (List (List UInt8)) :=
  let read := contents text
  match read.fault with
  | some fault => .error fault
  | none => .ok ((read.sections.filter (·.label == certificateLabel)).map (·.content))

/-- The first private key of a text, of whichever kind.  What follows it is
not looked at. -/
def privateKey (text : List UInt8) : Except Fault (Option Section) :=
  let read := contents text
  match read.sections.find? fun item =>
      [privateKeyLabel, rsaKeyLabel, curveKeyLabel].contains item.label with
  | some key => .ok (some key)
  | none =>
    match read.fault with
    | some fault => .error fault
    | none => .ok none

end Pem
end ServiceBeacon
