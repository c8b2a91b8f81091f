import Switchyard.Yaml.Scalar
import Switchyard.Yaml.Token

/-!
# Names, tags and directives

The names of anchors are words of ASCII. A tag is an address: a handle with the rest of the address
behind it, or a whole address in angle brackets, in which octets may be written by their number. A
directive has a line of its own; it tells the version of the language or gives a handle its meaning.
-/

namespace Switchyard.Yaml

/-- A character of a word. -/
def isWordChar (c : Char) : Bool := c.isAlphanum || c = '_' || c = '-'

/-- The word at the front of a text, and the marks after it. -/
def readWord (text : List Mark) : List Char × List Mark :=
  let word := text.takeWhile fun mark => isWordChar mark.char
  (word.map Mark.char, text.drop word.length)

/-- The marks after the blanks at the front of a text. -/
def dropBlanks (text : List Mark) : List Mark := text.dropWhile fun mark => isBlank mark.char

/-! ## Anchors -/

/-- The name of an anchor, and the marks after it: blanks, or a sign that no word holds. -/
def readAnchor? (text : List Mark) : Option (String × List Mark) :=
  let (word, rest) := readWord text
  let next := headChar rest
  if word ≠ [] ∧ (isGap next ∨ next ∈ ['?', ':', ',', ']', '\x7d', '%', '@', '\x60']) then
    some (String.ofList word, rest)
  else none

/-! ## Addresses -/

/-- A character that stands for itself in an address. The signs of flows do so only where the
address has an end of its own. -/
def isAddressChar (isEnclosed : Bool) (c : Char) : Bool :=
  isWordChar c || ";/?:@&=+$.!~*\x27()".toList.contains c ||
    (isEnclosed && (c = ',' || c = '[' || c = ']'))

/-- How many octets follow the first one of a character. -/
def followers? (octet : Nat) : Option Nat :=
  if octet < 0x80 then some 0
  else if octet / 0x20 = 0xC0 / 0x20 then some 1
  else if octet / 0x10 = 0xE0 / 0x10 then some 2
  else if octet / 0x08 = 0xF0 / 0x08 then some 3
  else none

/-- How many octets are still to follow after one more, when `due` are to follow before it. -/
def dueAfter? (due octet : Nat) : Option Nat :=
  match due with
  | 0 => followers? octet
  | due + 1 => if octet / 0x40 = 0x80 / 0x40 then some due else none

/-- The octets of an address and the marks after it. An octet that is written by its number begins
a character, and those that go on that character are written so as well. -/
def readAddress? (isEnclosed : Bool) (due : Nat) :
    List Mark → Option (List UInt8 × List Mark)
  | [] => none
  | mark :: rest =>
    if mark.char = '%' then
      match rest with
      | high :: low :: rest =>
        match Unicode.hexValue? high.char, Unicode.hexValue? low.char with
        | some high, some low =>
          match dueAfter? due (high * 16 + low) with
          | some due =>
            (readAddress? isEnclosed due rest).map fun read =>
              ((high * 16 + low).toUInt8 :: read.1, read.2)
          | none => none
        | _, _ => none
      | _ => none
    else if 0 < due then none
    else if isAddressChar isEnclosed mark.char then
      (readAddress? isEnclosed 0 rest).map fun read => (mark.char.toUInt8 :: read.1, read.2)
    else some ([], mark :: rest)

/-- An address of at least one octet. -/
def readSomeAddress? (isEnclosed : Bool) (text : List Mark) : Option (List UInt8 × List Mark) :=
  (readAddress? isEnclosed 0 text).filter fun read => !read.1.isEmpty

/-- An address ends before its first zero octet. -/
def cutAtZero (octets : List UInt8) : List UInt8 := octets.takeWhile (· != 0)

/-! ## Tags -/

/-- The tag after its exclamation mark: an address in angle brackets, a handle that ends with
another exclamation mark and an address behind it, or an address behind the shortest handle. The
exclamation mark alone is a tag in full. -/
def readTag? (text : List Mark) : Option (Shorthand × List Mark) :=
  if headChar text = '<' then
    match readSomeAddress? true text.tail with
    | some (address, rest) =>
      if headChar rest = '>' then some (⟨"", cutAtZero address⟩, rest.tail) else none
    | none => none
  else
    let (word, rest) := readWord text
    if headChar rest = '!' then
      (readSomeAddress? false rest.tail).map fun read =>
        (⟨String.ofList ('!' :: word ++ ['!']), cutAtZero read.1⟩, read.2)
    else
      (readAddress? false 0 rest).map fun read =>
        match cutAtZero (word.map Char.toUInt8 ++ read.1) with
        | [] => (⟨"", ['!'.toUInt8]⟩, read.2)
        | suffix => (⟨"!", suffix⟩, read.2)

/-! ## Directives -/

/-- A number of a version, of one to nine digits. -/
def readVersionNumber? (text : List Mark) : Option (Nat × List Mark) :=
  let digits := text.takeWhile fun mark => mark.char.isDigit
  if 0 < digits.length ∧ digits.length ≤ 9 then
    some (digits.foldl (fun value mark => value * 10 + (mark.char.toNat - '0'.toNat)) 0,
      text.drop digits.length)
  else none

/-- The version of the language: two numbers with a point between them. -/
def readVersion? (text : List Mark) : Option (Token × List Mark) := do
  let (major, rest) ← readVersionNumber? (dropBlanks text)
  if headChar rest = '.' then
    let (minor, rest) ← readVersionNumber? rest.tail
    return (.version major minor, rest)
  else none

/-- A handle and its meaning: one exclamation mark, or a word between two, and an address. -/
def readHandle? (text : List Mark) : Option (Token × List Mark) := do
  let text := dropBlanks text
  if headChar text = '!' then
    let (word, rest) := readWord text.tail
    let (name, rest) ←
      if headChar rest = '!' then some ('!' :: word ++ ['!'], rest.tail)
      else if word = [] then some (['!'], rest)
      else none
    if isBlank (headChar rest) then
      let (meaning, rest) ← readSomeAddress? true (dropBlanks rest)
      if isGap (headChar rest) then
        return (.handle (String.ofList name) (cutAtZero meaning), rest)
      else none
    else none
  else none

/-- A directive after its percent sign, up to the next line. -/
def readDirective? (text : List Mark) : Option (Token × List Mark) := do
  let (name, rest) := readWord text
  if isGap (headChar rest) then
    let (token, rest) ←
      match String.ofList name with
      | "YAML" => readVersion? rest
      | "TAG" => readHandle? rest
      | _ => none
    let rest ← readLineEnd? rest
    return (token, rest)
  else none

end Switchyard.Yaml
