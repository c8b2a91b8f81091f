import Switchyard.Decimal.Shortest
import Switchyard.Json.Value
import Switchyard.Unicode.Ranges

/-!
# Reading JSON

A reader takes a value off the front of a text and gives the rest of the text back; where the text
breaks there is no rest. `Value.read` reads a whole text and tells whether anything but blanks
follows the value.
-/

namespace Switchyard.Json

/-- The blanks of JSON. -/
def isBlank (c : Char) : Bool := c = ' ' || c = '\n' || c = '\t' || c = '\r'

/-- The text from its first character that is no blank. -/
def skipBlanks (text : List Char) : List Char := text.dropWhile isBlank

/-- The number that four hexadecimal digits write, and the text after them. -/
def hexFour? : List Char → Option (Nat × List Char)
  | a :: b :: c :: d :: rest =>
    match Unicode.hexValue? a, Unicode.hexValue? b, Unicode.hexValue? c, Unicode.hexValue? d with
    | some a, some b, some c, some d => some (((a * 16 + b) * 16 + c) * 16 + d, rest)
    | _, _, _, _ => none
  | _ => none

/-- The character that the digits after `\u` write. A high surrogate wants a low one after it,
escaped the same way; a low one alone is refused. -/
def readUnicode? (text : List Char) : Option (Char × List Char) :=
  match hexFour? text with
  | none => none
  | some (unit, rest) =>
    if unit < 0xD800 ∨ 0xDFFF < unit then some (Char.ofNat unit, rest)
    else if 0xDC00 ≤ unit then none
    else
      match rest with
      | '\\' :: 'u' :: rest =>
        match hexFour? rest with
        | none => none
        | some (low, rest) =>
          if 0xDC00 ≤ low ∧ low ≤ 0xDFFF then
            some (Char.ofNat (0x10000 + (unit - 0xD800) * 0x400 + (low - 0xDC00)), rest)
          else none
      | _ => none

/-- What one character after a backslash stands for, `u` apart. -/
def escaped? : Char → Option Char
  | '"' => some '"'
  | '\\' => some '\\'
  | '/' => some '/'
  | 'b' => some '\x08'
  | 'f' => some '\x0c'
  | 'n' => some '\n'
  | 'r' => some '\r'
  | 't' => some '\t'
  | _ => none

/-- The characters of a string up to its closing quote, and the text after it. -/
def readString? : Nat → List Char → Option (List Char × List Char)
  | 0, _ => none
  | fuel + 1, text =>
    match text with
    | [] => none
    | '"' :: rest => some ([], rest)
    | '\\' :: 'u' :: rest =>
      match readUnicode? rest with
      | none => none
      | some (c, rest) => (readString? fuel rest).map fun pair => (c :: pair.1, pair.2)
    | '\\' :: e :: rest =>
      match escaped? e with
      | none => none
      | some c => (readString? fuel rest).map fun pair => (c :: pair.1, pair.2)
    | c :: rest =>
      if c.toNat < 0x20 ∨ c = '\\' then none
      else (readString? fuel rest).map fun pair => (c :: pair.1, pair.2)

/-- The digits at the front of a text, and the rest. -/
def digits (text : List Char) : List Char × List Char := text.span Char.isDigit

/-- The number that decimal digits write. -/
def number (digits : List Char) : Nat :=
  digits.foldl (fun value c => value * 10 + (c.toNat - '0'.toNat)) 0

/-- The exponent at the front of a text: no text, or an `e` with digits after it. -/
def readExponent? : List Char → Option (Option Int × List Char)
  | c :: rest =>
    if c = 'e' ∨ c = 'E' then
      let (negative, rest) :=
        match rest with
        | '+' :: rest => (false, rest)
        | '-' :: rest => (true, rest)
        | rest => (false, rest)
      match digits rest with
      | ([], _) => none
      | (ds, rest) =>
        let value : Int := number ds
        some (some (if negative then -value else value), rest)
    else some (none, c :: rest)
  | [] => some (none, [])

/-- The fraction at the front of a text: no text, or a point with digits after it. -/
def readFraction? : List Char → Option (List Char × List Char)
  | '.' :: rest =>
    match digits rest with
    | ([], _) => none
    | (ds, rest) => some (ds, rest)
  | rest => some ([], rest)

/-- The greatest number, by sign, that is kept as an integer. -/
def greatestInteger (negative : Bool) : Nat :=
  if negative then 9223372036854775808 else 18446744073709551615

/-- The digits put after those of a number while the number stays below two to the sixty-fourth,
and how many digits that leaves out. -/
def append (value : Nat) : List Char → Nat × Nat
  | [] => (value, 0)
  | c :: rest =>
    let next := value * 10 + (c.toNat - '0'.toNat)
    if next ≤ greatestInteger false then append next rest else (value, rest.length + 1)

/-- An integer of these digits. Negative zero is a float, and so is a number out of range. -/
def integerValue (negative : Bool) (digits : List Char) : Option Value :=
  match append 0 digits with
  | (value, 0) =>
    if greatestInteger negative < value ∨ (negative ∧ value = 0) then
      (Decimal.nearest? value 1).map fun binary => .float (binary.render negative)
    else some (.integer (String.ofList (if negative then '-' :: digits else digits)))
  | (value, dropped) =>
    (Decimal.Binary.approximate? ⟨value, dropped⟩).map fun binary => .float (binary.render negative)

/-- A number with a fraction or an exponent. -/
def floatValue (negative : Bool) (whole fraction : List Char) (exponent : Int) : Option Value :=
  let (value, dropped) := append 0 whole
  let (value, ignored) := append value fraction
  let taken : Nat := fraction.length - ignored
  (Decimal.Binary.approximate? ⟨value, exponent + dropped - taken⟩).map fun binary =>
    .float (binary.render negative)

/-- A number. Its whole part has no needless zero in front; a fraction or an exponent makes it a
float, and one too large for a float is no number. -/
def readNumber (negative : Bool) (text : List Char) : Value × Option (List Char) :=
  let (whole, rest) := digits text
  let sound :=
    match whole with
    | [] => false
    | '0' :: _ :: _ => false
    | _ => true
  if !sound then (.broken, none)
  else
    match readFraction? rest with
    | none => (.broken, none)
    | some (fraction, rest) =>
      match readExponent? rest with
      | none => (.broken, none)
      | some (exponent, rest) =>
        let value :=
          if fraction = [] ∧ exponent = none then integerValue negative whole
          else floatValue negative whole fraction (exponent.getD 0)
        match value with
        | some value => (value, some rest)
        | none => (.broken, none)

/-- A word that must stand at the front of a text. -/
def readWord (word : List Char) (value : Value) : List Char → Value × Option (List Char)
  | text =>
    match word, text with
    | [], rest => (value, some rest)
    | w :: word, c :: rest => if w = c then readWord word value rest else (.broken, none)
    | _ :: _, [] => (.broken, none)

mutual

/-- A value at the front of a text. -/
def readValue : Nat → List Char → Value × Option (List Char)
  | 0, _ => (.broken, none)
  | fuel + 1, text =>
    match skipBlanks text with
    | [] => (.broken, none)
    | c :: rest =>
      if c = 'n' then readWord ['u', 'l', 'l'] .null rest
      else if c = 't' then readWord ['r', 'u', 'e'] (.boolean true) rest
      else if c = 'f' then readWord ['a', 'l', 's', 'e'] (.boolean false) rest
      else if c = '-' then readNumber true rest
      else if c.isDigit then readNumber false (c :: rest)
      else if c = '"' then
        match readString? (rest.length + 1) rest with
        | some (characters, rest) => (.string (String.ofList characters), some rest)
        | none => (.broken, none)
      else if c = '[' then
        match skipBlanks rest with
        | ']' :: rest => (.array [] true, some rest)
        | rest =>
          let (items, after) := readItems fuel rest
          (.array items after.isSome, after)
      else if c = '\x7b' then
        match skipBlanks rest with
        | '\x7d' :: rest => (.object [] true, some rest)
        | rest =>
          let (members, after) := readMembers fuel rest
          (.object members after.isSome, after)
      else (.broken, none)

/-- The items of an array, at least one, and the text after the closing bracket. -/
def readItems : Nat → List Char → List Value × Option (List Char)
  | 0, _ => ([], none)
  | fuel + 1, text =>
    match readValue fuel text with
    | (item, none) => ([item], none)
    | (item, some rest) =>
      match skipBlanks rest with
      | ']' :: rest => ([item], some rest)
      | ',' :: rest =>
        match skipBlanks rest with
        | ']' :: _ => ([item], none)
        | [] => ([item], none)
        | rest =>
          let (items, after) := readItems fuel rest
          (item :: items, after)
      | _ => ([item], none)

/-- The members of an object, at least one, and the text after the closing brace. -/
def readMembers : Nat → List Char → List (String × Value) × Option (List Char)
  | 0, _ => ([], none)
  | fuel + 1, text =>
    match skipBlanks text with
    | '"' :: rest =>
      match readString? (rest.length + 1) rest with
      | none => ([], none)
      | some (key, rest) =>
        let key := String.ofList key
        match skipBlanks rest with
        | ':' :: rest =>
          match readValue fuel rest with
          | (value, none) => ([(key, value)], none)
          | (value, some rest) =>
            match skipBlanks rest with
            | '\x7d' :: rest => ([(key, value)], some rest)
            | ',' :: rest =>
              let (members, after) := readMembers fuel rest
              ((key, value) :: members, after)
            | _ => ([(key, value)], none)
        | _ => ([(key, .broken)], none)
    | _ => ([], none)

end

/-- The value of a whole text, and whether the text is nothing but that value. -/
def Value.read (text : List Char) : Value × Bool :=
  match readValue (2 * text.length + 2) text with
  | (value, some rest) => (value, skipBlanks rest = [])
  | (value, none) => (value, false)

end Switchyard.Json
