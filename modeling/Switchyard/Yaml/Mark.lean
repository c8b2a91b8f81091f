/-!
# Marked text

The text of a document as a list of marks, each a character with its line and column. All breaks
but the two of Unicode are line feeds by then, and the list ends with the mark of the end of the
text, so a reader can always look at the next mark.
-/

namespace Switchyard.Yaml

/-- A character at its place. -/
structure Mark where
  char : Char
  line : Nat
  column : Nat
  deriving Repr, DecidableEq

/-- The character of the mark at the end. No text holds it. -/
def endOfText : Char := '\x00'

/-- The mark of the order of bytes, which means nothing at the start of a line. -/
def byteOrderMark : Char := '\uFEFF'

/-- The character breaks a line. -/
def isBreak (c : Char) : Bool := c = '\n' || c = '\u2028' || c = '\u2029'

/-- The character is a space or a tab. -/
def isBlank (c : Char) : Bool := c = ' ' || c = '\t'

/-- Nothing is written at the character: it is a blank, a break or the end. -/
def isGap (c : Char) : Bool := isBlank c || isBreak c || c = endOfText

/-- The character may stand in a text. -/
def isAllowed (c : Char) : Bool :=
  let n := c.toNat
  c = '\t' || c = '\n' || c = '\r' || (0x20 ≤ n && n ≤ 0x7E) || n = 0x85 ||
    (0xA0 ≤ n && n ≤ 0xFFFD) || 0x10000 ≤ n

/-- The text with a line feed for each carriage return, next line, and pair of carriage return and
line feed. -/
def joinBreaks : List Char → List Char
  | '\r' :: '\n' :: rest => '\n' :: joinBreaks rest
  | c :: rest => (if c = '\r' ∨ c = '\u0085' then '\n' else c) :: joinBreaks rest
  | [] => []

/-- The marks of a text that goes on at a line and a column. -/
def Mark.place (line column : Nat) : List Char → List Mark
  | [] => [⟨endOfText, line, column⟩]
  | c :: rest =>
    ⟨c, line, column⟩ ::
      if isBreak c then Mark.place (line + 1) 0 rest else Mark.place line (column + 1) rest

/-- The marks of a whole text; `none` when a character may not stand in it. -/
def Mark.ofText? (text : List Char) : Option (List Mark) :=
  if text.all isAllowed then some (Mark.place 0 0 (joinBreaks text)) else none

/-- The character of the first mark. -/
def headChar (text : List Mark) : Char :=
  match text with
  | [] => endOfText
  | mark :: _ => mark.char

/-- The text starts with a line that begins with three times the character and nothing close
after them. -/
def startsDocument (c : Char) : List Mark → Bool
  | a :: b :: d :: rest =>
    a.column = 0 && a.char = c && b.char = c && d.char = c && isGap (headChar rest)
  | _ => false

/-- The text starts with the sign that begins or ends a document. -/
def atDocumentSign (text : List Mark) : Bool := startsDocument '-' text || startsDocument '.' text

end Switchyard.Yaml
