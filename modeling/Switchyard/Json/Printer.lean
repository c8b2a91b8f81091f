import Switchyard.Json.Value
import Switchyard.Percent

/-!
# Printing JSON

Values are printed with two more blanks for each level, one item or member a line, and nothing
between the brackets of an empty one. In strings only quotes, backslashes and controls are
escaped.
-/

namespace Switchyard.Json

/-- The lower-case hexadecimal digit of a number below sixteen. -/
def lowerHexDigit (value : Nat) : Char := (Percent.hexDigit value).toLower

/-- A character as it stands in a string. -/
def escapeChar (c : Char) : List Char :=
  if c = '"' then ['\\', '"']
  else if c = '\\' then ['\\', '\\']
  else if c = '\x08' then ['\\', 'b']
  else if c = '\x0c' then ['\\', 'f']
  else if c = '\n' then ['\\', 'n']
  else if c = '\r' then ['\\', 'r']
  else if c = '\t' then ['\\', 't']
  else if c.toNat < 0x20 then
    ['\\', 'u', '0', '0', lowerHexDigit (c.toNat / 16), lowerHexDigit (c.toNat % 16)]
  else [c]

/-- A text as a string with its quotes. -/
def printString (text : String) : List Char :=
  '"' :: text.toList.flatMap escapeChar ++ ['"']

/-- A new line, set in by two blanks for each level. -/
def newLine (level : Nat) : List Char := '\n' :: List.replicate (2 * level) ' '

mutual

/-- A value at a level of nesting. -/
def Value.print (level : Nat) : Value → List Char
  | .null => "null".toList
  | .boolean value => (if value then "true" else "false").toList
  | .integer text | .float text => text.toList
  | .string text => printString text
  | .array [] _ => ['[', ']']
  | .array (item :: items) _ =>
    '[' :: newLine (level + 1) ++ item.print (level + 1) ++ printItems (level + 1) items ++
      newLine level ++ [']']
  | .object [] _ => ['\x7b', '\x7d']
  | .object ((key, value) :: members) _ =>
    '\x7b' :: newLine (level + 1) ++ printString key ++ [':', ' '] ++ value.print (level + 1) ++
      printMembers (level + 1) members ++ newLine level ++ ['\x7d']
  | .broken => []

/-- The items after the first, each after a comma on a line of its own. -/
def printItems (level : Nat) : List Value → List Char
  | [] => []
  | item :: items => ',' :: newLine level ++ item.print level ++ printItems level items

/-- The members after the first, each after a comma on a line of its own. -/
def printMembers (level : Nat) : List (String × Value) → List Char
  | [] => []
  | (key, value) :: members =>
    ',' :: newLine level ++ printString key ++ [':', ' '] ++ value.print level ++
      printMembers level members

end

/-- The text of a value. -/
def Value.text (value : Value) : String := String.ofList (value.print 0)

end Switchyard.Json
