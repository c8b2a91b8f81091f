import Switchyard.Unicode.Unseen

/-!
# Quoted text

A text between quotes in which every character can be told from every other: quotes, backslashes
and the common controls are escaped by a letter, and by their number the characters that leave no
mark of their own, which are blanks other than the space, marks that join another character, and
characters without an image.
-/

namespace Switchyard.Text.Quoted

/-- A character as it stands between quotes. -/
def escapeChar (c : Char) : List Char :=
  if c = '"' then ['\\', '"']
  else if c = '\\' then ['\\', '\\']
  else if c = '\n' then ['\\', 'n']
  else if c = '\r' then ['\\', 'r']
  else if c = '\t' then ['\\', 't']
  else if c = '\x00' then ['\\', '0']
  else if Unicode.unseen.contains c.toNat then
    ['\\', 'u', '\x7b'] ++ Nat.toDigits 16 c.toNat ++ ['\x7d']
  else [c]

/-- A text between quotes. -/
def encode (text : List Char) : List Char := '"' :: text.flatMap escapeChar ++ ['"']

end Switchyard.Text.Quoted
