import Switchyard.Text.Utf8
import Switchyard.Unicode.Ranges

/-!
# Percent coding of path segments

A path segment is written so that it neither ends the segment nor the path: reserved characters
and everything outside ASCII are written byte by byte as `%` and two capital hexadecimal digits.
Reading takes digits of either case, leaves a stray `%` alone, and replaces bytes that are no
text. A segment is coded character by character, so the code of a whole is the codes of its parts.
-/

namespace Switchyard.Percent

/-- ASCII characters that are escaped: controls, the space, and what would end, split or escape a
segment. -/
def isReserved (c : Char) : Bool :=
  c.toNat < 0x20 || c.toNat = 0x7F ||
    [' ', '"', '#', '%', '/', '<', '>', '?', '\x60', '\x7b', '\x7d'].contains c

/-- The capital hexadecimal digit of a number below sixteen. -/
def hexDigit (value : Nat) : Char :=
  if value < 10 then Char.ofNat ('0'.toNat + value) else Char.ofNat ('A'.toNat + (value - 10))

/-- A byte as a percent sign and two digits. -/
def escapeByte (byte : UInt8) : List Char :=
  ['%', hexDigit (byte.toNat / 16), hexDigit (byte.toNat % 16)]

/-- The code of one character. -/
def encodeChar (c : Char) : List Char :=
  if c.toNat < 0x80 ∧ isReserved c = false then [c]
  else (Text.Utf8.encodeChar c).flatMap escapeByte

/-- The code of a text, over its characters. -/
def encodeChars (text : List Char) : List Char := text.flatMap encodeChar

/-- The bytes that a code stands for: escapes are resolved, and all else stands for itself. -/
def bytes : List Char → List UInt8
  | [] => []
  | '%' :: high :: low :: rest =>
    match Unicode.hexValue? high, Unicode.hexValue? low with
    | some h, some l => UInt8.ofNat (h * 16 + l) :: bytes rest
    | _, _ => Text.Utf8.encodeChar '%' ++ bytes (high :: low :: rest)
  | c :: rest => Text.Utf8.encodeChar c ++ bytes rest

/-- The text that a code stands for, over its characters. -/
def decodeChars (code : List Char) : List Char := Text.Utf8.decodeLossy (bytes code)

/-- Writes a text as one path segment. -/
def encode (text : String) : String := String.ofList (encodeChars text.toList)

/-- Reads a path segment back. -/
def decode (code : String) : String := String.ofList (decodeChars code.toList)

end Switchyard.Percent
