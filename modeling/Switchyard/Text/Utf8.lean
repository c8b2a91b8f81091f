/-!
# UTF-8

Characters as bytes and back. Reading is total: bytes that begin no character are replaced
(`decodeLossy`), one replacement character for each longest run that could still have become one.
`decode?` refuses such bytes instead.
-/

namespace Switchyard.Text.Utf8

/-- The bytes of a character. -/
def encodeChar (c : Char) : List UInt8 := String.utf8EncodeChar c

/-- The bytes of a text. -/
def encode (text : List Char) : List UInt8 := text.flatMap encodeChar

/-- The character put in place of bytes that are none. -/
def replacement : Char := '\uFFFD'

/-- A byte that goes on a character begun before. -/
def isTail (byte : UInt8) : Bool := 0x80 ≤ byte && byte ≤ 0xBF

/-- What a first byte announces: its own bits, the range of the second byte, and how many bytes
follow. The narrow ranges keep out overlong forms, surrogates and values past the last character. -/
structure Lead where
  bits : Nat
  low : UInt8
  high : UInt8
  tails : Nat

/-- The announcement of a byte that begins a character of more than one byte. -/
def lead? (byte : UInt8) : Option Lead :=
  if 0xC2 ≤ byte && byte ≤ 0xDF then some ⟨byte.toNat - 0xC0, 0x80, 0xBF, 1⟩
  else if byte == 0xE0 then some ⟨0, 0xA0, 0xBF, 2⟩
  else if byte == 0xED then some ⟨0xD, 0x80, 0x9F, 2⟩
  else if 0xE1 ≤ byte && byte ≤ 0xEF then some ⟨byte.toNat - 0xE0, 0x80, 0xBF, 2⟩
  else if byte == 0xF0 then some ⟨0, 0x90, 0xBF, 3⟩
  else if 0xF1 ≤ byte && byte ≤ 0xF3 then some ⟨byte.toNat - 0xF0, 0x80, 0xBF, 3⟩
  else if byte == 0xF4 then some ⟨4, 0x80, 0x8F, 3⟩
  else none

/-- The value of `count` more tail bytes after `value`; `none` at the first byte that is no tail.
The bytes left are those not taken up, in either case. -/
def readTails : Nat → Nat → List UInt8 → Option Nat × List UInt8
  | 0, value, bytes => (some value, bytes)
  | _ + 1, _, [] => (none, [])
  | count + 1, value, byte :: rest =>
    if isTail byte then readTails count (value * 64 + (byte.toNat - 0x80)) rest
    else (none, byte :: rest)

/-- The character that the bytes begin with, `none` for a run that is no character, and the bytes
after it. -/
def readScalar (byte : UInt8) (rest : List UInt8) : Option Char × List UInt8 :=
  if byte < 0x80 then (some (Char.ofNat byte.toNat), rest)
  else
    match lead? byte, rest with
    | some lead, second :: more =>
      if lead.low ≤ second && second ≤ lead.high then
        let (value, after) :=
          readTails (lead.tails - 1) (lead.bits * 64 + (second.toNat - 0x80)) more
        (value.map Char.ofNat, after)
      else (none, second :: more)
    | _, rest => (none, rest)

theorem length_readTails_le (count value : Nat) (bytes : List UInt8) :
    (readTails count value bytes).2.length ≤ bytes.length := by
  induction count, value, bytes using readTails.induct with
  | case1 value bytes => simp [readTails]
  | case2 => simp [readTails]
  | case3 count value byte rest h ih =>
    simp only [readTails, h, if_true, List.length_cons]
    exact Nat.le_succ_of_le ih
  | case4 count value byte rest h => simp [readTails, h]

/-- Reading a character never gives back more bytes than it was given. -/
theorem length_readScalar_le (byte : UInt8) (rest : List UInt8) :
    (readScalar byte rest).2.length ≤ rest.length := by
  unfold readScalar
  split
  · exact Nat.le_refl _
  · split
    · split
      · exact Nat.le_succ_of_le (length_readTails_le ..)
      · exact Nat.le_refl _
    · exact Nat.le_refl _

/-- The text that bytes write, with the replacement character where they write none. -/
def decodeLossy : List UInt8 → List Char
  | [] => []
  | byte :: rest =>
    ((readScalar byte rest).1.getD replacement) :: decodeLossy (readScalar byte rest).2
  termination_by bytes => bytes.length
  decreasing_by
    have := length_readScalar_le byte rest
    simp only [List.length_cons]
    omega

/-- The text that bytes write, when every byte is part of a character. -/
def decode? : List UInt8 → Option (List Char)
  | [] => some []
  | byte :: rest =>
    match (readScalar byte rest).1 with
    | none => none
    | some c => (decode? (readScalar byte rest).2).map (c :: ·)
  termination_by bytes => bytes.length
  decreasing_by
    have := length_readScalar_le byte rest
    simp only [List.length_cons]
    omega

end Switchyard.Text.Utf8
