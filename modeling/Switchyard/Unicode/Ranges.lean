import Switchyard.Text.Split

/-!
# Ranges of scalar values

A table of characters is a list of closed ranges in increasing order, written as hexadecimal
text: `41-5A 5F` holds the capital letters and the low line. `Ranges.contains` is membership. The
set operations give tables in normal form again: in increasing order, and with a gap between any two
ranges.
-/

namespace Switchyard.Unicode

/-- Closed ranges of scalar values, in increasing order and apart. -/
abbrev Ranges := List (Nat × Nat)

/-- The value of a hexadecimal digit, of either case. -/
def hexValue? (c : Char) : Option Nat :=
  if '0' ≤ c ∧ c ≤ '9' then some (c.toNat - '0'.toNat)
  else if 'a' ≤ c ∧ c ≤ 'f' then some (c.toNat - 'a'.toNat + 10)
  else if 'A' ≤ c ∧ c ≤ 'F' then some (c.toNat - 'A'.toNat + 10)
  else none

/-- The number that hexadecimal digits write; other characters count as nothing. -/
def hexNumber (digits : List Char) : Nat :=
  digits.foldl (fun value c => value * 16 + (hexValue? c).getD 0) 0

/-- The words of a text, each a group of hexadecimal numbers joined by `joint`. -/
def hexGroups (joint : Char) (text : String) : List (List Nat) :=
  (Text.words text.toList).map fun word => (Text.pieces (· = joint) word).map hexNumber

/-- Reads ranges written `LOW-HIGH`, or `VALUE` for a range of one. -/
def Ranges.ofHex (text : String) : Ranges :=
  (hexGroups '-' text).filterMap fun group =>
    match group with
    | [value] => some (value, value)
    | [low, high] => some (low, high)
    | _ => none

/-- The value lies in one of the ranges; the search ends at the first range above it. -/
def Ranges.contains : Ranges → Nat → Bool
  | [], _ => false
  | (low, high) :: rest, value =>
    if value < low then false else value ≤ high || Ranges.contains rest value

/-- The table holds the character. -/
def Ranges.holds (ranges : Ranges) (c : Char) : Bool := ranges.contains c.toNat

/-! ## Set operations -/

/-- The range from `low` to `high` and the ranges after it, which start no lower: those that overlap
or touch become one. -/
def Ranges.joinOnto (low high : Nat) : Ranges → Ranges
  | [] => [(low, high)]
  | (nextLow, nextHigh) :: rest =>
    if nextLow ≤ high + 1 then joinOnto low (Nat.max high nextHigh) rest
    else (low, high) :: joinOnto nextLow nextHigh rest

/-- The normal form of ranges in any order. -/
def Ranges.normal (ranges : Ranges) : Ranges :=
  match ranges.mergeSort fun left right => left.1 ≤ right.1 with
  | [] => []
  | (low, high) :: rest => joinOnto low high rest

/-- The values of either table. -/
def Ranges.union (left right : Ranges) : Ranges := Ranges.normal (left ++ right)

/-- The values of any table in the list. -/
def Ranges.unionAll (tables : List Ranges) : Ranges := Ranges.normal tables.flatten

/-- The greatest scalar value. -/
def greatestScalar : Nat := 0x10FFFF

/-- The values from `next` up that lie in none of the ranges, which are in increasing order. -/
def Ranges.gaps (next : Nat) : Ranges → Ranges
  | [] => if next ≤ greatestScalar then [(next, greatestScalar)] else []
  | (low, high) :: rest =>
    if next < low then (next, low - 1) :: gaps (high + 1) rest
    else gaps (Nat.max next (high + 1)) rest

/-- The values in none of the ranges. -/
def Ranges.complement (ranges : Ranges) : Ranges := Ranges.gaps 0 ranges

/-- The values of the first table that are not in the second. -/
def Ranges.difference (left right : Ranges) : Ranges :=
  Ranges.complement (Ranges.union (Ranges.complement left) right)

/-- The values in both tables. -/
def Ranges.intersection (left right : Ranges) : Ranges :=
  left.difference (Ranges.complement right)

/-- The values in one of the tables and not in the other. -/
def Ranges.symmetricDifference (left right : Ranges) : Ranges :=
  (left.difference right).union (right.difference left)

/-- The values that no character has: they pair up to write characters in units of 16 bits. -/
def surrogates : Ranges := [(0xD800, 0xDFFF)]

end Switchyard.Unicode
