import Switchyard.Unicode.Ranges

/-!
# Scalar values as octets

UTF-8 writes a scalar value as one to four octets: a lead octet, and continuation octets that hold
six bits each. A range of scalar values is written by a few sequences of octet ranges
(`Octets.sequences`), in the order of the values.
-/

namespace Switchyard.Unicode

/-- A sequence of closed ranges of octets: the texts with one octet of each range. -/
abbrev OctetRanges := List (Nat × Nat)

namespace Octets

/-- How many values `count` continuation octets tell apart. -/
def capacity : Nat → Nat
  | 0 => 1
  | count + 1 => 64 * capacity count

/-- A form of encoding: the number that the lead octet counts from, how many continuation octets
follow, and the values written so. -/
structure Shape where
  lead : Nat
  continuations : Nat
  least : Nat
  greatest : Nat

/-- The forms of encoding in the order of their values; those of three octets leave the surrogates
out. -/
def shapes : List Shape := [
  ⟨0, 0, 0, 0x7F⟩,
  ⟨0xC0, 1, 0x80, 0x7FF⟩,
  ⟨0xE0, 2, 0x800, 0xD7FF⟩,
  ⟨0xE0, 2, 0xE000, 0xFFFF⟩,
  ⟨0xF0, 3, 0x10000, 0x10FFFF⟩]

/-- The sequences that write the numbers from `low` to `high` with a first octet that counts from
`lead` and `count` continuation octets after it. A first octet whose continuations are cut short
stands apart; those between share one range. -/
def spans : (count lead low high : Nat) → List OctetRanges
  | 0, lead, low, high => [[(lead + low, lead + high)]]
  | count + 1, lead, low, high =>
    let block := capacity (count + 1)
    let first := low / block
    let last := high / block
    let under := fun (octet low high : Nat) =>
      (spans count 0x80 low high).map ((lead + octet, lead + octet) :: ·)
    if first = last then under first (low % block) (high % block)
    else
      let cutLow := low % block != 0
      let cutHigh := high % block != block - 1
      let next := if cutLow then first + 1 else first
      let stop := if cutHigh then last else last + 1
      (if cutLow then under first (low % block) (block - 1) else []) ++
        (if next < stop then
          [(lead + next, lead + stop - 1) :: List.replicate (count + 1) (0x80, 0xBF)]
        else []) ++
        (if cutHigh then under last 0 (high % block) else [])

/-- The sequences that write the scalar values from `low` to `high`. -/
def sequences (low high : Nat) : List OctetRanges :=
  shapes.flatMap fun shape =>
    let low := Nat.max low shape.least
    let high := Nat.min high shape.greatest
    if low ≤ high then spans shape.continuations shape.lead low high else []

/-- The sequences that write the values of a table. -/
def ofRanges (ranges : Ranges) : List OctetRanges :=
  ranges.flatMap fun range => sequences range.1 range.2

end Octets

end Switchyard.Unicode
