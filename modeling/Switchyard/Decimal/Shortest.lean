/-!
# Shortest decimal text of a binary number

A positive decimal is brought to the nearest number of fifty-three binary digits, and a binary
number to the shortest decimal that comes back to it, the nearest one of those. All arithmetic is
exact, on natural numbers.
-/

namespace Switchyard.Decimal

/-- The number `digits · 10 ^ exponent`. -/
structure Scientific where
  digits : Nat
  exponent : Int
  deriving Repr, DecidableEq

/-- The number `mantissa · 2 ^ exponent`. -/
structure Binary where
  mantissa : Nat
  exponent : Int
  deriving Repr, DecidableEq

/-- The quotient rounded to the nearest whole number, a tie to the even one. -/
def roundDiv (num den : Nat) : Nat :=
  let quotient := num / den
  let twice := 2 * (num % den)
  if twice < den ∨ (twice = den ∧ quotient % 2 = 0) then quotient else quotient + 1

/-- The fraction `num / den · base ^ exponent` as numerator and denominator. -/
def scaled (num den base : Nat) (exponent : Int) : Nat × Nat :=
  if 0 ≤ exponent then (num * base.pow exponent.toNat, den)
  else (num, den * base.pow (-exponent).toNat)

/-- The least exponent of a double-precision number. -/
def leastExponent : Int := -1074

/-- The greatest exponent of a double-precision number with fifty-three binary digits. -/
def greatestExponent : Int := 971

/-- The least whole number of fifty-three binary digits. -/
def leastMantissa : Nat := 0x10000000000000

/-- The double-precision number nearest to a fraction; `none` when that would be infinite. -/
def nearest? (num den : Nat) : Option Binary :=
  if num = 0 then some ⟨0, leastExponent⟩
  else
    let guess : Int := (Nat.log2 num : Int) - (Nat.log2 den : Int) - 52
    let round := fun (exponent : Int) =>
      let (n, d) := scaled num den 2 (-exponent)
      roundDiv n d
    let exponent := max leastExponent (if round guess < leastMantissa then guess - 1 else guess)
    let mantissa := round exponent
    let (mantissa, exponent) :=
      if mantissa = 2 * leastMantissa then (leastMantissa, exponent + 1) else (mantissa, exponent)
    if greatestExponent < exponent then none else some ⟨mantissa, exponent⟩

/-- The double-precision number nearest to a decimal. -/
def toBinary? (value : Scientific) : Option Binary :=
  let (num, den) := scaled value.digits 1 10 value.exponent
  nearest? num den

namespace Binary

/-- A number of double precision as a fraction. -/
def fraction (value : Binary) : Nat × Nat := scaled value.mantissa 1 2 value.exponent

/-- The rounded product. -/
def mul? (a b : Binary) : Option Binary :=
  nearest? (a.fraction.1 * b.fraction.1) (a.fraction.2 * b.fraction.2)

/-- The rounded quotient. -/
def div? (a b : Binary) : Option Binary :=
  nearest? (a.fraction.1 * b.fraction.2) (a.fraction.2 * b.fraction.1)

/-- The power of ten, rounded. -/
def powTen? (exponent : Nat) : Option Binary := nearest? (Nat.pow 10 exponent) 1

/-- The number divided by a power of ten in steps of at most the greatest power that is finite.
Three steps take every number below two to the sixty-fourth to zero. -/
def divPowTen? : Nat → Binary → Nat → Option Binary
  | 0, _, _ => some ⟨0, leastExponent⟩
  | steps + 1, value, exponent =>
    if exponent ≤ 308 then (powTen? exponent).bind value.div?
    else
      match (powTen? 308).bind value.div? with
      | none => none
      | some value => divPowTen? steps value (exponent - 308)

/-- The decimal brought to double precision by rounding its digits and then the product of them
with the rounded power of ten. -/
def approximate? (value : Scientific) : Option Binary :=
  match nearest? value.digits 1 with
  | none => none
  | some digits =>
    if value.exponent < 0 then divPowTen? 3 digits (-value.exponent).toNat
    else if value.digits = 0 then some digits
    else if value.exponent ≤ 308 then (powTen? value.exponent.toNat).bind digits.mul?
    else none

end Binary

/-- The decimals of `count` digits around a binary number, the nearest one first. -/
def neighbours (value : Binary) (count : Nat) : List Scientific :=
  let (num, den) := value.fraction
  let reaches := fun (power : Int) =>
    let (n, d) := scaled num den 10 (-power)
    decide (d ≤ n)
  let estimate : Int := ((Nat.log2 num : Int) - (Nat.log2 den : Int)) * 30103 / 100000 - 1
  let power : Int :=
    if reaches (estimate + 2) then estimate + 2
    else if reaches (estimate + 1) then estimate + 1
    else estimate
  let exponent : Int := power + 1 - (count : Int)
  let (n, d) := scaled num den 10 (-exponent)
  [roundDiv n d, n / d, n / d + 1].map fun digits => ⟨digits, exponent⟩

/-- The nearest decimal of `count` digits that comes back to the binary number. -/
def withDigits? (value : Binary) (count : Nat) : Option Scientific :=
  (neighbours value count).find? fun decimal => toBinary? decimal = some value

/-- Drops the zeros that a decimal's digits end in. -/
def Scientific.trim : Nat → Scientific → Scientific
  | 0, value => value
  | fuel + 1, value =>
    if value.digits ≠ 0 ∧ value.digits % 10 = 0 then
      Scientific.trim fuel ⟨value.digits / 10, value.exponent + 1⟩
    else value

/-- The shortest decimal that comes back to the binary number. -/
def shortest (value : Binary) : Scientific :=
  match (List.range 17).findSome? fun count => withDigits? value (count + 1) with
  | some decimal => Scientific.trim 17 decimal
  | none => ⟨0, 0⟩

/-- The decimal as text: in full between a millionth and ten to the sixteenth, with a point and at
least one digit after it, and else with one digit before the point and an exponent, which has a sign
either way. -/
def Scientific.render (value : Scientific) : String :=
  if value.digits = 0 then "0.0"
  else
    let digits := (Nat.toDigits 10 value.digits)
    let length : Int := digits.length
    let point := length + value.exponent
    let text :=
      if 0 ≤ value.exponent ∧ point ≤ 16 then
        digits ++ List.replicate value.exponent.toNat '0' ++ ['.', '0']
      else if 0 < point ∧ point ≤ 16 then
        digits.take point.toNat ++ ['.'] ++ digits.drop point.toNat
      else if -5 < point ∧ point ≤ 0 then
        ['0', '.'] ++ List.replicate (-point).toNat '0' ++ digits
      else
        let mantissa :=
          match digits with
          | [] => []
          | [only] => [only]
          | first :: rest => first :: '.' :: rest
        let sign := if 1 < point then ['+'] else []
        mantissa ++ 'e' :: sign ++ (toString (point - 1)).toList
    String.ofList text

/-- The text of a number of double precision. -/
def Binary.render (negative : Bool) (value : Binary) : String :=
  let text := if value.mantissa = 0 then "0.0" else (shortest value).render
  if negative then "-" ++ text else text

end Switchyard.Decimal
