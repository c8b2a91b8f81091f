import Switchyard.Unicode.Derived

/-!
# Character classes

A class is written with ranges, tables and set operations and keeps the form it was written in;
`CharClass.scalars` is the table of the characters that it holds. Case is ignored by taking in, with
each character, all that the rule identifies with it.
-/

namespace Switchyard.Regex

open Unicode

/-- Which characters are the same but for case: the letters of ASCII, or simple case folding. -/
inductive CaseRule where
  | ascii
  | unicode
  deriving Repr, DecidableEq

/-- The rule's word characters. -/
def CaseRule.words : CaseRule → Ranges
  | .ascii => Ranges.ofHex "30-39 41-5A 5F 61-7A"
  | .unicode => Derived.word

/-- The table with every value that the rule identifies with one in it. -/
def CaseRule.close : CaseRule → Ranges → Ranges
  | .ascii, ranges =>
    let lower := ranges.intersection (Ranges.ofHex "61-7A")
    let upper := ranges.intersection (Ranges.ofHex "41-5A")
    Ranges.unionAll [ranges, lower.map fun range => (range.1 - 32, range.2 - 32),
      upper.map fun range => (range.1 + 32, range.2 + 32)]
  | .unicode, ranges => Folding.close ranges

/-- A set of characters, in the form it was written in. -/
inductive CharClass where
  | nothing
  | range (low high : Char)
  | table (ranges : Ranges)
  | complement (inner : CharClass)
  | union (left right : CharClass)
  | intersection (left right : CharClass)
  | difference (left right : CharClass)
  | symmetricDifference (left right : CharClass)
  | caseless (rule : CaseRule) (inner : CharClass)
  | bracket (negated : Bool) (inner : CharClass)
  deriving Repr, DecidableEq

namespace CharClass

/-- The class of one character. -/
def single (c : Char) : CharClass := range c c

/-- The class of every character. -/
def everything : CharClass := complement nothing

/-- Ignores case by the rule, when there is one. -/
def foldBy : Option CaseRule → CharClass → CharClass
  | none, inner => inner
  | some rule, inner => caseless rule inner

/-- How deeply operations and brackets nest. A run of unions side by side counts once. -/
def height : CharClass → Nat
  | nothing | range .. | table .. => 0
  | complement inner | caseless _ inner => inner.height
  | union left right =>
    max (match left with
      | union .. => left.height
      | _ => left.height + 1) (right.height + 1)
  | intersection left right | difference left right | symmetricDifference left right =>
    max left.height right.height + 1
  | bracket _ inner => inner.height + 1

/-- The members of the class, as a table. -/
def members : CharClass → Ranges
  | nothing => []
  | range low high => [(low.toNat, high.toNat)]
  | table ranges => ranges
  | complement inner => inner.members.complement
  | union left right => left.members.union right.members
  | intersection left right => left.members.intersection right.members
  | difference left right => left.members.difference right.members
  | symmetricDifference left right => left.members.symmetricDifference right.members
  | caseless rule inner => rule.close inner.members
  | bracket negated inner => if negated then inner.members.complement else inner.members

/-- The scalar values of the members, in normal form. -/
def scalars (chars : CharClass) : Ranges := chars.members.difference surrogates

/-! ## Classes with a name of their own -/

/-- The table that hexadecimal text writes, as a class. -/
def ofHex (text : String) : CharClass := table (Ranges.ofHex text)

/-- Decimal digits of any script. -/
def digit : CharClass := table Category.decimalNumber

/-- White space of any script. -/
def space : CharClass := table Contributory.whiteSpace

/-- Word characters: alphabetic ones, marks, digits, connectors and joiners. -/
def word : CharClass := table CaseRule.unicode.words

/-- The digits of ASCII. -/
def asciiDigit : CharClass := ofHex "30-39"

/-- The white space of ASCII. -/
def asciiSpace : CharClass := ofHex "9-D 20"

/-- The word characters of ASCII. -/
def asciiWord : CharClass := table CaseRule.ascii.words

/-- The class that `[:name:]` stands for inside brackets. -/
def posix? (name : List Char) : Option CharClass :=
  match String.ofList name with
  | "alnum" => some (ofHex "30-39 41-5A 61-7A")
  | "alpha" => some (ofHex "41-5A 61-7A")
  | "ascii" => some (ofHex "0-7F")
  | "blank" => some (ofHex "9 20")
  | "cntrl" => some (ofHex "0-1F 7F")
  | "digit" => some asciiDigit
  | "graph" => some (ofHex "21-7E")
  | "lower" => some (ofHex "61-7A")
  | "print" => some (ofHex "20-7E")
  | "punct" => some (ofHex "21-2F 3A-40 5B-60 7B-7E")
  | "space" => some asciiSpace
  | "upper" => some (ofHex "41-5A")
  | "word" => some asciiWord
  | "xdigit" => some (ofHex "30-39 41-46 61-66")
  | _ => none

end CharClass

end Switchyard.Regex
