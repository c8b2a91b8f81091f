import Switchyard.Text.Quoted

/-!
# Terms

A term is a value spelled out for a report: a word, a number or a quoted text, something applied to
its arguments, a record with its fields, a list or a map. An application without a name is a
tuple.
-/

namespace Switchyard

/-- A value as it is spelled out. -/
inductive Term where
  | word (spelling : String)
  | number (value : Nat)
  | text (value : String)
  | apply (name : String) (arguments : List Term)
  | record (name : String) (fields : List (String × Term))
  | list (items : List Term)
  | map (entries : List (String × Term))

namespace Term

mutual

/-- The text of a term. -/
def print : Term → List Char
  | .word spelling => spelling.toList
  | .number value => Nat.toDigits 10 value
  | .text value => Text.Quoted.encode value.toList
  | .apply name arguments => name.toList ++ '(' :: printItems arguments ++ [')']
  | .record name fields => name.toList ++ [' ', '\x7b', ' '] ++ printFields fields ++ [' ', '\x7d']
  | .list items => '[' :: printItems items ++ [']']
  | .map entries => '\x7b' :: printEntries entries ++ ['\x7d']

/-- Terms with commas between them. -/
def printItems : List Term → List Char
  | [] => []
  | [term] => term.print
  | term :: next :: rest => term.print ++ [',', ' '] ++ printItems (next :: rest)

/-- The fields of a record with commas between them. -/
def printFields : List (String × Term) → List Char
  | [] => []
  | [(name, term)] => name.toList ++ [':', ' '] ++ term.print
  | (name, term) :: next :: rest =>
    name.toList ++ [':', ' '] ++ term.print ++ [',', ' '] ++ printFields (next :: rest)

/-- The entries of a map with commas between them. -/
def printEntries : List (String × Term) → List Char
  | [] => []
  | [(key, term)] => Text.Quoted.encode key.toList ++ [':', ' '] ++ term.print
  | (key, term) :: next :: rest =>
    Text.Quoted.encode key.toList ++ [':', ' '] ++ term.print ++ [',', ' '] ++
      printEntries (next :: rest)

end

/-- The text of a term. -/
def render (term : Term) : String := String.ofList term.print

/-- Something that may be absent. -/
def ofOption {α : Type} (spell : α → Term) : Option α → Term
  | some value => apply "Some" [spell value]
  | none => word "None"

/-- Something that may have failed. -/
def ofExcept {ε α : Type} (spellError : ε → Term) (spell : α → Term) : Except ε α → Term
  | .ok value => apply "Ok" [spell value]
  | .error cause => apply "Err" [spellError cause]

/-- A pair. -/
def pair (first second : Term) : Term := apply "" [first, second]

end Term

end Switchyard
