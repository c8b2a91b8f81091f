/-!
# Splitting text

Text is split at every separator (`pieces`) or at the first one (`cut`). Splitting at every
separator loses nothing but the separators and never gives an empty list: the text without any
separator is its own single piece.
-/

namespace Switchyard.Text

/-- The text between separators, in order; `k` separators give `k + 1` pieces. -/
def pieces (isSeparator : Char → Bool) : List Char → List (List Char)
  | [] => [[]]
  | c :: rest =>
    if isSeparator c then
      [] :: pieces isSeparator rest
    else
      match pieces isSeparator rest with
      | [] => [[c]]
      | piece :: more => (c :: piece) :: more

/-- The text before the first separator, and the text after it when there is one. -/
def cut (separator : Char) : List Char → List Char × Option (List Char)
  | [] => ([], none)
  | c :: rest =>
    if c = separator then
      ([], some rest)
    else
      let (before, after) := cut separator rest
      (c :: before, after)

/-- The maximal runs without a space or a line break. -/
def words (text : List Char) : List (List Char) :=
  (pieces (fun c => c = ' ' || c = '\n') text).filter (· ≠ [])

/-- `some` of what follows `start` when the text starts with it. -/
def stripStart? : List Char → List Char → Option (List Char)
  | [], text => some text
  | _ :: _, [] => none
  | s :: start, c :: text => if s = c then stripStart? start text else none

/-- The text without the characters `isTail` holds of at its end. -/
def trimEnd (isTail : Char → Bool) (text : List Char) : List Char :=
  (text.reverse.dropWhile isTail).reverse

/-- The pieces with the separator text put between them. -/
def join (separator : List Char) : List (List Char) → List Char
  | [] => []
  | [piece] => piece
  | piece :: more => piece ++ separator ++ join separator more

end Switchyard.Text
