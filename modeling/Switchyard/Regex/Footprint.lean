import Switchyard.Regex.Footprint.Automaton
import Switchyard.Regex.Form
import Switchyard.Text.Utf8

/-!
# The footprint of a pattern

A pattern is carried out by two automata, one that reads forwards and one that reads backwards, and
is refused when either would take more room than there is (`Regex.fits`). The room is worked out on
the reduced form of the pattern: every counted repetition is written out, and the automaton that
reads forwards records what groups take.
-/

namespace Switchyard.Regex

namespace Form

/-- The texts of a choice of two or more literals. -/
def literals? : Form → Option (List (List Char))
  | either (literal text) (literal last) => some [text, last]
  | either (literal text) rest => rest.literals?.map (text :: ·)
  | _ => none

/-- The octets of a text in the order in which they are read. -/
def octets (direction : Direction) (text : List Char) : List UInt8 :=
  match direction with
  | .forward => Text.Utf8.encode text
  | .backward => (Text.Utf8.encode text).reverse

/-- The automaton of a form whose branches have these automata. -/
def layoutOf (direction : Direction) (form : Form) (branches : List Layout) : Layout :=
  match form.literals? with
  | some texts => Layout.ofLiterals (texts.map (octets direction))
  | none => Layout.oneOf branches

/-- A repetition of a form with that automaton. -/
def layoutRepeated (body : Form) (layout : Layout) (min : Nat) (max : Option Nat) : Layout :=
  match min, max with
  | 0, some 1 => layout.optional
  | 0, none => if body.takesText? = some true then layout.loop else layout.anyNumber
  | 1, none => layout.onceOrMore
  | min + 1, none => (layout.times min).andThen layout.onceOrMore
  | min, some max => if min = max then layout.times min else layout.between min max

/-- The automata of the branches of a form, which is the only one when it is no choice. -/
def layouts (direction : Direction) : Form → List Layout
  | empty | look _ => [.plain 1]
  | literal text => [.plain (octets direction text).length]
  | chars members => [.ofRanges direction members]
  | capture _ body =>
    let inner := layoutOf direction body (body.layouts direction)
    [match direction with
      | .forward => inner.captured
      | .backward => inner]
  | repeats min max _ body =>
    [layoutRepeated body (layoutOf direction body (body.layouts direction)) min max]
  | both first rest =>
    let first := layoutOf direction first (first.layouts direction)
    let rest := layoutOf direction rest (rest.layouts direction)
    [match direction with
      | .forward => first.andThen rest
      | .backward => rest.andThen first]
  | either first rest =>
    layoutOf direction first (first.layouts direction) :: rest.layouts direction

/-- The form is bound to the place where a match in that direction starts. -/
def isAnchored (direction : Direction) (form : Form) : Bool :=
  match direction with
  | .forward => form.opensText
  | .backward => form.closesText

/-- The whole automaton: a loop over any octets in front where a match may start anywhere, the form
as the group that takes the whole match, and the final state. -/
def automaton (direction : Direction) (form : Form) : Layout :=
  let start : Layout :=
    if form.isAnchored direction then .plain 1
    else { lay := Room.take? 3 (branchSize + waySize), forks := true }
  let whole := capture none form
  (start.andThen (layoutOf direction whole (whole.layouts direction))).andThen (.plain 1)

/-- The form's automaton in that direction stays within the room there is. -/
def fits (direction : Direction) (form : Form) : Bool :=
  ((form.automaton direction).lay {}).isSome

end Form

/-- The pattern's automata stay within the room there is. -/
def fits (pattern : Regex) : Bool :=
  let form := Form.ofRegex pattern
  form.fits .forward && form.fits .backward

end Switchyard.Regex
