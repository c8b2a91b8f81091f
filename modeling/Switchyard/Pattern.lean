import Switchyard.Names.Keyed
import Switchyard.Percent
import Switchyard.Regex.Machine
import Switchyard.Regex.Parser
import Switchyard.Segment

/-!
# The pattern of a route

The segments of a route and its constraints are written as one regular expression over the whole
path (`Pattern.source`): every segment gives one unit, a literal in its escaped form, a placeholder
as a group around its constraint. Groups are named by position, since a placeholder's name may
start with a digit. Constraints stand in the source as they are; a source that is no regular
expression, or a name bound twice, leaves the pattern without a program, and it matches nothing.

On its own a constraint is checked against a whole value (`Constraint.allows`).
-/

namespace Switchyard

/-- What the pattern of a route is made of. -/
structure Pattern where
  segments : List Segment
  constraints : Params
  deriving Repr, DecidableEq

namespace Pattern

/-- What a required placeholder takes when nothing constrains it. -/
def requiredValue : List Char := "[^/]+".toList

/-- What an optional placeholder takes when nothing constrains it. -/
def optionalValue : List Char := "[^/]*".toList

/-- The name of the group at a position. -/
def groupName (index : Nat) : List Char := 'p' :: Nat.toDigits 10 index

/-- The group of a placeholder: its constraint, or `free` when it has none. -/
def groupSource (constraints : Params) (index : Nat) (name : String) (free : List Char) :
    List Char :=
  "(?P<".toList ++ groupName index ++ ['>'] ++
    ((constraints.get? name).map String.toList).getD free ++ [')']

/-- The unit of one segment; `index` counts the placeholders before it. -/
def unitSource (constraints : Params) (index : Nat) : Segment → List Char
  | .literal text => '/' :: Regex.quote (Percent.encodeChars text.toList)
  | .optionalLiteral text =>
    "/?(?:".toList ++ Regex.quote (Percent.encodeChars text.toList) ++ ")?".toList
  | .placeholder name => '/' :: groupSource constraints index name requiredValue
  | .optionalPlaceholder name => '/' :: '?' :: groupSource constraints index name optionalValue

/-- The units of the segments, one after the other. -/
def unitsSource (constraints : Params) : Nat → List Segment → List Char
  | _, [] => []
  | index, segment :: rest =>
    unitSource constraints index segment ++
      unitsSource constraints (if segment.name?.isSome then index + 1 else index) rest

/-- The regular expression of the pattern, over its characters. -/
def sourceChars (pattern : Pattern) : List Char :=
  "\\A".toList ++ unitsSource pattern.constraints 0 pattern.segments ++ "\\z".toList

/-- The regular expression of the pattern, as text. -/
def source (pattern : Pattern) : String := String.ofList pattern.sourceChars

/-- The names that the pattern binds, in order. -/
def names (pattern : Pattern) : List String := pattern.segments.filterMap Segment.name?

/-- The first name of a list that stands in it before. -/
def firstRepeated? (seen : List String) : List String → Option String
  | [] => none
  | name :: rest => if name ∈ seen then some name else firstRepeated? (name :: seen) rest

/-- The first name that the pattern binds a second time. -/
def duplicate? (pattern : Pattern) : Option String := firstRepeated? [] pattern.names

/-- What the pattern is matched with, when it binds no name twice and its source compiles. -/
def program? (pattern : Pattern) : Option Regex :=
  match pattern.duplicate? with
  | some _ => none
  | none => Regex.compile? pattern.sourceChars

/-- The names with what their groups took in a match, where that is not empty. -/
def bindings (found : Regex.Path) : Nat → List String → List (String × List Char)
  | _, [] => []
  | index, name :: rest =>
    match found.captured? (groupName index) with
    | none | some [] => bindings found (index + 1) rest
    | some value => (name, value) :: bindings found (index + 1) rest

/-- What the pattern takes from a path, by the names it binds; `none` when it does not match. -/
def captures? (pattern : Pattern) (program : Regex) (path : List Char) :
    Option (List (String × List Char)) :=
  (program.search? path).map fun found => bindings found 0 pattern.names

end Pattern

namespace Constraint

/-- The regular expression that holds a whole value to a constraint. -/
def sourceChars (constraint : String) : List Char :=
  "\\A(?:".toList ++ constraint.toList ++ ")\\z".toList

/-- What a value is held to, when the constraint compiles on its own. -/
def program? (constraint : String) : Option Regex := Regex.compile? (sourceChars constraint)

/-- A whole value satisfies the constraint; one that does not compile is satisfied by none. -/
def admits (constraint : String) (value : List Char) : Bool :=
  (program? constraint).any fun program => program.matchesIn value

/-- A value may stand for the parameter: nothing constrains it, or the constraint admits it. -/
def allows (constraints : Params) (name : String) (value : List Char) : Bool :=
  (constraints.get? name).all fun constraint => admits constraint value

end Constraint

end Switchyard
