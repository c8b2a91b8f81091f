import Switchyard.Regex.Token
import Switchyard.Regex.Footprint

/-!
# From tokens to a pattern

Tokens are put together with the groups that are still open kept on a stack. Each group ends the
modes that were set inside it. `Regex.parse` reads a whole text; it also refuses a name given to
two groups and nesting past `nestLimit`. `Regex.compile?` is what the rest of the library uses: a
pattern that does not take too much room (`Regex.fits`), or nothing.
-/

namespace Switchyard.Regex

/-- A group whose closing bracket has not come: what it is for, the modes outside it, and what stood
before it. -/
structure OpenGroup where
  grouping : Grouping
  outside : Modes
  branches : Option Regex
  items : List Regex

/-- A pattern in the making: the modes in force, the finished branches and the items of the
branch being read, newest first, and the groups still open, innermost first. -/
structure Assembly where
  modes : Modes := {}
  branches : Option Regex := none
  items : List Regex := []
  enclosing : List OpenGroup := []

namespace Assembly

/-- The branches so far with the one being read as the last. -/
def choice (assembly : Assembly) : Regex :=
  let last := sequence assembly.items.reverse
  match assembly.branches with
  | none => last
  | some branches => .alt branches last

/-- The assembly after one more token. A quantifier takes the newest item; a mode directive
leaves the empty pattern as an item, which cannot be repeated. -/
def accept (assembly : Assembly) : Token → Except ParseError Assembly
  | .atom pattern => .ok { assembly with items := pattern :: assembly.items }
  | .directive modes => .ok { assembly with modes, items := .empty :: assembly.items }
  | .bar => .ok { assembly with branches := some assembly.choice, items := [] }
  | .opening grouping inside =>
    .ok {
      modes := inside
      branches := none
      items := []
      enclosing := ⟨grouping, assembly.modes, assembly.branches, assembly.items⟩ ::
        assembly.enclosing }
  | .closing =>
    match assembly.enclosing with
    | [] => .error .groupUnopened
    | outer :: enclosing =>
      .ok {
        modes := outer.outside
        branches := outer.branches
        items := .group outer.grouping assembly.choice :: outer.items
        enclosing }
  | .quantifier min max greedy =>
    match assembly.items with
    | [] | .empty :: _ => .error .nothingToRepeat
    | item :: items => .ok { assembly with items := .repeats min max greedy item :: items }

/-- Puts the tokens of a text together until it ends. Each token takes at least one character, so
the length of the text and one more is fuel enough. -/
def run : Nat → Assembly → List Char → Except ParseError Assembly
  | 0, _, _ => .error .tooLarge
  | fuel + 1, assembly, text => do
    match ← Token.read? assembly.modes text with
    | none => .ok assembly
    | some (token, rest) => run fuel (← assembly.accept token) rest

end Assembly

/-- How deeply a pattern may nest. -/
def nestLimit : Nat := 250

/-- Reads a whole text as a pattern. -/
def parse (text : List Char) : Except ParseError Regex := do
  let assembly ← Assembly.run (text.length + 1) {} text
  match assembly.enclosing with
  | _ :: _ => .error .groupUnclosed
  | [] =>
    let pattern := assembly.choice
    if ¬ pattern.groupNames.Nodup then .error .groupNameRepeated
    else if nestLimit < pattern.height then .error .tooDeep
    else .ok pattern

/-- The pattern that a text writes, when there is one and it does not take too much room. -/
def compile? (text : List Char) : Option Regex :=
  match parse text with
  | .ok pattern => if pattern.fits then some pattern else none
  | .error _ => none

end Switchyard.Regex
