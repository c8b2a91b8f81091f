import Switchyard.Regex.CharClass

/-!
# Patterns

The pattern language as a tree: characters, assertions about the place between two characters,
sequences, choices, groups and repetitions. The tree is what the text of a pattern stands for once
its modes are resolved; nothing in it depends on the text any more.
-/

namespace Switchyard

/-- Which side of a word's edge an assertion asks for. -/
inductive Regex.WordEdge where
  | boundary
  | inside
  | start
  | stop
  | startHalf
  | stopHalf
  deriving Repr, DecidableEq

/-- An assertion about a place in the text; it takes up no character. -/
inductive Regex.Look where
  | textStart
  | textEnd
  | lineStart (crlf : Bool)
  | lineEnd (crlf : Bool)
  | word (edge : WordEdge) (rule : CaseRule)
  deriving Repr, DecidableEq

/-- What a group is for: it holds a pattern together, or what it takes can be asked for, by its
number alone or by a name as well. -/
inductive Regex.Grouping where
  | plain
  | numbered
  | named (name : List Char)
  deriving Repr, DecidableEq

/-- The name of the group, when it has one. -/
def Regex.Grouping.name? : Grouping → Option (List Char)
  | named name => some name
  | plain | numbered => none

/-- A pattern. A repetition takes its body from `min` up to `max` times, without a bound when
`max` is `none`, and prefers more when it is greedy. -/
inductive Regex where
  | empty
  | set (chars : Regex.CharClass)
  | look (assertion : Regex.Look)
  | cat (first second : Regex)
  | alt (first second : Regex)
  | group (grouping : Regex.Grouping) (body : Regex)
  | repeats (min : Nat) (max : Option Nat) (greedy : Bool) (body : Regex)
  deriving Repr, DecidableEq

namespace Regex

/-- The pattern that takes the patterns of a list one after the other. -/
def sequence : List Regex → Regex
  | [] => empty
  | first :: rest => rest.foldl cat first

/-- How deeply the pattern nests. Items side by side in one sequence, or branches side by side in
one choice, count once. -/
def height : Regex → Nat
  | empty | look _ => 0
  | set chars => chars.height
  | cat first second =>
    max (match first with
      | cat .. => first.height
      | _ => first.height + 1) (second.height + 1)
  | alt first second =>
    max (match first with
      | alt .. => first.height
      | _ => first.height + 1) (second.height + 1)
  | group _ body | repeats _ _ _ body => body.height + 1

/-- The names of the named groups, from left to right. -/
def groupNames : Regex → List (List Char)
  | empty | set _ | look _ => []
  | cat first second | alt first second => first.groupNames ++ second.groupNames
  | group grouping body => grouping.name?.toList ++ body.groupNames
  | repeats _ _ _ body => body.groupNames

/-- The pattern can match nothing but the empty text. -/
def onlyEmpty : Regex → Bool
  | empty | look _ => true
  | set _ => false
  | cat first second | alt first second => first.onlyEmpty && second.onlyEmpty
  | group _ body => body.onlyEmpty
  | repeats _ max _ body => max == some 0 || body.onlyEmpty

/-- The bounds that a repetition is carried out with: a body that only matches the empty text
is taken at most once, since a second time changes nothing. -/
def bounds (min : Nat) (max : Option Nat) (body : Regex) : Nat × Option Nat :=
  if body.onlyEmpty then (Nat.min min 1, some (Nat.min (max.getD 1) 1)) else (min, max)

/-- The characters that mean something in a pattern. -/
def isMeta (c : Char) : Bool :=
  "\\.+*?()|[]\x7b\x7d^$#&-~".toList.contains c

/-- The pattern text that matches exactly the given text: every character that means something
is escaped. -/
def quote (text : List Char) : List Char :=
  text.flatMap fun c => if isMeta c then ['\\', c] else [c]

end Regex

end Switchyard
