import Switchyard.Regex.Form

/-!
# Matching

Matching is by preference: from a place in the text, `Regex.ends` lists every way for the pattern
to go on, the preferred one first. A choice prefers its first branch, a greedy repetition one more
turn, a lazy one none; a sequence prefers by its first part. A match is the first way from the
earliest place that has one (`Regex.firstPath?`).

A repetition without a bound takes another turn only if that takes up text, and only if it does not
come, before it takes any, to where the turn before it left off (`Spot.leadsPast`): the way would then
go in a circle, and what it comes to is tried from there already. So `(?:a?b??)+` takes one `a` from
`ab` and leaves the `b`: after `a` it is for the same turn to take `b`, which prefers not to. Where the
turns of a pattern can go in circles depends on how the pattern is laid out, and so it is the reduced
form of the pattern that is walked.

This is what matching means. The lists can grow beyond all bounds, so a match is found by other
means (`Regex.search?`).
-/

namespace Switchyard.Regex

/-- A place in a text: the character before it, `none` at the start, and the text after it. -/
structure Cursor where
  before : Option Char
  after : List Char
  deriving Repr, DecidableEq

namespace Cursor

/-- The start of a text. -/
def start (text : List Char) : Cursor := ⟨none, text⟩

/-- The place one character on, when that character is accepted. -/
def step? (accepts : Char → Bool) (cursor : Cursor) : Option Cursor :=
  match cursor.after with
  | [] => none
  | c :: rest => if accepts c then some ⟨some c, rest⟩ else none

/-- The place and every later one. -/
def onward (before : Option Char) : List Char → List Cursor
  | [] => [⟨before, []⟩]
  | c :: rest => ⟨before, c :: rest⟩ :: onward (some c) rest

/-- How much text the place leaves. -/
def left (cursor : Cursor) : Nat := cursor.after.length

end Cursor

/-- The rule's word characters. -/
def CaseRule.isWord (rule : CaseRule) : Char → Bool := rule.words.holds

/-- The edge is there between a word character or none before, and one or none after. -/
def WordEdge.holds : WordEdge → Bool → Bool → Bool
  | .boundary, before, after => before != after
  | .inside, before, after => before == after
  | .start, before, after => !before && after
  | .stop, before, after => before && !after
  | .startHalf, before, _ => !before
  | .stopHalf, _, after => !after

/-- The assertion holds at the place. -/
def Look.holds : Look → Cursor → Bool
  | .textStart, cursor => cursor.before.isNone
  | .textEnd, cursor => cursor.after.isEmpty
  | .lineStart false, cursor => cursor.before.all (· == '\n')
  | .lineEnd false, cursor => cursor.after.head?.all (· == '\n')
  | .lineStart true, cursor =>
    cursor.before.all fun c =>
      c == '\n' || (c == '\r' && cursor.after.head? != some '\n')
  | .lineEnd true, cursor =>
    cursor.after.head?.all fun c =>
      c == '\r' || (c == '\n' && cursor.before != some '\r')
  | .word edge rule, cursor =>
    edge.holds (cursor.before.any rule.isWord) (cursor.after.head?.any rule.isWord)

/-! ## Spots of a form -/

/-- One step from a form down to a part of it: to the sooner or the later part of a sequence, to the
left or the right branch of a choice, or into a loop that comes back to where it is entered. -/
inductive Descent where
  | sooner
  | later
  | left
  | right
  | loop
  deriving Repr, DecidableEq

/-- Where in a form a character is taken: the steps down to there. -/
abbrev Spot := List Descent

/-- A way that leaves the form after the one spot and enters it again for the other, with no character
taken in between, comes by the same point twice: by the end of the sooner part of a sequence, or by the
start of an inner loop. -/
def Spot.leadsPast : Spot → Spot → Bool
  | .sooner :: _, .later :: _ => true
  | .loop :: _, .loop :: _ => true
  | step :: last, step' :: first => step == step' && leadsPast last first
  | _, _ => false

/-! ## Ways on from a place -/

/-- The opening or the closing of a named group, with the text after it. -/
structure Mark where
  name : List Char
  opens : Bool
  after : List Char
  deriving Repr, DecidableEq

/-- What the named groups did on the way, in order. -/
abbrev Path := List Mark

/-- One way for a pattern to go on from a place: where it ends, its path, and the spots where it takes
characters, in order. -/
structure Reach where
  cursor : Cursor
  path : Path := []
  taken : List Spot := []
  deriving Repr, DecidableEq

namespace Reach

/-- The way that goes on from where this one ends. -/
def extend (first second : Reach) : Reach :=
  ⟨second.cursor, first.path ++ second.path, first.taken ++ second.taken⟩

/-- The way as one of a larger form. -/
def within (step : Descent) (reach : Reach) : Reach :=
  { reach with taken := reach.taken.map (step :: ·) }

/-- The way as that of a named group, from where it starts. -/
def marked (name : List Char) (start : Cursor) (reach : Reach) : Reach :=
  { reach with
    path := ⟨name, true, start.after⟩ :: reach.path ++ [⟨name, false, reach.cursor.after⟩] }

/-- The way, whatever the spots. -/
def plain (reach : Reach) : Reach := { reach with taken := [] }

/-- Where the way takes its first character. -/
def firstSpot (reach : Reach) : Spot := reach.taken.headD []

/-- Where the way takes its last character. -/
def lastSpot (reach : Reach) : Spot := reach.taken.getLastD []

end Reach

/-- Every way on from a place, the preferred one first. -/
abbrev Walk := Cursor → List Reach

namespace Walk

/-- Stays where it is. -/
def stay : Walk := fun cursor => [{ cursor := cursor }]

/-- Takes up one character that is accepted. -/
def take (accepts : Char → Bool) : Walk := fun cursor =>
  (cursor.step? accepts).toList.map fun place => ⟨place, [], [[]]⟩

/-- Stays where an assertion holds. -/
def check (assertion : Look) : Walk := fun cursor =>
  if assertion.holds cursor then stay cursor else []

/-- One walk and then the other. -/
def andThen (first second : Walk) : Walk := fun cursor =>
  (first cursor).flatMap fun reach => (second reach.cursor).map reach.extend

/-- Either walk, the first one preferred. -/
def orElse (first second : Walk) : Walk := fun cursor => first cursor ++ second cursor

/-- The walk as that of a part. -/
def within (step : Descent) (walk : Walk) : Walk := fun cursor =>
  (walk cursor).map (Reach.within step)

/-- The walk, whatever the spots. -/
def plain (walk : Walk) : Walk := fun cursor => (walk cursor).map Reach.plain

/-- The walks of the parts of a sequence. -/
def both (first second : Walk) : Walk := (first.within .sooner).andThen (second.within .later)

/-- The walks of the branches of a choice. -/
def either (first second : Walk) : Walk := (first.within .left).orElse (second.within .right)

/-- Takes up a text. -/
def letters : List Char → Walk
  | [] => stay
  | c :: text => (take (· == c)).both (letters text)

/-- The walk, marked as that of a named group. -/
def named (name : List Char) (walk : Walk) : Walk := fun cursor =>
  (walk cursor).map (Reach.marked name cursor)

/-- The walk or none, as greed prefers. -/
def optional (greedy : Bool) (walk : Walk) : Walk :=
  if greedy then walk.orElse stay else stay.orElse walk

/-- The walk taken `count` times. -/
def times (walk : Walk) : Nat → Walk
  | 0 => stay
  | count + 1 => (walk.times count).both walk

/-- The walk taken at most `count` times, one turn inside the other. -/
def upTo (walk : Walk) (greedy : Bool) : Nat → Walk
  | 0 => stay
  | count + 1 => optional greedy (walk.both (walk.upTo greedy count))

/-- Any number of further turns, after one that took its last character at the given spot. -/
def laps (walk : Walk) (greedy : Bool) (last : Spot) (cursor : Cursor) : List Reach :=
  let more := (walk cursor).flatMap fun turn =>
    if turn.cursor.left < cursor.left ∧ last.leadsPast turn.firstSpot = false then
      (laps walk greedy turn.lastSpot turn.cursor).map turn.extend
    else []
  if greedy then more ++ stay cursor else stay cursor ++ more
termination_by cursor.left

/-- At least one turn. The first one may take up no text, and then it is the only one. -/
def onceOrMore (walk : Walk) (greedy : Bool) : Walk := fun cursor =>
  (walk cursor).flatMap fun turn =>
    if turn.cursor.left < cursor.left then
      (laps walk greedy turn.lastSpot turn.cursor).map turn.extend
    else [turn]

/-- The walk taken from `min` up to `max` times. Any number of turns that all take up text, `takesText`,
make a loop that comes back to where it is entered. -/
def repeated (walk : Walk) (takesText : Bool) (min : Nat) (max : Option Nat) (greedy : Bool) : Walk :=
  match max, min with
  | some max, min => (walk.times min).both (walk.upTo greedy (max - min))
  | none, 0 =>
    let loop := optional greedy (walk.onceOrMore greedy)
    if takesText then loop.within .loop else loop
  | none, min + 1 => (walk.times min).both (walk.onceOrMore greedy)

end Walk

/-- Every way for the form to go on from a place, with the spots. -/
def Form.walk : Form → Walk
  | empty => .stay
  | literal text => .letters text
  | chars members => .take members.holds
  | look assertion => .check assertion
  | capture none body => body.walk
  | capture (some name) body => body.walk.named name
  | repeats min max greedy body =>
    body.walk.repeated (body.takesText? == some true) min max greedy
  | both first rest => first.walk.both rest.walk
  | either first rest => first.walk.either rest.walk

/-- Every way for the pattern to go on from a place, the preferred one first. -/
def ends (pattern : Regex) : Walk := (Form.ofRegex pattern).walk.plain

/-! ## Matches -/

/-- The path of the preferred way from the earliest place that has one. -/
def firstPath? (pattern : Regex) (text : List Char) : Option Path :=
  (Cursor.onward none text).findSome? fun cursor => (pattern.ends cursor).head?.map Reach.path

/-- The text after the last mark of its kind that a group made. -/
def Path.last? (path : Path) (name : List Char) (opens : Bool) : Option (List Char) :=
  (path.filter fun mark => mark.name = name && mark.opens = opens).getLast?.map Mark.after

/-- The text that a named group took last. -/
def Path.captured? (path : Path) (name : List Char) : Option (List Char) :=
  match path.last? name true, path.last? name false with
  | some opened, some closed => some (opened.take (opened.length - closed.length))
  | _, _ => none

end Switchyard.Regex
