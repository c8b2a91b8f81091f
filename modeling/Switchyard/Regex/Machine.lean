import Switchyard.Regex.Match

/-!
# Matching machines

A machine finds the preferred way of a pattern in time that grows with the pattern and the text,
not with the number of ways. It reads the text from its end to its start. At each place every spot
that takes a character knows the preferred path of all that comes after it, were the character before
the place taken there; from this the ways on from the place are told apart into those that take up
text and the one that does not (`Profile`), and the machine is made ready for the place before
(`Machine.step`).
-/

namespace Switchyard.Regex

/-! ## Profiles -/

/-- The ways of a pattern from a place, as far as they matter. Either none leads to the end of the
whole match; or the preferred one takes up text, and `settled` holds its path from there to that
end; or a way stays, with the path `here`, and what follows the pattern has to show whether it
leads there. `after` is then the preferred path among the ways behind it that take up text. -/
inductive Profile where
  | fails
  | settled (path : Path)
  | stays (here : Path) (after : Option Path)
  deriving Repr, DecidableEq

namespace Profile

/-- The ways that take up text, by the preferred path among them. -/
def ofPath? : Option Path → Profile
  | none => fails
  | some path => settled path

/-- The preferred path among those that take up text. -/
def onward : Profile → Option Path
  | fails => none
  | settled path => some path
  | stays _ after => after

/-- The preferred path, when what follows the pattern has a path from the same place. -/
def plug (profile : Profile) (next : Option Path) : Option Path :=
  match profile with
  | fails => none
  | settled path => some path
  | stays here after => next.map (here ++ ·) <|> after

/-- The ways of one pattern or else of another. -/
def orElse (first second : Profile) : Profile :=
  match first with
  | fails => second
  | settled path => settled path
  | stays here after => stays here (after <|> second.onward)

/-- The ways of one pattern and then of another, when the paths of the first that take up text go
on through the second already. -/
def andThen (first second : Profile) : Profile :=
  match first, second with
  | fails, _ => fails
  | settled path, _ => settled path
  | stays _ after, fails => ofPath? after
  | stays here _, settled path => settled (here ++ path)
  | stays here after, stays next other =>
    stays (here ++ next) (other.map (here ++ ·) <|> after)

/-- The ways of a named group, when the paths that take up text have its closing already. -/
def named (name : List Char) (text : List Char) : Profile → Profile
  | fails => fails
  | settled path => settled (⟨name, true, text⟩ :: path)
  | stays here after =>
    stays (⟨name, true, text⟩ :: here ++ [⟨name, false, text⟩])
      (after.map (⟨name, true, text⟩ :: ·))

/-- The way that takes up no text. -/
def stay : Profile := stays [] none

/-- The ways of a pattern or none, as greed prefers. -/
def optional (greedy : Bool) (profile : Profile) : Profile :=
  if greedy then profile.orElse stay else stay.orElse profile

/-- The preferred path after a turn of a repetition: another turn that takes up text, or what
follows the repetition, as greed prefers. -/
def again (greedy : Bool) (profile : Profile) (next : Option Path) : Option Path :=
  if greedy then profile.onward <|> next else next <|> profile.onward

end Profile

/-! ## Where a turn may start -/

/-- Where a way may take its first character: anywhere, nowhere, or where the spot at which the turn
before left off does not lead past. -/
inductive Gate where
  | opened
  | closed
  | notPast (last : Spot)
  deriving Repr, DecidableEq

namespace Gate

/-- The gate for a part. -/
def within (step : Descent) : Gate → Gate
  | notPast (first :: last) =>
    match first, step with
    | .sooner, .later | .loop, .loop => closed
    | _, _ => if first = step then notPast last else opened
  | notPast [] => opened
  | gate => gate

/-- A way may take its first character at the spot. -/
def lets : Gate → Spot → Bool
  | opened, _ => true
  | closed, _ => false
  | notPast last, spot => !last.leadsPast spot

end Gate

/-! ## What comes after -/

/-- The preferred path of what comes after a form: the same wherever the form takes its last
character, or one for each spot. -/
inductive Next where
  | always (path : Option Path)
  | bySpot (path : Spot → Option Path)

namespace Next

/-- The path after a way that takes its last character at the spot. -/
def after : Next → Spot → Option Path
  | always path, _ => path
  | bySpot path, spot => path spot

/-- What comes after a part. -/
def within (step : Descent) : Next → Next
  | always path => always path
  | bySpot path => bySpot fun spot => path (step :: spot)

/-- Each path with something in front of it. -/
def map (change : Option Path → Option Path) : Next → Next
  | always path => always (change path)
  | bySpot path => bySpot fun spot => change (path spot)

end Next

/-! ## Machines -/

/-- A form between two places. Each spot has the preferred path from the later one through all that
comes after the spot. -/
inductive Machine where
  | empty
  | take (accepts : Char → Bool) (next : Option Path)
  | look (assertion : Look)
  | both (first second : Machine)
  | either (first second : Machine)
  | group (name : List Char) (body : Machine)
  | optional (greedy : Bool) (body : Machine)
  | onceOrMore (greedy : Bool) (body : Machine)
  | loop (body : Machine)

namespace Machine

/-- The machine that takes up a text. -/
def letters : List Char → Machine
  | [] => empty
  | c :: text => both (take (· == c) none) (letters text)

/-- The machine taken `count` times. -/
def times (machine : Machine) : Nat → Machine
  | 0 => empty
  | count + 1 => both (machine.times count) machine

/-- The machine taken at most `count` times, one turn inside the other. -/
def upTo (machine : Machine) (greedy : Bool) : Nat → Machine
  | 0 => empty
  | count + 1 => optional greedy (both machine (machine.upTo greedy count))

/-- The machine taken from `min` up to `max` times. -/
def repeated (machine : Machine) (takesText : Bool) (min : Nat) (max : Option Nat)
    (greedy : Bool) : Machine :=
  match max, min with
  | some max, min => both (machine.times min) (machine.upTo greedy (max - min))
  | none, 0 =>
    let turns := optional greedy (onceOrMore greedy machine)
    if takesText then loop turns else turns
  | none, min + 1 => both (machine.times min) (onceOrMore greedy machine)

/-- The machine of a form, at the end of a text. -/
def ofForm : Form → Machine
  | .empty => empty
  | .literal text => letters text
  | .chars members => take members.holds none
  | .look assertion => look assertion
  | .capture none body => ofForm body
  | .capture (some name) body => group name (ofForm body)
  | .repeats min max greedy body =>
    (ofForm body).repeated (body.takesText? == some true) min max greedy
  | .both first rest => both (ofForm first) (ofForm rest)
  | .either first rest => either (ofForm first) (ofForm rest)

/-- The profile of the ways that the gate lets start. -/
@[simp] def profile (cursor : Cursor) : Machine → Gate → Profile
  | empty, _ => .stay
  | take accepts next, gate =>
    if gate.lets [] && (cursor.step? accepts).isSome then .ofPath? next else .fails
  | look assertion, _ => if assertion.holds cursor then .stay else .fails
  | both first second, gate =>
    (first.profile cursor (gate.within .sooner)).andThen
      (second.profile cursor (gate.within .later))
  | either first second, gate =>
    (first.profile cursor (gate.within .left)).orElse (second.profile cursor (gate.within .right))
  | group name body, gate => (body.profile cursor gate).named name cursor.after
  | optional greedy body, gate => (body.profile cursor gate).optional greedy
  | onceOrMore _ body, gate => body.profile cursor gate
  | loop body, gate => body.profile cursor (gate.within .loop)

/-- What a machine comes to at a place: its profile with the gate open, and the machine for the place
before. -/
structure Step where
  profile : Profile
  before : Machine

/-- The machine at a place, given what comes after the form there. -/
@[simp] def step (cursor : Cursor) : Machine → Next → Step
  | empty, _ => ⟨.stay, empty⟩
  | take accepts next, after =>
    ⟨if (cursor.step? accepts).isSome then .ofPath? next else .fails,
      take accepts (after.after [])⟩
  | look assertion, _ => ⟨if assertion.holds cursor then .stay else .fails, look assertion⟩
  | both first second, after =>
    let later := second.step cursor (after.within .later)
    let sooner := first.step cursor ((after.within .sooner).map later.profile.plug)
    ⟨sooner.profile.andThen later.profile, both sooner.before later.before⟩
  | either first second, after =>
    let sooner := first.step cursor (after.within .left)
    let later := second.step cursor (after.within .right)
    ⟨sooner.profile.orElse later.profile, either sooner.before later.before⟩
  | group name body, after =>
    let inner := body.step cursor (after.map (Option.map (⟨name, false, cursor.after⟩ :: ·)))
    ⟨inner.profile.named name cursor.after, group name inner.before⟩
  | optional greedy body, after =>
    let inner := body.step cursor after
    ⟨inner.profile.optional greedy, optional greedy inner.before⟩
  | onceOrMore greedy body, after =>
    let inner := body.step cursor <| .bySpot fun last =>
      (body.profile cursor (.notPast last)).again greedy (after.after last)
    ⟨inner.profile, onceOrMore greedy inner.before⟩
  | loop body, after =>
    let inner := body.step cursor (after.within .loop)
    ⟨inner.profile, loop inner.before⟩

/-- Takes the machine from the end of a text to a place before it: the machine there, and the
preferred path from the earliest place that has one. -/
def sweep (machine : Machine) (before : Option Char) : List Char → Machine × Option Path
  | [] => (machine, (machine.profile ⟨before, []⟩ .opened).plug (some []))
  | c :: rest =>
    let (later, found) := machine.sweep (some c) rest
    let here := (later.step ⟨some c, rest⟩ (.always (some []))).before
    (here, (here.profile ⟨before, c :: rest⟩ .opened).plug (some []) <|> found)

end Machine

/-- The path of the preferred way from the earliest place that has one. -/
def search? (pattern : Regex) (text : List Char) : Option Path :=
  ((Machine.ofForm (Form.ofRegex pattern)).sweep none text).2

/-- The pattern matches somewhere in the text. -/
def matchesIn (pattern : Regex) (text : List Char) : Bool := (pattern.search? text).isSome

end Switchyard.Regex
