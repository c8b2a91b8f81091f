/-!
# Room for states

The states of an automaton are laid out one after the other, each in a slot of its own, and some
keep a list beside it: a fork the ways on from it, a branching state the octets that it tells apart.
`Room` is what has been used; laying out stops as soon as the room is used up (`Layout.lay`).
-/

namespace Switchyard.Regex

/-- The most room that an automaton may take, in bytes. -/
def roomLimit : Nat := 1048576

/-- The size of a state's slot, in bytes. -/
def slotSize : Nat := 32

/-- The room for one way on from a fork, in bytes. -/
def waySize : Nat := 4

/-- The room for one range of octets in a branching state, in bytes. -/
def branchSize : Nat := 8

/-- The room in use: how many states have been laid out, and the bytes of the lists beside them. -/
structure Room where
  states : Nat := 0
  listed : Nat := 0
  deriving Repr, DecidableEq

namespace Room

/-- The room in use, in bytes. -/
def bytes (room : Room) : Nat := slotSize * room.states + room.listed

/-- The room with more states and more bytes beside them, as long as the limit allows it. -/
def take? (states listed : Nat) (room : Room) : Option Room :=
  let more : Room := ⟨room.states + states, room.listed + listed⟩
  if more.bytes ≤ roomLimit then some more else none

end Room

/-- A part of an automaton: how it is laid out, and whether it ends in a fork, which takes one more
way on when something follows. -/
structure Layout where
  lay : Room → Option Room
  forks : Bool := false

namespace Layout

/-- A run of plain states. -/
def plain (count : Nat) : Layout := { lay := Room.take? count 0 }

/-- The room for going on from the end of a part. -/
def exitSize (layout : Layout) : Nat := if layout.forks then waySize else 0

/-- One part and then another. -/
def andThen (first second : Layout) : Layout where
  lay := fun room => do
    let room ← first.lay room
    let room ← room.take? 0 first.exitSize
    second.lay room
  forks := second.forks

/-- The part, followed by states that close it and by ways that forks among them take. -/
def closedBy (layout : Layout) (states ways : Nat) : Layout where
  lay := fun room => do
    let room ← layout.lay room
    room.take? states (layout.exitSize + waySize * ways)

/-- Takes the same step `count` times, until there is no room left. -/
def repeatedly (step : Room → Option Room) : Nat → Room → Option Room
  | 0, room => some room
  | count + 1, room =>
    match step room with
    | none => none
    | some room => repeatedly step count room

/-- The part as often as `count` says, one after the other. -/
def times (layout : Layout) : Nat → Layout
  | 0 => plain 1
  | count + 1 => {
      lay := fun room => do
        let room ← layout.lay room
        repeatedly (fun room => do
          let room ← room.take? 0 layout.exitSize
          layout.lay room) count room
      forks := layout.forks }

/-- The part or none: a fork before it, and a state after it where both ways meet. -/
def optional (layout : Layout) : Layout :=
  ((plain 1).andThen layout).closedBy 1 2

/-- The part as often as can be, when every turn takes up text: the fork before it is the end. -/
def loop (layout : Layout) : Layout where
  lay := ((plain 1).andThen layout).closedBy 0 1 |>.lay
  forks := true

/-- The part at least once: the fork after it is the end. -/
def onceOrMore (layout : Layout) : Layout where
  lay := (layout.closedBy 1 1).lay
  forks := true

/-- The part as often as can be, when a turn may take up no text: a fork after it that leads back,
a fork that leaves it out, and a state where the ways meet. -/
def anyNumber (layout : Layout) : Layout := layout.closedBy 3 4

/-- The part from `least` up to `most` times: each turn that can be left out has a fork before it,
and all ways meet in one state. -/
def between (layout : Layout) (least most : Nat) : Layout where
  lay := fun room => do
    let first := layout.times least
    let room ← first.lay room
    let room ← room.take? 1 first.exitSize
    repeatedly (fun room => do
      let room ← room.take? 1 (2 * waySize)
      let room ← layout.lay room
      room.take? 0 layout.exitSize) (most - least) room

/-- One of several parts. A fork to the first two and the state where all ways meet come after the
second part, and the ways of the others as they are laid out. -/
def oneOf : List Layout → Layout
  | [] => plain 2
  | [only] => only
  | first :: second :: others => {
      lay := fun room => do
        let room ← first.lay room
        let room ← second.lay room
        let room ← room.take? 2 (first.exitSize + second.exitSize + 2 * waySize)
        others.foldlM (fun room other => do
          let room ← other.lay room
          room.take? 0 (other.exitSize + waySize)) room }

/-- The part between the two states that record what it took. -/
def captured (layout : Layout) : Layout :=
  ((plain 1).andThen layout).closedBy 1 0

end Layout

end Switchyard.Regex
