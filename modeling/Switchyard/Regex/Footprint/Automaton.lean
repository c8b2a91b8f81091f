import Std.Data.HashMap
import Switchyard.Regex.Footprint.Room
import Switchyard.Unicode.Octets

/-!
# Automata over octets

A class of characters beyond ASCII is an automaton over the octets of its characters
(`Octets.ofRanges`). Read forwards, it is a tree of branching states from which equal states have
been dropped; read backwards, a fork to chains of states that share their beginnings. Which states
are shared is looked up in a table of limited size, where a new entry takes the place of the one
whose slot it falls into. A choice of literals is a tree over their octets.
-/

namespace Switchyard.Regex

open Unicode

/-! ## Tables of limited size -/

/-- The hash that a sequence of numbers goes to: each is mixed in by exclusive or and a product. -/
def mixHash (numbers : List Nat) : UInt64 :=
  numbers.foldl (fun hash number => (hash ^^^ number.toUInt64) * 1099511628211)
    14695981039346656037

/-- Numbers under keys, in slots given by the hash of the key. -/
structure SlotTable where
  slots : Nat
  entries : Std.HashMap Nat (List Nat × Nat) := {}

namespace SlotTable

/-- The slot of a key. -/
def slot (table : SlotTable) (key : List Nat) : Nat := (mixHash key).toNat % table.slots

/-- The number under the key. -/
def find? (table : SlotTable) (key : List Nat) : Option Nat :=
  match table.entries[table.slot key]? with
  | some (other, value) => if other = key then some value else none
  | none => none

/-- The table with a number under the key, in place of what stood in its slot. -/
def put (table : SlotTable) (key : List Nat) (value : Nat) : SlotTable :=
  { table with entries := table.entries.insert (table.slot key) (key, value) }

end SlotTable

/-- An automaton in the making: the room in use and the states that can be shared. -/
structure Sharing where
  room : Room
  known : SlotTable

/-- The state under the key, laid out with a list of `listed` bytes if there is none yet. -/
def Sharing.state? (sharing : Sharing) (key : List Nat) (listed : Nat) : Option (Nat × Sharing) :=
  match sharing.known.find? key with
  | some state => some (state, sharing)
  | none => do
    let room ← sharing.room.take? 1 listed
    let state := sharing.room.states
    return (state, ⟨room, sharing.known.put key state⟩)

/-! ## Classes -/

/-- Sequences side by side that start with the same range: that range, and what follows it in each
of them. -/
def splitHeads (sequences : List OctetRanges) : List ((Nat × Nat) × List OctetRanges) :=
  (sequences.splitBy fun left right => left.head? == right.head?).filterMap fun group =>
    group.head?.bind fun first =>
      first.head?.map fun range => (range, group.map List.tail)

/-- The branching state that reads the sequences and comes to `target`; the states after it come
first. No sequence is longer than `depth`. -/
def branching? (target : Nat) :
    (depth : Nat) → List OctetRanges → Sharing → Option (Nat × Sharing)
  | 0, _, sharing => some (target, sharing)
  | depth + 1, sequences, sharing => do
    let (key, sharing) ← (splitHeads sequences).foldlM (fun (key, sharing) (range, tails) => do
      let (next, sharing) ←
        if tails.all List.isEmpty then some (target, sharing)
        else branching? target depth tails sharing
      return (key ++ [range.1, range.2, next], sharing)) ([], sharing)
    sharing.state? key (branchSize * (key.length / 3))

/-- The chain of states that reads a sequence from its end and comes to `target`. -/
def chained? (target : Nat) (sequence : OctetRanges) (sharing : Sharing) :
    Option (Nat × Sharing) :=
  sequence.foldlM (fun (state, sharing) range => sharing.state? [state, range.1, range.2] 0)
    (target, sharing)

/-- The direction in which an automaton reads the text. -/
inductive Direction where
  | forward
  | backward
  deriving Repr, DecidableEq

/-- The automaton of a class. One of ASCII is a branching state and an end. -/
def Layout.ofRanges (direction : Direction) (ranges : Ranges) : Layout where
  lay := fun room =>
    if ranges.all fun range => range.2 < 128 then room.take? 2 (branchSize * ranges.length)
    else
      let sequences := Octets.ofRanges ranges
      match direction with
      | .forward => do
        let target := room.states
        let room ← room.take? 1 0
        let (_, sharing) ← branching? target 4 sequences ⟨room, { slots := 10000 }⟩
        return sharing.room
      | .backward => do
        let target := room.states + 1
        let room ← room.take? 2 0
        let sharing ← sequences.foldlM (fun sharing sequence => do
          let (_, sharing) ← chained? target sequence sharing
          let room ← sharing.room.take? 0 waySize
          return { sharing with room }) (⟨room, { slots := 1000 }⟩ : Sharing)
        return sharing.room

/-! ## Choices of literals -/

/-- The texts that come to a place in a tree of literals, cut where one ends there: the texts before
the first end, between two ends, and after the last. One end after another at the front counts
once. -/
def cutAtEnds (texts : List (List UInt8)) : List (List (List UInt8)) :=
  match texts with
  | [] :: rest => [] :: List.splitOnP List.isEmpty (rest.dropWhile List.isEmpty)
  | texts => List.splitOnP List.isEmpty texts

/-- The room for a place in a tree of literals and all places after it: a fork over the parts that
ends cut the texts into, and a state for the first octets of each part. No text is longer than
`depth`. -/
def literalTree? : (depth : Nat) → List (List UInt8) → Room → Option Room
  | 0, _, room => some room
  | depth + 1, texts, room => do
    let parts := cutAtEnds texts
    let (room, ways) ← parts.foldlM (fun (room, ways) part => do
      let octets := (part.filterMap List.head?).eraseDups
      let room ← octets.foldlM (fun room octet => do
        let rests := part.filterMap fun text =>
          match text with
          | first :: rest => if first = octet then some rest else none
          | [] => none
        if rests.all List.isEmpty then some room else literalTree? depth rests room) room
      match octets with
      | [] => return (room, ways)
      | [_] => return (← room.take? 1 0, ways + 1)
      | octets => return (← room.take? 1 (branchSize * octets.length), ways + 1))
      (room, parts.length - 1)
    room.take? 1 (waySize * ways)

/-- The automaton of a choice of literals: their tree, and the state where all ways meet. -/
def Layout.ofLiterals (texts : List (List UInt8)) : Layout where
  lay := fun room => do
    let room ← room.take? 1 0
    literalTree? ((texts.map List.length).foldl Nat.max 0 + 1) texts room

end Switchyard.Regex
