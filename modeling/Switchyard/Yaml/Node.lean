import Switchyard.Text.Utf8
import Switchyard.Yaml.Tree

/-!
# Nodes

What a document says: the tree with the meanings of its tags, and with a number for every alias and
every anchored node. A node is read together with the anchored ones of its document, so that an
alias is as good as the node it stands for (`Node.resolved`).

Numbers are given out by how many names are known: a new name gets the next one, and a name that is
given again a number that the next new name gets as well. Of several nodes with one number the last
to start is the one that aliases stand for.
-/

namespace Switchyard.Yaml

/-- The meaning of a tag: an address. -/
abbrev Tag := List UInt8

/-- What a node says. -/
inductive Content where
  | scalar (tag : Option Tag) (text : String) (plain : Bool)
  | sequence (items : List Content)
  | mapping (entries : List (Content × Content))
  | alias (number : Nat)

/-! ## From trees -/

/-- The numbers under the names of the anchors so far. -/
abbrev Anchors := List (String × Nat)

/-- The anchors with a number for a name, in place of the one that it had. -/
def Anchors.put (anchors : Anchors) (name : String) (number : Nat) : Anchors :=
  (name, number) :: anchors.filter fun entry => entry.1 ≠ name

/-- The number under a name. -/
def Anchors.number? (anchors : Anchors) (name : String) : Option Nat :=
  (anchors.find? fun entry => entry.1 = name).map Prod.snd

/-- Part of a tree with its tags and aliases told: the anchors known after it, and the anchored
nodes in it, those that start first in front. -/
structure Linked (α : Type) where
  value : α
  anchors : Anchors
  anchored : List (Nat × Content)

/-- The meaning of a tag, when its handle has one. -/
def Shorthand.meaning? (handles : Handles) (shorthand : Shorthand) : Option Tag :=
  if shorthand.handle = "" then some shorthand.suffix
  else
    (handles.find? fun entry => entry.1 = shorthand.handle).map fun entry =>
      entry.2 ++ shorthand.suffix

namespace Properties

/-- The meaning of the tag, if there is one. -/
def tag? (handles : Handles) (properties : Properties) : Option (Option Tag) :=
  match properties.tag with
  | none => some none
  | some shorthand => (shorthand.meaning? handles).map some

/-- The number that the anchor gets, if there is one. -/
def number? (anchors : Anchors) (properties : Properties) : Option Nat :=
  properties.anchor.map fun _ => anchors.length

/-- The anchors once the node has started. -/
def enter (anchors : Anchors) (properties : Properties) : Anchors :=
  match properties.anchor with
  | none => anchors
  | some name => anchors.put name anchors.length

/-- A node with these properties, with its number in front of those inside. -/
def wrap (before : Anchors) (properties : Properties) {α : Type} (make : α → Content)
    (inner : Linked α) : Linked Content :=
  let content := make inner.value
  ⟨content, inner.anchors, ((properties.number? before).map (·, content)).toList ++ inner.anchored⟩

/-- A scalar with these properties and that tag. -/
def leaf (before : Anchors) (properties : Properties) (content : Content) : Linked Content :=
  properties.wrap before id ⟨content, properties.enter before, []⟩

end Properties

namespace Tree

/-- The tag that tells nothing. A scalar that is written goes by its looks as without a tag. -/
def noTag : Tag := addressOctets "!"

mutual

/-- The tree with its tags and aliases told; `none` when a handle has no meaning or an alias stands
for no node that has started before it. -/
def link? (handles : Handles) (anchors : Anchors) : Tree → Option (Linked Content)
  | .omitted properties =>
    (properties.tag? handles).map fun tag => properties.leaf anchors (.scalar tag "" true)
  | .scalar properties text plain =>
    (properties.tag? handles).map fun tag =>
      properties.leaf anchors (.scalar (tag.filter (· ≠ noTag)) text plain)
  | .sequence properties items =>
    match properties.tag? handles, linkItems? handles (properties.enter anchors) items with
    | some _, some inner => some (properties.wrap anchors .sequence inner)
    | _, _ => none
  | .mapping properties entries =>
    match properties.tag? handles, linkEntries? handles (properties.enter anchors) entries with
    | some _, some inner => some (properties.wrap anchors .mapping inner)
    | _, _ => none
  | .alias name =>
    (anchors.number? name).map fun number => ⟨.alias number, anchors, []⟩

/-- The items of a sequence, one after the other. -/
def linkItems? (handles : Handles) (anchors : Anchors) :
    List Tree → Option (Linked (List Content))
  | [] => some ⟨[], anchors, []⟩
  | item :: rest =>
    match link? handles anchors item with
    | none => none
    | some first =>
      (linkItems? handles first.anchors rest).map fun others =>
        ⟨first.value :: others.value, others.anchors, first.anchored ++ others.anchored⟩

/-- The entries of a mapping, each key before its value. -/
def linkEntries? (handles : Handles) (anchors : Anchors) :
    List (Tree × Tree) → Option (Linked (List (Content × Content)))
  | [] => some ⟨[], anchors, []⟩
  | (key, value) :: rest =>
    match link? handles anchors key with
    | none => none
    | some name =>
      match link? handles name.anchors value with
      | none => none
      | some first =>
        (linkEntries? handles first.anchors rest).map fun others =>
          ⟨(name.value, first.value) :: others.value, others.anchors,
            name.anchored ++ first.anchored ++ others.anchored⟩

end

end Tree

/-! ## Size -/

namespace Content

mutual

/-- How many events the content is: one for a scalar or an alias, and for a collection its start and
its end beside what is in it. -/
def events : Content → Nat
  | .scalar .. | .alias _ => 1
  | .sequence items => eventsOfItems items + 2
  | .mapping entries => eventsOfEntries entries + 2

/-- The events of items. -/
def eventsOfItems : List Content → Nat
  | [] => 0
  | item :: rest => item.events + eventsOfItems rest

/-- The events of entries. -/
def eventsOfEntries : List (Content × Content) → Nat
  | [] => 0
  | (key, value) :: rest => key.events + value.events + eventsOfEntries rest

end

end Content

/-! ## Nodes of a document -/

/-- A node with the anchored nodes of its document. -/
structure Node where
  content : Content
  anchored : List (Nat × Content)

namespace Node

/-- The node of a whole document. -/
def ofDocument? (document : Document) : Option Node :=
  (document.root.link? document.handles []).map fun linked => ⟨linked.value, linked.anchored⟩

/-- The content that an alias stands for, or else the node's own. -/
def resolved (node : Node) : Content :=
  match node.content with
  | .alias number =>
    match (node.anchored.filter fun entry => entry.1 = number).getLast? with
    | some entry => entry.2
    | none => node.content
  | content => content

/-- The node is an alias. -/
def isAlias (node : Node) : Bool :=
  match node.content with
  | .alias _ => true
  | _ => false

/-- The content as a node of the same document. -/
def beside (node : Node) (content : Content) : Node := { node with content }

/-- How many aliases are met when the node is read through to a depth. -/
def aliasesMet (node : Node) : Nat → Nat
  | 0 => 0
  | depth + 1 =>
    let inner : List Content :=
      match node.resolved with
      | .sequence items => items
      | .mapping entries => entries.flatMap fun entry => [entry.1, entry.2]
      | _ => []
    inner.foldl (fun count content => count + (node.beside content).aliasesMet depth)
      (if node.isAlias then 1 else 0)

/-- The depth that no record nests to. -/
def depthLimit : Nat := 128

/-- The document is not read through more often than a hundred aliases for each of its events. -/
def isBounded (node : Node) : Bool :=
  node.aliasesMet depthLimit ≤ 100 * node.content.events

/-- The documents of a text; `none` when it is no text of documents. -/
def documents? (text : String) : Option (List Node) :=
  (Document.allOfText? text).bind fun documents => documents.mapM ofDocument?

/-- The one document of a text. -/
def document? (text : String) : Option Node :=
  match documents? text with
  | some [document] => some document
  | _ => none

/-- What a document is read as. -/
def read? {α : Type} (ofNode? : Node → Option α) (document : Node) : Option α :=
  (ofNode? document).filter fun _ => document.isBounded

end Node

end Switchyard.Yaml
