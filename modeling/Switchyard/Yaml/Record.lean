import Switchyard.Yaml.Node

/-!
# Records in documents

What a node is worth as text, as a list, as a map and as a record. Every scalar is a text, whatever
it looks like and whatever its tag is. The empty node is the empty list, the empty map and the
record without members; a record has each of its members once and none but those it knows. An alias
is worth what the node that it stands for is worth.
-/

namespace Switchyard.Yaml

namespace Node

/-- The node is left out. -/
def isEmpty (node : Node) : Bool :=
  match node.resolved with
  | .scalar _ text plain => plain && text = ""
  | _ => false

/-- The text of a scalar. -/
def text? (node : Node) : Option String :=
  match node.resolved with
  | .scalar _ text _ => some text
  | _ => none

/-- The nodes of a list. -/
def items? (node : Node) : Option (List Node) :=
  match node.resolved with
  | .sequence items => some (items.map node.beside)
  | _ => if node.isEmpty then some [] else none

/-- The nodes of a map under their names, in the order of the text. -/
def members? (node : Node) : Option (List (String × Node)) :=
  match node.resolved with
  | .mapping entries =>
    entries.mapM fun entry =>
      (node.beside entry.1).text?.map fun name => (name, node.beside entry.2)
  | _ => if node.isEmpty then some [] else none

/-- A list of texts. -/
def texts? (node : Node) : Option (List String) := node.items?.bind fun items => items.mapM text?

/-- A list of things that are read alike. -/
def list? {α : Type} (read? : Node → Option α) (node : Node) : Option (List α) :=
  node.items?.bind fun items => items.mapM read?

/-- A map to things that are read alike, in the order of the text. -/
def map? {α : Type} (read? : Node → Option α) (node : Node) : Option (List (String × α)) :=
  node.members?.bind fun members =>
    members.mapM fun member => (read? member.2).map fun value => (member.1, value)

/-- The texts that stand for nothing. -/
def isNullWord (text : String) : Bool :=
  text = "~" || text = "null" || text = "Null" || text = "NULL"

/-- The tag of what is nothing. -/
def nullTag : Tag := languageAddress ++ addressOctets "null"

/-- Whether nothing stands at the node. Where a tag says so the text has to agree, and `none` is a
node whose text does not. -/
def isAbsent? (node : Node) : Option Bool :=
  match node.resolved with
  | .scalar none text true => some (text = "" || isNullWord text)
  | .scalar (some tag) text true =>
    if tag = nullTag then (if isNullWord text then some true else none) else some false
  | _ => some false

/-- Something that may be absent. -/
def absentOr? {α : Type} (read? : Node → Option α) (node : Node) : Option (Option α) :=
  match node.isAbsent? with
  | some true => some none
  | some false => (read? node).map some
  | none => none

/-- The name that a tag of its own stands for: what comes after the exclamation mark. -/
def caseOfTag? : Tag → Option String
  | [] => none
  | first :: rest =>
    if first = '!'.toUInt8 then
      (Text.Utf8.decode? (if rest = [] then [first] else rest)).map String.ofList
    else none

/-- The name of one of several cases: the text of a scalar, or its tag when there is nothing in the
text. -/
def case? (node : Node) : Option String :=
  match node.resolved with
  | .scalar tag text plain =>
    match tag.bind caseOfTag? with
    | some name => if plain && (text = "" || isNullWord text) then some name else none
    | none => some text
  | _ => none

end Node

/-- The members of a record. -/
abbrev Record := List (String × Node)

namespace Record

/-- The record of a node, whose members are among the names, each at most once. -/
def ofNode? (names : List String) (node : Node) : Option Record :=
  node.members?.filter fun members =>
    let given := members.map Prod.fst
    given.all names.contains && given.Nodup

/-- The node under a name. -/
def node? (record : Record) (name : String) : Option Node :=
  (record.find? (·.1 = name)).map Prod.snd

/-- A member that must be there. -/
def required? {α : Type} (record : Record) (name : String) (read? : Node → Option α) : Option α :=
  (record.node? name).bind read?

/-- A member that has a default. -/
def optional? {α : Type} (record : Record) (name : String) (default : α)
    (read? : Node → Option α) : Option α :=
  match record.node? name with
  | some node => read? node
  | none => some default

end Record

end Switchyard.Yaml
