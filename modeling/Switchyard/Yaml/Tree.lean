import Switchyard.Yaml.Token.Lexer

/-!
# Trees

A document as it is written: a tree of mappings, sequences and scalars, with the anchors and tags of
its nodes and with aliases where a node is named and not written again. A text holds one document,
or several after one another, each with the sign of its start; a text without a word holds one
document that is left out.
-/

namespace Switchyard.Yaml

/-- What is written in front of a node: a name for it, and what it is meant as. -/
structure Properties where
  anchor : Option String := none
  tag : Option Shorthand := none
  deriving Repr, DecidableEq

/-- A node as it is written. The entries of a mapping are in the order of the text, and their keys
may come more than once. A node may be left out, but for its properties. -/
inductive Tree where
  | omitted (properties : Properties)
  | scalar (properties : Properties) (text : String) (plain : Bool)
  | sequence (properties : Properties) (items : List Tree)
  | mapping (properties : Properties) (entries : List (Tree × Tree))
  | alias (name : String)

namespace Tree

/-- What is left out with no property. -/
def empty : Tree := .omitted {}

/-- The properties at the front of the tokens, in either order. -/
def readProperties : List Token → Properties × List Token
  | .anchor name :: .tag shorthand :: rest => (⟨some name, some shorthand⟩, rest)
  | .tag shorthand :: .anchor name :: rest => (⟨some name, some shorthand⟩, rest)
  | .anchor name :: rest => (⟨some name, none⟩, rest)
  | .tag shorthand :: rest => (⟨none, some shorthand⟩, rest)
  | tokens => ({}, tokens)

/-! ## Tokens that end what may be left out -/

/-- The token ends an item of a block sequence. -/
def endsItem : Token → Bool
  | .item | .blockEnd => true
  | _ => false

/-- The token ends a key or a value of a block mapping, or an item beside its keys. -/
def endsEntry : Token → Bool
  | .key | .value | .blockEnd => true
  | _ => false

/-- The token ends a key in a flow mapping. -/
def endsFlowKey : Token → Bool
  | .value | .comma | .flowMappingEnd => true
  | _ => false

/-- The token ends a value in a flow mapping. -/
def endsFlowValue : Token → Bool
  | .comma | .flowMappingEnd => true
  | _ => false

/-- The token ends a value in a flow sequence. -/
def endsFlowItem : Token → Bool
  | .comma | .flowSequenceEnd => true
  | _ => false

/-- The tokens after the comma that must come before all items of a flow but the first. -/
def afterComma? (isFirst : Bool) : List Token → Option (List Token)
  | .comma :: rest => if isFirst then some (.comma :: rest) else some rest
  | tokens => if isFirst then some tokens else none

/-! ## Reading -/

mutual

/-- A node at the front of the tokens. Blocks may stand only where `inBlock` says so, and a block
sequence at the column of its key only where `besideKey` does. Where properties are written, the
node itself may be left out. -/
def read? (fuel : Nat) (inBlock besideKey : Bool) (tokens : List Token) :
    Option (Tree × List Token) :=
  match fuel with
  | 0 => none
  | fuel + 1 =>
    match readProperties tokens with
    | (properties, tokens) =>
      match tokens, inBlock, besideKey with
      | .scalar text plain :: rest, _, _ => some (.scalar properties text plain, rest)
      | .flowSequence :: rest, _, _ =>
        (readFlowItems? fuel true rest).map fun read => (.sequence properties read.1, read.2)
      | .flowMapping :: rest, _, _ =>
        (readFlowEntries? fuel true rest).map fun read => (.mapping properties read.1, read.2)
      | .item :: rest, _, true =>
        (readItemsBesideKey? fuel (.item :: rest)).map fun read =>
          (.sequence properties read.1, read.2)
      | .blockSequence :: rest, true, _ =>
        (readItems? fuel rest).map fun read => (.sequence properties read.1, read.2)
      | .blockMapping :: rest, true, _ =>
        (readEntries? fuel rest).map fun read => (.mapping properties read.1, read.2)
      | .alias name :: rest, _, _ => if properties = {} then some (.alias name, rest) else none
      | tokens, _, _ => if properties = {} then none else some (.omitted properties, tokens)

/-- A node, or nothing before a token that ends it. -/
def readSlot? (fuel : Nat) (inBlock besideKey : Bool) (ends : Token → Bool)
    (tokens : List Token) : Option (Tree × List Token) :=
  match fuel with
  | 0 => none
  | fuel + 1 =>
    match tokens with
    | [] => none
    | token :: rest =>
      if ends token then some (.empty, token :: rest)
      else read? fuel inBlock besideKey (token :: rest)

/-- The items of a block sequence. -/
def readItems? (fuel : Nat) (tokens : List Token) : Option (List Tree × List Token) :=
  match fuel with
  | 0 => none
  | fuel + 1 =>
    match tokens with
    | .item :: rest =>
      match readSlot? fuel true false endsItem rest with
      | none => none
      | some (item, rest) =>
        (readItems? fuel rest).map fun read => (item :: read.1, read.2)
    | .blockEnd :: rest => some ([], rest)
    | _ => none

/-- The items of a block sequence at the column of its key. -/
def readItemsBesideKey? (fuel : Nat) (tokens : List Token) : Option (List Tree × List Token) :=
  match fuel with
  | 0 => none
  | fuel + 1 =>
    match tokens with
    | .item :: rest =>
      match readSlot? fuel true false (fun token => endsItem token || endsEntry token) rest with
      | none => none
      | some (item, rest) =>
        (readItemsBesideKey? fuel rest).map fun read => (item :: read.1, read.2)
    | tokens => some ([], tokens)

/-- The entries of a block mapping. -/
def readEntries? (fuel : Nat) (tokens : List Token) :
    Option (List (Tree × Tree) × List Token) :=
  match fuel with
  | 0 => none
  | fuel + 1 =>
    match tokens with
    | .key :: rest =>
      match readSlot? fuel true true endsEntry rest with
      | none => none
      | some (key, rest) =>
        match readValue? fuel true endsEntry rest with
        | none => none
        | some (value, rest) =>
          (readEntries? fuel rest).map fun read => ((key, value) :: read.1, read.2)
    | .blockEnd :: rest => some ([], rest)
    | _ => none

/-- The value after a key: nothing, when there is no sign of one. -/
def readValue? (fuel : Nat) (inBlock : Bool) (ends : Token → Bool) (tokens : List Token) :
    Option (Tree × List Token) :=
  match fuel with
  | 0 => none
  | fuel + 1 =>
    match tokens with
    | .value :: rest => readSlot? fuel inBlock inBlock ends rest
    | tokens => some (.empty, tokens)

/-- The items of a flow sequence; a key makes a mapping of one entry. -/
def readFlowItems? (fuel : Nat) (isFirst : Bool) (tokens : List Token) :
    Option (List Tree × List Token) :=
  match fuel with
  | 0 => none
  | fuel + 1 =>
    match tokens with
    | .flowSequenceEnd :: rest => some ([], rest)
    | tokens =>
      match afterComma? isFirst tokens with
      | none => none
      | some (.flowSequenceEnd :: rest) => some ([], rest)
      | some (.key :: rest) =>
        match read? fuel false false rest with
        | none => none
        | some (key, rest) =>
          match readValue? fuel false endsFlowItem rest with
          | none => none
          | some (value, rest) =>
            (readFlowItems? fuel false rest).map fun read =>
              (.mapping {} [(key, value)] :: read.1, read.2)
      | some tokens =>
        match read? fuel false false tokens with
        | none => none
        | some (item, rest) =>
          (readFlowItems? fuel false rest).map fun read => (item :: read.1, read.2)

/-- The entries of a flow mapping; a node that is no key has an empty value. -/
def readFlowEntries? (fuel : Nat) (isFirst : Bool) (tokens : List Token) :
    Option (List (Tree × Tree) × List Token) :=
  match fuel with
  | 0 => none
  | fuel + 1 =>
    match tokens with
    | .flowMappingEnd :: rest => some ([], rest)
    | tokens =>
      match afterComma? isFirst tokens with
      | none => none
      | some (.flowMappingEnd :: rest) => some ([], rest)
      | some (.key :: rest) =>
        match readSlot? fuel false false endsFlowKey rest with
        | none => none
        | some (key, rest) =>
          match readValue? fuel false endsFlowValue rest with
          | none => none
          | some (value, rest) =>
            (readFlowEntries? fuel false rest).map fun read => ((key, value) :: read.1, read.2)
      | some tokens =>
        match read? fuel false false tokens with
        | none => none
        | some (key, rest) =>
          (readFlowEntries? fuel false rest).map fun read => ((key, .empty) :: read.1, read.2)

end

/-- A node that the tokens may leave out before another document. -/
def readContent? (tokens : List Token) : Option (Tree × List Token) :=
  match tokens with
  | [] => some (.empty, [])
  | token :: rest =>
    if token.isDirective || token = .documentStart || token = .documentEnd then
      some (.empty, token :: rest)
    else read? (3 * rest.length + 6) true false (token :: rest)

end Tree

/-! ## Documents -/

/-- The handles of tags with their meanings. -/
abbrev Handles := List (String × List UInt8)

/-- The octets of an address of ASCII. -/
def addressOctets (text : String) : List UInt8 := text.toList.map Char.toUInt8

/-- The address that all tags of the language itself start with. -/
def languageAddress : List UInt8 := addressOctets "tag:yaml.org,2002:"

/-- The handles that have a meaning unless a document gives them another. -/
def Handles.default : Handles := [("!", addressOctets "!"), ("!!", languageAddress)]

/-- The directives in front of a document: whether its version has been told, and the handles that
it gives a meaning to. -/
structure Directives where
  hasVersion : Bool := false
  handles : Handles := []
  deriving Repr, DecidableEq

/-- The directives with one more. A second version is refused, and so are a second meaning of a
handle and a version of another language than this one. -/
def Directives.add? (directives : Directives) : Token → Option Directives
  | .version major minor =>
    if !directives.hasVersion && major = 1 && (minor = 1 || minor = 2) then
      some { directives with hasVersion := true }
    else none
  | .handle name meaning =>
    if directives.handles.any fun entry => entry.1 = name then none
    else some { directives with handles := directives.handles ++ [(name, meaning)] }
  | _ => none

/-- The directives at the front of the tokens, and the tokens from the sign of the document's start
on. -/
def Directives.read? (directives : Directives) : List Token → Option (Directives × List Token)
  | [] => none
  | token :: rest =>
    if token.isDirective then
      match directives.add? token with
      | none => none
      | some directives => read? directives rest
    else some (directives, token :: rest)

/-- A document as it is written. -/
structure Document where
  handles : Handles
  root : Tree

namespace Document

/-- The documents after the first, each with its directives and the sign of its start. -/
def readAll? : Nat → List Token → Option (List Document)
  | 0, _ => none
  | fuel + 1, tokens =>
    match tokens.dropWhile (· = .documentEnd) with
    | [] => some []
    | tokens =>
      match Directives.read? {} tokens with
      | some (directives, .documentStart :: rest) =>
        match Tree.readContent? rest with
        | none => none
        | some (root, rest) =>
          (readAll? fuel rest).map (⟨directives.handles ++ Handles.default, root⟩ :: ·)
      | _ => none

/-- The documents of a text; `none` when it is no text of documents. -/
def allOfText? (text : String) : Option (List Document) :=
  match Token.scan? text.toList with
  | none => none
  | some [] => some [⟨Handles.default, .empty⟩]
  | some (.documentEnd :: _) => none
  | some (token :: rest) =>
    if token.isDirective || token = .documentStart then readAll? (rest.length + 2) (token :: rest)
    else
      match Tree.readContent? (token :: rest) with
      | none => none
      | some (root, rest) =>
        (readAll? (rest.length + 2) rest).map (⟨Handles.default, root⟩ :: ·)

end Document

end Switchyard.Yaml
