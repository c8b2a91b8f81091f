/-!
# Tokens

A document as its lexer gives it out. The starts and ends of blocks, which a text shows by
indentation alone, are tokens of their own, and every key has a token in front of it. Directives and
the properties of a node, which are its anchor and its tag, are tokens as well.
-/

namespace Switchyard.Yaml

/-- A tag as it is written: a handle, and what is put behind the meaning of the handle. A tag that
is written in full has no handle. -/
structure Shorthand where
  handle : String
  suffix : List UInt8
  deriving Repr, DecidableEq

/-- A token. `plain` tells that a scalar was written without quotes and not as a block. -/
inductive Token where
  | version (major minor : Nat)
  | handle (name : String) (meaning : List UInt8)
  | documentStart
  | documentEnd
  | blockSequence
  | blockMapping
  | blockEnd
  | flowSequence
  | flowSequenceEnd
  | flowMapping
  | flowMappingEnd
  | item
  | comma
  | key
  | value
  | anchor (name : String)
  | tag (shorthand : Shorthand)
  | alias (name : String)
  | scalar (text : String) (plain : Bool)
  deriving Repr, DecidableEq

/-- The token may stand before the sign of a document's start. -/
def Token.isDirective : Token → Bool
  | version .. | handle .. => true
  | _ => false

end Switchyard.Yaml
