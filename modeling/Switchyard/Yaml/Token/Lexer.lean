import Switchyard.Yaml.Token.Name

/-!
# Lexing

The lexer goes through the marks once. It keeps the columns of the open blocks, the flow
collections it is in, and, for each of these, the place of the last token that may turn out to be a
key: whether it is one shows only at the colon after it.
-/

namespace Switchyard.Yaml

/-- The place of a token that may be a key. One that stands at the column of its block must be
one. -/
structure Candidate where
  position : Nat
  line : Nat
  column : Nat
  required : Bool
  deriving Repr, DecidableEq

/-- The colon that would make a key of the candidate comes too late at the mark: on another line,
or too far on. -/
def Candidate.isPast (candidate : Candidate) (mark : Mark) : Bool :=
  candidate.line < mark.line || candidate.column + 1024 < mark.column

/-- A lexer between two tokens. `tokens` has the newest first. `level` is one more than the column
of the innermost block, and zero outside of all; `levels` holds those of the blocks around it.
`outer` holds the candidates outside the flow collections that are open, innermost first. -/
structure Lexer where
  text : List Mark
  tokens : List Token := []
  level : Nat := 0
  levels : List Nat := []
  candidate : Option Candidate := none
  outer : List (Option Candidate) := []
  keyAllowed : Bool := true
  deriving Repr, DecidableEq

namespace Lexer

/-- The lexer is inside a flow collection. -/
def inFlow (lexer : Lexer) : Bool := !lexer.outer.isEmpty

/-! ## Between tokens -/

/-- The marks from the next token on, and whether a key may start there. Outside of flows a new
line allows one, and where one is allowed no tab comes before it. A byte-order mark in front of a
line is passed over. -/
def skipGap (inFlow inComment keyAllowed : Bool) : List Mark → List Mark × Bool
  | [] => ([], keyAllowed)
  | mark :: rest =>
    if isBreak mark.char then skipGap inFlow false (keyAllowed || !inFlow) rest
    else if inComment && mark.char ≠ endOfText then skipGap inFlow true keyAllowed rest
    else if mark.char = '#' then skipGap inFlow true keyAllowed rest
    else if mark.char = byteOrderMark && mark.column = 0 then skipGap inFlow false keyAllowed rest
    else if mark.char = ' ' || (mark.char = '\t' && (inFlow || !keyAllowed)) then
      skipGap inFlow false keyAllowed rest
    else (mark :: rest, keyAllowed)

/-- The lexer at its next token. -/
def atNextToken (lexer : Lexer) : Lexer :=
  let (text, keyAllowed) := skipGap lexer.inFlow false lexer.keyAllowed lexer.text
  { lexer with text, keyAllowed }

/-! ## Keys -/

/-- The lexer without the candidates that are past; `none` when one of them had to be a key. -/
def dropPast? (lexer : Lexer) (mark : Mark) : Option Lexer :=
  let lost := fun (candidate : Option Candidate) =>
    (candidate.map fun c => c.isPast mark && c.required).getD false
  let kept := fun (candidate : Option Candidate) => candidate.filter fun c => !c.isPast mark
  if lost lexer.candidate || lexer.outer.any lost then none
  else some { lexer with candidate := kept lexer.candidate, outer := lexer.outer.map kept }

/-- The lexer without its candidate, which is no key; `none` when it had to be one. -/
def dropCandidate? (lexer : Lexer) : Option Lexer :=
  match lexer.candidate with
  | some candidate => if candidate.required then none else some { lexer with candidate := none }
  | none => some lexer

/-- The lexer with the next token for its candidate, if a key may start here. -/
def markCandidate? (lexer : Lexer) (mark : Mark) : Option Lexer :=
  if lexer.keyAllowed then
    lexer.dropCandidate?.map fun lexer =>
      { lexer with
        candidate := some {
          position := lexer.tokens.length
          line := mark.line
          column := mark.column
          required := !lexer.inFlow && lexer.level = mark.column + 1 } }
  else some lexer

/-! ## Blocks -/

/-- The lexer with a token given out. -/
def emit (lexer : Lexer) (token : Token) : Lexer := { lexer with tokens := token :: lexer.tokens }

/-- The lexer with a token put in before the one at a position. -/
def insertAt (lexer : Lexer) (position : Nat) (token : Token) : Lexer :=
  { lexer with tokens := lexer.tokens.insertIdx (lexer.tokens.length - position) token }

/-- The lexer with a block opened at a column, unless one is open there or it is in a flow. The
block's token goes before the one at the position. -/
def openBlock (lexer : Lexer) (column position : Nat) (token : Token) : Lexer :=
  if !lexer.inFlow && lexer.level ≤ column then
    { lexer.insertAt position token with
      level := column + 1
      levels := lexer.level :: lexer.levels }
  else lexer

/-- The tokens, the level and the levels around it, once all blocks above a level are closed. -/
def closeAbove (bound : Nat) (tokens : List Token) (level : Nat) :
    List Nat → List Token × Nat × List Nat
  | [] => (tokens, level, [])
  | next :: levels =>
    if bound < level then closeAbove bound (.blockEnd :: tokens) next levels
    else (tokens, level, next :: levels)

/-- The lexer with all blocks above a level closed; a flow closes none. -/
def closeBlocks (lexer : Lexer) (bound : Nat) : Lexer :=
  if lexer.inFlow then lexer
  else
    let (tokens, level, levels) := closeAbove bound lexer.tokens lexer.level lexer.levels
    { lexer with tokens, level, levels }

/-! ## Tokens -/

/-- The start or the end of a document. -/
def document? (lexer : Lexer) (token : Token) : Option Lexer :=
  (lexer.closeBlocks 0).dropCandidate?.map fun lexer =>
    { lexer.emit token with keyAllowed := false, text := lexer.text.drop 3 }

/-- A directive. -/
def directive? (lexer : Lexer) : Option Lexer :=
  match (lexer.closeBlocks 0).dropCandidate?, readDirective? lexer.text.tail with
  | some lexer, some (token, rest) =>
    some { lexer.emit token with keyAllowed := false, text := rest }
  | _, _ => none

/-- An anchor, or an alias of one. -/
def anchor? (lexer : Lexer) (mark : Mark) (token : String → Token) : Option Lexer :=
  match lexer.markCandidate? mark, readAnchor? lexer.text.tail with
  | some lexer, some (name, rest) =>
    some { lexer.emit (token name) with keyAllowed := false, text := rest }
  | _, _ => none

/-- A tag. A blank follows it, or in a flow a comma. -/
def tag? (lexer : Lexer) (mark : Mark) : Option Lexer :=
  match lexer.markCandidate? mark, readTag? lexer.text.tail with
  | some lexer, some (shorthand, rest) =>
    if isGap (headChar rest) || (lexer.inFlow && headChar rest = ',') then
      some { lexer.emit (.tag shorthand) with keyAllowed := false, text := rest }
    else none
  | _, _ => none

/-- The start of a flow collection. -/
def openFlow? (lexer : Lexer) (mark : Mark) (token : Token) : Option Lexer :=
  (lexer.markCandidate? mark).map fun lexer =>
    { lexer.emit token with
      candidate := none
      outer := lexer.candidate :: lexer.outer
      keyAllowed := true
      text := lexer.text.tail }

/-- The end of a flow collection. -/
def closeFlow? (lexer : Lexer) (token : Token) : Option Lexer :=
  lexer.dropCandidate?.map fun lexer =>
    { lexer.emit token with
      candidate := lexer.outer.head?.join
      outer := lexer.outer.tail
      keyAllowed := false
      text := lexer.text.tail }

/-- The comma between two items of a flow. -/
def comma? (lexer : Lexer) : Option Lexer :=
  lexer.dropCandidate?.map fun lexer =>
    { lexer.emit .comma with keyAllowed := true, text := lexer.text.tail }

/-- The sign of an item of a block sequence. -/
def item? (lexer : Lexer) (mark : Mark) : Option Lexer :=
  if !lexer.inFlow && !lexer.keyAllowed then none
  else
    (lexer.openBlock mark.column lexer.tokens.length .blockSequence).dropCandidate?.map
      fun lexer => { lexer.emit .item with keyAllowed := true, text := lexer.text.tail }

/-- The sign of a key. -/
def key? (lexer : Lexer) (mark : Mark) : Option Lexer :=
  if !lexer.inFlow && !lexer.keyAllowed then none
  else
    (lexer.openBlock mark.column lexer.tokens.length .blockMapping).dropCandidate?.map
      fun lexer => { lexer.emit .key with keyAllowed := !lexer.inFlow, text := lexer.text.tail }

/-- The colon before a value. It makes a key of the candidate, if there is one. -/
def value? (lexer : Lexer) (mark : Mark) : Option Lexer :=
  match lexer.candidate with
  | some candidate =>
    let lexer := lexer.insertAt candidate.position .key
    let lexer := lexer.openBlock candidate.column candidate.position .blockMapping
    some { lexer.emit .value with candidate := none, keyAllowed := false, text := lexer.text.tail }
  | none =>
    if !lexer.inFlow && !lexer.keyAllowed then none
    else
      let lexer := lexer.openBlock mark.column lexer.tokens.length .blockMapping
      some { lexer.emit .value with keyAllowed := !lexer.inFlow, text := lexer.text.tail }

/-- A scalar between quotes. -/
def quoted? (lexer : Lexer) (mark : Mark)
    (read : List Mark → Option (List Char × List Mark)) : Option Lexer :=
  match lexer.markCandidate? mark, read lexer.text.tail with
  | some lexer, some (text, rest) =>
    some { lexer.emit (.scalar (String.ofList text) false) with keyAllowed := false, text := rest }
  | _, _ => none

/-- A plain scalar. After a break the next token may be a key again. -/
def plain? (lexer : Lexer) (mark : Mark) : Option Lexer :=
  match lexer.markCandidate? mark, readPlain? lexer.inFlow lexer.level .closed lexer.text with
  | some lexer, some (text, broken, rest) =>
    some { lexer.emit (.scalar (String.ofList text) true) with keyAllowed := broken, text := rest }
  | _, _ => none

/-- A block scalar. -/
def block? (lexer : Lexer) (folded : Bool) : Option Lexer :=
  match lexer.dropCandidate?, readBlock? folded lexer.level lexer.text.tail with
  | some lexer, some (text, rest) =>
    some { lexer.emit (.scalar (String.ofList text) false) with keyAllowed := true, text := rest }
  | _, _ => none

/-- No scalar starts with the character, unless a word follows it closely. -/
def isSign (c : Char) : Bool :=
  isFlowSign c || c = '-' || c = '?' || c = ':' || c = '#' || c = '&' || c = '*' || c = '!' ||
    c = '|' || c = '>' || c = '\x27' || c = '"' || c = '%' || c = '@' || c = '\x60'

/-- A plain scalar may start with the character before the next one. -/
def startsPlain (inFlow : Bool) (c next : Char) : Bool :=
  !(isGap c || isSign c) || (c = '-' && !isBlank next) ||
    (!inFlow && (c = '?' || c = ':') && !isGap next)

/-- The lexer after its next token, which starts at a mark. -/
def next? (lexer : Lexer) (mark : Mark) : Option Lexer :=
  let next := headChar lexer.text.tail
  let stands := lexer.inFlow || isGap next
  if mark.column = 0 && mark.char = '%' then lexer.directive?
  else if startsDocument '-' lexer.text then lexer.document? .documentStart
  else if startsDocument '.' lexer.text then lexer.document? .documentEnd
  else if mark.char = '[' then lexer.openFlow? mark .flowSequence
  else if mark.char = '\x7b' then lexer.openFlow? mark .flowMapping
  else if mark.char = ']' then lexer.closeFlow? .flowSequenceEnd
  else if mark.char = '\x7d' then lexer.closeFlow? .flowMappingEnd
  else if mark.char = ',' then lexer.comma?
  else if mark.char = '-' && isGap next then lexer.item? mark
  else if mark.char = '?' && stands then lexer.key? mark
  else if mark.char = ':' && stands then lexer.value? mark
  else if mark.char = '*' then lexer.anchor? mark .alias
  else if mark.char = '&' then lexer.anchor? mark .anchor
  else if mark.char = '!' then lexer.tag? mark
  else if mark.char = '|' && !lexer.inFlow then lexer.block? false
  else if mark.char = '>' && !lexer.inFlow then lexer.block? true
  else if mark.char = '\x27' then lexer.quoted? mark (readSingle? .closed)
  else if mark.char = '"' then lexer.quoted? mark (readDouble? .closed .outside)
  else if startsPlain lexer.inFlow mark.char next then lexer.plain? mark
  else none

/-- The tokens once the text has ended. -/
def finish? (lexer : Lexer) : Option (List Token) :=
  (lexer.closeBlocks 0).dropCandidate?.map fun lexer => lexer.tokens.reverse

/-- The tokens of the lexer and of the text before it. Every token takes some of the text, so a step
for each mark and one more are enough. -/
def run? : Nat → Lexer → Option (List Token)
  | 0, _ => none
  | fuel + 1, lexer =>
    match lexer.atNextToken.text with
    | [] => none
    | mark :: _ =>
      match lexer.atNextToken.dropPast? mark with
      | none => none
      | some current =>
        let current := current.closeBlocks (mark.column + 1)
        if mark.char = endOfText then current.finish?
        else
          match current.next? mark with
          | none => none
          | some after => run? fuel after

end Lexer

/-- The tokens of a text; `none` when it is no text of documents. -/
def Token.scan? (text : List Char) : Option (List Token) :=
  (Mark.ofText? text).bind fun marks => Lexer.run? (marks.length + 1) { text := marks }

end Switchyard.Yaml
