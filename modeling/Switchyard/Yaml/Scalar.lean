import Switchyard.Unicode.Ranges
import Switchyard.Yaml.Mark

/-!
# Scalars

The five ways a scalar is written: plain, between single quotes, between double quotes, and as a
block whose lines are kept or folded. Each reader takes the marks after the scalar's first sign and
gives the scalar's text back with the marks after it.
-/

namespace Switchyard.Yaml

/-! ## Gaps -/

/-- What lies between two words of a scalar: nothing, blanks of one line, or breaks, with the blanks
around them dropped. `first` is empty when the first break was escaped. -/
inductive Gap where
  | closed
  | blanks (text : List Char)
  | breaks (first more : List Char)
  deriving Repr, DecidableEq

namespace Gap

/-- The gap with a blank or a break after it. -/
def add (gap : Gap) (c : Char) : Gap :=
  if isBreak c then
    match gap with
    | breaks first more => breaks first (more ++ [c])
    | _ => breaks [c] []
  else
    match gap with
    | closed => blanks [c]
    | blanks text => blanks (text ++ [c])
    | breaks first more => breaks first more

/-- The gap holds a break. -/
def hasBreak : Gap → Bool
  | breaks .. => true
  | _ => false

/-- The gap as it stands in the scalar: one break becomes a space, and the first of several is
dropped. -/
def fold : Gap → List Char
  | closed => []
  | blanks text => text
  | breaks first more =>
    if first = ['\n'] then (if more = [] then [' '] else more) else first ++ more

end Gap

/-! ## Plain scalars -/

/-- The character is a sign of flow collections. -/
def isFlowSign (c : Char) : Bool := c = ',' || c = '[' || c = ']' || c = '\x7b' || c = '\x7d'

/-- A plain scalar ends before these marks, after the gap. -/
def plainEnds (inFlow : Bool) (level : Nat) (gap : Gap) : List Mark → Bool
  | [] => true
  | mark :: rest =>
    mark.char = endOfText ||
      (gap ≠ .closed && ((!inFlow && mark.column < level) || mark.char = '#' ||
        atDocumentSign (mark :: rest))) ||
      (mark.char = ':' && isGap (headChar rest)) || (inFlow && isFlowSign mark.char)

/-- The text of a plain scalar, whether a line was broken after it, and the marks after it. In a
flow a colon does not stand before another sign, and outside of one no tab comes before the
scalar's level. -/
def readPlain? (inFlow : Bool) (level : Nat) (gap : Gap) :
    List Mark → Option (List Char × Bool × List Mark)
  | [] => some ([], gap.hasBreak, [])
  | mark :: rest =>
    if isBlank mark.char || isBreak mark.char then
      if mark.char = '\t' && gap.hasBreak && mark.column < level then none
      else readPlain? inFlow level (gap.add mark.char) rest
    else if plainEnds inFlow level gap (mark :: rest) then
      some ([], gap.hasBreak, mark :: rest)
    else if inFlow && mark.char = ':' && (isFlowSign (headChar rest) || headChar rest = '?') then
      none
    else
      (readPlain? inFlow level .closed rest).map fun read =>
        (gap.fold ++ mark.char :: read.1, read.2)

/-! ## Quoted scalars -/

/-- The text of a scalar between single quotes, in which two quotes stand for one. -/
def readSingle? (gap : Gap) : List Mark → Option (List Char × List Mark)
  | [] => none
  | mark :: rest =>
    if isBlank mark.char || isBreak mark.char then readSingle? (gap.add mark.char) rest
    else if mark.char = endOfText || atDocumentSign (mark :: rest) then none
    else if mark.char = '\x27' then
      match rest with
      | next :: after =>
        if next.char = '\x27' then
          (readSingle? .closed after).map fun read => (gap.fold ++ '\x27' :: read.1, read.2)
        else some (gap.fold, next :: after)
      | [] => some (gap.fold, [])
    else
      (readSingle? .closed rest).map fun read => (gap.fold ++ mark.char :: read.1, read.2)

/-- The character that a letter after a backslash stands for. -/
def escaped? : Char → Option Char
  | '0' => some '\x00'
  | 'a' => some '\x07'
  | 'b' => some '\x08'
  | 't' => some '\t'
  | '\t' => some '\t'
  | 'n' => some '\n'
  | 'v' => some '\x0b'
  | 'f' => some '\x0c'
  | 'r' => some '\r'
  | 'e' => some '\x1b'
  | ' ' => some ' '
  | '"' => some '"'
  | '/' => some '/'
  | '\\' => some '\\'
  | 'N' => some '\u0085'
  | '_' => some '\u00a0'
  | 'L' => some '\u2028'
  | 'P' => some '\u2029'
  | _ => none

/-- How many hexadecimal digits follow a letter after a backslash. -/
def codeLength? : Char → Option Nat
  | 'x' => some 2
  | 'u' => some 4
  | 'U' => some 8
  | _ => none

/-- Where a reader stands in a scalar between double quotes: in its text, after a backslash, or
before the remaining digits of a code. -/
inductive Escape where
  | outside
  | backslash
  | code (value left : Nat)
  deriving Repr, DecidableEq

/-- The text of a scalar between double quotes. An escaped break counts as no character. -/
def readDouble? (gap : Gap) (state : Escape) : List Mark → Option (List Char × List Mark)
  | [] => none
  | mark :: rest =>
    match state with
    | .outside =>
      if isBlank mark.char || isBreak mark.char then readDouble? (gap.add mark.char) .outside rest
      else if mark.char = endOfText || atDocumentSign (mark :: rest) then none
      else if mark.char = '"' then some (gap.fold, rest)
      else if mark.char = '\\' then
        (readDouble? .closed .backslash rest).map fun read => (gap.fold ++ read.1, read.2)
      else
        (readDouble? .closed .outside rest).map fun read =>
          (gap.fold ++ mark.char :: read.1, read.2)
    | .backslash =>
      if isBreak mark.char then readDouble? (.breaks [] []) .outside rest
      else
        match escaped? mark.char with
        | some c => (readDouble? .closed .outside rest).map fun read => (c :: read.1, read.2)
        | none =>
          match codeLength? mark.char with
          | some length => readDouble? .closed (.code 0 length) rest
          | none => none
    | .code value left =>
      match Unicode.hexValue? mark.char with
      | none => none
      | some digit =>
        let value := value * 16 + digit
        if 1 < left then readDouble? .closed (.code value (left - 1)) rest
        else if value.isValidChar then
          (readDouble? .closed .outside rest).map fun read => (Char.ofNat value :: read.1, read.2)
        else none

/-! ## Block scalars -/

/-- What a block scalar keeps of the breaks at its end: none, the first, or all. -/
inductive Chomp where
  | strip
  | clip
  | keep
  deriving Repr, DecidableEq

/-- The sign of a way to end a block scalar. -/
def Chomp.ofSign? : Char → Option Chomp
  | '-' => some .strip
  | '+' => some .keep
  | _ => none

/-- An indentation from one to nine. -/
def indentOfSign? (c : Char) : Option Nat :=
  if '1' ≤ c ∧ c ≤ '9' then some (c.toNat - '0'.toNat) else none

/-- The end and the indentation that a block scalar states, in either order; the indentation is
zero when none is stated. -/
def readHeader (text : List Mark) : Chomp × Nat × List Mark :=
  match Chomp.ofSign? (headChar text), indentOfSign? (headChar text) with
  | some chomp, _ =>
    match indentOfSign? (headChar text.tail) with
    | some indent => (chomp, indent, text.tail.tail)
    | none => (chomp, 0, text.tail)
  | none, some indent =>
    match Chomp.ofSign? (headChar text.tail) with
    | some chomp => (chomp, indent, text.tail.tail)
    | none => (.clip, indent, text.tail)
  | none, none => (.clip, 0, text)

/-- The marks after the rest of a line that holds only blanks and a comment. -/
def readLineEnd? (text : List Mark) : Option (List Mark) :=
  let text := text.dropWhile fun mark => isBlank mark.char
  let text :=
    if headChar text = '#' then
      text.dropWhile fun mark => !(isBreak mark.char || mark.char = endOfText)
    else text
  if isBreak (headChar text) then some text.tail
  else if headChar text = endOfText then some text
  else none

/-- The greatest column that the spaces at the start of a block reach, up to its first line that is
not empty. A tab among them is refused. -/
def leadingColumn? : List Mark → Option Nat
  | [] => some 0
  | mark :: rest =>
    if mark.char = ' ' then leadingColumn? rest
    else if mark.char = '\t' then none
    else if isBreak mark.char then (leadingColumn? rest).map (max mark.column)
    else some mark.column

/-- A line of a block scalar without its indentation: an empty one, or one with its text and what
ends it. -/
inductive BlockLine where
  | empty (ending : Char)
  | words (text ending : List Char)
  deriving Repr, DecidableEq

/-- The lines of a block scalar. `line` is the line being read, last character first. The block ends
before the first line that is set in less. -/
def readBlockLines? (indent : Nat) (line : Option (List Char)) :
    List Mark → Option (List BlockLine × List Mark)
  | [] => some ([], [])
  | mark :: rest =>
    match line with
    | some text =>
      if isBreak mark.char then
        (readBlockLines? indent none rest).map fun read =>
          (.words text.reverse [mark.char] :: read.1, read.2)
      else if mark.char = endOfText then some ([.words text.reverse []], mark :: rest)
      else readBlockLines? indent (some (mark.char :: text)) rest
    | none =>
      if mark.column < indent && mark.char = ' ' then readBlockLines? indent none rest
      else if mark.column < indent && mark.char = '\t' then none
      else if isBreak mark.char then
        (readBlockLines? indent none rest).map fun read => (.empty mark.char :: read.1, read.2)
      else if mark.column = indent && mark.char ≠ endOfText then
        readBlockLines? indent (some [mark.char]) rest
      else some ([], mark :: rest)

/-- The text of a block scalar. `ending` is what ended the last line of words, `empties` the breaks
of the empty lines since, and `isSetIn` tells whether that line began with a blank. When lines are
folded the end of a line becomes a space, or nothing before empty lines, unless it or the next one
begins with a blank. -/
def joinLines (folded : Bool) (chomp : Chomp) (ending empties : List Char) (isSetIn : Bool) :
    List BlockLine → List Char
  | [] =>
    (if chomp = .strip then [] else ending) ++ (if chomp = .keep then empties else [])
  | .empty c :: rest => joinLines folded chomp ending (empties ++ [c]) isSetIn rest
  | .words text next :: rest =>
    let nextSetIn := (text.head?.map isBlank).getD false
    let joint :=
      if folded && ending = ['\n'] && !isSetIn && !nextSetIn then
        (if empties = [] then [' '] else [])
      else ending
    joint ++ empties ++ text ++ joinLines folded chomp next [] nextSetIn rest

/-- A block scalar inside a block of the given level, after its first sign. -/
def readBlock? (folded : Bool) (level : Nat) (text : List Mark) :
    Option (List Char × List Mark) :=
  let (chomp, stated, text) := readHeader text
  match readLineEnd? text with
  | none => none
  | some text =>
    let indent? :=
      if stated = 0 then (leadingColumn? text).map fun column => max column (max level 1)
      else some (level - 1 + stated)
    match indent? with
    | none => none
    | some indent =>
      (readBlockLines? indent none text).map fun read =>
        (joinLines folded chomp [] [] false read.1, read.2)

end Switchyard.Yaml
