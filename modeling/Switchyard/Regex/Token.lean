import Switchyard.Regex.Basic
import Switchyard.Regex.Property
import Switchyard.Unicode.Later

/-!
# Tokens of a pattern

A pattern's text is read as tokens: atoms, group brackets, bars, mode directives and quantifiers.
What an atom stands for depends on the modes in force (`Modes`), so the reader takes the modes and
gives resolved atoms. `Token.read?` takes one token off the front of a text.
-/

namespace Switchyard.Regex

/-- Why a text is no pattern. -/
inductive ParseError where
  | escapeUnfinished
  | escapeUnknown
  | backreference
  | digitsExpected
  | notScalar
  | propertyUnknown
  | classUnclosed
  | classItem
  | rangeReversed
  | groupUnclosed
  | groupUnopened
  | groupName
  | groupNameRepeated
  | lookAround
  | modeUnknown
  | modeRepeated
  | modeDangling
  | nothingToRepeat
  | countUnclosed
  | countMissing
  | countTooLarge
  | countReversed
  | edgeUnknown
  | beyondScalars
  | tooDeep
  | tooLarge
  deriving Repr, DecidableEq

/-- The modes that pattern text is read in. -/
structure Modes where
  caseless : Bool := false
  multiLine : Bool := false
  dotAll : Bool := false
  swapGreed : Bool := false
  crlf : Bool := false
  unicode : Bool := true
  spaced : Bool := false
  deriving Repr, DecidableEq

/-- One piece of pattern text. An opening bracket carries what its group is for and the
modes that hold inside the group. -/
inductive Token where
  | atom (pattern : Regex)
  | opening (grouping : Grouping) (inside : Modes)
  | closing
  | bar
  | directive (modes : Modes)
  | quantifier (min : Nat) (max : Option Nat) (greedy : Bool)
  deriving Repr, DecidableEq

namespace Modes

/-- The rule for ignoring case, when the modes ask for it. -/
def caseRule? (modes : Modes) : Option CaseRule :=
  if modes.caseless then some (if modes.unicode then .unicode else .ascii) else none

/-- The rule for word characters. -/
def wordRule (modes : Modes) : CaseRule := if modes.unicode then .unicode else .ascii

/-- Whether a blank character can stand in spaced pattern text without meaning. -/
def isBlank (c : Char) : Bool := Unicode.Contributory.whiteSpace.holds c

/-- Drops blanks, and comments from a number sign to the end of the line. -/
def dropBlanks (inComment : Bool) : List Char → List Char
  | [] => []
  | c :: rest =>
    if inComment then dropBlanks (c != '\n') rest
    else if isBlank c then dropBlanks false rest
    else if c = '#' then dropBlanks true rest
    else c :: rest

/-- Drops what has no meaning in front of the next character. -/
def skip (modes : Modes) (text : List Char) : List Char :=
  if modes.spaced then dropBlanks false text else text

theorem length_dropBlanks_le (text : List Char) :
    ∀ inComment, (dropBlanks inComment text).length ≤ text.length := by
  induction text with
  | nil => intro inComment; simp [dropBlanks]
  | cons c rest ih =>
    intro inComment
    have hin := ih (c != '\n')
    have hfalse := ih false
    have htrue := ih true
    unfold dropBlanks
    split
    · exact Nat.le_succ_of_le hin
    · split
      · exact Nat.le_succ_of_le hfalse
      · split
        · exact Nat.le_succ_of_le htrue
        · exact Nat.le_refl _

/-- Skipping never makes a text longer. -/
theorem length_skip_le (modes : Modes) (text : List Char) :
    (modes.skip text).length ≤ text.length := by
  unfold skip
  split
  · exact length_dropBlanks_le text false
  · exact Nat.le_refl _

end Modes

/-! ## Numbers -/

/-- The characters at the front of a text that pass a test, with blanks skipped after each. -/
def spanSkipping (modes : Modes) (passes : Char → Bool) : List Char → List Char × List Char
  | [] => ([], [])
  | c :: rest =>
    if passes c then
      let (taken, after) := spanSkipping modes passes (modes.skip rest)
      (c :: taken, after)
    else ([], c :: rest)
  termination_by text => text.length
  decreasing_by
    have := modes.length_skip_le rest
    simp only [List.length_cons]
    omega

/-- The number that decimal digits write. -/
def decimalNumber (digits : List Char) : Nat :=
  digits.foldl (fun value c => value * 10 + (c.toNat - '0'.toNat)) 0

/-- The greatest bound that a quantifier may write. -/
def greatestCount : Nat := 4294967295

/-- A bound of a quantifier, with blanks around it; `none` when no digit stands there. -/
def readCount (modes : Modes) (text : List Char) : Except ParseError ((Option Nat) × List Char) :=
  let (digits, rest) := spanSkipping modes Char.isDigit (text.dropWhile Modes.isBlank)
  let rest := rest.dropWhile Modes.isBlank
  if digits = [] then .ok (none, rest)
  else if decimalNumber digits ≤ greatestCount then .ok (some (decimalNumber digits), rest)
  else .error .countTooLarge

/-- A quantifier's laziness mark, and whether the quantifier is greedy. -/
def readGreed (modes : Modes) : List Char → Bool × List Char
  | '?' :: rest => (modes.swapGreed, rest)
  | text => (!modes.swapGreed, text)

/-- A counted quantifier, after its opening brace. -/
def readCounted (modes : Modes) (text : List Char) : Except ParseError (Token × List Char) := do
  let (low, rest) ← readCount modes (modes.skip text)
  let (low, high, rest) ←
    match rest, low with
    | [], _ => .error .countUnclosed
    | ',' :: rest, low =>
      match modes.skip rest, low with
      | '\x7d' :: rest, some low => .ok (low, none, '\x7d' :: rest)
      | rest, some low => do
        let (high, rest) ← readCount modes rest
        match high with
        | some high => .ok (low, some high, rest)
        | none => .error .countMissing
      | _, none => .error .countMissing
    | rest, some low => .ok (low, some low, rest)
    | _, none => .error .countMissing
  match rest with
  | '\x7d' :: rest =>
    let (greedy, rest) := readGreed modes (modes.skip rest)
    if high.any (· < low) then .error .countReversed
    else .ok (.quantifier low high greedy, rest)
  | _ => .error .countUnclosed

/-! ## Escapes -/

/-- What an escape or a plain character stands for, before the modes are applied. A character
written as two hexadecimal digits can be meant as a byte. -/
inductive Primitive where
  | literal (c : Char) (asByte : Bool)
  | chars (members : CharClass)
  | assertion (look : Look)

/-- The scalar value with that number. -/
def scalar? (value : Nat) : Option Char :=
  if value < 0xD800 ∨ (0xDFFF < value ∧ value < 0x110000) then some (Char.ofNat value) else none

/-- The first `count` characters when all of them are hexadecimal digits, blanks skipped. -/
def readDigits (modes : Modes) : Nat → List Char → Except ParseError ((List Char) × List Char)
  | 0, text => .ok ([], text)
  | _ + 1, [] => .error .escapeUnfinished
  | count + 1, c :: rest =>
    if (Unicode.hexValue? c).isSome then do
      let (digits, rest) ← readDigits modes count (modes.skip rest)
      .ok (c :: digits, rest)
    else .error .digitsExpected

/-- A character written by its number, after `x`, `u` or `U`: a fixed count of hexadecimal digits,
or any count between braces. -/
def readNumbered (modes : Modes) (count : Nat) (text : List Char) :
    Except ParseError (Primitive × List Char) := do
  let (digits, braced, rest) ←
    match modes.skip text with
    | '\x7b' :: rest =>
      let (digits, rest) := spanSkipping modes (fun c => (Unicode.hexValue? c).isSome)
        (modes.skip rest)
      match rest with
      | '\x7d' :: rest =>
        if digits = [] then .error .digitsExpected else .ok (digits, true, modes.skip rest)
      | _ => .error .digitsExpected
    | text => do
      let (digits, rest) ← readDigits modes count text
      .ok (digits, false, rest)
  match scalar? (Unicode.hexNumber digits) with
  | some c => .ok (.literal c (!braced && count == 2), rest)
  | none => .error .notScalar

/-- The text up to a closing brace, blanks skipped, and what follows the brace. -/
def readBraced (modes : Modes) (text : List Char) : Except ParseError ((List Char) × List Char) :=
  match spanSkipping modes (· != '\x7d') (modes.skip text) with
  | (name, '\x7d' :: rest) => .ok (name, rest)
  | _ => .error .escapeUnfinished

/-- A class under the modes: case is ignored before the complement is taken. -/
def foldThenNegate (modes : Modes) (negated : Bool) (chars : CharClass) : CharClass :=
  let folded := CharClass.foldBy modes.caseRule? chars
  if negated then .complement folded else folded

/-- A property, after `p` or `P`: one letter, or a name between braces. -/
def readProperty (modes : Modes) (negated : Bool) (text : List Char) :
    Except ParseError (Primitive × List Char) := do
  let (found, rest) ←
    match modes.skip text with
    | [] => .error .escapeUnfinished
    | '\x7b' :: rest => do
      let (name, rest) ← readBraced modes rest
      .ok (Property.Query.ofBraces? name, rest)
    | c :: rest =>
      if c = '\\' then .error .propertyUnknown
      else .ok (Property.Query.ofLetter? c, modes.skip rest)
  match found with
  | some query =>
    if modes.unicode then
      .ok (.chars (foldThenNegate modes (negated != query.negated) (.table query.ranges)), rest)
    else .error .beyondScalars
  | none => .error .propertyUnknown

/-- A class with a letter of its own, which is closed under case already. Outside Unicode mode the
complement would hold bytes that are no character, and is refused. -/
def letterClass (modes : Modes) (negated : Bool) (wide narrow : CharClass) :
    Except ParseError Primitive :=
  if modes.unicode then .ok (.chars (if negated then .complement wide else wide))
  else if negated then .error .beyondScalars
  else .ok (.chars narrow)

/-- The edge of a word that a name between braces asks for. -/
def edgeNamed? (name : List Char) : Option WordEdge :=
  match String.ofList name with
  | "start" => some .start
  | "end" => some .stop
  | "start-half" => some .startHalf
  | "end-half" => some .stopHalf
  | _ => none

/-- A word boundary, after `b`. A brace that cannot start an edge's name is left for the
quantifier that it opens. -/
def readBoundary (modes : Modes) (text : List Char) : Except ParseError (Primitive × List Char) :=
  let boundary := fun (edge : WordEdge) => Primitive.assertion (.word edge modes.wordRule)
  let isNameChar := fun (c : Char) => c.isAlpha || c == '-'
  match text with
  | '\x7b' :: inner =>
    match modes.skip inner with
    | [] => .error .edgeUnknown
    | c :: rest =>
      if isNameChar c then
        match spanSkipping modes isNameChar (c :: rest) with
        | (name, '\x7d' :: rest) =>
          match edgeNamed? name with
          | some edge => .ok (boundary edge, rest)
          | none => .error .edgeUnknown
        | _ => .error .edgeUnknown
      else .ok (boundary .boundary, text)
  | _ => .ok (boundary .boundary, text)

/-- A character that may be escaped though it is no letter: any other of ASCII but the angle
brackets, which assert the edges of a word. -/
def isEscapable (c : Char) : Bool :=
  c.toNat < 128 && !c.isAlphanum && c != '<' && c != '>'

/-- What stands behind a backslash. -/
def readEscape (modes : Modes) : List Char → Except ParseError (Primitive × List Char)
  | [] => .error .escapeUnfinished
  | c :: rest =>
    let kind := fun (negated : Bool) (wide narrow : CharClass) => do
      let primitive ← letterClass modes negated wide narrow
      .ok (primitive, rest)
    let plain := fun (d : Char) => Except.ok (Primitive.literal d false, rest)
    let edge := fun (e : WordEdge) => Except.ok (Primitive.assertion (.word e modes.wordRule), rest)
    match c with
    | 'x' => readNumbered modes 2 rest
    | 'u' => readNumbered modes 4 rest
    | 'U' => readNumbered modes 8 rest
    | 'p' => readProperty modes false rest
    | 'P' => readProperty modes true rest
    | 'd' => kind false CharClass.digit CharClass.asciiDigit
    | 'D' => kind true CharClass.digit CharClass.asciiDigit
    | 's' => kind false CharClass.space CharClass.asciiSpace
    | 'S' => kind true CharClass.space CharClass.asciiSpace
    | 'w' => kind false CharClass.word CharClass.asciiWord
    | 'W' => kind true CharClass.word CharClass.asciiWord
    | 'a' => plain '\x07'
    | 'f' => plain '\x0c'
    | 't' => plain '\t'
    | 'n' => plain '\n'
    | 'r' => plain '\r'
    | 'v' => plain '\x0b'
    | 'A' => .ok (.assertion .textStart, rest)
    | 'z' => .ok (.assertion .textEnd, rest)
    | 'b' => readBoundary modes rest
    | 'B' => edge .inside
    | '<' => edge .start
    | '>' => edge .stop
    | _ =>
      if c.isDigit then .error .backreference
      else if isEscapable c then plain c
      else .error .escapeUnknown

/-! ## Bracketed classes -/

/-- A set operation between the parts of a bracketed class. -/
inductive SetOperation where
  | intersection
  | difference
  | symmetricDifference

/-- The class that an operation makes of its two sides, each closed under case first. -/
def SetOperation.apply (modes : Modes) : SetOperation → CharClass → CharClass → CharClass
  | operation, left, right =>
    let left := CharClass.foldBy modes.caseRule? left
    let right := CharClass.foldBy modes.caseRule? right
    match operation with
    | .intersection => .intersection left right
    | .difference => .difference left right
    | .symmetricDifference => .symmetricDifference left right

/-- What has been read of a bracketed class: the left side of a pending operation, and the items
since. -/
structure ClassParts where
  pending : Option (SetOperation × CharClass) := none
  items : CharClass := .nothing

/-- The parts with one more item. -/
def ClassParts.push (parts : ClassParts) (item : CharClass) : ClassParts :=
  { parts with
    items := match parts.items with
      | .nothing => item
      | items => .union items item }

/-- The class that the parts make up. -/
def ClassParts.finish (modes : Modes) (parts : ClassParts) : CharClass :=
  match parts.pending with
  | none => parts.items
  | some (operation, left) => operation.apply modes left parts.items

/-- The parts after an operator: what was read becomes its left side. -/
def ClassParts.operate (modes : Modes) (operation : SetOperation) (parts : ClassParts) :
    ClassParts :=
  { pending := some (operation, parts.finish modes) }

/-- A negated class outside Unicode mode would hold bytes that are no character. -/
def bracketed (modes : Modes) (negated : Bool) (inner : CharClass) :
    Except ParseError CharClass :=
  if negated && !modes.unicode then .error .beyondScalars
  else .ok (.bracket negated (CharClass.foldBy modes.caseRule? inner))

/-- `[:name:]`, after its opening bracket; `none` when the text is no such class. -/
def readPosix? (modes : Modes) : List Char → Option (Except ParseError CharClass × List Char)
  | ':' :: text =>
    let (negated, text) :=
      match text with
      | '^' :: text => (true, text)
      | text => (false, text)
    match Text.cut ':' text with
    | (name, some (']' :: rest)) =>
      (CharClass.posix? name).map fun inner =>
        if negated && !modes.unicode then (.error .beyondScalars, rest)
        else (.ok (foldThenNegate modes negated inner), rest)
    | _ => none
  | _ => none

/-- One end of a range, or an item of its own. -/
def readClassPrimitive (modes : Modes) : List Char → Except ParseError (Primitive × List Char)
  | [] => .error .classUnclosed
  | '\\' :: rest => readEscape modes rest
  | c :: rest => .ok (.literal c false, rest)

/-- The character that an end of a range stands for. Outside Unicode mode only ASCII can be
written in a class. -/
def Primitive.character (modes : Modes) : Primitive → Except ParseError Char
  | .literal c _ => if modes.unicode || c.toNat < 128 then .ok c else .error .beyondScalars
  | _ => .error .classItem

/-- The class that a primitive stands for as an item of its own. -/
def Primitive.item (modes : Modes) : Primitive → Except ParseError CharClass
  | .chars members => .ok members
  | primitive => primitive.character modes |>.map CharClass.single

/-- The character after the one at the front, blanks and one comment sign skipped. -/
def peekPast (modes : Modes) : List Char → Option Char
  | [] => none
  | _ :: rest =>
    if modes.spaced then
      match rest.dropWhile Modes.isBlank with
      | '#' :: rest => (rest.dropWhile Modes.isBlank).head?
      | rest => rest.head?
    else rest.head?

/-- One item of a bracketed class: a character, a class with a letter of its own, or a range. A
hyphen before the closing bracket, or before another hyphen, makes no range. -/
def readClassItem (modes : Modes) (text : List Char) :
    Except ParseError (CharClass × List Char) := do
  let (first, rest) ← readClassPrimitive modes text
  match modes.skip rest with
  | [] => .error .classUnclosed
  | c :: rest =>
    if c != '-' || peekPast modes (c :: rest) == some ']' || peekPast modes (c :: rest) == some '-'
    then do
      let item ← first.item modes
      .ok (item, c :: rest)
    else do
      let (second, rest) ← readClassPrimitive modes (modes.skip rest)
      let low ← first.character modes
      let high ← second.character modes
      if low ≤ high then .ok (.range low high, rest) else .error .rangeReversed

/-- The hyphens at the front of a class, which stand for themselves. -/
def readHyphens (modes : Modes) (parts : ClassParts) (text : List Char) :
    ClassParts × List Char :=
  let (hyphens, rest) := spanSkipping modes (· == '-') text
  (hyphens.foldl (fun parts _ => parts.push (.single '-')) parts, rest)

mutual

/-- A bracketed class, after its opening bracket. A closing bracket that comes first stands for
itself. -/
def readClass (modes : Modes) : Nat → List Char → Except ParseError (CharClass × List Char)
  | 0, _ => .error .classUnclosed
  | fuel + 1, text =>
    let (negated, text) :=
      match modes.skip text with
      | '^' :: text => (true, modes.skip text)
      | text => (false, text)
    let (parts, text) := readHyphens modes {} text
    let (parts, text) :=
      match parts.items, text with
      | .nothing, ']' :: text => (parts.push (.single ']'), text)
      | _, text => (parts, text)
    match readClassParts modes fuel parts text with
    | .error cause => .error cause
    | .ok (inner, rest) => (bracketed modes negated inner).map fun members => (members, rest)

/-- The items of a class up to its closing bracket. -/
def readClassParts (modes : Modes) :
    Nat → ClassParts → List Char → Except ParseError (CharClass × List Char)
  | 0, _, _ => .error .classUnclosed
  | fuel + 1, parts, text =>
    match modes.skip text with
    | [] => .error .classUnclosed
    | ']' :: rest => .ok (parts.finish modes, rest)
    | '&' :: '&' :: rest => readClassParts modes fuel (parts.operate modes .intersection) rest
    | '-' :: '-' :: rest => readClassParts modes fuel (parts.operate modes .difference) rest
    | '~' :: '~' :: rest =>
      readClassParts modes fuel (parts.operate modes .symmetricDifference) rest
    | '[' :: rest =>
      match readPosix? modes rest with
      | some (.error cause, _) => .error cause
      | some (.ok members, rest) => readClassParts modes fuel (parts.push members) rest
      | none =>
        match readClass modes fuel rest with
        | .error cause => .error cause
        | .ok (members, rest) => readClassParts modes fuel (parts.push members) rest
    | text =>
      match readClassItem modes text with
      | .error cause => .error cause
      | .ok (item, rest) => readClassParts modes fuel (parts.push item) rest

end

/-! ## Groups -/

/-- One mode letter. -/
inductive ModeLetter where
  | caseless
  | multiLine
  | dotAll
  | swapGreed
  | crlf
  | unicode
  | spaced
  deriving DecidableEq

/-- The mode that a letter names. -/
def ModeLetter.ofChar? : Char → Option ModeLetter
  | 'i' => some .caseless
  | 'm' => some .multiLine
  | 's' => some .dotAll
  | 'U' => some .swapGreed
  | 'R' => some .crlf
  | 'u' => some .unicode
  | 'x' => some .spaced
  | _ => none

/-- The modes with one of them set or cleared. -/
def Modes.assign (modes : Modes) (value : Bool) : ModeLetter → Modes
  | .caseless => { modes with caseless := value }
  | .multiLine => { modes with multiLine := value }
  | .dotAll => { modes with dotAll := value }
  | .swapGreed => { modes with swapGreed := value }
  | .crlf => { modes with crlf := value }
  | .unicode => { modes with unicode := value }
  | .spaced => { modes with spaced := value }

/-- What has been read of a list of mode letters: the letters so far, whether a minus sign has
come, and whether it came last. -/
structure ModeList where
  modes : Modes
  seen : List ModeLetter := []
  negated : Bool := false
  dangling : Bool := false

/-- Mode letters up to a colon or a closing bracket, which is given back first. -/
def readModes (list : ModeList) : List Char → Except ParseError ((ModeList × Char) × List Char)
  | [] => .error .groupUnclosed
  | c :: rest =>
    if c = ':' ∨ c = ')' then
      if list.dangling then .error .modeDangling else .ok ((list, c), rest)
    else if c = '-' then
      if list.negated then .error .modeRepeated
      else readModes { list with negated := true, dangling := true } rest
    else
      match ModeLetter.ofChar? c with
      | none => .error .modeUnknown
      | some letter =>
        if letter ∈ list.seen then .error .modeRepeated
        else readModes { list with
          modes := list.modes.assign (!list.negated) letter
          seen := letter :: list.seen
          dangling := false } rest

/-- A character of a group's name. -/
def isNameChar (isFirst : Bool) (c : Char) : Bool :=
  if isFirst then c == '_' || Unicode.Later.alphabetic.contains c.toNat
  else c == '_' || c == '.' || c == '[' || c == ']' || Unicode.Later.alphanumeric.contains c.toNat

/-- A group's name up to its closing angle bracket. -/
def readName (text : List Char) : Except ParseError ((List Char) × List Char) :=
  match Text.cut '>' text with
  | (name, some rest) =>
    match name with
    | [] => .error .groupName
    | c :: more =>
      if isNameChar true c && more.all (isNameChar false) then .ok (name, rest)
      else .error .groupName
  | (_, none) => .error .groupName

/-- A group's opening or a mode directive, after the round bracket. -/
def readOpening (modes : Modes) (text : List Char) : Except ParseError (Token × List Char) :=
  let named := fun (rest : List Char) => do
    let (name, rest) ← readName rest
    .ok (Token.opening (.named name) modes, rest)
  match modes.skip text with
  | '?' :: '=' :: _ | '?' :: '!' :: _ | '?' :: '<' :: '=' :: _ | '?' :: '<' :: '!' :: _ =>
    .error .lookAround
  | '?' :: 'P' :: '<' :: rest => named rest
  | '?' :: '<' :: rest => named rest
  | '?' :: rest => do
    let ((list, last), rest) ← readModes { modes } rest
    if last = ':' then .ok (.opening .plain list.modes, rest)
    else if list.seen = [] then .error .nothingToRepeat
    else .ok (.directive list.modes, rest)
  | text => .ok (.opening .numbered modes, text)

/-! ## One token -/

/-- The atom that a primitive stands for. -/
def Primitive.atom (modes : Modes) : Primitive → Except ParseError Regex
  | .chars members => .ok (.set members)
  | .assertion place => .ok (.look place)
  | .literal c asByte =>
    if asByte && !modes.unicode && 128 ≤ c.toNat then .error .beyondScalars
    else .ok (.set (CharClass.foldBy modes.caseRule? (.single c)))

/-- The atom that a dot stands for. Outside Unicode mode it would match single bytes. -/
def dotAtom (modes : Modes) : Except ParseError Regex :=
  if !modes.unicode then .error .beyondScalars
  else if modes.dotAll then .ok (.set .everything)
  else if modes.crlf then .ok (.set (.complement (.ofHex "A D")))
  else .ok (.set (.complement (.single '\n')))

/-- The token at the front of a text, which starts with its first character `c`. -/
def Token.read (modes : Modes) (c : Char) (rest : List Char) :
    Except ParseError (Token × List Char) :=
  let quantifier := fun (min : Nat) (max : Option Nat) =>
    let (greedy, rest) := readGreed modes rest
    Except.ok (Token.quantifier min max greedy, rest)
  let place := fun (assertion : Look) => Except.ok (Token.atom (.look assertion), rest)
  match c with
  | '(' => readOpening modes rest
  | ')' => .ok (.closing, rest)
  | '|' => .ok (.bar, rest)
  | '[' => do
    let (members, rest) ← readClass modes (2 * rest.length + 2) rest
    .ok (.atom (.set members), rest)
  | '?' => quantifier 0 (some 1)
  | '*' => quantifier 0 none
  | '+' => quantifier 1 none
  | '\x7b' => readCounted modes rest
  | '\\' => do
    let (primitive, rest) ← readEscape modes rest
    let atom ← primitive.atom modes
    .ok (.atom atom, rest)
  | '.' => do
    let atom ← dotAtom modes
    .ok (.atom atom, rest)
  | '^' => place (if modes.multiLine then .lineStart modes.crlf else .textStart)
  | '$' => place (if modes.multiLine then .lineEnd modes.crlf else .textEnd)
  | _ => do
    let atom ← (Primitive.literal c false).atom modes
    .ok (.atom atom, rest)

/-- Takes one token off the front of a text; `none` at its end. -/
def Token.read? (modes : Modes) (text : List Char) :
    Except ParseError (Option (Token × List Char)) :=
  match modes.skip text with
  | [] => .ok none
  | c :: rest => (Token.read modes c rest).map some

end Switchyard.Regex
