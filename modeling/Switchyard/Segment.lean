import Switchyard.Error
import Switchyard.Text.Split

/-!
# Segments of a path pattern

A path pattern is split at its slashes, empty tokens are dropped, and every other token is one
segment. The first two characters of a token decide: a colon among them announces a placeholder,
`:name` or `~:name`; otherwise a leading tilde makes the literal optional. A colon further on is
ordinary text. `Segment.display` writes a segment as a token again.
-/

namespace Switchyard

/-- One segment of a path pattern: text to be found as it stands, or a name to be bound, and
either of them required or optional. Literal text is kept without escapes. -/
inductive Segment where
  | literal (text : String)
  | optionalLiteral (text : String)
  | placeholder (name : String)
  | optionalPlaceholder (name : String)
  deriving Repr, DecidableEq

namespace Segment

/-- The name that a placeholder binds. -/
def name? : Segment → Option String
  | placeholder name | optionalPlaceholder name => some name
  | literal _ | optionalLiteral _ => none

/-- The text or name that the segment carries. -/
def text : Segment → String
  | literal text | optionalLiteral text => text
  | placeholder name | optionalPlaceholder name => name

/-- The segment may be absent from a path. -/
def isOptional : Segment → Bool
  | optionalLiteral _ | optionalPlaceholder _ => true
  | literal _ | placeholder _ => false

/-- The segment as a token, over its characters. -/
def displayChars : Segment → List Char
  | literal text => text.toList
  | optionalLiteral text => '~' :: text.toList
  | placeholder name => ':' :: name.toList
  | optionalPlaceholder name => '~' :: ':' :: name.toList

/-- The segment as a token. -/
def display (segment : Segment) : String := String.ofList segment.displayChars

/-- Placeholder names are letters and digits of ASCII, at least one. -/
def isName (name : List Char) : Bool := !name.isEmpty && name.all Char.isAlphanum

/-- The placeholder that a token with a colon among its first two characters writes. -/
def placeholderOf (token : List Char) : Except SegmentFault Segment :=
  match token with
  | '~' :: ':' :: name =>
    if isName name then .ok (optionalPlaceholder (String.ofList name)) else .error .placeholderName
  | ':' :: name =>
    if isName name then .ok (placeholder (String.ofList name)) else .error .placeholderName
  | _ => .error .placeholderName

/-- The segment that a token writes. -/
def ofToken (token : List Char) : Except SegmentFault Segment :=
  if (token.take 2).contains ':' then placeholderOf token
  else if token.any fun c => c = '#' || c = '?' then .error .reservedCharacter
  else
    match token with
    | '~' :: rest => .ok (optionalLiteral (String.ofList (rest.dropWhile (· = '~'))))
    | _ => .ok (literal (String.ofList token))

/-- The segment that a token of the pattern `path` writes, or the error that names both. -/
def parse (token path : String) : Except RouteError Segment :=
  (ofToken token.toList).mapError fun fault => .invalidPattern path token fault

/-- The tokens of a path pattern. -/
def tokens (path : String) : List (List Char) :=
  (Text.pieces (· = '/') path.toList).filter (· ≠ [])

/-- The segments of the tokens of `path`, or the error of the first token that writes none. -/
def parseTokens (path : String) : List (List Char) → Except RouteError (List Segment)
  | [] => .ok []
  | token :: rest =>
    match parse (String.ofList token) path with
    | .error cause => .error cause
    | .ok segment => (parseTokens path rest).map (segment :: ·)

/-- The segments of a path pattern. -/
def parsePath (path : String) : Except RouteError (List Segment) := parseTokens path (tokens path)

end Segment

end Switchyard
