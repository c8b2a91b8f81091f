import Switchyard.Http.Uri
import Switchyard.Request

/-!
# Request targets

A target given as text is split into scheme and path, whatever its form: `scheme:path` without a
host, an address, or a bare path. Fragment and query are dropped and the path is never decoded
(`Target.split`). A text that is no address at all is a bare path.
-/

namespace Switchyard.Http

/-- The parts of a target that routing reads. -/
structure Target where
  scheme : Option (List Char)
  path : List Char
  deriving Repr, DecidableEq

namespace Target

/-- A scheme: a letter, and then letters, digits, plus signs, hyphens and dots. -/
def isScheme : List Char → Bool
  | [] => false
  | c :: rest =>
    c.isAlpha && rest.all fun d => d.isAlphanum || d = '+' || d = '-' || d = '.'

/-- The text up to the query. -/
def withoutQuery (text : List Char) : List Char := (Text.cut '?' text).1

/-- The target of the form `scheme:rest`, where no host follows. -/
def schemeOnly? (text : List Char) : Option Target :=
  match Text.cut ':' text with
  | (scheme, some rest) =>
    if isScheme scheme && (Text.stripStart? ['/', '/'] rest).isNone then
      some ⟨some scheme, withoutQuery rest⟩
    else none
  | (_, none) => none

/-- The target of a text without a fragment. -/
def ofPlain (text : List Char) : Target :=
  match schemeOnly? text with
  | some target => target
  | none =>
    match Uri.parse? text with
    | some uri => ⟨uri.scheme, uri.path⟩
    | none => ⟨none, withoutQuery text⟩

/-- The scheme and the path of a target. -/
def split (text : List Char) : Target := ofPlain (Uri.withoutFragment text)

end Target

/-- The request for a target: without a scheme it has the empty one, and without a path the root. -/
def requestOf (method uri : String) : Request :=
  let target := Target.split uri.toList
  { method
    scheme := String.ofList (target.scheme.getD [])
    path := String.ofList (if target.path = [] then ['/'] else target.path) }

end Switchyard.Http
