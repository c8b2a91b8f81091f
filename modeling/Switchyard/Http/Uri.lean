import Switchyard.Text.Split

/-!
# Addresses of requests

The address in a request is a path with a query, a host alone, or a scheme with a host and
perhaps a path and a query. Reading one keeps the scheme and the path and checks the rest.
Characters outside ASCII are allowed in paths and queries only. `Uri.parse?` accepts exactly the
texts of one of these forms.
-/

namespace Switchyard.Http

/-- What routing reads of an address. A host alone has the empty path. -/
structure Uri where
  scheme : Option (List Char) := none
  path : List Char
  deriving Repr, DecidableEq

namespace Uri

/-- The greatest length of an address, in bytes. -/
def maxLength : Nat := 65534

/-- The greatest length of a scheme. -/
def maxSchemeLength : Nat := 64

/-- The length of a text in bytes. -/
def byteLength (text : List Char) : Nat := text.foldr (fun c rest => c.utf8Size + rest) 0

/-- A character that may stand in a path. -/
def isPathChar (c : Char) : Bool :=
  let n := c.toNat
  n = 0x21 || n = 0x22 || (0x24 ≤ n && n ≤ 0x3B) || n = 0x3D || (0x40 ≤ n && n ≤ 0x5F) ||
    (0x61 ≤ n && n ≤ 0x7E) || 0x80 ≤ n

/-- A character that may stand in a query. -/
def isQueryChar (c : Char) : Bool :=
  let n := c.toNat
  n = 0x21 || (0x24 ≤ n && n ≤ 0x3B) || n = 0x3D || (0x3F ≤ n && n ≤ 0x7E) || 0x80 ≤ n

/-- A character that may stand in a scheme. -/
def isSchemeChar (c : Char) : Bool :=
  c.isAlphanum || c = '+' || c = '-' || c = '.' || c = '~'

/-- A character that may stand in an authority; the percent sign only where a user or a bracketed
host may have one. -/
def isAuthorityChar (c : Char) : Bool :=
  c.isAlphanum ||
    ['!', '$', '&', '\x27', '(', ')', '*', '+', ',', '-', '.', ':', ';', '=', '@', '[', ']', '_',
      '~', '%'].contains c

/-- The text up to a fragment. -/
def withoutFragment (text : List Char) : List Char := (Text.cut '#' text).1

/-- The path of a path with a query: the text up to the question mark, which stands for the root
when it is empty. The fragment is not looked at. -/
def pathOf? (text : List Char) : Option (List Char) :=
  let (path, query) := Text.cut '?' (withoutFragment text)
  if path.all isPathChar && query.all (·.all isQueryChar) then
    some (if path = [] then ['/'] else path)
  else none

/-- What has been read of an authority: the colons since a user or a bracketed host ended, the
brackets, whether a percent sign is pending, and whether an at sign came last. -/
structure AuthorityState where
  colons : Nat := 0
  opened : Bool := false
  closed : Bool := false
  percent : Bool := false
  atEnd : Bool := false

/-- The state after one more character of an authority. -/
def AuthorityState.next? (state : AuthorityState) (c : Char) : Option AuthorityState :=
  let state := { state with atEnd := c == '@' }
  if c = ':' then
    if state.colons < 8 then some { state with colons := state.colons + 1 } else none
  else if c = '[' then
    if state.percent || state.opened then none else some { state with opened := true }
  else if c = ']' then
    if state.opened && !state.closed then
      some { state with closed := true, colons := 0, percent := false }
    else none
  else if c = '@' then some { state with colons := 0, percent := false }
  else if c = '%' then some { state with percent := true }
  else if isAuthorityChar c then some state
  else none

/-- The state in which an authority may end. -/
def AuthorityState.isComplete (state : AuthorityState) : Bool :=
  state.opened == state.closed && state.colons ≤ 1 && !state.atEnd && !state.percent

/-- The text is an authority. -/
def isAuthority (text : List Char) : Bool :=
  text ≠ [] && (text.foldlM AuthorityState.next? {}).any AuthorityState.isComplete

/-- The text up to the path, the query or the fragment, and the rest. -/
def splitAuthority (text : List Char) : List Char × List Char :=
  text.span fun c => c ≠ '/' && c ≠ '?' && c ≠ '#'

/-- The scheme that a text starts with, and what follows its `://`. The schemes of the web are
known in any case. The outer option is empty when the scheme is too long. -/
def splitScheme? (text : List Char) : Option (Option (List Char × List Char)) :=
  let (name, rest) := text.span isSchemeChar
  match rest with
  | ':' :: '/' :: '/' :: rest =>
    let lower := name.map Char.toLower
    if lower = "http".toList ∨ lower = "https".toList then some (some (lower, rest))
    else if text.length ≤ 3 then some none
    else if maxSchemeLength < name.length then none
    else some (some (name, rest))
  | _ => some none

/-- The address of a host alone, or of a scheme with a host. -/
def parseAbsolute? (text : List Char) : Option Uri :=
  match splitScheme? text with
  | none => none
  | some none => if isAuthority text then some { path := [] } else none
  | some (some (scheme, rest)) =>
    let (authority, rest) := splitAuthority rest
    if isAuthority authority then
      (pathOf? rest).map fun path => { scheme := some scheme, path }
    else none

/-- Reads an address. -/
def parse? (text : List Char) : Option Uri :=
  if maxLength < byteLength text then none
  else
    match text with
    | [] => none
    | ['*'] => some { path := ['*'] }
    | '/' :: rest => (pathOf? ('/' :: rest)).map fun path => { path }
    | _ => parseAbsolute? text

end Uri

end Switchyard.Http
