import Switchyard.Config.File

/-!
# Directories

The files of a directory, by name, and what a path leads to in it (`Directory.content`). A path is
followed part by part; a part that names nothing, or that comes after a file, is a fault. Nothing is
known of what lies outside the directory but that there is a directory around it.
-/

namespace Switchyard

/-- The files of a directory and of those in it, each under the parts of its path. -/
structure Directory where
  files : List (List (List Char) × List UInt8)
  deriving Repr, DecidableEq

namespace Directory

/-- The parts of a path, with a slash between any two. -/
def parts (path : String) : List (List Char) := Text.pieces (· = '/') path.toList

/-- A directory with the files under the given paths. -/
def ofFiles (files : List (String × List UInt8)) : Directory :=
  ⟨files.map fun file => (parts file.1, file.2)⟩

/-- Where the first parts of a path lead to. -/
inductive Place where
  | outside
  | inside (parts : List (List Char))
  | file (bytes : List UInt8)
  deriving Repr, DecidableEq

/-- The most bytes of one part of a path. -/
def partLimit : Nat := 255

/-- The most bytes of a path. -/
def pathLimit : Nat := 4095

/-- How many bytes a text takes. -/
def byteCount (text : List Char) : Nat := (Text.Utf8.encode text).length

/-- What a name leads to in a directory inside. -/
def named (directory : Directory) (within : List (List Char)) (name : List Char) :
    Except FileFault Place :=
  let whole := within ++ [name]
  match directory.files.find? fun file => file.1 = whole with
  | some file => .ok (.file file.2)
  | none =>
    if directory.files.any fun file => whole.isPrefixOf file.1 then .ok (.inside whole)
    else .error .notFound

/-- One more part of a path. An empty one stays in the directory, as a point does, and two points go
to the directory around it. -/
def step (directory : Directory) (place : Place) (part : List Char) : Except FileFault Place :=
  match place with
  | .file _ => .error .notDirectory
  | .outside =>
    if part = [] ∨ part = ['.'] ∨ part = ['.', '.'] then .ok .outside
    else if partLimit < byteCount part then .error .nameTooLong
    else .error .notFound
  | .inside within =>
    if part = [] ∨ part = ['.'] then .ok (.inside within)
    else if part = ['.', '.'] then .ok (if within = [] then .outside else .inside within.dropLast)
    else if partLimit < byteCount part then .error .nameTooLong
    else directory.named within part

/-- The content of the file that a path leads to. A path that starts with a slash starts outside. -/
def content (directory : Directory) (path : String) : FileContent :=
  if path = "" then .error .notFound
  else if pathLimit < byteCount path.toList then .error .nameTooLong
  else
    let start := if path.toList.head? = some '/' then Place.outside else .inside []
    match (parts path).foldlM directory.step start with
    | .error fault => .error fault
    | .ok (.file bytes) => .ok bytes
    | .ok _ => .error .isDirectory

end Directory

end Switchyard
