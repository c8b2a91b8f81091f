import Switchyard.Config.Json
import Switchyard.Config.Yaml
import Switchyard.Text.Utf8

/-!
# Configuration files

A file is read as JSON when its name ends in `.json`, in any case, and as YAML otherwise; its bytes
must be UTF-8. What can go wrong on the way to a router is a `LoadError`.
-/

namespace Switchyard

/-- Why the bytes of a file could not be had. -/
inductive FileFault where
  | notFound
  | isDirectory
  | notDirectory
  | nameTooLong
  | other (reason : String)
  deriving Repr, DecidableEq

/-- The wording of a file's fault. -/
def FileFault.message : FileFault → String
  | .notFound => "No such file or directory (os error 2)"
  | .isDirectory => "Is a directory (os error 21)"
  | .notDirectory => "Not a directory (os error 20)"
  | .nameTooLong => "File name too long (os error 36)"
  | .other reason => reason

/-- The ways to write a configuration. -/
inductive ConfigFormat where
  | json
  | yaml
  deriving Repr, DecidableEq

namespace ConfigFormat

/-- The last part of a path that names something. -/
def fileName (path : String) : List Char :=
  let named := (Text.pieces (· = '/') path.toList).filter fun piece => piece ≠ [] ∧ piece ≠ ['.']
  named.getLast?.getD []

/-- What follows the last point of a file's name, unless nothing comes before that point. -/
def extension? (path : String) : Option String :=
  match (Text.pieces (· = '.') (fileName path)).reverse with
  | [] | [_] | [_, []] => none
  | last :: _ => some (String.ofList last)

/-- The format of the file at a path. -/
def ofPath (path : String) : ConfigFormat :=
  match extension? path with
  | some extension => if Text.lower extension = "json" then json else yaml
  | none => yaml

end ConfigFormat

/-- Why a file gives no router. -/
inductive LoadError where
  | unreadable (path : String) (fault : FileFault)
  | notText (path : String)
  | malformed (format : ConfigFormat)
  | invalid (cause : RouteError)
  deriving Repr, DecidableEq

/-- The wording of an error. -/
def LoadError.message : LoadError → String
  | unreadable path fault => "failed to read \"" ++ path ++ "\": " ++ fault.message
  | notText path => "failed to read \"" ++ path ++ "\": stream did not contain valid UTF-8"
  | malformed .json => "JSON parse error"
  | malformed .yaml => "YAML parse error"
  | invalid cause => "config invalid: " ++ cause.message

/-- The bytes of a file, or why they could not be had. -/
abbrev FileContent := Except FileFault (List UInt8)

/-- Reads the text of a configuration in a format. -/
def RouterConfig.ofText? : ConfigFormat → String → Option RouterConfig
  | .json, text => (RouterConfig.parseJson text).toOption
  | .yaml, text => RouterConfig.ofYamlText? text

/-- The configuration of the file at a path. -/
def RouterConfig.load (path : String) (content : FileContent) : Except LoadError RouterConfig :=
  match content with
  | .error fault => .error (.unreadable path fault)
  | .ok bytes =>
    match Text.Utf8.decode? bytes with
    | none => .error (.notText path)
    | some text =>
      match RouterConfig.ofText? (ConfigFormat.ofPath path) (String.ofList text) with
      | none => .error (.malformed (ConfigFormat.ofPath path))
      | some config => .ok config

/-- The router of the file at a path. -/
def Router.load (path : String) (content : FileContent) : Except LoadError Router :=
  match RouterConfig.load path content with
  | .error cause => .error cause
  | .ok config => config.build.mapError .invalid

end Switchyard
