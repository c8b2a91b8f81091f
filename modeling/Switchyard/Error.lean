import Switchyard.Text.Quoted

/-!
# Errors

Each way in which building, dispatching, assembling or loading can fail is a constructor that
carries its cause; `RouteError.message` is the one place where the wording stands.
-/

namespace Switchyard

/-- What is wrong with a token of a path pattern. -/
inductive SegmentFault where
  | placeholderName
  | reservedCharacter
  deriving Repr, DecidableEq

/-- The wording of a token's fault. -/
def SegmentFault.message : SegmentFault → String
  | .placeholderName => "placeholder names must contain only english alphanumeric characters"
  | .reservedCharacter => "literal segments must not contain '#' or '?'"

/-- What stands in a document where something else was wanted. -/
inductive FoundValue where
  | null
  | boolean (value : Bool)
  | integer (text : String)
  | float (text : String)
  | string (text : String)
  | sequence
  | map
  deriving Repr, DecidableEq

/-- The wording of a value found. -/
def FoundValue.message : FoundValue → String
  | .null => "null"
  | .boolean value => "boolean `" ++ (if value then "true" else "false") ++ "`"
  | .integer text => "integer `" ++ text ++ "`"
  | .float text => "floating point `" ++ text ++ "`"
  | .string text => "string " ++ String.ofList (Text.Quoted.encode text.toList)
  | .sequence => "sequence"
  | .map => "map"

/-- What is wrong with a configuration document. A document that is malformed beyond its fields
and types is told apart from the rest only. -/
inductive ConfigFault where
  | missingField (name : String)
  | unknownField (name : String) (known : List String)
  | duplicateField (name : String)
  | wrongType (found : FoundValue) (wanted : String)
  | malformed
  deriving Repr, DecidableEq

/-- Field names as an error lists them. -/
def ConfigFault.listing : List String → String
  | [] => "there are no fields"
  | [only] => "expected `" ++ only ++ "`"
  | [first, second] => "expected `" ++ first ++ "` or `" ++ second ++ "`"
  | many => "expected one of " ++ ", ".intercalate (many.map fun name => "`" ++ name ++ "`")

/-- The wording of a document's fault. -/
def ConfigFault.message : ConfigFault → String
  | .missingField name => "missing field `" ++ name ++ "`"
  | .unknownField name known => "unknown field `" ++ name ++ "`, " ++ listing known
  | .duplicateField name => "duplicate field `" ++ name ++ "`"
  | .wrongType found wanted => "invalid type: " ++ found.message ++ ", expected " ++ wanted
  | .malformed => "malformed document"

/-- Why a route could not be built, found or assembled, or a configuration not loaded. -/
inductive RouteError where
  | invalidPattern (path segment : String) (fault : SegmentFault)
  | missingPlaceholder (name : String)
  | constraintViolation (name value pattern : String)
  | noRoutesConfigured
  | routeNotFound (path : String)
  | unknownRoute (name : String)
  | noMatch
  | invalidConfig (fault : ConfigFault)
  deriving Repr, DecidableEq

namespace RouteError

/-- The wording of an error. Names, values and paths stand in it as they are. -/
def message : RouteError → String
  | invalidPattern path segment fault =>
    "invalid segment \"" ++ segment ++ "\" in path \"" ++ path ++ "\": " ++ fault.message
  | missingPlaceholder name => "missing value for the placeholder \"" ++ name ++ "\""
  | constraintViolation name value pattern =>
    "the value \"" ++ value ++ "\" of parameter \"" ++ name ++
      "\" must match the constraint \"" ++ pattern ++ "\""
  | noRoutesConfigured => "the router has no routes configured"
  | routeNotFound path => "failed to find a route matching \"" ++ path ++ "\""
  | unknownRoute name => "the route \"" ++ name ++ "\" does not exist"
  | noMatch => "no route match has been recorded"
  | invalidConfig fault => "invalid config: " ++ fault.message

/-- The error says that nothing matched the request, and nothing else. -/
def isNotFound : RouteError → Bool
  | routeNotFound _ => true
  | _ => false

end RouteError

end Switchyard
