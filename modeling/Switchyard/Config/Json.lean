import Switchyard.Config
import Switchyard.Json.Printer
import Switchyard.Json.Reader

/-!
# Configurations as JSON

A configuration is written with its fields in a fixed order, empty maps and sets left out but for
the map of routes. Reading goes through the document in order and stops at the first fault: a
record takes each of its fields once and no other, and a field that is missing is empty, the path
of a route excepted. A record may also be written as the array of its fields.
-/

namespace Switchyard

open Json (Value)

/-! ## Writing -/

/-- A map as a value. -/
def Params.toJson (params : Params) : Value :=
  .object (params.entries.map fun entry => (entry.1, .string entry.2)) true

/-- A set as a value. -/
def NameSet.toJson (set : NameSet) : Value := .array (set.names.map .string) true

/-- A member, unless what it holds is empty. -/
def memberUnless (isEmpty : Bool) (key : String) (value : Value) : List (String × Value) :=
  if isEmpty then [] else [(key, value)]

/-- The record of a route as a value. -/
def RouteConfig.toJson (config : RouteConfig) : Value :=
  .object (("path", .string config.path) ::
    memberUnless config.defaults.isEmpty "defaults" (Params.toJson config.defaults) ++
    memberUnless config.constraints.isEmpty "constraints" (Params.toJson config.constraints) ++
    memberUnless config.schemes.isEmpty "schemes" (NameSet.toJson config.schemes) ++
    memberUnless config.methods.isEmpty "methods" (NameSet.toJson config.methods)) true

/-- A configuration as a value. -/
def RouterConfig.toJson (config : RouterConfig) : Value :=
  .object (("routes", .object (config.routes.entries.map fun entry =>
      (entry.1, entry.2.toJson)) true) ::
    memberUnless config.defaultParams.isEmpty "default_params"
      (Params.toJson config.defaultParams)) true

/-- The text of a configuration. -/
def RouterConfig.toJsonText (config : RouterConfig) : String := config.toJson.text

/-! ## Reading -/

namespace ConfigFault

/-- The fault of a value where something else is wanted. -/
def unwanted (wanted : String) : Value → ConfigFault
  | .null => .wrongType .null wanted
  | .boolean value => .wrongType (.boolean value) wanted
  | .integer text => .wrongType (.integer text) wanted
  | .float text => .wrongType (.float text) wanted
  | .string text => .wrongType (.string text) wanted
  | .array .. => .wrongType .sequence wanted
  | .object .. => .wrongType .map wanted
  | .broken => .malformed

end ConfigFault

/-- The value of a document read as a type, or its first fault. -/
abbrev Decoded (α : Type) := Except ConfigFault α

/-- A string. -/
def decodeString : Value → Decoded String
  | .string text => .ok text
  | value => .error (.unwanted "a string" value)

/-- The members of a map, in order, each read as the map's values are. -/
def decodeMembers {α : Type} (read : Value → Decoded α) :
    List (String × Value) → Decoded (List (String × α))
  | [] => .ok []
  | (key, value) :: rest =>
    match read value with
    | .error fault => .error fault
    | .ok first => (decodeMembers read rest).map ((key, first) :: ·)

/-- A map, whose keys may come more than once. -/
def decodeMap {α : Type} (read : Value → Decoded α) : Value → Decoded (List (String × α))
  | .object members whole =>
    match decodeMembers read members with
    | .error fault => .error fault
    | .ok entries => if whole then .ok entries else .error .malformed
  | value => .error (.unwanted "a map" value)

/-- The items of a set, in order. -/
def decodeItems : List Value → Decoded (List String)
  | [] => .ok []
  | value :: rest =>
    match decodeString value with
    | .error fault => .error fault
    | .ok first => (decodeItems rest).map (first :: ·)

/-- Parameters. -/
def Params.ofJson (value : Value) : Decoded Params :=
  (decodeMap decodeString value).map Keyed.ofList

/-- A set of names. -/
def NameSet.ofJson : Value → Decoded NameSet
  | .array items whole =>
    match decodeItems items with
    | .error fault => .error fault
    | .ok names => if whole then .ok (NameSet.ofNames names) else .error .malformed
  | value => .error (.unwanted "a sequence" value)

/-- A field read for the first time; a second time is a fault, whatever its value. -/
def readOnce {α : Type} (name : String) (known : Option α) (read : Decoded α) :
    Decoded (Option α) :=
  match known with
  | some _ => .error (.duplicateField name)
  | none => read.map some

/-- The fields of a route's record that have been read. -/
structure RouteFields where
  path : Option String := none
  defaults : Option Params := none
  constraints : Option Params := none
  schemes : Option NameSet := none
  methods : Option NameSet := none

namespace RouteFields

/-- The names of the fields, in order. -/
def fieldNames : List String := ["path", "defaults", "constraints", "schemes", "methods"]

/-- The fields with one more of them read. -/
def read (fields : RouteFields) (name : String) (value : Value) : Decoded RouteFields :=
  match name with
  | "path" => (readOnce name fields.path (decodeString value)).map
      fun path => { fields with path }
  | "defaults" => (readOnce name fields.defaults (Params.ofJson value)).map
      fun defaults => { fields with defaults }
  | "constraints" => (readOnce name fields.constraints (Params.ofJson value)).map
      fun constraints => { fields with constraints }
  | "schemes" => (readOnce name fields.schemes (NameSet.ofJson value)).map
      fun schemes => { fields with schemes }
  | "methods" => (readOnce name fields.methods (NameSet.ofJson value)).map
      fun methods => { fields with methods }
  | _ => .error (.unknownField name fieldNames)

/-- The fields with the members of a list read one after the other. -/
def readAll (fields : RouteFields) : List (String × Value) → Decoded RouteFields
  | [] => .ok fields
  | (name, value) :: rest =>
    match fields.read name value with
    | .error fault => .error fault
    | .ok fields => fields.readAll rest

/-- The record of the fields; without a path the fault is `lacking`. -/
def finish (fields : RouteFields) (lacking : ConfigFault) : Decoded RouteConfig :=
  match fields.path with
  | none => .error lacking
  | some path =>
    .ok {
      path
      defaults := fields.defaults.getD .empty
      constraints := fields.constraints.getD .empty
      schemes := fields.schemes.getD .empty
      methods := fields.methods.getD .empty }

end RouteFields

/-- The record of a route. -/
def RouteConfig.ofJson : Value → Decoded RouteConfig
  | .object members whole =>
    match RouteFields.readAll {} members with
    | .error fault => .error fault
    | .ok fields =>
      if whole then fields.finish (.missingField "path") else .error .malformed
  | .array items whole =>
    match RouteFields.readAll {} (RouteFields.fieldNames.zip items) with
    | .error fault => .error fault
    | .ok fields =>
      if whole && items.length ≤ RouteFields.fieldNames.length then fields.finish .malformed
      else .error .malformed
  | value => .error (.unwanted "struct RouteConfig" value)

/-- The fields of a configuration that have been read. -/
structure RouterFields where
  routes : Option (Roster RouteConfig) := none
  defaultParams : Option Params := none

namespace RouterFields

/-- The names of the fields, in order. -/
def fieldNames : List String := ["routes", "default_params"]

/-- The fields with one more of them read. -/
def read (fields : RouterFields) (name : String) (value : Value) : Decoded RouterFields :=
  match name with
  | "routes" =>
    (readOnce name fields.routes
      ((decodeMap RouteConfig.ofJson value).map Roster.ofList)).map
      fun routes => { fields with routes }
  | "default_params" => (readOnce name fields.defaultParams (Params.ofJson value)).map
      fun defaultParams => { fields with defaultParams }
  | _ => .error (.unknownField name fieldNames)

/-- The fields with the members of a list read one after the other. -/
def readAll (fields : RouterFields) : List (String × Value) → Decoded RouterFields
  | [] => .ok fields
  | (name, value) :: rest =>
    match fields.read name value with
    | .error fault => .error fault
    | .ok fields => fields.readAll rest

/-- The configuration of the fields. -/
def finish (fields : RouterFields) : RouterConfig :=
  { routes := fields.routes.getD .empty, defaultParams := fields.defaultParams.getD .empty }

end RouterFields

/-- A configuration. -/
def RouterConfig.ofJson : Value → Decoded RouterConfig
  | .object members whole =>
    match RouterFields.readAll {} members with
    | .error fault => .error fault
    | .ok fields => if whole then .ok fields.finish else .error .malformed
  | .array items whole =>
    match RouterFields.readAll {} (RouterFields.fieldNames.zip items) with
    | .error fault => .error fault
    | .ok fields =>
      if whole && items.length ≤ RouterFields.fieldNames.length then .ok fields.finish
      else .error .malformed
  | value => .error (.unwanted "struct RouterConfig" value)

/-- Reads the text of a configuration. Text after the document is a fault, found last. -/
def RouterConfig.parseJson (text : String) : Decoded RouterConfig :=
  let (value, alone) := Value.read text.toList
  match RouterConfig.ofJson value with
  | .error fault => .error fault
  | .ok config => if alone then .ok config else .error .malformed

/-- Reads the text of a configuration, with the fault as an error of the library. -/
def RouterConfig.ofJsonText (text : String) : Except RouteError RouterConfig :=
  (parseJson text).mapError .invalidConfig

end Switchyard
