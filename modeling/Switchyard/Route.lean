import Switchyard.Event
import Switchyard.Pattern
import Switchyard.Request
import Switchyard.RouteMatch
import Switchyard.Text.Case

/-!
# Routes

A route is a path pattern with defaults for its parameters, constraints on them, and filters on
scheme and method. Its record (`RouteConfig`) is what it is built from and what it gives back;
everything else about the route is worked out from the record, so two routes with one record behave
alike. `Route.evaluate` matches a request, `Route.assemble` builds a path.
-/

namespace Switchyard

/-- The record of a route. An empty set of schemes or methods filters nothing. -/
structure RouteConfig where
  path : String
  defaults : Params := .empty
  constraints : Params := .empty
  schemes : NameSet := .empty
  methods : NameSet := .empty
  deriving Repr, DecidableEq

/-- The record with its schemes in lower case and its methods in upper case. -/
def RouteConfig.canonical (config : RouteConfig) : RouteConfig :=
  { config with
    schemes := config.schemes.image Text.lower
    methods := config.methods.image Text.upper }

/-- A record in canonical case whose path pattern is sound, with the segments of the pattern. -/
structure Route where
  config : RouteConfig
  segments : List Segment
  parsed : Segment.parsePath config.path = .ok segments
  canonical : config.canonical = config
  deriving DecidableEq

/-- One step of building a route's record. -/
inductive RouteCall where
  | default (name value : String)
  | defaults (values : Params)
  | constraint (name pattern : String)
  | constraints (patterns : Params)
  | scheme (name : String)
  | schemes (names : List String)
  | method (name : String)
  | methods (names : List String)
  deriving Repr, DecidableEq

namespace RouteConfig

/-- The record with a scheme added, in lower case. -/
def addScheme (config : RouteConfig) (name : String) : RouteConfig :=
  { config with schemes := config.schemes.insert (Text.lower name) () }

/-- The record with a method added, in upper case. -/
def addMethod (config : RouteConfig) (name : String) : RouteConfig :=
  { config with methods := config.methods.insert (Text.upper name) () }

/-- The record after one step. Later values under a name win, and sets grow. -/
def apply (config : RouteConfig) : RouteCall → RouteConfig
  | .default name value => { config with defaults := config.defaults.insert name value }
  | .defaults values => { config with defaults := config.defaults.overlay values }
  | .constraint name pattern =>
    { config with constraints := config.constraints.insert name pattern }
  | .constraints patterns => { config with constraints := config.constraints.overlay patterns }
  | .scheme name => config.addScheme name
  | .schemes names => names.foldl addScheme config
  | .method name => config.addMethod name
  | .methods names => names.foldl addMethod config

/-- The record of a path after a run of steps. -/
def ofCalls (path : String) (calls : List RouteCall) : RouteConfig := calls.foldl apply { path }

/-- Bringing a record into canonical case twice is bringing it there once. -/
theorem canonical_canonical (config : RouteConfig) :
    config.canonical.canonical = config.canonical := by
  simp only [canonical, NameSet.image_image Text.lower_lower, NameSet.image_image Text.upper_upper]

/-- The route of a record, or the error of the first bad token of its path pattern. -/
def build (config : RouteConfig) : Except RouteError Route :=
  match h : Segment.parsePath config.path with
  | .error cause => .error cause
  | .ok segments => .ok ⟨config.canonical, segments, h, config.canonical_canonical⟩

end RouteConfig

namespace Route

/-- The route's pattern. -/
def pattern (route : Route) : Pattern := ⟨route.segments, route.config.constraints⟩

/-- The routes compare as equal: path, defaults, constraints and filters are equal, and so is the
regular expression of their patterns. -/
def sameAs (route other : Route) : Bool :=
  route.config.path = other.config.path && route.config.defaults = other.config.defaults &&
    route.config.constraints = other.config.constraints &&
    route.config.schemes = other.config.schemes && route.config.methods = other.config.methods &&
    route.pattern.source = other.pattern.source

/-- The filter lets a name through: it is empty, or holds the name. -/
def passes (filter : NameSet) (name : String) : Bool := filter.isEmpty || filter.contains name

/-- The parameters of a match: the defaults, over them what the path gave, decoded, and over that
the method and the scheme. -/
def matchParams (route : Route) (captured : List (String × List Char)) (method scheme : String) :
    Params :=
  ((route.config.defaults.insertAll
    (captured.map fun pair => (pair.1, String.ofList (Percent.decodeChars pair.2)))).insert
      requestMethodParam method).insert requestSchemeParam scheme

/-- Matches a request, or says what stopped it: the method, then the scheme, then a pattern that
did not compile, then the path. Slashes at the end of the path do not count. -/
def evaluate (route : Route) (request : Request) : Except Rejection RouteMatch :=
  let method := Text.upper request.method
  let scheme := Text.lower request.scheme
  if !passes route.config.methods method then .error .method
  else if !passes route.config.schemes scheme then .error .scheme
  else
    match route.pattern.program? with
    | none => .error .uncompiled
    | some program =>
      match route.pattern.captures? program (Text.trimEnd (· = '/') request.path.toList) with
      | none => .error .path
      | some captured => .ok { params := route.matchParams captured method scheme }

/-- The match of a request, if there is one. -/
def match? (route : Route) (request : Request) : Option RouteMatch :=
  (route.evaluate request).toOption

/-- The escaped form of a value that may stand for the parameter. The constraint is held against
the escaped form, as it is when a path is matched. -/
def checked (route : Route) (name value : String) : Except RouteError (List Char) :=
  let code := Percent.encodeChars value.toList
  if Constraint.allows route.config.constraints name code then .ok code
  else .error (.constraintViolation name value ((route.config.constraints.get? name).getD ""))

/-- What a segment gives to an assembled path: nothing for an optional literal, and nothing for an
optional placeholder without a value. -/
def part (route : Route) (params : Params) : Segment → Except RouteError (Option (List Char))
  | .literal text => .ok (some (Percent.encodeChars text.toList))
  | .optionalLiteral _ => .ok none
  | .placeholder name =>
    match params.get? name with
    | none => .error (.missingPlaceholder name)
    | some value => (route.checked name value).map some
  | .optionalPlaceholder name =>
    match params.get? name with
    | none => .ok none
    | some value => if value = "" then .ok none else (route.checked name value).map some

/-- What the segments give to an assembled path, or the error of the first that cannot. -/
def parts (route : Route) (params : Params) :
    List Segment → Except RouteError (List (List Char))
  | [] => .ok []
  | segment :: rest =>
    match route.part params segment with
    | .error cause => .error cause
    | .ok given => (route.parts params rest).map (given.toList ++ ·)

/-- The path for the parameters, which are laid over the defaults. -/
def assemble (route : Route) (params : Params) : Except RouteError String :=
  (route.parts (route.config.defaults.overlay params) route.segments).map fun given =>
    String.ofList ('/' :: Text.join ['/'] given)

/-- What is worth a warning about a route just built: a name bound twice, or else a pattern that
did not compile, and then every constraint that does not compile on its own. -/
def warnings (route : Route) : List Event :=
  let ofPattern :=
    match route.pattern.duplicate? with
    | some name => [Event.duplicatePlaceholder route.config.path name]
    | none =>
      match route.pattern.program? with
      | some _ => []
      | none => [Event.patternFailed route.config.path route.pattern.source]
  let ofConstraints := route.config.constraints.entries.filterMap fun entry =>
    if (Constraint.program? entry.2).isSome then none
    else some (Event.constraintFailed entry.1 entry.2)
  ofPattern ++ ofConstraints

end Route

end Switchyard
