import Switchyard.Config.File
import Switchyard.Http.Target
import Switchyard.Trace

/-!
# Commands

What the program can be asked for, and its answer (`Command.answer`): the output of a command, or
the error that ends it. A command reads one file, the configuration, and gets its content together
with the command.
-/

namespace Switchyard

/-- A request to the program. `find` matches an address, with a report of the search if `trace`
says so. -/
inductive Command where
  | find (config url method : String) (trace : Bool)
  | assemble (config route : String) (params : List String)
  | check (config : String)
  | routes (config : String)
  deriving Repr, DecidableEq

/-- Why a command has no output. -/
inductive CommandError where
  | load (cause : LoadError)
  | parameter (text : String)
  | routing (cause : RouteError)
  deriving Repr, DecidableEq

/-- The wording of an error. -/
def CommandError.message : CommandError → String
  | load cause => cause.message
  | parameter text => "invalid parameter \"" ++ text ++ "\", expected name=value"
  | routing cause => cause.message

namespace Command

/-- The path of the command's configuration. -/
def config : Command → String
  | find config .. | assemble config .. | check config | routes config => config

/-! ## Output -/

/-- A match: the name of its route, and its parameters. -/
def showMatch (found : RouteMatch) : String :=
  "\n".intercalate (("route: " ++ found.routeName.getD "-") ::
    found.params.entries.map fun entry => "  " ++ entry.1 ++ " = " ++ entry.2)

/-- A name followed by spaces up to a width. -/
def pad (width : Nat) (name : String) : String :=
  name ++ String.ofList (List.replicate (width - name.length) ' ')

/-- The names of a set between brackets; nothing for the empty set. -/
def showFilter (opening closing : String) (filter : NameSet) : String :=
  if filter.isEmpty then "" else "  " ++ opening ++ ",".intercalate filter.names ++ closing

/-- The line of a route: its name, its pattern and its filters. -/
def showRoute (width : Nat) (name : String) (route : Route) : String :=
  pad width name ++ "  " ++ route.config.path ++ showFilter "[" "]" route.config.methods ++
    showFilter "(" ")" route.config.schemes

/-- The routes in order, each on a line. The patterns begin at one column, which leaves room for
the bytes of the longest name. -/
def showRoutes (router : Router) : String :=
  let width := (router.routes.names.map String.utf8ByteSize).foldl max 0
  "\n".intercalate (router.routes.entries.map fun entry => showRoute width entry.1 entry.2)

/-! ## Answers -/

/-- The name and the value of a parameter written with an equals sign between them. -/
def parameter (text : String) : Except CommandError (String × String) :=
  match Text.cut '=' text.toList with
  | (name, some value) => .ok (String.ofList name, String.ofList value)
  | (_, none) => .error (.parameter text)

/-- The parameters of a list, later ones winning. -/
def parameters (texts : List String) : Except CommandError Params :=
  (texts.mapM parameter).map Keyed.ofList

/-- The output of a command on the router of its configuration. -/
def outputOn (router : Router) : Command → Except CommandError String
  | find _ url method trace =>
    let request := Http.requestOf method url
    let report := if trace then (router.trace request).display ++ "\n\n" else ""
    ((router.find request).mapError .routing).map fun found => report ++ showMatch found
  | assemble _ route texts =>
    match parameters texts with
    | .error cause => .error cause
    | .ok params => (router.assemble route params).mapError .routing
  | check _ => .ok ("Config valid (" ++ toString router.size ++ " routes)")
  | routes _ => .ok (showRoutes router)

/-- The output of a command, given the content of its configuration. -/
def output (command : Command) (content : FileContent) : Except CommandError String :=
  match Router.load command.config content with
  | .error cause => .error (.load cause)
  | .ok router => command.outputOn router

end Command

/-- What the program leaves behind: its exit code and what it wrote. -/
structure Answer where
  code : UInt32
  stdout : String
  stderr : String
  deriving Repr, DecidableEq

/-- The answer to a command, given the content of its configuration. An error leaves no output. -/
def Command.answer (command : Command) (content : FileContent) : Answer :=
  match command.output content with
  | .ok text => ⟨0, text ++ "\n", ""⟩
  | .error cause => ⟨1, "", "error: " ++ cause.message ++ "\n"⟩

end Switchyard
