import Switchyard.CommandLine.Command

/-!
# Arguments

The command that a list of arguments asks for. Options may stand before and between the other
arguments, an option is given once, and after `--` nothing is an option. Arguments that ask for no
command ask for help or are misused, whichever shows first.
-/

namespace Switchyard

/-- Why arguments give no command. -/
inductive NoCommand where
  | help
  | misuse
  deriving Repr, DecidableEq

namespace Arguments

/-- The subcommands by name. -/
inductive Verb where
  | find
  | assemble
  | check
  | routes
  deriving Repr, DecidableEq

/-- The subcommand of a name. -/
def Verb.ofName? : String → Option Verb
  | "match" => some find
  | "assemble" => some assemble
  | "check" => some check
  | "routes" => some routes
  | _ => none

/-- How many plain arguments a subcommand takes at most. -/
def Verb.capacity? : Verb → Option Nat
  | find => some 2
  | assemble => none
  | check | routes => some 1

/-- What the arguments have given so far; `plain` has the newest first. -/
structure Given where
  plain : List String := []
  isVerbose : Bool := false
  trace : Bool := false
  method : Option String := none
  deriving Repr, DecidableEq

namespace Given

/-- One more plain argument. The first is a path and has a name. -/
def addPlain (verb : Verb) (given : Given) (text : String) : Except NoCommand Given :=
  if verb.capacity?.any (· ≤ given.plain.length) || (given.plain.isEmpty && text = "") then
    .error .misuse
  else .ok { given with plain := text :: given.plain }

/-- Plain arguments one after the other. -/
def addAllPlain (verb : Verb) (given : Given) : List String → Except NoCommand Given
  | [] => .ok given
  | text :: rest =>
    match given.addPlain verb text with
    | .error reason => .error reason
    | .ok given => given.addAllPlain verb rest

/-- The method. -/
def setMethod (given : Given) (method : String) : Except NoCommand Given :=
  if given.method.isSome then .error .misuse else .ok { given with method := some method }

/-- The switch of a long name. -/
def setSwitch (verb : Option Verb) (given : Given) (name : String) : Except NoCommand Given :=
  if name = "help" then .error .help
  else if name = "verbose" then
    if given.isVerbose then .error .misuse else .ok { given with isVerbose := true }
  else if name = "trace" ∧ verb = some .find then
    if given.trace then .error .misuse else .ok { given with trace := true }
  else .error .misuse

end Given

/-- What an option wants next: nothing, or the method in the argument after it. -/
inductive Wanted where
  | nothing
  | method
  deriving Repr, DecidableEq

/-- The long name of a switch of one letter. -/
def longName : Char → String
  | 'h' => "help"
  | 'v' => "verbose"
  | _ => ""

/-- The letters after a single hyphen. The letter of the method takes all that is left, with or
without an equals sign in front. -/
def readLetters (verb : Option Verb) (given : Given) :
    List Char → Except NoCommand (Given × Wanted)
  | [] => .ok (given, .nothing)
  | c :: rest =>
    if c = 'm' ∧ verb = some .find then
      match rest with
      | [] => .ok (given, .method)
      | '=' :: value => (given.setMethod (String.ofList value)).map (·, .nothing)
      | value => (given.setMethod (String.ofList value)).map (·, .nothing)
    else
      match given.setSwitch verb (longName c) with
      | .error reason => .error reason
      | .ok given => readLetters verb given rest

/-- The text after two hyphens: the name of a switch, or the method with its value, after an equals
sign or in the next argument. -/
def readLong (verb : Option Verb) (given : Given) (text : List Char) :
    Except NoCommand (Given × Wanted) :=
  match Text.cut '=' text with
  | (name, value?) =>
    if String.ofList name = "method" ∧ verb = some .find then
      match value? with
      | some value => (given.setMethod (String.ofList value)).map (·, .nothing)
      | none => .ok (given, .method)
    else if value?.isSome then .error .misuse
    else (given.setSwitch verb (String.ofList name)).map (·, .nothing)

/-- The argument is an option, unless options have ended. -/
def isOption (text : String) : Bool :=
  match text.toList with
  | '-' :: _ :: _ => true
  | _ => false

/-- One option. -/
def readOption (verb : Option Verb) (given : Given) (text : String) :
    Except NoCommand (Given × Wanted) :=
  match text.toList with
  | '-' :: '-' :: rest => readLong verb given rest
  | '-' :: rest => readLetters verb given rest
  | _ => .error .misuse

/-- The arguments of a subcommand. -/
def readAll (verb : Verb) (given : Given) : List String → Except NoCommand Given
  | [] => .ok given
  | text :: rest =>
    if text = "--" then given.addAllPlain verb rest
    else if isOption text then
      match readOption verb given text with
      | .error reason => .error reason
      | .ok (given, .nothing) => readAll verb given rest
      | .ok (given, .method) =>
        match rest with
        | [] => .error .misuse
        | value :: rest =>
          if isOption value then .error .misuse
          else
            match given.setMethod value with
            | .error reason => .error reason
            | .ok given => readAll verb given rest
    else
      match given.addPlain verb text with
      | .error reason => .error reason
      | .ok given => readAll verb given rest

/-- The command of a subcommand with its arguments. -/
def command (verb : Verb) (given : Given) : Except NoCommand Command :=
  match verb, given.plain.reverse with
  | .find, [config, url] => .ok (.find config url (given.method.getD "GET") given.trace)
  | .assemble, config :: route :: params => .ok (.assemble config route params)
  | .check, [config] => .ok (.check config)
  | .routes, [config] => .ok (.routes config)
  | _, _ => .error .misuse

/-- What follows a request for help: nothing, or one subcommand. -/
def readHelp : List String → NoCommand
  | [] => .help
  | [name] => if name = "help" ∨ (Verb.ofName? name).isSome then .help else .misuse
  | _ => .misuse

/-- The arguments up to the subcommand and after it. -/
def readTop (given : Given) : List String → Except NoCommand Command
  | [] => .error .misuse
  | text :: rest =>
    match Verb.ofName? text with
    | some verb =>
      match readAll verb {} rest with
      | .error reason => .error reason
      | .ok given => command verb given
    | none =>
      if text = "help" then .error (readHelp rest)
      else if text ≠ "--" ∧ isOption text then
        match readOption none given text with
        | .error reason => .error reason
        | .ok (given, _) => readTop given rest
      else .error .misuse

end Arguments

/-- The command that the arguments ask for. -/
def Command.parse (arguments : List String) : Except NoCommand Command :=
  Arguments.readTop {} arguments

/-- How to use the program. -/
def usage : String :=
  "Usage: switchyard [-v] match CONFIG URL [-m METHOD] [--trace]\n" ++
  "       switchyard [-v] assemble CONFIG ROUTE [NAME=VALUE]...\n" ++
  "       switchyard [-v] check CONFIG\n" ++
  "       switchyard [-v] routes CONFIG\n"

/-- The answer when there is no command. -/
def NoCommand.answer : NoCommand → Answer
  | .help => ⟨0, usage, ""⟩
  | .misuse => ⟨2, "", usage⟩

end Switchyard
