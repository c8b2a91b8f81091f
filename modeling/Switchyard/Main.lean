import Switchyard.CommandLine.Arguments

/-!
# The program

Reads the configuration that the command names, and writes the command's answer.
-/

namespace Switchyard

/-- The fault that a failure to read stands for. A number of a failure may come with its sign
changed. -/
def FileFault.ofError : IO.Error → FileFault
  | .noFileOrDirectory .. => .notFound
  | .inappropriateType _ number _ =>
    if number = 21 ∨ number = -21 then .isDirectory else .notDirectory
  | cause@(.invalidArgument _ number _) =>
    if number = 36 ∨ number = -36 then .nameTooLong else .other (toString cause)
  | cause => .other (toString cause)

/-- The content of a file. -/
def readContent (path : String) : IO FileContent := do
  try
    let bytes ← IO.FS.readBinFile path
    return .ok bytes.toList
  catch cause => return .error (.ofError cause)

/-- The answer to the arguments. -/
def answerArguments (arguments : List String) : IO Answer := do
  match Command.parse arguments with
  | .error reason => return reason.answer
  | .ok command => return command.answer (← readContent command.config)

end Switchyard

/-- Answers the arguments. -/
def main (arguments : List String) : IO UInt32 := do
  let answer ← Switchyard.answerArguments arguments
  IO.print answer.stdout
  IO.eprint answer.stderr
  return answer.code
