import FunctionCalculator.CommandLine.Answer
/-!
The command line itself: reads the source that the arguments name and prints the answer.
-/

set_option autoImplicit false

open FunctionCalculator CommandLine

def readSource (name : String) : IO (Except Unreadable Text) := do
  if name = "-" then
    return .ok (← (← IO.getStdin).readToEnd).toList
  else
    try
      return .ok (← IO.FS.readFile name).toList
    catch
      | .noFileOrDirectory .. => return .error .missing
      | .inappropriateType .. => return .error .directory
      | .permissionDenied .. => return .error .denied
      | e => throw e

def main (arguments : List String) : IO UInt32 := do
  let arguments := arguments.map String.toList
  let source ← match sourceName? arguments with
    | some name => readSource (String.ofList name)
    | none => pure (.error .missing)
  let outcome : Outcome := match answer arguments fun _ => source with
    | .ok outcome => outcome
    | .error stopped => ⟨1, stopped.output, stopped.obstacle.message ++ ['\n']⟩
  (← IO.getStdout).putStr (String.ofList outcome.output)
  (← IO.getStderr).putStr (String.ofList outcome.errors)
  return outcome.status.toUInt32
