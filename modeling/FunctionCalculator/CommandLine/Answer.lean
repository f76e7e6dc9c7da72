import FunctionCalculator.CommandLine.Arguments
import FunctionCalculator.SymbolTable
import FunctionCalculator.Text.Basic
/-!
What the command line answers, as a function of its arguments and of the source they name.
-/

set_option autoImplicit false

namespace FunctionCalculator.CommandLine

def usage : Text :=
  "usage: tinyfn [-h] [--emit \x7bvalidate,tokens,eval,tac,tree\x7d] [--symbols] [-v]\n" ++
  "              [file]\n"

def help : Text :=
  usage ++
  "\nTiny-Fn front-end\n" ++
  "\npositional arguments:\n" ++
  "  file                  source file, or '-' for stdin\n" ++
  "\noptions:\n" ++
  "  -h, --help            show this help message and exit\n" ++
  "  --emit \x7bvalidate,tokens,eval,tac,tree\x7d\n" ++
  "                        operation to run on the source (default: validate)\n" ++
  "  --symbols             print the symbol table\n" ++
  "  -v, --verbose         debug logging\n"

structure Outcome where
  status : Nat
  output : Text
  errors : Text
  deriving DecidableEq, Repr

inductive Unreadable
  | missing
  | directory
  | notDirectory
  | nameTooLong
  | denied
  deriving DecidableEq, Repr

def Unreadable.reason : Unreadable → Text
  | .missing => "No such file or directory"
  | .directory => "Is a directory"
  | .notDirectory => "Not a directory"
  | .nameTooLong => "File name too long"
  | .denied => "Permission denied"

def logLine (logger message : Text) : Text := "DEBUG " ++ logger ++ [':', ' '] ++ message ++ ['\n']

def runLog (operation : Operation) (source : Text) (failed : Bool) : Text :=
  (operation.log source).flatMap (logLine "tinyfn.frontend") ++
    if failed then
      logLine "tinyfn.cli" ("operation " ++ operation.name ++ " reported an error")
    else []

-- The text that a source of the given name stands for. The standard input, which a dash names,
-- comes as it is; the line ends of a file are unified.
def sourceText (name contents : Text) : Text :=
  if name = "-" then contents else contents.unifyLineEnds

def runSource (operation : Operation) (verbose : Bool) (source : Text) : Outcome :=
  let result := operation.run source
  let failed := Text.startsWith Error.mark result
  { status := if failed then 1 else 0
    output := result.dropFinalLineFeeds ++ ['\n']
    errors := if verbose then runLog operation source failed else [] }

inductive Obstacle
  -- A source was read, but there is no operation to run on it.
  | noOperation
  -- The name of the source holds a null character.
  | nullInName
  deriving DecidableEq, Repr

def Obstacle.message : Obstacle → Text
  | .noOperation => "[] is not a valid Operation"
  | .nullInName => "embedded null byte"

structure Stopped where
  output : Text
  obstacle : Obstacle
  deriving DecidableEq, Repr

def preamble (options : Options) : Text := if options.symbols then SymbolTable.standard else []

-- Answers a request for work, given the contents of the sources by name, with the line ends that
-- they have there. The source is read before the operation is asked for.
def work (options : Options) (read : Text → Except Unreadable Text) : Except Stopped Outcome :=
  match options.source with
  | none => .ok ⟨0, preamble options, []⟩
  | some name =>
    if '\x00' ∈ name then .error ⟨preamble options, .nullInName⟩
    else
      match read name, options.operation with
      | .error cause, _ =>
        .ok ⟨1, preamble options,
          "[FATAL] cannot read " ++ name ++ [':', ' '] ++ cause.reason ++ ['\n']⟩
      | .ok _, none => .error ⟨preamble options, .noOperation⟩
      | .ok contents, some operation =>
        let outcome := runSource operation options.verbose (sourceText name contents)
        .ok { outcome with output := preamble options ++ outcome.output }

def answer (arguments : List Text) (read : Text → Except Unreadable Text) :
    Except Stopped Outcome :=
  match request arguments with
  | .help => .ok ⟨0, help, []⟩
  | .refused refusal => .ok ⟨2, [], usage ++ "tinyfn: error: " ++ refusal.message ++ ['\n']⟩
  | .work options => work options read

def sourceName? (arguments : List Text) : Option Text :=
  match request arguments with
  | .work options => options.source
  | _ => none

end FunctionCalculator.CommandLine
