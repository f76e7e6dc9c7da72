import FunctionCalculator.Operation
/-!
Arguments of the command line. Options may stand before or after the name of the source, long ones
may be shortened, short ones may be joined, and a double dash ends them.
-/

set_option autoImplicit false

namespace FunctionCalculator.CommandLine

inductive Switch
  | help
  | emit
  | symbols
  | verbose
  deriving DecidableEq, Repr

namespace Switch

-- All spellings, in the order in which they are matched.
def spellings : List (Text × Switch) := [
  ("-h", .help), ("--help", .help), ("--emit", .emit), ("--symbols", .symbols),
  ("-v", .verbose), ("--verbose", .verbose)]

def spelled? (spelling : Text) : Option Switch := spellings.lookup spelling

def title : Switch → Text
  | .help => "-h/--help"
  | .emit => "--emit"
  | .symbols => "--symbols"
  | .verbose => "-v/--verbose"

end Switch

inductive Refusal
  | sourceRequired
  | missingValue (switch : Switch)
  | unknownOperation (name : Text)
  -- A value for a switch that takes none.
  | surplusValue (switch : Switch) (value : Text)
  -- A shortened option that stands for several.
  | ambiguous (argument : Text) (spellings : List Text)
  | unrecognized (arguments : List Text)
  deriving DecidableEq, Repr

def Refusal.message : Refusal → Text
  | .sourceRequired => "a source file is required unless --symbols is given"
  | .missingValue switch => "argument " ++ switch.title ++ ": expected one argument"
  | .unknownOperation name =>
    "argument --emit: invalid choice: " ++ name.quoted ++ " (choose from " ++
      Text.join ", " (Operation.all.map fun operation => operation.name.quoted) ++ ")"
  | .surplusValue switch value =>
    "argument " ++ switch.title ++ ": ignored explicit argument " ++ value.quoted
  | .ambiguous argument spellings =>
    "ambiguous option: " ++ argument ++ " could match " ++ Text.join ", " spellings
  | .unrecognized arguments => "unrecognized arguments: " ++ Text.join " " arguments

inductive Shape
  | plain (text : Text)
  -- The double dash that ends the options.
  | ending
  -- A switch with the value written to it after an equals sign, if any.
  | long (switch : Switch) (value : Option Text)
  -- A switch of one letter and what is joined to it, directly or by an equals sign, if
  -- anything.
  | short (switch : Switch) (joined : Option Text)
  | unknown (text : Text)
  deriving DecidableEq, Repr

def splitEquals (text : Text) : Text × Option Text :=
  match text.dropWhile (· ≠ '=') with
  | [] => (text, none)
  | _ :: value => (text.takeWhile (· ≠ '='), some value)

def isNumber (text : Text) : Bool :=
  let text := if text.getLast? = some '\n' then text.dropLast else text
  let whole := text.takeWhile Text.isDigit
  match text.dropWhile Text.isDigit with
  | [] => whole ≠ []
  | '.' :: fraction => fraction ≠ [] && fraction.all Text.isDigit
  | _ => false

-- An argument with a dash that is no option: a number or a text with a space is taken plainly.
def leftOver (argument : Text) : Shape :=
  if isNumber (argument.drop 1) || ' ' ∈ argument then .plain argument else .unknown argument

def joinedTo : Text → Option Text
  | [] => none
  | '=' :: joined => some joined
  | joined => some joined

def shape (argument : Text) : Except Refusal Shape :=
  let (spelling, value) := splitEquals argument
  match argument with
  | '-' :: '-' :: _ =>
    match Switch.spelled? spelling with
    | some switch => .ok (.long switch value)
    | none =>
      match Switch.spellings.filter fun entry => Text.startsWith spelling entry.1 with
      | [] => .ok (leftOver argument)
      | [(_, switch)] => .ok (.long switch value)
      | several => .error (.ambiguous argument (several.map Prod.fst))
  | '-' :: c :: joined =>
    match Switch.spelled? ['-', c] with
    | some switch => .ok (.short switch (joinedTo joined))
    | none => .ok (leftOver argument)
  | _ => .ok (.plain argument)

def shapes : List Text → Except Refusal (List Shape)
  | [] => .ok []
  | argument :: rest =>
    if argument = "--" then .ok (.ending :: rest.map .plain)
    else do
      let first ← shape argument
      let others ← shapes rest
      return first :: others

structure Options where
  source : Option Text
  operation : Option Operation
  symbols : Bool
  verbose : Bool
  deriving DecidableEq, Repr

inductive Request
  | help
  | refused (refusal : Refusal)
  | work (options : Options)
  deriving DecidableEq, Repr

structure Progress where
  options : Options
  surplus : List Text
  deriving DecidableEq, Repr

def Progress.start : Progress := ⟨⟨none, some .validate, false, false⟩, []⟩

def Progress.place (progress : Progress) (argument : Text) : Progress :=
  match progress.options.source with
  | none => { progress with options := { progress.options with source := some argument } }
  | some _ => { progress with surplus := progress.surplus ++ [argument] }

def Progress.reject (progress : Progress) (argument : Text) : Progress :=
  { progress with surplus := progress.surplus ++ [argument] }

def Progress.turnOn (progress : Progress) : Switch → Except Request Progress
  | .help => .error .help
  | .emit => .ok progress
  | .symbols => .ok { progress with options := { progress.options with symbols := true } }
  | .verbose => .ok { progress with options := { progress.options with verbose := true } }

def Progress.setOperation (progress : Progress) (operation : Option Operation) : Progress :=
  { progress with options := { progress.options with operation := operation } }

def Progress.choose (progress : Progress) (name : Text) : Except Request Progress :=
  match Operation.named? name with
  | some operation => .ok (progress.setOperation operation)
  | none => .error (.refused (.unknownOperation name))

-- A choice written with an equals sign. A double dash there ends nothing, it takes the choice
-- back.
def Progress.chooseJoined (progress : Progress) (name : Text) : Except Request Progress :=
  if name = "--" then .ok (progress.setOperation none) else progress.choose name

-- A switch and those joined to it letter by letter. What is no switch is refused as a value of
-- the switch before it.
def cluster (switch : Switch) : Text → Except Refusal (List Switch)
  | [] => .ok [switch]
  | c :: joined =>
    match Switch.spelled? ['-', c] with
    | none => .error (.surplusValue switch (c :: joined))
    | some next => (cluster next joined).map (switch :: ·)

def switches (switch : Switch) : Option Text → Except Refusal (List Switch)
  | none => .ok [switch]
  | some [] => .error (.surplusValue switch [])
  | some joined => cluster switch joined

def Progress.join (progress : Progress) (switch : Switch) (joined : Option Text) :
    Except Request Progress :=
  match switches switch joined with
  | .error refusal => .error (.refused refusal)
  | .ok switches => switches.foldlM Progress.turnOn progress

-- Takes the arguments one by one. The double dash that stands where the source is expected, or
-- just after it, is dropped.
def Progress.take (progress : Progress) : List Shape → Except Request Progress
  | [] => .ok progress
  | .plain argument :: .ending :: rest =>
    if progress.options.source = none then (progress.place argument).take rest
    else ((progress.place argument).reject "--").take rest
  | .plain argument :: rest => (progress.place argument).take rest
  | .ending :: rest =>
    (if progress.options.source = none then progress else progress.reject "--").take rest
  | .unknown argument :: rest => (progress.reject argument).take rest
  | .short switch joined :: rest => do (← progress.join switch joined).take rest
  | .long .emit (some name) :: rest => do (← progress.chooseJoined name).take rest
  | .long .emit none :: .plain name :: rest => do (← progress.choose name).take rest
  | .long .emit none :: _ => .error (.refused (.missingValue .emit))
  | .long switch (some value) :: _ => .error (.refused (.surplusValue switch value))
  | .long switch none :: rest => do (← progress.turnOn switch).take rest

-- Without a source there has to be something else to do; an empty name is none.
def checkSource (options : Options) : Request :=
  let options := { options with source := options.source.filter (· ≠ []) }
  if options.source = none ∧ options.symbols = false then .refused .sourceRequired
  else .work options

def request (arguments : List Text) : Request :=
  match shapes arguments with
  | .error refusal => .refused refusal
  | .ok shapes =>
    match Progress.start.take shapes with
    | .error request => request
    | .ok progress =>
      if progress.surplus = [] then checkSource progress.options
      else .refused (.unrecognized progress.surplus)

end FunctionCalculator.CommandLine
