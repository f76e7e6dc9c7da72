import FunctionCalculator.CommandLine.Answer
import FunctionCalculator.Proofs.Operation.Ending
import FunctionCalculator.Proofs.Registry.Table
/-!
What the command line writes of a run, and the status that it leaves with. The text of the operation
is written whole with one line feed at its end, after the symbol table where this is asked for.
-/

set_option autoImplicit false

namespace FunctionCalculator.CommandLine

/-- The source of a name. The standard input is taken as it is; of a file only the line ends change.
-/
inductive Delivers (read : Text → Except Unreadable Text) : Text → Text → Prop
  | standardInput {source : Text} (readable : read "-" = .ok source) : Delivers read "-" source
  | file {name contents source : Text} (named : name ≠ "-") (readable : read name = .ok contents)
    (unified : contents.Unified source) : Delivers read name source

structure Asks (arguments : List Text) (read : Text → Except Unreadable Text) (source : Text)
    (operation : Operation) (options : Options) : Prop where
  requested : request arguments = .work options
  chosen : options.operation = some operation
  readable : ∃ name, options.source = some name ∧ '\x00' ∉ name ∧ Delivers read name source

theorem runSource_output (operation : Operation) (verbose : Bool) (source : Text) :
    ∃ line, line.Unended ∧
      (operation.run source = line ∨ operation.run source = line ++ ['\n']) ∧
      (runSource operation verbose source).output = line ++ ['\n'] := by
  have once := operation.run_endsOnce source
  refine ⟨_, once, Text.eq_dropFinalLineFeed _, ?_⟩
  show Text.dropFinalLineFeeds _ ++ ['\n'] = _
  rw [once.dropFinalLineFeeds]

section Answer

variable {arguments : List Text} {read : Text → Except Unreadable Text} {name source : Text}
  {operation : Operation} {options : Options}

theorem Delivers.sourceText (delivers : Delivers read name source) :
    ∃ contents, read name = .ok contents ∧ sourceText name contents = source := by
  cases delivers with
  | standardInput readable => exact ⟨source, readable, if_pos rfl⟩
  | @file _ contents _ named readable unified =>
    exact ⟨contents, readable, (if_neg named).trans unified.eq_unifyLineEnds.symm⟩

theorem answer_of_asks (asks : Asks arguments read source operation options) :
    answer arguments read = .ok { runSource operation options.verbose source with
      output := preamble options ++ (runSource operation options.verbose source).output } := by
  obtain ⟨name, named, whole, delivers⟩ := asks.readable
  obtain ⟨contents, readable, rfl⟩ := delivers.sourceText
  simp [answer, asks.requested, work, named, whole, readable, asks.chosen]

/-- For a source that can be read, the answer is the symbol table if this was asked for, the result
of the run and one line feed. The status tells whether the result is an error, and asking for the
log changes neither. -/
theorem answer_shows_run (asks : Asks arguments read source operation options) :
    let result := operation.run source
    ∃ outcome line, answer arguments read = .ok outcome ∧
      outcome.output =
        (if options.symbols then SymbolTable.table Registry.standard else []) ++ line ++ ['\n'] ∧
      line.Unended ∧ (result = line ∨ result = line ++ ['\n']) ∧
      outcome.status = (if Text.startsWith "Error: " result then 1 else 0) ∧
      ∀ others level, Asks others read source operation { options with verbose := level } →
        ∃ other, answer others read = .ok other ∧
          other.output = outcome.output ∧ other.status = outcome.status := by
  intro result
  obtain ⟨line, unended, whole, output⟩ := runSource_output operation options.verbose source
  refine ⟨_, line, answer_of_asks asks, ?_, unended, whole, rfl, ?_⟩
  · rw [output, preamble, SymbolTable.standard_eq, List.append_assoc]
  · -- The level is only read by what is written to the log.
    intro others level asked
    exact ⟨_, answer_of_asks asked, rfl, rfl⟩

-- The same characters are a palindrome when they come from a file, where the two between the
-- letters are one line end, and none when they come from the standard input.
theorem answer_shows_run_palindrome :
    let contents : Text := "boolean ispalindrome(a\r\na);\r\n"
    let unified : Text := "boolean ispalindrome(a\na);\n"
    let read : Text → Except Unreadable Text := fun _ => .ok contents
    let ofFile : List Text := ["call.txt", "--emit", "eval", "--symbols"]
    let verbosely : List Text := ["-v", "--symbols", "--emit=eval", "call.txt"]
    let ofInput : List Text := ["-", "--emit", "eval"]
    let options : Options := ⟨some "call.txt", some .evaluate, true, false⟩
    (Asks ofFile read unified .evaluate options ∧
      Asks verbosely read unified .evaluate { options with verbose := true } ∧
      ∃ outcome, answer ofFile read = .ok outcome ∧
        outcome.output = SymbolTable.table Registry.standard ++ "Result: true" ++ ['\n'] ∧
        outcome.status = 0 ∧
        ∃ other, answer verbosely read = .ok other ∧
          other.output = outcome.output ∧ other.status = outcome.status) ∧
      Asks ofInput read contents .evaluate ⟨some "-", some .evaluate, false, false⟩ ∧
      ∃ outcome, answer ofInput read = .ok outcome ∧
        outcome.output = "Result: false" ++ ['\n'] ∧ outcome.status = 0 := by
  intro contents unified read ofFile verbosely ofInput options
  have lines : contents.unifyLineEnds = unified := by decide +kernel
  have fromFile : Delivers read "call.txt" unified :=
    .file (by decide) rfl (lines ▸ Text.unified_unifyLineEnds contents)
  have readable : ∃ name, options.source = some name ∧ '\x00' ∉ name ∧ Delivers read name unified :=
    ⟨"call.txt", rfl, Text.not_mem_toList (by decide), fromFile⟩
  have asks : Asks ofFile read unified .evaluate options := ⟨by decide +kernel, rfl, readable⟩
  have asked : Asks verbosely read unified .evaluate { options with verbose := true } :=
    ⟨by decide +kernel, rfl, readable⟩
  have asksInput : Asks ofInput read contents .evaluate ⟨some "-", some .evaluate, false, false⟩ :=
    ⟨by decide +kernel, rfl, "-", rfl, Text.not_mem_toList (by decide), .standardInput rfl⟩
  have isPalindrome : Operation.evaluate.run unified = "Result: true" := by decide +kernel
  have noPalindrome : Operation.evaluate.run contents = "Result: false" := by decide +kernel
  refine ⟨⟨asks, asked, ?_⟩, asksInput, ?_⟩
  · obtain ⟨outcome, line, answered, output, -, whole, status, verbose⟩ := answer_shows_run asks
    rw [isPalindrome] at whole status
    obtain rfl := Text.eq_of_unended (by decide) whole
    exact ⟨outcome, answered, output, status, verbose verbosely true asked⟩
  · obtain ⟨outcome, line, answered, output, -, whole, status, -⟩ := answer_shows_run asksInput
    rw [noPalindrome] at whole status
    obtain rfl := Text.eq_of_unended (by decide) whole
    exact ⟨outcome, answered, output, status⟩

end Answer

end FunctionCalculator.CommandLine
