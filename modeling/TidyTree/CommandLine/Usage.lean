/-
TidyTree.CommandLine.Usage — help, version and the texts of usage
errors.
-/
import TidyTree.CommandLine.Options
import TidyTree.Text.Styled

namespace TidyTree.CommandLine

open Text (Span Style)

/-- The name of the program. -/
def programName : String := "format_sources"

/-- The version of the program. -/
def programVersion : String := "0.1.0"

/-- What the program does. -/
def about : String := "Runs clang-format in place on every .h and .cpp file under src/"

/-! ## 1. Parts -/

/-- A text without style. -/
def plain (s : String) : Span := ⟨.plain, s⟩

/-- A text to be typed as it is. -/
def literal (s : String) : Span := ⟨.bold, s⟩

/-- A text that was not expected. -/
def invalid (s : String) : Span := ⟨.yellow, s⟩

/-- A text that would be right. -/
def valid (s : String) : Span := ⟨.green, s⟩

/-- An option to be typed, with the place of its value. -/
def flagSpans (f : Flag) : List Span :=
  literal ("--" ++ f.name) :: (match f.value? with
    | some v => [plain (" " ++ v)]
    | none => [])

/-- The usage line with something behind the name of the program. -/
def usageLine (parts : List Span) : List Span :=
  [⟨.boldUnderlined, "Usage:"⟩, plain " ", literal programName] ++ parts ++ [plain "\n"]

/-- A place for any options. -/
def anyOptions : List Span := [plain " [OPTIONS]"]

/-- Some options, or a place for any if there are none. -/
def theseOptions (used : List Flag) : List Span :=
  if used.isEmpty then anyOptions else used.flatMap fun f => plain " " :: flagSpans f

/-- The options that say how to run, as a choice. -/
def choiceOfOptions : Span :=
  plain (" <" ++ "|".intercalate ([Flag.logLevel, Flag.quiet].map Flag.text) ++ ">")

/-! ## 2. Help and version -/

/-- What an option is good for. -/
def purpose : Flag → String
  | .logLevel => "Set logging level (default: INFO) [default: info]"
  | .quiet => "Suppress progress bar and summary"
  | .help => "Print help"
  | .version => "Print version"

/-- The letter of an option, if it has one. -/
def letter? : Flag → Option String
  | .help => some "-h"
  | .version => some "-V"
  | _ => none

/-- The column at which the purpose of an option begins. -/
def purposeColumn : Nat := 31

/-- The line of an option in the help. -/
def helpLine (f : Flag) : List Span :=
  let head := match letter? f with
    | some l => [plain "  ", literal l, plain ", "]
    | none => [plain "      "]
  let front := head ++ flagSpans f
  let width := (Text.render false front).length
  front ++ [plain (String.ofList (List.replicate (purposeColumn - width) ' ')),
    plain (purpose f), plain "\n"]

/-- The help. -/
def helpSpans : List Span :=
  [plain about, plain "\n\n"] ++ usageLine anyOptions ++
    [plain "\n", ⟨.boldUnderlined, "Options:"⟩, plain "\n"] ++ Flag.all.flatMap helpLine

/-- The version. -/
def versionSpans : List Span := [plain (programName ++ " " ++ programVersion ++ "\n")]

/-! ## 3. Errors -/

/-- What a usage error says. -/
def UsageError.said : UsageError → List Span
  | .unknown a _ _ => [plain "unexpected argument '", invalid a, plain "' found"]
  | .repeated f =>
    [plain "the argument '", invalid f.text, plain "' cannot be used multiple times"]
  | .unexpectedValue f v _ =>
    [plain "unexpected value '", invalid v, plain "' for '", literal f.text,
      plain "' found; no more were expected"]
  | .invalidLevel v =>
    [plain "invalid value '", invalid v, plain "' for '", literal Flag.logLevel.text,
      plain "': attempted to convert a string that doesn't match an existing log level"]
  | .missingLevel =>
    [plain "a value is required for '", invalid Flag.logLevel.text,
      plain "' but none was supplied"]

/-- The tip that a usage error gives. -/
def UsageError.tip : UsageError → List Span
  | .unknown _ (some name) _ =>
    [plain "  ", valid "tip:", plain " a similar argument exists: '", valid ("--" ++ name),
      plain "'\n\n"]
  | _ => []

/-- The usage line that a usage error shows.  Behind other options, one that says how to run is
shown as part of the choice. -/
def UsageError.usage : UsageError → List Span
  | .unknown _ _ used => usageLine (theseOptions used) ++ [plain "\n"]
  | .unexpectedValue f _ false => usageLine (theseOptions [f]) ++ [plain "\n"]
  | .unexpectedValue .help _ true =>
    usageLine (theseOptions [.help] ++ [choiceOfOptions]) ++ [plain "\n"]
  | .unexpectedValue .version _ true =>
    usageLine (theseOptions [.version] ++ [choiceOfOptions]) ++ [plain "\n"]
  | .unexpectedValue _ _ true => usageLine [choiceOfOptions] ++ [plain "\n"]
  | .repeated _ => usageLine anyOptions ++ [plain "\n"]
  | .invalidLevel _ | .missingLevel => []

/-- The whole text of a usage error. -/
def UsageError.spans (e : UsageError) : List Span :=
  [⟨.boldRed, "error:"⟩, plain " "] ++ e.said ++ [plain "\n\n"] ++ e.tip ++ e.usage ++
    [plain "For more information, try '", literal "--help", plain "'.\n"]

end TidyTree.CommandLine
