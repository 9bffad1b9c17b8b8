/-
TidyTree.CommandLine.Program — one run of the program.

A run gives a transcript: the pieces it writes, in the order it writes
them, the exit code, and the files it leaves.  Options and environment
decide which records and which report are written and in which colours;
what is formatted does not depend on them.  Times of day and the time
the run took are put in only when the transcript is read as text.
-/
import TidyTree.CommandLine.Usage
import TidyTree.Config.Json
import TidyTree.Launch
import TidyTree.ProgressBar
import TidyTree.Runner
import TidyTree.Text.Control

namespace TidyTree.CommandLine

/-! ## 1. Transcripts -/

/-- A piece that a run writes. -/
inductive Chunk where
  /-- A line of the log. -/
  | log (r : Record)
  /-- A text. -/
  | text (stream : Stream) (s : String)
  /-- The report on what was formatted. -/
  | report (s : Summary) (colour : Bool)

/-- What a run comes to. -/
structure Transcript where
  code : Nat
  chunks : List Chunk
  files : FileSystem
  /-- Everything that happened while files were found and formatted. -/
  events : List Event
  /-- The progress bar at the end, if there was one. -/
  bar : Option ProgressBar

/-- The times that a run shows: one for each line of its log, and the time it took. -/
structure Clock where
  stamp : Nat → String
  elapsed : Duration

/-- The text that a piece writes to a stream; `n` lines of the log were written before. -/
def Chunk.on (stream : Stream) (clock : Clock) (n : Nat) : Chunk → String
  | .log r => if stream = .error then r.line (clock.stamp n) else ""
  | .text s t => if stream = s then t else ""
  | .report s colour => if stream = .output then s.text clock.elapsed colour ++ "\n" else ""

/-- Whether a piece is a line of the log. -/
def Chunk.isLog : Chunk → Bool
  | .log _ => true
  | _ => false

/-- The text that pieces write to a stream; `n` lines of the log were written before. -/
def written (stream : Stream) (clock : Clock) : (n : Nat) → List Chunk → String
  | _, [] => ""
  | n, c :: cs => c.on stream clock n ++ written stream clock (if c.isLog then n + 1 else n) cs

/-- What a run writes to a stream. -/
def Transcript.on (t : Transcript) (stream : Stream) (clock : Clock) : String :=
  written stream clock 0 t.chunks

/-! ## 2. Formatting -/

/-- The record with which a run begins. -/
def configRecord (c : Config) : Record :=
  ⟨.debug, .commandLine, "Configuration: " ++ c.toJson⟩

/-- The line of a record in the log, if the threshold lets it through. -/
def logged (t : Threshold) (r : Record) : List Chunk :=
  if t.admits r.level then [.log r] else []

/-- The pieces that one sign of a formatter gives. -/
def chunksOfSign (t : Threshold) : Sign → List Chunk
  | .record r => logged t r
  | .launch _ => []
  | .printed stream s => [.text stream s]

/-- The pieces that an event gives. -/
def chunksOfEvent (t : Threshold) : Event → List Chunk
  | .record r => logged t r
  | .call _ signs => signs.flatMap (chunksOfSign t)
  | .report _ => []

/-- The progress bar of a run over some files: none if nothing is to be shown or nothing to be
formatted. -/
def barFor (o : Options) (paths : List String) : Option ProgressBar :=
  if o.quiet = false ∧ paths ≠ [] then some (.new paths.length.toUInt64) else none

/-- The bar moves by one with each file and shows its path. -/
def tick : Observer (Option ProgressBar) :=
  .keeping fun outcome bar => bar.map fun b => (b.setMessage outcome.path).advance 1

/-- Finds the sources and formats them. -/
def format (launch : Launcher) (o : Options) (colour : Bool) (files : FileSystem) : Transcript :=
  let config := Config.default
  let runner := Runner.ofConfig launch config
  let found := runner.discover files
  let run := runner.formatFiles tick found.files (barFor o found.files) files
  let events := found.records.map Event.record ++ run.events
  { code := 0
    chunks := logged o.level (configRecord config) ++ events.flatMap (chunksOfEvent o.level) ++
      if o.quiet then [] else [.report run.summary colour]
    files := run.files
    events
    bar := run.observer.map fun b => b.finishWith "done" }

/-! ## 3. The whole program -/

/-- Whether the environment asks for a report in colour where there is no terminal. -/
def forcesColour (env : Environment) : Bool :=
  match env.value? "CLICOLOR_FORCE" with
  | some v => v ≠ "0"
  | none => false

/-- Whether help and usage errors are in colour: if the environment asks for it with any text and
does not ask for the contrary. -/
def usageInColour (env : Environment) : Bool :=
  (env.value? "CLICOLOR_FORCE").getD "" ≠ "" && (env.value? "NO_COLOR").getD "" = ""

/-- The text of help or of a usage error.  Without colour, control sequences and control
characters are left out wherever they come from, an argument included. -/
def usageText (colour : Bool) (spans : List Text.Span) : String :=
  if colour then Text.render true spans else Text.withoutControl (Text.render true spans)

/-- A run that only writes a text. -/
def onlyText (code : Nat) (stream : Stream) (s : String) (files : FileSystem) : Transcript :=
  { code, chunks := [.text stream s], files, events := [], bar := none }

/-- One run of the program with some arguments in an environment. -/
def program (launch : Launcher) (env : Environment) (arguments : List String)
    (files : FileSystem) : Transcript :=
  let colour := usageInColour env
  match request arguments with
  | .run o => format launch o (forcesColour env) files
  | .help => onlyText 0 .output (usageText colour helpSpans) files
  | .version => onlyText 0 .output (usageText colour versionSpans) files
  | .refuse e => onlyText 2 .error (usageText colour e.spans) files

end TidyTree.CommandLine
