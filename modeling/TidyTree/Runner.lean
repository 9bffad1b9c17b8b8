/-
TidyTree.Runner — finding files and formatting them one by one.

A run first finds all files and only then formats them, in the order
they were found.  A failure is noted and reported, and the run goes on.
Everything that happens is kept as a list of events in the order it
happened: records of the run itself, calls of the formatter with what
could be seen of them, and reports to an observer, which is called once
per file and may keep a state and even change files.
-/
import TidyTree.Discovery
import TidyTree.Formatter.Process
import TidyTree.Summary

namespace TidyTree

/-! ## 1. Events and observers -/

/-- What happened to one file. -/
structure FileOutcome where
  path : String
  result : Except FormatError Unit

/-- One event of a run. -/
inductive Event where
  /-- A record of the run itself. -/
  | record (r : Record)
  /-- The formatter was called on a path. -/
  | call (path : String) (signs : List Sign)
  /-- The observer was told about a file. -/
  | report (outcome : FileOutcome)

/-- What is told about each file as soon as its outcome is known.  Its states are of type `τ`. -/
abbrev Observer (τ : Type) := FileOutcome → τ → FileSystem → τ × FileSystem

namespace Observer

/-- The observer that does nothing. -/
def silent {τ : Type} : Observer τ := fun _ t files => (t, files)

/-- The observer that only keeps a state. -/
def keeping {τ : Type} (f : FileOutcome → τ → τ) : Observer τ := fun o t files => (f o t, files)

end Observer

/-! ## 2. Formatting a list of files -/

/-- What changes in the course of a run: the files, the state of the formatter and that of the
observer. -/
structure World (σ τ : Type) where
  files : FileSystem
  formatter : σ
  observer : τ

/-- What formatting a list of files comes to: the world at its end, the events, and the results
in the order of the files. -/
structure Course (σ τ : Type) where
  world : World σ τ
  events : List Event
  results : List (Except FormatError Unit)

/-- The record of a failed file. -/
def failureRecord (e : FormatError) : Record := ⟨.warn, .runner, e.text⟩

/-- The events of one result: a record if it is a failure. -/
def failureEvents : Except FormatError Unit → List Event
  | .ok () => []
  | .error e => [.record (failureRecord e)]

/-- Formats files one after the other, each in the world that the one before left. -/
def formatEach {σ τ : Type} (format : Formatter σ) (observe : Observer τ) :
    List String → World σ τ → Course σ τ
  | [], w => ⟨w, [], []⟩
  | path :: paths, w =>
    let reply := format path w.formatter w.files
    let outcome : FileOutcome := ⟨path, reply.outcome⟩
    let (observer, files) := observe outcome w.observer reply.files
    let rest := formatEach format observe paths ⟨files, reply.state, observer⟩
    { world := rest.world
      events := .call path reply.signs :: (failureEvents reply.outcome ++
        .report outcome :: rest.events)
      results := reply.outcome :: rest.results }

/-! ## 3. Runners -/

/-- A configuration with a formatter and the formatter's present state. -/
structure Runner (σ : Type) where
  config : Config
  format : Formatter σ
  state : σ

/-- What one run comes to: the runner, the observer and the files at its end, the events, and the
summary. -/
structure Run (σ τ : Type) where
  runner : Runner σ
  observer : τ
  files : FileSystem
  events : List Event
  summary : Summary

namespace Runner

variable {σ τ : Type}

/-- Finds the files of the configuration. -/
def discover (r : Runner σ) (files : FileSystem) : Discovery :=
  TidyTree.discover files r.config.rootDir r.config.suffixes

/-- The record at the start of formatting. -/
def foundRecord (r : Runner σ) (paths : List String) : Record :=
  ⟨.info, .runner,
    "Found " ++ toString paths.length ++ " source files under " ++ r.config.rootDir⟩

/-- Formats the given files, whether or not they exist. -/
def formatFiles (r : Runner σ) (observe : Observer τ) (paths : List String) (t : τ)
    (files : FileSystem) : Run σ τ :=
  let course := formatEach r.format observe paths ⟨files, r.state, t⟩
  { runner := { r with state := course.world.formatter }
    observer := course.world.observer
    files := course.world.files
    events := .record (r.foundRecord paths) :: course.events
    summary := course.results.foldl Summary.record (.start paths.length) }

/-- Finds the files of the configuration and formats them, telling an observer. -/
def runWith (r : Runner σ) (observe : Observer τ) (t : τ) (files : FileSystem) : Run σ τ :=
  let found := r.discover files
  let run := r.formatFiles observe found.files t files
  { run with events := found.records.map Event.record ++ run.events }

/-- Finds the files of the configuration and formats them. -/
def run (r : Runner σ) (files : FileSystem) : Run σ Unit := r.runWith .silent () files

/-- The runner that starts the command of its configuration on each file. -/
def ofConfig (launch : Launcher) (c : Config) : Runner Unit :=
  ⟨c, (Command.ofConfig c).formatter launch, ()⟩

end Runner

/-- Formats the tree below `root` with everything else at its default. -/
def formatTree (launch : Launcher) (root : String) (files : FileSystem) : Run Unit Unit :=
  (Runner.ofConfig launch { Config.default with rootDir := root }).run files

end TidyTree
