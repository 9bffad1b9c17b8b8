/-
TidyTree.Session — several steps on one runner.

A session keeps a runner, an observer and the files between steps.  A
step may find files, format, or change the files from outside; of one
step the next one sees the files it left and the states of formatter
and observer, and nothing else.
-/
import TidyTree.Runner

namespace TidyTree

/-- One step of a session. -/
inductive Action where
  /-- Find the files, but leave them alone. -/
  | discover
  /-- Find the files and format them. -/
  | run
  /-- Find the files and format them, telling an observer about each. -/
  | runWith
  /-- Format the given files, telling an observer about each. -/
  | formatFiles (paths : List String)
  /-- Change the files from outside. -/
  | change (f : FileSystem → FileSystem)

/-- What a step answers. -/
inductive Answer where
  | found (paths : List String)
  | done (summary : Summary)
  | nothing

/-- A runner with the files it works on and the observer that is told about them. -/
structure Session (σ τ : Type) where
  runner : Runner σ
  observe : Observer τ
  observer : τ
  files : FileSystem

/-- What one step comes to. -/
structure Stage (σ τ : Type) where
  session : Session σ τ
  answer : Answer
  events : List Event

namespace Session

variable {σ τ : Type}

/-- Finds the files of the configuration. -/
def discover (s : Session σ τ) : Stage σ τ :=
  let found := s.runner.discover s.files
  ⟨s, .found found.files, found.records.map Event.record⟩

/-- Formats the given files. -/
def formatFiles (s : Session σ τ) (paths : List String) : Stage σ τ :=
  let r := s.runner.formatFiles s.observe paths s.observer s.files
  ⟨⟨r.runner, s.observe, r.observer, r.files⟩, .done r.summary, r.events⟩

/-- Finds the files of the configuration and formats them, telling the observer. -/
def runWith (s : Session σ τ) : Stage σ τ :=
  let r := s.runner.runWith s.observe s.observer s.files
  ⟨⟨r.runner, s.observe, r.observer, r.files⟩, .done r.summary, r.events⟩

/-- Finds the files of the configuration and formats them. -/
def run (s : Session σ τ) : Stage σ τ :=
  let r := s.runner.run s.files
  ⟨{ s with runner := r.runner, files := r.files }, .done r.summary, r.events⟩

/-- Changes the files from outside. -/
def change (s : Session σ τ) (f : FileSystem → FileSystem) : Stage σ τ :=
  ⟨{ s with files := f s.files }, .nothing, []⟩

/-- Performs one step. -/
def perform (s : Session σ τ) : Action → Stage σ τ
  | .discover => s.discover
  | .run => s.run
  | .runWith => s.runWith
  | .formatFiles paths => s.formatFiles paths
  | .change f => s.change f

/-- Performs steps one after the other; gives the session at the end and the stages. -/
def performAll (s : Session σ τ) : List Action → Session σ τ × List (Stage σ τ)
  | [] => (s, [])
  | a :: as =>
    let stage := s.perform a
    let (last, stages) := stage.session.performAll as
    (last, stage :: stages)

end Session

end TidyTree
