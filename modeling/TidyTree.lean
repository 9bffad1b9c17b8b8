import TidyTree.CommandLine.Program
import TidyTree.FileSystem.Inventory
import TidyTree.FileSystem.Standard
import TidyTree.Formatter.Scripted
import TidyTree.Main
import TidyTree.Session
import TidyTree.Proofs.Path.Relative
import TidyTree.Proofs.FileSystem.WellFormed
import TidyTree.Proofs.FileSystem.Shuffle
import TidyTree.Proofs.FileSystem.Following
import TidyTree.Proofs.Text.ByteOrder
import TidyTree.Proofs.Walk.Steps
import TidyTree.Proofs.Walk.Order
import TidyTree.Proofs.Discovery.Files
import TidyTree.Proofs.Discovery.Exactness
import TidyTree.Proofs.Discovery.Order
import TidyTree.Proofs.Runner.Trace
import TidyTree.Proofs.Runner.Snapshot
import TidyTree.Proofs.Discovery.Walked
import TidyTree.Proofs.Discovery.Records
import TidyTree.Proofs.Discovery.Isolation
import TidyTree.Proofs.Json.Strings
import TidyTree.Proofs.Runner.EntryPoints
import TidyTree.Proofs.Config.Readings
import TidyTree.Proofs.Config.RoundTrip
import TidyTree.Proofs.CommandLine.Grammar
import TidyTree.Proofs.CommandLine.Acceptance
import TidyTree.Proofs.Runner.Failures
import TidyTree.Proofs.Runner.Sessions
import TidyTree.Proofs.Formatter.Outcome
import TidyTree.Proofs.Json.Grammar
import TidyTree.Proofs.Json.Skipping
import TidyTree.Proofs.Config.Given
import TidyTree.Proofs.Config.Objects
import TidyTree.Proofs.Json.Truncation
import TidyTree.Proofs.Config.Truncation
import TidyTree.Proofs.FileSystem.Below
import TidyTree.Proofs.Discovery.Subtrees
import TidyTree.Proofs.Discovery.Suffixes
import TidyTree.Proofs.FileSystem.Links
import TidyTree.Proofs.Discovery.Spelling
import TidyTree.Proofs.Runner.Pieces
import TidyTree.Proofs.Summary.Lines
import TidyTree.Proofs.Summary.Colour
import TidyTree.Proofs.CommandLine.Progress
import TidyTree.Proofs.Config.Positions
