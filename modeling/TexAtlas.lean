import TexAtlas.Clustering
import TexAtlas.Command.Arguments
import TexAtlas.Command.Run
import TexAtlas.Component
import TexAtlas.Component.Form
import TexAtlas.Configuration
import TexAtlas.Configuration.Form
import TexAtlas.Decimal.Shortest
import TexAtlas.Dependency
import TexAtlas.Deployment
import TexAtlas.Duration
import TexAtlas.Engine
import TexAtlas.Failure
import TexAtlas.File.Basic
import TexAtlas.File.Form
import TexAtlas.File.Role
import TexAtlas.File.Source
import TexAtlas.FileIndex
import TexAtlas.FileIndex.Listing
import TexAtlas.Graph.Basic
import TexAtlas.Graph.Levels
import TexAtlas.Graph.StrongComponents
import TexAtlas.Host.Compiler
import TexAtlas.Host.Course
import TexAtlas.Host.Fault
import TexAtlas.Host.Process
import TexAtlas.Host.Tree
import TexAtlas.Json.Fault
import TexAtlas.Json.Form
import TexAtlas.Json.Lexeme
import TexAtlas.Json.Shape
import TexAtlas.Json.Skip
import TexAtlas.Json.Writer
import TexAtlas.Loading
import TexAtlas.Main
import TexAtlas.Name.Distinct
import TexAtlas.Name.Map
import TexAtlas.Name.Sorted
import TexAtlas.Override
import TexAtlas.Override.Form
import TexAtlas.Path
import TexAtlas.Pattern.Basic
import TexAtlas.Pattern.Bracket
import TexAtlas.Pattern.Escape
import TexAtlas.Pattern.Expression
import TexAtlas.Pattern.Flags
import TexAtlas.Pattern.Footprint
import TexAtlas.Pattern.Parser
import TexAtlas.Pattern.Program
import TexAtlas.Pattern.Search
import TexAtlas.Probe.Classifier
import TexAtlas.Probe.Document
import TexAtlas.Probe.FileTable
import TexAtlas.Probe.Listing
import TexAtlas.Probe.Tagged
import TexAtlas.Proofs.Command.Agreement
import TexAtlas.Proofs.FileIndex
import TexAtlas.Proofs.FileIndex.Engines
import TexAtlas.Proofs.FileIndex.RoundTrip
import TexAtlas.Proofs.FileIndex.Trees
import TexAtlas.Proofs.Graph.Closing
import TexAtlas.Proofs.Graph.Condensation
import TexAtlas.Proofs.Graph.Levels
import TexAtlas.Proofs.Graph.Reach
import TexAtlas.Proofs.Graph.Schedule
import TexAtlas.Proofs.Graph.StrongComponents
import TexAtlas.Proofs.Graph.Walk
import TexAtlas.Proofs.Names
import TexAtlas.Proofs.Override
import TexAtlas.Proofs.Path
import TexAtlas.Proofs.Pattern.Layout
import TexAtlas.Proofs.Pattern.Lines
import TexAtlas.Proofs.Pattern.Runs
import TexAtlas.Proofs.Pattern.Search
import TexAtlas.Proofs.Probe.Classifier
import TexAtlas.Proofs.Probe.Document
import TexAtlas.Proofs.Probe.FileNames
import TexAtlas.Proofs.Probe.FileTable
import TexAtlas.Proofs.Probe.Tagged
import TexAtlas.Proofs.Probe.TaggedGrammar
import TexAtlas.Proofs.Probe.TaggedLine
import TexAtlas.Proofs.References
import TexAtlas.Proofs.Registry.Alike
import TexAtlas.Proofs.Registry.Basic
import TexAtlas.Proofs.Registry.Distance
import TexAtlas.Proofs.Registry.Edits
import TexAtlas.Proofs.Registry.Export
import TexAtlas.Proofs.Registry.Reachable
import TexAtlas.Proofs.Scanner
import TexAtlas.Proofs.Scanner.LetterRuns
import TexAtlas.Proofs.Session.Agreement
import TexAtlas.Proofs.Session.Attributed
import TexAtlas.Proofs.Session.Clustering
import TexAtlas.Proofs.Session.Coherent
import TexAtlas.Proofs.Session.Completion
import TexAtlas.Proofs.Session.Components
import TexAtlas.Proofs.Session.Discovery
import TexAtlas.Proofs.Session.DisjointSymbols
import TexAtlas.Proofs.Session.Exactness
import TexAtlas.Proofs.Session.Exports
import TexAtlas.Proofs.Session.Indexing
import TexAtlas.Proofs.Session.Isolation
import TexAtlas.Proofs.Session.Journal
import TexAtlas.Proofs.Session.Ledger
import TexAtlas.Proofs.Session.Level
import TexAtlas.Proofs.Session.Lockstep
import TexAtlas.Proofs.Session.Moments
import TexAtlas.Proofs.Session.OrderIndependence
import TexAtlas.Proofs.Session.References
import TexAtlas.Proofs.Session.Resolving
import TexAtlas.Proofs.Session.Runs
import TexAtlas.Proofs.Session.Schedules
import TexAtlas.Proofs.Session.Task
import TexAtlas.Proofs.Session.WorkingSet
import TexAtlas.Proofs.Stem
import TexAtlas.Proofs.TaskPool
import TexAtlas.Proofs.TaskPool.Orders
import TexAtlas.Proofs.Text
import TexAtlas.Registry.Basic
import TexAtlas.Registry.Reachable
import TexAtlas.Registry.State
import TexAtlas.Scanner
import TexAtlas.Script.Action
import TexAtlas.Script.Condition
import TexAtlas.Script.Fields
import TexAtlas.Script.Format
import TexAtlas.Script.Glob
import TexAtlas.Script.Machine
import TexAtlas.Script.Program
import TexAtlas.Script.Program.Basic
import TexAtlas.Script.Program.Files
import TexAtlas.Script.Program.Lines
import TexAtlas.Script.Program.Output
import TexAtlas.Script.Reader
import TexAtlas.Script.Reading
import TexAtlas.Script.Run
import TexAtlas.Script.Sum
import TexAtlas.Script.Syntax
import TexAtlas.Session.Attribution
import TexAtlas.Session.Basic
import TexAtlas.Session.Closure
import TexAtlas.Session.Resolve
import TexAtlas.Session.Setup
import TexAtlas.TaskPool
import TexAtlas.Text.Blank
import TexAtlas.Text.CharacterSet
import TexAtlas.Text.Cut
import TexAtlas.Text.Find
import TexAtlas.Text.Intervals
import TexAtlas.Text.Lines
import TexAtlas.Text.Octets
import TexAtlas.Text.Property.Age
import TexAtlas.Text.Property.Boundary
import TexAtlas.Text.Property.Category
import TexAtlas.Text.Property.Derived
import TexAtlas.Text.Property.Folding
import TexAtlas.Text.Property.Letter
import TexAtlas.Text.Property.Listed
import TexAtlas.Text.Property.Named
import TexAtlas.Text.Property.Script
import TexAtlas.Text.Property.SharedScript
import TexAtlas.Text.Property.Unprintable
import TexAtlas.Text.Property.Word
import TexAtlas.Text.Quoted
import TexAtlas.Text.Utf8
