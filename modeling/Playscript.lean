import Playscript.Classifier
import Playscript.Command.Line
import Playscript.Command.Run
import Playscript.Feature.Basic
import Playscript.FileTree
import Playscript.Layout
import Playscript.Main
import Playscript.Output
import Playscript.Page.Base
import Playscript.Page.Units
import Playscript.Script.Reader
import Playscript.Session
import Playscript.StepMap.Printer
import Playscript.StepMap.Reader
import Playscript.Volume
import Playscript.Watch.Change
import Playscript.Watch.Watcher
import Playscript.Proofs.Json.Quoting
import Playscript.Proofs.Json.Tokens
import Playscript.Proofs.StepMap.Normal
import Playscript.Proofs.StepMap.RoundTrip
import Playscript.Proofs.Script.Fresh
import Playscript.Proofs.FirstOccurrences
import Playscript.Proofs.Page.Plan
import Playscript.Proofs.Script.Build
import Playscript.Proofs.Page.Statement
import Playscript.Proofs.Page.Modules
import Playscript.Proofs.Page.Members
import Playscript.Proofs.Page.Replay
import Playscript.Proofs.Watch.Batch
import Playscript.Proofs.Script.Leaves
import Playscript.Proofs.Script.Lexer
import Playscript.Proofs.Script.Lexing
import Playscript.Proofs.Page.Legal
import Playscript.Proofs.Script.Parser
import Playscript.Proofs.Script.Parsing
import Playscript.Proofs.Script.Unambiguous
import Playscript.Proofs.FileTree.Places
import Playscript.Proofs.Output.Failure
import Playscript.Proofs.Feature.Scenarios
import Playscript.Proofs.Page.Classified
import Playscript.Proofs.Watch.Run
import Playscript.Proofs.FileTree.Found
import Playscript.Proofs.Output.Existing
import Playscript.Proofs.Disk
import Playscript.Proofs.Session.Disk
import Playscript.Proofs.Session.Effects
import Playscript.Proofs.Command.Existing
import Playscript.Proofs.Page.Bindings
import Playscript.Proofs.Script.Chains
import Playscript.Proofs.FileTree.WellFormed
import Playscript.Proofs.FileTree.Steps
import Playscript.Proofs.Output.Steps
import Playscript.Proofs.Processing.Stages
import Playscript.Proofs.FileTree.Advance
import Playscript.Proofs.Inputs
import Playscript.Proofs.Processing.Done
import Playscript.Proofs.Command.Rerun
import Playscript.Proofs.Path.Straight
import Playscript.Proofs.FileTree.Walk
import Playscript.Proofs.FileTree.Directories
import Playscript.Proofs.FileTree.Abreast
import Playscript.Proofs.Output.Abreast
import Playscript.Proofs.Processing.Independent
import Playscript.Proofs.Processing.Order
import Playscript.Proofs.Script.Classes
import Playscript.Proofs.Script.StringLiteral
import Playscript.Proofs.Script.RegexLiteral
import Playscript.Proofs.Output.Clearing
import Playscript.Proofs.Output.Room
import Playscript.Proofs.Output.Outcome
import Playscript.Proofs.Text.Pieces
import Playscript.Proofs.Text.Casing
import Playscript.Proofs.Clue
import Playscript.Proofs.Classifier.Priority
import Playscript.Proofs.Classifier.LetterCase
import Playscript.Proofs.Naming.StopWords
import Playscript.Proofs.Naming.Basic
import Playscript.Proofs.Classifier.Understood
import Playscript.Proofs.Page.Growth
import Playscript.Proofs.Json.Reading
import Playscript.Proofs.StepMap.Insertion
import Playscript.Proofs.Batch
import Playscript.Proofs.Classifier.Named
import Playscript.Proofs.Path.Names
import Playscript.Proofs.FileTree.Listing
import Playscript.Proofs.Layout
import Playscript.Proofs.Processing.Accepted
import Playscript.Proofs.Selection
import Playscript.Proofs.Script.Lines
import Playscript.Proofs.Page.Lines
import Playscript.Proofs.Text.Runs
import Playscript.Proofs.Naming.CamelCase
import Playscript.Proofs.Script.Search
