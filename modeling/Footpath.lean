import Footpath.OrderedMap
import Footpath.Text.Charset
import Footpath.Text.Letter
import Footpath.Text.Lowercase
import Footpath.Text.Mark
import Footpath.Text.Quoted
import Footpath.Text.Width
import Footpath.Text.Emoji
import Footpath.Text.Columns
import Footpath.Text.Cluster
import Footpath.Text.Blank
import Footpath.Decimal.Shortest
import Footpath.Decimal.FloatFormat
import Footpath.Decimal.Reading
import Footpath.Value
import Footpath.Element
import Footpath.Language.Predicate
import Footpath.Language.Script
import Footpath.Fault
import Footpath.Language.Token
import Footpath.Language.Predicate.Parser
import Footpath.Language.Statement.Parser
import Footpath.Language.Script.Parser
import Footpath.Graph.Index
import Footpath.Graph.Basic
import Footpath.Graph.Change
import Footpath.Text.Parsed
import Footpath.Json.Basic
import Footpath.Json.Reader
import Footpath.Json.Number
import Footpath.Json.Writer
import Footpath.Document
import Footpath.Document.Load
import Footpath.Filter
import Footpath.Navigation
import Footpath.Environment
import Footpath.Registry
import Footpath.Invocation
import Footpath.Session
import Footpath.Table
import Footpath.Listing
import Footpath.Overview
import Footpath.Completion
import Footpath.Directory
import Footpath.Console.Command
import Footpath.Console.Help
import Footpath.Console
import Footpath.Text.Backspace
import Footpath.Terminal
import Footpath.CommandLine.Options
import Footpath.CommandLine
import Footpath.Main
import Footpath.Proofs.Script.Names
import Footpath.Proofs.Session.Evaluation
import Footpath.Proofs.Invocation.Calls
import Footpath.Proofs.Invocation.CallGraph
import Footpath.Proofs.Invocation.Recursion
import Footpath.Proofs.Invocation.Inlining
import Footpath.Proofs.Graph.Effects
import Footpath.Proofs.Graph.Consistency
import Footpath.Proofs.Graph.Freshness
import Footpath.Proofs.Language.Lexeme
import Footpath.Proofs.Language.Reading
import Footpath.Proofs.Language.Grammar
import Footpath.Proofs.Language.Brackets
import Footpath.Proofs.Language.Expressions
import Footpath.Proofs.Language.Writing
import Footpath.Proofs.Invocation.Bodies
import Footpath.Proofs.Script.Joining
import Footpath.Proofs.Script.OpenBlocks
import Footpath.Proofs.Invocation.Independence
import Footpath.Proofs.Invocation.Splitting
import Footpath.Proofs.Script.Errors
import Footpath.Proofs.Invocation.Lookups
import Footpath.Proofs.Invocation.Storage
import Footpath.Proofs.Session.Storage
import Footpath.Proofs.Document.Records
import Footpath.Proofs.Document.Skipping
import Footpath.Proofs.Document.Numbering
import Footpath.Proofs.Document.Loading
import Footpath.Proofs.Document.Omission
import Footpath.Proofs.Invocation.Correspondence
import Footpath.Proofs.Session.Bodies
import Footpath.Proofs.Session.Joining
import Footpath.Proofs.Session.Origins
import Footpath.Proofs.Script.Layout
import Footpath.Proofs.Session.Rearranging
import Footpath.Proofs.Script.Statements
import Footpath.Proofs.Session.Replay
import Footpath.Proofs.Console.Inputs
import Footpath.Proofs.Console.Refinement
import Footpath.Proofs.Console.Transcript
import Footpath.Proofs.Console.Files
import Footpath.Proofs.Console.Typed
import Footpath.Proofs.Json.Scalars
import Footpath.Proofs.Json.Rereading
import Footpath.Proofs.Document.Relisting
import Footpath.Proofs.Invocation.Termination
import Footpath.Proofs.Invocation.Conjunction
import Footpath.Proofs.Invocation.Cutting
import Footpath.Proofs.Value.Rounding
import Footpath.Proofs.Value.Doubles
import Footpath.Proofs.Value.Order
import Footpath.Proofs.Invocation.Kinds
import Footpath.Proofs.Graph.InPlace
import Footpath.Proofs.Language.Display
import Footpath.Proofs.Language.Tokens
import Footpath.Proofs.Script.Items
import Footpath.Proofs.Script.Places
import Footpath.Proofs.Console.Waiting
import Footpath.Proofs.Console.Candidates
