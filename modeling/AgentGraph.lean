import AgentGraph.Chat.Address
import AgentGraph.Chat.Conversation
import AgentGraph.Chat.Message
import AgentGraph.Chat.Settings
import AgentGraph.Chat.Status
import AgentGraph.Cli.Command
import AgentGraph.Cli.Session
import AgentGraph.Cli.Switch
import AgentGraph.Compile
import AgentGraph.Decimal.Layout
import AgentGraph.Decimal.Nearest
import AgentGraph.Decimal.Power
import AgentGraph.Decimal.Shortest
import AgentGraph.Execute
import AgentGraph.Failure
import AgentGraph.Fields
import AgentGraph.Graph.Checked
import AgentGraph.Graph.Declaration
import AgentGraph.Graph.Format
import AgentGraph.Graph.Kind
import AgentGraph.Graph.Node
import AgentGraph.Graph.Order
import AgentGraph.Graph.Problem
import AgentGraph.Host.Direction
import AgentGraph.Host.Joiner
import AgentGraph.Host.Letter
import AgentGraph.Host.Name
import AgentGraph.Host.Number
import AgentGraph.Host.Punycode
import AgentGraph.Json.Basic
import AgentGraph.Json.Document
import AgentGraph.Json.Fault
import AgentGraph.Json.Lexeme
import AgentGraph.Json.Printer
import AgentGraph.Json.Reader
import AgentGraph.Model.Rehearsed
import AgentGraph.Model.Request
import AgentGraph.Prompt.Convention
import AgentGraph.Prompt.Message
import AgentGraph.Prompt.Template
import AgentGraph.Run.Event
import AgentGraph.Run.Executable
import AgentGraph.Run.Log
import AgentGraph.Run.Plan
import AgentGraph.Run.Process
import AgentGraph.Run.Report
import AgentGraph.Run.Runnable
import AgentGraph.Run.Supervisor
import AgentGraph.Scope
import AgentGraph.Text.Ascii
import AgentGraph.Text.Blank
import AgentGraph.Text.Composition
import AgentGraph.Text.DecimalDigit
import AgentGraph.Text.Hidden
import AgentGraph.Text.Mark
import AgentGraph.Text.Quoted
import AgentGraph.Text.Table
import AgentGraph.Tool.Calculator
import AgentGraph.Tool.Clock
import AgentGraph.Tool.Registry
import AgentGraph.Tool.Standard
import AgentGraph.Value.Basic
import AgentGraph.Main
import AgentGraph.Proofs.Checked
import AgentGraph.Proofs.Unfolding
import AgentGraph.Proofs.Acceptance
import AgentGraph.Proofs.Compiled
import AgentGraph.Proofs.Validation
import AgentGraph.Proofs.Schedule
import AgentGraph.Proofs.Possible
import AgentGraph.Proofs.Units
import AgentGraph.Proofs.Interleaving
import AgentGraph.Proofs.Always
import AgentGraph.Proofs.Pool
import AgentGraph.Proofs.Effect
import AgentGraph.Proofs.Cost
import AgentGraph.Proofs.Rearrangement
import AgentGraph.Proofs.Building
import AgentGraph.Proofs.Executed
import AgentGraph.Proofs.Requests
import AgentGraph.Proofs.Defects
import AgentGraph.Proofs.Grammar
import AgentGraph.Proofs.Calculation
import AgentGraph.Proofs.Conversation
import AgentGraph.Proofs.Lexing
import AgentGraph.Proofs.Assembling
import AgentGraph.Proofs.Reading
import AgentGraph.Proofs.Doubles
import AgentGraph.Proofs.Finite
import AgentGraph.Proofs.Kept
import AgentGraph.Proofs.Files
import AgentGraph.Proofs.Changes
import AgentGraph.Proofs.Failing
import AgentGraph.Proofs.Wording
import AgentGraph.Proofs.Writing
import AgentGraph.Proofs.Outputs
import AgentGraph.Proofs.Resolution
import AgentGraph.Proofs.Scanning
import AgentGraph.Proofs.Prefixes
import AgentGraph.Proofs.Plans
import AgentGraph.Proofs.Directives
import AgentGraph.Proofs.Deeds
import AgentGraph.Proofs.Sessions
import AgentGraph.Proofs.Cycles
import AgentGraph.Proofs.Padding
import AgentGraph.Proofs.Templates
import AgentGraph.Proofs.Paths
import AgentGraph.Proofs.Decoding
import AgentGraph.Proofs.Printing
import AgentGraph.Proofs.Alphabet
