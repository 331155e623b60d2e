import ContainerOps.Command.Request
import ContainerOps.Command.Word
import ContainerOps.Decoding.Fault
import ContainerOps.Decoding.Record
import ContainerOps.Json.Outline
import ContainerOps.Json.Reader
import ContainerOps.Json.Source
import ContainerOps.Json.Value
import ContainerOps.Json.Writer
import ContainerOps.Number.Binary64
import ContainerOps.Number.Rounded
import ContainerOps.Number.Shortest
import ContainerOps.Progress.Event
import ContainerOps.Progress.Line
import ContainerOps.Progress.Parser
import ContainerOps.Progress.Status
import ContainerOps.Progress.Summary
import ContainerOps.Project.Error
import ContainerOps.Project.Host
import ContainerOps.Project.Listing
import ContainerOps.Project.Operation
import ContainerOps.Project.Result
import ContainerOps.Project.Settings
import ContainerOps.Project.Version
import ContainerOps.Shell.Action
import ContainerOps.Shell.Arithmetic
import ContainerOps.Shell.Builtin
import ContainerOps.Shell.Call
import ContainerOps.Shell.Condition
import ContainerOps.Shell.Cursor
import ContainerOps.Shell.Descriptor
import ContainerOps.Shell.Directory
import ContainerOps.Shell.Expansion
import ContainerOps.Shell.Field
import ContainerOps.Shell.Input
import ContainerOps.Shell.Naming
import ContainerOps.Shell.Octet
import ContainerOps.Shell.Options
import ContainerOps.Shell.PathPattern
import ContainerOps.Shell.Pattern
import ContainerOps.Shell.Printing
import ContainerOps.Shell.Program
import ContainerOps.Shell.Reader
import ContainerOps.Shell.Run
import ContainerOps.Shell.Signal
import ContainerOps.Shell.Start
import ContainerOps.Shell.State
import ContainerOps.Shell.Syntax
import ContainerOps.Shell.Variables
import ContainerOps.Swarm.Config
import ContainerOps.Swarm.Error
import ContainerOps.Swarm.Inventory
import ContainerOps.Swarm.Loading
import ContainerOps.Swarm.Node
import ContainerOps.Table
import ContainerOps.Text.Blank
import ContainerOps.Text.Printable
import ContainerOps.Text.Quoted
import ContainerOps.Text.Utf8
import ContainerOps.World.FileTree
import ContainerOps.Yaml.Cursor
import ContainerOps.Yaml.Outline
import ContainerOps.Yaml.Reader
import ContainerOps.Yaml.Scalar
import ContainerOps.Yaml.Source
import ContainerOps.Yaml.Token
import ContainerOps.Yaml.Token.Lexer
import ContainerOps.Yaml.Token.Property
import ContainerOps.Yaml.Token.Scalar
import ContainerOps.Proofs.Text.Words
import ContainerOps.Proofs.Text.Encoding
import ContainerOps.Proofs.Text.Spacing
import ContainerOps.Proofs.Text.Sequence
import ContainerOps.Proofs.Text.Replacement
import ContainerOps.Proofs.Json.Scalar
import ContainerOps.Proofs.Json.Framing
import ContainerOps.Proofs.Json.Sequence
import ContainerOps.Proofs.Json.Value
import ContainerOps.Proofs.Progress.Grammar
import ContainerOps.Proofs.Progress.Step
import ContainerOps.Proofs.Progress.Pending
import ContainerOps.Proofs.Progress.Blocks
import ContainerOps.Proofs.Progress.LineByLine
import ContainerOps.Proofs.Project.Failure
import ContainerOps.Proofs.Command.Combination
import ContainerOps.Proofs.Project.Accumulation
import ContainerOps.Proofs.Project.Coherence
import ContainerOps.Proofs.Project.Listing
import ContainerOps.Proofs.Progress.WellFormed
import ContainerOps.Proofs.Progress.Canonical
import ContainerOps.Proofs.Progress.Notices
import ContainerOps.Proofs.Progress.Writing
import ContainerOps.Proofs.Progress.Marker
import ContainerOps.Proofs.Progress.DryRun
import ContainerOps.Proofs.Progress.History
import ContainerOps.Proofs.Swarm.Extension
import ContainerOps.Proofs.Swarm.Building
import ContainerOps.Proofs.Swarm.Order
import ContainerOps.Proofs.Swarm.Strictness
import ContainerOps.Proofs.Text.WordList
import ContainerOps.Proofs.Text.Expression
import ContainerOps.Proofs.Progress.Patterns
import ContainerOps.Proofs.Progress.Recognition
import ContainerOps.Proofs.Progress.EmptyLines
import ContainerOps.Proofs.Command.Splitting
import ContainerOps.Proofs.Project.Replay
import ContainerOps.Proofs.Project.VersionReading
import ContainerOps.Proofs.Command.Decoding
import ContainerOps.Proofs.Swarm.Attribute
import ContainerOps.Proofs.Swarm.KeyedNames
import ContainerOps.Proofs.Swarm.Address
import ContainerOps.Proofs.Swarm.LeaderAddress
import ContainerOps.Proofs.Table.Listed
import ContainerOps.Proofs.Project.Labels
import ContainerOps.Proofs.Project.VersionOrder
import ContainerOps.Proofs.Json.Leaves
import ContainerOps.Proofs.Json.Reading
import ContainerOps.Proofs.Json.RoundTrip
import ContainerOps.Proofs.Project.RawContainers
import ContainerOps.Proofs.Project.ContainerMembers
import ContainerOps.Proofs.Shell.Literal
import ContainerOps.Proofs.Shell.Quoting
import ContainerOps.Proofs.Shell.ShownWord
import ContainerOps.Proofs.Shell.CommandLine
import ContainerOps.Proofs.Progress.Layout
import ContainerOps.Proofs.Project.CommonOptions
import ContainerOps.Proofs.Project.Cleanups
import ContainerOps.Proofs.Decoding.Simulation
import ContainerOps.Proofs.Decoding.Entries
import ContainerOps.Proofs.Yaml.Alike
import ContainerOps.Proofs.Swarm.Settings
import ContainerOps.Proofs.Swarm.Configuration
