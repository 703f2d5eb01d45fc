import PklHost.Assoc
import PklHost.Bytes
import PklHost.Cli.Exit
import PklHost.Cli.Invocation
import PklHost.Cli.Options
import PklHost.Cli.Print
import PklHost.Cli.Run
import PklHost.Cli.Table
import PklHost.Command
import PklHost.Dict
import PklHost.Double.Basic
import PklHost.Double.Digits
import PklHost.Double.Rounding
import PklHost.Double.Text
import PklHost.Evaluator.Error
import PklHost.Evaluator.Ledger
import PklHost.Evaluator.Options
import PklHost.Evaluator.Pending
import PklHost.Evaluator.Query
import PklHost.Evaluator.Reader
import PklHost.Evaluator.RequestIds
import PklHost.Evaluator.Source
import PklHost.Host.Basic
import PklHost.Host.Dialogue
import PklHost.Host.Exclusive
import PklHost.Host.Job
import PklHost.Host.Schedule
import PklHost.Hub.Create
import PklHost.Hub.Delivery
import PklHost.Hub.Errands
import PklHost.Hub.Evaluate
import PklHost.Hub.Log
import PklHost.Hub.Routing
import PklHost.Hub.Shutdown
import PklHost.Hub.State
import PklHost.Hub.Step
import PklHost.IoError
import PklHost.Json
import PklHost.Main
import PklHost.Message.Dependency
import PklHost.Message.Error
import PklHost.Message.Fields
import PklHost.Message.Incoming
import PklHost.Message.Kind
import PklHost.Message.Outgoing
import PklHost.Message.Stream
import PklHost.MessagePack.Extent
import PklHost.MessagePack.Item
import PklHost.MessagePack.Marker
import PklHost.MessagePack.Notation
import PklHost.MessagePack.Reader
import PklHost.MessagePack.Writer
import PklHost.Project.Basic
import PklHost.Project.Value
import PklHost.Proofs.Cli.AllOrNothing
import PklHost.Proofs.Cli.Faults
import PklHost.Proofs.Cli.Printing
import PklHost.Proofs.Cli.Renderings
import PklHost.Proofs.Command
import PklHost.Proofs.Double.Intervals
import PklHost.Proofs.Double.Reading
import PklHost.Proofs.Double.Shortest
import PklHost.Proofs.Evaluator.Files
import PklHost.Proofs.Evaluator.Ledger
import PklHost.Proofs.Evaluator.Overlays
import PklHost.Proofs.Evaluator.Pending
import PklHost.Proofs.Evaluator.Readers
import PklHost.Proofs.Evaluator.RequestIds
import PklHost.Proofs.Except
import PklHost.Proofs.Host.Awakening
import PklHost.Proofs.Host.Dialogues
import PklHost.Proofs.Host.Fates
import PklHost.Proofs.Host.Happenings
import PklHost.Proofs.Host.Loaders
import PklHost.Proofs.Host.Settling
import PklHost.Proofs.Host.Solo
import PklHost.Proofs.Hub.Advertising
import PklHost.Proofs.Hub.Callbacks
import PklHost.Proofs.Hub.Calls
import PklHost.Proofs.Hub.Closing
import PklHost.Proofs.Hub.Creating
import PklHost.Proofs.Hub.Desk
import PklHost.Proofs.Hub.DeskSteps
import PklHost.Proofs.Hub.Dismissal
import PklHost.Proofs.Hub.Doors
import PklHost.Proofs.Hub.Drafting
import PklHost.Proofs.Hub.Effects
import PklHost.Proofs.Hub.Errands
import PklHost.Proofs.Hub.Evaluating
import PklHost.Proofs.Hub.Farewells
import PklHost.Proofs.Hub.Frames
import PklHost.Proofs.Hub.Holding
import PklHost.Proofs.Hub.Intake
import PklHost.Proofs.Hub.Isolation
import PklHost.Proofs.Hub.Losing
import PklHost.Proofs.Hub.Mail
import PklHost.Proofs.Hub.Manager
import PklHost.Proofs.Hub.Matching
import PklHost.Proofs.Hub.Owing
import PklHost.Proofs.Hub.Partings
import PklHost.Proofs.Hub.Performers
import PklHost.Proofs.Hub.Quiet
import PklHost.Proofs.Hub.Ranks
import PklHost.Proofs.Hub.Replies
import PklHost.Proofs.Hub.Results
import PklHost.Proofs.Hub.Routes
import PklHost.Proofs.Hub.Runs
import PklHost.Proofs.Hub.Serial
import PklHost.Proofs.Hub.Stages
import PklHost.Proofs.Hub.Steady
import PklHost.Proofs.Hub.Teardown
import PklHost.Proofs.Hub.Turns
import PklHost.Proofs.Hub.Writing
import PklHost.Proofs.Message.Agreement
import PklHost.Proofs.Message.Arithmetic
import PklHost.Proofs.Message.Chunks
import PklHost.Proofs.Message.Faults
import PklHost.Proofs.Message.Fields
import PklHost.Proofs.Message.Limit
import PklHost.Proofs.Message.Lockstep
import PklHost.Proofs.Message.Normal
import PklHost.Proofs.Message.Records
import PklHost.Proofs.Message.Respelling
import PklHost.Proofs.Message.RoundTrip
import PklHost.Proofs.Message.Shape
import PklHost.Proofs.MessagePack.Counters
import PklHost.Proofs.MessagePack.Delimiting
import PklHost.Proofs.MessagePack.Finding
import PklHost.Proofs.MessagePack.Growth
import PklHost.Proofs.MessagePack.Limits
import PklHost.Proofs.MessagePack.Owing
import PklHost.Proofs.MessagePack.Reading
import PklHost.Proofs.MessagePack.Spelling
import PklHost.Proofs.MessagePack.Table
import PklHost.Proofs.MessagePack.Walking
import PklHost.Proofs.MessagePack.Writing
import PklHost.Proofs.Parts
import PklHost.Proofs.Project.Fields
import PklHost.Proofs.Project.Reading
import PklHost.Proofs.Project.Wire
import PklHost.Proofs.Text.Pattern
import PklHost.Proofs.Text.Runs
import PklHost.Proofs.Text.Utf8
import PklHost.Proofs.Value.Acceptance
import PklHost.Proofs.Value.Axes
import PklHost.Proofs.Value.Canonical
import PklHost.Proofs.Value.Clashes
import PklHost.Proofs.Value.Decoded
import PklHost.Proofs.Value.Delimiting
import PklHost.Proofs.Value.Equality
import PklHost.Proofs.Value.Grammar
import PklHost.Proofs.Value.History
import PklHost.Proofs.Value.Insertion
import PklHost.Proofs.Value.MemberNames
import PklHost.Proofs.Value.PartialEquivalence
import PklHost.Proofs.Value.Rendering
import PklHost.Proofs.Value.RoundTrip
import PklHost.Proofs.Version
import PklHost.Proofs.Word
import PklHost.Text.Blank
import PklHost.Text.CodePoint
import PklHost.Text.Columns
import PklHost.Text.Composition
import PklHost.Text.Digit
import PklHost.Text.Direction
import PklHost.Text.Emoji
import PklHost.Text.Joining
import PklHost.Text.Mark
import PklHost.Text.Printable
import PklHost.Text.Quoted
import PklHost.Text.Split
import PklHost.Text.Utf8
import PklHost.Text.Width
import PklHost.Transport
import PklHost.Url.Basic
import PklHost.Url.Domain
import PklHost.Url.DomainMap
import PklHost.Url.FilePath
import PklHost.Url.Host
import PklHost.Url.Parse
import PklHost.Url.Path
import PklHost.Url.Percent
import PklHost.Url.Punycode
import PklHost.Value.Basic
import PklHost.Value.Decode
import PklHost.Value.DecodeError
import PklHost.Value.Encode
import PklHost.Value.Quantity
import PklHost.Value.Render
import PklHost.Value.Tag
import PklHost.Version
