import SplitDns.Address.Ip
import SplitDns.Address.Resolver
import SplitDns.Address.Socket
import SplitDns.AddressMap.Basic
import SplitDns.AddressMap.Snapshot
import SplitDns.AddressSet.Backend
import SplitDns.AddressSet.Command
import SplitDns.AddressSet.Memory
import SplitDns.AddressSet.ScriptedTool
import SplitDns.Admin.Edit
import SplitDns.Admin.Files
import SplitDns.Admin.Report
import SplitDns.Audit.Database
import SplitDns.Audit.Location
import SplitDns.Audit.Log
import SplitDns.Audit.Writer
import SplitDns.CommandLine.Arguments
import SplitDns.CommandLine.Execute
import SplitDns.CommandLine.Output
import SplitDns.CommandLine.Report
import SplitDns.Config.Basic
import SplitDns.Config.Check
import SplitDns.Config.Read
import SplitDns.Config.Resolver
import SplitDns.Config.Sample
import SplitDns.Dns.Message
import SplitDns.Dns.Name
import SplitDns.Dns.Record
import SplitDns.Dns.Reply
import SplitDns.Dns.Wire.Encode
import SplitDns.Dns.Wire.Read
import SplitDns.Dns.Wire.Section
import SplitDns.Dns.Wire.Write
import SplitDns.Duration
import SplitDns.Engine.Session
import SplitDns.Engine.Setup
import SplitDns.Error
import SplitDns.Exchange.Error
import SplitDns.Exchange.Frame
import SplitDns.Exchange.Network
import SplitDns.Exchange.Script
import SplitDns.Exchange.Transport
import SplitDns.Files.Path
import SplitDns.Files.Replace
import SplitDns.Files.Store
import SplitDns.IoError
import SplitDns.Json.Text
import SplitDns.Listener.Serve
import SplitDns.Main
import SplitDns.Octets
import SplitDns.Pattern.File
import SplitDns.Pattern.Reload
import SplitDns.Pattern.Store
import SplitDns.Persist.Scheduler
import SplitDns.Persist.Script
import SplitDns.Persist.Service
import SplitDns.Persist.Signals
import SplitDns.Persist.Snapshots
import SplitDns.Proofs.Address.Accepted
import SplitDns.Proofs.Address.Grouped
import SplitDns.Proofs.Address.Resolvers
import SplitDns.Proofs.Address.Written
import SplitDns.Proofs.AddressMap.Accumulating
import SplitDns.Proofs.AddressMap.Contending
import SplitDns.Proofs.AddressMap.Growth
import SplitDns.Proofs.AddressMap.Loading
import SplitDns.Proofs.AddressMap.Matching
import SplitDns.Proofs.AddressMap.Printing
import SplitDns.Proofs.AddressMap.Reloading
import SplitDns.Proofs.AddressSet.Asking
import SplitDns.Proofs.AddressSet.Calls
import SplitDns.Proofs.AddressSet.Keeping
import SplitDns.Proofs.AddressSet.Meaning
import SplitDns.Proofs.AddressSet.Members
import SplitDns.Proofs.AddressSet.Memberships
import SplitDns.Proofs.AddressSet.Ordering
import SplitDns.Proofs.AddressSet.Restoring
import SplitDns.Proofs.Admin.Accounting
import SplitDns.Proofs.Admin.Editing
import SplitDns.Proofs.Admin.Failing
import SplitDns.Proofs.Admin.Moving
import SplitDns.Proofs.Admin.Reconciling
import SplitDns.Proofs.Admin.Reporting
import SplitDns.Proofs.Admin.Rerouting
import SplitDns.Proofs.Admin.Revising
import SplitDns.Proofs.Admin.Tallying
import SplitDns.Proofs.Audit.Recording
import SplitDns.Proofs.CommandLine.Classifying
import SplitDns.Proofs.Config.Accepting
import SplitDns.Proofs.Dns.Data
import SplitDns.Proofs.Dns.Decoding
import SplitDns.Proofs.Dns.Envelopes
import SplitDns.Proofs.Dns.Held
import SplitDns.Proofs.Dns.Keys
import SplitDns.Proofs.Dns.Messages
import SplitDns.Proofs.Dns.Names
import SplitDns.Proofs.Dns.Records
import SplitDns.Proofs.Dns.Sections
import SplitDns.Proofs.Dns.Shortening
import SplitDns.Proofs.Dns.Spelling
import SplitDns.Proofs.Exchange.Answers
import SplitDns.Proofs.Exchange.Delivery
import SplitDns.Proofs.Exchange.Forwarding
import SplitDns.Proofs.Exchange.Frames
import SplitDns.Proofs.Files.Publishing
import SplitDns.Proofs.Files.Replacing
import SplitDns.Proofs.Files.Siblings
import SplitDns.Proofs.FirstOccurrences
import SplitDns.Proofs.Json.Quoting
import SplitDns.Proofs.Listener.Connections
import SplitDns.Proofs.Listener.Datagrams
import SplitDns.Proofs.Outcome
import SplitDns.Proofs.Pattern.Casing
import SplitDns.Proofs.Pattern.Parsing
import SplitDns.Proofs.Pattern.Rereading
import SplitDns.Proofs.Pattern.Routing
import SplitDns.Proofs.Persist.Archive
import SplitDns.Proofs.Persist.Attempts
import SplitDns.Proofs.Persist.Bursts
import SplitDns.Proofs.Persist.Clock
import SplitDns.Proofs.Persist.Delay
import SplitDns.Proofs.Persist.History
import SplitDns.Proofs.Persist.Machine
import SplitDns.Proofs.Persist.Saving
import SplitDns.Proofs.Persist.Shutdown
import SplitDns.Proofs.Persist.Snapshots
import SplitDns.Proofs.Persist.Timeline
import SplitDns.Proofs.Query.Attribution
import SplitDns.Proofs.Query.Consulting
import SplitDns.Proofs.Query.Events
import SplitDns.Proofs.Query.Failures
import SplitDns.Proofs.Query.Interleaving
import SplitDns.Proofs.Query.Learning
import SplitDns.Proofs.Query.Observing
import SplitDns.Proofs.Query.Offering
import SplitDns.Proofs.Query.Relaying
import SplitDns.Proofs.Query.Replies
import SplitDns.Proofs.Query.Sharing
import SplitDns.Proofs.Query.Tolerance
import SplitDns.Proofs.Text.ByteOrder
import SplitDns.Proofs.Text.Cutting
import SplitDns.Proofs.Text.Digits
import SplitDns.Proofs.Text.Lines
import SplitDns.Proofs.Text.LowerCase
import SplitDns.Proofs.Text.Searching
import SplitDns.Proofs.Text.Trimming
import SplitDns.Proofs.Turns
import SplitDns.Query.Effect
import SplitDns.Query.Observe
import SplitDns.Query.Resolve
import SplitDns.SortedMap
import SplitDns.Text.Blank
import SplitDns.Text.CaseTable
import SplitDns.Text.CodeRanges
import SplitDns.Text.DisplayTable
import SplitDns.Text.Lines
import SplitDns.Text.LowerCase
import SplitDns.Text.Number
import SplitDns.Text.Percent
import SplitDns.Text.Quoted
import SplitDns.Text.Search
import SplitDns.Text.Utf8
import SplitDns.Toml.Blank
import SplitDns.Toml.Document
import SplitDns.Toml.Scalar
import SplitDns.Toml.Text
import SplitDns.Toml.Value
