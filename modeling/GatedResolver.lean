import GatedResolver.Answer
import GatedResolver.Binary64.Basic
import GatedResolver.Binary64.Shortest
import GatedResolver.Cache
import GatedResolver.CacheWrite
import GatedResolver.CommandLine.Arguments
import GatedResolver.CommandLine.Startup
import GatedResolver.Deployment.Components
import GatedResolver.Deployment.Listeners
import GatedResolver.Deployment.Wiring
import GatedResolver.Deployment.World
import GatedResolver.Digest.Hmac
import GatedResolver.Digest.Sha256
import GatedResolver.Failure
import GatedResolver.FileSystem
import GatedResolver.Http.Form
import GatedResolver.Http.Message
import GatedResolver.Http.NameQuery
import GatedResolver.Http.Notice
import GatedResolver.Http.Percent
import GatedResolver.Http.Reason
import GatedResolver.Http.Segment
import GatedResolver.Http.Target
import GatedResolver.Http.Wire
import GatedResolver.Json.Decode
import GatedResolver.Json.Document
import GatedResolver.Json.Fault
import GatedResolver.Json.FloatText
import GatedResolver.Json.Numeral
import GatedResolver.Json.Printer
import GatedResolver.Json.Reader
import GatedResolver.Json.Tree
import GatedResolver.Json.Untyped
import GatedResolver.Json.Value
import GatedResolver.Main
import GatedResolver.Name
import GatedResolver.Policy.Decision
import GatedResolver.Policy.Source
import GatedResolver.Proofs.Binary64.Shortest
import GatedResolver.Proofs.Deployment.Built
import GatedResolver.Proofs.Deployment.Calls
import GatedResolver.Proofs.Deployment.Validated
import GatedResolver.Proofs.Files.Contents
import GatedResolver.Proofs.Files.Creation
import GatedResolver.Proofs.Files.Paths
import GatedResolver.Proofs.Files.Walks
import GatedResolver.Proofs.Http.Form
import GatedResolver.Proofs.Http.Queries
import GatedResolver.Proofs.Http.Segment
import GatedResolver.Proofs.Http.Target
import GatedResolver.Proofs.Interleaving.CacheLaws
import GatedResolver.Proofs.Interleaving.Counters
import GatedResolver.Proofs.Interleaving.Filing
import GatedResolver.Proofs.Interleaving.Ledger
import GatedResolver.Proofs.Interleaving.Receipts
import GatedResolver.Proofs.Interleaving.Run
import GatedResolver.Proofs.Interleaving.SharedCache
import GatedResolver.Proofs.Interleaving.Unpaused
import GatedResolver.Proofs.Json.Beginnings
import GatedResolver.Proofs.Json.Consistency
import GatedResolver.Proofs.Json.Documents
import GatedResolver.Proofs.Json.Enclosures
import GatedResolver.Proofs.Json.Floats
import GatedResolver.Proofs.Json.Forms
import GatedResolver.Proofs.Json.Grammar
import GatedResolver.Proofs.Json.Layouts
import GatedResolver.Proofs.Json.Lines
import GatedResolver.Proofs.Json.Numerals
import GatedResolver.Proofs.Json.Readability
import GatedResolver.Proofs.Json.Reading
import GatedResolver.Proofs.Json.Rearrangement
import GatedResolver.Proofs.Json.Records
import GatedResolver.Proofs.Json.Rereading
import GatedResolver.Proofs.Json.Slots
import GatedResolver.Proofs.Json.Sorting
import GatedResolver.Proofs.Json.Spelling
import GatedResolver.Proofs.Json.Strings
import GatedResolver.Proofs.Json.Untyped
import GatedResolver.Proofs.Json.Values
import GatedResolver.Proofs.Policy.Documents
import GatedResolver.Proofs.Policy.Relay
import GatedResolver.Proofs.Quorum.Majority
import GatedResolver.Proofs.Quorum.Tallies
import GatedResolver.Proofs.Receipt.Archive
import GatedResolver.Proofs.Receipt.Binding
import GatedResolver.Proofs.Receipt.Canonical
import GatedResolver.Proofs.Receipt.Confinement
import GatedResolver.Proofs.Receipt.Documents
import GatedResolver.Proofs.Receipt.Files
import GatedResolver.Proofs.Receipt.Ids
import GatedResolver.Proofs.Receipt.Simulation
import GatedResolver.Proofs.Receipt.Unstored
import GatedResolver.Proofs.Receipt.Verdicts
import GatedResolver.Proofs.Remote.Agreement
import GatedResolver.Proofs.Remote.Calls
import GatedResolver.Proofs.Remote.Documents
import GatedResolver.Proofs.Remote.Limits
import GatedResolver.Proofs.Remote.Pipelines
import GatedResolver.Proofs.Remote.Refinement
import GatedResolver.Proofs.Remote.Sites
import GatedResolver.Proofs.Remote.Unusable
import GatedResolver.Proofs.Remote.WireFormats
import GatedResolver.Proofs.Resolver.Course
import GatedResolver.Proofs.Resolver.Delivered
import GatedResolver.Proofs.Resolver.Itinerary
import GatedResolver.Proofs.Resolver.Outcome
import GatedResolver.Proofs.Resolver.Punctual
import GatedResolver.Proofs.Resolver.Rehearsed
import GatedResolver.Proofs.Resolver.Reliable
import GatedResolver.Proofs.Resolver.Stepwise
import GatedResolver.Proofs.Settings.Clashes
import GatedResolver.Proofs.Settings.Document
import GatedResolver.Proofs.Settings.Environment
import GatedResolver.Proofs.Settings.Layers
import GatedResolver.Proofs.Settings.Members
import GatedResolver.Proofs.Settings.Nodes
import GatedResolver.Proofs.Settings.Overlay
import GatedResolver.Proofs.Settings.Single
import GatedResolver.Proofs.Site.Queries
import GatedResolver.Proofs.Site.Refusals
import GatedResolver.Proofs.Site.Register
import GatedResolver.Proofs.Stream.FrontDoors
import GatedResolver.Proofs.Stream.Words
import GatedResolver.Proofs.Success
import GatedResolver.Proofs.Text.Decoding
import GatedResolver.Proofs.Text.Hex
import GatedResolver.Proofs.Text.Trimming
import GatedResolver.Proofs.Text.Utf8
import GatedResolver.Quorum.Panel
import GatedResolver.Quorum.Reply
import GatedResolver.Quorum.Tally
import GatedResolver.Receipt.Basic
import GatedResolver.Receipt.Id
import GatedResolver.Receipt.Ledger
import GatedResolver.Receipt.Signer
import GatedResolver.Receipt.Signing
import GatedResolver.Remote.Client
import GatedResolver.Remote.Delivery
import GatedResolver.Remote.Exchange
import GatedResolver.Resolution.Basic
import GatedResolver.Resolver.Rehearsal
import GatedResolver.Resolver.Rehearsal.Request
import GatedResolver.Resolver.Run
import GatedResolver.Resolver.Script
import GatedResolver.Resolver.Stage
import GatedResolver.Settings.Address
import GatedResolver.Settings.Basic
import GatedResolver.Settings.Fault
import GatedResolver.Settings.File
import GatedResolver.Settings.Load
import GatedResolver.Settings.Overlay
import GatedResolver.Settings.Validation
import GatedResolver.Site.Basic
import GatedResolver.Site.Cache
import GatedResolver.Site.FrontDoor
import GatedResolver.Site.Policy
import GatedResolver.Site.Quorum
import GatedResolver.Site.Receipts
import GatedResolver.Stream.Envelope
import GatedResolver.Stream.Listener
import GatedResolver.Table
import GatedResolver.Text.Blank
import GatedResolver.Text.Bytes
import GatedResolver.Text.Control
import GatedResolver.Text.Decimal
import GatedResolver.Text.Hex
import GatedResolver.Text.Quoted
import GatedResolver.Text.Quoted.Extending
import GatedResolver.Text.Quoted.Ignorable
import GatedResolver.Text.Quoted.Unprintable
import GatedResolver.Text.Split
import GatedResolver.Text.Utf8
import GatedResolver.Toml.Node
import GatedResolver.Toml.Plain
import GatedResolver.Toml.Reader
import GatedResolver.Toml.Scalar
import GatedResolver.Warning
