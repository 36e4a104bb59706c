import ChannelHandshake.ChannelName
import ChannelHandshake.Cli.Arguments
import ChannelHandshake.Cli.Invocation
import ChannelHandshake.Cli.Output
import ChannelHandshake.Cli.Run
import ChannelHandshake.Config.Document
import ChannelHandshake.Config.Lint
import ChannelHandshake.Config.Load
import ChannelHandshake.Config.Placeholder
import ChannelHandshake.Config.Schema
import ChannelHandshake.Config.Setup
import ChannelHandshake.Environment
import ChannelHandshake.EnvironmentFile.Assignment
import ChannelHandshake.EnvironmentFile.Line
import ChannelHandshake.Failure
import ChannelHandshake.Files
import ChannelHandshake.Json.Number
import ChannelHandshake.Json.Printer
import ChannelHandshake.Json.Token
import ChannelHandshake.Json.Value
import ChannelHandshake.Main
import ChannelHandshake.Manifest
import ChannelHandshake.Proofs.ChannelName.Grammar
import ChannelHandshake.Proofs.ChannelName.Order
import ChannelHandshake.Proofs.ChannelName.Spelling
import ChannelHandshake.Proofs.Cli.PrintedManifest
import ChannelHandshake.Proofs.Cli.PrintedReport
import ChannelHandshake.Proofs.Config.Absence
import ChannelHandshake.Proofs.Config.Agreement
import ChannelHandshake.Proofs.Config.DeadPolicy
import ChannelHandshake.Proofs.Config.FirstIndex
import ChannelHandshake.Proofs.Config.Handshake
import ChannelHandshake.Proofs.Config.HexPayload
import ChannelHandshake.Proofs.Config.Lint
import ChannelHandshake.Proofs.Config.Locality
import ChannelHandshake.Proofs.Config.Payloads
import ChannelHandshake.Proofs.Config.Placeholder
import ChannelHandshake.Proofs.Config.Setup
import ChannelHandshake.Proofs.Config.Soundness
import ChannelHandshake.Proofs.Json.Grammar
import ChannelHandshake.Proofs.Json.Numbers
import ChannelHandshake.Proofs.Json.Reading
import ChannelHandshake.Proofs.Json.RoundTrip
import ChannelHandshake.Proofs.Json.Strings
import ChannelHandshake.Proofs.Manifest.Accepted
import ChannelHandshake.Proofs.Manifest.Framing
import ChannelHandshake.Proofs.Manifest.Grammar
import ChannelHandshake.Proofs.Manifest.Offence
import ChannelHandshake.Proofs.Manifest.OneReading
import ChannelHandshake.Proofs.Manifest.Permutation
import ChannelHandshake.Proofs.Manifest.RoundTrip
import ChannelHandshake.Proofs.Registry.Accounts
import ChannelHandshake.Proofs.Registry.Advertisement
import ChannelHandshake.Proofs.Registry.Builder
import ChannelHandshake.Proofs.Registry.Change
import ChannelHandshake.Proofs.Registry.Direction
import ChannelHandshake.Proofs.Registry.Duplicates
import ChannelHandshake.Proofs.Registry.Exchange
import ChannelHandshake.Proofs.Registry.Gather
import ChannelHandshake.Proofs.Registry.Gatherer
import ChannelHandshake.Proofs.Registry.Growth
import ChannelHandshake.Proofs.Registry.Index
import ChannelHandshake.Proofs.Registry.Log
import ChannelHandshake.Proofs.Registry.Lookup
import ChannelHandshake.Proofs.Registry.RegistrationOrder
import ChannelHandshake.Proofs.Registry.Reordering
import ChannelHandshake.Proofs.Registry.Replay
import ChannelHandshake.Proofs.Registry.Report
import ChannelHandshake.Proofs.Registry.Snapshot
import ChannelHandshake.Proofs.Registry.Verdict
import ChannelHandshake.Proofs.Text.Pieces
import ChannelHandshake.Proofs.Utf8
import ChannelHandshake.Registry.Advertisement
import ChannelHandshake.Registry.Channel
import ChannelHandshake.Registry.Event
import ChannelHandshake.Registry.Handshake
import ChannelHandshake.Registry.Login
import ChannelHandshake.Registry.Metrics
import ChannelHandshake.Registry.State
import ChannelHandshake.Registry.Table
import ChannelHandshake.Session
import ChannelHandshake.Side
import ChannelHandshake.Text.CodeRange
import ChannelHandshake.Text.Hex
import ChannelHandshake.Text.Invisible
import ChannelHandshake.Text.Letter
import ChannelHandshake.Text.Quoted
import ChannelHandshake.Text.Split
import ChannelHandshake.Text.Utf8
import ChannelHandshake.Toml.DateTime
import ChannelHandshake.Toml.Document
import ChannelHandshake.Toml.Number
import ChannelHandshake.Toml.Statement
import ChannelHandshake.Toml.Text
import ChannelHandshake.VersionTest
import ChannelHandshake.Yaml.Document
import ChannelHandshake.Yaml.Jumps
import ChannelHandshake.Yaml.Node
import ChannelHandshake.Yaml.Property
import ChannelHandshake.Yaml.Scalar
import ChannelHandshake.Yaml.Source
import ChannelHandshake.Yaml.Token
