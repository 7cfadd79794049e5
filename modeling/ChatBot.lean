import ChatBot.Argument.Emoji
import ChatBot.Argument.Flag
import ChatBot.Argument.Index
import ChatBot.Argument.Mention
import ChatBot.Argument.Schema
import ChatBot.Argument.TimeRange
import ChatBot.Argument.Validation
import ChatBot.Argument.Value
import ChatBot.Calendar
import ChatBot.Command.Basic
import ChatBot.Command.Info
import ChatBot.Command.Program
import ChatBot.Command.Registry
import ChatBot.CommandLine
import ChatBot.Config
import ChatBot.Decimal.Binary64
import ChatBot.Decimal.Numeral
import ChatBot.Decimal.Shortest
import ChatBot.Demo.Commands
import ChatBot.Demo.People
import ChatBot.Demo.Session
import ChatBot.Demo.Terminal
import ChatBot.Dict
import ChatBot.Digest.Sha256
import ChatBot.Error
import ChatBot.Gate
import ChatBot.Invocation
import ChatBot.Json.Basic
import ChatBot.Json.Fields
import ChatBot.Json.Forms
import ChatBot.Json.Reader
import ChatBot.Json.Token
import ChatBot.Main
import ChatBot.Metrics
import ChatBot.Perspective
import ChatBot.Pipeline.Run
import ChatBot.Pipeline.State
import ChatBot.Pipeline.Steps
import ChatBot.Pipeline.Traffic
import ChatBot.Proofs.Agreement
import ChatBot.Proofs.Argument.Flags
import ChatBot.Proofs.Argument.Joining
import ChatBot.Proofs.Argument.PeriodOrder
import ChatBot.Proofs.Argument.PeriodWords
import ChatBot.Proofs.Argument.Periods
import ChatBot.Proofs.Argument.Places
import ChatBot.Proofs.Argument.Presence
import ChatBot.Proofs.Argument.Sharing
import ChatBot.Proofs.Argument.Standard
import ChatBot.Proofs.Argument.Stripping
import ChatBot.Proofs.Calendar
import ChatBot.Proofs.Demo.Commands
import ChatBot.Proofs.Demo.Numbering
import ChatBot.Proofs.Demo.Sessions
import ChatBot.Proofs.Demo.Toggles
import ChatBot.Proofs.Demo.Undo
import ChatBot.Proofs.Detail.Answers
import ChatBot.Proofs.Detail.Commands
import ChatBot.Proofs.Detail.Handlers
import ChatBot.Proofs.Detail.Runs
import ChatBot.Proofs.Detail.States
import ChatBot.Proofs.Dict
import ChatBot.Proofs.Gate.History
import ChatBot.Proofs.Invocation
import ChatBot.Proofs.Pipeline.Calm
import ChatBot.Proofs.Pipeline.Conservation
import ChatBot.Proofs.Pipeline.Delegation
import ChatBot.Proofs.Pipeline.Dispatch
import ChatBot.Proofs.Pipeline.Effects
import ChatBot.Proofs.Pipeline.Frame
import ChatBot.Proofs.Pipeline.HookRuns
import ChatBot.Proofs.Pipeline.Hosting
import ChatBot.Proofs.Pipeline.InTurn
import ChatBot.Proofs.Pipeline.Inheritance
import ChatBot.Proofs.Pipeline.Ledger
import ChatBot.Proofs.Pipeline.Loading
import ChatBot.Proofs.Pipeline.Marker
import ChatBot.Proofs.Pipeline.Reactions
import ChatBot.Proofs.Pipeline.Reports
import ChatBot.Proofs.Pipeline.Requests
import ChatBot.Proofs.Pipeline.Syncs
import ChatBot.Proofs.Pipeline.Tended
import ChatBot.Proofs.Pipeline.Variations
import ChatBot.Proofs.Registry.Archived
import ChatBot.Proofs.Registry.Atomic
import ChatBot.Proofs.Registry.History
import ChatBot.Proofs.Registry.Ids
import ChatBot.Proofs.Registry.Listing
import ChatBot.Proofs.Registry.LookUp
import ChatBot.Proofs.Registry.Names
import ChatBot.Proofs.Registry.Reachable
import ChatBot.Proofs.Registry.Spelling
import ChatBot.Proofs.Registry.Suggestion
import ChatBot.Proofs.Resolver.BestEffort
import ChatBot.Proofs.Resolver.Credentials
import ChatBot.Proofs.Resolver.Nickname
import ChatBot.Proofs.Resolver.Precedence
import ChatBot.Proofs.Resolver.Redirect
import ChatBot.Proofs.Resolver.Reference
import ChatBot.Proofs.Resolver.SecondPerson
import ChatBot.Proofs.Resolver.Shown
import ChatBot.Proofs.Resolver.Target
import ChatBot.Proofs.Steps
import ChatBot.Proofs.Text.Bytes
import ChatBot.Proofs.Text.Case
import ChatBot.Proofs.Text.Cut
import ChatBot.Proofs.Text.EditDistance
import ChatBot.Proofs.Text.Pattern
import ChatBot.Proofs.Text.Split
import ChatBot.Proofs.Text.Tokens
import ChatBot.Proofs.Text.Words
import ChatBot.Resolver
import ChatBot.Script
import ChatBot.Service.GateRecords
import ChatBot.Service.Identities
import ChatBot.Service.Message
import ChatBot.Service.Monitor
import ChatBot.Service.Output
import ChatBot.Service.Stores
import ChatBot.Settings.Basic
import ChatBot.Settings.Environment
import ChatBot.Settings.Load
import ChatBot.Text.AlphabeticTable
import ChatBot.Text.Ascii
import ChatBot.Text.Blank
import ChatBot.Text.CaseMap
import ChatBot.Text.CaseTable
import ChatBot.Text.CharClass
import ChatBot.Text.EditDistance
import ChatBot.Text.Parser
import ChatBot.Text.Pattern
import ChatBot.Text.Split
import ChatBot.Text.WordTable
import ChatBot.Token
import ChatBot.Toml.Document
import ChatBot.Toml.Reader
import ChatBot.Toml.Writer
