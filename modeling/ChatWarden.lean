import ChatWarden.Bot.Basic
import ChatWarden.Bot.Run
import ChatWarden.Channel
import ChatWarden.Chat.Arguments
import ChatWarden.Chat.Call
import ChatWarden.Chat.Fit
import ChatWarden.Chat.Name
import ChatWarden.Chat.Subject
import ChatWarden.Closers
import ChatWarden.Command.Builtin
import ChatWarden.Command.CustomAdmin
import ChatWarden.Command.DataLine
import ChatWarden.Command.Dispatcher
import ChatWarden.Command.Gate
import ChatWarden.Command.Listing
import ChatWarden.Command.OddsQuery
import ChatWarden.Command.Registry
import ChatWarden.Command.Reply
import ChatWarden.Command.TrustAdmin
import ChatWarden.CommandLine
import ChatWarden.Config.EnvFile
import ChatWarden.Config.File
import ChatWarden.Config.Identity
import ChatWarden.Config.Issue
import ChatWarden.Config.Load
import ChatWarden.Config.Number
import ChatWarden.Config.Settings
import ChatWarden.Decimal.Binary64
import ChatWarden.Decimal.Number
import ChatWarden.Decimal.Rounding
import ChatWarden.Decimal.Shortest
import ChatWarden.Http.Response
import ChatWarden.Json.Display
import ChatWarden.Json.Reader
import ChatWarden.Json.Value
import ChatWarden.Json.Writer
import ChatWarden.Launch
import ChatWarden.Log.Line
import ChatWarden.Log.Record
import ChatWarden.Log.Setup
import ChatWarden.Log.Template
import ChatWarden.Log.Tracing
import ChatWarden.Lookup.Card
import ChatWarden.Lookup.Client
import ChatWarden.Lookup.Weather
import ChatWarden.Main
import ChatWarden.NameMap
import ChatWarden.Odds
import ChatWarden.Proofs.Bot.Confinement
import ChatWarden.Proofs.Bot.Contained
import ChatWarden.Proofs.Bot.Guard
import ChatWarden.Proofs.Bot.Hygiene
import ChatWarden.Proofs.Bot.Reorder
import ChatWarden.Proofs.Bot.Replies
import ChatWarden.Proofs.Bot.Revocation
import ChatWarden.Proofs.Bot.RoundTrip
import ChatWarden.Proofs.Bot.Sent
import ChatWarden.Proofs.Bot.Serial
import ChatWarden.Proofs.Bot.Shadow
import ChatWarden.Proofs.Bot.Traffic
import ChatWarden.Proofs.Bot.Truth
import ChatWarden.Proofs.Bot.World
import ChatWarden.Proofs.Chat.Arguments
import ChatWarden.Proofs.Chat.Calls
import ChatWarden.Proofs.Chat.Fit
import ChatWarden.Proofs.Chat.Message
import ChatWarden.Proofs.Command.Admin
import ChatWarden.Proofs.Command.OddsQuery
import ChatWarden.Proofs.Command.Reach
import ChatWarden.Proofs.Lookup.Answered
import ChatWarden.Proofs.Odds.Binomials
import ChatWarden.Proofs.Odds.Exact
import ChatWarden.Proofs.Odds.Hands
import ChatWarden.Proofs.Odds.Laws
import ChatWarden.Proofs.Sandbox.CleanUp
import ChatWarden.Proofs.Sandbox.Course
import ChatWarden.Proofs.Sandbox.Escapes
import ChatWarden.Proofs.Sandbox.Files
import ChatWarden.Proofs.Sandbox.Gates
import ChatWarden.Proofs.Sandbox.Reach
import ChatWarden.Proofs.Store.Access
import ChatWarden.Proofs.Store.Answers
import ChatWarden.Proofs.Store.CommandMap
import ChatWarden.Proofs.Store.Commute
import ChatWarden.Proofs.Store.Content
import ChatWarden.Proofs.Store.Rows
import ChatWarden.Proofs.Store.Shadow
import ChatWarden.Proofs.Store.TrustSet
import ChatWarden.Proofs.Supervision.Doings
import ChatWarden.Proofs.Supervision.Entries
import ChatWarden.Proofs.Supervision.Ledger
import ChatWarden.Proofs.Supervision.Life
import ChatWarden.Proofs.Supervision.Moves
import ChatWarden.Proofs.Supervision.Notices
import ChatWarden.Proofs.Supervision.Prompt
import ChatWarden.Proofs.Supervision.Slots
import ChatWarden.Proofs.Supervision.Supervised
import ChatWarden.Proofs.Supervision.Tells
import ChatWarden.Proofs.Supervision.Turns
import ChatWarden.Proofs.Work.Ends
import ChatWarden.Proofs.Work.Path
import ChatWarden.Proofs.Work.Within
import ChatWarden.Rehearsal.Charset
import ChatWarden.Rehearsal.Clock
import ChatWarden.Rehearsal.CodePage
import ChatWarden.Rehearsal.Disk
import ChatWarden.Rehearsal.Reading
import ChatWarden.Rehearsal.Session
import ChatWarden.Rehearsal.Stage
import ChatWarden.Rehearsal.Trouble
import ChatWarden.Rehearsal.Web
import ChatWarden.Sandbox.Analyzer
import ChatWarden.Sandbox.Container
import ChatWarden.Sandbox.Diagnostic
import ChatWarden.Sandbox.Pipeline
import ChatWarden.Store.CommandTable
import ChatWarden.Store.Database
import ChatWarden.Store.Failure
import ChatWarden.Store.Query
import ChatWarden.Store.Table
import ChatWarden.Store.TrustTable
import ChatWarden.Supervision.Supervisor
import ChatWarden.Supervision.Task
import ChatWarden.Supervision.Turn
import ChatWarden.Text.Blank
import ChatWarden.Text.CaseTable
import ChatWarden.Text.Digits
import ChatWarden.Text.Lines
import ChatWarden.Text.Lower
import ChatWarden.Text.Path
import ChatWarden.Text.Pattern
import ChatWarden.Text.PrintableTable
import ChatWarden.Text.Quoted
import ChatWarden.Text.Split
import ChatWarden.Text.Utf8
import ChatWarden.Url.Address
import ChatWarden.Url.Host
import ChatWarden.Url.Percent
import ChatWarden.Url.Query
import ChatWarden.Url.Reading
import ChatWarden.Work.Basic
import ChatWarden.Work.Failure
import ChatWarden.Work.Fault
import ChatWarden.Work.Request
import ChatWarden.Proofs.Chat.Flattening
import ChatWarden.Proofs.Chat.Shown
import ChatWarden.Proofs.Chat.Grammar
import ChatWarden.Proofs.Store.History
import ChatWarden.Proofs.Store.Identifiers
import ChatWarden.Proofs.Store.Stamps
import ChatWarden.Proofs.Bot.Listing
import ChatWarden.Proofs.Chat.Spelling
import ChatWarden.Proofs.Chat.Words
import ChatWarden.Proofs.Command.TypedName
import ChatWarden.Proofs.Command.DataLine
import ChatWarden.Proofs.Lookup.Place
import ChatWarden.Proofs.Text.Lowering
import ChatWarden.Proofs.Text.Splitting
import ChatWarden.Proofs.Text.Utf8
import ChatWarden.Proofs.Url.Reading
import ChatWarden.Proofs.Url.Percent
import ChatWarden.Proofs.Lookup.Tracking
import ChatWarden.Proofs.Url.Addresses
import ChatWarden.Proofs.Url.Forms
import ChatWarden.Proofs.Lookup.CardLine
import ChatWarden.Proofs.Text.LineEnds
import ChatWarden.Proofs.NameMap
import ChatWarden.Proofs.Config.WrittenFile
import ChatWarden.Proofs.Text.WellFormed
import ChatWarden.Proofs.Config.Loading
import ChatWarden.Proofs.Command.Registry
import ChatWarden.Proofs.Closers.Course
import ChatWarden.Proofs.Closers.Order
import ChatWarden.Proofs.Bot.TakeDown
import ChatWarden.Proofs.Json.Written
import ChatWarden.Proofs.Json.ReadBack
import ChatWarden.Proofs.Log.Lines
