import AutoReply.Builtin
import AutoReply.Chat.Event
import AutoReply.Chat.EventJson
import AutoReply.Chat.Id
import AutoReply.Chat.Message
import AutoReply.Chat.MessageJson
import AutoReply.Chat.Platform
import AutoReply.ClickBoard
import AutoReply.Console.Arguments
import AutoReply.Console.History
import AutoReply.Console.Launch
import AutoReply.Console.Line
import AutoReply.Console.Mentions
import AutoReply.Console.Session
import AutoReply.Control.Admin
import AutoReply.Control.Click
import AutoReply.Control.Live
import AutoReply.Control.Table
import AutoReply.Describe
import AutoReply.Dispatch
import AutoReply.HashMap
import AutoReply.Journal
import AutoReply.Json.Fault
import AutoReply.Json.Reader
import AutoReply.Json.Record
import AutoReply.Json.Tree
import AutoReply.Json.TreeReader
import AutoReply.Json.Value
import AutoReply.Main
import AutoReply.Number.Binary64
import AutoReply.Number.Reading
import AutoReply.Number.Shortest
import AutoReply.Number.Text
import AutoReply.Pattern.Basic
import AutoReply.Pattern.Brackets
import AutoReply.Pattern.CharSet
import AutoReply.Pattern.ClassName
import AutoReply.Pattern.Escape
import AutoReply.Pattern.Flags
import AutoReply.Pattern.Node
import AutoReply.Pattern.Reader
import AutoReply.Pattern.Replacement
import AutoReply.Pattern.Size
import AutoReply.Proofs.Builtin.Commands
import AutoReply.Proofs.Builtin.Introductions
import AutoReply.Proofs.Builtin.Patterns
import AutoReply.Proofs.Builtin.Table
import AutoReply.Proofs.Builtin.Targets
import AutoReply.Proofs.Chat.Documents
import AutoReply.Proofs.Console.Clicks
import AutoReply.Proofs.Console.Guests
import AutoReply.Proofs.Console.History
import AutoReply.Proofs.Console.Lines
import AutoReply.Proofs.Console.Mentions
import AutoReply.Proofs.Console.Operators
import AutoReply.Proofs.Console.StartUp
import AutoReply.Proofs.Console.Strangers
import AutoReply.Proofs.Console.Turns
import AutoReply.Proofs.Console.Visits
import AutoReply.Proofs.Control.Commands
import AutoReply.Proofs.Control.Requests
import AutoReply.Proofs.Control.Table
import AutoReply.Proofs.Dispatch.Disabled
import AutoReply.Proofs.Dispatch.FirstMatch
import AutoReply.Proofs.Dispatch.Luck
import AutoReply.Proofs.Dispatch.States
import AutoReply.Proofs.Dispatch.Throttling
import AutoReply.Proofs.HashMap
import AutoReply.Proofs.Json.Lists
import AutoReply.Proofs.Json.Objects
import AutoReply.Proofs.Json.Reading
import AutoReply.Proofs.Number.Reading
import AutoReply.Proofs.Number.Rounding
import AutoReply.Proofs.Number.Shortest
import AutoReply.Proofs.Pattern.Matching
import AutoReply.Proofs.Pattern.Preference
import AutoReply.Proofs.Pattern.Replacing
import AutoReply.Proofs.Pattern.Threads
import AutoReply.Proofs.Registry.Bulk
import AutoReply.Proofs.Registry.OneByOne
import AutoReply.Proofs.Registry.Restoring
import AutoReply.Proofs.Registry.Settings
import AutoReply.Proofs.Rule.Chance
import AutoReply.Proofs.Rule.Channels
import AutoReply.Proofs.Rule.Check
import AutoReply.Proofs.Rule.Cooldown
import AutoReply.Proofs.Rule.Evaluation
import AutoReply.Proofs.Rule.Grouping
import AutoReply.Proofs.Rule.Meaning
import AutoReply.Proofs.Rule.Phrases
import AutoReply.Proofs.Rule.Roleplay
import AutoReply.Proofs.Rule.Template
import AutoReply.Proofs.Rule.Tuning
import AutoReply.Proofs.Rule.Writing
import AutoReply.Proofs.Service.Clicks
import AutoReply.Proofs.Service.Handling
import AutoReply.Proofs.Service.Restart
import AutoReply.Proofs.Service.Restore
import AutoReply.Proofs.Service.Runs
import AutoReply.Proofs.Service.Saving
import AutoReply.Proofs.Settings.Environment
import AutoReply.Proofs.Settings.Fields
import AutoReply.Proofs.Settings.Layers
import AutoReply.Proofs.Settings.Overlay
import AutoReply.Proofs.Settings.Reading
import AutoReply.Proofs.Settings.Writing
import AutoReply.Proofs.SortedMap
import AutoReply.Proofs.Storage.Files
import AutoReply.Proofs.Storage.Interruption
import AutoReply.Proofs.Storage.Routes
import AutoReply.Proofs.Storage.Saves
import AutoReply.Proofs.Storage.StateFile
import AutoReply.Proofs.Storage.Trees
import AutoReply.Proofs.Text.Case
import AutoReply.Proofs.Text.Encoding
import AutoReply.Proofs.Text.Lines
import AutoReply.Proofs.Text.Lowercase
import AutoReply.Proofs.Text.Trimming
import AutoReply.Proofs.Text.Words
import AutoReply.Proofs.Toml.Document
import AutoReply.Proofs.Toml.Scan
import AutoReply.Registry
import AutoReply.Rule.Action
import AutoReply.Rule.Build
import AutoReply.Rule.Cooldown
import AutoReply.Rule.Luck
import AutoReply.Rule.Phrases
import AutoReply.Rule.Response
import AutoReply.Rule.Template
import AutoReply.Rule.Trigger
import AutoReply.SavedState
import AutoReply.SavedStateJson
import AutoReply.Service
import AutoReply.Settings.Basic
import AutoReply.Settings.Check
import AutoReply.Settings.Environment
import AutoReply.Settings.Extract
import AutoReply.Settings.Fault
import AutoReply.Settings.JsonForm
import AutoReply.Settings.Profile
import AutoReply.Settings.Sources
import AutoReply.Settings.Value
import AutoReply.SortedMap
import AutoReply.Storage.Files
import AutoReply.Storage.Store
import AutoReply.Talk.Question
import AutoReply.Talk.Rating
import AutoReply.Talk.Sha256
import AutoReply.Talk.Temperature
import AutoReply.Text.Blank
import AutoReply.Text.Case
import AutoReply.Text.CaseTable
import AutoReply.Text.Category
import AutoReply.Text.CategoryTable
import AutoReply.Text.Encoding
import AutoReply.Text.Letter
import AutoReply.Text.Lowercase
import AutoReply.Text.LowercaseTable
import AutoReply.Text.Parts
import AutoReply.Text.PropertyTable
import AutoReply.Text.Quoted
import AutoReply.Text.Ranges
import AutoReply.Text.Script
import AutoReply.Text.ScriptTable
import AutoReply.Time.Calendar
import AutoReply.Time.Rfc3339
import AutoReply.Time.Timestamp
import AutoReply.Toml.Document
import AutoReply.Toml.Scalar
import AutoReply.Toml.Scan
import AutoReply.Toml.Table
import AutoReply.Toml.Text
import AutoReply.Trace
