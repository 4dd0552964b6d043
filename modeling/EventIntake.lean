import EventIntake.Access.Authenticator
import EventIntake.Access.Context
import EventIntake.Access.Credentials
import EventIntake.Access.PublicKey
import EventIntake.Access.Settings
import EventIntake.Access.ThrottleState
import EventIntake.Analysis.Language
import EventIntake.Analysis.Profile
import EventIntake.Analysis.StopWords
import EventIntake.CommandLine.Command
import EventIntake.CommandLine.Options
import EventIntake.CommandLine.Report
import EventIntake.CommandLine.Run
import EventIntake.Event.Basic
import EventIntake.Event.Reader
import EventIntake.Event.SearchText
import EventIntake.Instant
import EventIntake.Json.Draft
import EventIntake.Json.Failure
import EventIntake.Json.Numeral
import EventIntake.Json.Printer
import EventIntake.Json.Token
import EventIntake.Json.Value
import EventIntake.Main
import EventIntake.Maintenance
import EventIntake.Metric
import EventIntake.Proofs.Access.Authentication
import EventIntake.Proofs.Access.Headers
import EventIntake.Proofs.Access.Metrics
import EventIntake.Proofs.Access.PublicKey
import EventIntake.Proofs.Access.QueryAndHeader
import EventIntake.Proofs.Access.Remembering
import EventIntake.Proofs.Access.Session
import EventIntake.Proofs.Access.Spellings
import EventIntake.Proofs.Access.ThrottleGrammar
import EventIntake.Proofs.Access.ThrottleState
import EventIntake.Proofs.Access.Transparency
import EventIntake.Proofs.Access.Verdicts
import EventIntake.Proofs.Analysis.JoinedTexts
import EventIntake.Proofs.Analysis.Stream
import EventIntake.Proofs.Event.Credentials
import EventIntake.Proofs.Event.Cutting
import EventIntake.Proofs.Event.Frames
import EventIntake.Proofs.Event.Parts
import EventIntake.Proofs.Event.Query
import EventIntake.Proofs.Event.Sorted
import EventIntake.Proofs.Lists
import EventIntake.Proofs.Maintenance.Accounting
import EventIntake.Proofs.Maintenance.Append
import EventIntake.Proofs.Maintenance.Changes
import EventIntake.Proofs.Maintenance.Compaction
import EventIntake.Proofs.Maintenance.FirstLexemes
import EventIntake.Proofs.Maintenance.Freshness
import EventIntake.Proofs.Maintenance.Growth
import EventIntake.Proofs.Maintenance.Limits
import EventIntake.Proofs.Maintenance.Measurements
import EventIntake.Proofs.Maintenance.Ranked
import EventIntake.Proofs.Maintenance.Recency
import EventIntake.Proofs.Maintenance.TextRecency
import EventIntake.Proofs.SearchVector.Built
import EventIntake.Proofs.SearchVector.ByteSize
import EventIntake.Proofs.SearchVector.Clamped
import EventIntake.Proofs.SearchVector.Compact
import EventIntake.Proofs.SearchVector.Concat
import EventIntake.Proofs.SearchVector.ConcatHistory
import EventIntake.Proofs.SearchVector.Entries
import EventIntake.Proofs.SearchVector.Joining
import EventIntake.Proofs.SearchVector.LatestPlace
import EventIntake.Proofs.SearchVector.Layout
import EventIntake.Proofs.SearchVector.LeavingOut
import EventIntake.Proofs.SearchVector.LosslessConcat
import EventIntake.Proofs.SearchVector.Positions
import EventIntake.Proofs.SearchVector.RoundTrip
import EventIntake.Proofs.SearchVector.Settled
import EventIntake.Proofs.SearchVector.WellFormed
import EventIntake.Proofs.Settings.Validity
import EventIntake.Proofs.Simulation
import EventIntake.Proofs.Store.Appends
import EventIntake.Proofs.Store.Authorization
import EventIntake.Proofs.Store.Batches
import EventIntake.Proofs.Store.History
import EventIntake.Proofs.Store.Limits
import EventIntake.Proofs.Store.MissingIssues
import EventIntake.Proofs.Store.NumberedTable
import EventIntake.Proofs.Store.Operations
import EventIntake.Proofs.Store.ReadBack
import EventIntake.Proofs.Store.Rows
import EventIntake.Proofs.Store.Schedules
import EventIntake.Proofs.Store.Soundness
import EventIntake.Proofs.Text.Boundaries
import EventIntake.Proofs.Text.ByteOrder
import EventIntake.Proofs.Text.Form
import EventIntake.Proofs.Text.Trimming
import EventIntake.Proofs.Url.Credentials
import EventIntake.Proofs.Url.Significant
import EventIntake.SearchVector.Basic
import EventIntake.SearchVector.Parser
import EventIntake.SearchVector.Printer
import EventIntake.Settings.Basic
import EventIntake.Settings.Reader
import EventIntake.Simulation
import EventIntake.Stemming.Arabic
import EventIntake.Stemming.Dutch
import EventIntake.Stemming.Ending
import EventIntake.Stemming.English
import EventIntake.Stemming.Finnish
import EventIntake.Stemming.French
import EventIntake.Stemming.German
import EventIntake.Stemming.Greek
import EventIntake.Stemming.Hungarian
import EventIntake.Stemming.Italian
import EventIntake.Stemming.Portuguese
import EventIntake.Stemming.Romanian
import EventIntake.Stemming.Russian
import EventIntake.Stemming.Scandinavian
import EventIntake.Stemming.Spanish
import EventIntake.Stemming.Tamil
import EventIntake.Stemming.Turkish
import EventIntake.Store.Append
import EventIntake.Store.Basic
import EventIntake.Store.Seed
import EventIntake.Store.Snapshot
import EventIntake.Text.Alphanumeric
import EventIntake.Text.Blank
import EventIntake.Text.CharSet
import EventIntake.Text.CodeTable
import EventIntake.Text.Composed
import EventIntake.Text.Decomposition
import EventIntake.Text.Digit
import EventIntake.Text.Form
import EventIntake.Text.Lowercase
import EventIntake.Text.Quoted
import EventIntake.Text.Unprintable
import EventIntake.Text.Utf8
import EventIntake.Url.Address
import EventIntake.Url.Basic
import EventIntake.Url.DomainClasses
import EventIntake.Url.DomainMapping
import EventIntake.Url.DomainName
import EventIntake.Url.Host
import EventIntake.Url.Path
import EventIntake.Url.Percent
import EventIntake.Url.Punycode
import EventIntake.Yaml.Meaning
import EventIntake.Yaml.Node
import EventIntake.Yaml.Place
import EventIntake.Yaml.Scalar
import EventIntake.Yaml.Token
