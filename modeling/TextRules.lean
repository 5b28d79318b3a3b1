import TextRules.Classification
import TextRules.CommandLine
import TextRules.Config
import TextRules.Files
import TextRules.Gate
import TextRules.Http.Message
import TextRules.Json.Document
import TextRules.Json.Numeral
import TextRules.Json.Record
import TextRules.Json.Token
import TextRules.Log
import TextRules.Main
import TextRules.Net.Address
import TextRules.Number.Basic
import TextRules.Number.Decimal
import TextRules.Proofs.Accounting
import TextRules.Proofs.AdminGate
import TextRules.Proofs.Administration
import TextRules.Proofs.Arrangement
import TextRules.Proofs.Bearer
import TextRules.Proofs.Bodies
import TextRules.Proofs.Call
import TextRules.Proofs.Checking
import TextRules.Proofs.Commutation
import TextRules.Proofs.Comparison
import TextRules.Proofs.Compiled
import TextRules.Proofs.Connections
import TextRules.Proofs.CountingRules
import TextRules.Proofs.Decimals
import TextRules.Proofs.Decoding
import TextRules.Proofs.Diagnosis
import TextRules.Proofs.Distinct
import TextRules.Proofs.Documents
import TextRules.Proofs.Encoding
import TextRules.Proofs.Ends
import TextRules.Proofs.Extraction
import TextRules.Proofs.Extremes
import TextRules.Proofs.FirstCall
import TextRules.Proofs.Frames
import TextRules.Proofs.Frequencies
import TextRules.Proofs.FrontEnds
import TextRules.Proofs.History
import TextRules.Proofs.Isolation
import TextRules.Proofs.Journal
import TextRules.Proofs.Ledger
import TextRules.Proofs.Lifecycle
import TextRules.Proofs.Literal
import TextRules.Proofs.NormalForm
import TextRules.Proofs.Operations
import TextRules.Proofs.Ordering
import TextRules.Proofs.Outcomes
import TextRules.Proofs.Packing
import TextRules.Proofs.Payload
import TextRules.Proofs.Requests
import TextRules.Proofs.Reversal
import TextRules.Proofs.Rounding
import TextRules.Proofs.Run
import TextRules.Proofs.Spelling
import TextRules.Proofs.Splitting
import TextRules.Proofs.Store
import TextRules.Proofs.StrictRule
import TextRules.Proofs.Trichotomy
import TextRules.Proofs.Validated
import TextRules.Proofs.WholeNumbers
import TextRules.Rule.Compiled
import TextRules.Rule.Function
import TextRules.Rule.Parsed
import TextRules.Rule.Value
import TextRules.Server.Basic
import TextRules.Server.Handlers
import TextRules.Server.Router
import TextRules.Server.Sockets
import TextRules.Server.Start
import TextRules.Session.Basic
import TextRules.Session.Table
import TextRules.Store.Basic
import TextRules.Telemetry
import TextRules.Text.Basic
import TextRules.Text.Utf8
import TextRules.Text.Word
import TextRules.Yaml.Block
import TextRules.Yaml.Content
import TextRules.Yaml.Lexeme
import TextRules.Yaml.Node
import TextRules.Yaml.Property
import TextRules.Yaml.Scalar
import TextRules.Yaml.Text
import TextRules.Yaml.Token
