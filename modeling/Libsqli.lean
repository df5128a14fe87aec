import Libsqli.Base100
import Libsqli.Bind.Accepted
import Libsqli.Bind.Calls
import Libsqli.Bind.Epoch
import Libsqli.Bind.EpochBinds
import Libsqli.Bind.Estimate
import Libsqli.Bind.Faithful
import Libsqli.Bind.Instants
import Libsqli.Bind.Lob
import Libsqli.Bind.Message
import Libsqli.Bind.Param
import Libsqli.Bind.Preserved
import Libsqli.Bind.ReadBack
import Libsqli.Bind.Reading
import Libsqli.Bind.Streaming
import Libsqli.Callable.Columns
import Libsqli.Cancel.Execution
import Libsqli.Cancel.Outcomes
import Libsqli.Data.Base64
import Libsqli.Data.Block
import Libsqli.Data.Blocks
import Libsqli.Data.Bytes
import Libsqli.Data.Ctype
import Libsqli.Data.Digits
import Libsqli.Data.Filling
import Libsqli.Data.Lines
import Libsqli.Data.Memory
import Libsqli.Data.Multiword
import Libsqli.Data.Numeral
import Libsqli.Data.Objects
import Libsqli.Data.Owners
import Libsqli.Data.Percent
import Libsqli.Data.Program
import Libsqli.Data.Quoting
import Libsqli.Data.Radix
import Libsqli.Data.Scan
import Libsqli.Data.Search
import Libsqli.Data.Span
import Libsqli.Data.Splitting
import Libsqli.Data.Stream
import Libsqli.Data.Transition
import Libsqli.Decimal.Canonical
import Libsqli.Decimal.Codec
import Libsqli.Decimal.Coefficient
import Libsqli.Decimal.Compare
import Libsqli.Decimal.Complements
import Libsqli.Decimal.Decode
import Libsqli.Decimal.Encode
import Libsqli.Decimal.ExactRescale
import Libsqli.Decimal.Formatted
import Libsqli.Decimal.Integral
import Libsqli.Decimal.Literal
import Libsqli.Decimal.Magnitude
import Libsqli.Decimal.Object
import Libsqli.Decimal.Objects
import Libsqli.Decimal.Parsing
import Libsqli.Decimal.Payload
import Libsqli.Decimal.Representable
import Libsqli.Decimal.Rescale
import Libsqli.Decimal.RoundTrip
import Libsqli.Decimal.Storage
import Libsqli.Decimal.Text
import Libsqli.Decimal.Value
import Libsqli.Descriptor.References
import Libsqli.Descriptor.Shared
import Libsqli.Dispatch.Buffered
import Libsqli.Dispatch.Drained
import Libsqli.Dispatch.Execute
import Libsqli.Dispatch.Loop
import Libsqli.Dispatch.Messages
import Libsqli.Dispatch.Peeks
import Libsqli.Dispatch.Refinement
import Libsqli.Errmsg.Lookup
import Libsqli.Formatting
import Libsqli.Handshake.Connect
import Libsqli.Handshake.Conreq
import Libsqli.Handshake.ConreqSound
import Libsqli.Handshake.Exchange
import Libsqli.Handshake.Object
import Libsqli.Handshake.Preamble
import Libsqli.Handshake.PreambleSound
import Libsqli.Handshake.Reconnect
import Libsqli.Handshake.Settling
import Libsqli.Lifecycle.Cancellation
import Libsqli.Lifecycle.Conn
import Libsqli.Lifecycle.Exclusion
import Libsqli.Lifecycle.Isolation
import Libsqli.Lifecycle.Operation
import Libsqli.Lifecycle.Pins
import Libsqli.Lifecycle.PoolSteps
import Libsqli.Lifecycle.Pooling
import Libsqli.Lifecycle.System
import Libsqli.Prepare.Frame
import Libsqli.Prepare.Placeholders
import Libsqli.Receive.Batches
import Libsqli.Receive.Describing
import Libsqli.Receive.Descriptor
import Libsqli.Receive.Dispatch
import Libsqli.Receive.Execute
import Libsqli.Receive.Message
import Libsqli.Receive.Octets
import Libsqli.Receive.Replaced
import Libsqli.Receive.Reports
import Libsqli.Receive.Retained
import Libsqli.Receive.Streams
import Libsqli.Receive.TupleStorage
import Libsqli.Receive.TuplesKept
import Libsqli.Receive.Verdict
import Libsqli.Requests.Boundary
import Libsqli.Requests.Calls
import Libsqli.Requests.Message
import Libsqli.Requests.Unfinished
import Libsqli.Result.Answers
import Libsqli.Result.Buffered
import Libsqli.Result.Chunks
import Libsqli.Result.Closed
import Libsqli.Result.DecimalGetters
import Libsqli.Result.DecimalText
import Libsqli.Result.EpochTexts
import Libsqli.Result.Frame
import Libsqli.Result.Getters
import Libsqli.Result.Held
import Libsqli.Result.Int8Codecs
import Libsqli.Result.Integers
import Libsqli.Result.Layout
import Libsqli.Result.LegacyDecimal
import Libsqli.Result.Navigation
import Libsqli.Result.Reading
import Libsqli.Result.Relative
import Libsqli.Result.RowInside
import Libsqli.Result.Scroll
import Libsqli.Result.Scrolled
import Libsqli.Result.Shown
import Libsqli.Result.Sizes
import Libsqli.Result.State
import Libsqli.Result.Sticky
import Libsqli.Result.Strings
import Libsqli.Result.StringsAgree
import Libsqli.Result.Timestamps
import Libsqli.Result.TupleReads
import Libsqli.Retry.ReadOnly
import Libsqli.Retry.Wrappers
import Libsqli.Sblob.BlobFetch
import Libsqli.Sblob.Confirmed
import Libsqli.Sblob.LobReaders
import Libsqli.Sblob.ReaderCalls
import Libsqli.Sblob.ReadersFaithful
import Libsqli.Sblob.Routine
import Libsqli.Sblob.Trailers
import Libsqli.Sblob.Writes
import Libsqli.Session.Batch
import Libsqli.Session.BatchTruth
import Libsqli.Session.Client
import Libsqli.Session.Materialized
import Libsqli.Session.Query
import Libsqli.Session.Reexecution
import Libsqli.Session.Select
import Libsqli.Session.ServerErrors
import Libsqli.Session.Statement
import Libsqli.Session.Stream
import Libsqli.Session.Streamed
import Libsqli.Session.Twins
import Libsqli.Sqlhosts.Entries
import Libsqli.Sqlicon.Csv
import Libsqli.Sqlicon.Import
import Libsqli.Sqlicon.Scripts
import Libsqli.Sqlicon.Text
import Libsqli.Status
import Libsqli.Temporal.Calendar
import Libsqli.Temporal.CivilDays
import Libsqli.Temporal.Codec
import Libsqli.Temporal.Date
import Libsqli.Temporal.DateCodec
import Libsqli.Temporal.DatetimeWire
import Libsqli.Temporal.Formatted
import Libsqli.Temporal.Grammar
import Libsqli.Temporal.Groups
import Libsqli.Temporal.IntervalWire
import Libsqli.Temporal.Objects
import Libsqli.Temporal.Packable
import Libsqli.Temporal.ParseGrammar
import Libsqli.Temporal.Parsed
import Libsqli.Temporal.Parsing
import Libsqli.Temporal.RoundTrip
import Libsqli.Temporal.Text
import Libsqli.Temporal.TextRoundTrip
import Libsqli.Temporal.Timestamp
import Libsqli.Temporal.Value
import Libsqli.Temporal.WireForm
import Libsqli.Transaction.Local
import Libsqli.Uri.Compose
import Libsqli.Uri.Connect
import Libsqli.Uri.Decode
import Libsqli.Uri.Query
import Libsqli.Uri.Unaltered
import Libsqli.Wire.Charset
import Libsqli.Wire.Send
