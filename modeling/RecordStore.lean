import RecordStore.Main
import RecordStore.Span.Json
import RecordStore.Workspace
import RecordStore.Proofs.Layout
import RecordStore.Proofs.Lines
import RecordStore.Proofs.Pipeline.Runs
import RecordStore.Proofs.Pipeline.Calls
import RecordStore.Proofs.Pipeline.Account
import RecordStore.Proofs.Pipeline.Checked
import RecordStore.Proofs.Pipeline.Drain
import RecordStore.Proofs.Pipeline.InOrder
import RecordStore.Proofs.Disk
import RecordStore.Proofs.Rows
import RecordStore.Proofs.Connection
import RecordStore.Proofs.Index.Log
import RecordStore.Proofs.Index.Table
import RecordStore.Proofs.Backend
import RecordStore.Proofs.Agreement
import RecordStore.Proofs.Pipeline.Entries
import RecordStore.Proofs.Places
import RecordStore.Proofs.Logs
import RecordStore.Proofs.Database
import RecordStore.Proofs.Blob
import RecordStore.Proofs.Retrieval
import RecordStore.Proofs.Growth
import RecordStore.Proofs.Store
import RecordStore.Proofs.Pipeline.Abort
import RecordStore.Proofs.Acceptance
import RecordStore.Proofs.Rejection
import RecordStore.Proofs.Increments
import RecordStore.Proofs.Pipeline.Interleavings
import RecordStore.Proofs.Pipeline.Termination
import RecordStore.Proofs.Index.SharedTable
import RecordStore.Proofs.Pipeline.Report
import RecordStore.Proofs.Index.SharedLog
import RecordStore.Proofs.Reindexing
import RecordStore.Proofs.Lookups
import RecordStore.Proofs.Retrying
import RecordStore.Proofs.Pipeline.Delay
import RecordStore.Proofs.Arrival
import RecordStore.Proofs.Threads
import RecordStore.Proofs.Writers
import RecordStore.Proofs.Readers
import RecordStore.Proofs.Batches
import RecordStore.Proofs.Pipeline.Breaks
import RecordStore.Proofs.Deliveries
import RecordStore.Proofs.StoredValues
import RecordStore.Proofs.DefaultPattern
import RecordStore.Proofs.Characters
import RecordStore.Proofs.Json.Numerals
import RecordStore.Proofs.Json.Texts
import RecordStore.Proofs.Json.Grammar
import RecordStore.Proofs.FieldKeys
import RecordStore.Proofs.Overrides
import RecordStore.Proofs.Printing
import RecordStore.Proofs.Footprint
import RecordStore.Proofs.Getting
import RecordStore.Proofs.Settings
