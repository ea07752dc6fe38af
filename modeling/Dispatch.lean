import Dispatch.Activity
import Dispatch.Attempt
import Dispatch.Cluster.Basic
import Dispatch.Cluster.Fault
import Dispatch.Cluster.Running
import Dispatch.Cluster.Session
import Dispatch.Cluster.Work
import Dispatch.Deployment
import Dispatch.Error
import Dispatch.Event
import Dispatch.Http.App
import Dispatch.Http.Form
import Dispatch.Http.MediaType
import Dispatch.Http.Message
import Dispatch.Http.Problem
import Dispatch.Http.Query
import Dispatch.Http.Route
import Dispatch.Http.Target
import Dispatch.Http.Token
import Dispatch.Http.View
import Dispatch.Id
import Dispatch.Job.Basic
import Dispatch.Job.Draft
import Dispatch.Job.Filter
import Dispatch.Job.Status
import Dispatch.Json.Access
import Dispatch.Json.Basic
import Dispatch.Json.Decoder
import Dispatch.Json.Entity
import Dispatch.Json.Printer
import Dispatch.Json.Reader
import Dispatch.Number.Decimal
import Dispatch.Number.Double
import Dispatch.Number.Numeral
import Dispatch.Number.Shortest
import Dispatch.Postgres.Exchange
import Dispatch.Postgres.Playback
import Dispatch.Postgres.Record
import Dispatch.Postgres.Schema
import Dispatch.Postgres.Statement
import Dispatch.Postgres.Store
import Dispatch.Postgres.Value
import Dispatch.Proofs.Cluster.Alone
import Dispatch.Proofs.Cluster.Stays
import Dispatch.Proofs.Floor.Agent
import Dispatch.Proofs.Floor.Basic
import Dispatch.Proofs.Floor.Custody
import Dispatch.Proofs.Floor.Diary
import Dispatch.Proofs.Floor.Leaving
import Dispatch.Proofs.Floor.Moves
import Dispatch.Proofs.Floor.Next
import Dispatch.Proofs.Floor.Outcome
import Dispatch.Proofs.Floor.Quiet
import Dispatch.Proofs.Floor.Reports
import Dispatch.Proofs.Floor.Shown
import Dispatch.Proofs.Floor.Silence
import Dispatch.Proofs.Floor.Sound
import Dispatch.Proofs.Floor.Stamps
import Dispatch.Proofs.Floor.Vigil
import Dispatch.Proofs.Floor.Watch
import Dispatch.Proofs.Http.Answer
import Dispatch.Proofs.Http.Liveness
import Dispatch.Proofs.Http.Naming
import Dispatch.Proofs.Http.Places
import Dispatch.Proofs.Job.Draft
import Dispatch.Proofs.Job.Life
import Dispatch.Proofs.Job.Listing
import Dispatch.Proofs.Json.Codec
import Dispatch.Proofs.Json.Entities
import Dispatch.Proofs.Json.Meaning
import Dispatch.Proofs.Json.Reading
import Dispatch.Proofs.Json.Record
import Dispatch.Proofs.Json.RoundTrip
import Dispatch.Proofs.Json.Slots
import Dispatch.Proofs.Json.Strings
import Dispatch.Proofs.Lists
import Dispatch.Proofs.Number.Digits
import Dispatch.Proofs.Number.Numeral
import Dispatch.Proofs.Number.Rounding
import Dispatch.Proofs.Number.Shortest
import Dispatch.Proofs.Number.Text
import Dispatch.Proofs.Postgres.Agreement
import Dispatch.Proofs.Postgres.AllOrNothing
import Dispatch.Proofs.Postgres.Causes
import Dispatch.Proofs.Postgres.Conduct
import Dispatch.Proofs.Postgres.Creation
import Dispatch.Proofs.Postgres.Database
import Dispatch.Proofs.Postgres.Decoding
import Dispatch.Proofs.Postgres.Diagnosis
import Dispatch.Proofs.Postgres.Mirror
import Dispatch.Proofs.Postgres.Reads
import Dispatch.Proofs.Postgres.Requeue
import Dispatch.Proofs.Postgres.Rows
import Dispatch.Proofs.Postgres.Transcript
import Dispatch.Proofs.Postgres.Writes
import Dispatch.Proofs.Queue.Hall
import Dispatch.Proofs.Queue.Leases
import Dispatch.Proofs.Queue.Lossless
import Dispatch.Proofs.Queue.Waiters
import Dispatch.Proofs.Reconciler.Page
import Dispatch.Proofs.Reconciler.Repair
import Dispatch.Proofs.Reconciler.Retry
import Dispatch.Proofs.Reconciler.Sweep
import Dispatch.Proofs.Redis.Interchange
import Dispatch.Proofs.Redis.Server
import Dispatch.Proofs.Service.Creation
import Dispatch.Proofs.Service.Memory
import Dispatch.Proofs.Service.Outage
import Dispatch.Proofs.Settings.Grace
import Dispatch.Proofs.Settings.Load
import Dispatch.Proofs.Settings.Words
import Dispatch.Proofs.Stack.Basic
import Dispatch.Proofs.Stack.Ending
import Dispatch.Proofs.Stack.Line
import Dispatch.Proofs.Stack.Serial
import Dispatch.Proofs.Store.Apart
import Dispatch.Proofs.Store.Biography
import Dispatch.Proofs.Store.Change
import Dispatch.Proofs.Store.Effect
import Dispatch.Proofs.Store.History
import Dispatch.Proofs.Store.Identity
import Dispatch.Proofs.Store.InUse
import Dispatch.Proofs.Store.Keys
import Dispatch.Proofs.Store.Ledger
import Dispatch.Proofs.Store.Orphans
import Dispatch.Proofs.Store.Pages
import Dispatch.Proofs.Store.Places
import Dispatch.Proofs.Store.Reclaim
import Dispatch.Proofs.Store.Replay
import Dispatch.Proofs.Store.Run
import Dispatch.Proofs.Store.Settled
import Dispatch.Proofs.Store.Snapshot
import Dispatch.Proofs.Store.Turn
import Dispatch.Proofs.Store.Vouch
import Dispatch.Proofs.Store.Waiting
import Dispatch.Proofs.Tables
import Dispatch.Proofs.Text.Bytes
import Dispatch.Proofs.Text.Case
import Dispatch.Proofs.Text.Trim
import Dispatch.Proofs.Time.Calendar
import Dispatch.Proofs.Time.Rfc3339
import Dispatch.Proofs.Time.Span
import Dispatch.Proofs.Time.Written
import Dispatch.Proofs.Uuid.Spellings
import Dispatch.Proofs.Uuid.Text
import Dispatch.Proofs.Worker.Commit
import Dispatch.Proofs.Worker.Conclusion
import Dispatch.Proofs.Worker.Names
import Dispatch.Proofs.Worker.Serve
import Dispatch.Provider
import Dispatch.Provider.Simulated
import Dispatch.Queue.Basic
import Dispatch.Queue.Call
import Dispatch.Reconciler.Config
import Dispatch.Reconciler.Loop
import Dispatch.Reconciler.Pass
import Dispatch.Redis.Command
import Dispatch.Redis.Playback
import Dispatch.Redis.Queue
import Dispatch.Redis.Reply
import Dispatch.Script
import Dispatch.Service
import Dispatch.Settings
import Dispatch.Store.Basic
import Dispatch.Store.Call
import Dispatch.Table
import Dispatch.Text.Blank
import Dispatch.Text.Percent
import Dispatch.Text.Quoted
import Dispatch.Text.Unprintable
import Dispatch.Text.Utf8
import Dispatch.Time.Alarm
import Dispatch.Time.Calendar
import Dispatch.Time.Instant
import Dispatch.Time.Rfc3339
import Dispatch.Time.Span
import Dispatch.Time.Timestamp
import Dispatch.Uuid
import Dispatch.Uuid.Mention
import Dispatch.Uuid.Spelling
import Dispatch.Worker.Config
import Dispatch.Worker.Heartbeat
import Dispatch.Worker.Lane
import Dispatch.Worker.Poll
