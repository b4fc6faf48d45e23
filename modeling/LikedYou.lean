import LikedYou.Api.Error
import LikedYou.Api.Handler
import LikedYou.Api.Health
import LikedYou.Api.Messages
import LikedYou.Api.Service
import LikedYou.Base64
import LikedYou.Bytes
import LikedYou.Cache.Basic
import LikedYou.Cache.Durable
import LikedYou.Cache.Durable.Layout
import LikedYou.Cache.Durable.Tables
import LikedYou.Cache.Monitored
import LikedYou.Cache.ReadThrough
import LikedYou.Cache.Volatile
import LikedYou.Cursor
import LikedYou.Decimal.Numeral
import LikedYou.Decimal.Shortest
import LikedYou.Decision
import LikedYou.Fault
import LikedYou.Http.MediaType
import LikedYou.Http.Server
import LikedYou.Http.Target
import LikedYou.Json.Document
import LikedYou.Json.Fault
import LikedYou.Json.Items
import LikedYou.Json.Read
import LikedYou.Json.Reader
import LikedYou.Json.Record
import LikedYou.Json.Scan
import LikedYou.Json.Shape
import LikedYou.Json.Skip
import LikedYou.Json.Value
import LikedYou.Json.Write
import LikedYou.Page
import LikedYou.PageBounds
import LikedYou.Query
import LikedYou.Settings.Database
import LikedYou.Settings.Host
import LikedYou.Settings.Service
import LikedYou.Sql.Database
import LikedYou.Sql.Keyset
import LikedYou.Sql.Script
import LikedYou.Sql.Statement
import LikedYou.Store.Basic
import LikedYou.Store.Monitored
import LikedYou.Store.Postgres
import LikedYou.Store.Relation
import LikedYou.Text.Blank
import LikedYou.Text.Hidden
import LikedYou.Text.Quoted
import LikedYou.Text.Utf8
import LikedYou.Time.Calendar
import LikedYou.Time.Clock
import LikedYou.Time.Duration
import LikedYou.Time.Rfc3339
import LikedYou.Time.Timestamp
import LikedYou.Proofs.Text.Base64
import LikedYou.Proofs.Json.Number
import LikedYou.Proofs.Json.Text
import LikedYou.Proofs.Json.Items
import LikedYou.Proofs.Json.Record
import LikedYou.Proofs.Json.RoundTrip
import LikedYou.Proofs.Json.Lossless
import LikedYou.Proofs.Paging.Token
import LikedYou.Proofs.Paging.Listed
import LikedYou.Proofs.Paging.Walk
import LikedYou.Proofs.Paging.Account
import LikedYou.Proofs.Paging.Session
import LikedYou.Proofs.Paging.AmidChanges
import LikedYou.Proofs.Paging.Assembled
import LikedYou.Proofs.Cache.Layout
import LikedYou.Proofs.Cache.Tables
import LikedYou.Proofs.Cache.Durable
import LikedYou.Proofs.Cache.Volatile
import LikedYou.Proofs.Cache.Agreement
import LikedYou.Proofs.Cache.Answers
import LikedYou.Proofs.Cache.Index
import LikedYou.Proofs.Cache.Transactions
import LikedYou.Proofs.Cache.InStep
import LikedYou.Proofs.Cache.Purge
import LikedYou.Proofs.Cache.AnyTime
import LikedYou.Proofs.Cache.Failures
import LikedYou.Proofs.Cache.Backend
import LikedYou.Proofs.Cache.Counters
import LikedYou.Proofs.Cache.Turnover
import LikedYou.Proofs.Cache.Usage
import LikedYou.Proofs.Cache.Sweeps
import LikedYou.Proofs.Cache.Calls
import LikedYou.Proofs.Cache.Rounds
import LikedYou.Proofs.Cache.Lifetime
import LikedYou.Proofs.Cache.Monitored
import LikedYou.Proofs.Service.Keys
import LikedYou.Proofs.Service.Questions
import LikedYou.Proofs.Store.Monitored
import LikedYou.Proofs.Service.Requests
import LikedYou.Proofs.Service.Sources
import LikedYou.Proofs.Service.Detached
import LikedYou.Proofs.Service.Staleness
import LikedYou.Proofs.Service.Accounting
import LikedYou.Proofs.Store.History
import LikedYou.Proofs.Cache.SameReads
import LikedYou.Proofs.Service.Unseen
import LikedYou.Proofs.Service.Payloads
import LikedYou.Proofs.Http.Refusals
import LikedYou.Proofs.Service.Attempts
import LikedYou.Proofs.Service.Races
import LikedYou.Proofs.Decimal.Numeral
import LikedYou.Proofs.Time.Calendar
import LikedYou.Proofs.Time.Rfc3339
import LikedYou.Proofs.Json.Decisions
import LikedYou.Proofs.Service.Alike
import LikedYou.Proofs.Store.Postgres
import LikedYou.Proofs.Sql.Reading
import LikedYou.Proofs.Sql.Answer
import LikedYou.Proofs.Store.SamePages
import LikedYou.Proofs.Cache.Unreliable
import LikedYou.Proofs.Http.Untold
