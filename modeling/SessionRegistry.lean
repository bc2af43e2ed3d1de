import SessionRegistry.Status.Reading
import SessionRegistry.Query.Listing
import SessionRegistry.Command.Notice
import SessionRegistry.Json.Basic
import SessionRegistry.Json.Reader
import SessionRegistry.Codec.Basic
import SessionRegistry.Log.Frame
import SessionRegistry.Log.Writer
import SessionRegistry.Session.Table
import SessionRegistry.Store.Recovery
import SessionRegistry.Store.Basic
import SessionRegistry.Store.Commit
import SessionRegistry.Store.Opening
import SessionRegistry.Operation
import SessionRegistry.Console.Router
import SessionRegistry.Main
import SessionRegistry.Config.CommandLine
import SessionRegistry.Proofs.Json.RoundTrip
import SessionRegistry.Proofs.Store.Snapshot
import SessionRegistry.Proofs.Store.CrashRecovery
import SessionRegistry.Proofs.Store.CheckpointCrash
import SessionRegistry.Proofs.Store.TornLog
import SessionRegistry.Proofs.Store.Timeout
import SessionRegistry.Proofs.Store.Soundness
import SessionRegistry.Proofs.Operation.Registration
import SessionRegistry.Proofs.Session.Succession
import SessionRegistry.Proofs.Store.Numbers
import SessionRegistry.Proofs.Store.FreshNumbers
import SessionRegistry.Proofs.Session.Outcome
import SessionRegistry.Proofs.Store.Stability
import SessionRegistry.Proofs.Log.Cut
import SessionRegistry.Proofs.Store.LogSize
import SessionRegistry.Proofs.Store.SnapshotFile
import SessionRegistry.Proofs.Store.Stopped
import SessionRegistry.Proofs.Store.Restart
import SessionRegistry.Proofs.Query.Paging
import SessionRegistry.Proofs.Store.Representation
import SessionRegistry.Proofs.Store.Isolation
import SessionRegistry.Proofs.Store.Description
import SessionRegistry.Proofs.Store.Replay
import SessionRegistry.Proofs.Query.LockPaging
import SessionRegistry.Proofs.RowLock.Regrouping
import SessionRegistry.Proofs.RowLock.Rewriting
import SessionRegistry.Proofs.RowLock.Release
import SessionRegistry.Proofs.Store.Discretion
import SessionRegistry.Proofs.Store.Release
import SessionRegistry.Proofs.Operation.Audit
import SessionRegistry.Proofs.Console.Form
import SessionRegistry.Proofs.Console.Reading
import SessionRegistry.Proofs.Console.Requests
import SessionRegistry.Proofs.Console.Release
import SessionRegistry.Proofs.Store.Reopening
import SessionRegistry.Proofs.Log.Writing
import SessionRegistry.Proofs.Store.Retention
import SessionRegistry.Proofs.Store.Reissue
import SessionRegistry.Proofs.Status.Reading
import SessionRegistry.Proofs.Console.Filters
import SessionRegistry.Proofs.Store.LockSlots
import SessionRegistry.Proofs.Config.Precedence
import SessionRegistry.Proofs.Store.Counters
import SessionRegistry.Proofs.Store.RowKeys
