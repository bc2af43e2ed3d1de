import SessionRegistry.Error
import SessionRegistry.Json.Basic
import SessionRegistry.Json.Reader
import SessionRegistry.Log.Record
import SessionRegistry.Session.Json

/-!
# Snapshots

A snapshot is the image of a whole store, written to a file next to the log. It covers every log
record up to its position.
-/

namespace SessionRegistry

/-- The image of a whole store. -/
structure Snapshot where
  /-- Every record up to this position is reflected in the sessions. -/
  lsn : Lsn
  /-- When the snapshot was taken. -/
  timestamp : Millis
  /-- When the last change that the sessions reflect was made. -/
  lastModified : Millis
  /-- The highest number handed out so far. -/
  maxId : UInt64
  sessions : List Session
  deriving DecidableEq, Repr, Inhabited

namespace Snapshot

/-- The snapshot of a store that never was. -/
def empty : Snapshot where
  lsn := 0
  timestamp := 0
  lastModified := 0
  maxId := 0
  sessions := []

/-- The names of the fields, in order. -/
def fieldNames : List String :=
  ["lsn", "timestamp", "last_modified", "max_id", "sessions"]

/-- The JSON form of a snapshot. -/
def toJson (snapshot : Snapshot) : Json :=
  .obj
    [("lsn", .nat snapshot.lsn.toNat), ("timestamp", .nat snapshot.timestamp.toNat),
      ("last_modified", .nat snapshot.lastModified.toNat), ("max_id", .nat snapshot.maxId.toNat),
      ("sessions", .arr (snapshot.sessions.map Session.toJson))]

/-- The snapshot that a JSON value spells. The time of the last change is zero where it is
missing. -/
def ofJson? (j : Json) : Option Snapshot := do
  let [some lsn, some timestamp, lastModified, some maxId, some sessions] ← j.record fieldNames
    | none
  return {
    lsn := ← lsn.uint64?
    timestamp := ← timestamp.uint64?
    lastModified := ← (match lastModified with
      | none => some 0
      | some time => time.uint64?)
    maxId := ← maxId.uint64?
    sessions := ← Json.list? Session.ofJson? sessions }

/-- The text of a snapshot file. -/
def write (snapshot : Snapshot) : String :=
  snapshot.toJson.render

/-- Read a snapshot file. Without a file the snapshot is empty. -/
def read : Option String → Except Error Snapshot
  | none => .ok empty
  | some text =>
    match (Json.parse text).bind ofJson? with
    | some snapshot => .ok snapshot
    | none => .error (.internal (.codec "failed to parse snapshot"))

end Snapshot

end SessionRegistry
