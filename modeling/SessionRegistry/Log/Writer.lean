import SessionRegistry.Error
import SessionRegistry.Log.Frame

/-!
# Writing the log

The writer appends records to the log file. A record is in the file at once; it is durable when the
file has been synced after it was written. With a sync period of zero every write is followed by a
sync. Otherwise the syncs come when the period is over, when too many bytes have been written
since the last one, or on request.
-/

namespace SessionRegistry

/-- How the log is written. -/
structure LogSettings where
  /-- For how long records are collected before they are written together. -/
  batchTimeout : Millis := 2
  /-- How many records are written together at most. -/
  maxBatchSize : UInt64 := 128
  /-- The number of bytes logged after which a checkpoint is due. -/
  checkpointThreshold : UInt64 := 4194304
  /-- The period between syncs; zero means that every write is synced. -/
  syncPeriod : Millis := 20
  /-- The number of unsynced bytes that forces a sync. -/
  maxUnsyncedBytes : UInt64 := 1048576
  /-- For how long a writer waits until its record is durable. -/
  durableWait : Millis := 10000
  deriving DecidableEq, Repr, Inhabited

/-- The log file and what has been synced of it. -/
structure LogWriter where
  settings : LogSettings
  /-- The content of the log file. -/
  file : Bytes
  /-- The number of bytes written since the last sync. -/
  unsynced : Nat
  /-- The highest position written. -/
  writtenLsn : Lsn
  /-- The highest position known to be on the disk. -/
  durableLsn : Lsn
  /-- Whether the writer still takes records. -/
  running : Bool
  deriving DecidableEq, Repr

namespace LogWriter

/-- A writer that appends to a file. -/
def start (settings : LogSettings) (file : Bytes) : LogWriter where
  settings
  file
  unsynced := 0
  writtenLsn := 0
  durableLsn := 0
  running := true

/-- The file is synced: what has been written is durable. -/
def sync (writer : LogWriter) : LogWriter :=
  { writer with unsynced := 0, durableLsn := max writer.durableLsn writer.writtenLsn }

/-- The file is synced if bytes have been written since the last time. -/
def flush (writer : LogWriter) : LogWriter :=
  if writer.unsynced = 0 then writer else writer.sync

/-- Whether a write is followed by a sync. -/
def syncsAfterWrite (writer : LogWriter) : Bool :=
  writer.settings.syncPeriod == 0
    || decide (writer.settings.maxUnsyncedBytes.toNat ≤ writer.unsynced)

/-- Whether the end of a sync period falls into the wait for durability. -/
def syncsWithinWait (writer : LogWriter) : Bool :=
  decide (writer.settings.syncPeriod < writer.settings.durableWait)

/-- The frame of a record is put at the end of the file. -/
def write (writer : LogWriter) (record : LogRecord) : LogWriter :=
  let frame := Frame.ofRecord record
  let written :=
    { writer with
      file := writer.file ++ frame
      unsynced := writer.unsynced + frame.length
      writtenLsn := max writer.writtenLsn record.lsn }
  if written.syncsAfterWrite then written.sync else written

end LogWriter

/-- A step of the log's writer. A failed step keeps what it has done. -/
abbrev LogM := ExceptT Error (StateM LogWriter)

namespace LogWriter

/-- The writer must still take records. -/
def requireRunning : LogM Unit := do
  unless (← get).running do
    throw (.internal .logStopped)

/-- Write a record without waiting until it is durable. The answer is the number of bytes. -/
def append (record : LogRecord) : LogM Nat := do
  requireRunning
  modify (·.write record)
  return (Frame.ofRecord record).length

/-- Wait until a position is durable. -/
def awaitDurable (lsn : Lsn) : LogM Unit := do
  if lsn ≤ (← get).durableLsn then
    return
  if (← get).syncsWithinWait then
    modify sync
  let durable := (← get).durableLsn
  unless lsn ≤ durable do
    throw (.internal (.notDurable lsn durable))

/-- Write a record and wait until it is durable. -/
def appendDurable (record : LogRecord) : LogM Nat := do
  let bytes ← append record
  awaitDurable record.lsn
  return bytes

/-- Sync the file now. The answer is the durable position. -/
def forceSync : LogM Lsn := do
  requireRunning
  if (← get).unsynced = 0 then
    return (← get).durableLsn
  modify sync
  return (← get).writtenLsn

/-- Empty the file, after it has been synced. -/
def truncate : LogM Unit := do
  requireRunning
  -- what was written counts as durable before it is dropped
  modify flush
  modify fun writer => { writer with file := [], unsynced := 0 }

/-- Sync the file and take no more records. -/
def shutdown (writer : LogWriter) : LogWriter :=
  if writer.running then { writer.flush with running := false } else writer

end LogWriter

end SessionRegistry
