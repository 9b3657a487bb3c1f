import StEcu.Foundation.Saturating
import StEcu.Live.Frame
import StEcu.Protocol.Payloads

/-!
# The data log

The log session of the runtime and the logbook of past sessions (`src/transport.rs`). The bytes of
a session are cut into blocks: a staging block fills up and is moved to the finished blocks.

Elapsed times are computed from the sample counter of the live data, which callers pass in as
milliseconds.

## Main definitions

* `DataLog`, `DataLog.start`, `DataLog.stop`, `DataLog.appendLogSample`, `DataLog.readLogBlock`.
* `DataLog.resetLogbook`, `DataLog.recordLogbookAuditMarker`, `DataLog.buildLogbookSummary`.

## Main results

* `DataLog.appendLogBytes_eq`, `DataLog.start_eq`: what writing and starting a session leave alone.
-/

namespace StEcu

/-- The size of a block of the log. -/
def logBlockSizeBytes : UInt16 := 256

/-- 2023-01-01T00:00:00Z. -/
def syncRtcMinEpochMs : UInt64 := 1672531200000

/-- 2099-12-31T23:59:59.999Z. -/
def syncRtcMaxEpochMs : UInt64 := 4102444799999

/-- The log session, its blocks, and the totals of the past sessions. -/
structure DataLog where
  active : Bool := false
  storagePresent : Bool := true
  rtcSynced : Bool := false
  logbookEntries : UInt8 := 0
  totalSessions : UInt32 := 0
  totalElapsedMs : UInt32 := 0
  totalBytesWritten : UInt32 := 0
  lastElapsedMs : UInt32 := 0
  lastBytesWritten : UInt32 := 0
  lastBlockCount : UInt16 := 0
  lastRtcSyncMs : UInt32 := 0
  sessionId : UInt32 := 0
  startedSampleCounter : UInt32 := 0
  elapsedMsLatched : UInt32 := 0
  bytesWritten : UInt32 := 0
  blockSize : UInt16 := logBlockSizeBytes
  blocks : List Bytes := []
  stagingBlock : Bytes := []
  deriving DecidableEq, Repr

namespace DataLog

variable (log : DataLog)

/-- How long the session has lasted, or how long the last one did. -/
def currentLogElapsedMs (nowMs : UInt32) : UInt32 :=
  if log.active then nowMs.saturatingSub (log.startedSampleCounter.saturatingMul 20)
  else log.elapsedMsLatched

/-- The number of blocks, with the one that is being filled. The number of finished blocks wraps
around. -/
def currentLogBlockCount : UInt16 :=
  let count := UInt16.ofNat log.blocks.length
  if log.active && !log.stagingBlock.isEmpty then count.saturatingAdd 1 else count

/-- One byte of `append_log_bytes`: a full staging block becomes a finished block. -/
def pushLogByte (byte : UInt8) : DataLog :=
  let staging := log.stagingBlock ++ [byte]
  if (max log.blockSize 1).toNat ≤ staging.length then
    { log with blocks := log.blocks ++ [staging], stagingBlock := [] }
  else { log with stagingBlock := staging }

/-- Some bytes logged, if a session is active. -/
def appendLogBytes (nowMs : UInt32) (bytes : Bytes) : DataLog :=
  if !log.active || bytes.isEmpty then log
  else
    let log :=
      { log with bytesWritten := log.bytesWritten.saturatingAdd (UInt32.ofNat bytes.length) }
    let log := bytes.foldl pushLogByte log
    { log with elapsedMsLatched := log.currentLogElapsedMs nowMs }

/-- The line of a live sample. -/
def logSampleLine (P : Platform) (frame : LiveDataFrame) : String :=
  "t=" ++ toString frame.timestampMs.toNat ++ " rpm=" ++ P.formatFixed 0 frame.rpm ++
    " map=" ++ P.formatFixed 1 frame.mapKpa ++ " tps=" ++ P.formatFixed 1 frame.tpsPct ++
    " lambda=" ++ P.formatFixed 4 frame.lambda ++ " clt=" ++ P.formatFixed 1 frame.coolantC ++ "\n"

/-- A live sample logged, if a session is active. -/
def appendLogSample (P : Platform) (nowMs : UInt32) (frame : LiveDataFrame) : DataLog :=
  if !log.active then log else log.appendLogBytes nowMs (utf8 (logSampleLine P frame))

/-- The start of a session, whose first bytes are a header. -/
def start (sampleCounter nowMs : UInt32) : DataLog :=
  let sessionId := if log.sessionId + 1 = 0 then 1 else log.sessionId + 1
  let log :=
    { log with
      active := true
      sessionId
      startedSampleCounter := sampleCounter
      elapsedMsLatched := 0
      bytesWritten := 0
      blocks := []
      stagingBlock := [] }
  log.appendLogBytes nowMs
    (utf8 ("session=" ++ toString sessionId.toNat ++ " start_ms=" ++ toString nowMs.toNat ++ "\n"))

/-- The end of a session, which enters it into the logbook. -/
def stop (nowMs : UInt32) : DataLog :=
  if !log.active then log
  else
    let elapsed := log.currentLogElapsedMs nowMs
    let log := { log with elapsedMsLatched := elapsed, active := false }
    let log :=
      if log.stagingBlock.isEmpty then log
      else { log with blocks := log.blocks ++ [log.stagingBlock], stagingBlock := [] }
    { log with
      logbookEntries := log.logbookEntries.saturatingAdd 1
      totalSessions := log.totalSessions.saturatingAdd 1
      totalElapsedMs := log.totalElapsedMs.saturatingAdd elapsed
      totalBytesWritten := log.totalBytesWritten.saturatingAdd log.bytesWritten
      lastElapsedMs := elapsed
      lastBytesWritten := log.bytesWritten
      lastBlockCount := log.currentLogBlockCount }

/-- A finished block, or the one that is being filled. -/
def readLogBlock (blockIndex : ℕ) : Option Bytes :=
  if blockIndex < log.blocks.length then log.blocks[blockIndex]?
  else if log.active && blockIndex == log.blocks.length && !log.stagingBlock.isEmpty then
    some log.stagingBlock
  else none

/-- What the host is told of the session. -/
def logStatusPayload (nowMs : UInt32) : LogStatusPayload where
  active := log.active
  storagePresent := log.storagePresent
  rtcSynced := log.rtcSynced
  logbookEntries := log.logbookEntries
  sessionId := log.sessionId
  elapsedMs := log.currentLogElapsedMs nowMs
  bytesWritten := log.bytesWritten
  blockCount := log.currentLogBlockCount
  blockSize := log.blockSize

/-- What the host is told of the past sessions. -/
def buildLogbookSummary : LogbookSummaryPayload where
  sessions := log.totalSessions
  entries := log.logbookEntries.toUInt16
  totalElapsedMs := log.totalElapsedMs
  totalBytesWritten := log.totalBytesWritten
  lastSessionId := log.sessionId
  lastElapsedMs := log.lastElapsedMs
  lastBytesWritten := log.lastBytesWritten
  lastBlockCount := log.lastBlockCount
  rtcSynced := log.rtcSynced
  lastRtcSyncMs := log.lastRtcSyncMs

/-- The logbook and the blocks emptied. -/
def resetLogbook : DataLog :=
  { log with
    logbookEntries := 0
    totalSessions := 0
    totalElapsedMs := 0
    totalBytesWritten := 0
    lastElapsedMs := 0
    lastBytesWritten := 0
    lastBlockCount := 0
    sessionId := 0
    elapsedMsLatched := 0
    bytesWritten := 0
    blocks := []
    stagingBlock := [] }

/-- One more entry of the logbook, without a session. -/
def recordLogbookAuditMarker : DataLog :=
  { log with logbookEntries := log.logbookEntries.saturatingAdd 1 }

/-- The clock of the log set to an epoch, of which the low range is kept. -/
def syncRtc (epochMs : UInt64) : DataLog :=
  { log with rtcSynced := true, lastRtcSyncMs := (min epochMs 0xFFFFFFFF).toUInt32 }

/-! ### What is left alone -/

/-- Writing changes nothing but the bytes of the session. -/
theorem appendLogBytes_eq (nowMs : UInt32) (bytes : Bytes) :
    ∃ bytesWritten elapsedMsLatched blocks stagingBlock, log.appendLogBytes nowMs bytes =
      { log with bytesWritten, elapsedMsLatched, blocks, stagingBlock } := by
  have push (bytes : Bytes) (log : DataLog) : ∃ blocks stagingBlock,
      bytes.foldl pushLogByte log = { log with blocks, stagingBlock } := by
    induction bytes generalizing log with
    | nil => exact ⟨log.blocks, log.stagingBlock, rfl⟩
    | cons byte bytes ih =>
      obtain ⟨blocks, stagingBlock, heq⟩ := ih (log.pushLogByte byte)
      rw [List.foldl_cons, heq, pushLogByte]
      split_ifs <;> exact ⟨blocks, stagingBlock, rfl⟩
  rw [appendLogBytes]
  split_ifs
  · exact ⟨_, _, _, _, rfl⟩
  · dsimp only
    obtain ⟨blocks, stagingBlock, heq⟩ := push bytes
      { log with bytesWritten := log.bytesWritten.saturatingAdd (UInt32.ofNat bytes.length) }
    rw [heq]
    exact ⟨_, _, _, _, rfl⟩

/-- What a start leaves of the log before it. -/
theorem start_eq (sampleCounter nowMs : UInt32) :
    ∃ sessionId elapsedMsLatched bytesWritten blocks stagingBlock,
      log.start sampleCounter nowMs =
        { log with
          active := true
          startedSampleCounter := sampleCounter
          sessionId, elapsedMsLatched, bytesWritten, blocks, stagingBlock } := by
  obtain ⟨bytesWritten, elapsedMsLatched, blocks, stagingBlock, heq⟩ := appendLogBytes_eq
    { log with
      active := true
      sessionId := if log.sessionId + 1 = 0 then 1 else log.sessionId + 1
      startedSampleCounter := sampleCounter
      elapsedMsLatched := 0
      bytesWritten := 0
      blocks := []
      stagingBlock := [] } nowMs
    (utf8 ("session=" ++ toString (if log.sessionId + 1 = 0 then 1 else log.sessionId + 1).toNat ++
      " start_ms=" ++ toString nowMs.toNat ++ "\n"))
  exact ⟨_, _, _, _, _, heq⟩

theorem appendLogSample_eq (P : Platform) (nowMs : UInt32) (frame : LiveDataFrame) :
    ∃ bytesWritten elapsedMsLatched blocks stagingBlock, log.appendLogSample P nowMs frame =
      { log with bytesWritten, elapsedMsLatched, blocks, stagingBlock } := by
  rw [appendLogSample]
  split_ifs
  · exact ⟨_, _, _, _, rfl⟩
  · exact log.appendLogBytes_eq nowMs _

end DataLog

end StEcu
