import StEcu.Foundation.Keyed
import StEcu.Transport.System

/-!
# What a packet can do to the samples, the log and the tables

The effects of a packet do not tell apart what the commands of the data log, of the tables and of
the trouble codes do to these. This is done here, again as one relation: a command records
something in one certain way, or it is rejected, or it is none of these commands and records
nothing.

## Main definitions

* `Cmd.isRecording`: the commands that touch the samples, the log, the tables or the trouble codes.
* `FirmwareRuntime.SameRecords`: all of these are as they were.
* `FirmwareRuntime.Activity`: what a packet can do to them.

## Main results

* `step_activity`: every step does one of these.
-/

namespace StEcu

/-- The commands that touch the live samples, the log, the tables or the trouble codes. -/
def Cmd.isRecording : Cmd → Bool
  | getLiveData | logStart | logStop | resetLogbook | syncRtc | writeTable | writeCell | clearDtc
  | runOutputTest => true
  | _ => false

/-- The recording commands whose packets can be rejected. -/
def Cmd.isRejectable : Cmd → Bool
  | resetLogbook | syncRtc | writeTable | writeCell | runOutputTest => true
  | _ => false

/-- Another table with the same identifier and of the same size. -/
structure RawTablePayload.SameShape (table table' : RawTablePayload) : Prop where
  tableId_eq : table'.tableId = table.tableId
  xCount_eq : table'.xCount = table.xCount
  yCount_eq : table'.yCount = table.yCount
  length_xBins : table'.xBins.length = table.xBins.length
  length_yBins : table'.yBins.length = table.yBins.length
  length_data : table'.data.length = table.data.length

namespace FirmwareRuntime

/-- The samples, the log, the tables and the trouble codes are as they were. -/
structure SameRecords (r r' : FirmwareRuntime) : Prop where
  live_eq : r'.live = r.live
  log_eq : r'.log = r.log
  tables_eq : r'.tables = r.tables
  dtcEntries_eq : r'.dtcEntries = r.dtcEntries

/-- What a packet can do to a runtime, as far as its records go. -/
inductive Activity (P : Platform) (packet : Packet) (r r' : FirmwareRuntime) (answer : Packet) :
    Prop
  /-- Every other command leaves the records alone, whatever it does otherwise. -/
  | other (hcmd : packet.cmd.isRecording = false) (h : r.SameRecords r')
  /-- A rejected packet changes nothing. -/
  | rejected (hcmd : packet.cmd.isRejectable = true) (hnack : answer.cmd = .nack) (h : r' = r)
  | sampled (hcmd : packet.cmd = .getLiveData) (h : r' = (r.sampleLiveData P).1)
      (hanswer : answer = ⟨.liveData, (r.sampleLiveData P).2.encode⟩)
  | logStarted (hcmd : packet.cmd = .logStart)
      (h : r' = { r with log := r.log.start r.live.liveSampleCounter r.live.currentRuntimeMs })
      (hack : answer = ack)
  | logStopped (hcmd : packet.cmd = .logStop)
      (h : r' = { r with log := r.log.stop r.live.currentRuntimeMs }) (hack : answer = ack)
  | logbookReset (hcmd : packet.cmd = .resetLogbook) (hactive : r.log.active = false)
      (h : r' = { r with log := r.log.resetLogbook }) (hack : answer = ack)
  | rtcSynced (epochMs : UInt64) (hcmd : packet.cmd = .syncRtc)
      (hdec : decodeSyncRtcPayload packet.payload = .ok epochMs)
      (hrange : ¬ (epochMs < syncRtcMinEpochMs ∨ syncRtcMaxEpochMs < epochMs))
      (h : r' = { r with log := r.log.syncRtc epochMs }) (hack : answer = ack)
  /-- An output test leaves an audit marker where it was forced on. -/
  | outputTested (audit : Bool) (hcmd : packet.cmd = .runOutputTest)
      (hcheck : r.checkOutputTest packet.payload = .ok audit)
      (h : r' = { r with log := if audit then r.log.recordLogbookAuditMarker else r.log })
      (hack : answer = ack)
  | tableWritten (index : ℕ) (table current : RawTablePayload) (hcmd : packet.cmd = .writeTable)
      (hdec : decodeRawTablePayload packet.payload = .ok table)
      (hindex : r.tableIndex table.tableId = some index)
      (hcurrent : r.tables[index]? = some current) (hshape : current.SameShape table)
      (h : r' = { r with tables := r.tables.set index table }) (hack : answer = ack)
  | cellWritten (index offset : ℕ) (table : RawTablePayload) (value : UInt16)
      (hcmd : packet.cmd = .writeCell)
      (hcheck : r.checkWriteCell packet.payload = .ok (index, table, offset, value))
      (h : r' = { r with
        tables := r.tables.set index { table with data := table.data.set offset value } })
      (hack : answer = ack)
  | codesCleared (hcmd : packet.cmd = .clearDtc) (h : r' = { r with dtcEntries := [] })
      (hack : answer = ack)

/-! ### The handlers, one by one -/

section Handlers

variable {P : Platform} {clock : Clock} {packet : Packet} {r r' : FirmwareRuntime} {answer : Packet}

/-- The commands that touch pages, pins, the update or the authentication leave the records
alone. -/
theorem Effect.sameRecords (he : Effect P clock packet r r' answer)
    (hcmd : packet.cmd.isCritical = true) : r.SameRecords r' := by
  cases he with
  | observed _ _ _ _ _ _ h =>
    rw [h] at hcmd
    cases hcmd
  | pageEncrypted pageId page ciphertext enc =>
    obtain ⟨store, next, heq⟩ := maybePersistPageCryptoCounter_eq (P := P)
      (r := { r with tuneEncryption := some enc.advanceNonce }) enc.advanceNonce.state.nonceCounter
    rw [heq]
    exact ⟨rfl, rfl, rfl, rfl⟩
  | blockAppended block =>
    obtain ⟨scratch, heq⟩ := appendFlashBlock_eq (P := P) (r := r) block
    rw [heq]
    exact ⟨rfl, rfl, rfl, rfl⟩
  | _ => exact ⟨rfl, rfl, rfl, rfl⟩

theorem resetLogbookCommand_activity (hcmd : packet.cmd = .resetLogbook) :
    Activity P packet r r.resetLogbookCommand.1 r.resetLogbookCommand.2 := by
  rw [resetLogbookCommand]
  split_ifs with hactive
  · exact .rejected (by rw [hcmd]; rfl) rfl rfl
  · exact .logbookReset hcmd (by simpa using hactive) rfl rfl

theorem syncRtcCommand_activity (hcmd : packet.cmd = .syncRtc) :
    Activity P packet r (r.syncRtcCommand packet.payload).1
      (r.syncRtcCommand packet.payload).2 := by
  rw [syncRtcCommand]
  split
  · exact .rejected (by rw [hcmd]; rfl) rfl rfl
  next epochMs hdec =>
  split_ifs with hrange
  · exact .rejected (by rw [hcmd]; rfl) rfl rfl
  · exact .rtcSynced epochMs hcmd hdec hrange rfl rfl

theorem runOutputTest_activity (hcmd : packet.cmd = .runOutputTest) :
    Activity P packet r (r.runOutputTest packet.payload).1
      (r.runOutputTest packet.payload).2 := by
  rw [runOutputTest]
  cases hcheck : r.checkOutputTest packet.payload with
  | error e => exact .rejected (by rw [hcmd]; rfl) rfl rfl
  | ok audit =>
    cases audit with
    | false => exact .outputTested false hcmd hcheck rfl rfl
    | true => exact .outputTested true hcmd hcheck rfl rfl

/-- A frame is put in the place of the table with its identifier, if that has the same size. -/
theorem writeTableFrame_ok {table : RawTablePayload} (h : r.writeTableFrame table = .ok r') :
    ∃ index current, r.tableIndex table.tableId = some index ∧
      r.tables[index]? = some current ∧ current.SameShape table ∧
      r' = { r with tables := r.tables.set index table } := by
  rw [writeTableFrame] at h
  split at h
  · cases h
  next index hindex =>
  obtain ⟨-, current, hcurrent, hid⟩ := List.getElem?_of_findIdx?_key hindex
  have hgetD : r.tables.getD index table = current := by
    rw [List.getD_eq_getElem?_getD, hcurrent]
    rfl
  rw [hgetD] at h
  dsimp only at h
  split_ifs at h with hsize
  simp only [ne_eq, not_or, not_not] at hsize
  obtain ⟨hxCount, hyCount, hxBins, hyBins, hdata⟩ := hsize
  exact ⟨index, current, hindex, hcurrent, ⟨hid.symm, hxCount, hyCount, hxBins, hyBins, hdata⟩,
    (Except.ok.inj h).symm⟩

theorem writeTableCommand_activity (hcmd : packet.cmd = .writeTable) :
    Activity P packet r (r.writeTableCommand packet.payload).1
      (r.writeTableCommand packet.payload).2 := by
  rw [writeTableCommand]
  split
  · exact .rejected (by rw [hcmd]; rfl) rfl rfl
  next table hdec =>
  split
  · exact .rejected (by rw [hcmd]; rfl) rfl rfl
  next hframe =>
  obtain ⟨index, current, hindex, hcurrent, hshape, heq⟩ := writeTableFrame_ok hframe
  exact .tableWritten index table current hcmd hdec hindex hcurrent hshape heq rfl

theorem writeCellCommand_activity (hcmd : packet.cmd = .writeCell) :
    Activity P packet r (r.writeCellCommand packet.payload).1
      (r.writeCellCommand packet.payload).2 := by
  rw [writeCellCommand]
  cases hcheck : r.checkWriteCell packet.payload with
  | error e => exact .rejected (by rw [hcmd]; rfl) rfl rfl
  | ok cell =>
    obtain ⟨index, table, offset, value⟩ := cell
    exact .cellWritten index offset table value hcmd hcheck rfl rfl

/-- **What a packet can do to the records**: dispatching it is one of the activities. -/
theorem dispatch_activity (A : Catalogue) (clock : Clock) (h : r.Sound P) :
    Activity P packet r (r.dispatch P A clock packet).1 (r.dispatch P A clock packet).2 := by
  have hcritical (hcmd : packet.cmd.isCritical = true)
      (hother : packet.cmd.isRecording = false) :
      Activity P packet r (r.dispatch P A clock packet).1 (r.dispatch P A clock packet).2 :=
    .other hother ((dispatch_effect A h).sameRecords hcmd)
  cases hcmd : packet.cmd
  case readPage | writePage | burnPage | pinAssign | enterBootloader | flashResume | flashBlock |
      flashVerify | flashComplete | confirmBootHealthy =>
    exact hcritical (by rw [hcmd]; rfl) (by rw [hcmd]; rfl)
  all_goals rw [dispatch, hcmd]
  case getLiveData => exact .sampled hcmd rfl rfl
  case logStart => exact .logStarted hcmd rfl rfl
  case logStop => exact .logStopped hcmd rfl rfl
  case resetLogbook => exact resetLogbookCommand_activity hcmd
  case syncRtc => exact syncRtcCommand_activity hcmd
  case writeTable => exact writeTableCommand_activity hcmd
  case writeCell => exact writeCellCommand_activity hcmd
  case clearDtc => exact .codesCleared hcmd rfl rfl
  case runOutputTest => exact runOutputTest_activity hcmd
  -- what is left are the queries and the commands that are not requests
  all_goals exact .other (by rw [hcmd]; rfl) ⟨rfl, rfl, rfl, rfl⟩

end Handlers

end FirmwareRuntime

/-- **What a step can do to the records.** The tick before the command touches none of them. -/
theorem step_activity {P : Platform} {A : Catalogue} {t : Step} (ht : (firmware P A).Step t)
    (h : t.src.Sound P) :
    FirmwareRuntime.Activity P t.event.packet
      (t.src.tickUpdateHealthWindow t.event.clock.tick) t.dst t.output := by
  have hactivity : FirmwareRuntime.Activity P t.event.packet _ _ _ :=
    FirmwareRuntime.dispatch_activity A t.event.clock (h.tick t.event.clock.tick)
  have heq := step_iff.mp ht
  rw [FirmwareRuntime.handlePacket] at heq
  rwa [heq] at hactivity

end StEcu
