import StEcu.Foundation.Blocks
import StEcu.Transport.Activity

/-!
# Reading back a log session

The bytes of a log session, from the last start or the last reset on: a header, then one line for
each live sample that was taken while the log was active. The blocks of the log are these bytes cut
to size, and the host reads them back one by one. Their number is a 16-bit number, so that a session
of more than 65535 blocks cannot be read back.

## Main definitions

* `Step.logged`, `loggedBytes`: the bytes that the steps of a run logged.
* `DataLog.Holds`: the log holds a stream of bytes.
* `FirmwareRuntime.ReadsBack`: reading every block returns a stream of bytes.

## Main results

* `run_log_holds`: after every run the log holds the bytes logged.
* `log_reads_back_iff`: they are read back if and only if they fit into 65535 blocks.
-/

namespace StEcu

/-! ### What the log holds -/

namespace DataLog

/-- The log holds a stream: its blocks are the stream cut to size, the staging block being the rest
of an active session, and the last block the rest of one that was stopped. -/
structure Holds (log : DataLog) (stream : Bytes) : Prop where
  blockSize : log.blockSize = logBlockSizeBytes
  written : stream.length < 2 ^ 32 → log.bytesWritten.toNat = stream.length
  content : ∃ blocks rest, Blocked 256 blocks rest ∧ blocks.flatten ++ rest = stream ∧
    (log.active = true → log.blocks = blocks ∧ log.stagingBlock = rest) ∧
    (log.active = false → log.blocks = pieces blocks rest ∧ log.stagingBlock = [])

variable {log : DataLog} {stream : Bytes}

/-- Only some of the fields matter. -/
theorem Holds.congr (h : log.Holds stream) {log' : DataLog} (hsize : log'.blockSize = log.blockSize)
    (hwritten : log'.bytesWritten = log.bytesWritten) (hactive : log'.active = log.active)
    (hblocks : log'.blocks = log.blocks) (hstaging : log'.stagingBlock = log.stagingBlock) :
    log'.Holds stream :=
  ⟨by rw [hsize, h.blockSize], by rw [hwritten]; exact h.written,
    by rw [hactive, hblocks, hstaging]; exact h.content⟩

/-- A log without blocks holds nothing. -/
theorem holds_nil (hsize : log.blockSize = logBlockSizeBytes) (hwritten : log.bytesWritten = 0)
    (hblocks : log.blocks = []) (hstaging : log.stagingBlock = []) : log.Holds [] where
  blockSize := hsize
  written _ := by rw [hwritten]; rfl
  content := ⟨[], [], .nil (by decide), rfl, fun _ => ⟨hblocks, hstaging⟩,
    fun _ => ⟨hblocks, hstaging⟩⟩

/-- One byte more in an active session. -/
theorem pushLogByte_spec (hsize : log.blockSize = logBlockSizeBytes)
    (h : Blocked 256 log.blocks log.stagingBlock) (byte : UInt8) :
    Blocked 256 (log.pushLogByte byte).blocks (log.pushLogByte byte).stagingBlock ∧
      (log.pushLogByte byte).blocks.flatten ++ (log.pushLogByte byte).stagingBlock =
        log.blocks.flatten ++ log.stagingBlock ++ [byte] ∧
      (log.pushLogByte byte).blockSize = logBlockSizeBytes ∧
      (log.pushLogByte byte).active = log.active ∧
      (log.pushLogByte byte).bytesWritten = log.bytesWritten := by
  have hmax : (max log.blockSize 1).toNat = 256 := by
    rw [hsize]
    rfl
  rw [pushLogByte, hmax]
  split_ifs with hfull
  · refine ⟨h.push_full byte hfull, ?_, hsize, rfl, rfl⟩
    simp
  · refine ⟨h.push byte hfull, ?_, hsize, rfl, rfl⟩
    simp

theorem foldl_pushLogByte_spec (bytes : Bytes) (hsize : log.blockSize = logBlockSizeBytes)
    (h : Blocked 256 log.blocks log.stagingBlock) :
    Blocked 256 (bytes.foldl pushLogByte log).blocks (bytes.foldl pushLogByte log).stagingBlock ∧
      (bytes.foldl pushLogByte log).blocks.flatten ++ (bytes.foldl pushLogByte log).stagingBlock =
        log.blocks.flatten ++ log.stagingBlock ++ bytes ∧
      (bytes.foldl pushLogByte log).blockSize = logBlockSizeBytes ∧
      (bytes.foldl pushLogByte log).active = log.active ∧
      (bytes.foldl pushLogByte log).bytesWritten = log.bytesWritten := by
  induction bytes generalizing log with
  | nil => exact ⟨h, (List.append_nil _).symm, hsize, rfl, rfl⟩
  | cons byte bytes ih =>
    obtain ⟨hblocked, hstream, hsize', hactive, hwritten⟩ := pushLogByte_spec hsize h byte
    obtain ⟨hblocked', hstream', hsize'', hactive', hwritten'⟩ := ih hsize' hblocked
    rw [List.foldl_cons]
    refine ⟨hblocked', ?_, hsize'', hactive'.trans hactive, hwritten'.trans hwritten⟩
    rw [hstream', hstream, List.append_assoc, List.singleton_append]

/-- Appending to an active session. -/
theorem Holds.appendLogBytes (h : log.Holds stream) (hactive : log.active = true) (nowMs : UInt32)
    (bytes : Bytes) : (log.appendLogBytes nowMs bytes).Holds (stream ++ bytes) ∧
      (log.appendLogBytes nowMs bytes).active = true := by
  obtain ⟨blocks, rest, hblocked, rfl, hopen, -⟩ := h.content
  obtain ⟨rfl, rfl⟩ := hopen hactive
  by_cases hempty : bytes = []
  · subst hempty
    rw [DataLog.appendLogBytes, if_pos (by simp), List.append_nil]
    exact ⟨h, hactive⟩
  · rw [DataLog.appendLogBytes, if_neg (by simp [hactive, hempty])]
    dsimp only
    generalize hcounted : ({ log with
      bytesWritten := log.bytesWritten.saturatingAdd (UInt32.ofNat bytes.length) } : DataLog) =
        counted
    have hblocked' : Blocked 256 counted.blocks counted.stagingBlock := by rwa [← hcounted]
    have hsize' : counted.blockSize = logBlockSizeBytes := by rw [← hcounted, h.blockSize]
    obtain ⟨hfinal, hstream, hsize, hact, hwritten⟩ := foldl_pushLogByte_spec bytes hsize' hblocked'
    have hactive' : (bytes.foldl pushLogByte counted).active = true := by
      rw [hact, ← hcounted, hactive]
    refine ⟨⟨hsize, fun hlen => ?_, _, _, hfinal, ?_, fun _ => ⟨rfl, rfl⟩, fun hoff => ?_⟩,
      hactive'⟩
    · rw [List.length_append] at hlen ⊢
      change (bytes.foldl pushLogByte counted).bytesWritten.toNat = _
      rw [hwritten, ← hcounted, UInt32.toNat_saturatingAdd, h.written (by omega),
        UInt32.toNat_ofNat', Nat.mod_eq_of_lt (by omega)]
      omega
    · rw [hstream, ← hcounted]
    · rw [show _ = true from hactive'] at hoff
      cases hoff

theorem Holds.appendLogSample (h : log.Holds stream) (P : Platform) (nowMs : UInt32)
    (frame : LiveDataFrame) : (log.appendLogSample P nowMs frame).Holds
      (if log.active then stream ++ utf8 (logSampleLine P frame) else stream) := by
  rw [DataLog.appendLogSample]
  cases hactive : log.active with
  | false => exact h
  | true => exact (h.appendLogBytes hactive nowMs _).1

/-- The header of the session that a start opens. -/
def header (log : DataLog) (nowMs : UInt32) : String :=
  "session=" ++ toString (if log.sessionId + 1 = 0 then 1 else log.sessionId + 1).toNat ++
    " start_ms=" ++ toString nowMs.toNat ++ "\n"

theorem Holds.start (h : log.Holds stream) (sampleCounter nowMs : UInt32) :
    (log.start sampleCounter nowMs).Holds (utf8 (log.header nowMs)) ∧
      (log.start sampleCounter nowMs).active = true := by
  have hcleared : ({ log with
      active := true
      sessionId := if log.sessionId + 1 = 0 then 1 else log.sessionId + 1
      startedSampleCounter := sampleCounter
      elapsedMsLatched := 0
      bytesWritten := 0
      blocks := []
      stagingBlock := [] } : DataLog).Holds [] := holds_nil h.blockSize rfl rfl rfl
  exact hcleared.appendLogBytes rfl nowMs (utf8 (log.header nowMs))

theorem Holds.stop (h : log.Holds stream) (nowMs : UInt32) : (log.stop nowMs).Holds stream := by
  rw [DataLog.stop]
  cases hactive : log.active with
  | false => exact h
  | true =>
    obtain ⟨blocks, rest, hblocked, hstream, hopen, -⟩ := h.content
    obtain ⟨rfl, rfl⟩ := hopen hactive
    rw [if_neg (by simp)]
    dsimp only
    by_cases hrest : log.stagingBlock = []
    · rw [if_pos (by simpa using hrest)]
      exact ⟨h.blockSize, h.written, _, _, hblocked, hstream, fun hon => (nomatch hon),
        fun _ => ⟨by rw [hrest, pieces_nil_right], hrest⟩⟩
    · rw [if_neg (by simpa using hrest)]
      exact ⟨h.blockSize, h.written, _, _, hblocked, hstream, fun hon => (nomatch hon),
        fun _ => ⟨(pieces_of_ne _ hrest).symm, rfl⟩⟩

theorem Holds.resetLogbook (h : log.Holds stream) : log.resetLogbook.Holds [] :=
  holds_nil h.blockSize rfl rfl rfl

/-! ### Reading it -/

/-- The blocks that can be read: the finished ones, and the staging block of an active session. -/
def visibleBlocks (log : DataLog) : List Bytes :=
  pieces log.blocks (if log.active then log.stagingBlock else [])

theorem readLogBlock_eq (log : DataLog) (i : ℕ) : log.readLogBlock i = log.visibleBlocks[i]? := by
  rw [readLogBlock, visibleBlocks]
  by_cases hstaged : log.active = true ∧ log.stagingBlock ≠ []
  · obtain ⟨hactive, hne⟩ := hstaged
    rw [if_pos hactive, pieces_of_ne _ hne, List.getElem?_append]
    split_ifs with hi hlast
    · rfl
    · obtain rfl : i = log.blocks.length := by simpa [hactive, hne] using hlast
      rw [Nat.sub_self]
      rfl
    · have hne' : i ≠ log.blocks.length := by simpa [hactive, hne] using hlast
      exact (List.getElem?_eq_none (by rw [List.length_singleton]; omega)).symm
  · have hrest : (if log.active then log.stagingBlock else []) = [] := by
      split_ifs with hactive
      · exact not_not.mp fun hne => hstaged ⟨hactive, hne⟩
      · rfl
    rw [hrest, pieces_nil_right]
    split_ifs with hi hlast
    · rfl
    · simp only [Bool.and_eq_true, Bool.not_eq_true', List.isEmpty_eq_false_iff] at hlast
      exact absurd ⟨hlast.1.1, hlast.2⟩ hstaged
    · exact (List.getElem?_eq_none (Nat.le_of_not_lt hi)).symm

/-- The number of blocks as the log reports it, up to 65535 of them. -/
theorem toNat_currentLogBlockCount (log : DataLog) (h : log.visibleBlocks.length ≤ 65535) :
    log.currentLogBlockCount.toNat = log.visibleBlocks.length := by
  rw [visibleBlocks] at h ⊢
  rw [currentLogBlockCount]
  by_cases hstaged : log.active = true ∧ log.stagingBlock ≠ []
  · obtain ⟨hactive, hne⟩ := hstaged
    rw [if_pos hactive, pieces_of_ne _ hne, List.length_append, List.length_singleton] at h ⊢
    rw [if_pos (by simp [hactive, hne]), UInt16.toNat_saturatingAdd, UInt16.toNat_ofNat',
      Nat.mod_eq_of_lt (by omega)]
    change min (log.blocks.length + 1) 0xFFFF = _
    omega
  · have hrest : (if log.active then log.stagingBlock else []) = [] := by
      split_ifs with hactive
      · exact not_not.mp fun hne => hstaged ⟨hactive, hne⟩
      · rfl
    rw [hrest, pieces_nil_right] at h ⊢
    rw [if_neg (by simpa using hstaged), UInt16.toNat_ofNat', Nat.mod_eq_of_lt (by omega)]

theorem Holds.visibleBlocks_eq (h : log.Holds stream) : ∃ blocks rest, Blocked 256 blocks rest ∧
    blocks.flatten ++ rest = stream ∧ log.visibleBlocks = pieces blocks rest := by
  obtain ⟨blocks, rest, hblocked, hstream, hopen, hclosed⟩ := h.content
  refine ⟨blocks, rest, hblocked, hstream, ?_⟩
  rw [visibleBlocks]
  cases hactive : log.active with
  | false =>
    obtain ⟨hblocks, -⟩ := hclosed hactive
    rw [hblocks, if_neg (by decide), pieces_nil_right]
  | true =>
    obtain ⟨hblocks, hstaging⟩ := hopen hactive
    rw [hblocks, hstaging, if_pos rfl]

end DataLog

/-! ### Steps and runs -/

/-- The bytes logged since the last start or reset, after one more step: a header, a line for a live
sample of an active session, or none any more. -/
def Step.logged (P : Platform) (stream : Bytes) (t : Step) : Bytes :=
  match t.event.packet.cmd with
  | .logStart => utf8 (t.src.log.header t.src.live.currentRuntimeMs)
  | .resetLogbook => if t.output.cmd = .ack then [] else stream
  | .getLiveData =>
    if t.src.log.active then stream ++ utf8 (DataLog.logSampleLine P (t.src.sampleLiveData P).2)
    else stream
  | _ => stream

/-- The bytes logged since the later of the last start and the last reset of a run. -/
def loggedBytes (P : Platform) (tr : List Step) : Bytes := tr.foldl (Step.logged P) []

variable {P : Platform} {A : Catalogue}

/-- **What a step does to the log.** -/
theorem step_log_holds {t : Step} (ht : (firmware P A).Step t) (hs : t.src.Sound P)
    {stream : Bytes} (h : t.src.log.Holds stream) : t.dst.log.Holds (t.logged P stream) := by
  rw [Step.logged]
  cases step_activity ht hs with
  | other hcmd hsame =>
    rw [hsame.log_eq]
    cases hcase : t.event.packet.cmd
    all_goals first | exact h | rw [hcase] at hcmd; cases hcmd
  | rejected hcmd hnack hdst =>
    rw [hdst, hnack]
    cases hcase : t.event.packet.cmd
    all_goals first | exact h | rw [hcase] at hcmd; cases hcmd
  | sampled hcmd hdst =>
    rw [hcmd, hdst]
    exact h.appendLogSample P _ _
  | logStarted hcmd hdst =>
    rw [hcmd, hdst]
    exact (h.start _ _).1
  | logStopped hcmd hdst =>
    rw [hcmd, hdst]
    exact h.stop _
  | logbookReset hcmd hactive hdst hack =>
    rw [hcmd, hdst, hack]
    exact h.resetLogbook
  | rtcSynced epochMs hcmd _ _ hdst =>
    -- the clock of the log is no part of what it holds
    rw [hcmd, hdst]
    exact h.congr rfl rfl rfl rfl rfl
  | outputTested audit hcmd _ hdst =>
    -- nor are its audit markers
    rw [hcmd, hdst]
    cases audit with
    | false => exact h
    | true => exact h.congr rfl rfl rfl rfl rfl
  | tableWritten _ _ _ hcmd _ _ _ _ hdst | cellWritten _ _ _ _ hcmd _ hdst
  | codesCleared hcmd hdst =>
    rw [hcmd, hdst]
    exact h

/-- **After every run the log holds the bytes logged.** -/
theorem run_log_holds {r₀ r : FirmwareRuntime} {tr : List Step} (hrun : (firmware P A).Run r₀ tr r)
    (hs : r₀.Sound P) (h₀ : r₀.log.Holds []) : r.log.Holds (loggedBytes P tr) := by
  induction hrun with
  | nil => exact h₀
  | snoc hprefix hstep ih =>
    rw [loggedBytes, List.foldl_append]
    exact step_log_holds hstep (run_sound hprefix hs) ih

/-! ### Reading it back -/

/-- The number of blocks that the log reports. -/
def FirmwareRuntime.totalBlocks (r : FirmwareRuntime) : UInt16 := r.log.currentLogBlockCount

/-- A request for each block of the log in turn. -/
def FirmwareRuntime.blockRequests (r : FirmwareRuntime) : List Packet :=
  (List.range r.totalBlocks.toNat).map fun i => ⟨.readLogBlock, u16ToBe (UInt16.ofNat i)⟩

/-- The answer with a block of the log. -/
def logBlockData (P : Platform) (totalBlocks : UInt16) (i : ℕ) (block : Bytes) : Packet :=
  ⟨.logBlockData, encodeLogBlockPayload P (UInt16.ofNat i) totalBlocks block⟩

/-- Reading back a stream: asking for every block of the log, one after the other, is answered with
blocks that make up the stream, all but the last of the block size, and the log status reports the
length of the stream. -/
def FirmwareRuntime.ReadsBack (P : Platform) (A : Catalogue) (r : FirmwareRuntime)
    (stream : Bytes) : Prop :=
  (∀ inputs : List Input, inputs.map Input.packet = r.blockRequests → ∃ blocks : List Bytes,
    (TransitionSystem.trace (handle P A) r inputs).map Transition.output =
      blocks.mapIdx (logBlockData P r.totalBlocks) ∧
    blocks.flatten = stream ∧
    ∀ b ∈ blocks.dropLast, b.length = logBlockSizeBytes.toNat) ∧
  ∀ clock payload, ∃ status : LogStatusPayload,
    (r.handlePacket P A clock ⟨.logStatus, payload⟩).2 =
      ⟨.logStatusResponse, encodeLogStatusPayload status⟩ ∧
    status.bytesWritten.toNat = stream.length

namespace FirmwareRuntime

variable {r : FirmwareRuntime}

/-- The answer to a request for a block that there is. -/
theorem readLogBlockAnswer_eq {i : ℕ} (hi : i < r.totalBlocks.toNat) {block : Bytes}
    (hblock : r.log.visibleBlocks[i]? = some block) :
    r.readLogBlockAnswer P (u16ToBe (UInt16.ofNat i)) = logBlockData P r.totalBlocks i block := by
  have hsmall : i < 65536 := hi.trans (UInt16.toNat_lt _)
  have hnat : (UInt16.ofNat i).toNat = i := by
    rw [UInt16.toNat_ofNat', Nat.mod_eq_of_lt hsmall]
  have hlt : ¬ r.log.currentLogBlockCount ≤ UInt16.ofNat i := by
    rw [UInt16.not_le, UInt16.lt_iff_toNat_lt, hnat]
    exact hi
  rw [readLogBlockAnswer, if_neg (by simp)]
  simp only [u16OfBe_u16ToBe, if_neg hlt, hnat, DataLog.readLogBlock_eq, hblock]
  rfl

/-- Asking for blocks one after the other is answered from the log as it was. -/
theorem outputs_readLogBlock (inputs : List Input) (payloads : List Bytes)
    (h : inputs.map Input.packet = payloads.map fun payload => ⟨.readLogBlock, payload⟩) :
    (TransitionSystem.trace (handle P A) r inputs).map Transition.output =
      payloads.map (r.readLogBlockAnswer P) := by
  induction inputs generalizing r payloads with
  | nil =>
    cases payloads with
    | nil => rfl
    | cons payload payloads => cases h
  | cons input inputs ih =>
    cases payloads with
    | nil => cases h
    | cons payload payloads =>
      rw [List.map_cons, List.map_cons, List.cons.injEq] at h
      obtain ⟨hpacket, hrest⟩ := h
      have hstep : handle P A r input = (r.tickUpdateHealthWindow input.clock.tick,
          r.readLogBlockAnswer P payload) := by
        rw [handle, hpacket]
        rfl
      rw [TransitionSystem.trace, hstep, List.map_cons, List.map_cons, ih payloads hrest]
      rfl

/-- The answers determine the blocks. -/
theorem eq_of_mapIdx_logBlockData {totalBlocks : UInt16} {blocks blocks' : List Bytes}
    (h : blocks.mapIdx (logBlockData P totalBlocks) = blocks'.mapIdx (logBlockData P totalBlocks)) :
    blocks = blocks' := by
  have hdata : ∀ l : List Bytes, (l.mapIdx (logBlockData P totalBlocks)).map
      (fun answer => answer.payload.drop 10) = l := by
    intro l
    refine List.ext_getElem (by simp) fun i _ _ => ?_
    rw [List.getElem_map, List.getElem_mapIdx]
    rfl
  rw [← hdata blocks, h, hdata]

/-- The blocks that are read back are the first ones, as many as the log reports. -/
theorem outputs_blockRequests (inputs : List Input)
    (h : inputs.map Input.packet = r.blockRequests)
    (hcount : r.totalBlocks.toNat ≤ r.log.visibleBlocks.length) :
    (TransitionSystem.trace (handle P A) r inputs).map Transition.output =
      (r.log.visibleBlocks.take r.totalBlocks.toNat).mapIdx (logBlockData P r.totalBlocks) := by
  rw [outputs_readLogBlock (A := A) inputs
    ((List.range r.totalBlocks.toNat).map fun i => u16ToBe (UInt16.ofNat i))
    (by rw [h, blockRequests, List.map_map]; rfl), List.map_map]
  refine List.ext_getElem (by simp [hcount]) fun i hi _ => ?_
  rw [List.length_map, List.length_range] at hi
  rw [List.getElem_map, List.getElem_range, List.getElem_mapIdx, List.getElem_take]
  exact readLogBlockAnswer_eq hi (List.getElem?_eq_getElem _)

/-- A stream of less than 4 GiB that the log holds is read back if and only if it fits into 65535
blocks. -/
theorem readsBack_iff {stream : Bytes} (h : r.log.Holds stream) (hsize : stream.length < 2 ^ 32) :
    r.ReadsBack P A stream ↔ stream.length ≤ 65535 * 256 := by
  obtain ⟨blocks, rest, hblocked, hstream, hvisible⟩ := h.visibleBlocks_eq
  have hlength := hblocked.length_pieces_le_iff 65535
  rw [hstream, ← hvisible] at hlength
  have htake := hblocked.flatten_take_eq_iff r.totalBlocks.toNat
  rw [hstream, ← hvisible] at htake
  have hle : r.totalBlocks.toNat ≤ 65535 := Nat.le_of_lt_succ (UInt16.toNat_lt _)
  rw [← hlength]
  constructor
  · intro hreads
    by_contra hmany
    -- all blocks that the log reports, read at any times
    obtain ⟨blocks', houtputs, hflatten, -⟩ := hreads.1
      (r.blockRequests.map fun packet => ⟨⟨0, 0, none⟩, packet⟩) (by simp [Function.comp_def])
    rw [outputs_blockRequests _ (by simp [Function.comp_def]) (by omega)] at houtputs
    rw [← eq_of_mapIdx_logBlockData houtputs, htake] at hflatten
    omega
  · intro hfew
    have hcount : r.totalBlocks.toNat = r.log.visibleBlocks.length :=
      r.log.toNat_currentLogBlockCount hfew
    refine ⟨fun inputs hinputs => ⟨r.log.visibleBlocks, ?_, ?_, fun b hb => ?_⟩,
      fun clock payload => ⟨_, rfl, h.written hsize⟩⟩
    · rw [outputs_blockRequests inputs hinputs hcount.le, hcount, List.take_length]
    · rw [hvisible, flatten_pieces, hstream]
    · rw [hvisible] at hb
      exact hblocked.length_of_mem_dropLast hb

end FirmwareRuntime

theorem log_holds_of_run {identity : FirmwareIdentity} {simulator : Bool} {s : ConfigStore}
    {r₀ r : FirmwareRuntime} {tr : List Step} (hs : ReachableStore P A s)
    (hboot : FirmwareRuntime.newWithStore P identity simulator s = some r₀)
    (hrun : (firmware P A).Run r₀ tr r) : r.log.Holds (loggedBytes P tr) := by
  refine run_log_holds hrun (FirmwareRuntime.booted_of_newWithStore hs.wellFormed hboot).sound ?_
  rw [(FirmwareRuntime.fresh_of_newWithStore hboot).2.1]
  exact DataLog.holds_nil rfl rfl rfl rfl

/-- **A log session can be read back if and only if it fits into 65535 blocks.** After every run,
the bytes logged since the later of the last start and the last reset, if less than 4 GiB, are what
reading every block returns, exactly where they are at most 65535 * 256. -/
theorem log_reads_back_iff {identity : FirmwareIdentity} {simulator : Bool} {s : ConfigStore}
    {r₀ r : FirmwareRuntime} {tr : List Step} (hs : ReachableStore P A s)
    (hboot : FirmwareRuntime.newWithStore P identity simulator s = some r₀)
    (hrun : (firmware P A).Run r₀ tr r) (hsize : (loggedBytes P tr).length < 2 ^ 32) :
    r.ReadsBack P A (loggedBytes P tr) ↔ (loggedBytes P tr).length ≤ 65535 * 256 :=
  FirmwareRuntime.readsBack_iff (log_holds_of_run hs hboot hrun) hsize

theorem DataLog.length_header_le (log : DataLog) (nowMs : UInt32) :
    (utf8 (log.header nowMs)).length ≤ 100 := by
  have hid := length_utf8_toString_le (k := 10) (by decide)
    ((UInt32.toNat_lt (if log.sessionId + 1 = 0 then 1 else log.sessionId + 1)).trans (by decide))
  have hms := length_utf8_toString_le (k := 10) (by decide)
    ((UInt32.toNat_lt nowMs).trans (by decide))
  have hsession : (utf8 "session=").length = 8 := rfl
  have hstart : (utf8 " start_ms=").length = 10 := rfl
  have hend : (utf8 "\n").length = 1 := rfl
  simp only [header, length_utf8_append, hsession, hstart, hend]
  omega

end StEcu
