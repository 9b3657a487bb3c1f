import StEcu.Transport.Activity
import StEcu.Transport.Reference

/-!
# The calibration tables of a runtime

A runtime has one table for each entry of the table directory, of the size that the entry gives.
A frame written as a whole takes the place of the table with its identifier, if it has the same
size; a written cell changes one word of one table. No other command changes a table.

## Main definitions

* `RawTablePayload.Fits`: the size of a table is the one of its directory entry.
* `FirmwareRuntime.table?`, `FirmwareRuntime.cell?`: the table of an identifier, and its cells.
* `Step.WritesTable`, `Step.WritesCell`: what an acknowledged write does.

## Main results

* `Reachable.hasTables`: a board always has its tables.
* `calibration_tables_spec`: the tables of a board, and what writing them does.
-/

namespace StEcu

/-! ### The frame of a table -/

/-- Words whose bytes are there, and the bytes that follow them. -/
theorem readWords_spec (count : ℕ) (bs : Bytes) (h : count * 2 ≤ bs.length) :
    (readWords count bs).1.length = count ∧
      (readWords count bs).1.flatMap u16ToBe ++ (readWords count bs).2 = bs ∧
      (readWords count bs).2.length + count * 2 = bs.length := by
  induction count generalizing bs with
  | zero => exact ⟨rfl, rfl, rfl⟩
  | succ count ih =>
    obtain ⟨hlength, hbytes, hrest⟩ := ih (bs.drop 2) (by rw [List.length_drop]; omega)
    have hword : u16ToBe (u16OfBe (bs.take 2)) = bs.take 2 :=
      u16ToBe_u16OfBe (by rw [List.length_take]; omega)
    rw [readWords]
    refine ⟨congrArg Nat.succ hlength, ?_, ?_⟩
    · rw [List.flatMap_cons, List.append_assoc, hbytes, hword, List.take_append_drop]
    · rw [List.length_drop] at hrest
      dsimp only
      omega

/-- A frame that is accepted is of the size it announces, and is what the table is sent as. -/
theorem decodeRawTablePayload_ok {payload : Bytes} {table : RawTablePayload}
    (h : decodeRawTablePayload payload = .ok table) :
    table.toPayload = payload ∧ table.xBins.length = table.xCount.toNat ∧
      table.yBins.length = table.yCount.toNat ∧
      table.data.length = table.xCount.toNat * table.yCount.toNat := by
  match payload, h with
  | tableId :: xCount :: yCount :: body, h =>
    rw [decodeRawTablePayload] at h
    dsimp only at h
    split_ifs at h with hlen
    simp only [List.length_cons] at hlen
    obtain ⟨hx, hxs, hbody⟩ := readWords_spec xCount.toNat body (by omega)
    obtain ⟨hy, hys, hbody'⟩ := readWords_spec yCount.toNat (readWords xCount.toNat body).2
      (by omega)
    obtain ⟨hd, hds, hrest⟩ := readWords_spec (xCount.toNat * yCount.toNat)
      (readWords yCount.toNat (readWords xCount.toNat body).2).2 (by omega)
    obtain rfl := Except.ok.inj h
    refine ⟨?_, hx, hy, hd⟩
    have hnil := List.length_eq_zero_iff.mp (show (readWords (xCount.toNat * yCount.toNat)
      (readWords yCount.toNat (readWords xCount.toNat body).2).2).2.length = 0 by omega)
    rw [hnil, List.append_nil] at hds
    rw [RawTablePayload.toPayload, hds, List.append_assoc, hys, List.append_assoc, hxs]
    rfl

/-! ### Tables and cells -/

namespace RawTablePayload

/-- The size of a table is the one of its directory entry. -/
structure Fits (table : RawTablePayload) (entry : TableDirectoryEntry) : Prop where
  tableId_eq : table.tableId = entry.id
  xCount_eq : table.xCount = entry.xCount
  yCount_eq : table.yCount = entry.yCount
  length_xBins : table.xBins.length = entry.xCount.toNat
  length_yBins : table.yBins.length = entry.yCount.toNat
  length_data : table.data.length = entry.xCount.toNat * entry.yCount.toNat

variable {table table' : RawTablePayload} {entry : TableDirectoryEntry}

theorem Fits.congr (h : table.Fits entry) (hs : table.SameShape table') : table'.Fits entry where
  tableId_eq := hs.tableId_eq.trans h.tableId_eq
  xCount_eq := hs.xCount_eq.trans h.xCount_eq
  yCount_eq := hs.yCount_eq.trans h.yCount_eq
  length_xBins := hs.length_xBins.trans h.length_xBins
  length_yBins := hs.length_yBins.trans h.length_yBins
  length_data := hs.length_data.trans h.length_data

/-- The table with one word of its data replaced. -/
def setData (table : RawTablePayload) (offset : ℕ) (value : UInt16) : RawTablePayload :=
  { table with data := table.data.set offset value }

/-- All of a table but its data. -/
def axes (table : RawTablePayload) : RawTablePayload := { table with data := [] }

theorem sameShape_setData (table : RawTablePayload) (offset : ℕ) (value : UInt16) :
    table.SameShape (table.setData offset value) :=
  ⟨rfl, rfl, rfl, rfl, rfl, List.length_set⟩

/-- The cell in column `x` and row `y`. -/
def cell? (table : RawTablePayload) (x y : ℕ) : Option UInt16 :=
  if x < table.xCount.toNat ∧ y < table.yCount.toNat then
    table.data[rowMajor table.xCount.toNat x y]?
  else none

/-- The cells of a table of the right size are inside its data. -/
theorem Fits.offset_lt (h : table.Fits entry) {x y : ℕ} (hx : x < table.xCount.toNat)
    (hy : y < table.yCount.toNat) : rowMajor table.xCount.toNat x y < table.data.length := by
  rw [h.length_data, ← h.xCount_eq, ← h.yCount_eq]
  exact rowMajor_lt hx hy

theorem Fits.cell?_setData_self (h : table.Fits entry) {x y : ℕ} (hx : x < table.xCount.toNat)
    (hy : y < table.yCount.toNat) (value : UInt16) :
    (table.setData (rowMajor table.xCount.toNat x y) value).cell? x y = some value :=
  (if_pos ⟨hx, hy⟩).trans (List.getElem?_set_self (h.offset_lt hx hy))

theorem cell?_setData_of_ne {x y x' y' : ℕ} (hx : x < table.xCount.toNat) (value : UInt16)
    (hne : (x', y') ≠ (x, y)) :
    (table.setData (rowMajor table.xCount.toNat x y) value).cell? x' y' = table.cell? x' y' := by
  unfold cell?
  split_ifs with hin hin' hin'
  · refine List.getElem?_set_ne fun heq => hne ?_
    obtain ⟨rfl, rfl⟩ := rowMajor_inj hx hin.1 heq
    rfl
  · exact absurd hin hin'
  · exact absurd hin' hin
  · rfl

end RawTablePayload

namespace FirmwareRuntime

/-- The table with an identifier. -/
def table? (r : FirmwareRuntime) (tableId : UInt8) : Option RawTablePayload :=
  r.tables.find? fun table => table.tableId == tableId

/-- A cell of the table with an identifier. -/
def cell? (r : FirmwareRuntime) (tableId : UInt8) (x y : ℕ) : Option UInt16 :=
  (r.table? tableId).bind fun table => table.cell? x y

variable {r : FirmwareRuntime} {payload : Bytes}

theorem readTableAnswer_eq {tableId : UInt8} {table : RawTablePayload}
    (h : r.table? tableId = some table) (rest : Bytes) :
    r.readTableAnswer (tableId :: rest) = ⟨.tableData, table.toPayload⟩ := by
  have hfind : r.tables.find? (fun table => table.tableId == tableId) = some table := h
  simp only [readTableAnswer, List.head?_cons, hfind]

/-- A write-cell payload that is accepted names a table, a cell inside it, and the value. -/
theorem checkWriteCell_ok {index offset : ℕ} {table : RawTablePayload} {value : UInt16}
    (h : r.checkWriteCell payload = .ok (index, table, offset, value)) : ∃ x y : UInt8,
      payload = [table.tableId, x, y] ++ u16ToBe value ∧
      r.tableIndex table.tableId = some index ∧ r.tables[index]? = some table ∧
      x.toNat < table.xCount.toNat ∧ y.toNat < table.yCount.toNat ∧
      offset = rowMajor table.xCount.toNat x.toNat y.toNat := by
  rw [checkWriteCell] at h
  split_ifs at h with hlen
  dsimp only at h
  split at h
  · cases h
  next i hi =>
  split at h
  · cases h
  next current hcurrent =>
  split_ifs at h with hbounds
  obtain ⟨rfl, rfl, rfl, rfl⟩ : i = index ∧ current = table ∧ _ = offset ∧ _ = value := by
    simpa using Except.ok.inj h
  obtain ⟨-, found, hfound, hid⟩ := List.getElem?_of_findIdx?_key hi
  obtain rfl := Option.some.inj (hfound.symm.trans hcurrent)
  rw [not_or, Nat.not_le, Nat.not_le] at hbounds
  refine ⟨payload.getD 1 0, payload.getD 2 0, ?_, hid ▸ hi, hcurrent, hbounds.1, hbounds.2, rfl⟩
  have hlen : payload.length = 5 := not_not.mp hlen
  have hvalue : u16ToBe (u16OfBe (slice payload 3 5)) = slice payload 3 5 :=
    u16ToBe_u16OfBe (length_slice (by omega))
  calc payload = payload.take 3 ++ slice payload 3 5 := by
        rw [take_append_slice payload (by omega), List.take_of_length_le (by omega)]
    _ = payload.take 0 ++ [payload.getD 0 0] ++ [payload.getD 1 0] ++ [payload.getD 2 0] ++
          slice payload 3 5 := by
        rw [take_append_getD payload (by omega), take_append_getD payload (by omega),
          take_append_getD payload (by omega)]
    _ = _ := by
        rw [hvalue, hid]
        rfl

/-- Every cell inside a table may be written. -/
theorem checkWriteCell_eq {index : ℕ} {table : RawTablePayload} {x y : UInt8}
    (hindex : r.tableIndex table.tableId = some index) (hcurrent : r.tables[index]? = some table)
    (hx : x.toNat < table.xCount.toNat) (hy : y.toNat < table.yCount.toNat) (value : UInt16) :
    r.checkWriteCell ([table.tableId, x, y] ++ u16ToBe value) =
      .ok (index, table, rowMajor table.xCount.toNat x.toNat y.toNat, value) := by
  have hvalue : u16OfBe (slice ([table.tableId, x, y] ++ u16ToBe value) 3 5) = value := by
    rw [slice, List.take_of_length_le (by simp)]
    exact u16OfBe_u16ToBe value
  rw [checkWriteCell, if_neg (by simp), hvalue]
  simp only [List.cons_append, List.nil_append, List.getD_cons_zero, List.getD_cons_succ, hindex,
    hcurrent]
  rw [if_neg (by omega)]
  rfl

theorem table?_of_tableIndex {index : ℕ} {tableId : UInt8} {table : RawTablePayload}
    (hindex : r.tableIndex tableId = some index) (hcurrent : r.tables[index]? = some table) :
    r.table? tableId = some table :=
  (List.getElem?_of_findIdx?_key hindex).1.symm.trans hcurrent

end FirmwareRuntime

variable {P : Platform} {A : Catalogue}

/-! ### The tables of a board -/

namespace FirmwareRuntime

/-- One table for each directory entry, of the size that the entry gives. -/
abbrev HasTables (r : FirmwareRuntime) : Prop :=
  List.Forall₂ RawTablePayload.Fits r.tables tableDirectory

variable {packet answer : Packet} {r r' : FirmwareRuntime}

/-- Only an acknowledged write changes a table. -/
theorem Activity.tables_eq (ha : Activity P packet r r' answer)
    (hkept : packet.cmd ≠ .writeTable ∧ packet.cmd ≠ .writeCell ∨ answer.cmd ≠ .ack) :
    r'.tables = r.tables := by
  cases ha with
  | other hcmd h => exact h.tables_eq
  | tableWritten _ _ _ hcmd _ _ _ _ _ hack =>
    rw [hcmd, hack] at hkept
    exact absurd hkept (by decide)
  | cellWritten _ _ _ _ hcmd _ _ hack =>
    rw [hcmd, hack] at hkept
    exact absurd hkept (by decide)
  | rejected _ _ h | sampled _ h | logStarted _ h | logStopped _ h | logbookReset _ _ h
  | rtcSynced _ _ _ _ h | outputTested _ _ _ h | codesCleared _ h =>
    rw [h]
    try rfl

/-- An acknowledged frame was put in the place of a table of the same size. -/
theorem Activity.exists_tableWritten (ha : Activity P packet r r' answer)
    (hcmd : packet.cmd = .writeTable) (hack : answer.cmd = .ack) : ∃ index table current,
      decodeRawTablePayload packet.payload = .ok table ∧
      r.tableIndex table.tableId = some index ∧ r.tables[index]? = some current ∧
      current.SameShape table ∧ r'.tables = r.tables.set index table := by
  cases ha with
  | tableWritten index table current _ hdec hindex hcurrent hshape h =>
    exact ⟨index, table, current, hdec, hindex, hcurrent, hshape, by rw [h]⟩
  | other hother => exact absurd (hcmd ▸ hother) (by decide)
  | rejected _ hnack => exact absurd (hack.symm.trans hnack) (by decide)
  | sampled h | logStarted h | logStopped h | logbookReset h | rtcSynced _ h | outputTested _ h
  | cellWritten _ _ _ _ h | codesCleared h => exact absurd (hcmd.symm.trans h) (by decide)

/-- An acknowledged cell was written. -/
theorem Activity.exists_cellWritten (ha : Activity P packet r r' answer)
    (hcmd : packet.cmd = .writeCell) (hack : answer.cmd = .ack) : ∃ index table offset value,
      r.checkWriteCell packet.payload = .ok (index, table, offset, value) ∧
      r'.tables = r.tables.set index (table.setData offset value) := by
  cases ha with
  | cellWritten index offset table value _ hcheck h =>
    exact ⟨index, table, offset, value, hcheck, by rw [h]; rfl⟩
  | other hother => exact absurd (hcmd ▸ hother) (by decide)
  | rejected _ hnack => exact absurd (hack.symm.trans hnack) (by decide)
  | sampled h | logStarted h | logStopped h | logbookReset h | rtcSynced _ h | outputTested _ h
  | tableWritten _ _ _ h | codesCleared h => exact absurd (hcmd.symm.trans h) (by decide)

theorem Activity.hasTables (ha : Activity P packet r r' answer) (h : r.HasTables) :
    r'.HasTables := by
  rw [HasTables]
  by_cases hkept : packet.cmd ≠ .writeTable ∧ packet.cmd ≠ .writeCell ∨ answer.cmd ≠ .ack
  · rw [ha.tables_eq hkept]
    exact h
  · obtain ⟨hcmd, hack⟩ := not_or.mp hkept
    rw [not_and_or, not_not, not_not] at hcmd
    rcases hcmd with hcmd | hcmd
    · obtain ⟨index, table, current, -, -, hcurrent, hshape, heq⟩ :=
        ha.exists_tableWritten hcmd (not_not.mp hack)
      rw [heq]
      exact h.set hcurrent fun _ hfits => hfits.congr hshape
    · obtain ⟨index, table, offset, value, hcheck, heq⟩ :=
        ha.exists_cellWritten hcmd (not_not.mp hack)
      obtain ⟨-, -, -, -, hcurrent, -⟩ := checkWriteCell_ok hcheck
      rw [heq]
      exact h.set hcurrent fun _ hfits => hfits.congr (table.sameShape_setData offset value)

theorem length_axisRange {count : UInt8} (h : count ≠ 0) (start stop : UInt16) :
    (axisRange count start stop).length = count.toNat := by
  rw [axisRange]
  split_ifs with hone
  · have hpos : count.toNat ≠ 0 := fun hzero => h (UInt8.toNat_inj.mp hzero)
    have hle : count.toNat ≤ 1 := hone
    rw [List.length_singleton]
    omega
  · simp

theorem length_defaultAxisBins {count : UInt8} (h : count ≠ 0) (label : String) :
    (defaultAxisBins label count).length = count.toNat := by
  rw [defaultAxisBins]
  split_ifs <;> exact length_axisRange h _ _

/-- The default tables are of the right size, as no entry of the directory has an empty axis. -/
theorem hasTables_default : List.Forall₂ RawTablePayload.Fits defaultTables tableDirectory := by
  have haxes : ∀ entry ∈ tableDirectory, entry.xCount ≠ 0 ∧ entry.yCount ≠ 0 := by decide
  rw [defaultTables, List.forall₂_map_left_iff, List.forall₂_same]
  intro entry hentry
  obtain ⟨hx, hy⟩ := haxes entry hentry
  exact ⟨rfl, rfl, rfl, length_defaultAxisBins hx _, length_defaultAxisBins hy _,
    List.length_replicate⟩

theorem tables_of_newWithStore {identity : FirmwareIdentity} {simulator : Bool} {s : ConfigStore}
    {r : FirmwareRuntime} (h : newWithStore P identity simulator s = some r) :
    r.tables = defaultTables := by
  rw [newWithStore] at h
  dsimp only at h
  split at h
  · cases h
  · rw [← Option.some.inj h]

end FirmwareRuntime

/-- Every board that can come about has its tables. -/
theorem Reachable.hasTables {r : FirmwareRuntime} (h : Reachable P A r) : r.HasTables := by
  obtain ⟨identity, simulator, s, r₀, tr, hs, hboot, hrun⟩ := h.exists_run
  have hsound := (FirmwareRuntime.booted_of_newWithStore hs.wellFormed hboot).sound
  refine (hrun.invariant (I := fun r => r.Sound P ∧ r.HasTables) ⟨hsound, ?_⟩
    fun t ht hi => ⟨step_sound ht hi.1, (step_activity ht hi.1).hasTables hi.2⟩).2
  rw [FirmwareRuntime.HasTables, FirmwareRuntime.tables_of_newWithStore hboot]
  exact FirmwareRuntime.hasTables_default

/-- A cell that may be written is inside its table. -/
theorem FirmwareRuntime.offset_lt_of_checkWriteCell {r : FirmwareRuntime} (h : r.HasTables)
    {payload : Bytes} {index offset : ℕ} {table : RawTablePayload} {value : UInt16}
    (hcheck : r.checkWriteCell payload = .ok (index, table, offset, value)) :
    r.tables[index]? = some table ∧ offset < table.data.length := by
  obtain ⟨x, y, -, -, hcurrent, hx, hy, rfl⟩ := checkWriteCell_ok hcheck
  obtain ⟨entry, hfits⟩ := h.exists_of_mem (List.mem_of_getElem? hcurrent)
  exact ⟨hcurrent, hfits.offset_lt hx hy⟩

/-- A frame was put in the place of the table with its identifier: reading this table returns the
frame, and every other table is as before. -/
def Step.WritesTable (P : Platform) (A : Catalogue) (t : Step) : Prop :=
  ∃ table, decodeRawTablePayload t.event.packet.payload = .ok table ∧
    (∀ clock rest, (t.dst.handlePacket P A clock ⟨.readTable, table.tableId :: rest⟩).2 =
      ⟨.tableData, t.event.packet.payload⟩) ∧
    ∀ tableId ≠ table.tableId, t.dst.table? tableId = t.src.table? tableId

/-- One cell was given a value: every other cell, and whatever is not a cell, is as before. -/
def Step.WritesCell (t : Step) : Prop :=
  ∃ (tableId x y : UInt8) (value : UInt16),
    t.event.packet.payload = [tableId, x, y] ++ u16ToBe value ∧
    t.dst.cell? tableId x.toNat y.toNat = some value ∧
    (∀ tableId' x' y', (tableId', x', y') ≠ (tableId, x.toNat, y.toNat) →
      t.dst.cell? tableId' x' y' = t.src.cell? tableId' x' y') ∧
    t.dst.tables.map RawTablePayload.axes = t.src.tables.map RawTablePayload.axes

theorem step_writesTable {t : Step} (ht : (firmware P A).Step t) (hs : t.src.Sound P)
    (hcmd : t.event.packet.cmd = .writeTable) (hack : t.output.cmd = .ack) :
    t.WritesTable P A := by
  obtain ⟨index, table, current, hdec, hindex, -, -, heq⟩ :=
    (step_activity ht hs).exists_tableWritten hcmd hack
  refine ⟨table, hdec, fun clock rest => ?_, fun tableId hne => ?_⟩
  · have hread : (t.dst.tickUpdateHealthWindow clock.tick).table? table.tableId = some table := by
      rw [FirmwareRuntime.table?]
      exact heq ▸ List.find?_key_set_self hindex rfl
    rw [FirmwareRuntime.handlePacket, FirmwareRuntime.dispatch]
    dsimp only
    rw [FirmwareRuntime.readTableAnswer_eq hread, (decodeRawTablePayload_ok hdec).1]
  · rw [FirmwareRuntime.table?, heq]
    exact List.find?_key_set_of_ne hindex rfl hne

theorem step_writesCell {t : Step} (ht : (firmware P A).Step t) (hs : t.src.Sound P)
    (htables : t.src.HasTables) (hcmd : t.event.packet.cmd = .writeCell)
    (hack : t.output.cmd = .ack) : t.WritesCell := by
  obtain ⟨index, table, offset, value, hcheck, heq⟩ :=
    (step_activity ht hs).exists_cellWritten hcmd hack
  obtain ⟨x, y, hpayload, hindex, hcurrent, hx, hy, rfl⟩ := FirmwareRuntime.checkWriteCell_ok hcheck
  obtain ⟨entry, hfits⟩ := htables.exists_of_mem (List.mem_of_getElem? hcurrent)
  have hold : t.src.table? table.tableId = some table :=
    FirmwareRuntime.table?_of_tableIndex hindex hcurrent
  have hnew : t.dst.table? table.tableId = some (table.setData
      (rowMajor table.xCount.toNat x.toNat y.toNat) value) := by
    rw [FirmwareRuntime.table?, heq]
    exact List.find?_key_set_self hindex rfl
  refine ⟨table.tableId, x, y, value, hpayload, ?_, fun tableId' x' y' hne => ?_, ?_⟩
  · rw [FirmwareRuntime.cell?, hnew, Option.bind_some, hfits.cell?_setData_self hx hy]
  · rw [FirmwareRuntime.cell?, FirmwareRuntime.cell?]
    by_cases hid : tableId' = table.tableId
    · subst hid
      rw [hnew, hold, Option.bind_some, Option.bind_some]
      exact RawTablePayload.cell?_setData_of_ne hx value fun hxy => hne (by rw [hxy])
    · have hsame : t.dst.table? tableId' = t.src.table? tableId' := by
        rw [FirmwareRuntime.table?, heq]
        exact List.find?_key_set_of_ne hindex rfl hid
      rw [hsame]
  · have htable : t.src.tables[index]? = some table := hcurrent
    obtain ⟨hlt, hget⟩ := List.getElem?_eq_some_iff.mp htable
    have haxes : (table.setData (rowMajor table.xCount.toNat x.toNat y.toNat) value).axes =
        t.src.tables[index].axes := by
      rw [hget]
      rfl
    rw [heq]
    change (t.src.tables.set index _).map _ = _
    rw [List.map_set, haxes, ← List.map_set, List.set_getElem_self]

/-- **The tables of a board.** There is one for each entry of the directory, of the size that the
entry gives. A cell that is written is inside its table, and distinct cells are distinct words. A
table that was written is read back as it was sent, a written cell is the only one to change, and
nothing else changes a table. -/
theorem calibration_tables_spec {r : FirmwareRuntime} (h : Reachable P A r) :
    (tableDirectory.map TableDirectoryEntry.id).Nodup ∧ r.HasTables ∧
    (∀ payload index table offset value,
      r.checkWriteCell payload = .ok (index, table, offset, value) →
        r.tables[index]? = some table ∧ offset < table.data.length) ∧
    (∀ payload payload' index table table' offset value value',
      r.checkWriteCell payload = .ok (index, table, offset, value) →
      r.checkWriteCell payload' = .ok (index, table', offset, value') →
        payload.take 3 = payload'.take 3) ∧
    ∀ t : Step, (firmware P A).Step t → t.src = r →
      (t.event.packet.cmd = .writeTable → t.output.cmd = .ack → t.WritesTable P A) ∧
      (t.event.packet.cmd = .writeCell → t.output.cmd = .ack → t.WritesCell) ∧
      (t.event.packet.cmd ≠ .writeTable ∧ t.event.packet.cmd ≠ .writeCell ∨ t.output.cmd ≠ .ack →
        t.dst.tables = t.src.tables) := by
  have htables := h.hasTables
  refine ⟨by decide, htables, fun payload index table offset value hcheck => ?_,
    fun payload payload' index table table' offset value value' hcheck hcheck' => ?_, ?_⟩
  · exact FirmwareRuntime.offset_lt_of_checkWriteCell htables hcheck
  · obtain ⟨x, y, rfl, -, hcurrent, hx, -, hoffset⟩ := FirmwareRuntime.checkWriteCell_ok hcheck
    obtain ⟨x', y', rfl, -, hcurrent', hx', -, hoffset'⟩ :=
      FirmwareRuntime.checkWriteCell_ok hcheck'
    obtain rfl := Option.some.inj (hcurrent.symm.trans hcurrent')
    obtain ⟨hxx, hyy⟩ := rowMajor_inj hx hx' (hoffset.symm.trans hoffset')
    rw [UInt8.toNat_inj.mp hxx, UInt8.toNat_inj.mp hyy]
    rfl
  · rintro t ht rfl
    exact ⟨step_writesTable ht h.sound, step_writesCell ht h.sound htables,
      fun hkept => (step_activity ht h.sound).tables_eq hkept⟩

/-- On a new board, the last cell of a table of eight rows and columns. -/
theorem calibration_tables_spec_last_cell :
    ∃ t : Step, Reachable referencePlatform referenceCatalogue t.src ∧
      t.event.packet = ⟨.writeCell, [0x04, 7, 7, 0x12, 0x34]⟩ ∧ t.output.cmd = .ack ∧
      t.WritesCell := by
  obtain ⟨r, hr, hreach⟩ := exists_reachable_new (P := referencePlatform)
    (A := referenceCatalogue) .ecuV1 false
  have ht := step_of (P := referencePlatform) (A := referenceCatalogue) r
    ⟨⟨0, 0, none⟩, ⟨.writeCell, [0x04, 7, 7, 0x12, 0x34]⟩⟩
  have htables : r.tables = defaultTables := FirmwareRuntime.tables_of_newWithStore hr
  obtain ⟨table, htable, hindex, hid, hx, hy⟩ : ∃ table, defaultTables[4]? = some table ∧
      (defaultTables.findIdx? fun table => table.tableId == 0x04) = some 4 ∧
      table.tableId = 0x04 ∧ 7 < table.xCount.toNat ∧ 7 < table.yCount.toNat :=
    ⟨_, rfl, rfl, rfl, by decide, by decide⟩
  have hplace : r.tableIndex table.tableId = some 4 := by
    rw [FirmwareRuntime.tableIndex, htables, hid, hindex]
  have hcheck := FirmwareRuntime.checkWriteCell_eq (x := 7) (y := 7) hplace (htables ▸ htable) hx
    hy 0x1234
  have hack : (Step.of referencePlatform referenceCatalogue r
      ⟨⟨0, 0, none⟩, ⟨.writeCell, [0x04, 7, 7, 0x12, 0x34]⟩⟩).output.cmd = .ack := by
    have hwrite : (r.tickUpdateHealthWindow 0).checkWriteCell [0x04, 7, 7, 0x12, 0x34] = .ok _ :=
      hid ▸ hcheck
    rw [Step.of, FirmwareRuntime.handlePacket, FirmwareRuntime.dispatch]
    dsimp only
    rw [FirmwareRuntime.writeCellCommand, hwrite]
    rfl
  exact ⟨_, hreach, rfl, hack,
    ((calibration_tables_spec hreach).2.2.2.2 _ ht rfl).2.1 rfl hack⟩

end StEcu
