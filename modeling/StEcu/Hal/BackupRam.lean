import StEcu.Fuel.Ltft
import StEcu.Hal.Common
import StEcu.Knock.LearningMap

/-!
# The backup RAM

The 4096 bytes that survive a power cycle (`src/hal/h743.rs`). The fuel trims and the knock map are
kept in it, side by side.

## Main definitions

* `H743BackupRam`, `H743BackupRam.write`, `H743BackupRam.read`.

## Main results

* `read_of_splice`, `write_write`: what is read after a write, and two writes in either order.
* `backup_ram_persistence`: both maps are written, in either order, and read back.
-/

namespace StEcu

/-- The 4 KiB of RAM that the battery keeps. -/
@[ext] structure H743BackupRam where
  data : Bytes
  length_data : data.length = 4096

namespace H743BackupRam

/-- Some bytes overwritten, if they are inside. -/
def write (ram : H743BackupRam) (offset : ℕ) (bytes : Bytes) : HalResult H743BackupRam :=
  if h : offset + bytes.length ≤ ram.data.length then
    .ok ⟨splice ram.data offset bytes, (length_splice h).trans ram.length_data⟩
  else .error .overUnderflow

/-- `n` is the length of the buffer that is filled. -/
def read (ram : H743BackupRam) (offset n : ℕ) : HalResult Bytes :=
  if offset + n ≤ ram.data.length then .ok (slice ram.data offset (offset + n))
  else .error .overUnderflow

variable {ram after : H743BackupRam} {bytes : Bytes} {offset : ℕ}

theorem write_eq (ram : H743BackupRam) (offset : ℕ) (bytes : Bytes)
    (h : offset + bytes.length ≤ 4096) :
    ∃ after, ram.write offset bytes = .ok after ∧ after.data = splice ram.data offset bytes :=
  ⟨_, dif_pos (ram.length_data ▸ h), rfl⟩

theorem read_eq {n : ℕ} (h : offset + n ≤ 4096) :
    ram.read offset n = .ok (slice ram.data offset (offset + n)) :=
  if_pos (ram.length_data ▸ h)

/-- What was written is read back. -/
theorem read_of_splice (h : offset + bytes.length ≤ 4096)
    (hafter : after.data = splice ram.data offset bytes) :
    after.read offset bytes.length = .ok bytes := by
  rw [read_eq h, hafter, slice_splice_self (ram.length_data ▸ h)]

/-- Two writes to disjoint places, in either order. -/
theorem write_write {bytes' : Bytes} {offset' : ℕ} (hdisjoint : offset + bytes.length ≤ offset')
    (h : offset' + bytes'.length ≤ 4096) : ∃ first second after,
      ram.write offset bytes = .ok first ∧ first.write offset' bytes' = .ok after ∧
      ram.write offset' bytes' = .ok second ∧ second.write offset bytes = .ok after ∧
      after.data = splice first.data offset' bytes' ∧
      after.data = splice second.data offset bytes ∧
      first.data = splice ram.data offset bytes := by
  obtain ⟨first, hfirst, hfirstData⟩ := ram.write_eq offset bytes (by omega)
  obtain ⟨second, hsecond, hsecondData⟩ := ram.write_eq offset' bytes' h
  obtain ⟨after, hafter, hafterData⟩ := first.write_eq offset' bytes' h
  obtain ⟨after', hafter', hafterData'⟩ := second.write_eq offset bytes (by omega)
  have hcomm := splice_comm hdisjoint (ram.length_data ▸ h : _ ≤ ram.data.length)
  have heq : after' = after := by
    ext1
    rw [hafterData, hafterData', hfirstData, hsecondData, hcomm]
  subst heq
  exact ⟨first, second, after', hfirst, hafter, hsecond, hafter', hafterData, hafterData',
    hfirstData⟩

end H743BackupRam

/-- **The two maps in the backup RAM.** Each is written into a region of its own, in either order
with the same result, and is read back from there; the bytes behind are left as they were. -/
theorem backup_ram_persistence (ltft : LtftMap UInt32) (knock : KnockLearningMap UInt32)
    (ram : H743BackupRam) : ∃ ltftBytes knockBytes after,
      ltft.serialize = some ltftBytes ∧ knock.serialize = some knockBytes ∧
      (do
        let ram ← ram.write ltftBbsramOffset ltftBytes
        ram.write knockBbsramOffset knockBytes) = .ok after ∧
      (do
        let ram ← ram.write knockBbsramOffset knockBytes
        ram.write ltftBbsramOffset ltftBytes) = .ok after ∧
      (∃ bytes map, after.read ltftBbsramOffset 1024 = .ok bytes ∧
        LtftMap.deserialize.run bytes = .ok map ∧ map.cells = ltft.cells) ∧
      (∃ bytes, after.read knockBbsramOffset 2080 = .ok bytes ∧
        KnockLearningMap.deserialize.run bytes = .ok knock) ∧
      ∀ i, 3104 ≤ i → after.data[i]? = ram.data[i]? := by
  have hltft := ltft.length_bytes
  have hknock := knock.length_bytes
  have hdisjoint : ltftBbsramOffset + ltft.bytes.length ≤ knockBbsramOffset := by
    rw [hltft]
    decide
  have hfits : knockBbsramOffset + knock.bytes.length ≤ 4096 := by
    rw [hknock]
    decide
  obtain ⟨first, second, after, hfirst, hafter, hsecond, hafter', hknockData, hltftData,
    hfirstData⟩ := ram.write_write hdisjoint hfits
  refine ⟨ltft.bytes, knock.bytes, after, ltft.serialize_eq, knock.serialize_eq, ?_, ?_,
    ⟨ltft.bytes, _, ?_, ltft.deserialize_bytes, rfl⟩, ⟨knock.bytes, ?_, knock.deserialize_bytes⟩,
    fun i hi => ?_⟩
  · rw [hfirst]
    exact hafter
  · rw [hsecond]
    exact hafter'
  · rw [← hltft]
    exact H743BackupRam.read_of_splice (by omega) hltftData
  · rw [← hknock]
    exact H743BackupRam.read_of_splice hfits hknockData
  · have hbehind : knockBbsramOffset + knock.bytes.length ≤ i := by
      rw [hknock]
      exact hi
    rw [hknockData, getElem?_splice_of_outside (first.length_data ▸ hfits) (.inr hbehind),
      hfirstData, getElem?_splice_of_outside (by rw [ram.length_data]; omega) (.inr (by omega))]

end StEcu
