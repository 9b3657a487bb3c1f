import StEcu.Foundation.ExactFloat
import StEcu.Fuel.Ltft
import StEcu.Hal.BackupRam

/-!
# The authority of the long-term trims

A trim that is learned is at most 25 % from one. A map that is read from the backup RAM is taken as
it is: its trims are unbounded until they are learned again.

## Main definitions

* `LtftMap.ofWords`: the map of the words of the backup RAM.
* `LtftUpdate`, `LtftMap.Addresses`: the calls of the update, and the cell that a call addresses.
* `LtftMap.Bounded`: every trim that the map gives is within its authority.

## Main results

* `LtftMap.bounded_iff`: the trims are bounded if and only if the cells are.
* `LtftMap.cellWithin_applyUpdate`: an update brings the cell that it addresses into its bounds.
* `LtftMap.ltft_authority_iff`: the trims are bounded after a run if and only if every cell was so
  at its start or was learned in it.
-/

namespace StEcu

/-- A trim within its authority. -/
abbrev TrimWithin (v : ExactFloat) : Prop := v.Within (75 / 100) (125 / 100)

/-- A call of the update. -/
structure LtftUpdate where
  rpm : ℚ
  mapKpa : ℚ
  stft : ℚ
  learnRate : ℚ
  deriving DecidableEq, Repr

namespace LtftMap

/-- The cells are read as floats. -/
def ofWords (map : LtftMap UInt32) : LtftMap ExactFloat :=
  { map with cells := map.cells.map fun row => row.map ExactFloat.ofBits }

/-- The default map, or a map that is read from any 1024 bytes. -/
inductive Initial : LtftMap ExactFloat → Prop
  | default : Initial default
  | restored {buf : Bytes} {map : LtftMap UInt32} (hbuf : buf.length = 1024)
      (h : deserialize.run buf = .ok map) : Initial map.ofWords

/-- One update of the map. -/
def applyUpdate (map : LtftMap ExactFloat) (u : LtftUpdate) : Option (LtftMap ExactFloat) :=
  map.update u.rpm u.mapKpa u.stft u.learnRate

/-- A call of the update addresses a cell of the map. -/
def Addresses (map : LtftMap ExactFloat) (u : LtftUpdate) (i j : ℕ) : Prop :=
  (∃ i' rf, axisIndex map.rpmAxis.toList u.rpm = some (i, i', rf)) ∧
    ∃ j' lf, axisIndex map.loadAxis.toList u.mapKpa = some (j, j', lf)

/-- A cell is within the authority of the trims. -/
def CellWithin (map : LtftMap ExactFloat) (i j : ℕ) : Prop :=
  ∀ v, cellAt map.cells i j = some v → TrimWithin v

/-- Every trim that the map gives is within its authority. -/
def Bounded (map : LtftMap ExactFloat) : Prop :=
  ∀ rpm mapKpa, ∃ v, map.get rpm mapKpa = some v ∧ TrimWithin v

/-! ### Reading -/

section Get

variable {lo hi : ℚ}

open ExactFloat

theorem bilinear4_finite (c00 c10 c01 c11 rf lf : ℚ) :
    bilinear4 (finite c00) (finite c10) (finite c01) (finite c11) rf lf =
      finite (bilinear4 c00 c10 c01 c11 rf lf) := by
  simp only [bilinear4, ratCast_eq, finite_mul, finite_add, Rat.cast_id]

theorem bilinear4_within {c00 c10 c01 c11 : ExactFloat} {rf lf : ℚ} (h00 : c00.Within lo hi)
    (h10 : c10.Within lo hi) (h01 : c01.Within lo hi) (h11 : c11.Within lo hi)
    (hrf : 0 ≤ rf ∧ rf ≤ 1) (hlf : 0 ≤ lf ∧ lf ≤ 1) :
    (bilinear4 c00 c10 c01 c11 rf lf).Within lo hi := by
  obtain ⟨x00, rfl, h00⟩ := h00
  obtain ⟨x10, rfl, h10⟩ := h10
  obtain ⟨x01, rfl, h01⟩ := h01
  obtain ⟨x11, rfl, h11⟩ := h11
  exact ⟨_, bilinear4_finite .., bilinear4_mem h00 h10 h01 h11 hrf hlf⟩

/-- At a breakpoint the trim is a cell, and any cell that is not finite shows. -/
theorem within_of_bilinear4_zero {c00 c10 c01 c11 : ExactFloat}
    (h : (bilinear4 c00 c10 c01 c11 0 0).Within lo hi) : c00.Within lo hi := by
  obtain ⟨z, hz, hmem⟩ := h
  obtain ⟨s, x11, hs, h11⟩ := finite_of_add hz
  obtain ⟨t, x01, ht, h01⟩ := finite_of_add hs
  obtain ⟨x00, x10, h00, h10⟩ := finite_of_add ht
  have hcell {c : ExactFloat} {u v x : ℚ}
      (hc : c * (u : ExactFloat) * (v : ExactFloat) = finite x) : ∃ y, c = finite y := by
    obtain ⟨y, hy⟩ := finite_of_mul hc
    exact finite_of_mul hy
  obtain ⟨y00, rfl⟩ := hcell h00
  obtain ⟨y10, rfl⟩ := hcell h10
  obtain ⟨y01, rfl⟩ := hcell h01
  obtain ⟨y11, rfl⟩ := hcell h11
  rw [bilinear4_finite, finite.injEq] at hz
  have hy : y00 = z := by
    rw [← hz, bilinear4_eq, lerp_zero, lerp_zero]
  exact ⟨y00, rfl, hy ▸ hmem⟩

variable {map : LtftMap ExactFloat}

/-- **The trims and the cells**: at a breakpoint the trim is the cell. -/
theorem bounded_iff (hrpm : map.rpmAxis.toList.Pairwise (· < ·))
    (hload : map.loadAxis.toList.Pairwise (· < ·)) :
    map.Bounded ↔ ∀ i j, map.CellWithin i j := by
  constructor
  · intro h i j v hv
    obtain ⟨hi, hj⟩ := lt_of_cellAt hv
    have hi' : i < map.rpmAxis.toList.length := by rwa [Vector.length_toList]
    have hj' : j < map.loadAxis.toList.length := by rwa [Vector.length_toList]
    obtain ⟨i', -, hri⟩ := axisIndex_breakpoint hrpm hi'
    obtain ⟨j', -, hli⟩ := axisIndex_breakpoint hload hj'
    obtain ⟨w, hw, hwithin⟩ := h map.rpmAxis.toList[i] map.loadAxis.toList[j]
    obtain ⟨ri, ri1, rf, li, li1, lf, c00, c10, c01, c11, hri', hli', -, -, h00, -, -, -, hget⟩ :=
      map.get_eq map.rpmAxis.toList[i] map.loadAxis.toList[j]
    obtain ⟨rfl, rfl, rfl⟩ : i = ri ∧ i' = ri1 ∧ 0 = rf := by
      simpa using hri.symm.trans hri'
    obtain ⟨rfl, rfl, rfl⟩ : j = li ∧ j' = li1 ∧ 0 = lf := by
      simpa using hli.symm.trans hli'
    obtain rfl : v = c00 := Option.some.inj (hv.symm.trans h00)
    obtain rfl := Option.some.inj (hw.symm.trans hget)
    exact within_of_bilinear4_zero hwithin
  · intro h rpm mapKpa
    obtain ⟨ri, ri1, rf, li, li1, lf, c00, c10, c01, c11, -, -, hrf, hlf, h00, h10, h01, h11,
      hget⟩ := map.get_eq rpm mapKpa
    exact ⟨_, hget, bilinear4_within (h _ _ _ h00) (h _ _ _ h10) (h _ _ _ h01) (h _ _ _ h11)
      hrf hlf⟩

end Get

/-! ### Updates -/

section Update

variable {map start : LtftMap ExactFloat} {i j : ℕ}

/-- An update brings the cell that it addresses into its bounds, and leaves the others as they
are. -/
theorem applyUpdate_eq (map : LtftMap ExactFloat) (u : LtftUpdate) :
    ∃ next, map.applyUpdate u = some next ∧ next.rpmAxis = map.rpmAxis ∧
      next.loadAxis = map.loadAxis ∧ ∃ k l v, map.Addresses u k l ∧ TrimWithin v ∧ k < 16 ∧
        l < 16 ∧ next.cells = setCell map.cells k l v := by
  obtain ⟨k, k', rf, l, l', lf, cell, hrpm, hload, hk, hl, hupdate⟩ :=
    map.update_eq u.rpm u.mapKpa u.stft u.learnRate
  exact ⟨_, hupdate, rfl, rfl, k, l, _, ⟨⟨k', rf, hrpm⟩, l', lf, hload⟩,
    ExactFloat.within_clamp (by norm_num) _, hk, hl, rfl⟩

theorem Addresses.unique {u : LtftUpdate} {k l : ℕ} (h : map.Addresses u i j)
    (h' : map.Addresses u k l) : i = k ∧ j = l := by
  obtain ⟨⟨i', rf, hi⟩, j', lf, hj⟩ := h
  obtain ⟨⟨k', rf', hk⟩, l', lf', hl⟩ := h'
  rw [hi, Option.some.injEq, Prod.mk.injEq] at hk
  rw [hj, Option.some.injEq, Prod.mk.injEq] at hl
  exact ⟨hk.1, hl.1⟩

/-- **What an update does to the bounds of a cell.** -/
theorem cellWithin_applyUpdate {u : LtftUpdate} {next : LtftMap ExactFloat}
    (h : map.applyUpdate u = some next) :
    next.CellWithin i j ↔ map.CellWithin i j ∨ map.Addresses u i j := by
  obtain ⟨next', hnext, -, -, k, l, v, haddress, hv, hk, hl, hcells⟩ := map.applyUpdate_eq u
  obtain rfl := Option.some.inj (h.symm.trans hnext)
  rw [CellWithin, CellWithin, hcells]
  by_cases hcell : i = k ∧ j = l
  · obtain ⟨rfl, rfl⟩ := hcell
    refine iff_of_true (fun w hw => ?_) (.inr haddress)
    rw [cellAt_setCell _ _ hk hl, if_pos ⟨rfl, rfl⟩, Option.some.injEq] at hw
    exact hw ▸ hv
  · have hother : ¬ map.Addresses u i j := fun h => hcell (h.unique haddress)
    rw [or_iff_left hother, cellAt_setCell_of_ne _ _ hk hl hcell]

/-- A run of updates succeeds, and brings the cells that it addresses into their bounds. -/
theorem cellWithin_run (start : LtftMap ExactFloat) (updates : List LtftUpdate) : ∃ map,
    updates.foldlM applyUpdate start = some map ∧ map.rpmAxis = start.rpmAxis ∧
      map.loadAxis = start.loadAxis ∧ ∀ i j, map.CellWithin i j ↔
        start.CellWithin i j ∨ ∃ u ∈ updates, start.Addresses u i j := by
  induction updates generalizing start with
  | nil => exact ⟨start, rfl, rfl, rfl, by simp⟩
  | cons u updates ih =>
    obtain ⟨next, hnext, hrpm, hload, -⟩ := start.applyUpdate_eq u
    obtain ⟨map, hrun, hrpm', hload', hcells⟩ := ih next
    have haddress (u' : LtftUpdate) (i j : ℕ) :
        next.Addresses u' i j ↔ start.Addresses u' i j := by
      rw [Addresses, Addresses, hrpm, hload]
    refine ⟨map, ?_, hrpm'.trans hrpm, hload'.trans hload, fun i j => ?_⟩
    · rw [List.foldlM_cons, hnext]
      exact hrun
    · simp only [hcells, cellWithin_applyUpdate hnext, haddress, List.exists_mem_cons_iff, or_assoc]

end Update

/-! ### From the start -/

theorem sorted_axes : (default : LtftMap ExactFloat).rpmAxis.toList.Pairwise (· < ·) ∧
    (default : LtftMap ExactFloat).loadAxis.toList.Pairwise (· < ·) := by decide +kernel

theorem Initial.axes {start : LtftMap ExactFloat} (h : Initial start) :
    start.rpmAxis = (LtftMap.default : LtftMap ExactFloat).rpmAxis ∧
      start.loadAxis = (LtftMap.default : LtftMap ExactFloat).loadAxis := by
  cases h with
  | default => exact ⟨rfl, rfl⟩
  | restored hbuf hmap =>
    obtain ⟨cells, hcells⟩ := exists_deserialize hbuf
    obtain rfl := Except.ok.inj (hcells.symm.trans hmap)
    exact ⟨rfl, rfl⟩

/-- **The authority of the trims.** A map that starts as the default, or as what the backup RAM
holds, gives bounded trims after a run of updates if and only if each of its cells was bounded at
the start or was addressed by an update. -/
theorem ltft_authority_iff {start : LtftMap ExactFloat} (hstart : Initial start)
    (updates : List LtftUpdate) : ∃ map, updates.foldlM applyUpdate start = some map ∧
      (map.Bounded ↔
        ∀ i j, start.CellWithin i j ∨ ∃ u ∈ updates, start.Addresses u i j) := by
  obtain ⟨map, hrun, hrpm, hload, hcells⟩ := cellWithin_run start updates
  obtain ⟨hstartRpm, hstartLoad⟩ := hstart.axes
  refine ⟨map, hrun, ?_⟩
  rw [bounded_iff (by rw [hrpm, hstartRpm]; exact sorted_axes.1)
    (by rw [hload, hstartLoad]; exact sorted_axes.2)]
  exact forall₂_congr hcells

/-- The words of a backup RAM that was never written. -/
def zeroWords : LtftMap UInt32 where
  cells := .replicate 16 (.replicate 16 0)
  rpmAxis := (default : LtftMap ExactFloat).rpmAxis
  loadAxis := (default : LtftMap ExactFloat).loadAxis

/-- A backup RAM that was never written holds zeros, and the trims are zero. -/
theorem zero_backup_ram : deserialize.run (List.replicate 1024 0) = .ok zeroWords ∧
    Initial zeroWords.ofWords ∧ zeroWords.ofWords.get 500 20 = some (.finite 0) ∧
    ¬ zeroWords.ofWords.Bounded := by
  have hbytes : zeroWords.bytes = List.replicate 1024 0 := by decide +kernel
  have hrun : deserialize.run (List.replicate 1024 0) = .ok zeroWords := by
    rw [← hbytes, deserialize_bytes]
    rfl
  have hget : zeroWords.ofWords.get 500 20 = some (.finite 0) := by decide +kernel
  refine ⟨hrun, .restored List.length_replicate hrun, hget, fun hbounded => ?_⟩
  obtain ⟨v, hv, x, rfl, hlo, -⟩ := hbounded 500 20
  rw [hget, Option.some.injEq, ExactFloat.finite.injEq] at hv
  rw [← hv] at hlo
  norm_num at hlo

/-- The words of a backup RAM with a trim of zero in its first cell, and of one in all others. -/
def oneZeroTrim : LtftMap UInt32 where
  cells := .ofFn fun i => .ofFn fun j => if i = 0 ∧ j = 0 then 0 else 0x3F800000
  rpmAxis := (default : LtftMap ExactFloat).rpmAxis
  loadAxis := (default : LtftMap ExactFloat).loadAxis

theorem cellAt_oneZeroTrim : ∀ i j : Fin 16, cellAt oneZeroTrim.ofWords.cells i j =
    some (.finite (if i = 0 ∧ j = 0 then 0 else 1)) := by decide +kernel

/-- The cell that is out of its bounds is learned again. -/
theorem ltft_authority_iff_restored : ∃ map : LtftMap ExactFloat,
    Initial oneZeroTrim.ofWords ∧ ¬ oneZeroTrim.ofWords.CellWithin 0 0 ∧
    [⟨500, 20, 0, 1 / 10⟩].foldlM applyUpdate oneZeroTrim.ofWords = some map ∧ map.Bounded := by
  have hinitial : Initial oneZeroTrim.ofWords :=
    .restored oneZeroTrim.length_bytes (deserialize_bytes oneZeroTrim)
  have haddress : oneZeroTrim.ofWords.Addresses ⟨500, 20, 0, 1 / 10⟩ 0 0 :=
    ⟨⟨0, 0, by decide +kernel⟩, 0, 0, by decide +kernel⟩
  obtain ⟨map, hrun, hbounded⟩ := ltft_authority_iff hinitial [⟨500, 20, 0, 1 / 10⟩]
  refine ⟨map, hinitial, fun h => ?_, hrun, hbounded.mpr fun i j => ?_⟩
  · obtain ⟨x, hx, hlo, -⟩ := h _ (cellAt_oneZeroTrim 0 0)
    obtain rfl := ExactFloat.finite.inj hx
    norm_num at hlo
  · by_cases hcell : i = 0 ∧ j = 0
    · obtain ⟨rfl, rfl⟩ := hcell
      exact .inr ⟨_, .head _, haddress⟩
    · refine .inl fun v hv => ?_
      obtain ⟨hi, hj⟩ := lt_of_cellAt hv
      have hone := cellAt_oneZeroTrim ⟨i, hi⟩ ⟨j, hj⟩
      have hother : ¬ ((⟨i, hi⟩ : Fin 16) = 0 ∧ (⟨j, hj⟩ : Fin 16) = 0) := by
        simpa [Fin.ext_iff] using hcell
      rw [if_neg hother] at hone
      obtain rfl := Option.some.inj (hv.symm.trans hone)
      exact ⟨1, rfl, by norm_num⟩

end LtftMap

end StEcu
