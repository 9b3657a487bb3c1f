import StEcu.Foundation.ByteBuffer
import StEcu.Fuel.Interpolation
import StEcu.Platform

/-!
# The long-term fuel trims

A map of 16×16 trims with its axes, and its form in the backup RAM (`src/fuel.rs`). The cells are
32-bit words there, and numbers in the calculations.
-/

namespace StEcu

/-- The map, with cells in any number format. -/
structure LtftMap (α : Type) where
  cells : Vector (Vector α 16) 16
  rpmAxis : Vector ℚ 16 :=
    #v[500, 1000, 1500, 2000, 2500, 3000, 3500, 4000, 4500, 5000, 5500, 6000, 6500, 7000, 7500,
      8000]
  loadAxis : Vector ℚ 16 :=
    #v[20, 40, 60, 80, 100, 120, 140, 160, 180, 200, 220, 240, 260, 280, 300, 310]
  deriving DecidableEq, Repr

/-- Where the backup RAM keeps the map of the trims. -/
def ltftBbsramOffset : ℕ := 0

/-- Where the backup RAM keeps the map of the knock retards. -/
def knockBbsramOffset : ℕ := 1024

namespace LtftMap

section Storage

open ByteReader

/-- There is no result where a copy does not fit into the 1024 bytes. -/
def serialize (map : LtftMap UInt32) : Option Bytes := do
  let cursor ← ByteCursor.putGrid ⟨List.replicate 1024 0, 0⟩ (map.cells.toList.map Vector.toList)
  return cursor.buf

/-- Every cell of a default map is replaced. -/
def deserialize : ByteReader Empty (LtftMap UInt32) := do
  let cells ← vector (vector u32 16) 16
  return { cells }

/-- The bytes of the cells, row by row. -/
def bytes (map : LtftMap UInt32) : Bytes :=
  ByteCursor.gridBytes (map.cells.toList.map Vector.toList)

theorem length_bytes (map : LtftMap UInt32) : map.bytes.length = 1024 :=
  ByteCursor.length_gridBytes map.cells

theorem serialize_eq (map : LtftMap UInt32) : map.serialize = some map.bytes := by
  have hfits : ByteCursor.Fits ⟨List.replicate 1024 0, 0⟩ map.bytes.length :=
    ByteCursor.fits_replicate map.length_bytes.le
  rw [bytes] at hfits
  rw [serialize, ByteCursor.putGrid_eq _ hfits]
  exact congrArg some (ByteCursor.buf_advance map.length_bytes)

theorem deserialize_bytes (map : LtftMap UInt32) :
    deserialize.run map.bytes = .ok { cells := map.cells } :=
  Reads.run <| .of_append_nil <| .bind (fun _ => reads_grid map.cells) <| .pure rfl

/-- Any 1024 bytes are read. -/
theorem exists_deserialize {buf : Bytes} (hbuf : buf.length = 1024) :
    ∃ cells, deserialize.run buf = .ok { cells } := by
  obtain ⟨cells, hcells⟩ :=
    Takes.vector (Takes.vector (Takes.u32 (ε := Empty)) 16) 16 buf 0 hbuf.ge
  refine ⟨cells, ?_⟩
  rw [run, deserialize, read_bind_ok hcells, read_pure]

end Storage

/-! ### Calculations -/

section Calculation

variable {α : Type} [Add α] [Mul α] [Max α] [Min α] [RatCast α]

/-- The map without any correction. -/
def default : LtftMap α := { cells := .replicate 16 (.replicate 16 ((1 : ℚ) : α)) }

/-- The trim at a point. -/
def get (map : LtftMap α) (rpm mapKpa : ℚ) : Option α := do
  let (ri, ri1, rf) ← axisIndex map.rpmAxis.toList rpm
  let (li, li1, lf) ← axisIndex map.loadAxis.toList mapKpa
  bilinear ri ri1 rf li li1 lf map.cells

/-- A cell with a trim learned, at most 25 % from one. -/
def learn (cell : α) (stft learnRate : ℚ) : α :=
  min (max (cell * ↑(1 - learnRate) + cell * ↑stft * ↑learnRate) ↑(75 / 100 : ℚ)) ↑(125 / 100 : ℚ)

/-- The cell at a point moved towards what the short-term trim asks for. -/
def update (map : LtftMap α) (rpm mapKpa stft learnRate : ℚ) : Option (LtftMap α) := do
  let (ri, _, _) ← axisIndex map.rpmAxis.toList rpm
  let (li, _, _) ← axisIndex map.loadAxis.toList mapKpa
  let cell ← cellAt map.cells ri li
  return { map with cells := setCell map.cells ri li (learn cell stft learnRate) }

variable (map : LtftMap α)

omit [Max α] [Min α] in
/-- A trim is interpolated between four cells. -/
theorem get_eq (rpm mapKpa : ℚ) : ∃ ri ri1 rf li li1 lf c00 c10 c01 c11,
    axisIndex map.rpmAxis.toList rpm = some (ri, ri1, rf) ∧
    axisIndex map.loadAxis.toList mapKpa = some (li, li1, lf) ∧
    (0 ≤ rf ∧ rf ≤ 1) ∧ (0 ≤ lf ∧ lf ≤ 1) ∧
    cellAt map.cells ri li = some c00 ∧ cellAt map.cells ri1 li = some c10 ∧
    cellAt map.cells ri li1 = some c01 ∧ cellAt map.cells ri1 li1 = some c11 ∧
    map.get rpm mapKpa = some (bilinear4 c00 c10 c01 c11 rf lf) := by
  obtain ⟨ri, ri1, rf, hrpm, hri, hri1, hrf⟩ := axisIndex_toList map.rpmAxis rpm
  obtain ⟨li, li1, lf, hload, hli, hli1, hlf⟩ := axisIndex_toList map.loadAxis mapKpa
  obtain ⟨c00, c10, c01, c11, h00, h10, h01, h11, hbilinear⟩ :=
    bilinear_eq map.cells rf lf hri hri1 hli hli1
  refine ⟨ri, ri1, rf, li, li1, lf, c00, c10, c01, c11, hrpm, hload, hrf, hlf, h00, h10, h01, h11,
    ?_⟩
  rw [get, hrpm, hload]
  exact hbilinear

/-- An update replaces the cell that it addresses. -/
theorem update_eq (rpm mapKpa stft learnRate : ℚ) : ∃ i i' rf j j' lf cell,
    axisIndex map.rpmAxis.toList rpm = some (i, i', rf) ∧
    axisIndex map.loadAxis.toList mapKpa = some (j, j', lf) ∧ i < 16 ∧ j < 16 ∧
    map.update rpm mapKpa stft learnRate =
      some { map with cells := setCell map.cells i j (learn cell stft learnRate) } := by
  obtain ⟨i, i', rf, hrpm, hi, -⟩ := axisIndex_toList map.rpmAxis rpm
  obtain ⟨j, j', lf, hload, hj, -⟩ := axisIndex_toList map.loadAxis mapKpa
  obtain ⟨cell, hcell⟩ := exists_cellAt map.cells hi hj
  refine ⟨i, i', rf, j, j', lf, cell, hrpm, hload, hi, hj, ?_⟩
  simp only [update, hrpm, hload, hcell, Option.bind_eq_bind, Option.bind_some]
  rfl

end Calculation

end LtftMap

end StEcu
