import StEcu.Foundation.ByteBuffer
import StEcu.Platform

/-!
# The knock learning map

What the knock detector learns in each cell of its map and on each cylinder, and its form in the
backup RAM (`src/knock.rs`).
-/

namespace StEcu

/-- The map, with values in any number format. -/
structure KnockLearningMap (α : Type) where
  noiseFloor : Vector (Vector α 16) 16
  damMap : Vector (Vector α 16) 16
  fkc : Vector α 8
  deriving DecidableEq, Repr

namespace KnockLearningMap

open ByteReader

/-- There is no result where a copy does not fit into the 2080 bytes. -/
def serialize (map : KnockLearningMap UInt32) : Option Bytes := do
  let cursor ←
    ByteCursor.putGrid ⟨List.replicate 2080 0, 0⟩ (map.noiseFloor.toList.map Vector.toList)
  let cursor ← cursor.putGrid (map.damMap.toList.map Vector.toList)
  let cursor ← cursor.putWords map.fkc.toList
  return cursor.buf

/-- Every value of a default map is replaced. -/
def deserialize : ByteReader Empty (KnockLearningMap UInt32) := do
  let noiseFloor ← vector (vector u32 16) 16
  let damMap ← vector (vector u32 16) 16
  let fkc ← vector u32 8
  return { noiseFloor, damMap, fkc }

/-- The bytes of the two grids and of the corrections of the cylinders. -/
def bytes (map : KnockLearningMap UInt32) : Bytes :=
  ByteCursor.gridBytes (map.noiseFloor.toList.map Vector.toList) ++
    (ByteCursor.gridBytes (map.damMap.toList.map Vector.toList) ++
      ByteCursor.wordBytes map.fkc.toList)

theorem length_bytes (map : KnockLearningMap UInt32) : map.bytes.length = 2080 := by
  rw [bytes, List.length_append, List.length_append, ByteCursor.length_gridBytes,
    ByteCursor.length_gridBytes, ByteCursor.length_wordBytes, Vector.length_toList]

theorem serialize_eq (map : KnockLearningMap UInt32) : map.serialize = some map.bytes := by
  let start : ByteCursor := ⟨List.replicate 2080 0, 0⟩
  let noise := ByteCursor.gridBytes (map.noiseFloor.toList.map Vector.toList)
  let dam := ByteCursor.gridBytes (map.damMap.toList.map Vector.toList)
  let fkc := ByteCursor.wordBytes map.fkc.toList
  have hall : start.Fits (noise ++ (dam ++ fkc)).length :=
    ByteCursor.fits_replicate map.length_bytes.le
  have hnoise : start.Fits (noise.length + (dam ++ fkc).length) := List.length_append ▸ hall
  have hrest : (start.advance noise).Fits (dam ++ fkc).length := ByteCursor.fits_advance hnoise
  have hdam : (start.advance noise).Fits (dam.length + fkc.length) := List.length_append ▸ hrest
  have hfkc : ((start.advance noise).advance dam).Fits fkc.length := ByteCursor.fits_advance hdam
  have hend : ((start.advance noise).advance dam).advance fkc =
      start.advance (noise ++ (dam ++ fkc)) := by
    rw [ByteCursor.advance_append hrest, ByteCursor.advance_append hall]
  simp only [serialize, Option.bind_eq_bind]
  rw [ByteCursor.putGrid_eq _ (hnoise.mono (Nat.le_add_right _ _)), Option.bind_some,
    ByteCursor.putGrid_eq _ (hdam.mono (Nat.le_add_right _ _)), Option.bind_some,
    ByteCursor.putWords_eq _ hfkc, Option.bind_some, hend]
  exact congrArg some (ByteCursor.buf_advance map.length_bytes)

theorem deserialize_bytes (map : KnockLearningMap UInt32) : deserialize.run map.bytes = .ok map :=
  Reads.run <| .bind (fun _ => reads_grid map.noiseFloor) <|
    .bind (fun _ => reads_grid map.damMap) <| .of_append_nil <|
    .bind (fun _ => reads_words map.fkc) <| .pure rfl

end KnockLearningMap

end StEcu
