import StEcu.Foundation.ByteReader

/-!
# Buffers that are filled piece by piece

A byte string is copied into a buffer at an offset, and must fit there. A cursor is a buffer with
the position of the next copy; pieces that are put one after the other end up side by side.

## Main definitions

* `splice`, `copyInto`: a byte string in place of the bytes at an offset, with and without a check.
* `ByteCursor`, `ByteCursor.put`, `ByteCursor.advance`.

## Main results

* `slice_splice_self`: what was copied is read back.
* `splice_comm`: copies to disjoint places commute.
* `ByteCursor.foldlM_eq`: the pieces that fit end up side by side.
-/

variable {α β : Type*}

/-- The elements at an offset replaced. -/
def splice (buf : List α) (offset : ℕ) (xs : List α) : List α :=
  buf.take offset ++ xs ++ buf.drop (offset + xs.length)

section Splice

variable {buf xs : List α} {offset : ℕ}

theorem length_splice (h : offset + xs.length ≤ buf.length) :
    (splice buf offset xs).length = buf.length := by
  rw [splice, List.length_append, List.length_append, List.length_take, List.length_drop]
  omega

theorem getElem?_splice (h : offset + xs.length ≤ buf.length) (i : ℕ) :
    (splice buf offset xs)[i]? =
      if offset ≤ i ∧ i < offset + xs.length then xs[i - offset]? else buf[i]? := by
  have hlen : (buf.take offset).length = offset := by
    rw [List.length_take]
    omega
  rw [splice, List.append_assoc, List.getElem?_append, hlen]
  split
  · next hlt => rw [List.getElem?_take, if_pos hlt, if_neg (by omega)]
  · next hge =>
    rw [List.getElem?_append]
    split
    · rw [if_pos (by omega)]
    · rw [if_neg (by omega), List.getElem?_drop]
      congr 1
      omega

theorem getElem?_splice_of_outside (h : offset + xs.length ≤ buf.length) {i : ℕ}
    (hi : i < offset ∨ offset + xs.length ≤ i) : (splice buf offset xs)[i]? = buf[i]? := by
  rw [getElem?_splice h, if_neg (by omega)]

/-- What was copied is read back. -/
theorem slice_splice_self (h : offset + xs.length ≤ buf.length) :
    slice (splice buf offset xs) offset (offset + xs.length) = xs := by
  have hlen : (buf.take offset).length = offset := by
    rw [List.length_take]
    omega
  rw [slice, splice, List.take_left' (by rw [List.length_append, hlen]), List.drop_left' hlen]

/-- Copies to disjoint places commute. -/
theorem splice_comm {ys : List α} {offset' : ℕ} (hdisjoint : offset + xs.length ≤ offset')
    (h' : offset' + ys.length ≤ buf.length) :
    splice (splice buf offset xs) offset' ys = splice (splice buf offset' ys) offset xs := by
  have h : offset + xs.length ≤ buf.length := by omega
  refine List.ext_getElem? fun i => ?_
  rw [getElem?_splice (by rwa [length_splice h]), getElem?_splice h,
    getElem?_splice (by rwa [length_splice h']), getElem?_splice h']
  split_ifs <;> first | rfl | omega

/-- Two copies, one behind the other. -/
theorem splice_splice_append {ys : List α} (h : offset + (xs ++ ys).length ≤ buf.length) :
    splice (splice buf offset xs) (offset + xs.length) ys = splice buf offset (xs ++ ys) := by
  rw [List.length_append] at h
  refine List.ext_getElem? fun i => ?_
  rw [getElem?_splice (by rw [length_splice (by omega)]; omega), getElem?_splice (by omega),
    getElem?_splice (by rw [List.length_append]; omega), List.length_append, List.getElem?_append]
  split_ifs <;> first | rfl | omega | (congr 1; omega)

end Splice

/-- A byte string copied into a buffer, which it must fit into. -/
def copyInto (buf : List α) (offset : ℕ) (xs : List α) : Option (List α) :=
  if offset + xs.length ≤ buf.length then some (splice buf offset xs) else none

/-- A buffer and the position of the next copy. -/
structure ByteCursor where
  buf : List UInt8
  pos : ℕ

namespace ByteCursor

/-- Some bytes written behind the cursor, if the buffer has room. -/
def put (cursor : ByteCursor) (bytes : List UInt8) : Option ByteCursor := do
  let buf ← copyInto cursor.buf cursor.pos bytes
  return ⟨buf, cursor.pos + bytes.length⟩

/-- The cursor behind a byte string that was put. -/
def advance (cursor : ByteCursor) (bytes : List UInt8) : ByteCursor :=
  ⟨splice cursor.buf cursor.pos bytes, cursor.pos + bytes.length⟩

/-- There is room for a number of bytes. -/
def Fits (cursor : ByteCursor) (n : ℕ) : Prop := cursor.pos + n ≤ cursor.buf.length

variable {cursor : ByteCursor} {bytes bytes' : List UInt8}

theorem put_eq (h : cursor.Fits bytes.length) : cursor.put bytes = some (cursor.advance bytes) := by
  rw [Fits] at h
  rw [put, copyInto, if_pos h]
  rfl

@[simp] theorem advance_nil (cursor : ByteCursor) : cursor.advance [] = cursor := by
  simp [advance, splice]

theorem fits_advance {n : ℕ} (h : cursor.Fits (bytes.length + n)) :
    (cursor.advance bytes).Fits n := by
  rw [Fits] at h ⊢
  change cursor.pos + bytes.length + n ≤ (splice cursor.buf cursor.pos bytes).length
  rw [length_splice (by omega)]
  omega

theorem Fits.mono {m n : ℕ} (h : cursor.Fits n) (hmn : m ≤ n) : cursor.Fits m :=
  Nat.le_trans (Nat.add_le_add_left hmn _) h

theorem advance_append (h : cursor.Fits (bytes ++ bytes').length) :
    (cursor.advance bytes).advance bytes' = cursor.advance (bytes ++ bytes') := by
  rw [advance, advance, advance, splice_splice_append h, List.length_append, Nat.add_assoc]

/-- **Pieces that fit end up side by side**, in a loop whose steps put one piece each. -/
theorem foldlM_eq {step : ByteCursor → β → Option ByteCursor} {enc : β → List UInt8}
    (hstep : ∀ cursor b, cursor.Fits (enc b).length → step cursor b = some (cursor.advance (enc b)))
    (bs : List β) (h : cursor.Fits (bs.flatMap enc).length) :
    bs.foldlM step cursor = some (cursor.advance (bs.flatMap enc)) := by
  induction bs generalizing cursor with
  | nil => rw [List.foldlM_nil, List.flatMap_nil, advance_nil]; rfl
  | cons b bs ih =>
    rw [List.flatMap_cons] at h ⊢
    have hlen : cursor.Fits ((enc b).length + (bs.flatMap enc).length) :=
      List.length_append ▸ h
    rw [List.foldlM_cons, hstep cursor b (hlen.mono (Nat.le_add_right _ _)), ← advance_append h]
    exact ih (fits_advance hlen)

/-! ### Words -/

/-- Big-endian words, one behind the other. -/
def wordBytes (words : List UInt32) : List UInt8 := words.flatMap u32ToBe

/-- The words of a grid, row by row. -/
def gridBytes (rows : List (List UInt32)) : List UInt8 := rows.flatMap wordBytes

/-- Words written one after the other. -/
def putWords (cursor : ByteCursor) (words : List UInt32) : Option ByteCursor :=
  words.foldlM (fun cursor word => cursor.put (u32ToBe word)) cursor

/-- The words of a grid, row by row. -/
def putGrid (cursor : ByteCursor) (rows : List (List UInt32)) : Option ByteCursor :=
  rows.foldlM putWords cursor

theorem putWords_eq (words : List UInt32) (h : cursor.Fits (wordBytes words).length) :
    cursor.putWords words = some (cursor.advance (wordBytes words)) :=
  foldlM_eq (fun _ _ => put_eq) words h

theorem putGrid_eq (rows : List (List UInt32)) (h : cursor.Fits (gridBytes rows).length) :
    cursor.putGrid rows = some (cursor.advance (gridBytes rows)) :=
  foldlM_eq (fun _ row => putWords_eq row) rows h

theorem length_flatMap_of_forall {f : β → List α} {k : ℕ} {bs : List β}
    (h : ∀ b ∈ bs, (f b).length = k) : (bs.flatMap f).length = bs.length * k := by
  induction bs with
  | nil => rw [List.flatMap_nil, List.length_nil, List.length_nil, Nat.zero_mul]
  | cons b bs ih =>
    rw [List.forall_mem_cons] at h
    rw [List.flatMap_cons, List.length_append, h.1, ih h.2, List.length_cons, Nat.succ_mul,
      Nat.add_comm]

theorem length_wordBytes (words : List UInt32) : (wordBytes words).length = words.length * 4 :=
  length_flatMap_of_forall fun word _ => length_u32ToBe word

theorem length_gridBytes {m n : ℕ} (grid : Vector (Vector UInt32 m) n) :
    (gridBytes (grid.toList.map Vector.toList)).length = n * (m * 4) := by
  have hrow : ∀ row ∈ grid.toList.map Vector.toList, (wordBytes row).length = m * 4 := by
    intro row hrow
    obtain ⟨words, -, rfl⟩ := List.mem_map.mp hrow
    rw [length_wordBytes, Vector.length_toList]
  rw [gridBytes, length_flatMap_of_forall hrow, List.length_map, Vector.length_toList]

theorem fits_replicate {n m : ℕ} {a : UInt8} (h : m ≤ n) :
    Fits ⟨List.replicate n a, 0⟩ m := by
  rw [Fits, List.length_replicate, Nat.zero_add]
  exact h

/-- A buffer that was filled to its end. -/
theorem buf_advance {n : ℕ} {a : UInt8} (h : bytes.length = n) :
    (advance ⟨List.replicate n a, 0⟩ bytes).buf = bytes := by
  rw [advance, splice, h]
  simp

end ByteCursor

namespace ByteReader

variable {ε : Type} {rest : List UInt8}

theorem reads_words {n : ℕ} (words : Vector UInt32 n) :
    Reads (vector (u32 : ByteReader ε UInt32) n) (ByteCursor.wordBytes words.toList) rest words :=
  .vector (fun word _ => reads_u32 word) words

theorem reads_grid {m n : ℕ} (grid : Vector (Vector UInt32 m) n) :
    Reads (vector (vector (u32 : ByteReader ε UInt32) m) n)
      (ByteCursor.gridBytes (grid.toList.map Vector.toList)) rest grid := by
  rw [ByteCursor.gridBytes, List.flatMap_map]
  exact .vector (fun words _ => reads_words words) grid

end ByteReader
