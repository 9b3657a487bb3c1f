import StEcu.Foundation.LittleEndian
import StEcu.Knock.Features

/-!
# Loading the weights of the network

The weights come in a blob: a header with the sizes of the layers, and the weights as words of 32
bits, least significant byte first (`TinyMlKnockClassifier::load_weights_blob` in
`src/knock_ml.rs`). What a word stands for is a parameter. A byte that is not there stops the
program: there is no result then.

## Main definitions

* `KnockWeights.loadBlob`, `TinyMlKnockClassifier.loadWeightsBlob`.
* `KnockWeights.ReadFrom`, `BlobLoaded`: all weights are the words of a blob, or none is changed.

## Main results

* `load_weights_blob_exact`: a blob is loaded as a whole or not at all.
-/

namespace StEcu

variable {α : Type}

/-- One word of the blob, in place of the old value. -/
def readF32 (fromBits : UInt32 → α) (blob : List UInt8) (_old : α) (offset : ℕ) :
    Option (α × ℕ) := do
  let word ← u32Le blob offset
  return (fromBits word, offset + 4)

/-- The loops over the weights, which share one offset. -/
def KnockWeights.readFrom (fromBits : UInt32 → α) (weights : KnockWeights α) (blob : List UInt8)
    (offset : ℕ) : Option (KnockWeights α) := do
  let read := readF32 fromBits blob
  let (w1, offset) ← overwrite (overwrite read) weights.w1 offset
  let (b1, offset) ← overwrite read weights.b1 offset
  let (w2, offset) ← overwrite (overwrite read) weights.w2 offset
  let (b2, offset) ← overwrite read weights.b2 offset
  let (w3, offset) ← overwrite (overwrite read) weights.w3 offset
  let (b3, _) ← overwrite read weights.b3 offset
  return { w1, b1, w2, b2, w3, b3 }

/-- The weights after a blob was loaded into them, and the result. -/
def KnockWeights.loadBlob (fromBits : UInt32 → α) (weights : KnockWeights α) (blob : List UInt8) :
    Option (KnockWeights α × Except String Unit) :=
  if blob.length < 12 then some (weights, .error "blob too small")
  else do
    let nIn := (← u16Le blob 0).toNat
    let nH1 := (← u16Le blob 2).toNat
    let nH2 := (← u16Le blob 4).toNat
    let nOut := (← u16Le blob 6).toNat
    if nIn ≠ 24 ∨ nH1 ≠ 32 ∨ nH2 ≠ 16 ∨ nOut ≠ 2 then
      return (weights, .error "weight blob dimensions mismatch")
    else
      let expectedFloats := nIn * nH1 + nH1 + nH1 * nH2 + nH2 + nH2 * nOut + nOut
      if blob.length < 12 + expectedFloats * 4 then
        return (weights, .error "blob truncated")
      else
        let next ← weights.readFrom fromBits blob 12
        return (next, .ok ())

/-- The weights of a blob, if it is a good one. -/
def TinyMlKnockClassifier.loadWeightsBlob (classifier : TinyMlKnockClassifier)
    (blob : List UInt8) : Option (TinyMlKnockClassifier × Except String Unit) := do
  let (weights, result) ← classifier.weights.loadBlob .ofBits blob
  return ({ classifier with weights }, result)

/-! ### What is loaded -/

/-- The header of a blob gives the sizes of the layers of the network. -/
def HasDimensions (blob : List UInt8) : Prop :=
  u16Le blob 0 = some 24 ∧ u16Le blob 2 = some 32 ∧ u16Le blob 4 = some 16 ∧ u16Le blob 6 = some 2

/-- A weight is what a given word of a blob stands for, counted from the end of the header. -/
def ReadAt (fromBits : UInt32 → α) (blob : List UInt8) (k : ℕ) (a : α) : Prop :=
  ∃ word, u32Le blob (12 + 4 * k) = some word ∧ a = fromBits word

/-- All weights are the words of a blob: layer after layer, and row after row. -/
structure KnockWeights.ReadFrom (fromBits : UInt32 → α) (blob : List UInt8)
    (weights : KnockWeights α) : Prop where
  w1 : ∀ (i : Fin 32) (j : Fin 24), ReadAt fromBits blob (24 * i + j) weights.w1[i][j]
  b1 : ∀ i : Fin 32, ReadAt fromBits blob (768 + i) weights.b1[i]
  w2 : ∀ (i : Fin 16) (j : Fin 32),
    ReadAt fromBits blob (800 + (32 * i + j)) weights.w2[i][j]
  b2 : ∀ i : Fin 16, ReadAt fromBits blob (1312 + i) weights.b2[i]
  w3 : ∀ (i : Fin 2) (j : Fin 16),
    ReadAt fromBits blob (1328 + (16 * i + j)) weights.w3[i][j]
  b3 : ∀ i : Fin 2, ReadAt fromBits blob (1360 + i) weights.b3[i]

/-- A blob is loaded as a whole or not at all: if and only if it is long enough and has the sizes of
the network in its header, all weights are its words; otherwise they are left as they were. -/
structure BlobLoaded (fromBits : UInt32 → α) (blob : List UInt8) (weights next : KnockWeights α)
    (result : Except String Unit) : Prop where
  ok_iff : result = .ok () ↔ 12 + 4 * 1362 ≤ blob.length ∧ HasDimensions blob
  read : result = .ok () → next.ReadFrom fromBits blob
  unchanged : ∀ e, result = .error e → next = weights

section Load

variable (fromBits : UInt32 → α) {blob : List UInt8} {n m : ℕ}

/-- The word at a position, if it is there. -/
def wordAt (blob : List UInt8) (pos : ℕ) : UInt32 := (u32Le blob pos).getD 0

theorem u32Le_eq_wordAt {pos : ℕ} (h : pos + 4 ≤ blob.length) :
    u32Le blob pos = some (wordAt blob pos) := by
  obtain ⟨word, hword⟩ := exists_u32Le h
  rw [wordAt, hword, Option.getD_some]

theorem readF32_eq {offset : ℕ} (h : offset + 4 ≤ blob.length) (old : α) :
    readF32 fromBits blob old offset = some (fromBits (wordAt blob offset), offset + 4) := by
  rw [readF32, u32Le_eq_wordAt h]
  rfl

theorem overwrite_readF32_eq {offset : ℕ} (h : offset + 4 * n ≤ blob.length) (xs : Vector α n) :
    overwrite (readF32 fromBits blob) xs offset =
      some (Vector.ofFn fun i => fromBits (wordAt blob (offset + 4 * i)), offset + 4 * n) := by
  refine overwrite_eq (fun old i => ?_) xs
  have hi := i.isLt
  rw [readF32_eq fromBits (by omega), Nat.mul_succ, Nat.add_assoc]

theorem overwrite_overwrite_readF32_eq {offset : ℕ} (h : offset + 4 * m * n ≤ blob.length)
    (xs : Vector (Vector α m) n) :
    overwrite (overwrite (readF32 fromBits blob)) xs offset =
      some (Vector.ofFn fun i => Vector.ofFn fun j =>
        fromBits (wordAt blob (offset + 4 * m * i + 4 * j)), offset + 4 * m * n) := by
  refine overwrite_eq (fun old i => ?_) xs
  have hle : 4 * m * i + 4 * m ≤ 4 * m * n := by
    rw [← Nat.mul_succ]
    exact Nat.mul_le_mul_left _ i.isLt
  rw [overwrite_readF32_eq fromBits (by omega), Nat.mul_succ, Nat.add_assoc]

theorem readAt_wordAt {k pos : ℕ} (hpos : pos = 12 + 4 * k) (h : pos + 4 ≤ blob.length) :
    ReadAt fromBits blob k (fromBits (wordAt blob pos)) :=
  ⟨_, hpos ▸ u32Le_eq_wordAt h, rfl⟩

/-- **The loops end where the size of the blob was checked**, and read every weight. -/
theorem exists_readFrom (weights : KnockWeights α) (h : 12 + 4 * 1362 ≤ blob.length) :
    ∃ next, weights.readFrom fromBits blob 12 = some next ∧ next.ReadFrom fromBits blob := by
  have hw1 : overwrite (overwrite (readF32 fromBits blob)) weights.w1 12 = some (_, 3084) :=
    overwrite_overwrite_readF32_eq fromBits (by omega) _
  have hb1 : overwrite (readF32 fromBits blob) weights.b1 3084 = some (_, 3212) :=
    overwrite_readF32_eq fromBits (by omega) _
  have hw2 : overwrite (overwrite (readF32 fromBits blob)) weights.w2 3212 = some (_, 5260) :=
    overwrite_overwrite_readF32_eq fromBits (by omega) _
  have hb2 : overwrite (readF32 fromBits blob) weights.b2 5260 = some (_, 5324) :=
    overwrite_readF32_eq fromBits (by omega) _
  have hw3 : overwrite (overwrite (readF32 fromBits blob)) weights.w3 5324 = some (_, 5452) :=
    overwrite_overwrite_readF32_eq fromBits (by omega) _
  have hb3 : overwrite (readF32 fromBits blob) weights.b3 5452 = some (_, 5460) :=
    overwrite_readF32_eq fromBits (by omega) _
  simp only [KnockWeights.readFrom, hw1, hb1, hw2, hb2, hw3, hb3, Option.bind_eq_bind,
    Option.bind_some]
  refine ⟨_, rfl, ⟨fun i j => ?_, fun i => ?_, fun i j => ?_, fun i => ?_, fun i j => ?_,
    fun i => ?_⟩⟩
  all_goals
    simp only [Fin.getElem_fin, Vector.getElem_ofFn]
    exact readAt_wordAt fromBits (by omega) (by omega)

theorem blobLoaded_of_error {weights : KnockWeights α}
    (h : ¬ (12 + 4 * 1362 ≤ blob.length ∧ HasDimensions blob)) (e : String) :
    BlobLoaded fromBits blob weights weights (.error e) :=
  ⟨iff_of_false (by simp) h, fun hok => (nomatch hok), fun _ _ => rfl⟩

/-- No read leaves the blob. -/
theorem exists_loadBlob (weights : KnockWeights α) (blob : List UInt8) :
    ∃ next result, weights.loadBlob fromBits blob = some (next, result) ∧
      BlobLoaded fromBits blob weights next result := by
  rw [KnockWeights.loadBlob]
  split
  · next hshort =>
    exact ⟨weights, _, rfl, blobLoaded_of_error fromBits (fun h => by omega) _⟩
  next hlong =>
  obtain ⟨nIn, hIn⟩ := exists_u16Le (show 0 + 2 ≤ blob.length by omega)
  obtain ⟨nH1, hH1⟩ := exists_u16Le (show 2 + 2 ≤ blob.length by omega)
  obtain ⟨nH2, hH2⟩ := exists_u16Le (show 4 + 2 ≤ blob.length by omega)
  obtain ⟨nOut, hOut⟩ := exists_u16Le (show 6 + 2 ≤ blob.length by omega)
  have hdims : HasDimensions blob ↔ nIn = 24 ∧ nH1 = 32 ∧ nH2 = 16 ∧ nOut = 2 := by
    simp only [HasDimensions, hIn, hH1, hH2, hOut, Option.some.injEq]
  simp only [hIn, hH1, hH2, hOut, Option.bind_eq_bind, Option.bind_some]
  split
  · next hmismatch =>
    refine ⟨weights, _, rfl, blobLoaded_of_error fromBits (fun h => ?_) _⟩
    obtain ⟨rfl, rfl, rfl, rfl⟩ := hdims.mp h.2
    simp at hmismatch
  next hmatch =>
  simp only [not_or, not_not] at hmatch
  obtain ⟨hIn', hH1', hH2', hOut'⟩ := hmatch
  have hdimensions : HasDimensions blob := hdims.mpr
    ⟨UInt16.toNat.inj hIn', UInt16.toNat.inj hH1', UInt16.toNat.inj hH2', UInt16.toNat.inj hOut'⟩
  rw [hIn', hH1', hH2', hOut']
  split
  · next htruncated =>
    exact ⟨weights, _, rfl, blobLoaded_of_error fromBits (fun h => by omega) _⟩
  next hcomplete =>
  have hlength : 12 + 4 * 1362 ≤ blob.length := by omega
  obtain ⟨next, hnext, hread⟩ := exists_readFrom fromBits weights hlength
  rw [hnext]
  exact ⟨next, .ok (), rfl, iff_of_true rfl ⟨hlength, hdimensions⟩, fun _ => hread,
    fun e he => nomatch he⟩

end Load

/-- **The weights are loaded as a whole or not at all**, whatever a word stands for; in a classifier
nothing else is changed. No read leaves the blob. -/
theorem load_weights_blob_exact (fromBits : UInt32 → α) (weights : KnockWeights α)
    (classifier : TinyMlKnockClassifier) (blob : List UInt8) :
    (∃ next result, weights.loadBlob fromBits blob = some (next, result) ∧
      BlobLoaded fromBits blob weights next result) ∧
    ∃ next result,
      classifier.loadWeightsBlob blob = some ({ classifier with weights := next }, result) ∧
      BlobLoaded .ofBits blob classifier.weights next result := by
  refine ⟨exists_loadBlob fromBits weights blob, ?_⟩
  obtain ⟨next, result, heq, hloaded⟩ := exists_loadBlob .ofBits classifier.weights blob
  refine ⟨next, result, ?_, hloaded⟩
  rw [TinyMlKnockClassifier.loadWeightsBlob, heq]
  rfl

end StEcu
