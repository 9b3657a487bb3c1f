import StEcu.Foundation.Checked
import StEcu.Foundation.ExactFloat

/-!
# The features of a knock spectrum

The 24 features that the network is given are read from windows of a spectrum of 256 bins
(`src/knock_ml.rs`). A subtraction below zero or a slice out of range has no result. The additions
and products of `usize` wrap around at `2 ^ w`.

## Main definitions

* `knockWindow`: the window around the knock frequency, and the width of its eight sub-bands.
* `extractFeatures`: the features.
* `KnockWeights`, `infer`: the network.
* `TinyMlKnockClassifier.classify`.

## Main results

* `exists_knockWindow`: the window is within the spectrum.
* `isSome_subBands_iff`: the sub-bands are so if and only if the window starts early enough.
* `features_in_range_iff`: when the features are extracted.
-/

namespace StEcu

/-- The magnitudes of a spectrum. -/
abbrev MagBuf := Vector ExactFloat 256

/-! ### The window -/

/-- The bins from `windowStart` to `windowEnd`, and the width of a sub-band. -/
structure KnockWindow where
  windowStart : ℕ
  windowEnd : ℕ
  subW : ℕ
  deriving DecidableEq, Repr

/-- The window is `4 * bwBins` bins wide on each side, as far as the spectrum goes. -/
def knockWindow (w centerBin bwBins : ℕ) : Option KnockWindow := do
  let reach := 4 * bwBins % 2 ^ w
  let windowStart := centerBin - reach
  let windowEnd := min ((centerBin + reach) % 2 ^ w) 255
  let width ← checkedSub windowEnd windowStart
  return { windowStart, windowEnd, subW := max (width / 8) 1 }

/-- The energy of some bins. -/
def energy (bins : List ExactFloat) : ExactFloat := .total (bins.map fun v => v * v)

/-- The mean energy of a sub-band. -/
def subBand (magBuf : MagBuf) (window : KnockWindow) (band : Fin 8) : Option ExactFloat := do
  let lo := window.windowStart + band * window.subW
  let hi := min (lo + window.subW) 256
  let bins ← checkedSlice magBuf.toList lo hi
  return energy bins / (window.subW : ExactFloat)

/-- The energy of each of the eight parts of the window. -/
def subBands (magBuf : MagBuf) (window : KnockWindow) : Option (Vector ExactFloat 8) :=
  Vector.ofFnM (subBand magBuf window)

/-- The bins of the window. -/
def windowBins (magBuf : MagBuf) (window : KnockWindow) : Option (List ExactFloat) :=
  checkedSlice magBuf.toList window.windowStart (min window.windowEnd 255 + 1)

/-! ### The features -/

/-- A magnitude below which nothing is divided. -/
def tiny : ExactFloat := .finite (1 / 10 ^ 9)

/-- The mean frequency of the window, as a share of the spectrum. -/
def spectralCentroid (windowStart : ℕ) (bins : List ExactFloat) : ExactFloat :=
  let normDen := ExactFloat.total bins
  if tiny < normDen then
    .total (bins.mapIdx fun i v => ((windowStart + i : ℕ) : ExactFloat) * v) / (normDen * 255)
  else .finite (1 / 2)

/-- How far the window spreads around its mean frequency. -/
def spectralSpread (windowStart : ℕ) (centroid : ExactFloat) (bins : List ExactFloat) :
    ExactFloat :=
  let normDen := ExactFloat.total bins
  if tiny < normDen then
    .total (bins.mapIdx fun i v =>
      let binNorm := ((windowStart + i : ℕ) : ExactFloat) / 255
      (binNorm - centroid) * (binNorm - centroid) * v) / normDen
  else 0

/-- The first bin at which the energy that was added up reaches a threshold. -/
def rolloffBin (share : ℕ → ExactFloat) (thresh : ExactFloat) (windowStart : ℕ) :
    ExactFloat → List ℕ → ℕ
  | _, [] => windowStart
  | acc, i :: bins =>
    if thresh ≤ acc + share i then i else rolloffBin share thresh windowStart (acc + share i) bins

/-- The frequency below which most of the energy of the window lies. -/
def spectralRolloff (window : KnockWindow) (bands : Vector ExactFloat 8)
    (totalEnergy : ExactFloat) : ExactFloat :=
  let share i := bands.get ⟨min (i - window.windowStart) 7, by omega⟩ * totalEnergy
  let bins := List.range' window.windowStart (min window.windowEnd 255 + 1 - window.windowStart)
  let bin := rolloffBin share (.finite (85 / 100) * totalEnergy) window.windowStart 0 bins
  (bin : ExactFloat) / 255

/-- How far the peak stands out of the noise, on a logarithmic scale. -/
def peakToNoise (ln : ExactFloat → ExactFloat) (noiseFloor : ExactFloat)
    (bins : List ExactFloat) : ExactFloat :=
  let peak := bins.foldl max (.infinity true)
  if tiny < noiseFloor then max (ln (peak / noiseFloor)) 0 / 4 else 0

/-- The first and the last bin around a multiple of the center. -/
def harmonicBins (w centerBin bwBins multiple : ℕ) : ℕ × ℕ :=
  let harmonic := centerBin * multiple % 2 ^ w
  (min (harmonic - bwBins) 255, min ((harmonic + bwBins) % 2 ^ w) 255)

/-- The mean energy of the bins around a harmonic. -/
def harmonicEnergy (magBuf : MagBuf) (first last : ℕ) : Option ExactFloat :=
  if first < last then do
    let bins ← checkedSlice magBuf.toList first (last + 1)
    let distance ← checkedSub last first
    return energy bins / ((distance + 1 : ℕ) : ExactFloat)
  else some 0

/-- What a sub-band is above the learned noise. -/
def deltaFromNoise (noiseFloor e : ExactFloat) : ExactFloat :=
  min (max (e - noiseFloor) 0 / (noiseFloor + tiny)) 4 / 4

/-- The features of a spectrum, in the order in which the network takes them. -/
def extractFeatures (w : ℕ) (sqrt ln : ExactFloat → ExactFloat) (magBuf : MagBuf)
    (centerBin bwBins : ℕ) (noiseFloor rpmNorm mapNorm : ExactFloat) :
    Option (Vector ExactFloat 24) := do
  let window ← knockWindow w centerBin bwBins
  let energies ← subBands magBuf window
  let totalEnergy := ExactFloat.total energies.toList
  let bands := if tiny < totalEnergy then energies.map (· / totalEnergy) else energies
  let bins ← windowBins magBuf window
  let centroid := spectralCentroid window.windowStart bins
  let spread := spectralSpread window.windowStart centroid bins
  let rolloff := spectralRolloff window bands totalEnergy
  let pnr := peakToNoise ln noiseFloor bins
  let (h2Start, h2End) := harmonicBins w centerBin bwBins 2
  let (h3Start, h3End) := harmonicBins w centerBin bwBins 3
  let h2Energy ← harmonicEnergy magBuf h2Start h2End
  let h3Energy ← if h3End < 256 then harmonicEnergy magBuf h3Start h3End else some 0
  let fundamental := bands.foldl max 0 + tiny
  let deltas := (← subBands magBuf window).map (deltaFromNoise noiseFloor)
  return bands ++ #v[centroid, sqrt spread, rolloff, min pnr 1, min (h2Energy / fundamental) 1,
    min (h3Energy / fundamental) 1, rpmNorm.clamp 0 1, mapNorm.clamp 0 1] ++ deltas

/-! ### Ranges -/

/-- The window is not empty, and it ends in the spectrum. -/
structure KnockWindow.InSpectrum (window : KnockWindow) : Prop where
  ordered : window.windowStart ≤ window.windowEnd
  ends : window.windowEnd ≤ 255
  width : window.subW = max ((window.windowEnd - window.windowStart) / 8) 1

section Ranges

variable {w centerBin bwBins : ℕ} {window : KnockWindow}

/-- **The window is in the spectrum**, and it starts `4 * bwBins` bins before its center. -/
theorem exists_knockWindow (hw : 16 ≤ w) (hcenter : centerBin ≤ 255)
    (hbw : 4 * bwBins < 2 ^ w) : ∃ window, knockWindow w centerBin bwBins = some window ∧
      window.InSpectrum ∧ window.windowStart = centerBin - 4 * bwBins := by
  have hpow : 2 ^ 16 ≤ 2 ^ w := Nat.pow_le_pow_right (by decide) hw
  have hreach : 4 * bwBins % 2 ^ w = 4 * bwBins := Nat.mod_eq_of_lt hbw
  have hordered : centerBin - 4 * bwBins ≤ min ((centerBin + 4 * bwBins) % 2 ^ w) 255 := by
    -- A sum that wraps around has a reach beyond the first bin.
    rcases Nat.lt_or_ge (centerBin + 4 * bwBins) (2 ^ w) with hsum | hsum
    · rw [Nat.mod_eq_of_lt hsum]
      omega
    · omega
  simp only [knockWindow, hreach, checkedSub_eq hordered, Option.bind_eq_bind, Option.bind_some]
  exact ⟨_, rfl, ⟨hordered, min_le_right _ _, rfl⟩, rfl⟩

/-- Seven sub-bands fit before the end of the spectrum, wherever a narrow window starts. -/
theorem subBand_start_le_iff (h : window.InSpectrum) :
    (∀ band : Fin 8, window.windowStart + band * window.subW ≤ 256) ↔
      window.windowStart ≤ 249 := by
  obtain ⟨hordered, hends, hwidth⟩ := h
  constructor
  · intro hbands
    have hlast := hbands 7
    have hone : 1 ≤ window.subW := hwidth ▸ le_max_right _ _
    change window.windowStart + 7 * window.subW ≤ 256 at hlast
    omega
  · intro hstart band
    have hband : band * window.subW ≤ 7 * window.subW := Nat.mul_le_mul_right _ (by omega)
    omega

theorem isSome_subBand_iff (magBuf : MagBuf) (window : KnockWindow) (band : Fin 8) :
    (subBand magBuf window band).isSome ↔ window.windowStart + band * window.subW ≤ 256 := by
  have hmap : (subBand magBuf window band).isSome = (checkedSlice magBuf.toList
      (window.windowStart + band * window.subW)
      (min (window.windowStart + band * window.subW + window.subW) 256)).isSome := by
    rw [subBand]
    cases checkedSlice magBuf.toList _ _ <;> rfl
  rw [hmap, isSome_checkedSlice, Vector.length_toList]
  omega

/-- **When the sub-bands are in the spectrum.** -/
theorem isSome_subBands_iff (magBuf : MagBuf) (h : window.InSpectrum) :
    (subBands magBuf window).isSome ↔ window.windowStart ≤ 249 := by
  rw [subBands, isSome_ofFnM, ← subBand_start_le_iff h]
  exact forall_congr' (isSome_subBand_iff magBuf window)

theorem exists_windowBins (magBuf : MagBuf) (h : window.InSpectrum) :
    ∃ bins, windowBins magBuf window = some bins := by
  rw [← Option.isSome_iff_exists, windowBins, isSome_checkedSlice, Vector.length_toList]
  have := h.ordered
  have := h.ends
  omega

/-- The windows around the harmonics are in the spectrum wherever they are read. -/
theorem exists_harmonicEnergy (magBuf : MagBuf) (first : ℕ) {last : ℕ} (h : last ≤ 255) :
    ∃ e, harmonicEnergy magBuf first last = some e := by
  rw [harmonicEnergy]
  split
  · next hlt =>
    have hslice : (checkedSlice magBuf.toList first (last + 1)).isSome := by
      rw [isSome_checkedSlice, Vector.length_toList]
      omega
    obtain ⟨bins, hbins⟩ := Option.isSome_iff_exists.mp hslice
    rw [hbins, checkedSub_eq hlt.le]
    exact ⟨_, rfl⟩
  · exact ⟨_, rfl⟩

theorem isSome_extractFeatures_iff (hw : 16 ≤ w) (hcenter : centerBin ≤ 255)
    (hbw : 4 * bwBins < 2 ^ w) (sqrt ln : ExactFloat → ExactFloat) (magBuf : MagBuf)
    (noiseFloor rpmNorm mapNorm : ExactFloat) :
    (extractFeatures w sqrt ln magBuf centerBin bwBins noiseFloor rpmNorm mapNorm).isSome ↔
      centerBin ≤ 249 + 4 * bwBins := by
  obtain ⟨window, hwindow, hin, hstart⟩ := exists_knockWindow hw hcenter hbw
  obtain ⟨bins, hbins⟩ := exists_windowBins magBuf hin
  obtain ⟨h2, hh2⟩ := exists_harmonicEnergy magBuf (harmonicBins w centerBin bwBins 2).1
    (show (harmonicBins w centerBin bwBins 2).2 ≤ 255 from min_le_right _ _)
  obtain ⟨h3, hh3⟩ := exists_harmonicEnergy magBuf (harmonicBins w centerBin bwBins 3).1
    (show (harmonicBins w centerBin bwBins 3).2 ≤ 255 from min_le_right _ _)
  have hbands : (extractFeatures w sqrt ln magBuf centerBin bwBins noiseFloor rpmNorm
      mapNorm).isSome = (subBands magBuf window).isSome := by
    have hends : (harmonicBins w centerBin bwBins 3).2 < 256 :=
      Nat.lt_succ_of_le (min_le_right _ _)
    simp only [extractFeatures, hwindow, hbins, hh2, hh3, if_pos hends, Option.bind_eq_bind,
      Option.bind_some]
    cases subBands magBuf window <;> rfl
  rw [hbands, isSome_subBands_iff magBuf hin, hstart, Nat.sub_le_iff_le_add]

end Ranges

/-! ### The network -/

/-- The weights and the offsets of three layers. -/
structure KnockWeights (α : Type*) where
  w1 : Vector (Vector α 24) 32
  b1 : Vector α 32
  w2 : Vector (Vector α 32) 16
  b2 : Vector α 16
  w3 : Vector (Vector α 16) 2
  b3 : Vector α 2
  deriving DecidableEq, Repr

/-- The weights that the firmware starts with. -/
def KnockWeights.default : KnockWeights ExactFloat where
  w1 := .ofFn fun i => .ofFn fun j =>
    if i < 16 then
      if j = 11 then .finite (3 / 10)
      else if j = 8 then .finite (1 / 10)
      else if 16 ≤ j then .finite (2 / 10)
      else 0
    else 0
  b1 := .replicate 32 (.finite (-1 / 10))
  w2 := .replicate 16 (.replicate 32 (.finite (1 / 10)))
  b2 := .replicate 16 0
  w3 := #v[.replicate 16 (.finite (-1 / 2)), .replicate 16 (.finite (1 / 2))]
  b3 := #v[.finite (1 / 2), .finite (-1 / 2)]

/-- A layer of the network. -/
def layer {m n : ℕ} (weights : Vector (Vector ExactFloat m) n) (offsets : Vector ExactFloat n)
    (inputs : Vector ExactFloat m) : Vector ExactFloat n :=
  weights.zipWith (fun row offset => (row.zipWith (· * ·) inputs).foldl (· + ·) offset) offsets

/-- The activation of the hidden layers. -/
def relu (x : ExactFloat) : ExactFloat := if 0 < x then x else 0

/-- The probabilities of two classes. -/
def softmax2 (exp : ExactFloat → ExactFloat) (logits : Vector ExactFloat 2) :
    Vector ExactFloat 2 :=
  let largest := max (logits.get 0) (logits.get 1)
  let e0 := exp (logits.get 0 - largest)
  let e1 := exp (logits.get 1 - largest)
  #v[e0 / (e0 + e1), e1 / (e0 + e1)]

/-- The probability of knock. -/
def infer (exp : ExactFloat → ExactFloat) (weights : KnockWeights ExactFloat)
    (features : Vector ExactFloat 24) : ExactFloat :=
  let h1 := (layer weights.w1 weights.b1 features).map relu
  let h2 := (layer weights.w2 weights.b2 h1).map relu
  (softmax2 exp (layer weights.w3 weights.b3 h2)).get 1

/-- The weights of the network, its threshold and its last probability. -/
structure TinyMlKnockClassifier where
  weights : KnockWeights ExactFloat := .default
  threshold : ExactFloat := .finite (65 / 100)
  lastProb : ExactFloat := 0
  knockCount : UInt32 := 0
  deriving DecidableEq, Repr

/-- One classification, with the probability that it found. -/
def TinyMlKnockClassifier.classify (classifier : TinyMlKnockClassifier) (w : ℕ)
    (sqrt ln exp : ExactFloat → ExactFloat) (magBuf : MagBuf) (centerBin bwBins : ℕ)
    (noiseFloor rpmNorm mapNorm : ExactFloat) : Option (TinyMlKnockClassifier × Bool) := do
  let features ← extractFeatures w sqrt ln magBuf centerBin bwBins noiseFloor rpmNorm mapNorm
  let p := infer exp classifier.weights features
  if classifier.threshold ≤ p then
    return ({ classifier with lastProb := p, knockCount := classifier.knockCount + 1 }, true)
  else return ({ classifier with lastProb := p }, false)

/-! ### When there is a result -/

section Classify

variable {w centerBin bwBins : ℕ}

theorem TinyMlKnockClassifier.isSome_classify (classifier : TinyMlKnockClassifier) (w : ℕ)
    (sqrt ln exp : ExactFloat → ExactFloat) (magBuf : MagBuf) (centerBin bwBins : ℕ)
    (noiseFloor rpmNorm mapNorm : ExactFloat) :
    (classifier.classify w sqrt ln exp magBuf centerBin bwBins noiseFloor rpmNorm mapNorm).isSome =
      (extractFeatures w sqrt ln magBuf centerBin bwBins noiseFloor rpmNorm mapNorm).isSome := by
  rw [classify]
  cases extractFeatures w sqrt ln magBuf centerBin bwBins noiseFloor rpmNorm mapNorm with
  | none => rfl
  | some features =>
    rw [Option.bind_eq_bind, Option.bind_some]
    dsimp only
    split <;> rfl

/-- **When the features are extracted**, and the knock is classified: if and only if the first bin
of the window leaves room for seven sub-bands. -/
theorem features_in_range_iff (hw : 16 ≤ w) (hcenter : centerBin ≤ 255)
    (hbw : 4 * bwBins < 2 ^ w) (sqrt ln exp : ExactFloat → ExactFloat) (magBuf : MagBuf)
    (noiseFloor rpmNorm mapNorm : ExactFloat) (classifier : TinyMlKnockClassifier) :
    ((extractFeatures w sqrt ln magBuf centerBin bwBins noiseFloor rpmNorm mapNorm).isSome ↔
      centerBin ≤ 249 + 4 * bwBins) ∧
    ((classifier.classify w sqrt ln exp magBuf centerBin bwBins noiseFloor rpmNorm
      mapNorm).isSome ↔ centerBin ≤ 249 + 4 * bwBins) := by
  rw [classifier.isSome_classify, and_self_iff]
  exact isSome_extractFeatures_iff hw hcenter hbw sqrt ln magBuf noiseFloor rpmNorm mapNorm

/-- The window is the last bin, and the third of its sub-bands starts beyond the spectrum. -/
theorem last_bin_out_of_range : knockWindow 32 255 0 = some ⟨255, 255, 1⟩ ∧
    subBand (.replicate 256 0) ⟨255, 255, 1⟩ 2 = none ∧
    extractFeatures 32 id id (.replicate 256 0) 255 0 0 0 0 = none ∧
    TinyMlKnockClassifier.classify {} 32 id id id (.replicate 256 0) 255 0 0 0 0 = none := by
  have hfeatures : extractFeatures 32 id id (.replicate 256 0) 255 0 0 0 0 = none := by
    rw [← Option.not_isSome_iff_eq_none, isSome_extractFeatures_iff (by decide) (by decide)
      (by decide)]
    decide
  have hband : ¬ (subBand (.replicate 256 0) ⟨255, 255, 1⟩ 2).isSome := by
    rw [isSome_subBand_iff]
    decide
  refine ⟨rfl, Option.not_isSome_iff_eq_none.mp hband, hfeatures, ?_⟩
  rw [← Option.not_isSome_iff_eq_none, TinyMlKnockClassifier.isSome_classify, hfeatures]
  decide

/-- A window in the middle of a spectrum without any magnitudes. -/
theorem features_in_range_iff_middle :
    (extractFeatures 32 id id (.replicate 256 0) 80 5 0 0 0).isSome ∧
    (TinyMlKnockClassifier.classify {} 32 id id id (.replicate 256 0) 80 5 0 0 0).isSome := by
  have hbw : 4 * 5 < 2 ^ 32 := by decide
  have hcenter : 80 ≤ 255 := by decide
  obtain ⟨hfeatures, hclassify⟩ :=
    features_in_range_iff (by decide) hcenter hbw id id id (.replicate 256 0) 0 0 0 {}
  exact ⟨hfeatures.mpr (by decide), hclassify.mpr (by decide)⟩

end Classify

end StEcu
