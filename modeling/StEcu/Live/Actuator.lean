import StEcu.Foundation.FixedPoint
import StEcu.Platform

/-!
# Actuator configuration and conditions

The injector and coil settings of page 0, brought into their bounds, and the dead time and dwell
for the conditions of the moment (`src/transport.rs`).
-/

namespace StEcu

/-- The settings of injectors and coils, as page 0 gives them. -/
structure ActuatorRuntimeConfig where
  cylinders : UInt8 := 4
  injectorFlowCcMin : ℚ := 440
  injectorDeadtime14vMs : ℚ := 9 / 10
  dwellModeTable : Bool := false
  dwellFixedMs : ℚ := 32 / 10
  dwellMinMs : ℚ := 8 / 10
  dwellMaxMs : ℚ := 5
  deriving DecidableEq, Repr

/-- `b"STC2"`. -/
def page0Magic : Bytes := [0x53, 0x54, 0x43, 0x32]

/-- The version of page 0. -/
def page0Version : UInt8 := 1

/-- The bounds of the time that an injector needs to open. -/
def actuatorDeadtimeBoundsMs : ℚ × ℚ := (5 / 100, 8)

/-- The bounds of the dwell. -/
def actuatorDwellBoundsMs : ℚ × ℚ := (5 / 10, 10)

/-- The bounds of the pulse width. -/
def actuatorPulsewidthBoundsMs : ℚ × ℚ := (2 / 10, 22)

/-- A dwell brought into its bounds. -/
def clampDwell (x : ℚ) : ℚ := clampRat x actuatorDwellBoundsMs.1 actuatorDwellBoundsMs.2

/-- A 16-bit word of a payload. -/
def readBeU16 (payload : Bytes) (offset : ℕ) : UInt16 :=
  u16OfBe (slice payload offset (offset + 2))

/-- The three dwell times put in order, at least 0.1 ms apart: fixed, minimum and maximum. -/
def orderDwell (fixedMs minMs maxMs : ℚ) : ℚ × ℚ × ℚ :=
  let (minMs, maxMs) := if maxMs < minMs then (maxMs, minMs) else (minMs, maxMs)
  let (minMs, maxMs) :=
    if maxMs - minMs < 1 / 10 then
      let maxMs := clampDwell (minMs + 1 / 10)
      (if maxMs ≤ minMs then max (maxMs - 1 / 10) actuatorDwellBoundsMs.1 else minMs, maxMs)
    else (minMs, maxMs)
  (clampRat fixedMs minMs maxMs, minMs, maxMs)

/-- A page too short, or with another magic or version, stands for the default settings. The
offsets read lie inside any longer page. -/
def parsePage0ActuatorConfig (payload : Bytes) : ActuatorRuntimeConfig :=
  if payload.length ≤ 39 then {}
  else if payload.take 4 ≠ page0Magic ∨ payload.getD 4 0 ≠ page0Version then {}
  else
    let cylinders := payload.getD 5 0
    let flow : ℚ := (readBeU16 payload 26).toNat
    let deadtimeRaw := readBeU16 payload 28
    let dwellAt (offset : ℕ) : ℚ := clampDwell ((readBeU16 payload offset).toNat / 1000)
    let (dwellFixedMs, dwellMinMs, dwellMaxMs) := orderDwell (dwellAt 34) (dwellAt 38) (dwellAt 36)
    { cylinders := if cylinders = 0 then 4 else min cylinders 16
      injectorFlowCcMin := if 50 ≤ flow then flow else 440
      injectorDeadtime14vMs :=
        -- a dead time of zero means that none is set
        if deadtimeRaw > 0 then
          clampRat (deadtimeRaw.toNat / 1000) actuatorDeadtimeBoundsMs.1 actuatorDeadtimeBoundsMs.2
        else 9 / 10
      dwellModeTable := payload.getD 33 0 = 1
      dwellFixedMs, dwellMinMs, dwellMaxMs }

/-- The time that an injector needs to open, by voltage and fuel temperature. -/
def injectorDeadtimeForConditionsMs (deadtime14vMs vbatt fuelTempC : ℚ) : ℚ :=
  let voltageCompMs := clampRat (14 - vbatt) (-6) 6 * (6 / 100)
  let temperatureScale :=
    clampRat (1 + clampRat (20 - fuelTempC) (-60) 60 * (25 / 10000)) (85 / 100) (12 / 10)
  clampRat (max (deadtime14vMs + voltageCompMs) (1 / 100) * temperatureScale)
    actuatorDeadtimeBoundsMs.1 actuatorDeadtimeBoundsMs.2

/-- The requested and the bounded dwell. -/
def dwellForConditionsMs (P : Platform) (config : ActuatorRuntimeConfig) (vbatt coolantC : ℚ) :
    ℚ × ℚ :=
  let voltageExponent : ℚ := if config.dwellModeTable then 55 / 100 else 40 / 100
  let voltageScale := clampRat (P.powf (14 / max vbatt 8) voltageExponent) (65 / 100) (17 / 10)
  let coolantBiasMs := if coolantC < 40 then min (40 - coolantC) 40 * (1 / 100) else 0
  let requested := config.dwellFixedMs * voltageScale + coolantBiasMs
  (requested, clampDwell (clampRat requested config.dwellMinMs config.dwellMaxMs))

end StEcu
