import StEcu.Foundation.FixedPoint
import StEcu.Protocol.Directories
import StEcu.Trigger.Runtime

/-!
# What a runtime starts with and answers from

The constant data of the runtime (`src/transport.rs`): the default calibration tables, the default
trouble codes, the channels of the output test, the samples of the raw sensor channels, and the
formatted texts of its answers.

## Main definitions

* `defaultTables`, `defaultDtcEntries`, `outputTestDirectory`, `sensorRawSample`.
* `AssignmentError.debugText`: the text of a rejected assignment.
* `Catalogue`: the answers that the model takes as given byte strings.
-/

namespace StEcu

/-! ### Calibration tables -/

/-- Evenly spaced breakpoints, rounded to whole numbers. -/
def axisRange (count : UInt8) (start stop : UInt16) : List UInt16 :=
  if count ≤ 1 then [start]
  else
    let span : ℚ := stop.toNat - start.toNat
    (List.range count.toNat).map fun index =>
      ratToU16 (roundHalfAway (start.toNat + index / (count.toNat - 1) * span))

/-- The bins of an axis, by what it is labelled with. -/
def defaultAxisBins (label : String) (count : UInt8) : List UInt16 :=
  if label = "RPM" then axisRange count 500 8000
  else if label = "MAP" then axisRange count 200 2500
  else if label = "TPS" then axisRange count 0 10000
  else if label = "Boost" then axisRange count 0 4000
  else axisRange count 0 10000

/-- A raw value as it is stored, cut off at its range. -/
def encodeTableRawValue (signed : Bool) (raw : ℤ) : UInt16 :=
  if signed then UInt16.ofNat (max (-32768) (min raw 32767) % 65536).toNat
  else UInt16.ofNat (max 0 (min raw 65535)).toNat

/-- The tables of a new board, each filled with its default. -/
def defaultTables : List RawTablePayload :=
  tableDirectory.map fun entry =>
    { tableId := entry.id
      xCount := entry.xCount
      yCount := entry.yCount
      xBins := defaultAxisBins entry.xLabel entry.xCount
      yBins := defaultAxisBins entry.yLabel entry.yCount
      data := List.replicate (entry.xCount.toNat * entry.yCount.toNat)
        (encodeTableRawValue entry.signed entry.defaultValueRaw) }

/-! ### Trouble codes -/

/-- A trouble code with its description, and whether it is active and confirmed. -/
structure RuntimeDtcEntry where
  code : String
  description : String
  severity : String
  active : Bool
  confirmed : Bool
  deriving DecidableEq, Repr

/-- The trouble codes of a new board. -/
def defaultDtcEntries : List RuntimeDtcEntry :=
  [{ code := "P0113", description := "Intake Air Temperature Circuit High"
     severity := "warning", active := false, confirmed := false },
   { code := "P0335", description := "Crank Position Sensor Range"
     severity := "critical", active := true, confirmed := true }]

/-- An entry as a JSON object, fields in declaration order. -/
def RuntimeDtcEntry.json (P : Platform) (entry : RuntimeDtcEntry) : String :=
  "\x7b\"code\":" ++ P.jsonStr entry.code ++ ",\"description\":" ++ P.jsonStr entry.description ++
    ",\"severity\":" ++ P.jsonStr entry.severity ++ ",\"active\":" ++ toString entry.active ++
    ",\"confirmed\":" ++ toString entry.confirmed ++ "\x7d"

/-- The trouble codes as a JSON list. -/
def encodeDtcEntries (P : Platform) (entries : List RuntimeDtcEntry) : Bytes :=
  utf8 ("[" ++ ",".intercalate (entries.map (RuntimeDtcEntry.json P)) ++ "]")

/-! ### Output test -/

/-- The outputs of the board that may be tested. -/
def outputTestDirectory : List OutputTestDirectoryEntry :=
  [⟨0, "injector_1", "Injector 1", "injectors", some 5⟩,
    ⟨1, "injector_2", "Injector 2", "injectors", some 5⟩,
    ⟨8, "ignition_1", "Coil 1", "coils", some 3⟩,
    ⟨9, "ignition_2", "Coil 2", "coils", some 3⟩,
    ⟨16, "fuel_pump", "Fuel Pump", "aux", none⟩,
    ⟨17, "fan_1", "Fan 1", "aux", none⟩,
    ⟨19, "ac_clutch", "A/C Clutch", "aux", none⟩,
    ⟨24, "idle_control", "Idle Valve", "valves", none⟩,
    ⟨25, "boost_control", "Boost Solenoid 1", "valves", none⟩,
    ⟨27, "vvt_b1_intake", "VVT B1 Intake", "valves", none⟩]

/-! ### Raw sensors -/

/-- The voltage that the runtime reports for a channel. -/
def sensorRawVoltage (channel : UInt8) : ℚ :=
  match channel.toNat with
  | 0 => 218 / 100
  | 1 => 194 / 100
  | 2 => 87 / 100
  | 3 => 142 / 100
  | 4 => 241 / 100
  | 5 => 126 / 100
  | 6 => 158 / 100
  | 7 => 152 / 100
  | 8 => 207 / 100
  | 9 => 174 / 100
  | 10 => 188 / 100
  | _ => 0

/-- The counts of the converter for a channel, with its voltage. -/
def sensorRawSample (channel : UInt8) : UInt16 × ℚ :=
  let voltage := sensorRawVoltage channel
  (ratToU16 (roundHalfAway (clampRat (voltage / (33 / 10)) 0 1 * 65535)), voltage)

/-! ### Texts -/

/-- The name of a function in the debug format. -/
def EcuFunction.debugText : EcuFunction → String
  | crankInput => "CrankInput"
  | camInput => "CamInput"
  | mapSensor => "MapSensor"
  | tpsSensor => "TpsSensor"
  | cltSensor => "CltSensor"
  | iatSensor => "IatSensor"
  | boostControl => "BoostControl"
  | idleControl => "IdleControl"
  | injector1 => "Injector1"
  | injector2 => "Injector2"
  | ignition1 => "Ignition1"
  | ignition2 => "Ignition2"

/-- The error as the debug format writes it. -/
def BoardValidationError.debugText : BoardValidationError → String
  | unknownPin => "UnknownPin"
  | reservedPin => "ReservedPin"
  | unsupportedFunction => "UnsupportedFunction"

/-- A struct variant in the debug format: its name, and its fields with their texts. -/
def debugVariant (name : String) (fields : List (String × String)) : String :=
  name ++ " \x7b " ++ ", ".intercalate (fields.map fun field => field.1 ++ ": " ++ field.2) ++
    " \x7d"

/-- `format!("{error:?}")`. -/
def AssignmentError.debugText (P : Platform) : AssignmentError → String
  | board error => "Board(" ++ error.debugText ++ ")"
  | invalidPayload => "InvalidPayload"
  | payloadTooLarge encodedLen pageLen =>
    debugVariant "PayloadTooLarge"
      [("encoded_len", toString encodedLen), ("page_len", toString pageLen)]
  | duplicateFunction function =>
    debugVariant "DuplicateFunction" [("function", function.debugText)]
  | duplicatePin pinId existing requested =>
    debugVariant "DuplicatePin"
      [("pin_id", P.debugStr pinId), ("existing", existing.debugText),
        ("requested", requested.debugText)]
  | fixedPinRequired function expectedPinId requestedPinId =>
    debugVariant "FixedPinRequired"
      [("function", function.debugText), ("expected_pin_id", P.debugStr expectedPinId),
        ("requested_pin_id", P.debugStr requestedPinId)]
  | resourceConflict resource existing requested =>
    debugVariant "ResourceConflict"
      [("resource", P.debugStr resource), ("existing", existing.debugText),
        ("requested", requested.debugText)]

/-- The answers that the model takes as given: the constant directories, and the two pictures
that are rendered from the trigger state. -/
structure Catalogue where
  freezeFrames : Bytes
  triggerDecoderDirectory : Bytes
  canTemplateDirectory : Bytes
  canSignalDirectory : Bytes
  pinDirectory : Bytes
  sensorRawDirectory : Bytes
  networkProfile : Bytes
  /-- The trigger state after its counters advanced, and its sync state. -/
  triggerCapture : TriggerRuntime → String → Bytes
  triggerToothLog : TriggerRuntime → String → Bytes

end StEcu
