import StEcu.Network
import StEcu.Protocol.Payloads

/-!
# Directory payloads

The entries of the directories that the firmware serves and their encoders (`src/protocol.rs`,
`src/trigger.rs`). An entry that is read back has the fields of the entry that was written, only
with strings of its own, so one type serves both; a pin and a pin assignment are written in part,
and have a type of their own for what is read back.

## Main definitions

* `PinCapability.flags`, `encodePinCapability`, `encodePinDirectory`.
* `OutputTestDirectoryEntry`, `SensorRawDirectoryEntry`, `TriggerDecoderPreset`, `TriggerCapture`,
  `TriggerToothLog`, `CanTemplateDirectoryEntry`, `CanSignalDirectoryEntry`, and their encoders.
* `encodeNetworkProfilePayload`.
-/

namespace StEcu

/-! ### Pins -/

/-- What a pin supports, one bit for each. -/
def PinCapability.flags (pin : PinCapability) : UInt16 :=
  (pin.reserved.toUInt16 <<< 0) ||| (pin.supportsAdc.toUInt16 <<< 1) |||
    (pin.supportsPwm.toUInt16 <<< 2) ||| (pin.supportsCapture.toUInt16 <<< 3) |||
    (pin.supportsGpioIn.toUInt16 <<< 4) ||| (pin.supportsGpioOut.toUInt16 <<< 5) |||
    (pin.supportsCan.toUInt16 <<< 6) ||| (pin.supportsUart.toUInt16 <<< 7) |||
    (pin.supportsSpi.toUInt16 <<< 8) ||| (pin.supportsI2c.toUInt16 <<< 9)

/-- The bytes of a route. Without an exclusive resource its name is empty. -/
def encodePinRoute (route : PinRoute) : Bytes :=
  route.functionClass.code :: pushString route.muxMode ++ pushString route.signal ++
    pushString (route.exclusiveResource.getD "")

/-- The bytes of a pin with its routes. -/
def encodePinCapability (pin : PinCapability) : Bytes :=
  pushString pin.pinId ++ pushString pin.label ++ pushString pin.electricalClass.key ++
    u16ToBe pin.flags ++ pushString (pin.timerInstance.getD "") ++
    pushString (pin.timerChannel.getD "") ++ pushString (pin.adcInstance.getD "") ++
    [pin.adcChannel.getD 0xFF] ++ pushString pin.boardPath.key ++
    [UInt8.ofNat pin.routes.length] ++ pin.routes.flatMap encodePinRoute

/-- The bytes of some pins, behind their number. -/
def encodePinDirectory (pins : List PinCapability) : Bytes :=
  UInt8.ofNat pins.length :: pins.flatMap encodePinCapability

/-- The answer that lists the pins of the board. -/
def encodePinDirectoryPayload : Bytes := encodePinDirectory stEcuV1Pins

/-! ### Output test -/

/-- An output that the host may test. -/
structure OutputTestDirectoryEntry where
  channel : UInt8
  function : String
  label : String
  group : String
  defaultPulseMs : Option UInt16
  deriving DecidableEq, Repr

/-- The code of a group of outputs on the wire. -/
def outputGroupCode (key : String) : Option UInt8 :=
  if key = "injectors" then some 1
  else if key = "coils" then some 2
  else if key = "aux" then some 3
  else if key = "valves" then some 4
  else none

/-- The answer that lists the outputs. An output without a pulse length has 0xFFFF in its place. -/
def encodeOutputTestDirectoryPayload (entries : List OutputTestDirectoryEntry) : Bytes :=
  UInt8.ofNat entries.length :: entries.flatMap fun entry =>
    [entry.channel, (outputGroupCode entry.group).getD 0] ++
      u16ToBe (entry.defaultPulseMs.getD 0xFFFF) ++ pushString entry.function ++
      pushString entry.label

/-! ### Raw sensors -/

/-- A sensor input: its pin, the voltages that it is expected to have and those that are faults. -/
structure SensorRawDirectoryEntry where
  channel : UInt8
  key : String
  label : String
  unit : String
  pinId : String
  pinLabel : String
  expectedMinMv : UInt16
  expectedMaxMv : UInt16
  faultLowMv : UInt16
  faultHighMv : UInt16
  deriving DecidableEq, Repr

/-- The answer that lists the sensor inputs. -/
def encodeSensorRawDirectoryPayload (entries : List SensorRawDirectoryEntry) : Bytes :=
  UInt8.ofNat entries.length :: entries.flatMap fun entry =>
    entry.channel :: u16ToBe entry.expectedMinMv ++ u16ToBe entry.expectedMaxMv ++
      u16ToBe entry.faultLowMv ++ u16ToBe entry.faultHighMv ++ pushString entry.key ++
      pushString entry.label ++ pushString entry.unit ++ pushString entry.pinId ++
      pushString entry.pinLabel

/-! ### Trigger -/

/-- A trigger decoder: the engines that it is for, and the sensors, edges and patterns that it
expects. -/
structure TriggerDecoderPreset where
  key : String
  label : String
  family : String
  decoder : String
  patternKind : String
  primaryInputLabel : String
  secondaryInputLabel : Option String
  primarySensorKind : String
  secondarySensorKind : Option String
  edgePolicy : String
  syncStrategy : String
  primaryPatternHint : String
  secondaryPatternHint : Option String
  referenceDescription : String
  expectedEngineCycleDeg : UInt16
  requiresSecondary : Bool
  supportsSequential : Bool
  deriving DecidableEq, Repr

/-- The answer that lists the trigger decoders. -/
def encodeTriggerDecoderDirectoryPayload (entries : List TriggerDecoderPreset) : Bytes :=
  UInt8.ofNat entries.length :: entries.flatMap fun entry =>
    [boolByte entry.requiresSecondary, boolByte entry.supportsSequential] ++
      u16ToBe entry.expectedEngineCycleDeg ++ pushString entry.key ++ pushString entry.label ++
      pushString entry.family ++ pushString entry.decoder ++ pushString entry.patternKind ++
      pushString entry.primaryInputLabel ++ pushString (entry.secondaryInputLabel.getD "") ++
      pushString entry.primarySensorKind ++ pushString (entry.secondarySensorKind.getD "") ++
      pushString entry.edgePolicy ++ pushString entry.syncStrategy ++
      pushString entry.primaryPatternHint ++ pushString (entry.secondaryPatternHint.getD "") ++
      pushString entry.referenceDescription

/-- A scope picture of the trigger: the samples of both wheels over a window. -/
structure TriggerCapture where
  presetKey : String
  presetLabel : String
  syncState : String
  triggerRpm : UInt16
  syncLossCounter : UInt32
  syncedCycles : UInt32
  engineCycleDeg : UInt16
  captureWindowUs : UInt32
  samplePeriodUs : UInt16
  primaryLabel : String
  secondaryLabel : Option String
  toothCount : UInt16
  syncGapToothCount : UInt8
  primaryEdgeCount : UInt16
  secondaryEdgeCount : UInt16
  primarySamples : Bytes
  secondarySamples : Bytes
  deriving DecidableEq, Repr

/-- The number of samples is that of the primary input. -/
def encodeTriggerCapturePayload (entry : TriggerCapture) : Bytes :=
  pushString entry.presetKey ++ pushString entry.presetLabel ++ pushString entry.syncState ++
    u16ToBe entry.triggerRpm ++ u32ToBe entry.syncLossCounter ++ u32ToBe entry.syncedCycles ++
    u16ToBe entry.engineCycleDeg ++ u32ToBe entry.captureWindowUs ++
    u16ToBe entry.samplePeriodUs ++ pushString entry.primaryLabel ++
    pushString (entry.secondaryLabel.getD "") ++ u16ToBe entry.toothCount ++
    [entry.syncGapToothCount] ++ u16ToBe entry.primaryEdgeCount ++
    u16ToBe entry.secondaryEdgeCount ++ u16ToBe (UInt16.ofNat entry.primarySamples.length) ++
    entry.primarySamples ++ entry.secondarySamples

/-- A tooth log of the trigger: the times between the teeth, and where the second wheel has its
marks. -/
structure TriggerToothLog where
  presetKey : String
  presetLabel : String
  syncState : String
  triggerRpm : UInt16
  engineCycleDeg : UInt16
  primaryLabel : String
  secondaryLabel : Option String
  referenceEventIndex : UInt16
  /-- The bit pattern of a 32-bit float. -/
  dominantGapRatio : UInt32
  toothIntervalsUs : List UInt32
  secondaryEventIndexes : List UInt16
  deriving DecidableEq, Repr

/-- The bytes of a tooth log. -/
def encodeTriggerToothLogPayload (entry : TriggerToothLog) : Bytes :=
  pushString entry.presetKey ++ pushString entry.presetLabel ++ pushString entry.syncState ++
    u16ToBe entry.triggerRpm ++ u16ToBe entry.engineCycleDeg ++ pushString entry.primaryLabel ++
    pushString (entry.secondaryLabel.getD "") ++ u16ToBe entry.referenceEventIndex ++
    u32ToBe entry.dominantGapRatio ++ u16ToBe (UInt16.ofNat entry.toothIntervalsUs.length) ++
    entry.toothIntervalsUs.flatMap u32ToBe ++
    [UInt8.ofNat entry.secondaryEventIndexes.length] ++
    entry.secondaryEventIndexes.flatMap u16ToBe

/-! ### CAN -/

/-- A frame that the board sends or receives over CAN. -/
structure CanTemplateDirectoryEntry where
  id : UInt8
  key : String
  label : String
  direction : String
  category : String
  canId : UInt32
  extendedId : Bool
  dlc : UInt8
  deriving DecidableEq, Repr

/-- The answer that lists the CAN frames. -/
def encodeCanTemplateDirectoryPayload (entries : List CanTemplateDirectoryEntry) : Bytes :=
  UInt8.ofNat entries.length :: entries.flatMap fun entry =>
    entry.id :: u32ToBe entry.canId ++ [boolByte entry.extendedId, entry.dlc] ++
      pushString entry.key ++ pushString entry.label ++ pushString entry.direction ++
      pushString entry.category

/-- The scale, the offset and the limits are bit patterns of 32-bit floats. -/
structure CanSignalDirectoryEntry where
  id : UInt8
  templateId : UInt8
  key : String
  label : String
  mapsTo : String
  startBit : UInt8
  bitLength : UInt8
  signed : Bool
  littleEndian : Bool
  scale : UInt32
  offset : UInt32
  min : UInt32
  max : UInt32
  unit : String
  deriving DecidableEq, Repr

/-- The sign and the byte order of a signal in one byte. -/
def CanSignalDirectoryEntry.flags (entry : CanSignalDirectoryEntry) : UInt8 :=
  (if entry.signed then 0x01 else 0) ||| (if entry.littleEndian then 0x02 else 0)

/-- The answer that lists the signals in the CAN frames. -/
def encodeCanSignalDirectoryPayload (entries : List CanSignalDirectoryEntry) : Bytes :=
  UInt8.ofNat entries.length :: entries.flatMap fun entry =>
    [entry.id, entry.templateId, entry.startBit, entry.bitLength, entry.flags] ++
      u32ToBe entry.scale ++ u32ToBe entry.offset ++ u32ToBe entry.min ++ u32ToBe entry.max ++
      pushString entry.key ++ pushString entry.label ++ pushString entry.mapsTo ++
      pushString entry.unit

/-! ### Network profile -/

/-- The answer that describes the links. -/
def encodeNetworkProfilePayload (profile : NetworkProfile) : Bytes :=
  [profile.productTrack.code, boolByte profile.multiMasterCan, UInt8.ofNat profile.links.length] ++
    profile.links.flatMap fun link =>
      [link.kind.code, boolByte link.realtimeSafe, boolByte link.firmwareUpdateAllowed,
        UInt8.ofNat link.classes.length] ++ link.classes.map MessageClass.code

end StEcu
