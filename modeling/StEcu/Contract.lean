import Mathlib.Data.Int.Notation
import Mathlib.Data.List.Basic

/-!
# The contract with the host

What a board says about itself to the host (`src/contract.rs`): its identity, its capabilities,
the versions of the protocol, the configuration schema and the page image format, and the
directory of calibration tables.

The axis labels and scales of a table serve the metadata answer only and are kept with the
directory; nothing else reads them.
-/

namespace StEcu

/-- What a firmware tells its host it can do. -/
inductive Capability
  | liveData
  | pageRead
  | pageWrite
  | pageBurn
  | pageStatus
  | tableRead
  | tableWrite
  | tableCellWrite
  | tableMetadata
  | dtc
  | sensorRaw
  | sensorRawDirectory
  | freezeFrame
  | triggerCapture
  | triggerDecoderDirectory
  | triggerToothLog
  | outputTest
  | outputTestDirectory
  | firmwareFlash
  | page0Config
  | pinDirectory
  | pinAssignment
  | networkProfile
  | usbSerial
  | canFd
  | wifiBridge
  | externalTcu
  | torqueIntervention
  | widebandController
  | datalogStorage
  | logbook
  | rtcClock
  | logBlockRead
  | displayLink
  | dashboardFrames
  | simulator
  deriving DecidableEq, Repr

/-- The code of a capability on the wire. -/
def Capability.code : Capability → UInt8
  | liveData => 0x01
  | pageRead => 0x02
  | pageWrite => 0x03
  | pageBurn => 0x04
  | pageStatus => 0x05
  | tableRead => 0x06
  | tableWrite => 0x07
  | tableCellWrite => 0x08
  | tableMetadata => 0x09
  | dtc => 0x0A
  | sensorRaw => 0x0B
  | sensorRawDirectory => 0x19
  | freezeFrame => 0x1A
  | triggerCapture => 0x1B
  | triggerDecoderDirectory => 0x1C
  | triggerToothLog => 0x1D
  | outputTest => 0x0C
  | outputTestDirectory => 0x18
  | firmwareFlash => 0x0D
  | page0Config => 0x0E
  | pinDirectory => 0x0F
  | pinAssignment => 0x10
  | networkProfile => 0x11
  | usbSerial => 0x12
  | canFd => 0x13
  | wifiBridge => 0x14
  | externalTcu => 0x1E
  | torqueIntervention => 0x1F
  | widebandController => 0x20
  | datalogStorage => 0x21
  | logbook => 0x22
  | rtcClock => 0x23
  | logBlockRead => 0x24
  | displayLink => 0x15
  | dashboardFrames => 0x16
  | simulator => 0x17

/-- `Capability::try_from`. -/
def Capability.ofCode (value : UInt8) : Option Capability :=
  match value with
  | 0x01 => some .liveData
  | 0x02 => some .pageRead
  | 0x03 => some .pageWrite
  | 0x04 => some .pageBurn
  | 0x05 => some .pageStatus
  | 0x06 => some .tableRead
  | 0x07 => some .tableWrite
  | 0x08 => some .tableCellWrite
  | 0x09 => some .tableMetadata
  | 0x0A => some .dtc
  | 0x0B => some .sensorRaw
  | 0x19 => some .sensorRawDirectory
  | 0x1A => some .freezeFrame
  | 0x1B => some .triggerCapture
  | 0x1C => some .triggerDecoderDirectory
  | 0x1D => some .triggerToothLog
  | 0x0C => some .outputTest
  | 0x18 => some .outputTestDirectory
  | 0x0D => some .firmwareFlash
  | 0x0E => some .page0Config
  | 0x0F => some .pinDirectory
  | 0x10 => some .pinAssignment
  | 0x11 => some .networkProfile
  | 0x12 => some .usbSerial
  | 0x13 => some .canFd
  | 0x14 => some .wifiBridge
  | 0x1E => some .externalTcu
  | 0x1F => some .torqueIntervention
  | 0x20 => some .widebandController
  | 0x21 => some .datalogStorage
  | 0x22 => some .logbook
  | 0x23 => some .rtcClock
  | 0x24 => some .logBlockRead
  | 0x15 => some .displayLink
  | 0x16 => some .dashboardFrames
  | 0x17 => some .simulator
  | _ => none

/-- The capabilities of the board, and one more for the simulator. -/
def baseCapabilities (isSimulator : Bool) : List Capability :=
  [.liveData, .pageRead, .pageWrite, .pageBurn, .pageStatus, .tableRead, .tableWrite,
    .tableCellWrite, .tableMetadata, .dtc, .sensorRaw, .sensorRawDirectory, .freezeFrame,
    .triggerCapture, .triggerDecoderDirectory, .triggerToothLog, .outputTest,
    .outputTestDirectory, .firmwareFlash, .page0Config, .pinDirectory, .pinAssignment,
    .networkProfile, .usbSerial, .canFd, .wifiBridge, .externalTcu, .torqueIntervention,
    .widebandController, .datalogStorage, .logbook, .rtcClock, .logBlockRead] ++
    if isSimulator then [.simulator] else []

/-- The version of the wire protocol. -/
def protocolVersion : UInt8 := 1

/-- The version of the configuration schema. -/
def schemaVersion : UInt16 := 1

/-- The version of the image format. -/
def configFormatVersion : UInt8 := 1

/-- What a firmware tells its host it is. -/
structure FirmwareIdentity where
  firmwareId : String
  firmwareSemver : String
  schemaVersion : UInt16
  protocolVersion : UInt8
  boardId : String
  serial : String
  signature : String
  resetReason : String
  deriving DecidableEq, Repr

/-- The identity of the host simulator. -/
def FirmwareIdentity.simulator : FirmwareIdentity where
  firmwareId := "st-simulator"
  firmwareSemver := "0.1.0"
  schemaVersion := StEcu.schemaVersion
  protocolVersion := StEcu.protocolVersion
  boardId := "st-sim-v1"
  serial := "SIM00000001"
  signature := "ST-SIM-v1"
  resetReason := "power_on"

/-- The identity of the first board. -/
def FirmwareIdentity.ecuV1 : FirmwareIdentity where
  firmwareId := "st-ecu-runtime"
  firmwareSemver := "0.1.0"
  schemaVersion := StEcu.schemaVersion
  protocolVersion := StEcu.protocolVersion
  boardId := "st-ecu-v1"
  serial := "ST00000001"
  signature := "ST-ECU-v1"
  resetReason := "power_on"

/-! ### Calibration tables -/

/-- A calibration table: its name, its size, and the scales, labels and bounds of its values. -/
structure TableDirectoryEntry where
  id : UInt8
  key : String
  xCount : UInt8
  yCount : UInt8
  signed : Bool
  xScale : UInt16
  yScale : UInt16
  valueScale : UInt16
  xLabel : String
  yLabel : String
  zLabel : String
  unit : String
  minValueRaw : ℤ
  maxValueRaw : ℤ
  defaultValueRaw : ℤ
  deriving DecidableEq, Repr

/-- The calibration tables, in the order of their identifiers. -/
def tableDirectory : List TableDirectoryEntry :=
  [{ id := 0x00, key := "ve", xCount := 48, yCount := 48, signed := false, xScale := 1,
     yScale := 10, valueScale := 100, xLabel := "RPM", yLabel := "MAP", zLabel := "VE",
     unit := "%", minValueRaw := 0, maxValueRaw := 15000, defaultValueRaw := 5000 },
   { id := 0x01, key := "ignition", xCount := 48, yCount := 48, signed := true, xScale := 1,
     yScale := 10, valueScale := 10, xLabel := "RPM", yLabel := "MAP",
     zLabel := "Ignition Timing", unit := "deg", minValueRaw := -200, maxValueRaw := 900,
     defaultValueRaw := 150 },
   { id := 0x02, key := "afr_target", xCount := 48, yCount := 48, signed := false, xScale := 1,
     yScale := 10, valueScale := 10000, xLabel := "RPM", yLabel := "MAP",
     zLabel := "Lambda Target", unit := "lambda", minValueRaw := 6500, maxValueRaw := 15000,
     defaultValueRaw := 10000 },
   { id := 0x03, key := "boost_target", xCount := 48, yCount := 48, signed := true, xScale := 1,
     yScale := 100, valueScale := 10, xLabel := "RPM", yLabel := "TPS",
     zLabel := "Boost Target", unit := "kPa", minValueRaw := -1000, maxValueRaw := 4000,
     defaultValueRaw := 0 },
   { id := 0x04, key := "vvt_b1_intake", xCount := 8, yCount := 8, signed := true, xScale := 1,
     yScale := 10, valueScale := 10, xLabel := "RPM", yLabel := "MAP",
     zLabel := "VVT Intake Target", unit := "deg", minValueRaw := -700, maxValueRaw := 700,
     defaultValueRaw := 0 },
   { id := 0x05, key := "vvt_b1_exhaust", xCount := 8, yCount := 8, signed := true, xScale := 1,
     yScale := 10, valueScale := 10, xLabel := "RPM", yLabel := "MAP",
     zLabel := "VVT Exhaust Target", unit := "deg", minValueRaw := -700, maxValueRaw := 700,
     defaultValueRaw := 0 },
   { id := 0x10, key := "boost_duty", xCount := 16, yCount := 16, signed := false, xScale := 1,
     yScale := 10, valueScale := 10, xLabel := "RPM", yLabel := "Boost", zLabel := "WG Duty",
     unit := "%", minValueRaw := 0, maxValueRaw := 1000, defaultValueRaw := 0 },
   { id := 0x12, key := "staging", xCount := 16, yCount := 16, signed := false, xScale := 1,
     yScale := 10, valueScale := 10, xLabel := "RPM", yLabel := "Load",
     zLabel := "Secondary Staging", unit := "%", minValueRaw := 0, maxValueRaw := 1000,
     defaultValueRaw := 0 }]

end StEcu
