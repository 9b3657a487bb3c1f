import StEcu.Platform

/-!
# Network profile

The transport links of the product and the classes of messages they carry (`src/network.rs`). The
keys of the links and classes are read by nothing that is modelled here.
-/

namespace StEcu

/-- The products that the firmware is built for. -/
inductive ProductTrack
  | headlessEcu
  | displayIntegratedVcu
  deriving DecidableEq, Repr

/-- The code of a product on the wire. -/
def ProductTrack.code : ProductTrack → UInt8
  | headlessEcu => 0x01
  | displayIntegratedVcu => 0x02

/-- `ProductTrack::try_from`. -/
def ProductTrack.ofCode (value : UInt8) : Option ProductTrack :=
  match value with
  | 0x01 => some .headlessEcu
  | 0x02 => some .displayIntegratedVcu
  | _ => none

@[simp] theorem ProductTrack.ofCode_code (value : ProductTrack) :
    ofCode value.code = some value := by
  cases value <;> rfl

/-- The links over which a host may speak to the board. -/
inductive TransportLinkKind
  | usbSerial
  | canFdPrimary
  | canFdSecondary
  | wifiBridge
  | bluetooth
  | localDisplayLink
  deriving DecidableEq, Repr

/-- The code of a link on the wire. -/
def TransportLinkKind.code : TransportLinkKind → UInt8
  | usbSerial => 0x01
  | canFdPrimary => 0x02
  | canFdSecondary => 0x03
  | wifiBridge => 0x04
  | bluetooth => 0x05
  | localDisplayLink => 0x06

/-- `TransportLinkKind::try_from`. -/
def TransportLinkKind.ofCode (value : UInt8) : Option TransportLinkKind :=
  match value with
  | 0x01 => some .usbSerial
  | 0x02 => some .canFdPrimary
  | 0x03 => some .canFdSecondary
  | 0x04 => some .wifiBridge
  | 0x05 => some .bluetooth
  | 0x06 => some .localDisplayLink
  | _ => none

@[simp] theorem TransportLinkKind.ofCode_code (value : TransportLinkKind) :
    ofCode value.code = some value := by
  cases value <;> rfl

/-- The classes of messages that a link may carry. -/
inductive MessageClass
  | identity
  | calibrationPages
  | calibrationTables
  | pageStatuses
  | pinMetadata
  | liveData
  | dashboardFrames
  | datalog
  | diagnostics
  | firmwareUpdate
  | ioExpansion
  deriving DecidableEq, Repr

/-- The code of a message class on the wire. -/
def MessageClass.code : MessageClass → UInt8
  | identity => 0x01
  | calibrationPages => 0x02
  | calibrationTables => 0x03
  | pageStatuses => 0x04
  | pinMetadata => 0x05
  | liveData => 0x06
  | dashboardFrames => 0x07
  | datalog => 0x08
  | diagnostics => 0x09
  | firmwareUpdate => 0x0A
  | ioExpansion => 0x0B

/-- `MessageClass::try_from`. -/
def MessageClass.ofCode (value : UInt8) : Option MessageClass :=
  match value with
  | 0x01 => some .identity
  | 0x02 => some .calibrationPages
  | 0x03 => some .calibrationTables
  | 0x04 => some .pageStatuses
  | 0x05 => some .pinMetadata
  | 0x06 => some .liveData
  | 0x07 => some .dashboardFrames
  | 0x08 => some .datalog
  | 0x09 => some .diagnostics
  | 0x0A => some .firmwareUpdate
  | 0x0B => some .ioExpansion
  | _ => none

@[simp] theorem MessageClass.ofCode_code (value : MessageClass) :
    ofCode value.code = some value := by
  cases value <;> rfl

/-- What a link is allowed to carry. -/
structure LinkContract where
  kind : TransportLinkKind
  realtimeSafe : Bool
  firmwareUpdateAllowed : Bool
  classes : List MessageClass
  deriving DecidableEq, Repr

/-- The fields of a profile that its payload carries; its key and its nodes are left out. -/
structure NetworkProfile where
  productTrack : ProductTrack
  multiMasterCan : Bool
  links : List LinkContract
  deriving DecidableEq, Repr

end StEcu
