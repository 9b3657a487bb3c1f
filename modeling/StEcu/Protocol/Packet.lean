import StEcu.Foundation.BigEndian
import StEcu.Foundation.Utf8
import StEcu.Platform

/-!
# Packets

The commands of the host protocol and its packets (`src/protocol.rs`), and the codes with which
the runtime rejects a packet (`src/transport.rs`).
-/

namespace StEcu

/-- The commands of the protocol, requests and answers. -/
inductive Cmd
  | ping
  | pong
  | getVersion
  | versionResponse
  | getCapabilities
  | capabilities
  | getLiveData
  | liveData
  | readPage
  | pageData
  | writePage
  | burnPage
  | getPageDirectory
  | pageDirectory
  | getTableDirectory
  | tableDirectory
  | getPinDirectory
  | pinDirectory
  | getTableMetadata
  | tableMetadata
  | getPageStatuses
  | pageStatuses
  | getNetworkProfile
  | networkProfile
  | readTable
  | tableData
  | writeTable
  | writeCell
  | readCurve
  | curveData
  | writeCurve
  | getDtc
  | dtcList
  | clearDtc
  | getSensorRaw
  | sensorRaw
  | runOutputTest
  | getOutputTestDirectory
  | outputTestDirectory
  | getSensorRawDirectory
  | sensorRawDirectory
  | getFreezeFrames
  | freezeFrames
  | getTriggerCapture
  | triggerCapture
  | getTriggerDecoderDirectory
  | triggerDecoderDirectory
  | enterBootloader
  | flashBlock
  | flashBlockAck
  | flashVerify
  | flashComplete
  | getUpdateStatus
  | updateStatus
  | confirmBootHealthy
  | flashResume
  | logStart
  | logStop
  | logStatus
  | logStatusResponse
  | readLogBlock
  | logBlockData
  | getLogbookSummary
  | logbookSummaryResponse
  | resetLogbook
  | syncRtc
  | getTriggerToothLog
  | triggerToothLog
  | getCanTemplateDirectory
  | canTemplateDirectory
  | getCanSignalDirectory
  | canSignalDirectory
  | getPinAssignments
  | pinAssignments
  | pinAssign
  | ack
  | nack
  | error
  deriving DecidableEq, Repr

/-- A command with its payload. -/
structure Packet where
  cmd : Cmd
  payload : Bytes
  deriving DecidableEq, Repr

/-- Why a frame or a payload is not accepted. -/
inductive ProtocolError
  | badMagic
  | tooLarge (len : ℕ)
  | crcFail (expected actual : UInt16)
  | unknownCmd (value : UInt8)
  | malformedPayload
  deriving DecidableEq, Repr

/-- Why the firmware rejects a command. -/
inductive RuntimeNackCode
  | unsupportedCommand
  | malformedPayload
  | invalidPage
  | storageFailure
  | lockActive
  | badSequence
  | rangeOverflow
  | cryptoFail
  | badSignature
  | rateLimitExceeded
  | notAuthenticated
  | unsafeState
  | sessionExpired
  deriving DecidableEq, Repr

/-- The code of a rejection on the wire. -/
def RuntimeNackCode.code : RuntimeNackCode → UInt8
  | unsupportedCommand => 1
  | malformedPayload => 2
  | invalidPage => 3
  | storageFailure => 4
  | lockActive => 5
  | badSequence => 6
  | rangeOverflow => 7
  | cryptoFail => 8
  | badSignature => 9
  | rateLimitExceeded => 10
  | notAuthenticated => 11
  | unsafeState => 12
  | sessionExpired => 13

/-- `push_string`: the length of a string as one byte, and its bytes. -/
def pushString (value : String) : Bytes :=
  UInt8.ofNat (utf8 value).length :: utf8 value

/-- The payload of a rejection: its code and its reason. -/
def encodeNackPayload (code : UInt8) (reason : String) : Bytes := code :: pushString reason

/-- The answer that rejects a packet. -/
def nack (code : RuntimeNackCode) (reason : String) : Packet :=
  ⟨.nack, encodeNackPayload code.code reason⟩

/-- The plain acknowledgement. -/
def ack : Packet := ⟨.ack, []⟩

@[simp] theorem cmd_nack (code : RuntimeNackCode) (reason : String) :
    (nack code reason).cmd = .nack := rfl

@[simp] theorem cmd_ack : ack.cmd = .ack := rfl

end StEcu
