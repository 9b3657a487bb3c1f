import StEcu.Board.Pinmux
import StEcu.Board.Pins
import StEcu.Config.Burning
import StEcu.Config.Damage
import StEcu.Config.Image
import StEcu.Config.ImageIntegrity
import StEcu.Config.Import
import StEcu.Config.Invariant
import StEcu.Config.Migration
import StEcu.Config.Operations
import StEcu.Config.PageMemory
import StEcu.Config.Store
import StEcu.Contract
import StEcu.Control.AntiLag
import StEcu.Control.Boost
import StEcu.Control.Curves
import StEcu.Control.DriveByWire
import StEcu.Control.Idle
import StEcu.Control.Ignition
import StEcu.Control.LambdaSensor
import StEcu.Control.Launch
import StEcu.Control.PidLoop
import StEcu.Control.TableInterpolation
import StEcu.Control.Traction
import StEcu.Control.Vvt
import StEcu.Crypto.FlashAuth
import StEcu.Crypto.HexKey
import StEcu.Crypto.KeyDerivation
import StEcu.Crypto.NonceRecord
import StEcu.Crypto.TuneEncryption
import StEcu.Foundation.AesGcm
import StEcu.Foundation.BigEndian
import StEcu.Foundation.Binary32
import StEcu.Foundation.Blocks
import StEcu.Foundation.Bursts
import StEcu.Foundation.ByteBuffer
import StEcu.Foundation.ByteReader
import StEcu.Foundation.Cells
import StEcu.Foundation.Checked
import StEcu.Foundation.CheckedWrites
import StEcu.Foundation.ClampedSum
import StEcu.Foundation.Crc
import StEcu.Foundation.ExactFloat
import StEcu.Foundation.FieldLayout
import StEcu.Foundation.FixedPoint
import StEcu.Foundation.Framing
import StEcu.Foundation.Keyed
import StEcu.Foundation.Lcg
import StEcu.Foundation.LittleEndian
import StEcu.Foundation.Noninterference
import StEcu.Foundation.PersistAhead
import StEcu.Foundation.Pieces
import StEcu.Foundation.PiecewiseLinear
import StEcu.Foundation.PolledTimer
import StEcu.Foundation.Resumable
import StEcu.Foundation.Saturating
import StEcu.Foundation.StagedMemory
import StEcu.Foundation.TransitionSystem
import StEcu.Foundation.Utf8
import StEcu.Fuel.Calculator
import StEcu.Fuel.FilmBalance
import StEcu.Fuel.Interpolation
import StEcu.Fuel.Ltft
import StEcu.Fuel.LtftAuthority
import StEcu.Fuel.Trim
import StEcu.Fuel.WallWetting
import StEcu.Hal.BackupRam
import StEcu.Hal.Common
import StEcu.Hal.Fdcan
import StEcu.Hal.Flash
import StEcu.Hal.Rng
import StEcu.Hal.Uart
import StEcu.Io.Assignment
import StEcu.Io.AssignmentLaws
import StEcu.Io.PageCodec
import StEcu.Knock.Detector
import StEcu.Knock.Features
import StEcu.Knock.LearningMap
import StEcu.Knock.SoftDetector
import StEcu.Knock.WeightsBlob
import StEcu.Live.Actuator
import StEcu.Live.ActuatorBounds
import StEcu.Live.Build
import StEcu.Live.Frame
import StEcu.Live.FrameCodec
import StEcu.Live.Protection
import StEcu.Live.ProtectionLimits
import StEcu.Live.RotationalIdle
import StEcu.Live.RotationalIdleSafety
import StEcu.Live.SoftwareWatchdog
import StEcu.Live.Tcu
import StEcu.Live.TcuRequests
import StEcu.Live.Wideband
import StEcu.Network
import StEcu.Platform
import StEcu.Protocol.Directories
import StEcu.Protocol.Frame
import StEcu.Protocol.Integrity
import StEcu.Protocol.Packet
import StEcu.Protocol.Payloads
import StEcu.Protocol.RoundTrip
import StEcu.Protocol.StatusRoundTrip
import StEcu.Protocol.Wire
import StEcu.Protocol.WireAgreement
import StEcu.Protocol.WireSafety
import StEcu.Reference
import StEcu.Transport.Activity
import StEcu.Transport.AnswerSize
import StEcu.Transport.Authentication
import StEcu.Transport.BruteForce
import StEcu.Transport.Catalogue
import StEcu.Transport.Components
import StEcu.Transport.DataLog
import StEcu.Transport.Defaults
import StEcu.Transport.Effect
import StEcu.Transport.EncryptedBoard
import StEcu.Transport.FlashFrame
import StEcu.Transport.FlashSessions
import StEcu.Transport.FlashVerification
import StEcu.Transport.Handle
import StEcu.Transport.HealthWindow
import StEcu.Transport.HostView
import StEcu.Transport.Installation
import StEcu.Transport.Invariant
import StEcu.Transport.LogOverflow
import StEcu.Transport.LogSession
import StEcu.Transport.Logbook
import StEcu.Transport.NackDecoding
import StEcu.Transport.NackReasons
import StEcu.Transport.NonceUniqueness
import StEcu.Transport.PageHistory
import StEcu.Transport.Pages
import StEcu.Transport.PersistStride
import StEcu.Transport.PinPage
import StEcu.Transport.PoweredBoard
import StEcu.Transport.Reboot
import StEcu.Transport.Reference
import StEcu.Transport.Rejection
import StEcu.Transport.ResumeScratch
import StEcu.Transport.Runtime
import StEcu.Transport.System
import StEcu.Transport.Tables
import StEcu.Transport.TimeBase
import StEcu.Transport.TriggerPage
import StEcu.Transport.Update
import StEcu.Transport.UpdateLifecycle
import StEcu.Transport.WriteBack
import StEcu.Trigger.Model
import StEcu.Trigger.Presets
import StEcu.Trigger.Runtime
import StEcu.Trigger.Waveform
import StEcu.Trigger.WaveformSafety
