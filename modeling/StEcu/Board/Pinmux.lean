import Mathlib.Data.List.Basic

/-!
# Pin function classes and mux routes

The logical function classes a pin can serve and the routes by which the pin multiplexer reaches
them (`src/pinmux.rs`). A route may claim an exclusive hardware resource, such as one timer
channel; two functions may not be routed to the same one.
-/

namespace StEcu

/-- What a pin may be used for. -/
inductive PinFunctionClass
  | analogInput
  | digitalInput
  | captureInput
  | pwmOutput
  | injector
  | ignition
  | lowSideOutput
  | highSideOutput
  | can
  | uart
  | spi
  | i2c
  | usb
  | debug
  deriving DecidableEq, Repr

/-- The code of a function class on the wire. -/
def PinFunctionClass.code : PinFunctionClass → UInt8
  | analogInput => 0x01
  | digitalInput => 0x02
  | captureInput => 0x03
  | pwmOutput => 0x04
  | injector => 0x05
  | ignition => 0x06
  | lowSideOutput => 0x07
  | highSideOutput => 0x08
  | can => 0x09
  | uart => 0x0A
  | spi => 0x0B
  | i2c => 0x0C
  | usb => 0x0D
  | debug => 0x0E

/-- `PinFunctionClass::try_from`. -/
def PinFunctionClass.ofCode (value : UInt8) : Option PinFunctionClass :=
  match value with
  | 0x01 => some .analogInput
  | 0x02 => some .digitalInput
  | 0x03 => some .captureInput
  | 0x04 => some .pwmOutput
  | 0x05 => some .injector
  | 0x06 => some .ignition
  | 0x07 => some .lowSideOutput
  | 0x08 => some .highSideOutput
  | 0x09 => some .can
  | 0x0A => some .uart
  | 0x0B => some .spi
  | 0x0C => some .i2c
  | 0x0D => some .usb
  | 0x0E => some .debug
  | _ => none

@[simp] theorem PinFunctionClass.ofCode_code (value : PinFunctionClass) :
    ofCode value.code = some value := by
  cases value <;> rfl

/-- A mux route of a pin, with the resource it claims exclusively, if any. -/
structure PinRoute where
  functionClass : PinFunctionClass
  muxMode : String
  signal : String
  exclusiveResource : Option String
  deriving DecidableEq, Repr

end StEcu
