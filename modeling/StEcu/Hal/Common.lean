import StEcu.Platform

/-!
# The hardware layer

The results of the drivers (`src/hal/common.rs`).
-/

namespace StEcu

/-- Why a driver fails. -/
inductive HalError
  | timeout
  | busError
  | overUnderflow
  | notSupported
  | invalidPin
  | peripheralBusy
  deriving DecidableEq, Repr

/-- What a driver returns. -/
abbrev HalResult := Except HalError

end StEcu
