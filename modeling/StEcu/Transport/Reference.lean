import StEcu.Reference
import StEcu.Transport.System

/-!
# A reference catalogue

The smallest catalogue of fixed answers, which completes the reference platform to a firmware.
-/

namespace StEcu

/-- The catalogue without any entries. -/
def referenceCatalogue : Catalogue where
  freezeFrames := []
  triggerDecoderDirectory := []
  canTemplateDirectory := []
  canSignalDirectory := []
  pinDirectory := []
  sensorRawDirectory := []
  networkProfile := []
  triggerCapture _ _ := []
  triggerToothLog _ _ := []

end StEcu
