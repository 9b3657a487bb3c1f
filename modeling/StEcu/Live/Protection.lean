import StEcu.Foundation.FixedPoint

/-!
# Engine protection

The limits on speed, pressures, temperatures and mixture, and the most severe action among those
that are violated (`src/protection.rs`).
-/

namespace StEcu

/-- What a protection may do. -/
inductive ProtectionAction
  | none
  | ignitionRetard
  | sparkCut
  | fuelEnrich
  | fuelCut
  | sparkAndFuelCut
  | limpMode
  | shutdown
  deriving DecidableEq, Repr

/-- How severe an action is, from nothing to stopping the engine. -/
def ProtectionAction.severity : ProtectionAction → ℕ
  | none => 0
  | ignitionRetard => 1
  | fuelEnrich => 2
  | sparkCut => 3
  | fuelCut => 4
  | sparkAndFuelCut => 5
  | limpMode => 6
  | shutdown => 7

/-- Where a protection warns, where it acts, and what it does. -/
structure ProtectionThreshold where
  warning : ℚ
  action : ℚ
  actionType : ProtectionAction
  deriving DecidableEq, Repr

/-- The thresholds of all protections. -/
structure ProtectionConfig where
  rpmMax : ProtectionThreshold := ⟨7200, 7500, .sparkCut⟩
  mapMaxKpa : ProtectionThreshold := ⟨230, 250, .sparkAndFuelCut⟩
  oilMinKpa : ProtectionThreshold := ⟨150, 100, .limpMode⟩
  cltMaxC : ProtectionThreshold := ⟨100, 110, .fuelEnrich⟩
  afrLeanLimit : ProtectionThreshold := ⟨31 / 2, 16, .fuelEnrich⟩
  egt1MaxC : ProtectionThreshold := ⟨900, 1000, .fuelEnrich⟩
  egt2MaxC : ProtectionThreshold := ⟨900, 1000, .fuelEnrich⟩
  deriving DecidableEq, Repr

/-- The flags of the protections, and what they do together. -/
structure ProtectionState where
  rpmProtect : Bool := false
  mapProtect : Bool := false
  oilProtect : Bool := false
  afrProtect : Bool := false
  coolantProtect : Bool := false
  egtProtect : Bool := false
  activeAction : ProtectionAction := .none
  fuelEnrichFactor : ℚ := 0
  overrevCutEvents : UInt8 := 0
  deriving DecidableEq, Repr

/-- The readings that are checked against the limits. -/
structure ProtectionInputs where
  rpm : ℚ
  mapKpa : ℚ
  oilPressureKpa : ℚ
  coolantC : ℚ
  afr : ℚ
  egt1C : ℚ
  egt2C : ℚ
  deriving DecidableEq, Repr

/-- The more severe of two actions. -/
def ProtectionAction.escalate (current new : ProtectionAction) : ProtectionAction :=
  if current.severity < new.severity then new else current

/-- `ProtectionManager::evaluate`. The second exhaust threshold of the configuration is not read. -/
def ProtectionConfig.evaluate (config : ProtectionConfig) (state : ProtectionState)
    (inputs : ProtectionInputs) : ProtectionState × ProtectionAction :=
  let rpm : Bool := config.rpmMax.action < inputs.rpm
  let map : Bool := config.mapMaxKpa.action < inputs.mapKpa
  let oil : Bool := inputs.oilPressureKpa < config.oilMinKpa.action
  let coolant : Bool := config.cltMaxC.action < inputs.coolantC
  let afr : Bool := config.afrLeanLimit.action < inputs.afr ∧ inputs.afr < 20
  let maxEgt := max inputs.egt1C inputs.egt2C
  let egt : Bool := config.egt1MaxC.action < maxEgt
  let escalateIf (violated : Bool) (threshold : ProtectionThreshold) (worst : ProtectionAction) :=
    if violated then worst.escalate threshold.actionType else worst
  let worst :=
    escalateIf egt config.egt1MaxC <| escalateIf afr config.afrLeanLimit <|
      escalateIf coolant config.cltMaxC <| escalateIf oil config.oilMinKpa <|
        escalateIf map config.mapMaxKpa <| escalateIf rpm config.rpmMax .none
  let factor : ℚ := 1
  let factor :=
    if coolant then min (1 + (inputs.coolantC - config.cltMaxC.action) * (5 / 100)) (13 / 10)
    else factor
  let factor :=
    if afr then min (factor + (inputs.afr - config.afrLeanLimit.action) * (1 / 10)) (13 / 10)
    else factor
  let factor :=
    if egt then min (factor + (maxEgt - config.egt1MaxC.action) * (3 / 1000)) (14 / 10)
    else factor
  ({ state with
      rpmProtect := rpm, mapProtect := map, oilProtect := oil, afrProtect := afr
      coolantProtect := coolant, egtProtect := egt, activeAction := worst
      fuelEnrichFactor := factor },
    worst)

end StEcu
