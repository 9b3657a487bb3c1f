import Mathlib.Tactic.IntervalCases
import StEcu.Protocol.Wire

/-!
# Directories are read back

A directory that the firmware encodes is read back by the decoder of the same payload: the same
entries in the same order. The encoder writes the number of entries, the length of a string and an
absent value as one byte or word, and so it must be used on at most 255 entries, on strings of at
most 255 bytes, and on values other than the one that stands for an absent value.

## Main definitions

* `ShortString`, `ShortOption`, and an `Encodable` for each kind of entry.
* `encodeLegacyIdentityPayload`: the identity as older firmware sends it.

## Main results

* `Wire.identity_read_back`: both shapes of the identity, and how they are told apart.
* `Wire.directories_read_back`: every directory codec, on every list of encodable entries.
-/

namespace StEcu

/-- A string whose length fits its length byte. -/
abbrev ShortString (value : String) : Prop := (utf8 value).length ≤ 255

/-- An optional string that is not confused with an absent one. -/
@[mk_iff] structure ShortOption (value : Option String) : Prop where
  short : ShortString (value.getD "")
  ne_empty : value ≠ some ""

instance (value : Option String) : Decidable (ShortOption value) :=
  decidable_of_iff _ (shortOption_iff value).symm

/-- The strings of the identity fit their length bytes. -/
structure FirmwareIdentity.Encodable (identity : FirmwareIdentity) : Prop where
  firmwareId : ShortString identity.firmwareId
  firmwareSemver : ShortString identity.firmwareSemver
  boardId : ShortString identity.boardId
  serial : ShortString identity.serial
  signature : ShortString identity.signature
  resetReason : ShortString identity.resetReason

/-- The strings of the route fit their length bytes, and none of them stands for a missing one. -/
structure PinRoute.Encodable (route : PinRoute) : Prop where
  muxMode : ShortString route.muxMode
  signal : ShortString route.signal
  exclusiveResource : ShortOption route.exclusiveResource

/-- The pin and its routes fit their places. -/
structure PinCapability.Encodable (pin : PinCapability) : Prop where
  pinId : ShortString pin.pinId
  label : ShortString pin.label
  timerInstance : ShortOption pin.timerInstance
  timerChannel : ShortOption pin.timerChannel
  adcInstance : ShortOption pin.adcInstance
  adcChannel : pin.adcChannel ≠ some 0xFF
  length_routes : pin.routes.length ≤ 255
  routes : ∀ route ∈ pin.routes, route.Encodable

/-- The strings of the assignment fit their length bytes. -/
structure ResolvedPinAssignment.Encodable (assignment : ResolvedPinAssignment) : Prop where
  pinId : ShortString assignment.pinId
  pinLabel : ShortString assignment.pinLabel

/-- The output is in a known group, and its pulse length is not the mark for a missing one. -/
structure OutputTestDirectoryEntry.Encodable (entry : OutputTestDirectoryEntry) : Prop where
  group : entry.group ∈ ["injectors", "coils", "aux", "valves"]
  defaultPulseMs : entry.defaultPulseMs ≠ some 0xFFFF
  function : ShortString entry.function
  label : ShortString entry.label

/-- The strings of the sensor fit their length bytes. -/
structure SensorRawDirectoryEntry.Encodable (entry : SensorRawDirectoryEntry) : Prop where
  key : ShortString entry.key
  label : ShortString entry.label
  unit : ShortString entry.unit
  pinId : ShortString entry.pinId
  pinLabel : ShortString entry.pinLabel

/-- The strings of the decoder fit their length bytes. -/
@[mk_iff] structure TriggerDecoderPreset.Encodable (entry : TriggerDecoderPreset) : Prop where
  key : ShortString entry.key
  label : ShortString entry.label
  family : ShortString entry.family
  decoder : ShortString entry.decoder
  patternKind : ShortString entry.patternKind
  primaryInputLabel : ShortString entry.primaryInputLabel
  secondaryInputLabel : ShortOption entry.secondaryInputLabel
  primarySensorKind : ShortString entry.primarySensorKind
  secondarySensorKind : ShortOption entry.secondarySensorKind
  edgePolicy : ShortString entry.edgePolicy
  syncStrategy : ShortString entry.syncStrategy
  primaryPatternHint : ShortString entry.primaryPatternHint
  secondaryPatternHint : ShortOption entry.secondaryPatternHint
  referenceDescription : ShortString entry.referenceDescription

instance (entry : TriggerDecoderPreset) : Decidable entry.Encodable :=
  decidable_of_iff _ entry.encodable_iff.symm

/-- The strings and the samples of the picture fit their places. -/
structure TriggerCapture.Encodable (entry : TriggerCapture) : Prop where
  presetKey : ShortString entry.presetKey
  presetLabel : ShortString entry.presetLabel
  syncState : ShortString entry.syncState
  primaryLabel : ShortString entry.primaryLabel
  secondaryLabel : ShortOption entry.secondaryLabel
  length_secondarySamples : entry.secondarySamples.length = entry.primarySamples.length
  length_primarySamples : entry.primarySamples.length ≤ 0xFFFF

/-- The strings and the lists of the log fit their places. -/
structure TriggerToothLog.Encodable (entry : TriggerToothLog) : Prop where
  presetKey : ShortString entry.presetKey
  presetLabel : ShortString entry.presetLabel
  syncState : ShortString entry.syncState
  primaryLabel : ShortString entry.primaryLabel
  secondaryLabel : ShortOption entry.secondaryLabel
  length_toothIntervalsUs : entry.toothIntervalsUs.length ≤ 0xFFFF
  length_secondaryEventIndexes : entry.secondaryEventIndexes.length ≤ 255

/-- The strings of the frame fit their length bytes. -/
structure CanTemplateDirectoryEntry.Encodable (entry : CanTemplateDirectoryEntry) : Prop where
  key : ShortString entry.key
  label : ShortString entry.label
  direction : ShortString entry.direction
  category : ShortString entry.category

/-- The strings of the signal fit their length bytes. -/
structure CanSignalDirectoryEntry.Encodable (entry : CanSignalDirectoryEntry) : Prop where
  key : ShortString entry.key
  label : ShortString entry.label
  mapsTo : ShortString entry.mapsTo
  unit : ShortString entry.unit

/-- The links and their classes fit their counts. -/
structure NetworkProfile.Encodable (profile : NetworkProfile) : Prop where
  length_links : profile.links.length ≤ 255
  length_classes : ∀ link ∈ profile.links, link.classes.length ≤ 255

namespace Wire

open ByteReader

/-! ### Pieces of an entry -/

variable {α β γ : Type} {bs rest : Bytes} {b : β}

theorem toNat_length_byte {as : List α} (h : as.length ≤ 255) :
    (UInt8.ofNat as.length).toNat = as.length := by
  rw [UInt8.toNat_ofNat']
  omega

theorem toNat_length_word {as : List α} (h : as.length ≤ 0xFFFF) :
    (UInt16.ofNat as.length).toNat = as.length := by
  rw [UInt16.toNat_ofNat']
  omega

theorem boolByte_ne_zero (value : Bool) : (boolByte value != 0) = value := by
  cases value <;> rfl

theorem nonEmpty_getD {value : Option String} (h : ShortOption value) :
    nonEmpty (value.getD "") = value := by
  cases value with
  | none => rfl
  | some s =>
    have hs : s ≠ "" := fun hs => h.ne_empty (congrArg some hs)
    simp [nonEmpty, hs]

theorem mapM_ofCode {code : γ → UInt8} {ofCode : UInt8 → Option γ}
    (h : ∀ c, ofCode (code c) = some c) (cs : List γ) : (cs.map code).mapM ofCode = some cs := by
  induction cs with
  | nil => rfl
  | cons c cs ih => simp [h, ih]

theorem outputGroupKey_code {group : String} (h : group ∈ ["injectors", "coils", "aux", "valves"]) :
    outputGroupKey ((outputGroupCode group).getD 0) = some group := by
  simp only [List.mem_cons, List.not_mem_nil, or_false] at h
  obtain rfl | rfl | rfl | rfl := h <;> rfl

/-- A string and what follows it. -/
theorem reads_string {value : String} {g : String → Reader β} (hs : ShortString value)
    (h : Reads (g value) bs rest b) : Reads (readString >>= g) (pushString value ++ bs) rest b :=
  .bind (reads_readString hs) h

/-! ### Identity -/

/-- What is read back of an identity. -/
def DecodedIdentity.ofIdentity (identity : FirmwareIdentity) (resetReason : Option String)
    (capabilities : Bytes) : DecodedIdentity where
  protocolVersion := identity.protocolVersion
  schemaVersion := identity.schemaVersion
  firmwareId := identity.firmwareId
  firmwareSemver := identity.firmwareSemver
  boardId := identity.boardId
  serial := identity.serial
  signature := identity.signature
  resetReason
  capabilities

/-- The shape without a reset reason, which older firmware sends. -/
def encodeLegacyIdentityPayload (identity : FirmwareIdentity) (capabilities : Bytes) : Bytes :=
  [identity.protocolVersion] ++ u16ToBe identity.schemaVersion ++
    [UInt8.ofNat capabilities.length] ++ pushString identity.firmwareId ++
    pushString identity.firmwareSemver ++ pushString identity.boardId ++
    pushString identity.serial ++ pushString identity.signature ++ capabilities

/-- Where the capabilities follow at once, there is no reset reason. -/
theorem reads_resetReason_legacy {capabilities : Bytes} {count : UInt8}
    (hcount : count.toNat = capabilities.length) {g : Option String → Reader β}
    (h : Reads (g none) capabilities [] b) : Reads (resetReason count >>= g) capabilities [] b := by
  rw [resetReason, ByteReader.bind_assoc]
  refine .endsAfter ?_
  rw [hcount, beq_self_eq_true]
  exact h

/-- A reset reason has a length byte, so that the capabilities do not follow at once, whatever the
bytes are. -/
theorem reads_resetReason {reason : String} (hreason : ShortString reason) {capabilities : Bytes}
    {count : UInt8} (hcount : count.toNat = capabilities.length) {g : Option String → Reader β}
    (h : Reads (g (nonEmpty reason)) capabilities [] b) :
    Reads (resetReason count >>= g) (pushString reason ++ capabilities) [] b := by
  have hlonger : ((pushString reason ++ capabilities).length == count.toNat) = false := by
    rw [beq_eq_false_iff_ne, hcount, pushString, List.length_append, List.length_cons]
    omega
  rw [resetReason, ByteReader.bind_assoc]
  refine .endsAfter ?_
  rw [hlonger, if_neg (by decide), ByteReader.bind_assoc]
  refine reads_string hreason ?_
  rw [ByteReader.bind_assoc]
  refine .endsAfter ?_
  rw [hcount, beq_self_eq_true, if_pos rfl]
  exact h

theorem decode_encodeIdentityPayload {identity : FirmwareIdentity} {capabilities : List Capability}
    (h : identity.Encodable) (hlen : capabilities.length ≤ 255) :
    decodeIdentityPayload.run (encodeIdentityPayload identity capabilities) =
      .ok (.ofIdentity identity (nonEmpty identity.resetReason)
        (capabilities.map Capability.code)) := by
  refine Reads.run <| .of_append_nil ?_
  have hcount : (UInt8.ofNat capabilities.length).toNat =
      (capabilities.map Capability.code).length := by
    rw [toNat_length_byte hlen, List.length_map]
  unfold encodeIdentityPayload
  simp only [List.append_assoc, List.cons_append, List.nil_append]
  exact .require (by simp; omega) <| .byte <| .u16 <| .byte <| reads_string h.firmwareId <|
    reads_string h.firmwareSemver <| reads_string h.boardId <| reads_string h.serial <|
    reads_string h.signature <| reads_resetReason h.resetReason (by simpa using hcount) <|
    .require (by simp [hcount]) <| .slice hcount <| .pure rfl

theorem decode_encodeLegacyIdentityPayload {identity : FirmwareIdentity} {capabilities : Bytes}
    (h : identity.Encodable) (hlen : capabilities.length ≤ 255) :
    decodeIdentityPayload.run (encodeLegacyIdentityPayload identity capabilities) =
      .ok (.ofIdentity identity none capabilities) := by
  refine Reads.run <| .of_append_nil ?_
  have hcount := toNat_length_byte hlen
  unfold encodeLegacyIdentityPayload
  simp only [List.append_assoc, List.cons_append, List.nil_append]
  exact .require (by simp; omega) <| .byte <| .u16 <| .byte <| reads_string h.firmwareId <|
    reads_string h.firmwareSemver <| reads_string h.boardId <| reads_string h.serial <|
    reads_string h.signature <| reads_resetReason_legacy (by simpa using hcount) <|
    .require (by simp [hcount]) <| .slice hcount <| .pure rfl

/-- **Both shapes of the identity are read back.** Whatever the strings and the capabilities are, a
payload with a reset reason is not taken for one without or the other way round; an empty reset
reason stands for none. -/
theorem identity_read_back {identity : FirmwareIdentity} (h : identity.Encodable) :
    (∀ capabilities : List Capability, capabilities.length ≤ 255 → ∃ resetReason,
      decodeIdentityPayload.run (encodeIdentityPayload identity capabilities) =
        .ok (.ofIdentity identity resetReason (capabilities.map Capability.code)) ∧
      (resetReason = none ↔ identity.resetReason = "") ∧
      ∀ reason ∈ resetReason, reason = identity.resetReason) ∧
    ∀ capabilities : Bytes, capabilities.length ≤ 255 →
      decodeIdentityPayload.run (encodeLegacyIdentityPayload identity capabilities) =
        .ok (.ofIdentity identity none capabilities) := by
  refine ⟨fun capabilities hlen => ⟨_, decode_encodeIdentityPayload h hlen, ?_, ?_⟩,
    fun capabilities => decode_encodeLegacyIdentityPayload h⟩
  · rw [nonEmpty]
    split_ifs with hempty
    · exact iff_of_true rfl (by simpa using hempty)
    · exact iff_of_false (by simp) (by simpa using hempty)
  · intro reason hreason
    rw [nonEmpty] at hreason
    split_ifs at hreason
    · cases hreason
    · exact (Option.some.inj hreason).symm

/-- The identity of the first board. The codes of its first two capabilities could be read as a
string of one byte; they are not. -/
theorem identity_read_back_ecuV1 :
    decodeIdentityPayload.run (encodeLegacyIdentityPayload .ecuV1 [1, 2]) =
      .ok (.ofIdentity .ecuV1 none [1, 2]) :=
  (identity_read_back ⟨by decide, by decide, by decide, by decide, by decide, by decide⟩).2 [1, 2]
    (by decide)

/-- A directory is read back as the entries that its encoder was given, seen by `dec`. -/
theorem decodeDirectory_run {entry : Reader α} {enc : γ → Bytes} {dec : γ → α} {xs : List γ}
    (hlen : xs.length ≤ 255) (h : ∀ x ∈ xs, ∀ rest, Reads entry (enc x) rest (dec x)) :
    (decodeDirectory entry).run (UInt8.ofNat xs.length :: xs.flatMap enc) = .ok (xs.map dec) :=
  Reads.run <| .get <| .of_append_nil <|
    .bind (fun _ => .times (toNat_length_byte hlen) h) <| .atEnd <| .pure rfl

theorem decodeDirectory_self {entry : Reader α} {enc : α → Bytes} {xs : List α}
    (hlen : xs.length ≤ 255) (h : ∀ x ∈ xs, ∀ rest, Reads entry (enc x) rest x) :
    (decodeDirectory entry).run (UInt8.ofNat xs.length :: xs.flatMap enc) = .ok xs := by
  have hrun : (decodeDirectory entry).run (UInt8.ofNat xs.length :: xs.flatMap enc) =
      .ok (xs.map id) := decodeDirectory_run hlen h
  rwa [List.map_id] at hrun

/-! ### Pins -/

/-- What is read back of a pin. -/
def DecodedPinDirectoryEntry.ofPin (pin : PinCapability) : DecodedPinDirectoryEntry where
  pinId := pin.pinId
  label := pin.label
  electricalClass := pin.electricalClass.key
  flags := pin.flags
  timerInstance := pin.timerInstance.getD ""
  timerChannel := pin.timerChannel.getD ""
  adcInstance := pin.adcInstance.getD ""
  adcChannel := pin.adcChannel
  boardPath := pin.boardPath.key
  routes := pin.routes

theorem reads_pinRoute {route : PinRoute} (h : route.Encodable) :
    Reads pinRoute (encodePinRoute route) rest route := by
  refine .of_append_nil ?_
  simp only [encodePinRoute, List.cons_append, List.append_assoc]
  exact .get <| .ofOption (PinFunctionClass.ofCode_code _) <| reads_string h.muxMode <|
    reads_string h.signal <| reads_string h.exclusiveResource.short <|
    .pure (by rw [nonEmpty_getD h.exclusiveResource])

theorem shortString_electricalClass (value : ElectricalClass) : ShortString value.key := by
  cases value <;> decide

theorem shortString_boardPath (value : BoardPathKind) : ShortString value.key := by
  cases value <;> decide

theorem adcChannel_getD {channel : Option UInt8} (h : channel ≠ some 0xFF) :
    (if channel.getD 0xFF = 0xFF then none else some (channel.getD 0xFF)) = channel := by
  cases channel with
  | none => rfl
  | some c => simpa using h

theorem reads_pinDirectoryEntry {pin : PinCapability} (h : pin.Encodable) :
    Reads pinDirectoryEntry (encodePinCapability pin) rest (.ofPin pin) := by
  refine .of_append_nil ?_
  simp only [encodePinCapability, List.append_assoc, List.cons_append, List.nil_append]
  refine reads_string h.pinId <| reads_string h.label <|
    reads_string (shortString_electricalClass _) <| .require (by simp) <| .u16 <|
    reads_string h.timerInstance.short <| reads_string h.timerChannel.short <|
    reads_string h.adcInstance.short <| .get <| reads_string (shortString_boardPath _) <| .get <|
    .bind (fun _ => .times_self (toNat_length_byte h.length_routes) fun route hroute _ =>
      reads_pinRoute (h.routes route hroute)) <| .pure ?_
  rw [adcChannel_getD h.adcChannel]
  rfl

theorem reads_pinAssignment {assignment : ResolvedPinAssignment} (h : assignment.Encodable) :
    Reads pinAssignment (assignment.function.code :: pushString assignment.pinId ++
      pushString assignment.pinLabel) rest
      ⟨assignment.function, assignment.pinId, assignment.pinLabel⟩ := by
  refine .of_append_nil ?_
  simp only [List.cons_append, List.append_assoc]
  exact .get <| .ofOption (EcuFunction.ofCode_code _) <| reads_string h.pinId <|
    reads_string h.pinLabel <| .pure rfl

/-! ### Output test and raw sensors -/

theorem defaultPulseMs_getD {pulse : Option UInt16} (h : pulse ≠ some 0xFFFF) :
    (if pulse.getD 0xFFFF = 0xFFFF then none else some (pulse.getD 0xFFFF)) = pulse := by
  cases pulse with
  | none => rfl
  | some ms => simpa using h

theorem reads_outputTestDirectoryEntry {entry : OutputTestDirectoryEntry} (h : entry.Encodable) :
    Reads outputTestDirectoryEntry
      ([entry.channel, (outputGroupCode entry.group).getD 0] ++
        u16ToBe (entry.defaultPulseMs.getD 0xFFFF) ++ pushString entry.function ++
        pushString entry.label) rest entry := by
  refine .of_append_nil ?_
  simp only [List.append_assoc, List.cons_append, List.nil_append]
  exact .require (by simp) <| .byte <| .byte <| .ofOption (outputGroupKey_code h.group) <| .u16 <|
    reads_string h.function <| reads_string h.label <|
    .pure (by rw [defaultPulseMs_getD h.defaultPulseMs])

theorem reads_sensorRawDirectoryEntry {entry : SensorRawDirectoryEntry} (h : entry.Encodable) :
    Reads sensorRawDirectoryEntry
      (entry.channel :: u16ToBe entry.expectedMinMv ++ u16ToBe entry.expectedMaxMv ++
        u16ToBe entry.faultLowMv ++ u16ToBe entry.faultHighMv ++ pushString entry.key ++
        pushString entry.label ++ pushString entry.unit ++ pushString entry.pinId ++
        pushString entry.pinLabel) rest entry := by
  refine .of_append_nil ?_
  simp only [List.append_assoc, List.cons_append]
  exact .require (by simp; omega) <| .byte <| .u16 <| .u16 <| .u16 <| .u16 <|
    reads_string h.key <| reads_string h.label <| reads_string h.unit <| reads_string h.pinId <|
    reads_string h.pinLabel <| .pure rfl

/-! ### Trigger -/

theorem reads_triggerDecoderPreset {entry : TriggerDecoderPreset} (h : entry.Encodable) :
    Reads triggerDecoderPreset
      ([boolByte entry.requiresSecondary, boolByte entry.supportsSequential] ++
        u16ToBe entry.expectedEngineCycleDeg ++ pushString entry.key ++ pushString entry.label ++
        pushString entry.family ++ pushString entry.decoder ++ pushString entry.patternKind ++
        pushString entry.primaryInputLabel ++ pushString (entry.secondaryInputLabel.getD "") ++
        pushString entry.primarySensorKind ++ pushString (entry.secondarySensorKind.getD "") ++
        pushString entry.edgePolicy ++ pushString entry.syncStrategy ++
        pushString entry.primaryPatternHint ++ pushString (entry.secondaryPatternHint.getD "") ++
        pushString entry.referenceDescription) rest entry := by
  refine .of_append_nil ?_
  simp only [List.append_assoc, List.cons_append, List.nil_append]
  refine .require ?_ <| .byte <| .byte <| .u16 <| reads_string h.key <|
    reads_string h.label <| reads_string h.family <| reads_string h.decoder <|
    reads_string h.patternKind <| reads_string h.primaryInputLabel <|
    reads_string h.secondaryInputLabel.short <| reads_string h.primarySensorKind <|
    reads_string h.secondarySensorKind.short <| reads_string h.edgePolicy <|
    reads_string h.syncStrategy <| reads_string h.primaryPatternHint <|
    reads_string h.secondaryPatternHint.short <| reads_string h.referenceDescription <| .pure ?_
  · simp only [List.length_cons, List.length_append, length_u16ToBe]
    omega
  · rw [nonEmpty_getD h.secondaryInputLabel, nonEmpty_getD h.secondarySensorKind,
      nonEmpty_getD h.secondaryPatternHint, boolByte_ne_zero, boolByte_ne_zero]

/-- A trigger capture of equally many samples is read back. -/
theorem decode_encodeTriggerCapturePayload {entry : TriggerCapture} (h : entry.Encodable) :
    decodeTriggerCapturePayload.run (encodeTriggerCapturePayload entry) = .ok entry := by
  refine Reads.run <| .of_append_nil ?_
  have hprimary := toNat_length_word h.length_primarySamples
  have hsecondary := hprimary.trans h.length_secondarySamples.symm
  unfold encodeTriggerCapturePayload
  simp only [List.append_assoc, List.cons_append, List.nil_append]
  refine reads_string h.presetKey <| reads_string h.presetLabel <| reads_string h.syncState <|
    .require ?_ <| .u16 <| .u32 <| .u32 <| .u16 <| .u32 <| .u16 <| reads_string h.primaryLabel <|
    reads_string h.secondaryLabel.short <| .require ?_ <| .u16 <| .byte <| .u16 <| .u16 <| .u16 <|
    .require ?_ <| .slice hprimary <| .slice hsecondary <| .atEnd <| .pure ?_
  · simp only [List.length_append, List.length_cons, length_u16ToBe, length_u32ToBe, pushString]
    omega
  · simp
    omega
  · rw [hprimary, List.append_nil, List.length_append, h.length_secondarySamples]
    omega
  · rw [nonEmpty_getD h.secondaryLabel]

theorem decode_encodeTriggerToothLogPayload {entry : TriggerToothLog} (h : entry.Encodable) :
    decodeTriggerToothLogPayload.run (encodeTriggerToothLogPayload entry) = .ok entry := by
  refine Reads.run <| .of_append_nil ?_
  have hintervals := toNat_length_word h.length_toothIntervalsUs
  have hindexes := toNat_length_byte h.length_secondaryEventIndexes
  rw [encodeTriggerToothLogPayload]
  simp only [List.append_assoc, List.cons_append, List.nil_append]
  refine reads_string h.presetKey <| reads_string h.presetLabel <| reads_string h.syncState <|
    .require ?_ <| .u16 <| .u16 <| reads_string h.primaryLabel <|
    reads_string h.secondaryLabel.short <| .require ?_ <| .u16 <| .u32 <| .u16 <| .require ?_ <|
    .bind (fun _ => .times_self hintervals fun w _ _ => reads_u32 w) <| .byte <| .require ?_ <|
    .bind (fun _ => .times_self hindexes fun w _ _ => reads_u16 w) <| .atEnd <| .pure ?_
  · simp only [List.length_append, List.length_cons, length_u16ToBe, length_u32ToBe, pushString]
    omega
  · simp
    omega
  · simp [hintervals, List.length_flatMap]
  · simp [hindexes, List.length_flatMap]
  · rw [nonEmpty_getD h.secondaryLabel]

/-! ### CAN -/

theorem reads_canTemplateDirectoryEntry {entry : CanTemplateDirectoryEntry} (h : entry.Encodable) :
    Reads canTemplateDirectoryEntry
      (entry.id :: u32ToBe entry.canId ++ [boolByte entry.extendedId, entry.dlc] ++
        pushString entry.key ++ pushString entry.label ++ pushString entry.direction ++
        pushString entry.category) rest entry := by
  refine .of_append_nil ?_
  simp only [List.append_assoc, List.cons_append, List.nil_append]
  exact .require (by simp; omega) <| .byte <| .u32 <| .byte <| .byte <| reads_string h.key <|
    reads_string h.label <| reads_string h.direction <| reads_string h.category <|
    .pure (by rw [boolByte_ne_zero])

theorem signed_flags (entry : CanSignalDirectoryEntry) :
    (entry.flags &&& 0x01 != 0) = entry.signed ∧
      (entry.flags &&& 0x02 != 0) = entry.littleEndian := by
  rw [CanSignalDirectoryEntry.flags]
  cases entry.signed <;> cases entry.littleEndian <;> exact ⟨rfl, rfl⟩

theorem reads_canSignalDirectoryEntry {entry : CanSignalDirectoryEntry} (h : entry.Encodable) :
    Reads canSignalDirectoryEntry
      ([entry.id, entry.templateId, entry.startBit, entry.bitLength, entry.flags] ++
        u32ToBe entry.scale ++ u32ToBe entry.offset ++ u32ToBe entry.min ++ u32ToBe entry.max ++
        pushString entry.key ++ pushString entry.label ++ pushString entry.mapsTo ++
        pushString entry.unit) rest entry := by
  refine .of_append_nil ?_
  simp only [List.append_assoc, List.cons_append, List.nil_append]
  exact .require (by simp; omega) <| .byte <| .byte <| .byte <| .byte <| .byte <| .u32 <| .u32 <|
    .u32 <| .u32 <| reads_string h.key <| reads_string h.label <| reads_string h.mapsTo <|
    reads_string h.unit <| .pure (by rw [(signed_flags entry).1, (signed_flags entry).2])

/-! ### Network profile -/

theorem reads_networkLink {link : LinkContract} (h : link.classes.length ≤ 255) :
    Reads networkLink
      ([link.kind.code, boolByte link.realtimeSafe, boolByte link.firmwareUpdateAllowed,
        UInt8.ofNat link.classes.length] ++ link.classes.map MessageClass.code) rest link := by
  refine .of_append_nil ?_
  have hlen := toNat_length_byte h
  simp only [List.cons_append, List.nil_append]
  exact .require (by simp) <| .byte <| .ofOption (TransportLinkKind.ofCode_code _) <| .byte <|
    .byte <| .byte <| .require (by simp [hlen]) <| .slice (by simp [hlen]) <|
    .ofOption (mapM_ofCode MessageClass.ofCode_code _) <|
    .pure (by rw [boolByte_ne_zero, boolByte_ne_zero])

theorem decode_encodeNetworkProfilePayload {profile : NetworkProfile} (h : profile.Encodable) :
    decodeNetworkProfilePayload.run (encodeNetworkProfilePayload profile) = .ok profile := by
  refine Reads.run <| .of_append_nil ?_
  simp only [encodeNetworkProfilePayload, List.cons_append, List.nil_append]
  refine .require (by simp) <| .byte <| .ofOption (ProductTrack.ofCode_code _) <| .byte <|
    .byte <| .bind (fun _ => .times_self (toNat_length_byte h.length_links)
      fun link hlink _ => reads_networkLink (h.length_classes link hlink)) <| .atEnd <| .pure ?_
  rw [boolByte_ne_zero]

/-! ### All directories -/

/-- **Directories are read back.** Whatever encodable entries a directory is encoded from, its
decoder gives the same entries in the same order. -/
theorem directories_read_back :
    (∀ pins : List PinCapability, pins.length ≤ 255 → (∀ pin ∈ pins, pin.Encodable) →
      decodePinDirectoryPayload.run (encodePinDirectory pins) = .ok (pins.map .ofPin)) ∧
    (∀ assignments : List ResolvedPinAssignment, assignments.length ≤ 255 →
      (∀ assignment ∈ assignments, assignment.Encodable) →
      decodePinAssignmentsPayload.run (encodePinAssignmentsPayload assignments) =
        .ok (assignments.map fun assignment =>
          ⟨assignment.function, assignment.pinId, assignment.pinLabel⟩)) ∧
    (∀ entries : List OutputTestDirectoryEntry, entries.length ≤ 255 →
      (∀ entry ∈ entries, entry.Encodable) →
      decodeOutputTestDirectoryPayload.run (encodeOutputTestDirectoryPayload entries) =
        .ok entries) ∧
    (∀ entries : List SensorRawDirectoryEntry, entries.length ≤ 255 →
      (∀ entry ∈ entries, entry.Encodable) →
      decodeSensorRawDirectoryPayload.run (encodeSensorRawDirectoryPayload entries) =
        .ok entries) ∧
    (∀ entries : List TriggerDecoderPreset, entries.length ≤ 255 →
      (∀ entry ∈ entries, entry.Encodable) →
      decodeTriggerDecoderDirectoryPayload.run (encodeTriggerDecoderDirectoryPayload entries) =
        .ok entries) ∧
    (∀ entries : List CanTemplateDirectoryEntry, entries.length ≤ 255 →
      (∀ entry ∈ entries, entry.Encodable) →
      decodeCanTemplateDirectoryPayload.run (encodeCanTemplateDirectoryPayload entries) =
        .ok entries) ∧
    (∀ entries : List CanSignalDirectoryEntry, entries.length ≤ 255 →
      (∀ entry ∈ entries, entry.Encodable) →
      decodeCanSignalDirectoryPayload.run (encodeCanSignalDirectoryPayload entries) =
        .ok entries) ∧
    (∀ profile : NetworkProfile, profile.Encodable →
      decodeNetworkProfilePayload.run (encodeNetworkProfilePayload profile) = .ok profile) ∧
    (∀ entry : TriggerCapture, entry.Encodable →
      decodeTriggerCapturePayload.run (encodeTriggerCapturePayload entry) = .ok entry) ∧
    (∀ entry : TriggerToothLog, entry.Encodable →
      decodeTriggerToothLogPayload.run (encodeTriggerToothLogPayload entry) = .ok entry) := by
  refine ⟨fun pins hlen h => ?_, fun assignments hlen h => ?_, fun entries hlen h => ?_,
    fun entries hlen h => ?_, fun entries hlen h => ?_, fun entries hlen h => ?_,
    fun entries hlen h => ?_, fun _ => decode_encodeNetworkProfilePayload,
    fun _ => decode_encodeTriggerCapturePayload, fun _ => decode_encodeTriggerToothLogPayload⟩
  · exact decodeDirectory_run hlen fun pin hpin _ => reads_pinDirectoryEntry (h pin hpin)
  · exact decodeDirectory_run hlen fun assignment ha _ => reads_pinAssignment (h assignment ha)
  · exact decodeDirectory_self hlen fun entry he _ => reads_outputTestDirectoryEntry (h entry he)
  · exact decodeDirectory_self hlen fun entry he _ => reads_sensorRawDirectoryEntry (h entry he)
  · exact decodeDirectory_self hlen fun entry he _ => reads_triggerDecoderPreset (h entry he)
  · exact decodeDirectory_self hlen fun entry he _ => reads_canTemplateDirectoryEntry (h entry he)
  · exact decodeDirectory_self hlen fun entry he _ => reads_canSignalDirectoryEntry (h entry he)

/-- The pins of the board can be encoded. -/
theorem encodable_stEcuV1Pins : ∀ pin ∈ stEcuV1Pins, pin.Encodable := by
  have hpins : ∀ pin ∈ stEcuV1Pins, (ShortString pin.pinId ∧ ShortString pin.label ∧
      pin.adcChannel ≠ some 0xFF ∧ pin.routes.length ≤ 255) ∧
      (∀ value ∈ [pin.timerInstance, pin.timerChannel, pin.adcInstance],
        ShortString (value.getD "") ∧ value ≠ some "") ∧
      ∀ route ∈ pin.routes, ShortString route.muxMode ∧ ShortString route.signal ∧
        ShortString (route.exclusiveResource.getD "") ∧ route.exclusiveResource ≠ some "" := by
    decide +kernel
  intro pin hpin
  obtain ⟨⟨hpinId, hlabel, hadc, hlen⟩, hoptions, hroutes⟩ := hpins pin hpin
  have hoption : ∀ value ∈ [pin.timerInstance, pin.timerChannel, pin.adcInstance],
      ShortOption value :=
    fun value hvalue => ⟨(hoptions value hvalue).1, (hoptions value hvalue).2⟩
  refine ⟨hpinId, hlabel, hoption _ (by simp), hoption _ (by simp), hoption _ (by simp), hadc, hlen,
    fun route hroute => ?_⟩
  obtain ⟨hmux, hsignal, hresource, hne⟩ := hroutes route hroute
  exact ⟨hmux, hsignal, hresource, hne⟩

/-- The pin directory that the firmware serves is read back. -/
theorem board_directory_read_back :
    decodePinDirectoryPayload.run encodePinDirectoryPayload = .ok (stEcuV1Pins.map .ofPin) :=
  directories_read_back.1 stEcuV1Pins (by decide) encodable_stEcuV1Pins

end Wire

end StEcu
