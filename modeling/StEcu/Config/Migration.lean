import StEcu.Config.Image
import StEcu.Foundation.Saturating

/-!
# Migration of imported page images

How the payload of an older page image is brought to the current schema and format
(`migrate_payload_to_current_versions` in `src/config.rs`). The migrators rewrite at most the magic
and the version byte of page 0 (schema) and page 3 (format).

## Main definitions

* `schemaMigrateV0ToV1`, `formatMigrateV0ToV1`.
* `migratePayloadToCurrentVersions`.
* `SameBody`: what a migration leaves of a payload.

## Main results

* `length_of_migratePayload`: a migrated payload has the length of its page.
* `sameBody_of_migratePayload`: a migration keeps the body.
* `migratePayload_of_current`: a payload in the current versions is left as it is.
-/

namespace StEcu

/-- Why a page cannot be brought to the current versions. -/
inductive ConfigMigrationError
  | unsupportedSchemaVersion (version : UInt16)
  | unsupportedFormatVersion (version : UInt8)
  | missingSchemaMigrator (fromVersion toVersion : UInt16)
  | missingFormatMigrator (fromVersion toVersion : UInt8)
  | payloadLengthMismatch (expected actual : ℕ)
  deriving DecidableEq, Repr

/-- `b"STC1"`. -/
def page0MagicV0 : Bytes := [0x53, 0x54, 0x43, 0x31]

/-- `b"STC2"`. -/
def page0MagicV1 : Bytes := [0x53, 0x54, 0x43, 0x32]

/-- `b"STP3"`. -/
def pinAssignmentMagicV0 : Bytes := [0x53, 0x54, 0x50, 0x33]

/-- `b"STIO"`. -/
def pinAssignmentMagicV1 : Bytes := [0x53, 0x54, 0x49, 0x4F]

/-- The position of the version byte in pages 0 and 3. -/
def versionOffset : ℕ := 4

/-- The version byte of the current layouts of pages 0 and 3. -/
def versionV1 : UInt8 := 1

/-- Puts a magic over the first four bytes of a payload. -/
def writeMagic (magic payload : Bytes) : Bytes := magic ++ payload.drop 4

/-- Raises the version byte of a payload to the current one. -/
def raiseVersion (payload : Bytes) : Bytes :=
  if payload.getD versionOffset 0 < versionV1 then payload.set versionOffset versionV1 else payload

/-- Every page 0 gets the current magic, whatever magic it had. -/
def schemaMigrateV0ToV1 (pageId : UInt8) (payload : Bytes) : Except ConfigMigrationError Bytes :=
  if pageId = ConfigPage.baseEngineFuelComm.id ∧ versionOffset < payload.length then
    let legacyMagic := payload.take 4 = page0MagicV0
    let currentMagic := payload.take 4 = page0MagicV1
    .ok (raiseVersion (if legacyMagic ∨ ¬ currentMagic then writeMagic page0MagicV1 payload
      else payload))
  else .ok payload

/-- Only a page 3 with the legacy magic gets the current one. -/
def formatMigrateV0ToV1 (pageId : UInt8) (payload : Bytes) : Except ConfigMigrationError Bytes :=
  if pageId = ConfigPage.pinAssignment.id ∧ versionOffset < payload.length then
    .ok (raiseVersion (if payload.take 4 = pinAssignmentMagicV0 then
      writeMagic pinAssignmentMagicV1 payload else payload))
  else .ok payload

/-- The step that leaves a schema version, if there is one. -/
def schemaMigratorFor (fromVersion : UInt16) :
    Option (UInt8 → Bytes → Except ConfigMigrationError Bytes) :=
  if fromVersion = 0 then some schemaMigrateV0ToV1 else none

/-- The step that leaves a format version, if there is one. -/
def formatMigratorFor (fromVersion : UInt8) :
    Option (UInt8 → Bytes → Except ConfigMigrationError Bytes) :=
  if fromVersion = 0 then some formatMigrateV0ToV1 else none

/-- One of the two loops over versions, with the number of versions still to go: each round looks
up the migrator of a version, applies it, and checks the length of its result. -/
def migrateLoop {V : Type}
    (migratorFor : V → Option (UInt8 → Bytes → Except ConfigMigrationError Bytes)) (next : V → V)
    (missingMigrator : V → V → ConfigMigrationError) (pageId : UInt8) (expectedLength : ℕ) :
    ℕ → V → Bytes → V → Except ConfigMigrationError (Bytes × V)
  | 0, _, payload, steps => .ok (payload, steps)
  | remaining + 1, version, payload, steps =>
    match migratorFor version with
    | none => .error (missingMigrator version (next version))
    | some migrator =>
      match migrator pageId payload with
      | .error error => .error error
      | .ok payload =>
        if payload.length ≠ expectedLength then
          .error (.payloadLengthMismatch expectedLength payload.length)
        else
          migrateLoop migratorFor next missingMigrator pageId expectedLength remaining
            (next version) payload (next steps)

/-- The loop over the versions of the schema. -/
def migrateSchema : UInt8 → ℕ → ℕ → UInt16 → Bytes → UInt16 →
    Except ConfigMigrationError (Bytes × UInt16) :=
  migrateLoop schemaMigratorFor (UInt16.saturatingAdd · 1) .missingSchemaMigrator

/-- The loop over the versions of the format. -/
def migrateFormat : UInt8 → ℕ → ℕ → UInt8 → Bytes → UInt8 →
    Except ConfigMigrationError (Bytes × UInt8) :=
  migrateLoop formatMigratorFor (UInt8.saturatingAdd · 1) .missingFormatMigrator

/-- The migrated payload and the numbers of schema and format steps taken. -/
def migratePayloadToCurrentVersions (pageId : UInt8) (image : StoredPageImage)
    (expectedLength : ℕ) : Except ConfigMigrationError (Bytes × UInt16 × UInt8) :=
  let schema := image.header.schemaVersion
  let format := image.header.formatVersion
  if image.payload.length ≠ expectedLength then
    .error (.payloadLengthMismatch expectedLength image.payload.length)
  else if schemaVersion < schema then .error (.unsupportedSchemaVersion schema)
  else
    match migrateSchema pageId expectedLength (schemaVersion.toNat - schema.toNat) schema
        image.payload 0 with
    | .error error => .error error
    | .ok (payload, schemaSteps) =>
      if format < minSupportedConfigFormatVersion ∨ configFormatVersion < format then
        .error (.unsupportedFormatVersion format)
      else
        match migrateFormat pageId expectedLength (configFormatVersion.toNat - format.toNat)
            format payload 0 with
        | .error error => .error error
        | .ok (payload, formatSteps) => .ok (payload, schemaSteps, formatSteps)

/-! ### Lengths -/

theorem length_of_migrateLoop {V : Type}
    {migratorFor : V → Option (UInt8 → Bytes → Except ConfigMigrationError Bytes)} {next : V → V}
    {missingMigrator : V → V → ConfigMigrationError} {pageId : UInt8} {n remaining : ℕ}
    {version steps steps' : V} {payload payload' : Bytes} (hlen : payload.length = n)
    (h : migrateLoop migratorFor next missingMigrator pageId n remaining version payload steps =
      .ok (payload', steps')) : payload'.length = n := by
  induction remaining generalizing version payload steps with
  | zero =>
    simp only [migrateLoop, Except.ok.injEq, Prod.mk.injEq] at h
    exact h.1 ▸ hlen
  | succ remaining ih =>
    rw [migrateLoop] at h
    split at h
    · cases h
    · split at h
      · cases h
      · split_ifs at h with hne
        exact ih (not_ne_iff.mp hne) h

theorem length_of_migratePayload {pageId : UInt8} {image : StoredPageImage} {n : ℕ}
    {payload : Bytes} {schemaSteps : UInt16} {formatSteps : UInt8}
    (h : migratePayloadToCurrentVersions pageId image n =
      .ok (payload, schemaSteps, formatSteps)) : payload.length = n := by
  rw [migratePayloadToCurrentVersions] at h
  split at h
  · cases h
  · next hlen =>
    split at h
    · cases h
    · split at h
      · cases h
      · next payload₁ steps₁ hs =>
        split at h
        · cases h
        · split at h
          · cases h
          · next payload₂ steps₂ hf =>
            obtain ⟨rfl, -⟩ := Prod.mk.inj (Except.ok.inj h)
            exact length_of_migrateLoop (length_of_migrateLoop (not_ne_iff.mp hlen) hs) hf

/-! ### What a migration rewrites -/

/-- Two payloads of a page that differ at most in the magic and the version byte, and only on
page 0 or page 3. -/
structure SameBody (pageId : UInt8) (payload migrated : Bytes) : Prop where
  body : migrated.drop 5 = payload.drop 5
  length : migrated.length = payload.length
  other : pageId ≠ ConfigPage.baseEngineFuelComm.id → pageId ≠ ConfigPage.pinAssignment.id →
    migrated = payload

theorem SameBody.refl (pageId : UInt8) (payload : Bytes) : SameBody pageId payload payload :=
  ⟨rfl, rfl, fun _ _ => rfl⟩

theorem SameBody.trans {pageId : UInt8} {a b c : Bytes} (hab : SameBody pageId a b)
    (hbc : SameBody pageId b c) : SameBody pageId a c where
  body := hbc.body.trans hab.body
  length := hbc.length.trans hab.length
  other h0 h3 := (hbc.other h0 h3).trans (hab.other h0 h3)

theorem drop_writeMagic {magic payload : Bytes} (hmagic : magic.length = 4) :
    (writeMagic magic payload).drop 5 = payload.drop 5 := by
  rw [writeMagic, List.drop_append, List.drop_of_length_le (by omega), hmagic, List.drop_drop]
  rfl

theorem length_writeMagic {magic payload : Bytes} (hmagic : magic.length = 4)
    (hlen : versionOffset < payload.length) :
    (writeMagic magic payload).length = payload.length := by
  simp only [versionOffset] at hlen
  simp only [writeMagic, List.length_append, List.length_drop, hmagic]
  omega

theorem drop_raiseVersion (payload : Bytes) : (raiseVersion payload).drop 5 = payload.drop 5 := by
  rw [raiseVersion]
  split_ifs
  · exact List.drop_set_of_lt (by decide)
  · rfl

theorem length_raiseVersion (payload : Bytes) : (raiseVersion payload).length = payload.length := by
  rw [raiseVersion]
  split_ifs
  · exact List.length_set
  · rfl

/-- A migrator of the shape of both of them keeps the body of the page it is for. -/
theorem sameBody_rewrite {pageId : UInt8} {magic payload : Bytes} {p : Prop} [Decidable p]
    (hpage : pageId = ConfigPage.baseEngineFuelComm.id ∨ pageId = ConfigPage.pinAssignment.id)
    (hmagic : magic.length = 4) (hlen : versionOffset < payload.length) :
    SameBody pageId payload (raiseVersion (if p then writeMagic magic payload else payload)) where
  body := by
    rw [drop_raiseVersion]
    split_ifs
    · exact drop_writeMagic hmagic
    · rfl
  length := by
    rw [length_raiseVersion]
    split_ifs
    · exact length_writeMagic hmagic hlen
    · rfl
  other h0 h3 := (hpage.elim h0 h3).elim

theorem sameBody_schemaMigrate {pageId : UInt8} {payload migrated : Bytes}
    (h : schemaMigrateV0ToV1 pageId payload = .ok migrated) : SameBody pageId payload migrated := by
  rw [schemaMigrateV0ToV1] at h
  split at h
  · next hpage =>
    cases h
    exact sameBody_rewrite (.inl hpage.1) rfl hpage.2
  · cases h
    exact .refl _ _

theorem sameBody_formatMigrate {pageId : UInt8} {payload migrated : Bytes}
    (h : formatMigrateV0ToV1 pageId payload = .ok migrated) : SameBody pageId payload migrated := by
  rw [formatMigrateV0ToV1] at h
  split at h
  · next hpage =>
    cases h
    exact sameBody_rewrite (.inr hpage.1) rfl hpage.2
  · cases h
    exact .refl _ _

theorem sameBody_of_migrateLoop {V : Type}
    {migratorFor : V → Option (UInt8 → Bytes → Except ConfigMigrationError Bytes)} {next : V → V}
    {missingMigrator : V → V → ConfigMigrationError} {pageId : UInt8} {n remaining : ℕ}
    (hkeep : ∀ version migrator, migratorFor version = some migrator →
      ∀ payload migrated, migrator pageId payload = .ok migrated →
        SameBody pageId payload migrated)
    {version steps steps' : V} {payload payload' : Bytes}
    (h : migrateLoop migratorFor next missingMigrator pageId n remaining version payload steps =
      .ok (payload', steps')) : SameBody pageId payload payload' := by
  induction remaining generalizing version payload steps with
  | zero =>
    simp only [migrateLoop, Except.ok.injEq, Prod.mk.injEq] at h
    exact h.1 ▸ .refl _ _
  | succ remaining ih =>
    rw [migrateLoop] at h
    split at h
    · cases h
    · next migrator hmigrator =>
      split at h
      · cases h
      · next migrated hmigrated =>
        split_ifs at h
        exact (hkeep _ _ hmigrator _ _ hmigrated).trans (ih h)

theorem sameBody_of_migrateSchema {pageId : UInt8} {n remaining : ℕ} {version steps steps' : UInt16}
    {payload payload' : Bytes}
    (h : migrateSchema pageId n remaining version payload steps = .ok (payload', steps')) :
    SameBody pageId payload payload' := by
  refine sameBody_of_migrateLoop (fun version migrator hsome payload migrated hm => ?_) h
  rw [schemaMigratorFor] at hsome
  split_ifs at hsome
  cases hsome
  exact sameBody_schemaMigrate hm

theorem sameBody_of_migrateFormat {pageId : UInt8} {n remaining : ℕ} {version steps steps' : UInt8}
    {payload payload' : Bytes}
    (h : migrateFormat pageId n remaining version payload steps = .ok (payload', steps')) :
    SameBody pageId payload payload' := by
  refine sameBody_of_migrateLoop (fun version migrator hsome payload migrated hm => ?_) h
  rw [formatMigratorFor] at hsome
  split_ifs at hsome
  cases hsome
  exact sameBody_formatMigrate hm

/-- **A migration keeps the body**, and takes no step over a version that is current. -/
theorem sameBody_of_migratePayload {pageId : UInt8} {image : StoredPageImage} {n : ℕ}
    {payload : Bytes} {schemaSteps : UInt16} {formatSteps : UInt8}
    (h : migratePayloadToCurrentVersions pageId image n = .ok (payload, schemaSteps, formatSteps)) :
    SameBody pageId image.payload payload ∧
      (image.header.schemaVersion = schemaVersion → schemaSteps = 0) ∧
      (image.header.formatVersion = configFormatVersion → formatSteps = 0) := by
  rw [migratePayloadToCurrentVersions] at h
  split at h
  · cases h
  · split at h
    · cases h
    · split at h
      · cases h
      · next payload₁ steps₁ hs =>
        split at h
        · cases h
        · split at h
          · cases h
          · next payload₂ steps₂ hf =>
            obtain ⟨rfl, hsteps⟩ := Prod.mk.inj (Except.ok.inj h)
            obtain ⟨rfl, rfl⟩ := Prod.mk.inj hsteps
            refine ⟨(sameBody_of_migrateSchema hs).trans (sameBody_of_migrateFormat hf),
              fun hcurrent => ?_, fun hcurrent => ?_⟩
            · rw [hcurrent, Nat.sub_self, migrateSchema, migrateLoop] at hs
              exact (Prod.mk.inj (Except.ok.inj hs)).2.symm
            · rw [hcurrent, Nat.sub_self, migrateFormat, migrateLoop] at hf
              exact (Prod.mk.inj (Except.ok.inj hf)).2.symm

/-- A payload in the current versions is left as it is. -/
theorem migratePayload_of_current {pageId : UInt8} {image : StoredPageImage} {n : ℕ}
    (hlen : image.payload.length = n) (hs : image.header.schemaVersion = schemaVersion)
    (hf : image.header.formatVersion = configFormatVersion) :
    migratePayloadToCurrentVersions pageId image n = .ok (image.payload, 0, 0) := by
  rw [migratePayloadToCurrentVersions, hs, hf, if_neg (not_not.mpr hlen), if_neg (by decide),
    Nat.sub_self, Nat.sub_self]
  rfl

end StEcu
