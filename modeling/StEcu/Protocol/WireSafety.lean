import StEcu.Protocol.Wire
import StEcu.Reference

/-!
# Where the payload decoders stay inside their payload

A payload decoder accepts a payload or rejects it as malformed, unless it indexes a byte that is not
there. The proof that none does goes through each decoder line by line: a length check says how many
bytes are left, and each unchecked access takes from them. It fails at one place only. Before the
counts of a trigger capture the code checks for seven bytes and then reads nine.

## Main definitions

* `Wire.DecodersSettle`: all decoders accept or reject a payload.
* `Wire.CutCapture`: a trigger capture cut off within the two bytes of its sample count.

## Main results

* `Wire.decoders_settle_iff`: the cut captures are the only payloads on which a decoder indexes past
  the end.
-/

namespace StEcu.Wire

open ByteReader

variable {α β : Type} {p n : ℕ}

/-- The payload is accepted or rejected as malformed. -/
def Settles (decode : Reader α) (payload : Bytes) : Prop :=
  (∃ a, decode.run payload = .ok a) ∨ decode.run payload = .error (.rejected .malformedPayload)

/-- From a position with at least `n` bytes left, a reader stays inside. -/
abbrev Safe (p n : ℕ) (m : Reader α) : Prop := SafeAt malformed p n m

theorem safe_readString : Safe p n readString :=
  .get fun _ => .require <| .slice (n := 0) fun _ => by
    cases h : fromUtf8 _ with
    | none => exact .reject
    | some value => exact .pure value

/-- A string may take any number of bytes. -/
theorem safe_string {f : String → Reader β} (hf : ∀ q value, Safe q 0 (f value)) :
    Safe p n (readString >>= f) :=
  safe_readString.bind hf

theorem safe_decodeDirectory {entry : Reader α} (h : ∀ q, Safe q 0 entry) :
    Safe 0 0 (decodeDirectory entry) :=
  .get fun _ => (SafeAt.times h _).bind fun _ _ => .atEnd <| .pure _

/-! ### Identity -/

theorem safe_resetReason {capabilityCount : UInt8} : Safe p n (resetReason capabilityCount) :=
  .endsAfter fun _ => .ite (fun _ => .pure none) fun _ =>
    safe_string fun _ _ => .endsAfter fun _ => .ite (fun _ => .pure _) fun _ => .reject

theorem safe_decodeIdentityPayload : Safe 0 0 decodeIdentityPayload :=
  .require <| .byte fun _ => .u16 fun _ => .byte fun _ => safe_string fun _ _ =>
    safe_string fun _ _ => safe_string fun _ _ => safe_string fun _ _ => safe_string fun _ _ =>
    safe_resetReason.bind fun _ _ => .require <| .slice (n := 0) fun _ => .pure _

theorem safe_decodeCapabilitiesPayload : Safe 0 0 decodeCapabilitiesPayload :=
  .get fun count => .lengthIs (k := count.toNat) (by omega) <| .rest fun _ codes => by
    cases h : codes.mapM Capability.ofCode with
    | none => exact .reject
    | some capabilities => exact .pure capabilities

/-! ### Directories -/

theorem safe_tableMetadataEntry : Safe p n tableMetadataEntry :=
  .require <| .byte fun _ => .u16 fun _ => .u16 fun _ => .u16 fun _ => .u32 fun _ =>
    .u32 fun _ => .u32 fun _ => safe_string fun _ _ => safe_string fun _ _ =>
    safe_string fun _ _ => safe_string fun _ _ => safe_string fun _ _ => .pure _

theorem safe_pinRoute : Safe p n pinRoute :=
  .get fun _ => .ofOption fun _ => safe_string fun _ _ => safe_string fun _ _ =>
    safe_string fun _ _ => .pure _

theorem safe_pinDirectoryEntry : Safe p n pinDirectoryEntry :=
  safe_string fun _ _ => safe_string fun _ _ => safe_string fun _ _ => .require <|
    .u16 fun _ => safe_string fun _ _ => safe_string fun _ _ => safe_string fun _ _ =>
    .get fun _ => safe_string fun _ _ => .get fun _ =>
    (SafeAt.times (fun _ => safe_pinRoute) _).bind fun _ _ => .pure _

theorem safe_pinAssignment : Safe p n pinAssignment :=
  .get fun _ => .ofOption fun _ => safe_string fun _ _ => safe_string fun _ _ => .pure _

theorem safe_outputTestDirectoryEntry : Safe p n outputTestDirectoryEntry :=
  .require <| .byte fun _ => .byte fun _ => .ofOption fun _ => .u16 fun _ =>
    safe_string fun _ _ => safe_string fun _ _ => .pure _

theorem safe_sensorRawDirectoryEntry : Safe p n sensorRawDirectoryEntry :=
  .require <| .byte fun _ => .u16 fun _ => .u16 fun _ => .u16 fun _ => .u16 fun _ =>
    safe_string fun _ _ => safe_string fun _ _ => safe_string fun _ _ => safe_string fun _ _ =>
    safe_string fun _ _ => .pure _

theorem safe_freezeFrame : Safe p n freezeFrame :=
  safe_string fun _ _ => safe_string fun _ _ => safe_string fun _ _ => .require <|
    .u32 fun _ => .u16 fun _ => .u16 fun _ => .u16 fun _ => .u16 fun _ => .u16 fun _ =>
    .u16 fun _ => .byte fun _ => .pure _

theorem safe_canTemplateDirectoryEntry : Safe p n canTemplateDirectoryEntry :=
  .require <| .byte fun _ => .u32 fun _ => .byte fun _ => .byte fun _ => safe_string fun _ _ =>
    safe_string fun _ _ => safe_string fun _ _ => safe_string fun _ _ => .pure _

theorem safe_canSignalDirectoryEntry : Safe p n canSignalDirectoryEntry :=
  .require <| .byte fun _ => .byte fun _ => .byte fun _ => .byte fun _ => .byte fun _ =>
    .u32 fun _ => .u32 fun _ => .u32 fun _ => .u32 fun _ => safe_string fun _ _ =>
    safe_string fun _ _ => safe_string fun _ _ => safe_string fun _ _ => .pure _

/-! ### Trigger -/

theorem safe_triggerDecoderPreset : Safe p n triggerDecoderPreset :=
  .require <| .byte fun _ => .byte fun _ => .u16 fun _ => safe_string fun _ _ =>
    safe_string fun _ _ => safe_string fun _ _ => safe_string fun _ _ => safe_string fun _ _ =>
    safe_string fun _ _ => safe_string fun _ _ => safe_string fun _ _ => safe_string fun _ _ =>
    safe_string fun _ _ => safe_string fun _ _ => safe_string fun _ _ => safe_string fun _ _ =>
    safe_string fun _ _ => .pure _

theorem safe_decodeTriggerToothLogPayload : Safe 0 0 decodeTriggerToothLogPayload :=
  safe_string fun _ _ => safe_string fun _ _ => safe_string fun _ _ => .require <|
    .u16 fun _ => .u16 fun _ => safe_string fun _ _ => safe_string fun _ _ => .require <|
    .u16 fun _ => .u32 fun _ => .u16 fun _ => .require <| (Takes.u32.times _).bind fun _ =>
    .byte (n := 0) fun _ => .require <| (Takes.u16.times _).bind (n := 0) fun _ =>
    .atEnd <| .pure _

/-! ### Pages -/

theorem takes_pageStatus (extended : Bool) :
    Takes (if extended then 15 else 10) (pageStatus extended) := by
  cases extended with
  | false =>
    exact .comp .byte fun _ => .comp .u32 fun _ => .comp .u32 fun _ => .comp .byte fun _ =>
      .comp (.pure _) fun _ => .pure _
  | true =>
    exact .comp .byte fun _ => .comp .u32 fun _ => .comp .u32 fun _ => .comp .byte fun _ =>
      .comp (.comp .u32 fun _ => .comp .byte fun _ => .pure _) fun _ => .pure _

theorem safe_decodePageStatusesPayload : Safe 0 0 decodePageStatusesPayload :=
  .get fun count =>
    .hasLength (k := count.toNat * 15) (by omega)
      (.ite (fun _ => ((takes_pageStatus true).times _).safe (Nat.le_refl _)) fun h => absurd rfl h)
      (.ite (fun h => nomatch h) fun _ => .lengthIs (k := count.toNat * 10) (by omega) <|
        ((takes_pageStatus false).times _).safe (Nat.le_refl _))

theorem safe_decodePageRequest : Safe 0 0 decodePageRequest :=
  .lengthIs (k := 1) rfl <| Takes.byte.safe (Nat.le_refl _)

theorem safe_decodeAckPayload : Safe 0 0 decodeAckPayload :=
  .lengthIs (k := 2) rfl <| .byte fun _ => .byte (n := 0) fun _ => .pure _

theorem safe_decodePagePayload (P : Platform) : Safe 0 0 (decodePagePayload P) :=
  .require <| .byte fun _ => .u16 fun len => .lengthIs (k := len.toNat + 4) (by omega) <|
    .u32 fun _ => .rest fun _ _ => .ite (fun _ => .reject) fun _ => .pure _

theorem safe_decodeNackPayload : Safe 0 0 decodeNackPayload :=
  .require <| .byte (n := 0) fun _ => safe_string fun _ _ => .atEnd <| .pure _

/-! ### Firmware update -/

theorem safe_decodeFirmwareUpdateStatusPayload : Safe 0 0 decodeFirmwareUpdateStatusPayload :=
  .lengthIs (k := 19) rfl <| .byte fun _ => .byte fun _ => .byte fun _ => .byte fun _ =>
    .byte fun _ => .u16 fun _ => .u32 fun _ => .u32 fun _ => .u32 (n := 0) fun _ => .pure _

theorem safe_decodeFlashResumePayload : Safe 0 0 decodeFlashResumePayload :=
  .lengthIs (k := 12) rfl <| .u32 fun _ => .u32 fun _ => .u32 (n := 0) fun _ => .pure _

theorem safe_decodeFlashResumeRequestPayload : Safe 0 0 decodeFlashResumeRequestPayload :=
  .hasLength (k := 0) rfl (.ite (fun _ => .pure _) fun h => absurd rfl h)
    (.ite (fun h => nomatch h) fun _ => .lengthIs (k := 4) rfl <| .u32 (n := 0) fun _ => .pure _)

/-! ### Network profile -/

theorem safe_networkLink : Safe p n networkLink :=
  .require <| .byte fun _ => .ofOption fun _ => .byte fun _ => .byte fun _ => .byte fun _ =>
    .require <| .slice (n := 0) fun _ => .ofOption fun _ => .pure _

theorem safe_decodeNetworkProfilePayload : Safe 0 0 decodeNetworkProfilePayload :=
  .require <| .byte fun _ => .ofOption fun _ => .byte fun _ => .byte (n := 0) fun _ =>
    (SafeAt.times (fun _ => safe_networkLink) _).bind fun _ _ => .atEnd <| .pure _

/-! ### Data log -/

theorem safe_decodeLogStatusPayload : Safe 0 0 decodeLogStatusPayload :=
  .lengthIs (k := 20) rfl <| .byte fun _ => .byte fun _ => .byte fun _ => .byte fun _ =>
    .u32 fun _ => .u32 fun _ => .u32 fun _ => .u16 fun _ => .u16 (n := 0) fun _ => .pure _

theorem safe_decodeLogbookSummaryPayload : Safe 0 0 decodeLogbookSummaryPayload :=
  .lengthIs (k := 33) rfl <| .u32 fun _ => .u16 fun _ => .u32 fun _ => .u32 fun _ =>
    .u32 fun _ => .u32 fun _ => .u32 fun _ => .u16 fun _ => .byte fun _ =>
    .u32 (n := 0) fun _ => .pure _

theorem safe_decodeLogBlockPayload (P : Platform) : Safe 0 0 (decodeLogBlockPayload P) :=
  .require <| .u16 fun _ => .u16 fun _ => .u16 fun dataLen =>
    .lengthIs (k := dataLen.toNat + 4) (by omega) <| .u32 fun _ => .rest fun _ _ =>
    .ite (fun _ => .reject) fun _ => .pure _

theorem safe_decodeSyncRtcPayload : Safe 0 0 decodeSyncRtcPayload :=
  .lengthIs (k := 8) rfl <| .slice (n := 0) fun _ => .pure _

theorem safe_decodeSensorRawPayload : Safe 0 0 decodeSensorRawPayload :=
  .lengthIs (k := 6) rfl <| .u16 fun _ => .u32 (n := 0) fun _ => .pure _

/-! ### Tables -/

theorem safe_decodeRawTablePayload : Safe 0 0 decodeRawTablePayload :=
  .require <| .byte fun _ => .byte fun xCount => .byte (n := 0) fun yCount =>
    .lengthIs (k := xCount.toNat * 2 + (yCount.toNat * 2 + (xCount.toNat * yCount.toNat * 2 + 0)))
      (by omega) <|
    (Takes.u16.times _).bind fun _ => (Takes.u16.times _).bind fun _ =>
    (Takes.u16.times _).bind fun _ => .pure _

/-! ### The trigger capture -/

/-- What `read_string` does at a position: it rejects, or it reads the string that stands there. -/
theorem read_readString (bs : Bytes) (q : ℕ) :
    readString.read bs q = .error (.rejected malformed) ∨
    ∃ value q', readString.read bs q = .ok (value, q') ∧ q' ≤ bs.length ∧
      (utf8 value).length ≤ 255 ∧ bs.drop q = pushString value ++ bs.drop q' := by
  by_cases hq : q < bs.length
  · have hget := read_get (e := malformed) hq
    by_cases hlen : bs.length < q + 1 + bs[q].toNat
    · left
      exact (read_bind_ok hget).trans (read_bind_error (read_require.trans (if_pos hlen)))
    · have hrequire := (read_require (e := malformed)).trans (if_neg hlen)
      have hslice : (slice (ε := ProtocolError) bs[q].toNat).read bs (q + 1) =
          .ok ((bs.drop (q + 1)).take bs[q].toNat, q + 1 + bs[q].toNat) := if_pos (by omega)
      have hread := ((read_bind_ok (f := fun len => do
        require len.toNat malformed
        let bytes ← slice len.toNat
        ofOption malformed (fromUtf8 bytes)) hget).trans (read_bind_ok hrequire)).trans
          (read_bind_ok hslice)
      cases hutf : fromUtf8 ((bs.drop (q + 1)).take bs[q].toNat) with
      | none =>
        left
        rw [hutf] at hread
        exact hread
      | some value =>
        right
        rw [hutf] at hread
        have hbytes := utf8_of_fromUtf8 hutf
        have hvalue : (utf8 value).length = bs[q].toNat := by
          rw [hbytes, List.length_take, List.length_drop]
          omega
        have hbyte := bs[q].toNat_lt
        refine ⟨value, q + 1 + bs[q].toNat, hread, by omega, by omega, ?_⟩
        rw [pushString, hvalue, UInt8.ofNat_toNat, hbytes, List.cons_append,
          ← List.drop_drop (i := bs[q].toNat) (j := q + 1), List.take_append_drop,
          List.drop_eq_getElem_cons hq]
  · left
    exact read_bind_error (read_get_of_le (Nat.le_of_not_lt hq))

/-- A string, with what is then known of the bytes. -/
theorem fine_string {f : String → Reader β} {bs : Bytes} {q : ℕ}
    (hf : ∀ value q', (utf8 value).length ≤ 255 → q' ≤ bs.length →
      bs.drop q = pushString value ++ bs.drop q' →
      Fine malformed bs.length ((f value).read bs q')) :
    Fine malformed bs.length ((readString >>= f).read bs q) := by
  obtain hread | ⟨value, q', hread, hq', hlen, hdrop⟩ := read_readString bs q
  · rw [read_bind_error hread]
    exact .rejected
  · rw [read_bind_ok hread]
    exact hf value q' hlen hq' hdrop

/-- A trigger capture cut off within its sample count: behind the secondary label stand seven of the
nine bytes that the code reads there, or eight. -/
def CutCapture (payload : Bytes) : Prop :=
  ∃ (presetKey presetLabel syncState primaryLabel secondaryLabel : String) (header tail : Bytes),
    payload = pushString presetKey ++ (pushString presetLabel ++ (pushString syncState ++
      (header ++ (pushString primaryLabel ++ (pushString secondaryLabel ++ tail))))) ∧
    (∀ value ∈ [presetKey, presetLabel, syncState, primaryLabel, secondaryLabel],
      (utf8 value).length ≤ 255) ∧
    header.length = 18 ∧ (tail.length = 7 ∨ tail.length = 8)

theorem overruns_of_cutCapture {payload : Bytes} (h : CutCapture payload) :
    decodeTriggerCapturePayload.run payload = .error .outOfBounds := by
  obtain ⟨presetKey, presetLabel, syncState, primaryLabel, secondaryLabel, header, tail, rfl, hs,
    hheader, htail⟩ := h
  simp only [List.mem_cons, List.not_mem_nil, or_false, forall_eq_or_imp, forall_eq] at hs
  obtain ⟨hpresetKey, hpresetLabel, hsyncState, hprimaryLabel, hsecondaryLabel⟩ := hs
  have hcounts : ∃ k, tail.length = 2 + (1 + (2 + (2 + k))) ∧ k < 2 :=
    ⟨tail.length - 7, by omega, by omega⟩
  obtain ⟨k, hk, hk2⟩ := hcounts
  refine Overruns.run ?_
  refine Reads.overruns (reads_readString hpresetKey) <|
    Reads.overruns (reads_readString hpresetLabel) <|
    Reads.overruns (reads_readString hsyncState) <| Overruns.skip hheader <| .require ?_ <|
    Takes.u16.overruns fun _ => Takes.u32.overruns fun _ => Takes.u32.overruns fun _ =>
    Takes.u16.overruns fun _ => Takes.u32.overruns fun _ => Takes.u16.overruns fun _ =>
    Reads.overruns (reads_readString hprimaryLabel) <|
    Reads.overruns (reads_readString hsecondaryLabel) <| ?_
  · simp [pushString]
    omega
  · rw [← List.append_nil tail]
    exact Overruns.skip hk <| .require (by simp; omega) <| Takes.u16.overruns fun _ =>
      Takes.byte.overruns fun _ => Takes.u16.overruns fun _ => Takes.u16.overruns fun _ =>
      .u16 hk2

theorem fine_of_not_cutCapture {payload : Bytes} (h : ¬ CutCapture payload) :
    Fine malformed payload.length (decodeTriggerCapturePayload.read payload 0) := by
  refine fine_string fun presetKey q₁ hpresetKey _ hdrop₁ =>
    fine_string fun presetLabel q₂ hpresetLabel _ hdrop₂ =>
    fine_string fun syncState q₃ hsyncState _ hdrop₃ => .require fun hheader =>
    Takes.u16.fine (by omega) fun _ => Takes.u32.fine (by omega) fun _ =>
    Takes.u32.fine (by omega) fun _ => Takes.u16.fine (by omega) fun _ =>
    Takes.u32.fine (by omega) fun _ => Takes.u16.fine (by omega) fun _ =>
    fine_string fun primaryLabel q₄ hprimaryLabel _ hdrop₄ =>
    fine_string fun secondaryLabel q₅ hsecondaryLabel hq₅ hdrop₅ => .require fun hcounts => ?_
  have hlong : q₅ + 9 ≤ payload.length := by
    by_contra hshort
    refine h ⟨presetKey, presetLabel, syncState, primaryLabel, secondaryLabel,
      (payload.drop q₃).take 18, payload.drop q₅, ?_, ?_, ?_, ?_⟩
    · have hsplit : payload.drop q₃ =
          (payload.drop q₃).take 18 ++ payload.drop (q₃ + 2 + 4 + 4 + 2 + 4 + 2) := by
        rw [show q₃ + 2 + 4 + 4 + 2 + 4 + 2 = q₃ + 18 by omega, ← List.drop_drop,
          List.take_append_drop]
      rw [← hdrop₅, ← hdrop₄, ← hsplit, ← hdrop₃, ← hdrop₂, ← hdrop₁, List.drop_zero]
    · simp only [List.mem_cons, List.not_mem_nil, or_false, forall_eq_or_imp, forall_eq]
      exact ⟨hpresetKey, hpresetLabel, hsyncState, hprimaryLabel, hsecondaryLabel⟩
    · rw [List.length_take, List.length_drop]
      omega
    · rw [List.length_drop]
      omega
  have hsamples (k : ℕ) (q : ℕ) {f : Bytes → Bytes → DecodedTriggerCapture} :
      Safe q (k * 2) (slice k >>= fun primary => slice k >>= fun secondary =>
        atEnd malformed >>= fun _ => (pure (f primary secondary) : Reader _)) :=
    SafeAt.mono (.slice fun _ => .slice (n := 0) fun _ => .atEnd <| .pure _) (by omega)
  exact (SafeAt.u16 (n := 7) fun _ => .byte fun _ => .u16 fun _ => .u16 fun _ =>
    .u16 (n := 0) fun sampleCount => .require <| hsamples sampleCount.toNat _) payload hlong

/-! ### All decoders -/

/-- Every decoder accepts the payload or rejects it as malformed. -/
structure DecodersSettle (P : Platform) (payload : Bytes) : Prop where
  identity : Settles decodeIdentityPayload payload
  capabilities : Settles decodeCapabilitiesPayload payload
  tableMetadata : Settles decodeTableMetadataPayload payload
  pinDirectory : Settles decodePinDirectoryPayload payload
  pinAssignments : Settles decodePinAssignmentsPayload payload
  outputTestDirectory : Settles decodeOutputTestDirectoryPayload payload
  sensorRaw : Settles decodeSensorRawPayload payload
  sensorRawDirectory : Settles decodeSensorRawDirectoryPayload payload
  freezeFrames : Settles decodeFreezeFramesPayload payload
  triggerDecoderDirectory : Settles decodeTriggerDecoderDirectoryPayload payload
  triggerCapture : Settles decodeTriggerCapturePayload payload
  triggerToothLog : Settles decodeTriggerToothLogPayload payload
  canTemplateDirectory : Settles decodeCanTemplateDirectoryPayload payload
  canSignalDirectory : Settles decodeCanSignalDirectoryPayload payload
  pageStatuses : Settles decodePageStatusesPayload payload
  firmwareUpdateStatus : Settles decodeFirmwareUpdateStatusPayload payload
  flashResume : Settles decodeFlashResumePayload payload
  flashResumeRequest : Settles decodeFlashResumeRequestPayload payload
  networkProfile : Settles decodeNetworkProfilePayload payload
  pageRequest : Settles decodePageRequest payload
  page : Settles (decodePagePayload P) payload
  ack : Settles decodeAckPayload payload
  nack : Settles decodeNackPayload payload
  logStatus : Settles decodeLogStatusPayload payload
  logbookSummary : Settles decodeLogbookSummaryPayload payload
  logBlock : Settles (decodeLogBlockPayload P) payload
  syncRtc : Settles decodeSyncRtcPayload payload
  rawTable : Settles decodeRawTablePayload payload

/-- **The decoders stay inside their payload.** Every payload decoder accepts a payload or rejects
it as malformed exactly when the payload is not a trigger capture cut off within its sample
count. -/
theorem decoders_settle_iff (P : Platform) (payload : Bytes) :
    DecodersSettle P payload ↔ ¬ CutCapture payload := by
  constructor
  · intro h hcut
    have hrun := overruns_of_cutCapture hcut
    obtain ⟨capture, hcapture⟩ | hrejected := h.triggerCapture
    · rw [hrun] at hcapture
      cases hcapture
    · rw [hrun] at hrejected
      cases hrejected
  · intro h
    exact {
      identity := safe_decodeIdentityPayload.run payload
      capabilities := safe_decodeCapabilitiesPayload.run payload
      tableMetadata := (safe_decodeDirectory fun _ => safe_tableMetadataEntry).run payload
      pinDirectory := (safe_decodeDirectory fun _ => safe_pinDirectoryEntry).run payload
      pinAssignments := (safe_decodeDirectory fun _ => safe_pinAssignment).run payload
      outputTestDirectory :=
        (safe_decodeDirectory fun _ => safe_outputTestDirectoryEntry).run payload
      sensorRaw := safe_decodeSensorRawPayload.run payload
      sensorRawDirectory := (safe_decodeDirectory fun _ => safe_sensorRawDirectoryEntry).run payload
      freezeFrames := (safe_decodeDirectory fun _ => safe_freezeFrame).run payload
      triggerDecoderDirectory :=
        (safe_decodeDirectory fun _ => safe_triggerDecoderPreset).run payload
      triggerCapture := (fine_of_not_cutCapture h).run
      triggerToothLog := safe_decodeTriggerToothLogPayload.run payload
      canTemplateDirectory :=
        (safe_decodeDirectory fun _ => safe_canTemplateDirectoryEntry).run payload
      canSignalDirectory := (safe_decodeDirectory fun _ => safe_canSignalDirectoryEntry).run payload
      pageStatuses := safe_decodePageStatusesPayload.run payload
      firmwareUpdateStatus := safe_decodeFirmwareUpdateStatusPayload.run payload
      flashResume := safe_decodeFlashResumePayload.run payload
      flashResumeRequest := safe_decodeFlashResumeRequestPayload.run payload
      networkProfile := safe_decodeNetworkProfilePayload.run payload
      pageRequest := safe_decodePageRequest.run payload
      page := (safe_decodePagePayload P).run payload
      ack := safe_decodeAckPayload.run payload
      nack := safe_decodeNackPayload.run payload
      logStatus := safe_decodeLogStatusPayload.run payload
      logbookSummary := safe_decodeLogbookSummaryPayload.run payload
      logBlock := (safe_decodeLogBlockPayload P).run payload
      syncRtc := safe_decodeSyncRtcPayload.run payload
      rawTable := safe_decodeRawTablePayload.run payload }

/-- Thirty zero bytes are a cut capture: five empty strings, the header, and seven of the counts. -/
theorem thirty_zeros_overrun : ¬ ∀ (P : Platform) (payload : Bytes), DecodersSettle P payload := by
  intro h
  have hcut : CutCapture (List.replicate 30 0) :=
    ⟨"", "", "", "", "", List.replicate 18 0, List.replicate 7 0, rfl, by decide, rfl, .inl rfl⟩
  obtain ⟨capture, hcapture⟩ | hrejected :=
    (h referencePlatform (List.replicate 30 0)).triggerCapture
  · rw [overruns_of_cutCapture hcut] at hcapture
    cases hcapture
  · rw [overruns_of_cutCapture hcut] at hrejected
    cases hrejected

end StEcu.Wire
