import StEcu.Transport.Installation

/-!
# The pin-assignment page in force

The pin assignments of a runtime and its staged pin-assignment page say the same, whichever of the
two a command changed first. The page has one of two formats, which differ in their magic only; the
firmware itself writes the current one.

## Main definitions

* `legacyEmptyPinPage`, `garbagePinPage`: a page in the legacy format, and one that does not parse.
* `writePinPage`: the packet that writes the page.

## Main results

* `pin_page_in_force`: the staged page reads as the assignments in force, which are valid.
* `FirmwareRuntime.Sound.serialize_eq_pinPage_iff`: the firmware would write the same page unless it
  is in the legacy format.
-/

namespace StEcu

variable {P : Platform} {A : Catalogue} {r : FirmwareRuntime}

/-- **The staged pin-assignment page is what is in force**: it reads as the pin assignments of the
runtime, and these are valid. -/
theorem pin_page_in_force (h : Reachable P A r) :
    (∃ page, r.store.readPage pinPageId = some page ∧
      deserializeAssignmentsFromPage page = .ok r.pinAssignments) ∧
      ValidAssignmentSet r.pinAssignments :=
  ⟨h.sound.pins, h.sound.validPins⟩

/-! ### The two formats -/

/-- A page that stands for the same list in the current format is the page itself, unless it is in
the legacy format. -/
theorem serialize_eq_iff_of_deserialize {as : List ResolvedPinAssignment} {page page' : Bytes}
    (hdes : deserializeAssignmentsFromPage page = .ok as)
    (hser : serializeAssignmentsToPage as page.length = .ok page') :
    page' = page ↔ page.take 4 ≠ pinAssignmentMagicLegacy := by
  obtain ⟨-, magic, hmagic, k, rfl⟩ := deserializeAssignmentsFromPage_eq_ok_iff.mp hdes
  obtain ⟨-, rfl⟩ := serializeAssignmentsToPage_eq_ok_iff.mp hser
  rcases List.mem_pair.mp hmagic with rfl | rfl
  · have hpad : (assignmentBytes pinAssignmentMagic as ++ List.replicate k 0).length -
        (assignmentBytes pinAssignmentMagic as).length = k := by
      rw [List.length_append, List.length_replicate]
      omega
    rw [hpad]
    exact iff_of_true rfl (show pinAssignmentMagic ≠ pinAssignmentMagicLegacy by decide)
  · refine iff_of_false (fun heq => ?_) (not_ne_iff.mpr rfl)
    have htake := congrArg (List.take 4) heq
    exact absurd htake (show pinAssignmentMagic ≠ pinAssignmentMagicLegacy by decide)

theorem FirmwareRuntime.Sound.serialize_eq_pinPage_iff (h : r.Sound P) {page page' : Bytes}
    (hpage : r.store.readPage pinPageId = some page)
    (hser : serializeAssignmentsToPage r.pinAssignments 512 = .ok page') :
    page' = page ↔ page.take 4 ≠ pinAssignmentMagicLegacy := by
  obtain ⟨staged, hstaged, hdes⟩ := h.pins
  obtain rfl := Option.some.inj (hpage.symm.trans hstaged)
  have hlen : page.length = 512 :=
    Option.some.inj ((h.store.length_readPage hpage).symm.trans rfl)
  exact serialize_eq_iff_of_deserialize hdes (hlen ▸ hser)

/-! ### Writing the page on a plain board -/

/-- The empty list of assignments in the legacy format. -/
@[irreducible] def legacyEmptyPinPage : Bytes :=
  pinAssignmentMagicLegacy ++ [pinAssignmentFormatVersion, 0] ++ List.replicate 506 0

/-- A page of the right length that does not parse. -/
@[irreducible] def garbagePinPage : Bytes := List.replicate 512 0xFF

theorem length_legacyEmptyPinPage : legacyEmptyPinPage.length = 512 := by
  rw [legacyEmptyPinPage, List.length_append, List.length_append, List.length_replicate]
  rfl

theorem length_garbagePinPage : garbagePinPage.length = 512 := by
  rw [garbagePinPage, List.length_replicate]

theorem take_legacyEmptyPinPage : legacyEmptyPinPage.take 4 = pinAssignmentMagicLegacy := by
  rw [legacyEmptyPinPage, List.append_assoc]
  exact List.take_left' rfl

theorem deserialize_legacyEmptyPinPage :
    deserializeAssignmentsFromPage legacyEmptyPinPage = .ok [] := by
  rw [legacyEmptyPinPage]
  exact deserializeAssignmentsFromPage_eq_ok_iff.mpr
    ⟨⟨by simp, .nil⟩, pinAssignmentMagicLegacy, by simp, 506, rfl⟩

theorem deserialize_garbagePinPage :
    deserializeAssignmentsFromPage garbagePinPage = .error .invalidPayload := by
  rw [garbagePinPage, show (512 : ℕ) = 506 + 6 from rfl, List.replicate_succ, List.replicate_succ,
    List.replicate_succ, List.replicate_succ, List.replicate_succ, List.replicate_succ]
  simp [deserializeAssignmentsFromPage, pinAssignmentMagic, pinAssignmentMagicLegacy]

/-- The packet that writes a pin-assignment page on a plain board. -/
def writePinPage (P : Platform) (data : Bytes) : Input :=
  ⟨⟨0, 0, none⟩, ⟨.writePage, encodePagePayload P pinPageId data⟩⟩

section Plain

open FirmwareRuntime

variable {data : Bytes} (h : r.Sound P) (hplain : r.pageCryptoEnabled = false)
  (hlen : data.length = 512)
include h hplain hlen

/-- A plain board rejects a page that does not parse, and replaces it. -/
theorem of_writePinPage_rejected {error : AssignmentError}
    (hdes : deserializeAssignmentsFromPage data = .error error) : ∃ reverted,
    serializeAssignmentsToPage r.pinAssignments 512 = .ok reverted ∧
      (Step.of P A r (writePinPage P data)).output.cmd = .nack ∧
      (Step.of P A r (writePinPage P data)).dst.store = r.store.withRam pinPageId reverted := by
  obtain ⟨reverted, hser, -⟩ := h.exists_serialize
  have hc : (r.tickUpdateHealthWindow 0).Carries P _ pinPageId data :=
    carries_encodePagePayload hplain pinPageId (by omega)
  have hw : r.handlePacket P A ⟨0, 0, none⟩ (writePinPage P data).packet = _ :=
    (h.tick 0).writePage_reverted hc hlen hdes hser
  exact ⟨reverted, hser, congrArg (fun answer => answer.2.cmd) hw,
    congrArg (fun answer => answer.1.store) hw⟩

/-- A plain board accepts a page that parses. -/
theorem of_writePinPage_accepted {as : List ResolvedPinAssignment}
    (hdes : deserializeAssignmentsFromPage data = .ok as) :
    (Step.of P A r (writePinPage P data)).dst.store = r.store.withRam pinPageId data ∧
      (Step.of P A r (writePinPage P data)).dst.pinAssignments = as ∧
      (Step.of P A r (writePinPage P data)).dst.pageCryptoEnabled = false := by
  have hc : (r.tickUpdateHealthWindow 0).Carries P _ pinPageId data :=
    carries_encodePagePayload hplain pinPageId (by omega)
  have hw : r.handlePacket P A ⟨0, 0, none⟩ (writePinPage P data).packet = _ :=
    (h.tick 0).writePage_pin hc hlen hdes
  exact ⟨congrArg (fun answer => answer.1.store) hw,
    congrArg (fun answer => answer.1.pinAssignments) hw,
    (congrArg (fun answer => answer.1.pageCryptoEnabled) hw).trans hplain⟩

end Plain

/-- The first board with a page in the legacy format staged. -/
theorem exists_legacy_ecuV1 (P : Platform) (A : Catalogue) : ∃ r, Reachable P A r ∧
    r.pageCryptoEnabled = false ∧ r.store.readPage pinPageId = some legacyEmptyPinPage := by
  obtain ⟨r₀, hr₀, hplain, -⟩ := exists_new_ecuV1 P
  have hreach : Reachable P A r₀ := .of_boot .newZeroed hr₀
  obtain ⟨page, hpage, -⟩ := hreach.sound.pins
  obtain ⟨hstore, -, hplain'⟩ := of_writePinPage_accepted (A := A) hreach.sound hplain
    length_legacyEmptyPinPage deserialize_legacyEmptyPinPage
  refine ⟨_, hreach.step (step_of r₀ (writePinPage P legacyEmptyPinPage)), hplain', ?_⟩
  rw [hstore]
  exact ConfigStore.readPage_withRam_self _ _ _ hpage

/-- The first board, which accepted a page in the legacy format, rejects a page of garbage: the page
that takes its place reads as the assignments in force. -/
theorem pin_page_in_force_ecuV1 :
    ∃ (t : Step) (page : Bytes), Reachable referencePlatform referenceCatalogue t.src ∧
      t.src.store.readPage pinPageId = some legacyEmptyPinPage ∧
      (firmware referencePlatform referenceCatalogue).Step t ∧
      t.event = writePinPage referencePlatform garbagePinPage ∧ t.output.cmd = .nack ∧
      t.dst.store.readPage pinPageId = some page ∧
      deserializeAssignmentsFromPage page = .ok t.dst.pinAssignments ∧
      ValidAssignmentSet t.dst.pinAssignments := by
  obtain ⟨r, hreach, hplain, hpage⟩ := exists_legacy_ecuV1 referencePlatform referenceCatalogue
  obtain ⟨-, -, hnack, -⟩ := of_writePinPage_rejected (A := referenceCatalogue) hreach.sound hplain
    length_garbagePinPage deserialize_garbagePinPage
  have hstep := step_of (P := referencePlatform) (A := referenceCatalogue) r
    (writePinPage referencePlatform garbagePinPage)
  obtain ⟨⟨page, hread, hdes⟩, hvalid⟩ := pin_page_in_force (hreach.step hstep)
  exact ⟨_, page, hreach, hpage, hstep, rfl, hnack, hread, hdes, hvalid⟩

end StEcu
