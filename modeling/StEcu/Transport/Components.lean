import StEcu.Foundation.Noninterference
import StEcu.Transport.EncryptedBoard
import StEcu.Transport.Tables

/-!
# The tune and the tables stand alone

The pages with the pin assignments and the nonce counter are one component of a board, and the
calibration tables are another. Each has commands of its own, and nothing else that a board does
interferes with it: not live data, the log, trouble codes or output tests, not an update or its
authentication, not the clock, and not the other component.

## Main definitions

* `FirmwareRuntime.PageView`, `FirmwareRuntime.pageView`, `pageLabel`: the pages and their commands.
* `tableLabel`: the commands of the tables.
* `FirmwareRuntime.withRest`: the pages of one runtime with the rest of another.

## Main results

* `component_pages`, `component_tables`: the conditions on single packets.
* `tune_traffic_isolated`: the answers to the commands of a component, over runs.
-/

namespace StEcu

variable {P : Platform} {A : Catalogue}

/-- What the page commands of a board depend on. -/
structure FirmwareRuntime.PageView where
  ramPages : List Bytes
  flashSlots : List FlashPageSlot
  pinAssignments : List ResolvedPinAssignment
  pageCryptoEnabled : Bool
  tuneEncryption : Option TuneEncryption
  pageCryptoNextPersistCounter : UInt64

/-- The state that the page commands work on. -/
def FirmwareRuntime.pageView (r : FirmwareRuntime) : PageView where
  ramPages := r.store.ramPages
  flashSlots := r.store.flashSlots
  pinAssignments := r.pinAssignments
  pageCryptoEnabled := r.pageCryptoEnabled
  tuneEncryption := r.tuneEncryption
  pageCryptoNextPersistCounter := r.pageCryptoNextPersistCounter

/-- The commands of the pages and the pin assignments; their clock does not matter. -/
def pageLabel (input : Input) : Option Packet :=
  match input.packet.cmd with
  | .readPage | .writePage | .burnPage | .getPageStatuses | .pinAssign | .getPinAssignments =>
    some input.packet
  | _ => none

/-- The commands of the tables. -/
def tableLabel (input : Input) : Option Packet :=
  match input.packet.cmd with
  | .readTable | .writeTable | .writeCell => some input.packet
  | _ => none

/-! ### The scratch does not matter to the pages -/

namespace ConfigStore

variable (s : ConfigStore) (scratch : Option FlashResumeScratch)

/-- The store with another scratch. -/
def withScratch : ConfigStore := { s with flashResumeScratch := scratch }

theorem writePage_withScratch (pageId : UInt8) (data : Bytes) :
    (s.withScratch scratch).writePage pageId data =
      (s.writePage pageId data).map fun s => s.withScratch scratch := by
  rw [writePage, writePage, withScratch]
  cases s.ramPages[pageId.toNat]? with
  | none => rfl
  | some page =>
    dsimp only
    split_ifs <;> rfl

theorem burnPage_withScratch (pageId : UInt8) :
    (s.withScratch scratch).burnPage P pageId =
      ((s.burnPage P pageId).1.withScratch scratch, (s.burnPage P pageId).2) := by
  rw [burnPage, burnPage, withScratch]
  cases s.ramPages[pageId.toNat]? with
  | none => rfl
  | some ram => cases s.flashSlots[pageId.toNat]? <;> rfl

theorem persist_withScratch (counter : UInt64) :
    persistPageCryptoCounter P (s.withScratch scratch) counter =
      ((persistPageCryptoCounter P s counter).1.withScratch scratch,
        (persistPageCryptoCounter P s counter).2) := by
  rw [persistPageCryptoCounter, persistPageCryptoCounter,
    show (s.withScratch scratch).readPage pageCryptoNoncePageId = s.readPage pageCryptoNoncePageId
      from rfl]
  cases s.readPage pageCryptoNoncePageId with
  | none => rfl
  | some page =>
    dsimp only
    split_ifs with hlen
    · rfl
    rw [writePage_withScratch]
    cases s.writePage pageCryptoNoncePageId (withNonceRecord page counter) with
    | error e => rfl
    | ok s' =>
      simp only [Except.map]
      rw [burnPage_withScratch]
      obtain ⟨s'', result⟩ := s'.burnPage P pageCryptoNoncePageId
      cases result <;> rfl

end ConfigStore

namespace FirmwareRuntime

variable (r rest : FirmwareRuntime)

/-- The pages of one runtime with the rest of another. -/
def withRest : FirmwareRuntime :=
  { rest with
    store := r.store.withScratch rest.store.flashResumeScratch
    pinAssignments := r.pinAssignments
    pageCryptoEnabled := r.pageCryptoEnabled
    tuneEncryption := r.tuneEncryption
    pageCryptoNextPersistCounter := r.pageCryptoNextPersistCounter }

variable {r rest}

/-- A runtime with the same pages differs in the rest only. -/
theorem eq_withRest {r' : FirmwareRuntime} (h : r.pageView = r'.pageView) : r' = r.withRest r' := by
  obtain ⟨hram, hflash, hpins, hcrypto, henc, hnext⟩ := PageView.mk.inj h
  obtain ⟨identity, ⟨ramPages, flashSlots, scratch⟩, capabilities, pins, tables, crypto, enc, next,
    dtc, live, trigger, auth, signature, authState, flash, update, log⟩ := r'
  simp only [withRest, ConfigStore.withScratch, hram, hflash, hpins, hcrypto, henc, hnext]

/-! ### The handlers -/

theorem maybePersist_withRest (counter : UInt64) :
    (r.withRest rest).maybePersistPageCryptoCounter P counter =
      (r.maybePersistPageCryptoCounter P counter).withRest rest := by
  rw [maybePersistPageCryptoCounter, maybePersistPageCryptoCounter,
    show (r.withRest rest).store = r.store.withScratch rest.store.flashResumeScratch from rfl,
    show (r.withRest rest).pageCryptoEnabled = r.pageCryptoEnabled from rfl,
    show (r.withRest rest).pageCryptoNextPersistCounter = r.pageCryptoNextPersistCounter from rfl,
    ConfigStore.persist_withScratch]
  obtain ⟨store, result⟩ := persistPageCryptoCounter P r.store counter
  split_ifs
  · rfl
  · rfl
  · cases result <;> rfl

theorem encryptPage_withRest (page : Bytes) :
    (r.withRest rest).encryptPageForTransport P page =
      ((r.encryptPageForTransport P page).1.withRest rest,
        (r.encryptPageForTransport P page).2) := by
  rw [encryptPageForTransport, encryptPageForTransport,
    show (r.withRest rest).pageCryptoEnabled = r.pageCryptoEnabled from rfl,
    show (r.withRest rest).tuneEncryption = r.tuneEncryption from rfl]
  split_ifs
  · rfl
  cases r.tuneEncryption with
  | none => rfl
  | some enc =>
    dsimp only
    obtain ⟨enc', result⟩ := enc.encryptPage P page
    cases result with
    | error e => rfl
    | ok encrypted =>
      exact congrArg (·, _) (maybePersist_withRest (r := { r with tuneEncryption := some enc' }) _)

theorem readPage_withRest (payload : Bytes) :
    (r.withRest rest).readPage P payload =
      ((r.readPage P payload).1.withRest rest, (r.readPage P payload).2) := by
  rw [readPage, readPage]
  cases decodePageRequest payload with
  | error e => rfl
  | ok pageId =>
    dsimp only
    rw [show (r.withRest rest).store.readPage pageId = r.store.readPage pageId from rfl]
    cases r.store.readPage pageId with
    | none => rfl
    | some page =>
      dsimp only
      rw [encryptPage_withRest]
      obtain ⟨r', result⟩ := r.encryptPageForTransport P page
      cases result <;> rfl

theorem burnPage_withRest (payload : Bytes) : ∃ rest',
    (r.withRest rest).burnPage P payload =
      ((r.burnPage P payload).1.withRest rest', (r.burnPage P payload).2) := by
  rw [burnPage, burnPage]
  cases decodePageRequest payload with
  | error e => exact ⟨rest, rfl⟩
  | ok pageId =>
    dsimp only
    rw [show (r.withRest rest).store = r.store.withScratch rest.store.flashResumeScratch from rfl,
      ConfigStore.burnPage_withScratch]
    obtain ⟨store, result⟩ := r.store.burnPage P pageId
    cases result with
    | error e => exact ⟨rest, rfl⟩
    | ok =>
      dsimp only
      split_ifs
      · exact ⟨{ rest with triggerRuntime := syncTriggerRuntime store rest.triggerRuntime }, rfl⟩
      · exact ⟨rest, rfl⟩

theorem afterPageWrite_withRest (pageId : UInt8) (payloadLen : ℕ) : ∃ rest',
    (r.withRest rest).afterPageWrite pageId payloadLen =
      ((r.afterPageWrite pageId payloadLen).1.withRest rest',
        (r.afterPageWrite pageId payloadLen).2) := by
  rw [afterPageWrite, afterPageWrite]
  split_ifs
  · rw [reloadPinAssignmentsFromRamPage, reloadPinAssignmentsFromRamPage,
      show (r.withRest rest).store.readPage ConfigPage.pinAssignment.id =
        r.store.readPage ConfigPage.pinAssignment.id from rfl,
      show (r.withRest rest).store = r.store.withScratch rest.store.flashResumeScratch from rfl,
      show (r.withRest rest).revertedPinPage payloadLen = r.revertedPinPage payloadLen from rfl,
      ConfigStore.writePage_withScratch]
    refine ⟨rest, ?_⟩
    cases r.store.readPage ConfigPage.pinAssignment.id with
    | none => cases r.store.writePage pageId (r.revertedPinPage payloadLen) <;> rfl
    | some page =>
      dsimp only
      cases deserializeAssignmentsFromPage page with
      | error e => cases r.store.writePage pageId (r.revertedPinPage payloadLen) <;> rfl
      | ok pins => rfl
  · exact ⟨{ rest with triggerRuntime := syncTriggerRuntime r.store rest.triggerRuntime }, rfl⟩
  · exact ⟨rest, rfl⟩

theorem writePage_withRest (payload : Bytes) : ∃ rest',
    (r.withRest rest).writePage P payload =
      ((r.writePage P payload).1.withRest rest', (r.writePage P payload).2) := by
  rw [writePage, writePage]
  cases decodePagePayload P payload with
  | error e => exact ⟨rest, rfl⟩
  | ok page =>
    dsimp only
    rw [show (r.withRest rest).decryptPageFromTransport P page.payload =
        r.decryptPageFromTransport P page.payload from rfl]
    cases r.decryptPageFromTransport P page.payload with
    | error e => exact ⟨rest, by cases e <;> rfl⟩
    | ok data =>
      dsimp only
      rw [show (r.withRest rest).store = r.store.withScratch rest.store.flashResumeScratch from rfl,
        ConfigStore.writePage_withScratch]
      cases r.store.writePage page.pageId data with
      | error e => exact ⟨rest, rfl⟩
      | ok store =>
        exact afterPageWrite_withRest (r := { r with store }) page.pageId data.length

theorem syncPinAssignmentPage_withRest :
    (r.withRest rest).syncPinAssignmentPage =
      r.syncPinAssignmentPage.map fun r => r.withRest rest := by
  rw [syncPinAssignmentPage, syncPinAssignmentPage,
    show (r.withRest rest).store = r.store.withScratch rest.store.flashResumeScratch from rfl,
    show (r.store.withScratch rest.store.flashResumeScratch).pageLength
      ConfigPage.pinAssignment.id = r.store.pageLength ConfigPage.pinAssignment.id from rfl,
    show (r.withRest rest).pinAssignments = r.pinAssignments from rfl]
  cases r.store.pageLength ConfigPage.pinAssignment.id with
  | none => rfl
  | some pageLen =>
    dsimp only
    cases serializeAssignmentsToPage r.pinAssignments pageLen with
    | error e => rfl
    | ok payload =>
      dsimp only
      rw [ConfigStore.writePage_withScratch]
      cases r.store.writePage ConfigPage.pinAssignment.id payload <;> rfl

theorem applyOverrides_withRest (overrides : List PinAssignmentRequest) :
    (r.withRest rest).applyPinAssignmentOverrides overrides =
      ((r.applyPinAssignmentOverrides overrides).1.withRest rest,
        (r.applyPinAssignmentOverrides overrides).2) := by
  rw [applyPinAssignmentOverrides, applyPinAssignmentOverrides,
    show (r.withRest rest).pinAssignments = r.pinAssignments from rfl]
  cases applyAssignmentOverrides r.pinAssignments overrides with
  | error e => rfl
  | ok pins =>
    dsimp only
    rw [show ({ r.withRest rest with pinAssignments := pins } : FirmwareRuntime) =
      withRest { r with pinAssignments := pins } rest from rfl, syncPinAssignmentPage_withRest]
    cases syncPinAssignmentPage { r with pinAssignments := pins } <;> rfl

theorem pinAssign_withRest (payload : Bytes) :
    (r.withRest rest).pinAssign P payload =
      ((r.pinAssign P payload).1.withRest rest, (r.pinAssign P payload).2) := by
  rw [pinAssign, pinAssign]
  cases decodePinAssignmentsPayload payload with
  | error e => rfl
  | ok assignments =>
    cases assignments with
    | nil => rfl
    | cons assignment assignments =>
      dsimp only
      rw [applyOverrides_withRest]
      generalize r.applyPinAssignmentOverrides _ = applied
      obtain ⟨r', result⟩ := applied
      cases result <;> rfl

theorem packet_of_pageLabel {input : Input} {packet : Packet} (h : pageLabel input = some packet) :
    input.packet = packet := by
  rw [pageLabel] at h
  split at h <;> simp_all

theorem packet_of_tableLabel {input : Input} {packet : Packet}
    (h : tableLabel input = some packet) : input.packet = packet := by
  rw [tableLabel] at h
  split at h <;> simp_all

/-- A command of the pages does the same to two runtimes with the same pages. -/
theorem handle_withRest {input input' : Input} {packet : Packet}
    (h : pageLabel input = some packet) (h' : pageLabel input' = some packet) :
    ∃ rest', handle P A (r.withRest rest) input' =
      ((handle P A r input).1.withRest rest', (handle P A r input).2) := by
  obtain ⟨clock, cmd, payload⟩ := input
  obtain ⟨clock', packet'⟩ := input'
  obtain rfl := packet_of_pageLabel h
  obtain rfl := packet_of_pageLabel h'
  change ∃ rest', ((r.tickUpdateHealthWindow clock.tick).withRest
      (rest.tickUpdateHealthWindow clock'.tick)).dispatch P A clock' ⟨cmd, payload⟩ =
    (((r.tickUpdateHealthWindow clock.tick).dispatch P A clock ⟨cmd, payload⟩).1.withRest rest',
      ((r.tickUpdateHealthWindow clock.tick).dispatch P A clock ⟨cmd, payload⟩).2)
  generalize r.tickUpdateHealthWindow clock.tick = r
  generalize rest.tickUpdateHealthWindow clock'.tick = rest
  cases cmd
  case readPage => exact ⟨rest, readPage_withRest payload⟩
  case writePage => exact writePage_withRest payload
  case burnPage => exact burnPage_withRest payload
  case pinAssign => exact ⟨rest, pinAssign_withRest payload⟩
  case getPageStatuses | getPinAssignments => exact ⟨rest, rfl⟩
  all_goals cases h

theorem writeTable_congr {r' : FirmwareRuntime} (h : r.tables = r'.tables) (payload : Bytes) :
    (r.writeTableCommand payload).2 = (r'.writeTableCommand payload).2 ∧
      (r.writeTableCommand payload).1.tables = (r'.writeTableCommand payload).1.tables := by
  rw [writeTableCommand, writeTableCommand]
  cases decodeRawTablePayload payload with
  | error e => exact ⟨rfl, h⟩
  | ok table =>
    dsimp only
    have hframe : r'.writeTableFrame table =
        (r.writeTableFrame table).map fun r₁ => { r' with tables := r₁.tables } := by
      simp only [writeTableFrame, tableIndex, h]
      cases r'.tables.findIdx? fun current => current.tableId == table.tableId with
      | none => rfl
      | some index =>
        dsimp only
        split_ifs <;> rfl
    rw [hframe]
    cases r.writeTableFrame table with
    | error e => exact ⟨rfl, h⟩
    | ok r₁ => exact ⟨rfl, rfl⟩

theorem writeCell_congr {r' : FirmwareRuntime} (h : r.tables = r'.tables) (payload : Bytes) :
    (r.writeCellCommand payload).2 = (r'.writeCellCommand payload).2 ∧
      (r.writeCellCommand payload).1.tables = (r'.writeCellCommand payload).1.tables := by
  have hcheck : r.checkWriteCell payload = r'.checkWriteCell payload := by
    simp only [checkWriteCell, tableIndex, h]
  rw [writeCellCommand, writeCellCommand, hcheck]
  cases r'.checkWriteCell payload with
  | error e => exact ⟨rfl, h⟩
  | ok cell =>
    obtain ⟨index, table, offset, value⟩ := cell
    exact ⟨rfl, congrArg (List.set · index _) h⟩

/-- A packet without a label leaves the pages alone. -/
theorem Effect.pageView_eq {clock : Clock} {packet answer : Packet} {r' : FirmwareRuntime}
    (he : Effect P clock packet r r' answer) (h : pageLabel ⟨clock, packet⟩ = none) :
    r'.pageView = r.pageView := by
  have hcmd {cmd : Cmd} (heq : packet.cmd = cmd) (hpage : pageLabel ⟨clock, ⟨cmd, []⟩⟩ ≠ none) :
      False := by
    simp only [pageLabel, heq] at h hpage
    cases cmd <;> simp_all
  cases he with
  | blockAppended block hblock hcheck =>
    obtain ⟨scratch, heq⟩ := appendFlashBlock_eq (P := P) (r := r) block
    rw [heq]
    rfl
  | pageEncrypted pageId page ciphertext enc heq | encryptionFailed pageId page enc e heq
  | pageWritten pageId data heq | basePageWritten data heq | pinPageWritten data pins heq
  | pinPageReverted data reverted e error heq | pageBurned pageId page heq
  | pinsAssigned pins page heq =>
    exact (hcmd heq (by simp [pageLabel])).elim
  | _ => rfl

/-- The commands of the tables do the same to two runtimes with the same tables. -/
theorem handle_tables {r' : FirmwareRuntime} (htables : r.tables = r'.tables) {input input' : Input}
    {packet : Packet} (h : tableLabel input = some packet) (h' : tableLabel input' = some packet) :
    (handle P A r input).2 = (handle P A r' input').2 ∧
      (handle P A r input).1.tables = (handle P A r' input').1.tables := by
  obtain ⟨clock, cmd, payload⟩ := input
  obtain ⟨clock', packet'⟩ := input'
  obtain rfl := packet_of_tableLabel h
  obtain rfl := packet_of_tableLabel h'
  have htick : (r.tickUpdateHealthWindow clock.tick).tables =
      (r'.tickUpdateHealthWindow clock'.tick).tables := htables
  rw [handle, handle, handlePacket, handlePacket]
  generalize r.tickUpdateHealthWindow clock.tick = r at htick ⊢
  generalize r'.tickUpdateHealthWindow clock'.tick = r' at htick ⊢
  cases cmd
  case readTable => exact ⟨by simp only [dispatch, readTableAnswer, htick], htick⟩
  case writeTable => exact writeTable_congr htick payload
  case writeCell => exact writeCell_congr htick payload
  all_goals cases h

end FirmwareRuntime

open FirmwareRuntime

/-! ### The components -/

/-- **The pages are a component of a board.** -/
theorem component_pages : Component (handle P A) (Sound P) pageView pageLabel where
  keeps r input h := step_sound (step_of r input) h
  leaves r input h hlabel := (step_effect (step_of r input) h).pageView_eq hlabel
  follows r r' input input' packet h h' hlabel hlabel' hview := by
    obtain ⟨rest', heq⟩ := handle_withRest (P := P) (A := A) (r := r) hlabel hlabel'
    rw [← eq_withRest hview] at heq
    rw [heq]
    exact ⟨rfl, rfl⟩

/-- **The tables are a component of a board.** -/
theorem component_tables : Component (handle P A) (Sound P) FirmwareRuntime.tables tableLabel where
  keeps r input h := step_sound (step_of r input) h
  leaves r input h hlabel := by
    refine (step_activity (step_of r input) h).tables_eq (.inl ?_)
    constructor <;> intro hcmd <;> simp [tableLabel, Step.of] at hlabel hcmd <;>
      simp [hcmd] at hlabel
  follows r r' input input' packet _ _ hlabel hlabel' htables :=
    handle_tables htables hlabel hlabel'

/-- **Nothing interferes with the tune and the tables**: two boards with the same pages answer the
same commands of the pages alike, byte for byte, whatever other packets come in between, at whatever
times, and end with the same pages; and so for the tables. -/
theorem tune_traffic_isolated {r r' : FirmwareRuntime} (h : Reachable P A r)
    (h' : Reachable P A r') (inputs inputs' : List Input) :
    (r.pageView = r'.pageView → inputs.filterMap pageLabel = inputs'.filterMap pageLabel →
      Component.outputs pageLabel (TransitionSystem.trace (handle P A) r inputs) =
          Component.outputs pageLabel (TransitionSystem.trace (handle P A) r' inputs') ∧
        (TransitionSystem.after (handle P A) r inputs).pageView =
          (TransitionSystem.after (handle P A) r' inputs').pageView) ∧
    (r.tables = r'.tables → inputs.filterMap tableLabel = inputs'.filterMap tableLabel →
      Component.outputs tableLabel (TransitionSystem.trace (handle P A) r inputs) =
          Component.outputs tableLabel (TransitionSystem.trace (handle P A) r' inputs') ∧
        (TransitionSystem.after (handle P A) r inputs).tables =
          (TransitionSystem.after (handle P A) r' inputs').tables) :=
  ⟨fun hview hes => component_pages.noninterference h.sound h'.sound hview hes,
    fun hview hes => component_tables.noninterference h.sound h'.sound hview hes⟩

/-- An encrypting board answers two reads of page 0 alike, nonces included, whether or not a log is
started and a live frame is built in between, and an update session begun. -/
theorem tune_traffic_isolated_h743 : ∃ r, new referencePlatform .h743 false = some r ∧
    Component.outputs pageLabel (TransitionSystem.trace
        (handle referencePlatform referenceCatalogue) r
        [readPageInput 0, ⟨⟨5, 7, none⟩, ⟨.logStart, []⟩⟩, ⟨⟨8, 9, none⟩, ⟨.getLiveData, []⟩⟩,
          ⟨⟨9, 9, none⟩, ⟨.enterBootloader, []⟩⟩, readPageInput 0]) =
      Component.outputs pageLabel (TransitionSystem.trace
        (handle referencePlatform referenceCatalogue) r [readPageInput 0, readPageInput 0]) := by
  obtain ⟨r, hr, hreach⟩ := exists_reachable_new (P := referencePlatform) (A := referenceCatalogue)
    .h743 false
  refine ⟨r, hr, ((tune_traffic_isolated hreach hreach _ _).1 rfl ?_).1⟩
  rfl

end StEcu
