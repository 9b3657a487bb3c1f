import StEcu.Protocol.WireAgreement
import StEcu.Transport.System

/-!
# The reasons of rejected packets

A rejected packet is answered by a code and a reason. The length of the reason is one byte of the
payload, so that the host reads a reason back exactly if it has at most 255 bytes. The reasons of
all commands but the assignment of pins are fixed texts, one of them with a number in it, and are
short enough.

## Main definitions

* `Rejection.Brief`, `Packet.Brief`: rejections whose reason fits.

## Main results

* `Wire.run_decodeNackPayload`: what the host reads from the payload of a rejection.
* `FirmwareRuntime.dispatch_brief`: the rejections of all commands but one are brief.
-/

namespace StEcu

/-! ### Reading a rejection -/

/-- A reason is read back where it fits its length byte; a longer one makes the payload
malformed. -/
theorem Wire.run_decodeNackPayload (code : RuntimeNackCode) (reason : String) :
    decodeNackPayload.run (nack code reason).payload =
      if (utf8 reason).length ≤ 255 then .ok (code.code, reason)
      else .error (.rejected malformed) := by
  set bs : Bytes := code.code :: pushString reason with hbs
  change decodeNackPayload.run bs = _
  have hrequire : ¬ bs.length < 0 + 1 := by simp [hbs]
  have hcode : ∀ reader : UInt8 → Reader (UInt8 × String),
      (ByteReader.byte >>= reader).read bs 0 = (reader code.code).read bs 1 := fun _ => rfl
  rw [ByteReader.run, decodeNackPayload,
    ByteReader.read_bind_ok (ByteReader.read_require.trans (if_neg hrequire)), hcode]
  by_cases hfits : (utf8 reason).length ≤ 255
  · have hlen : bs.length = 1 + (pushString reason).length := Nat.add_comm _ _
    have hread : readString.read bs 1 = .ok (reason, bs.length) := by
      have hreads := reads_readString hfits [] [code.code]
      rw [List.append_nil] at hreads
      rw [hlen]
      exact hreads
    have hend : ¬ bs.length ≠ bs.length := not_not.mpr rfl
    rw [ByteReader.read_bind_ok hread,
      ByteReader.read_bind_ok (ByteReader.read_atEnd.trans (if_neg hend)), if_pos hfits]
    rfl
  · rw [if_neg hfits]
    obtain hfail | ⟨value, q, hread, -, hshort, hdrop⟩ := read_readString bs 1
    · rw [ByteReader.read_bind_error hfail]
    · -- a string that ends with the payload would be the reason itself
      have hend : q ≠ bs.length := by
        rintro rfl
        rw [List.drop_length, List.append_nil] at hdrop
        have hbytes : utf8 reason = utf8 value := (List.cons.inj hdrop).2
        rw [hbytes] at hfits
        exact hfits hshort
      rw [ByteReader.read_bind_ok hread,
        ByteReader.read_bind_error (ByteReader.read_atEnd.trans (if_pos hend))]

/-! ### Brief rejections -/

/-- The reason fits its length byte. -/
def Rejection.Brief (e : Rejection) : Prop := (utf8 e.2).length ≤ 255

/-- The answer is no rejection, or a brief one. -/
def Packet.Brief (answer : Packet) : Prop :=
  answer.cmd = .nack → ∃ e : Rejection, e.Brief ∧ answer = e.packet

/-- The checks of a command reject briefly. -/
def BriefErrors {α : Type} (result : Except Rejection α) : Prop :=
  ∀ e, result = .error e → e.Brief

theorem Packet.Brief.nack {code : RuntimeNackCode} {reason : String}
    (h : (utf8 reason).length ≤ 255) : (nack code reason).Brief :=
  fun _ => ⟨(code, reason), h, rfl⟩

theorem Packet.Brief.of_ne {answer : Packet} (h : answer.cmd ≠ .nack) : answer.Brief :=
  fun hnack => absurd hnack h

theorem Packet.Brief.ack : StEcu.ack.Brief := .of_ne (by decide)

theorem BriefErrors.ok {α : Type} (a : α) : BriefErrors (.ok a) := by
  intro e h
  cases h

theorem BriefErrors.error {α : Type} {code : RuntimeNackCode} {reason : String}
    (h : (utf8 reason).length ≤ 255) : BriefErrors (α := α) (.error (code, reason)) := by
  intro e heq
  obtain rfl := Except.error.inj heq
  exact h

namespace FirmwareRuntime

variable {P : Platform} {r : FirmwareRuntime} (payload : Bytes)

theorem orReject_brief {α : Type} {result : Except Rejection α}
    {next : α → FirmwareRuntime × Packet} (h : BriefErrors result)
    (hnext : ∀ a, (next a).2.cmd ≠ .nack) : (r.orReject result next).2.Brief := by
  cases result with
  | error e => exact fun _ => ⟨e, h e rfl, rfl⟩
  | ok a => exact .of_ne (hnext a)

/-! ### Data log, tables and the output test -/

theorem resetLogbookCommand_brief : r.resetLogbookCommand.2.Brief := by
  rw [resetLogbookCommand]
  split
  · exact .nack (by decide)
  · exact .ack

theorem syncRtcCommand_brief : (r.syncRtcCommand payload).2.Brief := by
  rw [syncRtcCommand]
  split
  · exact .nack (by decide)
  split
  · exact .nack (by decide)
  · exact .ack

theorem readLogBlockAnswer_brief : (r.readLogBlockAnswer P payload).Brief := by
  rw [readLogBlockAnswer]
  split
  · exact .nack (by decide)
  dsimp only
  split
  · exact .nack (by decide)
  split
  · exact .nack (by decide)
  · exact .of_ne (by simp)

theorem readTableAnswer_brief : (r.readTableAnswer payload).Brief := by
  rw [readTableAnswer]
  split
  · exact .nack (by decide)
  split
  · exact .of_ne (by simp)
  · exact .nack (by decide)

theorem writeTableCommand_brief : (r.writeTableCommand payload).2.Brief := by
  rw [writeTableCommand]
  split
  · exact .nack (by decide)
  split
  · exact .nack (by decide)
  · exact .ack

theorem checkWriteCell_brief : BriefErrors (r.checkWriteCell payload) := by
  rw [checkWriteCell]
  split
  · exact .error (by decide)
  dsimp only
  split
  · exact .error (by decide)
  split
  · exact .error (by decide)
  split
  · exact .error (by decide)
  · exact .ok _

theorem checkOutputTest_brief : BriefErrors (r.checkOutputTest payload) := by
  rw [checkOutputTest]
  split
  · exact .error (by decide)
  dsimp only
  split
  · exact .error (by decide)
  split
  · exact .error (by decide)
  split
  · exact .error (by decide)
  split
  · exact .error (by decide)
  · exact .ok _

theorem runOutputTest_brief : (r.runOutputTest payload).2.Brief := by
  refine orReject_brief (checkOutputTest_brief payload) fun audit => ?_
  cases audit <;> simp

/-! ### Pages -/

theorem readPage_brief : (r.readPage P payload).2.Brief := by
  rw [readPage]
  split
  · exact .nack (by decide)
  split
  · exact .nack (by decide)
  split
  · exact .of_ne (by simp)
  · exact .nack (by decide)

theorem afterPageWrite_brief (pageId : UInt8) (payloadLen : ℕ) :
    (r.afterPageWrite pageId payloadLen).2.Brief := by
  rw [afterPageWrite]
  split
  · split
    · exact .of_ne (by simp [pageAck])
    · split
      · exact .nack (by decide)
      · exact .nack (by decide)
  split
  · exact .of_ne (by simp [pageAck])
  · exact .of_ne (by simp [pageAck])

theorem writePage_brief : (r.writePage P payload).2.Brief := by
  rw [writePage]
  split
  · exact .nack (by decide)
  split
  · exact .nack (by decide)
  · exact .nack (by decide)
  split
  · exact .nack (by decide)
  · exact afterPageWrite_brief _ _

theorem burnPage_brief : (r.burnPage P payload).2.Brief := by
  rw [burnPage]
  split
  · exact .nack (by decide)
  split
  · exact .nack (by decide)
  · exact .of_ne (by simp)

/-! ### Firmware update -/

/-- The one reason with a number in it, which has at most twenty digits. -/
theorem length_lockedReason_le (remaining : UInt64) :
    (utf8 ("bootloader auth locked after failed attempts; retry in " ++
      toString remaining.toNat ++ " ms")).length ≤ 255 := by
  have hfirst : (utf8 "bootloader auth locked after failed attempts; retry in ").length = 55 := by
    decide
  have hlast : (utf8 " ms").length = 3 := by decide
  have hnumber : (utf8 (toString remaining.toNat)).length ≤ 4 * 20 :=
    length_utf8_toString_le (by omega) (remaining.toNat_lt.trans (by norm_num))
  rw [length_utf8_append, length_utf8_append]
  omega

theorem authenticate_brief (clock : Clock) : (r.authenticate P clock payload).2.Brief := by
  rw [authenticate]
  split
  · exact .nack (length_lockedReason_le _)
  split
  · exact .of_ne (by simp)
  split
  · exact .nack (by decide)
  split
  · exact .nack (by decide)
  split
  · exact .nack (by decide)
  dsimp only
  split
  · exact .nack (by decide)
  split
  · exact .nack (by decide)
  · exact .ack

theorem enterBootloader_brief (clock : Clock) : (r.enterBootloader P clock payload).2.Brief := by
  rw [enterBootloader]
  split
  · exact .ack
  · exact authenticate_brief payload clock

theorem flashResume_brief : (r.flashResume P payload).2.Brief := by
  rw [flashResume]
  split
  · exact .nack (by decide)
  split
  · exact .nack (by decide)
  split
  · exact .of_ne (by simp)
  · exact .nack (by decide)
  · exact .nack (by decide)
  · exact .nack (by decide)

theorem checkFlashBlock_brief : BriefErrors (r.checkFlashBlock payload) := by
  rw [checkFlashBlock]
  split
  · exact .error (by decide)
  split
  · exact .error (by decide)
  split
  · exact .error (by decide)
  split
  · exact .error (by decide)
  dsimp only
  split
  · exact .error (by decide)
  · exact .ok _

theorem checkFlashAuthTag_brief (crc : UInt32) (tag : Option Bytes) :
    BriefErrors (r.checkFlashAuthTag P crc tag) := by
  cases tag with
  | none => exact .ok ()
  | some tag =>
    rw [checkFlashAuthTag]
    split
    · exact .error (by decide)
    split
    · exact .error (by decide)
    · exact .ok ()

theorem checkFlashSignature_brief (crc : UInt32) (signature : Option Bytes) :
    BriefErrors (r.checkFlashSignature P crc signature) := by
  cases signature with
  | none =>
    rw [checkFlashSignature]
    split
    · exact .error (by decide)
    · exact .ok ()
  | some signature =>
    rw [checkFlashSignature]
    split
    · exact .error (by decide)
    · exact .ok ()

theorem checkFlashVerify_brief : BriefErrors (r.checkFlashVerify P payload) := by
  rw [checkFlashVerify]
  split
  · exact .error (by decide)
  split
  · exact .error (by decide)
  split
  · exact .error (by decide)
  dsimp only
  split
  · exact .error (by decide)
  split
  next e htag =>
    have hbrief := checkFlashAuthTag_brief _ _ e htag
    exact fun e' heq => Except.error.inj heq ▸ hbrief
  split
  next e hsignature =>
    have hbrief := checkFlashSignature_brief _ _ e hsignature
    exact fun e' heq => Except.error.inj heq ▸ hbrief
  next => exact .ok _

theorem checkFlashComplete_brief : BriefErrors (r.checkFlashComplete P) := by
  rw [checkFlashComplete]
  split
  · exact .error (by decide)
  split
  · exact .error (by decide)
  split
  · exact .error (by decide)
  dsimp only
  split
  · exact .error (by decide)
  · exact .ok _

theorem confirmBootHealthy_brief : r.confirmBootHealthy.2.Brief := by
  rw [confirmBootHealthy]
  split
  · exact .ack
  · exact .nack (by decide)

/-! ### The dispatcher -/

/-- **The rejections of all commands are brief**, but for the assignment of pins. -/
theorem dispatch_brief (A : Catalogue) (clock : Clock) {packet : Packet}
    (hcmd : packet.cmd ≠ .pinAssign) : (r.dispatch P A clock packet).2.Brief := by
  rw [dispatch]
  dsimp only
  cases h : packet.cmd
  case pinAssign => exact absurd h hcmd
  case resetLogbook => exact resetLogbookCommand_brief
  case syncRtc => exact syncRtcCommand_brief _
  case readLogBlock => exact readLogBlockAnswer_brief _
  case readTable => exact readTableAnswer_brief _
  case writeTable => exact writeTableCommand_brief _
  case writeCell => exact orReject_brief (checkWriteCell_brief _) fun _ => by simp
  case runOutputTest => exact runOutputTest_brief _
  case readPage => exact readPage_brief _
  case writePage => exact writePage_brief _
  case burnPage => exact burnPage_brief _
  case enterBootloader => exact enterBootloader_brief _ _
  case flashResume => exact flashResume_brief _
  case flashBlock => exact orReject_brief (checkFlashBlock_brief _) fun _ => by simp
  case flashVerify => exact orReject_brief (checkFlashVerify_brief _) fun _ => by simp
  case flashComplete => exact orReject_brief checkFlashComplete_brief fun _ => by simp
  case confirmBootHealthy => exact confirmBootHealthy_brief
  -- what is left are the queries and the commands that are not requests
  all_goals
    first
    | exact .nack (by decide)
    | exact .of_ne (by simp [triggerPicture])

end FirmwareRuntime

end StEcu
