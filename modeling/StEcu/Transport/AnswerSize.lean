import StEcu.Io.AssignmentLaws
import StEcu.Live.FrameCodec
import StEcu.Protocol.RoundTrip
import StEcu.Transport.LogSession
import StEcu.Transport.NackDecoding
import StEcu.Transport.Tables

/-!
# The size of answers

The length of a frame is announced in two bytes, and the receiver takes at most 8192 bytes for a
payload. Nothing checks an answer against this bound when it is sent: it holds because of what the
board keeps of its pages, its tables, its pins, its log and its trouble codes. The longest answer of
unknown length repeats a pin identifier that the host sent.

## Main definitions

* `LiteralLaw`: how much longer a string becomes as a literal.
* `Catalogue.Fits`: the constant directories and the pictures of the trigger fit a frame.
* `FirmwareRuntime.Records`: what bounds the other answers.

## Main results

* `FirmwareRuntime.Effect.fitsFrame`, `FirmwareRuntime.dispatch_fitsFrame`: answers fit a frame.
* `fitsFrame_of_run`: and so do those of a run.
-/

namespace StEcu

/-- A literal has at most ten bytes for each byte of the string in the debug format, six in JSON,
and two quotes. -/
structure LiteralLaw (P : Platform) : Prop where
  debugStr : ∀ s, (utf8 (P.debugStr s)).length ≤ 10 * (utf8 s).length + 2
  jsonStr : ∀ s, (utf8 (P.jsonStr s)).length ≤ 6 * (utf8 s).length + 2

/-- The payload fits a frame. -/
def Packet.FitsFrame (packet : Packet) : Prop := packet.payload.length ≤ maxPayload

/-- The constant directories and the pictures of the trigger fit a frame. -/
structure Catalogue.Fits (A : Catalogue) : Prop where
  freezeFrames : A.freezeFrames.length ≤ maxPayload
  triggerDecoderDirectory : A.triggerDecoderDirectory.length ≤ maxPayload
  canTemplateDirectory : A.canTemplateDirectory.length ≤ maxPayload
  canSignalDirectory : A.canSignalDirectory.length ≤ maxPayload
  pinDirectory : A.pinDirectory.length ≤ maxPayload
  sensorRawDirectory : A.sensorRawDirectory.length ≤ maxPayload
  networkProfile : A.networkProfile.length ≤ maxPayload
  triggerCapture : ∀ (t : TriggerRuntime) (sampleCounter : UInt32),
    (A.triggerCapture (t.advanceState sampleCounter).1 (t.advanceState sampleCounter).2).length ≤
      maxPayload
  triggerToothLog : ∀ (t : TriggerRuntime) (sampleCounter : UInt32),
    (A.triggerToothLog (t.advanceState sampleCounter).1 (t.advanceState sampleCounter).2).length ≤
      maxPayload

section Packets

variable {answer : Packet}

theorem Packet.FitsFrame.ack : StEcu.ack.FitsFrame := Nat.zero_le _

theorem Packet.FitsFrame.nack {code : RuntimeNackCode} {reason : String}
    (h : (utf8 reason).length ≤ 8000) : (nack code reason).FitsFrame := by
  simp only [FitsFrame, StEcu.nack, encodeNackPayload, pushString, List.length_cons, maxPayload]
  omega

/-- A brief rejection fits a frame. -/
theorem Packet.Brief.fitsFrame (h : answer.Brief) (hother : answer.cmd ≠ .nack → answer.FitsFrame) :
    answer.FitsFrame := by
  by_cases hnack : answer.cmd = .nack
  · obtain ⟨⟨code, reason⟩, hbrief, rfl⟩ := h hnack
    exact .nack (Nat.le_trans hbrief (by decide))
  · exact hother hnack

end Packets

namespace FirmwareRuntime

variable {P : Platform} {A : Catalogue} {r : FirmwareRuntime}

/-! ### Rejected pin assignments -/

/-- The strings of a payload have at most 255 bytes. -/
theorem length_pinId_of_readPinAssignments {count : ℕ} {bs rest : Bytes}
    {assignments : List DecodedPinAssignment}
    (h : readPinAssignments count bs = some (assignments, rest)) :
    ∀ assignment ∈ assignments, (utf8 assignment.pinId).length ≤ 255 := by
  induction count generalizing bs rest assignments with
  | zero =>
    obtain ⟨rfl, -⟩ := Prod.mk.inj (Option.some.inj h)
    simp
  | succ count ih =>
    cases bs with
    | nil => cases h
    | cons functionCode bs =>
      simp only [readPinAssignments, Option.bind_eq_bind, Option.bind_eq_some_iff, Prod.exists,
        Option.pure_def, Option.some.injEq, Prod.mk.injEq] at h
      obtain ⟨function, -, pinId, bs₁, hpinId, pinLabel, bs₂, -, assignments', bs₃, hrest, rfl,
        -⟩ := h
      rw [List.forall_mem_cons]
      exact ⟨(Wire.readString_eq_some_iff.mp hpinId).2, ih hrest⟩

theorem mem_foldl_mergeOverride {overrides merged : List PinAssignmentRequest}
    {request : PinAssignmentRequest} (h : request ∈ overrides.foldl mergeOverride merged) :
    request ∈ merged ∨ request ∈ overrides := by
  induction overrides generalizing merged with
  | nil => exact .inl h
  | cons override overrides ih =>
    rcases ih h with hmem | hmem
    · obtain ⟨front, old, rest, rfl, -, heq⟩ | heq := mergeOverride_cases merged override
      all_goals
        rw [heq] at hmem
        simp only [List.mem_append, List.mem_cons, List.not_mem_nil, or_false] at hmem ⊢
        tauto
    · exact .inr (.tail _ hmem)

/-- The pins asked for are pins of the board, or strings of the payload. -/
theorem Sound.length_pinId_of_mem_mergedPins (h : r.Sound P) {payload : Bytes}
    {assignments : List DecodedPinAssignment}
    (hdec : decodePinAssignmentsPayload payload = .ok assignments) {request : PinAssignmentRequest}
    (hmem : request ∈ r.mergedPins assignments) : (utf8 request.pinId).length ≤ 255 := by
  rcases mem_foldl_mergeOverride hmem with hmem | hmem
  · obtain ⟨assignment, hassignment, rfl⟩ := List.mem_map.mp hmem
    exact Nat.le_trans (h.validPins.length_pinId_le assignment hassignment) (by decide)
  · obtain ⟨assignment, hassignment, rfl⟩ := List.mem_map.mp hmem
    rw [decodePinAssignmentsPayload.eq_def] at hdec
    split at hdec
    · cases hdec
    split at hdec
    next hread =>
      obtain rfl := Except.ok.inj hdec
      exact length_pinId_of_readPinAssignments hread assignment hassignment
    · cases hdec

/-- The text of a rejected assignment is bounded, though it may repeat what the host sent. -/
theorem Sound.length_debugText_le (hP : DebugLaw P) (hlit : LiteralLaw P) (h : r.Sound P)
    {payload : Bytes} {assignments : List DecodedPinAssignment} {error : AssignmentError}
    (hdec : decodePinAssignmentsPayload payload = .ok assignments)
    (herror : validateAssignmentSet (r.mergedPins assignments) = .error error) :
    (utf8 (error.debugText P)).length ≤ 2700 := by
  obtain ⟨accepted, request, rest, items, hsplit, -, hround⟩ :=
    resolveRequests_eq_error_iff.mp herror
  by_cases hfixed : ∃ f id requested, error = .fixedPinRequired f id requested
  · rcases resolveRequest_error_cases hround with
      rfl | ⟨id, hid, -, rfl⟩ | ⟨error, rfl⟩ | ⟨pin, existing, -, rfl | ⟨resource, -, rfl⟩⟩
    case inr.inl =>
      have hmem : request ∈ r.mergedPins assignments := by
        rw [show r.mergedPins assignments = _ from hsplit]
        exact List.mem_append_right _ (.head _)
      have hpinId := h.length_pinId_of_mem_mergedPins hdec hmem
      have hdebug := hlit.debugStr request.pinId
      have hname := length_debugText_function_le request.function
      have hfixedId : (utf8 id).length ≤ 4 := by
        cases hf : request.function <;> rw [hf] at hid <;> cases hid <;> decide
      rw [length_debugText_fixedPinRequired hP hid]
      omega
    all_goals
      obtain ⟨f, id, requested, heq⟩ := hfixed
      cases heq
  · have hlen := StEcu.length_debugText_le hP hround fun f id requested heq =>
      hfixed ⟨f, id, requested, heq⟩
    omega

theorem Sound.pinAssign_fitsFrame (hP : DebugLaw P) (hlit : LiteralLaw P) (h : r.Sound P)
    {payload : Bytes}
    (hother : (r.pinAssign P payload).2.cmd ≠ .nack → (r.pinAssign P payload).2.FitsFrame) :
    (r.pinAssign P payload).2.FitsFrame := by
  cases hdec : decodePinAssignmentsPayload payload with
  | error e =>
    simp only [pinAssign, hdec]
    exact .nack (by decide)
  | ok assignments =>
    by_cases hne : assignments = []
    · subst hne
      simp only [pinAssign, hdec]
      exact .nack (by decide)
    cases hvalid : validateAssignmentSet (r.mergedPins assignments) with
    | error error =>
      have hstart : (utf8 "pin-assignment rejected: ").length = 25 := by decide
      have hlen := h.length_debugText_le hP hlit hdec hvalid
      rw [pinAssign_of_error hdec hne hvalid]
      refine .nack ?_
      rw [length_utf8_append, hstart]
      omega
    | ok pinAssignments =>
      have hbrief : (r.pinAssign P payload).2.Brief :=
        h.pinAssign_brief fun assignments' error hdec' herror => by
          obtain rfl := Except.ok.inj (hdec.symm.trans hdec')
          cases hvalid.symm.trans herror
      exact hbrief.fitsFrame hother

/-! ### Pages and the update -/

theorem encodePagePayload_fitsFrame {data : Bytes} (h : data.length ≤ 2048) (pageId : UInt8) :
    (⟨.pageData, encodePagePayload P pageId data⟩ : Packet).FitsFrame := by
  simp only [Packet.FitsFrame, encodePagePayload, List.cons_append, List.length_cons,
    List.length_append, length_u16ToBe, length_u32ToBe, maxPayload]
  omega

theorem pageAck_fitsFrame (pageId : UInt8) : (r.pageAck pageId).FitsFrame := by
  simp [Packet.FitsFrame, pageAck, encodeAckPayload, maxPayload]

/-- The answers to the commands that touch pages, pins, the update or the authentication fit a
frame, but for rejections and resume requests. -/
theorem Effect.fitsFrame (hP : AeadLaw P) {clock : Clock} {packet : Packet}
    {r' : FirmwareRuntime} {answer : Packet} (he : Effect P clock packet r r' answer)
    (h : r.Sound P) (hcritical : packet.cmd.isCritical = true)
    (hresume : packet.cmd ≠ .flashResume) (hnack : answer.cmd ≠ .nack) : answer.FitsFrame := by
  cases he with
  | rejected e | authRejected auth e | encryptionFailed pageId page enc e
  | pinPageReverted data reverted e => exact absurd rfl hnack
  | observed live triggerRuntime tables dtcEntries log answer hcmd =>
    rw [hcmd] at hcritical
    cases hcritical
  | challenged auth challenge hcmd hlen =>
    rw [Packet.FitsFrame, hlen]
    decide
  | pageRead pageId page hcmd hdec hread hplain =>
    have hlen := pageLengthAt_le (h.store.length_readPage hread)
    exact encodePagePayload_fitsFrame (by omega) pageId
  | pageEncrypted pageId page ciphertext enc hcmd hdec hread hcrypto henc hct =>
    obtain ⟨ciphertext', hct', hlen⟩ := h.exists_ciphertext hP hcrypto henc hread
    obtain rfl := Option.some.inj (hct.symm.trans hct')
    have hpage := pageLengthAt_le (h.store.length_readPage hread)
    have hnonce := enc.length_nonceBytes
    refine encodePagePayload_fitsFrame ?_ pageId
    rw [List.length_append]
    omega
  | pageWritten pageId | pinPageWritten data pins | basePageWritten data | pinsAssigned pins =>
    exact pageAck_fitsFrame _
  | pageBurned pageId => simp [Packet.FitsFrame, encodeAckPayload, maxPayload]
  | resumeIdle answer hcmd | resumed scratch answer hcmd => exact absurd hcmd hresume
  | _ => exact .ack

theorem flashResume_fitsFrame (payload : Bytes) : (r.flashResume P payload).2.FitsFrame := by
  rw [flashResume]
  split
  · exact .nack (by decide)
  split
  · exact .nack (by decide)
  split
  · simp [Packet.FitsFrame, encodeFlashResumePayload, maxPayload]
  all_goals exact .nack (by decide)

/-! ### What the other answers are made of -/

/-- What bounds the answers, beside the invariant of the runtime and its tables. -/
structure Records (r : FirmwareRuntime) : Prop where
  identity : r.identity.Encodable
  capabilities : r.capabilities.length ≤ 255
  dtcEntries : r.dtcEntries = [] ∨ r.dtcEntries = defaultDtcEntries
  blocks : ∀ (i : ℕ) (block : Bytes), r.log.readLogBlock i = some block → block.length ≤ 256

theorem length_pushString_le {value : String} (h : ShortString value) :
    (pushString value).length ≤ 256 := by
  rw [pushString, List.length_cons]
  exact Nat.succ_le_succ h

theorem Records.length_identity (h : r.Records) :
    (encodeIdentityPayload r.identity r.capabilities).length ≤ maxPayload := by
  have h₁ := length_pushString_le h.identity.firmwareId
  have h₂ := length_pushString_le h.identity.firmwareSemver
  have h₃ := length_pushString_le h.identity.boardId
  have h₄ := length_pushString_le h.identity.serial
  have h₅ := length_pushString_le h.identity.signature
  have h₆ := length_pushString_le h.identity.resetReason
  have hcapabilities := h.capabilities
  simp only [encodeIdentityPayload, List.length_append, List.length_cons, List.length_nil,
    List.length_map, length_u16ToBe, maxPayload]
  omega

theorem length_flatMap_le {α : Type} {f : α → Bytes} {k : ℕ} {as : List α}
    (h : ∀ a ∈ as, (f a).length ≤ k) : (as.flatMap f).length ≤ as.length * k := by
  induction as with
  | nil => simp
  | cons a as ih =>
    rw [List.forall_mem_cons] at h
    rw [List.flatMap_cons, List.length_append, List.length_cons, Nat.succ_mul, Nat.add_comm]
    exact Nat.add_le_add (ih h.2) h.1

theorem Records.length_capabilities (h : r.Records) :
    (encodeCapabilitiesPayload r.capabilities).length ≤ maxPayload := by
  have hcapabilities := h.capabilities
  simp only [encodeCapabilitiesPayload, List.length_cons, List.length_map, maxPayload]
  omega

/-- The label of a pin of the board. -/
theorem length_label_le {pin : PinCapability} (h : pin ∈ stEcuV1Pins) :
    (utf8 pin.label).length ≤ 60 := by
  have hall : ∀ pin ∈ stEcuV1Pins, (utf8 pin.label).length ≤ 60 := by decide
  exact hall pin h

theorem length_encodePinAssignmentsPayload {as : List ResolvedPinAssignment}
    (h : ValidAssignmentSet as) : (encodePinAssignmentsPayload as).length ≤ maxPayload := by
  have hentry : ∀ a ∈ as, (a.function.code :: pushString a.pinId ++ pushString a.pinLabel).length ≤
      67 := by
    intro a ha
    obtain ⟨pin, hfind, -, -, hlabel⟩ := (h.wellPlaced a ha).exists_pin
    have hpinId := h.length_pinId_le a ha
    have hpin := length_label_le (List.mem_of_find?_eq_some hfind)
    rw [hlabel]
    simp only [pushString, List.length_cons, List.length_append]
    omega
  have hentries := length_flatMap_le hentry
  have hlen := h.length_le
  simp only [encodePinAssignmentsPayload, List.length_cons, maxPayload]
  omega

/-- Five values between six fixed texts. -/
theorem length_object_le {a b c d e f s t u v w : String}
    (hfixed : (utf8 a).length + (utf8 b).length + (utf8 c).length + (utf8 d).length +
      (utf8 e).length + (utf8 f).length ≤ 60)
    (hs : (utf8 s).length + (utf8 t).length + (utf8 u).length ≤ 400)
    (hv : (utf8 v).length ≤ 5) (hw : (utf8 w).length ≤ 5) :
    (utf8 (a ++ s ++ b ++ t ++ c ++ u ++ d ++ v ++ e ++ w ++ f)).length ≤ 500 := by
  simp only [length_utf8_append]
  omega

/-- The text of a trouble code. -/
theorem length_json_le (hlit : LiteralLaw P) {entry : RuntimeDtcEntry}
    (h : (utf8 entry.code).length + (utf8 entry.description).length +
      (utf8 entry.severity).length ≤ 60) : (utf8 (entry.json P)).length ≤ 500 := by
  have hcode := hlit.jsonStr entry.code
  have hdescription := hlit.jsonStr entry.description
  have hseverity := hlit.jsonStr entry.severity
  have hbool (b : Bool) : (utf8 (toString b)).length ≤ 5 := by cases b <;> decide
  exact length_object_le (by decide) (by omega) (hbool _) (hbool _)

theorem length_encodeDtcEntries (hlit : LiteralLaw P) (h : r.Records) :
    (encodeDtcEntries P r.dtcEntries).length ≤ maxPayload := by
  have hopen : (utf8 "[").length = 1 := by decide
  have hcomma : (utf8 ",").length = 1 := by decide
  have hclose : (utf8 "]").length = 1 := by decide
  rcases h.dtcEntries with hnone | hdefault
  · have htext : encodeDtcEntries P [] = utf8 "[]" := rfl
    have hempty : (utf8 "[]").length ≤ 8192 := by decide
    rw [hnone, htext]
    exact hempty
  · have hshort : ∀ entry ∈ defaultDtcEntries, (utf8 entry.code).length +
        (utf8 entry.description).length + (utf8 entry.severity).length ≤ 60 := by decide
    obtain ⟨first, second, heq⟩ : ∃ first second, defaultDtcEntries = [first, second] :=
      ⟨_, _, rfl⟩
    rw [heq, List.forall_mem_cons, List.forall_mem_cons] at hshort
    have hfirst := length_json_le hlit hshort.1
    have hsecond := length_json_le hlit hshort.2.1
    have htext : encodeDtcEntries P [first, second] =
        utf8 ("[" ++ (first.json P ++ "," ++ second.json P) ++ "]") := by
      simp [encodeDtcEntries]
    rw [hdefault, heq, htext]
    simp only [length_utf8_append, hopen, hcomma, hclose, maxPayload]
    omega

theorem Records.readLogBlockAnswer_fitsFrame (h : r.Records) (payload : Bytes) :
    (r.readLogBlockAnswer P payload).FitsFrame := by
  rw [readLogBlockAnswer]
  split
  · exact .nack (by decide)
  dsimp only
  split
  · exact .nack (by decide)
  split
  · exact .nack (by decide)
  next block hblock =>
    have hlen := h.blocks _ block hblock
    simp only [Packet.FitsFrame, encodeLogBlockPayload, List.length_append, length_u16ToBe,
      length_u32ToBe, maxPayload]
    omega

/-- A table is of the size that its directory entry gives. -/
theorem exists_fits {tables : List RawTablePayload} {entries : List TableDirectoryEntry}
    (h : List.Forall₂ RawTablePayload.Fits tables entries) {table : RawTablePayload}
    (hmem : table ∈ tables) : ∃ entry ∈ entries, table.Fits entry := by
  induction h with
  | nil => cases hmem
  | cons hfits _ ih =>
    rcases List.mem_cons.mp hmem with rfl | hmem
    · exact ⟨_, .head _, hfits⟩
    · obtain ⟨entry, hentry, hfits⟩ := ih hmem
      exact ⟨entry, .tail _ hentry, hfits⟩

/-- A table of the directory fits a frame. -/
theorem readTableAnswer_fitsFrame (h : r.HasTables) (payload : Bytes) :
    (r.readTableAnswer payload).FitsFrame := by
  have hsizes : ∀ entry ∈ tableDirectory, entry.xCount.toNat + entry.yCount.toNat +
      entry.xCount.toNat * entry.yCount.toNat ≤ 4000 := by decide
  rw [readTableAnswer]
  split
  · exact .nack (by decide)
  split
  next table hfind =>
    obtain ⟨entry, hentry, hfits⟩ := exists_fits h (List.mem_of_find?_eq_some hfind)
    have hsize := hsizes entry hentry
    have hwords (words : List UInt16) : (words.flatMap u16ToBe).length ≤ words.length * 2 :=
      length_flatMap_le fun word _ => (length_u16ToBe word).le
    have hx := hwords table.xBins
    have hy := hwords table.yBins
    have hdata := hwords table.data
    rw [hfits.length_xBins] at hx
    rw [hfits.length_yBins] at hy
    rw [hfits.length_data] at hdata
    simp only [Packet.FitsFrame, RawTablePayload.toPayload, List.length_append, List.length_cons,
      List.length_nil, maxPayload]
    omega
  · exact .nack (by decide)

/-- The constant directories of the protocol fit a frame. -/
theorem directories_fitFrame : encodePageDirectoryPayload.length ≤ maxPayload ∧
    encodeTableDirectoryPayload.length ≤ maxPayload ∧
    encodeTableMetadataPayload.length ≤ maxPayload ∧
    (encodeOutputTestDirectoryPayload outputTestDirectory).length ≤ maxPayload := by
  decide +kernel

theorem length_encodePageStatusesPayload (s : ConfigStore) :
    (encodePageStatusesPayload (s.allPageStatuses P)).length ≤ maxPayload := by
  have hstatuses : (s.allPageStatuses P).length ≤ 10 := List.length_filterMap_le _ pageDirectory
  have hstatus : ∀ status ∈ s.allPageStatuses P, (status.pageId :: u32ToBe status.ramCrc ++
      u32ToBe status.flashCrc ++ [boolByte status.needsBurn] ++ u32ToBe status.flashGeneration ++
      [boolByte status.flashValid]).length ≤ 15 := by simp
  have hentries := length_flatMap_le hstatus
  rw [encodePageStatusesPayload, List.length_cons, maxPayload]
  omega

/-- The answers to the commands that touch the samples, the log, the tables or the trouble codes fit
a frame, but for rejections. -/
theorem Activity.fitsFrame {packet answer : Packet} {r' : FirmwareRuntime}
    (ha : Activity P packet r r' answer) (hrecording : packet.cmd.isRecording = true)
    (hnack : answer.cmd ≠ .nack) : answer.FitsFrame := by
  cases ha with
  | other hcmd =>
    rw [hcmd] at hrecording
    cases hrecording
  | rejected hcmd hrejected => exact absurd hrejected hnack
  | sampled hcmd h hanswer =>
    rw [hanswer]
    exact (length_encode _).trans_le (by decide)
  | logStarted hcmd h hack | logStopped hcmd h hack | logbookReset hcmd hactive h hack
  | rtcSynced epochMs hcmd hdec hrange h hack | outputTested audit hcmd hcheck h hack
  | tableWritten index table current hcmd hdec hindex hcurrent hshape h hack
  | cellWritten index offset table value hcmd hcheck h hack | codesCleared hcmd h hack =>
    rw [hack]
    exact .ack

theorem critical_fitsFrame (hP : AeadLaw P) (h : r.Sound P) {clock : Clock} {packet : Packet}
    (hcritical : packet.cmd.isCritical = true) (hresume : packet.cmd ≠ .flashResume)
    (hnack : (r.dispatch P A clock packet).2.cmd ≠ .nack) :
    (r.dispatch P A clock packet).2.FitsFrame :=
  (dispatch_effect A h).fitsFrame hP h hcritical hresume hnack

/-- **Every answer fits a frame.** -/
theorem dispatch_fitsFrame (hP : AeadLaw P) (hdebug : DebugLaw P) (hlit : LiteralLaw P)
    (hA : A.Fits) (h : r.Sound P) (hrecords : r.Records) (htables : r.HasTables) (clock : Clock)
    (packet : Packet) : (r.dispatch P A clock packet).2.FitsFrame := by
  cases hcmd : packet.cmd
  case pinAssign =>
    have hother : (r.dispatch P A clock packet).2.cmd ≠ .nack →
        (r.dispatch P A clock packet).2.FitsFrame :=
      critical_fitsFrame hP h (by rw [hcmd]; rfl) (by rw [hcmd]; decide)
    rw [dispatch, hcmd] at hother ⊢
    exact h.pinAssign_fitsFrame hdebug hlit hother
  case flashResume =>
    rw [dispatch, hcmd]
    exact flashResume_fitsFrame _
  case readPage | writePage | burnPage | enterBootloader | flashBlock | flashVerify |
      flashComplete | confirmBootHealthy =>
    refine (dispatch_brief A clock ?_).fitsFrame (critical_fitsFrame hP h ?_ ?_) <;> rw [hcmd]
    all_goals decide
  case getLiveData | logStart | logStop | resetLogbook | syncRtc | writeTable | writeCell |
      clearDtc | runOutputTest =>
    refine (dispatch_brief A clock ?_).fitsFrame ((dispatch_activity A clock h).fitsFrame ?_) <;>
      rw [hcmd]
    all_goals decide
  all_goals rw [dispatch, hcmd]
  case getVersion => exact hrecords.length_identity
  case getCapabilities => exact hrecords.length_capabilities
  case getFreezeFrames => exact hA.freezeFrames
  case getTriggerDecoderDirectory => exact hA.triggerDecoderDirectory
  case getCanTemplateDirectory => exact hA.canTemplateDirectory
  case getCanSignalDirectory => exact hA.canSignalDirectory
  case getPinDirectory => exact hA.pinDirectory
  case getSensorRawDirectory => exact hA.sensorRawDirectory
  case getNetworkProfile => exact hA.networkProfile
  case getTriggerCapture => exact hA.triggerCapture _ _
  case getTriggerToothLog => exact hA.triggerToothLog _ _
  case getPageDirectory => exact directories_fitFrame.1
  case getTableDirectory => exact directories_fitFrame.2.1
  case getTableMetadata => exact directories_fitFrame.2.2.1
  case getOutputTestDirectory => exact directories_fitFrame.2.2.2
  case getPinAssignments => exact length_encodePinAssignmentsPayload h.validPins
  case getDtc => exact length_encodeDtcEntries hlit hrecords
  case getPageStatuses => exact length_encodePageStatusesPayload _
  case readLogBlock => exact hrecords.readLogBlockAnswer_fitsFrame _
  case readTable => exact readTableAnswer_fitsFrame htables _
  case ping | getSensorRaw | logStatus | getLogbookSummary | getUpdateStatus =>
    simp [Packet.FitsFrame, maxPayload, encodeSensorRawPayload, encodeLogStatusPayload,
      encodeLogbookSummaryPayload, encodeFirmwareUpdateStatusPayload]
  -- what is left is no request, or not served
  all_goals exact .nack (by decide)

theorem Effect.capabilities_eq {clock : Clock} {packet : Packet} {r' : FirmwareRuntime}
    {answer : Packet} (he : Effect P clock packet r r' answer) :
    r'.capabilities = r.capabilities := by
  cases he with
  | pageEncrypted pageId page ciphertext enc =>
    obtain ⟨store, next, heq⟩ := maybePersistPageCryptoCounter_eq (P := P)
      (r := { r with tuneEncryption := some enc.advanceNonce }) enc.advanceNonce.state.nonceCounter
    rw [heq]
  | blockAppended block =>
    obtain ⟨scratch, heq⟩ := appendFlashBlock_eq (P := P) (r := r) block
    rw [heq]
  | _ => rfl

/-- Trouble codes are cleared, and otherwise stay. -/
theorem Activity.dtcEntries_cases {packet answer : Packet} {r' : FirmwareRuntime}
    (ha : Activity P packet r r' answer) : r'.dtcEntries = r.dtcEntries ∨ r'.dtcEntries = [] := by
  cases ha with
  | other hcmd h => exact .inl h.dtcEntries_eq
  | codesCleared hcmd h hack =>
    rw [h]
    exact .inr rfl
  | rejected hcmd hnack h | sampled hcmd h | logStarted hcmd h | logStopped hcmd h
  | logbookReset hcmd hactive h | rtcSynced epochMs hcmd hdec hrange h
  | outputTested audit hcmd hcheck h
  | tableWritten index table current hcmd hdec hindex hcurrent hshape h
  | cellWritten index offset table value hcmd hcheck h =>
    rw [h]
    exact .inl rfl

end FirmwareRuntime

/-! ### Runs -/

section Run

variable {P : Platform} {A : Catalogue} {identity : FirmwareIdentity} {simulator : Bool}
  {s : ConfigStore} {r₀ r : FirmwareRuntime} {tr : List Step}

/-- The blocks of a log are at most of the block size. -/
theorem DataLog.Holds.length_readLogBlock {log : DataLog} {stream : Bytes} (h : log.Holds stream)
    {i : ℕ} {block : Bytes} (hblock : log.readLogBlock i = some block) : block.length ≤ 256 := by
  obtain ⟨blocks, rest, hblocked, -, hon, hoff⟩ := h.content
  have hrest : rest.length ≤ 256 := hblocked.short.le
  have hpieces : ∀ b ∈ pieces blocks rest, b.length ≤ 256 := by
    intro b hb
    by_cases hempty : rest = []
    · rw [hempty, pieces_nil_right] at hb
      exact (hblocked.full b hb).le
    · rw [pieces_of_ne blocks hempty, List.mem_append, List.mem_singleton] at hb
      rcases hb with hb | rfl
      · exact (hblocked.full b hb).le
      · exact hrest
  rw [DataLog.readLogBlock] at hblock
  cases hactive : log.active with
  | true =>
    obtain ⟨hblocks, hstaging⟩ := hon hactive
    rw [hblocks, hstaging] at hblock
    split_ifs at hblock
    · exact (hblocked.full block (List.mem_of_getElem? hblock)).le
    · obtain rfl := Option.some.inj hblock
      exact hrest
  | false =>
    obtain ⟨hblocks, -⟩ := hoff hactive
    rw [hactive, hblocks] at hblock
    split_ifs at hblock
    · exact hpieces block (List.mem_of_getElem? hblock)
    · simp_all

/-- What a new runtime knows of itself, its trouble codes and its log. -/
theorem FirmwareRuntime.records_of_newWithStore
    (h : newWithStore P identity simulator s = some r) :
    r.capabilities = baseCapabilities simulator ∧ r.dtcEntries = defaultDtcEntries ∧
      r.log = {} := by
  rw [newWithStore] at h
  dsimp only at h
  split at h
  · cases h
  · rw [← Option.some.inj h]
    exact ⟨rfl, rfl, rfl⟩

/-- What bounds the answers holds throughout a run. -/
theorem records_of_run (hs : s.WellFormed P) (hidentity : identity.Encodable)
    (hboot : FirmwareRuntime.newWithStore P identity simulator s = some r₀)
    (hrun : (firmware P A).Run r₀ tr r) : r.Records := by
  have hbooted := FirmwareRuntime.booted_of_newWithStore hs hboot
  obtain ⟨hcapabilities, hdtc, hlog⟩ := FirmwareRuntime.records_of_newWithStore hboot
  have hempty : r₀.log.Holds [] := by
    rw [hlog]
    exact DataLog.holds_nil rfl rfl rfl rfl
  have hholds := run_log_holds hrun hbooted.sound hempty
  have hkept : r.Sound P ∧ r.capabilities = baseCapabilities simulator ∧
      (r.dtcEntries = [] ∨ r.dtcEntries = defaultDtcEntries) := by
    refine hrun.invariant (I := fun r => r.Sound P ∧ r.capabilities = baseCapabilities simulator ∧
      (r.dtcEntries = [] ∨ r.dtcEntries = defaultDtcEntries))
      ⟨hbooted.sound, hcapabilities, .inr hdtc⟩ ?_
    rintro t ht ⟨hsound, hcapabilities, hdtc⟩
    refine ⟨step_sound ht hsound, (step_effect ht hsound).capabilities_eq.trans hcapabilities, ?_⟩
    rcases (step_activity ht hsound).dtcEntries_cases with heq | heq
    · rw [heq]
      exact hdtc
    · exact .inl heq
  refine ⟨?_, ?_, hkept.2.2, fun i block hblock => hholds.length_readLogBlock hblock⟩
  · rw [(run_sameBoard hrun hbooted.sound).identity_eq, hbooted.identity_eq]
    exact hidentity
  · rw [hkept.2.1]
    cases simulator <;> decide

/-- Every answer of a run fits a frame. -/
theorem fitsFrame_of_run (hP : AeadLaw P) (hdebug : DebugLaw P) (hlit : LiteralLaw P)
    (hA : A.Fits) (hidentity : identity.Encodable) (hs : ReachableStore P A s)
    (hboot : FirmwareRuntime.newWithStore P identity simulator s = some r₀)
    (hrun : (firmware P A).Run r₀ tr r) : ∀ t ∈ tr, t.output.FitsFrame := by
  intro t ht
  obtain ⟨pre, post, rfl⟩ := List.append_of_mem ht
  obtain ⟨hpre, hstep, -⟩ := hrun.split_mem
  have hreach : Reachable P A t.src := ⟨identity, simulator, s, r₀, pre, hs, hboot, hpre⟩
  have hrecords := records_of_run hs.wellFormed hidentity hboot hpre
  have hout : t.output = ((t.src.tickUpdateHealthWindow t.event.clock.tick).dispatch P A
      t.event.clock t.event.packet).2 := (congrArg Prod.snd (step_iff.mp hstep)).symm
  rw [hout]
  exact FirmwareRuntime.dispatch_fitsFrame hP hdebug hlit hA (hreach.sound.tick _)
    ⟨hrecords.identity, hrecords.capabilities, hrecords.dtcEntries, hrecords.blocks⟩
    hreach.hasTables _ _

end Run

end StEcu
