import StEcu.Protocol.Frame
import StEcu.Transport.Installation
import StEcu.Transport.NackReasons

/-!
# Reading rejections back

The host reads every rejection back but one: rejected pin assignments are answered with the error
in the debug format, and the error for a fixed pin repeats the pin that was asked for. A long pin
identifier therefore makes a reason that does not fit the length byte of the payload.

## Main definitions

* `FirmwareRuntime.mergedPins`: the requests that a pin-assignment packet makes in all.
* `Step.EchoesLongPinId`: the exception.

## Main results

* `nack_decodes_iff`: a rejection is read back exactly if it is not the exception.
* `long_pin_id_not_read_back`: a board on which it is.
-/

namespace StEcu

variable {P : Platform} {A : Catalogue} {t : Step}

/-! ### The texts of the errors -/

theorem length_debugText_function_le (f : EcuFunction) : (utf8 f.debugText).length ≤ 12 := by
  cases f <;> decide

/-- The identifiers of the board have no special characters. -/
theorem plain_pinId {pin : PinCapability} (h : pin ∈ stEcuV1Pins) :
    pin.pinId.toList.all plainChar := by
  have hall : ∀ pin ∈ stEcuV1Pins, pin.pinId.toList.all plainChar := by decide
  exact hall pin h

theorem plain_resourceKey {pin : PinCapability} (h : pin ∈ stEcuV1Pins)
    {function : PinFunctionClass} {resource : String}
    (hkey : resourceKey pin function = some resource) :
    resource.toList.all plainChar ∧ (utf8 resource).length ≤ 20 := by
  have hall : ∀ pin ∈ stEcuV1Pins, ∀ route ∈ pin.routes, ∀ resource ∈ route.exclusiveResource,
      resource.toList.all plainChar ∧ (utf8 resource).length ≤ 20 := by decide +kernel
  obtain ⟨route, hroute, hresource⟩ := Option.bind_eq_some_iff.mp hkey
  exact hall pin h route (List.mem_of_find?_eq_some hroute) resource hresource

theorem plain_fixedPinId {f : EcuFunction} {id : String} (h : f.fixedPinId = some id) :
    id.toList.all plainChar := by
  cases f <;> cases h <;> decide

theorem length_debugStr (hP : DebugLaw P) {s : String} (h : s.toList.all plainChar) :
    (utf8 (P.debugStr s)).length = (utf8 s).length + 2 := by
  have hquote : (utf8 "\"").length = 1 := by decide
  rw [hP.debugStr_eq s h, length_utf8_append, length_utf8_append, hquote]
  omega

/-- The error for a fixed pin is as long as the pin that was asked for makes it. -/
theorem length_debugText_fixedPinRequired (hP : DebugLaw P) {f : EcuFunction} {id : String}
    (hid : f.fixedPinId = some id) (requested : String) :
    (utf8 ((AssignmentError.fixedPinRequired f id requested).debugText P)).length =
      72 + (utf8 f.debugText).length + (utf8 id).length + (utf8 (P.debugStr requested)).length := by
  have hname : (utf8 "FixedPinRequired \x7b ").length = 19 := by decide
  have hfunction : (utf8 "function: ").length = 10 := by decide
  have hexpected : (utf8 "expected_pin_id: ").length = 17 := by decide
  have hrequested : (utf8 "requested_pin_id: ").length = 18 := by decide
  have hcomma : (utf8 ", ").length = 2 := by decide
  have hstop : (utf8 " \x7d").length = 2 := by decide
  have hdebug := length_debugStr hP (plain_fixedPinId hid)
  simp [AssignmentError.debugText, debugVariant, hname, hfunction, hexpected, hrequested, hcomma,
    hstop, hdebug]
  omega

/-- All other errors of the validation are short. -/
theorem length_debugText_le (hP : DebugLaw P) {resolved : List ResolvedPinAssignment}
    {request : PinAssignmentRequest} {e : AssignmentError}
    (h : resolveRequest resolved request = .error e)
    (hne : ∀ f id requested, e ≠ .fixedPinRequired f id requested) :
    (utf8 (e.debugText P)).length ≤ 200 := by
  have hrequest := length_debugText_function_le request.function
  have hcomma : (utf8 ", ").length = 2 := by decide
  have hstop : (utf8 " \x7d").length = 2 := by decide
  have hexisting : (utf8 "existing: ").length = 10 := by decide
  have hrequested : (utf8 "requested: ").length = 11 := by decide
  rcases resolveRequest_error_cases h with
    rfl | ⟨id, -, -, rfl⟩ | ⟨error, rfl⟩ | ⟨pin, existing, hpin, rfl | ⟨resource, hkey, rfl⟩⟩
  · have hname : (utf8 "DuplicateFunction \x7b ").length = 20 := by decide
    have hfunction : (utf8 "function: ").length = 10 := by decide
    simp [AssignmentError.debugText, debugVariant, hname, hfunction, hstop]
    omega
  · exact absurd rfl (hne _ _ _)
  · have hopen : (utf8 "Board(").length = 6 := by decide
    have hclose : (utf8 ")").length = 1 := by decide
    have herror : (utf8 error.debugText).length ≤ 19 := by cases error <;> decide
    simp [AssignmentError.debugText, hopen, hclose]
    omega
  · have hname : (utf8 "DuplicatePin \x7b ").length = 15 := by decide
    have hpinId : (utf8 "pin_id: ").length = 8 := by decide
    have hdebug := length_debugStr hP (plain_pinId hpin)
    have hlen := length_pinId_le hpin
    have hother := length_debugText_function_le existing
    simp [AssignmentError.debugText, debugVariant, hname, hpinId, hexisting, hrequested, hcomma,
      hstop, hdebug]
    omega
  · have hname : (utf8 "ResourceConflict \x7b ").length = 19 := by decide
    have hresource : (utf8 "resource: ").length = 10 := by decide
    obtain ⟨hplain, hlen⟩ := plain_resourceKey hpin hkey
    have hdebug := length_debugStr hP hplain
    have hother := length_debugText_function_le existing
    simp [AssignmentError.debugText, debugVariant, hname, hresource, hexisting, hrequested, hcomma,
      hstop, hdebug]
    omega

/-! ### Rejected pin assignments -/

namespace FirmwareRuntime

variable {r : FirmwareRuntime} {payload : Bytes}

/-- The requests that are validated for a pin-assignment packet: the assignments in force, with
those of the packet put in their places. -/
def mergedPins (r : FirmwareRuntime) (assignments : List DecodedPinAssignment) :
    List PinAssignmentRequest :=
  (assignments.map fun assignment => ⟨assignment.function, assignment.pinId⟩).foldl mergeOverride
    (r.pinAssignments.map ResolvedPinAssignment.request)

/-- The merged requests are for different functions. -/
theorem Sound.nodup_mergedPins (h : r.Sound P) (assignments : List DecodedPinAssignment) :
    ((r.mergedPins assignments).map PinAssignmentRequest.function).Nodup := by
  refine nodup_foldl_mergeOverride ?_
  rw [List.map_map]
  exact h.validPins.nodup_function

/-- The assignments in force are not misplaced. -/
theorem Sound.not_misplaced_nil (h : r.Sound P) {request : PinAssignmentRequest} {id : String} :
    ¬ Misplaced (r.mergedPins []) request id := by
  rintro ⟨hfixed, hne, accepted, rest, resolved, hsplit, -⟩
  have hmem : request ∈ r.pinAssignments.map ResolvedPinAssignment.request := by
    rw [show r.pinAssignments.map ResolvedPinAssignment.request = _ from hsplit]
    exact List.mem_append_right _ (List.mem_cons_self ..)
  obtain ⟨a, ha, rfl⟩ := List.mem_map.mp hmem
  exact hne ((h.validPins.wellPlaced a ha).pinId_of_fixed id hfixed)

theorem pinAssign_of_error {assignments : List DecodedPinAssignment} {error : AssignmentError}
    (hdec : decodePinAssignmentsPayload payload = .ok assignments) (hne : assignments ≠ [])
    (herror : validateAssignmentSet (r.mergedPins assignments) = .error error) :
    (r.pinAssign P payload).2 =
      nack .malformedPayload ("pin-assignment rejected: " ++ error.debugText P) := by
  have happly : r.applyPinAssignmentOverrides (assignments.map fun assignment =>
      ({ function := assignment.function, pinId := assignment.pinId } : PinAssignmentRequest)) =
        (r, .error error) := by
    have hoverrides : applyAssignmentOverrides r.pinAssignments (assignments.map fun assignment =>
        ⟨assignment.function, assignment.pinId⟩) = .error error := herror
    simp only [applyPinAssignmentOverrides, hoverrides]
  obtain ⟨first, rest, rfl⟩ := List.exists_cons_of_ne_nil hne
  simp only [pinAssign, hdec, happly]

/-- The answer to a pin-assignment packet is brief if the error is short where there is one. -/
theorem Sound.pinAssign_brief (h : r.Sound P)
    (hshort : ∀ assignments error, decodePinAssignmentsPayload payload = .ok assignments →
      validateAssignmentSet (r.mergedPins assignments) = .error error →
      (utf8 (error.debugText P)).length ≤ 230) :
    (r.pinAssign P payload).2.Brief := by
  cases hdec : decodePinAssignmentsPayload payload with
  | error e =>
    simp only [pinAssign, hdec]
    exact .nack (by decide)
  | ok assignments =>
    by_cases hne : assignments = []
    · subst hne
      simp only [pinAssign, hdec]
      exact .nack (by decide)
    cases hvalid : validateAssignmentSet (r.mergedPins assignments) with
    | error error =>
      have hstart : (utf8 "pin-assignment rejected: ").length = 25 := by decide
      have hlen := hshort assignments error hdec hvalid
      rw [pinAssign_of_error hdec hne hvalid]
      refine .nack ?_
      rw [length_utf8_append, hstart]
      omega
    | ok pinAssignments =>
      obtain ⟨page, hser⟩ := (validateAssignmentSet_eq_ok_iff.mp hvalid).2.exists_serialize
      have hsync := syncPinAssignmentPage_eq h.store hser
      have hoverrides : applyAssignmentOverrides r.pinAssignments (assignments.map fun assignment =>
          ⟨assignment.function, assignment.pinId⟩) = .ok pinAssignments := hvalid
      obtain ⟨first, rest, rfl⟩ := List.exists_cons_of_ne_nil hne
      simp only [pinAssign, hdec, applyPinAssignmentOverrides, hoverrides, hsync]
      exact .of_ne (by simp [pageAck])

end FirmwareRuntime

/-! ### The exception -/

/-- A pin-assignment packet asks for a fixed function on another pin, under an identifier so long
that the reason does not fit its length byte: 97 bytes are around the names in it. -/
def Step.EchoesLongPinId (P : Platform) (t : Step) : Prop :=
  t.event.packet.cmd = .pinAssign ∧ ∃ assignments request expectedPinId,
    decodePinAssignmentsPayload t.event.packet.payload = .ok assignments ∧
      Misplaced (t.src.mergedPins assignments) request expectedPinId ∧
      255 < 97 + (utf8 request.function.debugText).length + (utf8 expectedPinId).length +
        (utf8 (P.debugStr request.pinId)).length

/-- The errors that do not echo a long pin are short. -/
theorem length_debugText_of_not_echoes (hP : DebugLaw P) (h : t.src.Sound P)
    (hcmd : t.event.packet.cmd = .pinAssign) (hno : ¬ t.EchoesLongPinId P)
    {assignments : List DecodedPinAssignment} {error : AssignmentError}
    (hdec : decodePinAssignmentsPayload t.event.packet.payload = .ok assignments)
    (herror : validateAssignmentSet (t.src.mergedPins assignments) = .error error) :
    (utf8 (error.debugText P)).length ≤ 230 := by
  by_cases hfixed : ∃ f id requested, error = .fixedPinRequired f id requested
  · obtain ⟨f, id, requested, rfl⟩ := hfixed
    have hmisplaced :=
      (validateAssignmentSet_eq_fixedPinRequired_iff (h.nodup_mergedPins assignments)).mp herror
    have hlen := length_debugText_fixedPinRequired hP hmisplaced.fixedPinId_eq requested
    by_contra hlong
    refine hno ⟨hcmd, assignments, ⟨f, requested⟩, id, hdec, hmisplaced, ?_⟩
    dsimp only at hlen ⊢
    omega
  · obtain ⟨accepted, request, rest, items, -, -, hround⟩ := resolveRequests_eq_error_iff.mp herror
    have hlen := length_debugText_le hP hround fun f id requested heq =>
      hfixed ⟨f, id, requested, heq⟩
    omega

/-- **The host reads every rejection back**, with its code and its whole reason, unless the
rejection echoes a long pin. -/
theorem nack_decodes_iff (hP : DebugLaw P) (h : Reachable P A t.src)
    (ht : (firmware P A).Step t) (hnack : t.output.cmd = .nack) :
    ∃ code reason, t.output = nack code reason ∧
      (Wire.decodeNackPayload.run t.output.payload = .ok (code.code, reason) ↔
        ¬ t.EchoesLongPinId P) := by
  have hout : t.output = ((t.src.tickUpdateHealthWindow t.event.clock.tick).dispatch P A
      t.event.clock t.event.packet).2 := (congrArg Prod.snd (step_iff.mp ht)).symm
  by_cases hecho : t.EchoesLongPinId P
  · obtain ⟨hcmd, assignments, request, id, hdec, hmisplaced, hlong⟩ := id hecho
    have hne : assignments ≠ [] := by
      rintro rfl
      exact h.sound.not_misplaced_nil hmisplaced
    have herror := (validateAssignmentSet_eq_fixedPinRequired_iff
      (h.sound.nodup_mergedPins assignments)).mpr hmisplaced
    -- the tick leaves the pin assignments alone
    have hanswer := FirmwareRuntime.pinAssign_of_error (P := P)
      (r := t.src.tickUpdateHealthWindow t.event.clock.tick) hdec hne herror
    rw [FirmwareRuntime.dispatch, hcmd] at hout
    refine ⟨_, _, hout.trans hanswer, iff_of_false ?_ (not_not.mpr hecho)⟩
    have hstart : (utf8 "pin-assignment rejected: ").length = 25 := by decide
    have hlen := length_debugText_fixedPinRequired hP hmisplaced.fixedPinId_eq request.pinId
    rw [hout.trans hanswer, Wire.run_decodeNackPayload, length_utf8_append, hstart, if_neg]
    · simp
    · omega
  · have hbrief : t.output.Brief := by
      rw [hout]
      by_cases hcmd : t.event.packet.cmd = .pinAssign
      · rw [FirmwareRuntime.dispatch, hcmd]
        exact (h.sound.tick _).pinAssign_brief fun _ _ hdec herror =>
          length_debugText_of_not_echoes hP h.sound hcmd hecho hdec herror
      · exact FirmwareRuntime.dispatch_brief A _ hcmd
    obtain ⟨⟨code, reason⟩, hfits, heq⟩ := hbrief hnack
    refine ⟨code, reason, heq, iff_of_true ?_ hecho⟩
    rw [heq]
    exact (Wire.run_decodeNackPayload code reason).trans (if_pos hfits)

/-! ### The first board -/

/-- A pin identifier of so many letters. -/
def longPinId (n : ℕ) : String := String.ofList (List.replicate n 'A')

theorem length_longPinId (n : ℕ) : (utf8 (longPinId n)).length = n := by
  rw [longPinId]
  induction n with
  | zero => rfl
  | succ n ih =>
    have hletter : (utf8 (String.singleton 'A')).length = 1 := by decide
    rw [List.replicate_succ, String.ofList_cons, length_utf8_append, ih, hletter, Nat.add_comm]

theorem plain_longPinId (n : ℕ) : (longPinId n).toList.all plainChar := by
  rw [longPinId, String.toList_ofList, List.all_replicate]
  cases n <;> simp [plainChar]

/-- The packet that asks for the crank input on a long pin, as the host encodes it. -/
def assignLongPin (n : ℕ) : Input :=
  ⟨⟨0, 0, none⟩, ⟨.pinAssign,
    [1, EcuFunction.crankInput.code] ++ pushString (longPinId n) ++ pushString ""⟩⟩

theorem decode_assignLongPin {n : ℕ} (hn : n ≤ 255) :
    decodePinAssignmentsPayload (assignLongPin n).packet.payload =
      .ok [⟨.crankInput, longPinId n, ""⟩] := by
  have hpinId : readString (pushString (longPinId n) ++ pushString "") =
      some (longPinId n, pushString "") :=
    Wire.readString_eq_some_iff.mpr ⟨rfl, (length_longPinId n).trans_le hn⟩
  have hlabel : readString (pushString "") = some ("", []) := by decide
  have hcode : EcuFunction.ofCode EcuFunction.crankInput.code = some .crankInput := rfl
  have hread : readPinAssignments 1 (EcuFunction.crankInput.code ::
      (pushString (longPinId n) ++ pushString "")) =
        some ([⟨.crankInput, longPinId n, ""⟩], []) := by
    simp [readPinAssignments, hcode, hpinId, hlabel]
  have hpayload : (assignLongPin n).packet.payload = 1 :: EcuFunction.crankInput.code ::
      (pushString (longPinId n) ++ pushString "") := rfl
  rw [hpayload, decodePinAssignmentsPayload]
  simp only [UInt8.toNat_one, hread]

/-- The crank input comes first among the default assignments. -/
theorem mergedPins_assignLongPin {r : FirmwareRuntime}
    (hpins : r.pinAssignments = bootPinAssignments) (n : ℕ) :
    r.mergedPins [⟨.crankInput, longPinId n, ""⟩] =
      ⟨.crankInput, longPinId n⟩ :: defaultPinAssignments.tail := by
  have hboot : bootPinAssignments.map ResolvedPinAssignment.request = defaultPinAssignments :=
    (validateAssignmentSet_eq_ok_iff.mp validate_default).1
  rw [FirmwareRuntime.mergedPins, hpins, hboot]
  rfl

theorem misplaced_assignLongPin {r : FirmwareRuntime}
    (hpins : r.pinAssignments = bootPinAssignments) (n : ℕ) :
    Misplaced (r.mergedPins [⟨.crankInput, longPinId n, ""⟩]) ⟨.crankInput, longPinId n⟩
      "PA0" where
  fixedPinId_eq := rfl
  pinId_ne heq := by
    have hlist : List.replicate n 'A' = ['P', 'A', '0'] := by
      have htoList := congrArg String.toList heq
      rwa [longPinId, String.toList_ofList] at htoList
    have hP : 'P' ∈ List.replicate n 'A' := by
      rw [hlist]
      exact List.mem_cons_self ..
    exact absurd (List.eq_of_mem_replicate hP) (by decide)
  behind := ⟨[], _, [], mergedPins_assignLongPin hpins n, rfl⟩

/-- On a board as it boots, 144 letters are too many. -/
theorem echoes_assignLongPin_iff (hP : DebugLaw P) (h : t.src.Sound P)
    (hpins : t.src.pinAssignments = bootPinAssignments) {n : ℕ} (hn : n ≤ 255)
    (hevent : t.event = assignLongPin n) : t.EchoesLongPinId P ↔ 144 ≤ n := by
  have hfunction : (utf8 EcuFunction.crankInput.debugText).length = 10 := by decide
  have hfixed : (utf8 "PA0").length = 3 := by decide
  have hdebug := length_debugStr hP (plain_longPinId n)
  rw [length_longPinId] at hdebug
  have hmisplaced := misplaced_assignLongPin hpins n
  have hnodup := h.nodup_mergedPins [⟨.crankInput, longPinId n, ""⟩]
  constructor
  · rintro ⟨-, assignments, request, id, hdec, hother, hlong⟩
    rw [hevent, decode_assignLongPin hn] at hdec
    obtain rfl := Except.ok.inj hdec
    -- there is one misplaced request at most, since the validation has one outcome
    have herror := (validateAssignmentSet_eq_fixedPinRequired_iff hnodup).mpr hmisplaced
    have herror' := (validateAssignmentSet_eq_fixedPinRequired_iff hnodup).mpr hother
    obtain ⟨hf, hid, hrequested⟩ :=
      AssignmentError.fixedPinRequired.inj (Except.error.inj (herror.symm.trans herror'))
    rw [← hf, ← hid, ← hrequested, hfunction, hfixed, hdebug] at hlong
    omega
  · intro hlong
    refine ⟨by rw [hevent]; rfl, _, _, _, by rw [hevent]; exact decode_assignLongPin hn, hmisplaced,
      ?_⟩
    rw [hfunction, hfixed, hdebug]
    omega

/-- A board as it boots rejects the packet for its pin. -/
theorem output_assignLongPin {r : FirmwareRuntime} (h : r.Sound P)
    (hpins : r.pinAssignments = bootPinAssignments) {n : ℕ} (hn : n ≤ 255) :
    (Step.of P A r (assignLongPin n)).output = nack .malformedPayload
      ("pin-assignment rejected: " ++
        (AssignmentError.fixedPinRequired .crankInput "PA0" (longPinId n)).debugText P) :=
  -- the tick leaves the pin assignments alone
  FirmwareRuntime.pinAssign_of_error (r := r.tickUpdateHealthWindow 0) (decode_assignLongPin hn)
    (List.cons_ne_nil _ _) ((validateAssignmentSet_eq_fixedPinRequired_iff
      (h.nodup_mergedPins _)).mpr (misplaced_assignLongPin hpins n))

/-- The first board, asked for the crank input on a pin of 143 letters: the host reads the rejection
back. -/
theorem nack_decodes_ecuV1 : ∃ (t : Step) (code : RuntimeNackCode) (reason : String),
    t.event = assignLongPin 143 ∧ t.output = nack code reason ∧
      Wire.decodeNackPayload.run t.output.payload = .ok (code.code, reason) := by
  obtain ⟨r, hr, -⟩ := exists_new_ecuV1 referencePlatform
  have hreach : Reachable referencePlatform referenceCatalogue r := .of_boot .newZeroed hr
  have hpins := (FirmwareRuntime.booted_of_newWithStore ConfigStore.wellFormed_newZeroed hr).pins_eq
  have hout := output_assignLongPin (A := referenceCatalogue) (n := 143) hreach.sound hpins
    (by omega)
  obtain ⟨code, reason, heq, hiff⟩ := nack_decodes_iff referencePlatform_debug hreach
    (step_of r (assignLongPin 143)) (by rw [hout, cmd_nack])
  refine ⟨_, code, reason, rfl, heq, hiff.mpr fun hecho => ?_⟩
  have hlong := (echoes_assignLongPin_iff referencePlatform_debug hreach.sound hpins (by omega)
    rfl).mp hecho
  omega

/-- The first board, asked for the crank input on a pin of 200 letters: it rejects the packet, and
the host finds the rejection malformed. -/
theorem long_pin_id_not_read_back :
    ∃ t : Step, Reachable referencePlatform referenceCatalogue t.src ∧
      (firmware referencePlatform referenceCatalogue).Step t ∧ t.event = assignLongPin 200 ∧
      t.event.packet.payload.length ≤ maxPayload ∧ t.output.cmd = .nack ∧
      Wire.decodeNackPayload.run t.output.payload = .error (.rejected .malformedPayload) := by
  obtain ⟨r, hr, -⟩ := exists_new_ecuV1 referencePlatform
  have hreach : Reachable referencePlatform referenceCatalogue r := .of_boot .newZeroed hr
  have hpins := (FirmwareRuntime.booted_of_newWithStore ConfigStore.wellFormed_newZeroed hr).pins_eq
  have hout := output_assignLongPin (A := referenceCatalogue) (n := 200) hreach.sound hpins
    (by omega)
  refine ⟨_, hreach, step_of r (assignLongPin 200), rfl, ?_, by rw [hout, cmd_nack], ?_⟩
  · have hpinId := length_longPinId 200
    have hlabel : (utf8 "").length = 0 := rfl
    change (_ :: _ :: (_ :: utf8 (longPinId 200) ++ _ :: utf8 "")).length ≤ 8192
    simp [hpinId, hlabel]
  · have hstart : (utf8 "pin-assignment rejected: ").length = 25 := by decide
    have hfunction : (utf8 EcuFunction.crankInput.debugText).length = 10 := by decide
    have hdebug := length_debugStr referencePlatform_debug (plain_longPinId 200)
    have hfixed : EcuFunction.crankInput.fixedPinId = some "PA0" := rfl
    have hlen := length_debugText_fixedPinRequired referencePlatform_debug hfixed (longPinId 200)
    rw [length_longPinId] at hdebug
    rw [hout, Wire.run_decodeNackPayload, length_utf8_append, if_neg]
    rw [hstart, hlen, hfunction, hdebug]
    omega

end StEcu
