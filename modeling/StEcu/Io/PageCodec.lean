import StEcu.Foundation.Utf8
import StEcu.Io.Assignment

/-!
# The pin-assignment page

The byte layout of the pin-assignment page (`serialize_assignments_to_page` and
`deserialize_assignments_from_page` in `src/io.rs`): a magic, a format version, the number of
entries, for each entry the function code and the pin identifier, and zeros to the end of the
page. The decoder accepts a legacy magic besides the current one.

## Main definitions

* `serializeAssignmentsToPage`, `deserializeAssignmentsFromPage`.
* `assignmentBytes`: the bytes in front of the padding, for a given magic.
* `bootPinAssignments`: the default assignments.

## Main results

* `deserializeAssignmentsFromPage_eq_ok_iff`: the accepted pages are the serialised valid lists,
  with either magic.
* `deserialize_serialize`: reading back a serialised valid list returns it.
* `page_codec_round_trip`: both directions, and which lists fit a page.
-/

namespace StEcu

/-- `b"STIO"`. -/
def pinAssignmentMagic : List UInt8 := [0x53, 0x54, 0x49, 0x4F]

/-- `b"STP3"`. -/
def pinAssignmentMagicLegacy : List UInt8 := [0x53, 0x54, 0x50, 0x33]

/-- The version of the page format. -/
def pinAssignmentFormatVersion : UInt8 := 1

/-- One entry of the page. -/
def encodeRequest (request : PinAssignmentRequest) : List UInt8 :=
  request.function.code :: UInt8.ofNat (utf8 request.pinId).length :: utf8 request.pinId

/-- The page in front of its padding. -/
def assignmentBytes (magic : List UInt8) (assignments : List ResolvedPinAssignment) :
    List UInt8 :=
  magic ++ pinAssignmentFormatVersion :: UInt8.ofNat assignments.length ::
    (assignments.map ResolvedPinAssignment.request).flatMap encodeRequest

/-- The page of some assignments, filled up with zeros. -/
def serializeAssignmentsToPage (assignments : List ResolvedPinAssignment) (pageLen : ℕ) :
    Except AssignmentError (List UInt8) :=
  let encoded := assignmentBytes pinAssignmentMagic assignments
  if encoded.length > pageLen then .error (.payloadTooLarge encoded.length pageLen)
  else .ok (encoded ++ List.replicate (pageLen - encoded.length) 0)

/-- The loop of the decoder over the bytes not yet read: `count` entries and what follows them. -/
def readRequests : ℕ → List UInt8 → Option (List PinAssignmentRequest × List UInt8)
  | 0, rest => some ([], rest)
  | count + 1, functionCode :: pinLen :: rest =>
    if rest.length < pinLen.toNat then none
    else
      match fromUtf8 (rest.take pinLen.toNat), EcuFunction.ofCode functionCode with
      | some pinId, some function =>
        (readRequests count (rest.drop pinLen.toNat)).map fun p => (⟨function, pinId⟩ :: p.1, p.2)
      | _, _ => none
  | _ + 1, _ => none

/-- The assignments of a page, with either magic, resolved anew. -/
def deserializeAssignmentsFromPage (payload : List UInt8) :
    Except AssignmentError (List ResolvedPinAssignment) :=
  match payload with
  | b0 :: b1 :: b2 :: b3 :: version :: count :: body =>
    if [b0, b1, b2, b3] ≠ pinAssignmentMagic ∧ [b0, b1, b2, b3] ≠ pinAssignmentMagicLegacy then
      .error .invalidPayload
    else if version ≠ pinAssignmentFormatVersion then .error .invalidPayload
    else
      match readRequests count.toNat body with
      | none => .error .invalidPayload
      | some (requests, rest) =>
        if rest.any fun byte => byte != 0 then .error .invalidPayload
        else validateAssignmentSet requests
  | _ => .error .invalidPayload

/-! ### Entries -/

/-- One branch of a table of codes that is written as a cascade of comparisons. -/
theorem eq_or_of_ite_eq_some {α β : Type*} [DecidableEq α] {c k : α} {a b : β} {rest : Option β}
    (h : (if c = k then some a else rest) = some b) : c = k ∧ a = b ∨ rest = some b := by
  by_cases hc : c = k
  · exact .inl ⟨hc, by simpa [hc] using h⟩
  · exact .inr (by simpa [hc] using h)

theorem EcuFunction.code_of_ofCode {c : UInt8} {f : EcuFunction} (h : ofCode c = some f) :
    f.code = c := by
  unfold ofCode at h
  iterate 12
    rcases eq_or_of_ite_eq_some h with ⟨hc, hf⟩ | h
    · rw [hc, ← hf]
      rfl
  cases h

theorem readRequests_flatMap {requests : List PinAssignmentRequest} (rest : List UInt8)
    (h : ∀ r ∈ requests, (utf8 r.pinId).length < 256) :
    readRequests requests.length (requests.flatMap encodeRequest ++ rest) =
      some (requests, rest) := by
  induction requests with
  | nil => rfl
  | cons r requests ih =>
    have hlen : (UInt8.ofNat (utf8 r.pinId).length).toNat = (utf8 r.pinId).length := by
      rw [UInt8.toNat_ofNat']
      exact Nat.mod_eq_of_lt (h r (by simp))
    have hih := ih fun s hs => h s (List.mem_cons_of_mem r hs)
    simp only [List.length_cons, List.flatMap_cons, encodeRequest, List.cons_append,
      List.append_assoc, readRequests, hlen]
    rw [if_neg (by simp), List.take_left' rfl, List.drop_left' rfl, fromUtf8_utf8,
      EcuFunction.ofCode_code, hih]
    rfl

theorem eq_flatMap_of_readRequests {count : ℕ} {bs rest : List UInt8}
    {requests : List PinAssignmentRequest} (h : readRequests count bs = some (requests, rest)) :
    requests.length = count ∧ bs = requests.flatMap encodeRequest ++ rest := by
  induction count, bs using readRequests.induct generalizing requests with
  | case1 bs =>
    simp only [readRequests, Option.some.injEq, Prod.mk.injEq] at h
    obtain ⟨rfl, rfl⟩ := h
    exact ⟨rfl, rfl⟩
  | case2 count c l bs hlt => simp [readRequests, hlt] at h
  | case3 count c l bs hlt pinId function hc hp ih =>
    simp only [readRequests, hlt, ↓reduceIte, hc, hp, Option.map_eq_some_iff] at h
    obtain ⟨⟨tail, rest'⟩, htail, heq⟩ := h
    obtain ⟨rfl, rfl⟩ := Prod.mk.inj heq
    obtain ⟨hlen, hdrop⟩ := ih htail
    have hutf : utf8 pinId = bs.take l.toNat := utf8_of_fromUtf8 hp
    have hl : (bs.take l.toNat).length = l.toNat := by simp; omega
    refine ⟨by simpa using hlen, ?_⟩
    simp only [List.flatMap_cons, encodeRequest, EcuFunction.code_of_ofCode hc, hutf, hl,
      UInt8.ofNat_toNat, List.cons_append, List.append_assoc, ← hdrop, List.take_append_drop]
  | case4 count c l bs hlt hnone =>
    rw [readRequests, if_neg hlt] at h
    split at h
    · next hp hc => exact absurd hc (hnone _ _ hp)
    · cases h
  | case5 count bs hbs =>
    rw [readRequests] at h
    · cases h
    · exact hbs

/-! ### Lengths -/

theorem length_pinId_le {pin : PinCapability} (h : pin ∈ stEcuV1Pins) :
    (utf8 pin.pinId).length ≤ 4 := by
  have hall : ∀ pin ∈ stEcuV1Pins, (utf8 pin.pinId).length ≤ 4 := by decide
  exact hall pin h

theorem ValidAssignmentSet.length_pinId_le {as : List ResolvedPinAssignment}
    (h : ValidAssignmentSet as) : ∀ a ∈ as, (utf8 a.pinId).length ≤ 4 := by
  intro a ha
  obtain ⟨pin, hfind, -⟩ := (h.wellPlaced a ha).exists_pin
  rw [← findPin_eq_some hfind]
  exact StEcu.length_pinId_le (List.mem_of_find?_eq_some hfind)

/-- A valid list takes up at most 78 bytes: the header and six bytes for each of its entries. -/
theorem ValidAssignmentSet.length_assignmentBytes_le {as : List ResolvedPinAssignment}
    (h : ValidAssignmentSet as) {magic : List UInt8} (hm : magic.length = 4) :
    (assignmentBytes magic as).length ≤ 78 := by
  have hentries : ∀ bs : List ResolvedPinAssignment, (∀ a ∈ bs, (utf8 a.pinId).length ≤ 4) →
      ((bs.map ResolvedPinAssignment.request).flatMap encodeRequest).length ≤ 6 * bs.length := by
    intro bs hbs
    induction bs with
    | nil => simp
    | cons b bs ih =>
      have hb := hbs b (by simp)
      have hrest := ih fun a ha => hbs a (List.mem_cons_of_mem b ha)
      simp only [List.map_cons, List.flatMap_cons, List.length_append, encodeRequest,
        ResolvedPinAssignment.request, List.length_cons] at hrest ⊢
      omega
  have hlen := h.length_le
  have hbytes := hentries as h.length_pinId_le
  simp only [assignmentBytes, List.length_append, List.length_cons, hm]
  omega

/-! ### The accepted pages -/

/-- **The decoder accepts exactly the serialised valid lists**, with either magic and any number
of zeros behind them, and returns the list. -/
theorem deserializeAssignmentsFromPage_eq_ok_iff {payload : List UInt8}
    {as : List ResolvedPinAssignment} :
    deserializeAssignmentsFromPage payload = .ok as ↔
      ValidAssignmentSet as ∧ ∃ magic ∈ [pinAssignmentMagic, pinAssignmentMagicLegacy],
        ∃ k, payload = assignmentBytes magic as ++ List.replicate k 0 := by
  constructor
  · intro h
    rw [deserializeAssignmentsFromPage.eq_def] at h
    split at h
    · next b0 b1 b2 b3 version count body =>
      split_ifs at h with hmagic hversion
      split at h
      · cases h
      · next requests rest hread =>
        split_ifs at h with hzero
        obtain ⟨hmap, hvalid⟩ := validateAssignmentSet_eq_ok_iff.mp h
        obtain ⟨hlen, rfl⟩ := eq_flatMap_of_readRequests hread
        have hrest : rest = List.replicate rest.length 0 :=
          List.eq_replicate_of_mem fun b hb => by
            by_contra hne
            exact hzero (List.any_eq_true.mpr ⟨b, hb, by simpa using hne⟩)
        have hcount : count = UInt8.ofNat as.length := by
          rw [show as.length = requests.length by rw [← hmap, List.length_map], hlen,
            UInt8.ofNat_toNat]
        refine ⟨hvalid, [b0, b1, b2, b3], ?_, rest.length, ?_⟩
        · by_contra hnot
          exact hmagic (by simpa using hnot)
        · rw [assignmentBytes, hmap, ← hcount, ← hrest, not_ne_iff.mp hversion]
          simp
    · cases h
  · rintro ⟨hvalid, magic, hmagic, k, rfl⟩
    have hcount : (UInt8.ofNat as.length).toNat = as.length := by
      have := hvalid.length_le
      rw [UInt8.toNat_ofNat']
      omega
    have hpins : ∀ r ∈ as.map ResolvedPinAssignment.request, (utf8 r.pinId).length < 256 := by
      intro r hr
      obtain ⟨a, ha, rfl⟩ := List.mem_map.mp hr
      have := hvalid.length_pinId_le a ha
      exact Nat.lt_of_le_of_lt this (by decide)
    have hread := readRequests_flatMap (List.replicate k 0) hpins
    rw [List.length_map] at hread
    have hset := validateAssignmentSet_eq_ok_iff.mpr ⟨rfl, hvalid⟩
    rcases List.mem_pair.mp hmagic with rfl | rfl <;>
      simp [assignmentBytes, pinAssignmentMagic, pinAssignmentMagicLegacy,
        deserializeAssignmentsFromPage, hcount, hread, hset]

/-- A serialised page is the bytes of the list and zeros to the end of the page. -/
theorem serializeAssignmentsToPage_eq_ok_iff {as : List ResolvedPinAssignment} {n : ℕ}
    {page : List UInt8} :
    serializeAssignmentsToPage as n = .ok page ↔
      (assignmentBytes pinAssignmentMagic as).length ≤ n ∧
        page = assignmentBytes pinAssignmentMagic as ++
          List.replicate (n - (assignmentBytes pinAssignmentMagic as).length) 0 := by
  rw [serializeAssignmentsToPage]
  by_cases hlen : (assignmentBytes pinAssignmentMagic as).length ≤ n
  · simp only [Nat.not_lt.mpr hlen, ↓reduceIte, Except.ok.injEq, hlen, true_and]
    exact eq_comm
  · simp [Nat.lt_of_not_le hlen, hlen]

theorem length_of_serializeAssignmentsToPage {as : List ResolvedPinAssignment} {n : ℕ}
    {page : List UInt8} (h : serializeAssignmentsToPage as n = .ok page) : page.length = n := by
  obtain ⟨hlen, rfl⟩ := serializeAssignmentsToPage_eq_ok_iff.mp h
  simp
  omega

/-- Reading back a serialised valid list returns it. -/
theorem deserialize_serialize {as : List ResolvedPinAssignment} {n : ℕ} {page : List UInt8}
    (hvalid : ValidAssignmentSet as) (h : serializeAssignmentsToPage as n = .ok page) :
    deserializeAssignmentsFromPage page = .ok as :=
  deserializeAssignmentsFromPage_eq_ok_iff.mpr
    ⟨hvalid, pinAssignmentMagic, by simp, _, (serializeAssignmentsToPage_eq_ok_iff.mp h).2⟩

/-- The bytes of a list: a magic, a version, a count, and for each entry its function, the length of
its pin identifier and the pin identifier. -/
theorem length_assignmentBytes (magic : List UInt8) (as : List ResolvedPinAssignment) :
    (assignmentBytes magic as).length =
      magic.length + 2 + (as.map fun a => 2 + (utf8 a.pinId).length).sum := by
  have hentries : ((as.map ResolvedPinAssignment.request).flatMap encodeRequest).length =
      (as.map fun a => 2 + (utf8 a.pinId).length).sum := by
    induction as with
    | nil => rfl
    | cons a as ih =>
      simp only [List.map_cons, List.flatMap_cons, List.length_append, List.sum_cons, ih,
        encodeRequest, ResolvedPinAssignment.request, List.length_cons]
      omega
  simp only [assignmentBytes, List.length_append, List.length_cons, hentries]
  omega

/-- An accepted page is serialised from its list again, with the current magic in the place of its
own. -/
theorem serialize_of_deserialize {page : List UInt8} {as : List ResolvedPinAssignment}
    (h : deserializeAssignmentsFromPage page = .ok as) :
    serializeAssignmentsToPage as page.length = .ok (pinAssignmentMagic ++ page.drop 4) := by
  obtain ⟨-, magic, hmagic, k, rfl⟩ := deserializeAssignmentsFromPage_eq_ok_iff.mp h
  have hmagic4 : magic.length = 4 := by
    rcases List.mem_pair.mp hmagic with rfl | rfl <;> rfl
  have hlen : (assignmentBytes magic as).length =
      (assignmentBytes pinAssignmentMagic as).length := by
    rw [length_assignmentBytes, length_assignmentBytes, hmagic4]
    rfl
  rw [serializeAssignmentsToPage_eq_ok_iff, List.length_append, List.length_replicate, hlen,
    Nat.add_sub_cancel_left]
  refine ⟨Nat.le_add_right _ _, ?_⟩
  simp only [assignmentBytes, List.append_assoc, List.drop_left' hmagic4]

/-- **The pin page codec.** A list that was validated fits a page exactly if its bytes do; the page
then is as long as asked for, and is read back as the list. Every accepted page is the one that its
list is serialised to, up to a legacy magic. -/
theorem page_codec_round_trip :
    (∀ requests as, validateAssignmentSet requests = .ok as → ∀ pageLen,
      ((∃ page, serializeAssignmentsToPage as pageLen = .ok page) ↔
        6 + (as.map fun a => 2 + (utf8 a.pinId).length).sum ≤ pageLen) ∧
      ∀ page, serializeAssignmentsToPage as pageLen = .ok page →
        page.length = pageLen ∧ deserializeAssignmentsFromPage page = .ok as) ∧
    ∀ page as, deserializeAssignmentsFromPage page = .ok as →
      (page.take 4 = pinAssignmentMagic → serializeAssignmentsToPage as page.length = .ok page) ∧
      (page.take 4 = pinAssignmentMagicLegacy →
        serializeAssignmentsToPage as page.length = .ok (pinAssignmentMagic ++ page.drop 4)) := by
  refine ⟨fun requests as hvalid pageLen => ⟨?_, fun page hpage =>
    ⟨length_of_serializeAssignmentsToPage hpage,
      deserialize_serialize (validateAssignmentSet_eq_ok_iff.mp hvalid).2 hpage⟩⟩,
    fun page as h => ⟨fun hmagic => ?_, fun _ => serialize_of_deserialize h⟩⟩
  · have hlen := length_assignmentBytes pinAssignmentMagic as
    have hmagic : pinAssignmentMagic.length = 4 := rfl
    simp only [serializeAssignmentsToPage_eq_ok_iff, exists_and_left, exists_eq, and_true]
    omega
  · have hserialize := serialize_of_deserialize h
    rwa [← hmagic, List.take_append_drop] at hserialize

/-- A crank input on its pin takes up eleven bytes, and its page with the legacy magic is serialised
to the page with the current one. -/
theorem page_codec_round_trip_legacy : ∃ as,
    validateAssignmentSet [⟨.crankInput, "PA0"⟩] = .ok as ∧
    (∃ page, serializeAssignmentsToPage as 11 = .ok page) ∧
    serializeAssignmentsToPage as 12 =
      .ok [0x53, 0x54, 0x49, 0x4F, 1, 1, 0x01, 3, 0x50, 0x41, 0x30, 0] := by
  have hdecode : (deserializeAssignmentsFromPage
      [0x53, 0x54, 0x50, 0x33, 1, 1, 0x01, 3, 0x50, 0x41, 0x30, 0]).toOption.isSome = true := by
    decide +kernel
  cases hpage : deserializeAssignmentsFromPage
      [0x53, 0x54, 0x50, 0x33, 1, 1, 0x01, 3, 0x50, 0x41, 0x30, 0] with
  | error e =>
    rw [hpage] at hdecode
    cases hdecode
  | ok as =>
    have hvalid : validateAssignmentSet [⟨.crankInput, "PA0"⟩] = .ok as := hpage
    have hpins : as.map (ResolvedPinAssignment.request) = [⟨.crankInput, "PA0"⟩] :=
      (validateAssignmentSet_eq_ok_iff.mp hvalid).1
    have hsum : (as.map fun a => 2 + (utf8 a.pinId).length).sum = 5 := by
      have hmap := congrArg (List.map fun r => 2 + (utf8 r.pinId).length) hpins
      rw [List.map_map] at hmap
      exact congrArg List.sum hmap
    exact ⟨as, hvalid, (page_codec_round_trip.1 _ as hvalid 11).1.mpr (by omega),
      (page_codec_round_trip.2 _ as hpage).2 rfl⟩

/-- A valid list fits a page of 512 bytes. -/
theorem ValidAssignmentSet.exists_serialize {as : List ResolvedPinAssignment}
    (h : ValidAssignmentSet as) : ∃ page, serializeAssignmentsToPage as 512 = .ok page :=
  ⟨_, serializeAssignmentsToPage_eq_ok_iff.mpr
    ⟨Nat.le_trans (h.length_assignmentBytes_le rfl) (by decide), rfl⟩⟩

/-! ### The default pin assignments -/

/-- The default requests, resolved. -/
def bootPinAssignments : List ResolvedPinAssignment :=
  match validateAssignmentSet defaultPinAssignments with
  | .ok assignments => assignments
  | .error _ => []

theorem validate_default :
    validateAssignmentSet defaultPinAssignments = .ok bootPinAssignments := by
  have hok : (validateAssignmentSet defaultPinAssignments).toOption.isSome = true := by decide
  rw [bootPinAssignments]
  cases hv : validateAssignmentSet defaultPinAssignments with
  | ok assignments => rfl
  | error e =>
    rw [hv] at hok
    cases hok

theorem validAssignmentSet_boot : ValidAssignmentSet bootPinAssignments :=
  (validateAssignmentSet_eq_ok_iff.mp validate_default).2

end StEcu
