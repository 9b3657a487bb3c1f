import StEcu.Protocol.WireAgreement
import StEcu.Reference

/-!
# Payloads with a length and a checksum

A page payload and a log block payload end alike: the length of the data in 16 bits, its checksum in
32 bits, and the data. A decoder accepts such an end only with the length and the checksum right.
The total length of a payload fixes its length field, and a single byte lies either in the checksum
or in the data; so a changed byte leaves two of the three that do not fit.

## Main definitions

* `checkedData`: data with its length and its checksum in front.
* `decodeLogBlockPayload`: the decoder of log block payloads, without indexing.

## Main results

* `Wire.agrees_decodeLogBlockPayload`: it gives what the decoder byte by byte gives.
* `payload_corruption_detected`: a changed byte is noticed.
-/

namespace StEcu

variable {P : Platform}

/-- Data with its length and its checksum in front. -/
def checkedData (P : Platform) (data : Bytes) : Bytes :=
  u16ToBe (UInt16.ofNat data.length) ++ u32ToBe (P.crc32 data) ++ data

theorem length_checkedData (data : Bytes) : (checkedData P data).length = 6 + data.length := by
  simp [checkedData]
  omega

/-- Where the length and the checksum behind the first `n` bytes fit, what follows these bytes is
checked data. -/
theorem take_append_checkedData {payload : Bytes} (n : ℕ)
    (hlen : payload.length = n + 6 + (u16OfBe (slice payload n (n + 2))).toNat)
    (hcrc : u32OfBe (slice payload (n + 2) (n + 6)) = P.crc32 (payload.drop (n + 6))) :
    payload = payload.take n ++ checkedData P (payload.drop (n + 6)) := by
  have hdrop : UInt16.ofNat (payload.drop (n + 6)).length = u16OfBe (slice payload n (n + 2)) := by
    rw [List.length_drop, hlen, Nat.add_sub_cancel_left, UInt16.ofNat_toNat]
  have hl : (slice payload n (n + 2)).length = 2 := by
    rw [length_slice (by omega), Nat.add_sub_cancel_left]
  have hc : (slice payload (n + 2) (n + 6)).length = 4 := by
    rw [length_slice (by omega)]
    omega
  rw [checkedData, hdrop, ← hcrc, u16ToBe_u16OfBe hl, u32ToBe_u32OfBe hc, ← List.append_assoc,
    ← List.append_assoc, take_append_slice payload (by omega), take_append_slice payload (by omega),
    List.take_append_drop]

/-- Checked data in which one byte was changed is not checked data any more. -/
theorem eq_of_agreeOutside_checkedData (hcrc : P.crc32 = crc32IsoHdlc) {i : ℕ} {data other : Bytes}
    (h : AgreeOutside i 1 (checkedData P data) (checkedData P other)) : data = other := by
  have hlen := h.length_eq
  rw [length_checkedData, length_checkedData] at hlen
  have hdata : AgreeOutside (i - 6) 1 data other := h.drop 6
  by_contra hne
  -- the change is in the data, so the two checksums are the same
  have hi : 6 ≤ i := by
    by_contra hi
    exact hne (h.drop_eq 6 (by omega))
  have hsums : u32ToBe (P.crc32 data) = u32ToBe (P.crc32 other) :=
    congrArg (List.drop 2) (h.take_eq 6 hi)
  refine crc32IsoHdlc_ne_of_agreeOutside hdata (by decide) hne ?_
  rw [← hcrc, ← u32OfBe_u32ToBe (P.crc32 data), hsums, u32OfBe_u32ToBe]

/-- Two payloads that differ in one byte behind their fronts do not both end in checked data. -/
theorem append_checkedData_inj (hcrc : P.crc32 = crc32IsoHdlc) {i : ℕ}
    {front front' data data' : Bytes} (hfront : front.length = front'.length)
    (hi : front.length ≤ i)
    (h : AgreeOutside i 1 (front ++ checkedData P data) (front' ++ checkedData P data')) :
    front ++ checkedData P data = front' ++ checkedData P data' := by
  have hfronts := h.take_eq front.length hi
  have hends := h.drop front.length
  rw [List.take_left, hfront, List.take_left] at hfronts
  rw [List.drop_left, hfront, List.drop_left] at hends
  rw [hfronts, eq_of_agreeOutside_checkedData hcrc hends]

/-! ### Pages -/

theorem encodePagePayload_eq (pageId : UInt8) (data : Bytes) :
    encodePagePayload P pageId data = [pageId] ++ checkedData P data := by
  simp only [encodePagePayload, checkedData, List.cons_append, List.nil_append, List.append_assoc]

/-- A page payload is accepted where it ends in checked data, and rejected as malformed
otherwise. -/
theorem decodePagePayload_cases (payload : Bytes) :
    decodePagePayload P payload = .error .malformedPayload ∨
      ∃ pageId data, payload = [pageId] ++ checkedData P data := by
  rw [decodePagePayload]
  dsimp only
  split_ifs with hlen hlength hcrc
  · exact .inl rfl
  · exact .inl rfl
  · exact .inl rfl
  · push Not at hlength hcrc
    have hfront : payload.take 1 = [payload.getD 0 0] :=
      (take_append_getD payload (i := 0) (by omega) 0).symm
    refine .inr ⟨payload.getD 0 0, payload.drop 7, ?_⟩
    rw [← hfront]
    exact take_append_checkedData 1 (by rw [hlength, Nat.add_comm]) hcrc

/-! ### Log blocks -/

/-- The block of the log in a payload whose length and checksum are right. -/
def decodeLogBlockPayload (P : Platform) (payload : Bytes) :
    Except ProtocolError Wire.DecodedLogBlockPayload :=
  if payload.length < 10 then .error .malformedPayload
  else
    let dataLen := (u16OfBe (slice payload 4 6)).toNat
    if payload.length ≠ 10 + dataLen then .error .malformedPayload
    else
      let payloadCrc := u32OfBe (slice payload 6 10)
      let data := payload.drop 10
      if payloadCrc ≠ P.crc32 data then .error .malformedPayload
      else
        .ok
          { blockIndex := u16OfBe (slice payload 0 2), totalBlocks := u16OfBe (slice payload 2 4)
            payloadCrc, payload := data }

theorem encodeLogBlockPayload_eq (blockIndex totalBlocks : UInt16) (data : Bytes) :
    encodeLogBlockPayload P blockIndex totalBlocks data =
      (u16ToBe blockIndex ++ u16ToBe totalBlocks) ++ checkedData P data := by
  simp only [encodeLogBlockPayload, checkedData, List.append_assoc]

theorem decode_encodeLogBlockPayload {blockIndex totalBlocks : UInt16} {data : Bytes}
    (h : data.length ≤ 0xFFFF) :
    decodeLogBlockPayload P (encodeLogBlockPayload P blockIndex totalBlocks data) =
      .ok ⟨blockIndex, totalBlocks, P.crc32 data, data⟩ := by
  set payload := encodeLogBlockPayload P blockIndex totalBlocks data with hpayload
  have hlen : payload.length = 10 + data.length := by
    rw [hpayload, encodeLogBlockPayload_eq, List.length_append, length_checkedData]
    simp
    omega
  have hb : slice payload 0 2 = u16ToBe blockIndex := rfl
  have ht : slice payload 2 4 = u16ToBe totalBlocks := rfl
  have hl : slice payload 4 6 = u16ToBe (UInt16.ofNat data.length) := rfl
  have hc : slice payload 6 10 = u32ToBe (P.crc32 data) := rfl
  have hd : payload.drop 10 = data := rfl
  have hn : (UInt16.ofNat data.length).toNat = data.length := by
    rw [UInt16.toNat_ofNat']
    omega
  rw [decodeLogBlockPayload]
  simp only [hlen, hb, ht, hl, hc, hd, u16OfBe_u16ToBe, u32OfBe_u32ToBe, hn]
  simp

theorem decodeLogBlockPayload_cases (payload : Bytes) :
    decodeLogBlockPayload P payload = .error .malformedPayload ∨
      ∃ front data, front.length = 4 ∧ payload = front ++ checkedData P data := by
  rw [decodeLogBlockPayload]
  dsimp only
  split_ifs with hlen hlength hcrc
  · exact .inl rfl
  · exact .inl rfl
  · exact .inl rfl
  · push Not at hlen hlength hcrc
    exact .inr ⟨payload.take 4, payload.drop 10, List.length_take_of_le (by omega),
      take_append_checkedData 4 hlength hcrc⟩

namespace Wire

open ByteReader hiding slice

/-- The decoder of log block payloads gives what the decoder byte by byte gives. -/
theorem agrees_decodeLogBlockPayload :
    Agrees (decodeLogBlockPayload P) (StEcu.decodeLogBlockPayload P) := by
  intro payload
  by_cases hlen : payload.length < 10
  · have hread : (decodeLogBlockPayload P).read payload 0 = .error (.rejected malformed) :=
      read_bind_error (read_require.trans (if_pos (by omega)))
    rw [run, hread, StEcu.decodeLogBlockPayload, if_pos hlen]
    rfl
  obtain ⟨b₀, b₁, t₀, t₁, l₀, l₁, c₀, c₁, c₂, c₃, data, rfl⟩ :
      ∃ b₀ b₁ t₀ t₁ l₀ l₁ c₀ c₁ c₂ c₃ data,
        payload = b₀ :: b₁ :: t₀ :: t₁ :: l₀ :: l₁ :: c₀ :: c₁ :: c₂ :: c₃ :: data := by
    rcases payload with - | ⟨b₀, - | ⟨b₁, - | ⟨t₀, - | ⟨t₁, - | ⟨l₀, - | ⟨l₁, - | ⟨c₀, - | ⟨c₁,
      - | ⟨c₂, - | ⟨c₃, data⟩⟩⟩⟩⟩⟩⟩⟩⟩⟩
    iterate 10 exact absurd (by simp) hlen
    exact ⟨b₀, b₁, t₀, t₁, l₀, l₁, c₀, c₁, c₂, c₃, data, rfl⟩
  set payload := b₀ :: b₁ :: t₀ :: t₁ :: l₀ :: l₁ :: c₀ :: c₁ :: c₂ :: c₃ :: data with hpayload
  have htotal : StEcu.decodeLogBlockPayload P payload =
      if payload.length ≠ 10 + (u16OfBe [l₀, l₁]).toNat then .error .malformedPayload
      else if u32OfBe [c₀, c₁, c₂, c₃] ≠ P.crc32 data then .error .malformedPayload
      else .ok ⟨u16OfBe [b₀, b₁], u16OfBe [t₀, t₁], u32OfBe [c₀, c₁, c₂, c₃], data⟩ := by
    rw [StEcu.decodeLogBlockPayload, if_neg hlen]
    rfl
  have hrequire : (require 10 malformed).read payload 0 = .ok ((), 0) :=
    read_require.trans (if_neg (by omega))
  have hread : (decodeLogBlockPayload P).read payload 0 = _ :=
    (read_bind_ok hrequire).trans <| (read_bind_ok rfl).trans <| (read_bind_ok rfl).trans <|
    (read_bind_ok rfl).trans <| read_checkedEnd _
      (DecodedLogBlockPayload.mk (u16OfBe [b₀, b₁]) (u16OfBe [t₀, t₁])) [b₀, b₁, t₀, t₁, l₀, l₁]
      payload hpayload
  rw [htotal, run, hread]
  split_ifs <;> rfl

end Wire

/-! ### Corruption -/

/-- A payload in which a byte behind the front was changed is malformed, where a decoder accepts
nothing but a front with checked data behind it. -/
theorem malformed_of_set {α : Type} {decode : Bytes → Except ProtocolError α}
    (hcrc : P.crc32 = crc32IsoHdlc) {front data : Bytes}
    (hcases : ∀ payload, decode payload = .error .malformedPayload ∨
      ∃ front' data', front'.length = front.length ∧ payload = front' ++ checkedData P data')
    {i : ℕ} {b : UInt8} (hi : front.length ≤ i)
    (hlt : i < (front ++ checkedData P data).length)
    (hne : (front ++ checkedData P data)[i]? ≠ some b) :
    decode ((front ++ checkedData P data).set i b) = .error .malformedPayload := by
  obtain hmalformed | ⟨front', data', hlen, heq⟩ := hcases ((front ++ checkedData P data).set i b)
  · exact hmalformed
  · have hset := agreeOutside_set (front ++ checkedData P data) i b
    rw [heq] at hset
    have hsame := append_checkedData_inj hcrc hlen.symm hi hset
    rw [← heq] at hsame
    refine absurd ?_ hne
    rw [hsame, List.getElem?_set_self hlt]

/-- **A changed byte is noticed.** Page payloads and log block payloads are read back, and where one
byte behind the page number, or behind the two block numbers, is changed they are malformed. -/
theorem payload_corruption_detected (P : Platform) (hcrc : P.crc32 = crc32IsoHdlc) (data : Bytes)
    (hlen : data.length ≤ 65535) :
    (∀ pageId,
      decodePagePayload P (encodePagePayload P pageId data) = .ok ⟨pageId, P.crc32 data, data⟩ ∧
      ∀ i b, i ≠ 0 → i < (encodePagePayload P pageId data).length →
        (encodePagePayload P pageId data)[i]? ≠ some b →
        decodePagePayload P ((encodePagePayload P pageId data).set i b) =
          .error .malformedPayload) ∧
    ∀ blockIndex totalBlocks,
      decodeLogBlockPayload P (encodeLogBlockPayload P blockIndex totalBlocks data) =
        .ok ⟨blockIndex, totalBlocks, P.crc32 data, data⟩ ∧
      ∀ i b, 4 ≤ i → i < (encodeLogBlockPayload P blockIndex totalBlocks data).length →
        (encodeLogBlockPayload P blockIndex totalBlocks data)[i]? ≠ some b →
        decodeLogBlockPayload P ((encodeLogBlockPayload P blockIndex totalBlocks data).set i b) =
          .error .malformedPayload := by
  refine ⟨fun pageId => ⟨decode_encodePagePayload hlen, fun i b hi => ?_⟩,
    fun blockIndex totalBlocks => ⟨decode_encodeLogBlockPayload hlen, fun i b hi => ?_⟩⟩
  · rw [encodePagePayload_eq]
    refine malformed_of_set hcrc (fun payload => ?_) (Nat.one_le_iff_ne_zero.mpr hi)
    obtain hmalformed | ⟨pageId', data', heq⟩ := decodePagePayload_cases (P := P) payload
    · exact .inl hmalformed
    · exact .inr ⟨[pageId'], data', rfl, heq⟩
  · rw [encodeLogBlockPayload_eq]
    exact malformed_of_set hcrc decodeLogBlockPayload_cases hi

/-- The last byte of the data changed, and the first byte of the length. -/
theorem payload_corruption_detected_small :
    decodePagePayload referencePlatform ((encodePagePayload referencePlatform 5 [0x11, 0x22]).set 8
        0x33) = .error .malformedPayload ∧
      decodeLogBlockPayload referencePlatform ((encodeLogBlockPayload referencePlatform 0 1
        [0x11, 0x22]).set 4 0x01) = .error .malformedPayload := by
  obtain ⟨hpage, hblock⟩ :=
    payload_corruption_detected referencePlatform rfl [0x11, 0x22] (by decide)
  exact ⟨(hpage 5).2 8 0x33 (by decide) (by decide) (by decide),
    (hblock 0 1).2 4 0x01 (by decide) (by decide) (by decide)⟩

end StEcu
