import StEcu.Config.Image
import StEcu.Reference

/-!
# The integrity of stored page images

The decoder of stored page images accepts exactly the byte strings that lay out an intact image: one
with a known format version, the right length and both checksums right. So an accepted image is
canonical: it is the encoding of its own fields.

The payload is covered by both checksums, the header by the image checksum, and the image checksum
stands between the two. A change within four consecutive bytes therefore leaves a checksum that does
not fit.

## Main definitions

* `StoredPageImage.bytes`: the layout of an image.
* `StoredPageImage.Intact`: an image with both checksums right.

## Main results

* `decodeStoredPageImage_eq_ok_iff`: what the decoder accepts.
* `stored_page_image_codec`: encoder and decoder are inverse to each other.
* `short_corruption_detected`: no change within four consecutive bytes is accepted.
-/

namespace StEcu

/-- The bytes of an image, field by field. -/
def StoredPageImage.bytes (image : StoredPageImage) : Bytes :=
  encodeImagePrefix image.header ++ u32ToBe image.header.imageCrc ++ image.payload

/-- An image with a known format version, the right length and both checksums right. -/
structure StoredPageImage.Intact (P : Platform) (image : StoredPageImage) : Prop where
  formatVersion_le : image.header.formatVersion ≤ configFormatVersion
  length_payload : image.payload.length = image.header.payloadLength.toNat
  payloadCrc_eq : image.header.payloadCrc = P.crc32 image.payload
  imageCrc_eq : image.header.imageCrc = P.crc32 (encodeImagePrefix image.header ++ image.payload)

variable {P : Platform} {raw : Bytes} {image : StoredPageImage}

/-! ### What the decoder accepts -/

/-- An image is laid out where the decoder looks for its fields. -/
theorem eq_bytes_of_fields (hlen : storedPageHeaderLen ≤ raw.length)
    (hmagic : raw.take 4 = configImageMagic) :
    raw = StoredPageImage.bytes
      { header :=
          { pageId := raw.getD 5 0, schemaVersion := u16OfBe (slice raw 6 8)
            formatVersion := raw.getD 4 0, generation := u32OfBe (slice raw 8 12)
            payloadLength := u16OfBe (slice raw 12 14), payloadCrc := u32OfBe (slice raw 14 18)
            imageCrc := u32OfBe (slice raw 18 22) }
        payload := raw.drop storedPageHeaderLen } := by
  rw [storedPageHeaderLen] at hlen
  have hs (i j : ℕ) (hj : j ≤ 22) : (slice raw i j).length = j - i :=
    length_slice (Nat.le_trans hj hlen)
  have hversions : [raw.getD 4 0, raw.getD 5 0] = [raw.getD 4 0] ++ [raw.getD 5 0] := rfl
  simp only [StoredPageImage.bytes, encodeImagePrefix, u16ToBe_u16OfBe, u32ToBe_u32OfBe, hs,
    Nat.le_refl, Nat.reduceLeDiff, Nat.reduceSub]
  rw [← hmagic, hversions, ← List.append_assoc, take_append_getD raw (by omega),
    take_append_getD raw (by omega), take_append_slice raw (by decide),
    take_append_slice raw (by decide), take_append_slice raw (by decide),
    take_append_slice raw (by decide), take_append_slice raw (by decide), storedPageHeaderLen,
    List.take_append_drop]

/-- **What the decoder accepts**: the bytes of an intact image, from which it returns that image. -/
theorem decodeStoredPageImage_eq_ok_iff :
    decodeStoredPageImage P raw = .ok image ↔ raw = image.bytes ∧ image.Intact P := by
  constructor
  · intro h
    rw [decodeStoredPageImage] at h
    dsimp only at h
    split_ifs at h with hlen hmagic hversion hlength hpayload himage
    obtain rfl := Except.ok.inj h
    push Not at hlen hmagic hversion hlength hpayload himage
    have hbytes := eq_bytes_of_fields hlen hmagic
    refine ⟨hbytes, UInt8.not_lt.mp hversion.2, ?_, hpayload.symm, himage.symm⟩
    rw [List.length_drop, hlength, Nat.add_sub_cancel_left]
  · rintro ⟨rfl, hintact⟩
    obtain ⟨hl, hm, h4, h5, hs, hg, hp, hpc, hic, hd⟩ :=
      fields_of_encodeImagePrefix image.header image.payload
    have hversion : ¬ (image.header.formatVersion < minSupportedConfigFormatVersion ∨
        configFormatVersion < image.header.formatVersion) := by
      rintro (h | h)
      · exact absurd h (UInt8.not_lt.mpr (UInt8.le_iff_toNat_le.mpr (Nat.zero_le _)))
      · exact absurd h (UInt8.not_lt.mpr hintact.formatVersion_le)
    have himage : calculateImageCrc P image.header.formatVersion image.header.schemaVersion
        image.header.pageId image.header.generation image.header.payloadLength
        image.header.payloadCrc image.payload = image.header.imageCrc :=
      hintact.imageCrc_eq.symm
    rw [StoredPageImage.bytes, decodeStoredPageImage]
    simp only [hl, hm, h4, h5, hs, hg, hp, hpc, hic, hd, u16OfBe_u16ToBe, u32OfBe_u32ToBe]
    simp [hversion, hintact.length_payload, ← hintact.payloadCrc_eq, himage]

/-- The encoder lays out an intact image. -/
theorem encode_eq_bytes (pageId : UInt8) (generation : UInt32) (schemaVersion : UInt16)
    {formatVersion : UInt8} {payload : Bytes} (hf : formatVersion ≤ configFormatVersion)
    (hlen : payload.length ≤ 0xFFFF) :
    let image : StoredPageImage :=
      ⟨buildPageHeaderWithVersions P pageId generation schemaVersion formatVersion payload, payload⟩
    encodeStoredPageImageWithVersions P pageId generation schemaVersion formatVersion payload =
      image.bytes ∧ image.Intact P := by
  refine ⟨?_, hf, ?_, rfl, rfl⟩
  · rw [encodeStoredPageImageWithVersions, List.take_of_length_le hlen]
    rfl
  · change payload.length = (UInt16.ofNat payload.length).toNat
    rw [UInt16.toNat_ofNat']
    omega

/-- An accepted image is the encoding of its fields. -/
theorem encode_of_decode (h : decodeStoredPageImage P raw = .ok image) :
    encodeStoredPageImageWithVersions P image.header.pageId image.header.generation
      image.header.schemaVersion image.header.formatVersion image.payload = raw := by
  obtain ⟨rfl, hintact⟩ := decodeStoredPageImage_eq_ok_iff.mp h
  have hlen : image.payload.length ≤ 0xFFFF := by
    have := image.header.payloadLength.toNat_lt
    rw [hintact.length_payload]
    omega
  have hlength : UInt16.ofNat image.payload.length = image.header.payloadLength := by
    rw [hintact.length_payload, UInt16.ofNat_toNat]
  have hheader : buildPageHeaderWithVersions P image.header.pageId image.header.generation
      image.header.schemaVersion image.header.formatVersion image.payload = image.header := by
    simp only [buildPageHeaderWithVersions, hlength, ← hintact.payloadCrc_eq]
    rw [calculateImageCrc, ← encodeImagePrefix, ← hintact.imageCrc_eq]
  rw [(encode_eq_bytes (P := P) _ _ _ hintact.formatVersion_le hlen).1, hheader]

/-- **The codec of stored page images**: an image is read back as it was encoded, and an accepted
image is the encoding of its own fields. -/
theorem stored_page_image_codec (P : Platform) :
    (∀ pageId generation schemaVersion formatVersion payload,
      formatVersion ≤ configFormatVersion → payload.length ≤ 65535 →
      ∃ image, decodeStoredPageImage P (encodeStoredPageImageWithVersions P pageId generation
          schemaVersion formatVersion payload) = .ok image ∧
        image.header.pageId = pageId ∧ image.header.generation = generation ∧
        image.header.schemaVersion = schemaVersion ∧
        image.header.formatVersion = formatVersion ∧ image.payload = payload) ∧
    ∀ raw image, decodeStoredPageImage P raw = .ok image →
      encodeStoredPageImageWithVersions P image.header.pageId image.header.generation
        image.header.schemaVersion image.header.formatVersion image.payload = raw :=
  ⟨fun _ _ _ _ _ hf hlen => ⟨_, decode_encodeStoredPageImageWithVersions hf hlen, rfl, rfl, rfl,
    rfl, rfl⟩, fun _ _ => encode_of_decode⟩

/-- An image in the oldest format, there and back. -/
theorem stored_page_image_codec_oldest :
    ∃ image, decodeStoredPageImage referencePlatform (encodeStoredPageImageWithVersions
        referencePlatform 3 7 1 0 [0x11, 0x22]) = .ok image ∧
      (image.header.pageId = 3 ∧ image.header.generation = 7 ∧ image.header.schemaVersion = 1 ∧
        image.header.formatVersion = 0 ∧ image.payload = [0x11, 0x22]) ∧
      encodeStoredPageImageWithVersions referencePlatform image.header.pageId
          image.header.generation image.header.schemaVersion image.header.formatVersion
          image.payload =
        encodeStoredPageImageWithVersions referencePlatform 3 7 1 0 [0x11, 0x22] := by
  obtain ⟨hforth, hback⟩ := stored_page_image_codec referencePlatform
  obtain ⟨image, hdecode, hfields⟩ := hforth 3 7 1 0 [0x11, 0x22] (by decide) (by decide)
  exact ⟨image, hdecode, hfields, hback _ image hdecode⟩

/-! ### Corruption -/

/-- The four parts of an image that matter to the checksums, read off its bytes. -/
theorem bytes_parts (image : StoredPageImage) :
    image.bytes.take 18 = encodeImagePrefix image.header ∧
      image.bytes.drop 18 = u32ToBe image.header.imageCrc ++ image.payload ∧
      image.bytes.drop 22 = image.payload := by
  rw [StoredPageImage.bytes, List.append_assoc]
  exact ⟨rfl, rfl, rfl⟩

theorem payloadCrc_eq_of_take {h h' : ConfigPageHeader}
    (heq : encodeImagePrefix h = encodeImagePrefix h') : h.payloadCrc = h'.payloadCrc := by
  have hdrop : u32ToBe h.payloadCrc = u32ToBe h'.payloadCrc := congrArg (List.drop 14) heq
  rw [← u32OfBe_u32ToBe h.payloadCrc, hdrop, u32OfBe_u32ToBe]

/-- Two intact images that agree outside a window of four bytes are the same. -/
theorem StoredPageImage.Intact.eq_of_agreeOutside {other : StoredPageImage} {i : ℕ}
    (hcrc : P.crc32 = crc32IsoHdlc) (h : image.Intact P) (h' : other.Intact P)
    (hagree : AgreeOutside i 4 image.bytes other.bytes) : image.bytes = other.bytes := by
  obtain ⟨hfront, hback, hpayload⟩ := bytes_parts image
  obtain ⟨hfront', hback', hpayload'⟩ := bytes_parts other
  have hfronts : AgreeOutside i 4 (encodeImagePrefix image.header)
      (encodeImagePrefix other.header) := by
    rw [← hfront, ← hfront']
    exact hagree.take 18
  have hpayloads : AgreeOutside (i - 22) 4 image.payload other.payload := by
    rw [← hpayload, ← hpayload']
    exact hagree.drop 22
  -- a change of the payload is at least four bytes away from the header's payload checksum
  have heq : image.payload = other.payload := by
    by_contra hne
    have hi : 18 < i := by
      by_contra hi
      refine hne ?_
      rw [← hpayload, ← hpayload']
      exact hagree.drop_eq 22 (by omega)
    have hsame : encodeImagePrefix image.header = encodeImagePrefix other.header := by
      rw [← hfront, ← hfront']
      exact hagree.take_eq 18 (by omega)
    refine crc32IsoHdlc_ne_of_agreeOutside hpayloads (Nat.le_refl 4) hne ?_
    rw [← hcrc, ← h.payloadCrc_eq, ← h'.payloadCrc_eq, payloadCrc_eq_of_take hsame]
  -- with the payload the same, so is its checksum, and a change of the header is before it
  have hheader : encodeImagePrefix image.header = encodeImagePrefix other.header := by
    by_contra hne
    have hi : i < 14 := by
      by_contra hi
      have htake : (encodeImagePrefix image.header).take 14 =
          (encodeImagePrefix other.header).take 14 := hfronts.take_eq 14 (by omega)
      have hdrop : (encodeImagePrefix image.header).drop 14 =
          (encodeImagePrefix other.header).drop 14 := by
        change u32ToBe image.header.payloadCrc = u32ToBe other.header.payloadCrc
        rw [h.payloadCrc_eq, h'.payloadCrc_eq, heq]
      refine hne ?_
      rw [← List.take_append_drop 14 (encodeImagePrefix image.header), htake, hdrop,
        List.take_append_drop]
    have hsame : image.bytes.drop 18 = other.bytes.drop 18 := hagree.drop_eq 18 (by omega)
    rw [hback, hback', heq] at hsame
    have himageCrc : image.header.imageCrc = other.header.imageCrc := by
      rw [← u32OfBe_u32ToBe image.header.imageCrc, List.append_cancel_right hsame,
        u32OfBe_u32ToBe]
    refine crc32IsoHdlc_ne_of_agreeOutside (hfronts.append_right image.payload) (Nat.le_refl 4)
      (fun h => hne (List.append_cancel_right h)) ?_
    rw [← hcrc, ← h.imageCrc_eq, himageCrc, h'.imageCrc_eq, heq]
  rw [StoredPageImage.bytes, StoredPageImage.bytes, hheader, heq, h.imageCrc_eq, h'.imageCrc_eq,
    hheader, heq]

/-- **No short corruption goes unnoticed**: where at most four consecutive bytes of an encoded image
are changed, the decoder rejects it. -/
theorem short_corruption_detected (P : Platform) (hcrc : P.crc32 = crc32IsoHdlc) (pageId : UInt8)
    (generation : UInt32) (schemaVersion : UInt16) (formatVersion : UInt8) (payload : Bytes)
    (hf : formatVersion ≤ configFormatVersion) (hlen : payload.length ≤ 65535) (corrupt : Bytes)
    (i : ℕ)
    (hagree : AgreeOutside i 4 (encodeStoredPageImageWithVersions P pageId generation schemaVersion
      formatVersion payload) corrupt)
    (hne : corrupt ≠ encodeStoredPageImageWithVersions P pageId generation schemaVersion
      formatVersion payload) :
    ∃ error, decodeStoredPageImage P corrupt = .error error := by
  obtain ⟨hbytes, hintact⟩ :=
    encode_eq_bytes (P := P) pageId generation schemaVersion hf hlen
  rw [hbytes] at hagree hne
  cases hdecode : decodeStoredPageImage P corrupt with
  | error error => exact ⟨error, rfl⟩
  | ok image =>
    obtain ⟨rfl, hintact'⟩ := decodeStoredPageImage_eq_ok_iff.mp hdecode
    exact absurd (hintact.eq_of_agreeOutside hcrc hintact' hagree).symm hne

/-- A payload byte changed, in an image of two payload bytes. -/
theorem short_corruption_detected_small :
    ∃ error, decodeStoredPageImage referencePlatform ((encodeStoredPageImageWithVersions
      referencePlatform 3 7 1 1 [0x11, 0x22]).set 23 0x33) = .error error := by
  refine short_corruption_detected referencePlatform rfl 3 7 1 1 [0x11, 0x22] (by decide)
    (by decide) _ 23 ((agreeOutside_set _ 23 _).mono (by decide)) fun h => ?_
  have hbyte : some (0x33 : UInt8) = some 0x22 := congrArg (fun bytes => bytes[23]?) h
  exact absurd hbyte (by decide)

end StEcu
