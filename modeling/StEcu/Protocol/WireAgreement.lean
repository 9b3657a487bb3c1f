import StEcu.Protocol.WireSafety

/-!
# The decoders of the runtime

The runtime reads the payloads of its requests by decoders that take the bytes apart without
indexing. On every payload they give what the decoders byte by byte give, so that what is proved of
the latter holds of the runtime.

## Main results

* `Wire.agrees_decodePagePayload`, `Wire.agrees_decodePinAssignmentsPayload`,
  `Wire.agrees_decodeRawTablePayload`, …: one for each decoder of the runtime.
-/

namespace StEcu.Wire

open ByteReader hiding slice

variable {α β : Type} {P : Platform}

/-- A decoder byte by byte gives what a decoder that indexes nothing gives. -/
def Agrees (decode : Reader α) (total : Bytes → Except ProtocolError α) : Prop :=
  ∀ payload, decode.run payload = (total payload).mapError .rejected

/-- A payload that the one accepts is accepted by the other. -/
theorem Agrees.run_eq_ok {decode : Reader α} {total : Bytes → Except ProtocolError α}
    (h : Agrees decode total) {payload : Bytes} {x : α} (hok : total payload = .ok x) :
    decode.run payload = .ok x := by
  rw [h payload, hok]
  rfl

theorem agrees_decodePageRequest : Agrees decodePageRequest StEcu.decodePageRequest := by
  intro payload
  match payload with
  | [] => rfl
  | [pageId] => rfl
  | _ :: _ :: rest =>
    simp [run, decodePageRequest, read_bind, lengthIs, StEcu.decodePageRequest, Except.mapError]

theorem agrees_decodeFlashResumeRequestPayload :
    Agrees decodeFlashResumeRequestPayload StEcu.decodeFlashResumeRequestPayload := by
  intro payload
  match payload with
  | [] | [_] | [_, _] | [_, _, _] | [_, _, _, _] => rfl
  | _ :: _ :: _ :: _ :: _ :: rest =>
    simp [run, decodeFlashResumeRequestPayload, read_bind, lengthIs, hasLength,
      StEcu.decodeFlashResumeRequestPayload, Except.mapError]

theorem agrees_decodeSyncRtcPayload : Agrees decodeSyncRtcPayload StEcu.decodeSyncRtcPayload := by
  intro payload
  by_cases hlen : payload.length = 8
  · have htake : payload.take 8 = payload := List.take_of_length_le hlen.le
    simp [run, decodeSyncRtcPayload, read_bind, read_pure, lengthIs, ByteReader.slice, hlen,
      htake, StEcu.decodeSyncRtcPayload, Except.mapError]
  · simp [run, decodeSyncRtcPayload, read_bind, lengthIs, hlen, StEcu.decodeSyncRtcPayload,
      Except.mapError]

/-- The end of a payload whose data is checked, read behind its `front`: the length of the whole
payload, the checksum and the data. -/
theorem read_checkedEnd {data : Bytes} {c₀ c₁ c₂ c₃ : UInt8} (size : ℕ)
    (make : UInt32 → Bytes → α) (front payload : Bytes)
    (hpayload : payload = front ++ c₀ :: c₁ :: c₂ :: c₃ :: data) :
    (lengthIs size malformed >>= fun _ => u32 >>= fun crc => rest >>= fun data =>
      if crc ≠ P.crc32 data then reject malformed else return make crc data : Reader α).read payload
        front.length =
      if payload.length ≠ size then .error (.rejected malformed)
      else if u32OfBe [c₀, c₁, c₂, c₃] ≠ P.crc32 data then .error (.rejected malformed)
      else .ok (make (u32OfBe [c₀, c₁, c₂, c₃]) data, payload.length) := by
  subst hpayload
  by_cases hsize : (front ++ c₀ :: c₁ :: c₂ :: c₃ :: data).length ≠ size
  · rw [read_bind_error (read_lengthIs.trans (if_pos hsize)), if_pos hsize]
  · have hcrc : Reads (u32 : Reader UInt32) [c₀, c₁, c₂, c₃] data (u32OfBe [c₀, c₁, c₂, c₃]) :=
      .byte <| .byte <| .byte <| .byte <| .pure rfl
    have hdata : (rest : Reader Bytes).read (front ++ ([c₀, c₁, c₂, c₃] ++ data))
        (front.length + 4) = .ok (data, (front ++ ([c₀, c₁, c₂, c₃] ++ data)).length) := by
      have hinside : front.length + 4 ≤ (front ++ ([c₀, c₁, c₂, c₃] ++ data)).length := by simp
      simp only [rest, if_pos hinside]
      simp
    rw [if_neg hsize, read_bind_ok (read_lengthIs.trans (if_neg hsize))]
    refine (read_bind_ok (hcrc front)).trans ((read_bind_ok hdata).trans ?_)
    split_ifs <;> rfl

theorem agrees_decodePagePayload : Agrees (decodePagePayload P) (StEcu.decodePagePayload P) := by
  intro payload
  by_cases hlen : payload.length < 7
  · have hread : (decodePagePayload P).read payload 0 = .error (.rejected malformed) :=
      read_bind_error (read_require.trans (if_pos (by omega)))
    rw [run, hread, StEcu.decodePagePayload, if_pos hlen]
    rfl
  obtain ⟨pageId, l₀, l₁, c₀, c₁, c₂, c₃, data, rfl⟩ : ∃ pageId l₀ l₁ c₀ c₁ c₂ c₃ data,
      payload = pageId :: l₀ :: l₁ :: c₀ :: c₁ :: c₂ :: c₃ :: data := by
    rcases payload with
      - | ⟨pageId, - | ⟨l₀, - | ⟨l₁, - | ⟨c₀, - | ⟨c₁, - | ⟨c₂, - | ⟨c₃, data⟩⟩⟩⟩⟩⟩⟩
    iterate 7 exact absurd (by simp) hlen
    exact ⟨pageId, l₀, l₁, c₀, c₁, c₂, c₃, data, rfl⟩
  set payload := pageId :: l₀ :: l₁ :: c₀ :: c₁ :: c₂ :: c₃ :: data with hpayload
  have htotal : StEcu.decodePagePayload P payload =
      if payload.length ≠ (u16OfBe [l₀, l₁]).toNat + 7 then .error .malformedPayload
      else if u32OfBe [c₀, c₁, c₂, c₃] ≠ P.crc32 data then .error .malformedPayload
      else .ok ⟨pageId, u32OfBe [c₀, c₁, c₂, c₃], data⟩ := by
    rw [StEcu.decodePagePayload, if_neg hlen]
    rfl
  have hrequire : (require 7 malformed).read payload 0 = .ok ((), 0) :=
    read_require.trans (if_neg (by omega))
  have hread : (decodePagePayload P).read payload 0 = _ :=
    (read_bind_ok hrequire).trans <| (read_bind_ok rfl).trans <| (read_bind_ok rfl).trans <|
    read_checkedEnd _ (DecodedPagePayload.mk pageId) [pageId, l₀, l₁] payload hpayload
  rw [htotal, run, hread]
  split_ifs <;> rfl

/-! ### Strings and pin assignments -/

/-- The reader does at its position what a parser does on the bytes left. -/
structure Follows (m : Reader α) (parse : Bytes → Option (α × Bytes)) : Prop where
  of_none : ∀ {bs} pre, parse bs = none →
    m.read (pre ++ bs) pre.length = .error (.rejected malformed)
  of_some : ∀ {bs a rest} pre, parse bs = some (a, rest) →
    ∃ taken, bs = taken ++ rest ∧ m.read (pre ++ bs) pre.length = .ok (a, (pre ++ taken).length)

theorem Follows.pure (a : α) : Follows (Pure.pure a) fun bs => some (a, bs) where
  of_none _ h := nomatch h
  of_some _ h := by
    cases h
    exact ⟨[], rfl, by simp [read_pure]⟩

theorem Follows.bind {m : Reader α} {parse : Bytes → Option (α × Bytes)} {f : α → Reader β}
    {parse' : α → Bytes → Option (β × Bytes)} (h : Follows m parse)
    (hf : ∀ a, Follows (f a) (parse' a)) :
    Follows (m >>= f) fun bs => (parse bs).bind fun r => parse' r.1 r.2 where
  of_none {bs} pre hnone := by
    cases hparse : parse bs with
    | none => exact read_bind_error (h.of_none pre hparse)
    | some r =>
      obtain ⟨taken, rfl, hread⟩ := h.of_some (a := r.1) pre hparse
      rw [hparse] at hnone
      have hfa := (hf r.1).of_none (pre ++ taken) hnone
      rw [read_bind_ok hread, ← List.append_assoc, hfa]
  of_some {bs b rest'} pre hsome := by
    obtain ⟨r, hparse, hparse'⟩ := Option.bind_eq_some_iff.mp hsome
    obtain ⟨taken, rfl, hread⟩ := h.of_some (a := r.1) pre hparse
    obtain ⟨taken', hrest, hread'⟩ := (hf r.1).of_some (pre ++ taken) hparse'
    refine ⟨taken ++ taken', by rw [hrest, List.append_assoc], ?_⟩
    rw [read_bind_ok hread, ← List.append_assoc, hread', List.append_assoc]

theorem Follows.congr {m : Reader α} {parse parse' : Bytes → Option (α × Bytes)}
    (h : Follows m parse) (heq : ∀ bs, parse bs = parse' bs) : Follows m parse' := by
  obtain rfl : parse = parse' := funext heq
  exact h

theorem Follows.ofOption (o : Option α) :
    Follows (ByteReader.ofOption malformed o) fun bs => o.map fun a => (a, bs) := by
  cases o with
  | none => exact ⟨fun _ _ => rfl, fun _ h => nomatch h⟩
  | some a => exact .pure a

theorem Follows.get :
    Follows (ByteReader.get malformed) fun bs => bs.head?.map fun b => (b, bs.tail) where
  of_none {bs} pre h := by
    obtain rfl : bs = [] := by simpa using h
    exact read_get_of_le (by simp)
  of_some {bs b rest} pre h := by
    obtain ⟨b, hb, h⟩ := Option.map_eq_some_iff.mp h
    cases h
    match bs, hb with
    | b :: rest, rfl =>
      refine ⟨[b], rfl, ?_⟩
      rw [read_get (by simp)]
      simp

/-- A whole payload, of which nothing may be left. -/
theorem Follows.run {m : Reader α} {parse : Bytes → Option (α × Bytes)} (h : Follows m parse)
    (payload : Bytes) : (m >>= fun a => atEnd malformed >>= fun _ => Pure.pure a).run payload =
      match parse payload with
      | some (a, []) => .ok a
      | _ => .error (.rejected malformed) := by
  cases hparse : parse payload with
  | none =>
    have hread := h.of_none [] hparse
    rw [List.nil_append, List.length_nil] at hread
    rw [ByteReader.run, read_bind_error hread]
  | some r =>
    obtain ⟨a, rest⟩ := r
    obtain ⟨taken, rfl, hread⟩ := h.of_some [] hparse
    rw [List.nil_append, List.nil_append, List.length_nil] at hread
    cases rest with
    | nil =>
      have hend : ¬ taken.length ≠ (taken ++ []).length := by simp
      rw [ByteReader.run, read_bind_ok hread, read_bind_ok (read_atEnd.trans (if_neg hend))]
      rfl
    | cons b rest =>
      have hend : taken.length ≠ (taken ++ b :: rest).length := by simp
      rw [ByteReader.run, read_bind_ok hread, read_bind_error (read_atEnd.trans (if_pos hend))]

theorem readString_eq_some_iff {bs rest : Bytes} {value : String} :
    StEcu.readString bs = some (value, rest) ↔
      bs = pushString value ++ rest ∧ (utf8 value).length ≤ 255 := by
  constructor
  · intro h
    match bs, h with
    | len :: bs, h =>
      rw [StEcu.readString] at h
      split at h
      · cases h
      next hlen =>
      obtain ⟨value, hutf, h⟩ := Option.map_eq_some_iff.mp h
      cases h
      have hvalue : (utf8 value).length = len.toNat := by
        rw [utf8_of_fromUtf8 hutf, List.length_take]
        omega
      have hbyte := len.toNat_lt
      refine ⟨?_, by omega⟩
      rw [pushString, hvalue, UInt8.ofNat_toNat, utf8_of_fromUtf8 hutf, List.cons_append,
        List.take_append_drop]
  · rintro ⟨rfl, hshort⟩
    have hlen : (UInt8.ofNat (utf8 value).length).toNat = (utf8 value).length := by
      rw [UInt8.toNat_ofNat']
      omega
    simp [StEcu.readString, pushString, hlen]

theorem follows_readString : Follows readString StEcu.readString where
  of_none {bs} pre h := by
    obtain hread | ⟨value, q', -, -, hshort, hdrop⟩ := read_readString (pre ++ bs) pre.length
    · exact hread
    · rw [List.drop_left] at hdrop
      rw [readString_eq_some_iff.mpr ⟨hdrop, hshort⟩] at h
      cases h
  of_some {bs value rest} pre h := by
    obtain ⟨rfl, hshort⟩ := readString_eq_some_iff.mp h
    exact ⟨pushString value, rfl, by rw [reads_readString hshort rest pre, List.length_append]⟩

theorem follows_pinAssignments (count : ℕ) :
    Follows (times count pinAssignment) (readPinAssignments count) := by
  induction count with
  | zero => exact .pure []
  | succ count ih =>
    have hentry := Follows.get.bind fun functionCode =>
      (Follows.ofOption (EcuFunction.ofCode functionCode)).bind fun function =>
      follows_readString.bind fun pinId => follows_readString.bind fun pinLabel =>
      Follows.pure (⟨function, pinId, pinLabel⟩ : DecodedPinAssignment)
    have htimes := hentry.bind fun assignment =>
      ih.bind fun assignments => Follows.pure (assignment :: assignments)
    refine htimes.congr fun bs => ?_
    cases bs with
    | nil => rfl
    | cons functionCode bs =>
      simp only [readPinAssignments, List.head?_cons, List.tail_cons, Option.map_some,
        Option.bind_some]
      cases EcuFunction.ofCode functionCode with
      | none => rfl
      | some function =>
        cases hpin : StEcu.readString bs with
        | none => simp [hpin]
        | some pin =>
          cases hlabel : StEcu.readString pin.2 with
          | none => simp [hpin, hlabel]
          | some label =>
            cases hrest : readPinAssignments count label.2 <;> simp [hpin, hlabel, hrest]

theorem agrees_decodePinAssignmentsPayload :
    Agrees decodePinAssignmentsPayload StEcu.decodePinAssignmentsPayload := by
  intro payload
  have hrun := (Follows.get.bind fun count => follows_pinAssignments count.toNat).run payload
  rw [ByteReader.bind_assoc] at hrun
  refine Eq.trans hrun ?_
  cases payload with
  | nil => rfl
  | cons count body =>
    simp only [List.head?_cons, Option.map_some, Option.bind_some, List.tail_cons,
      StEcu.decodePinAssignmentsPayload]
    rcases readPinAssignments count.toNat body with - | ⟨assignments, - | ⟨b, rest⟩⟩ <;> rfl

/-! ### Tables -/

/-- Words whose bytes are there are read as from the bytes left. -/
theorem read_times_u16 (count : ℕ) (pre bs : Bytes) (hlen : count * 2 ≤ bs.length) :
    (times count u16 : Reader _).read (pre ++ bs) pre.length =
        .ok ((readWords count bs).1, pre.length + count * 2) ∧
      (readWords count bs).2 = bs.drop (count * 2) := by
  induction count generalizing pre bs with
  | zero => exact ⟨rfl, rfl⟩
  | succ count ih =>
    match bs, hlen with
    | [], h => simp at h
    | [_], h =>
      simp only [List.length_singleton] at h
      omega
    | b₀ :: b₁ :: bs, hlen =>
      simp only [List.length_cons] at hlen
      obtain ⟨hread, hdrop⟩ := ih (pre ++ [b₀, b₁]) bs (by omega)
      have hword : Reads (u16 : Reader UInt16) [b₀, b₁] bs (u16OfBe [b₀, b₁]) :=
        .byte <| .byte <| .pure rfl
      have hmul : (count + 1) * 2 = count * 2 + 1 + 1 := by omega
      rw [List.append_assoc, List.length_append] at hread
      constructor
      · refine (read_bind_ok (hword pre)).trans ((read_bind_ok hread).trans ?_)
        rw [read_pure, hmul]
        simp [readWords]
        omega
      · rw [hmul, List.drop_succ_cons, List.drop_succ_cons, ← hdrop]
        rfl

/-- The same from behind words already read. -/
theorem read_times_u16_drop (count k : ℕ) (pre bs : Bytes) (hlen : k + count * 2 ≤ bs.length) :
    (times count u16 : Reader _).read (pre ++ bs) (pre.length + k) =
      .ok ((readWords count (bs.drop k)).1, pre.length + (k + count * 2)) := by
  have hread := (read_times_u16 count (pre ++ bs.take k) (bs.drop k)
    (by rw [List.length_drop]; omega)).1
  have hk : (bs.take k).length = k := by
    rw [List.length_take]
    omega
  rwa [List.append_assoc, List.take_append_drop, List.length_append, hk, Nat.add_assoc] at hread

theorem agrees_decodeRawTablePayload :
    Agrees decodeRawTablePayload StEcu.decodeRawTablePayload := by
  intro payload
  match payload with
  | [] | [_] | [_, _] => rfl
  | tableId :: xCount :: yCount :: body =>
    have hrequire : (require 3 malformed).read (tableId :: xCount :: yCount :: body) 0 =
        .ok ((), 0) := read_require.trans (if_neg (by simp))
    have hids : (tableId :: xCount :: yCount :: body).length ≠
          3 + (xCount.toNat + yCount.toNat + xCount.toNat * yCount.toNat) * 2 ↔
        body.length ≠ (xCount.toNat + yCount.toNat + xCount.toNat * yCount.toNat) * 2 := by
      simp only [List.length_cons]
      omega
    rw [StEcu.decodeRawTablePayload]
    simp only [hids]
    by_cases hlen : body.length ≠
        (xCount.toNat + yCount.toNat + xCount.toNat * yCount.toNat) * 2
    · have hread : decodeRawTablePayload.read (tableId :: xCount :: yCount :: body) 0 =
          .error (.rejected malformed) :=
        (read_bind_ok hrequire).trans <| (read_bind_ok rfl).trans <| (read_bind_ok rfl).trans <|
        (read_bind_ok rfl).trans <| read_bind_error (read_lengthIs.trans (if_pos (hids.mpr hlen)))
      rw [run, hread, if_pos hlen]
      rfl
    · obtain ⟨hx, hxs⟩ := read_times_u16 xCount.toNat [tableId, xCount, yCount] body (by omega)
      have hy := read_times_u16_drop yCount.toNat (xCount.toNat * 2) [tableId, xCount, yCount] body
        (by omega)
      have hys := (read_times_u16 yCount.toNat [] (body.drop (xCount.toNat * 2))
        (by rw [List.length_drop]; omega)).2
      have hdata := read_times_u16_drop (xCount.toNat * yCount.toNat)
        (xCount.toNat * 2 + yCount.toNat * 2) [tableId, xCount, yCount] body (by omega)
      have hread : decodeRawTablePayload.read (tableId :: xCount :: yCount :: body) 0 =
          .ok (⟨tableId, xCount, yCount, (readWords xCount.toNat body).1,
            (readWords yCount.toNat (body.drop (xCount.toNat * 2))).1,
            (readWords (xCount.toNat * yCount.toNat)
              (body.drop (xCount.toNat * 2 + yCount.toNat * 2))).1⟩, _) :=
        (read_bind_ok hrequire).trans <| (read_bind_ok rfl).trans <| (read_bind_ok rfl).trans <|
        (read_bind_ok rfl).trans <|
        (read_bind_ok (read_lengthIs.trans (if_neg (mt hids.mp hlen)))).trans <|
        (read_bind_ok hx).trans <| (read_bind_ok hy).trans <| (read_bind_ok hdata).trans rfl
      rw [List.drop_drop] at hys
      rw [run, hread, if_neg hlen, ← hys, ← hxs]
      rfl

end StEcu.Wire
