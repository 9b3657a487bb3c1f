import StEcu.Foundation.Framing
import StEcu.Protocol.Packet

/-!
# Packet framing

How packets travel as bytes (`src/protocol.rs`): two magic bytes, the payload length, the command,
the payload and a 16-bit checksum.

## Main definitions

* `Cmd.code`, `Cmd.tryFrom`: the command bytes.
* `Packet.toBytes`, `Packet.fromBytes`.
* `packetFraming`: both as a framing of byte streams.

## Main results

* `packet_framing`: a frame is read back whatever follows it, an incomplete frame is waited for,
  only frames are accepted, and the frames of packets are received in order in any chunks.
-/

namespace StEcu

/-- The two bytes that start a frame. -/
def magic : Bytes := [0x53, 0x54]

/-- The largest payload that a frame may have. -/
def maxPayload : ℕ := 8192

/-! ### Command bytes -/

/-- The code of a command on the wire. -/
def Cmd.code : Cmd → UInt8
  | ping => 0x01
  | pong => 0x02
  | getVersion => 0x03
  | versionResponse => 0x04
  | getCapabilities => 0x05
  | capabilities => 0x06
  | getLiveData => 0x07
  | liveData => 0x08
  | readPage => 0x20
  | pageData => 0x21
  | writePage => 0x22
  | burnPage => 0x23
  | getPageDirectory => 0x24
  | pageDirectory => 0x25
  | getTableDirectory => 0x26
  | tableDirectory => 0x27
  | getPinDirectory => 0x28
  | pinDirectory => 0x29
  | getTableMetadata => 0x2A
  | tableMetadata => 0x2B
  | getPageStatuses => 0x2C
  | pageStatuses => 0x2D
  | getNetworkProfile => 0x2E
  | networkProfile => 0x2F
  | readTable => 0x30
  | tableData => 0x31
  | writeTable => 0x32
  | writeCell => 0x33
  | readCurve => 0x34
  | curveData => 0x35
  | writeCurve => 0x36
  | getDtc => 0x40
  | dtcList => 0x41
  | clearDtc => 0x42
  | getSensorRaw => 0x43
  | sensorRaw => 0x44
  | runOutputTest => 0x45
  | getOutputTestDirectory => 0x46
  | outputTestDirectory => 0x47
  | getSensorRawDirectory => 0x48
  | sensorRawDirectory => 0x49
  | getFreezeFrames => 0x4A
  | freezeFrames => 0x4B
  | getTriggerCapture => 0x4C
  | triggerCapture => 0x4D
  | getTriggerDecoderDirectory => 0x4E
  | triggerDecoderDirectory => 0x4F
  | enterBootloader => 0x50
  | flashBlock => 0x51
  | flashBlockAck => 0x52
  | flashVerify => 0x53
  | flashComplete => 0x54
  | getUpdateStatus => 0x55
  | updateStatus => 0x56
  | confirmBootHealthy => 0x57
  | flashResume => 0x58
  | logStart => 0x60
  | logStop => 0x61
  | logStatus => 0x62
  | logStatusResponse => 0x63
  | readLogBlock => 0x64
  | logBlockData => 0x65
  | getLogbookSummary => 0x66
  | logbookSummaryResponse => 0x67
  | resetLogbook => 0x68
  | syncRtc => 0x69
  | getTriggerToothLog => 0x70
  | triggerToothLog => 0x71
  | getCanTemplateDirectory => 0x72
  | canTemplateDirectory => 0x73
  | getCanSignalDirectory => 0x74
  | canSignalDirectory => 0x75
  | getPinAssignments => 0x6A
  | pinAssignments => 0x6B
  | pinAssign => 0x6C
  | ack => 0xA0
  | nack => 0xA1
  | error => 0xFF

/-- The command of a code. -/
def Cmd.tryFrom (value : UInt8) : Except ProtocolError Cmd :=
  match value with
  | 0x01 => .ok .ping
  | 0x02 => .ok .pong
  | 0x03 => .ok .getVersion
  | 0x04 => .ok .versionResponse
  | 0x05 => .ok .getCapabilities
  | 0x06 => .ok .capabilities
  | 0x07 => .ok .getLiveData
  | 0x08 => .ok .liveData
  | 0x20 => .ok .readPage
  | 0x21 => .ok .pageData
  | 0x22 => .ok .writePage
  | 0x23 => .ok .burnPage
  | 0x24 => .ok .getPageDirectory
  | 0x25 => .ok .pageDirectory
  | 0x26 => .ok .getTableDirectory
  | 0x27 => .ok .tableDirectory
  | 0x28 => .ok .getPinDirectory
  | 0x29 => .ok .pinDirectory
  | 0x2A => .ok .getTableMetadata
  | 0x2B => .ok .tableMetadata
  | 0x2C => .ok .getPageStatuses
  | 0x2D => .ok .pageStatuses
  | 0x2E => .ok .getNetworkProfile
  | 0x2F => .ok .networkProfile
  | 0x30 => .ok .readTable
  | 0x31 => .ok .tableData
  | 0x32 => .ok .writeTable
  | 0x33 => .ok .writeCell
  | 0x34 => .ok .readCurve
  | 0x35 => .ok .curveData
  | 0x36 => .ok .writeCurve
  | 0x40 => .ok .getDtc
  | 0x41 => .ok .dtcList
  | 0x42 => .ok .clearDtc
  | 0x43 => .ok .getSensorRaw
  | 0x44 => .ok .sensorRaw
  | 0x45 => .ok .runOutputTest
  | 0x46 => .ok .getOutputTestDirectory
  | 0x47 => .ok .outputTestDirectory
  | 0x48 => .ok .getSensorRawDirectory
  | 0x49 => .ok .sensorRawDirectory
  | 0x4A => .ok .getFreezeFrames
  | 0x4B => .ok .freezeFrames
  | 0x4C => .ok .getTriggerCapture
  | 0x4D => .ok .triggerCapture
  | 0x4E => .ok .getTriggerDecoderDirectory
  | 0x4F => .ok .triggerDecoderDirectory
  | 0x50 => .ok .enterBootloader
  | 0x51 => .ok .flashBlock
  | 0x52 => .ok .flashBlockAck
  | 0x53 => .ok .flashVerify
  | 0x54 => .ok .flashComplete
  | 0x55 => .ok .getUpdateStatus
  | 0x56 => .ok .updateStatus
  | 0x57 => .ok .confirmBootHealthy
  | 0x58 => .ok .flashResume
  | 0x60 => .ok .logStart
  | 0x61 => .ok .logStop
  | 0x62 => .ok .logStatus
  | 0x63 => .ok .logStatusResponse
  | 0x64 => .ok .readLogBlock
  | 0x65 => .ok .logBlockData
  | 0x66 => .ok .getLogbookSummary
  | 0x67 => .ok .logbookSummaryResponse
  | 0x68 => .ok .resetLogbook
  | 0x69 => .ok .syncRtc
  | 0x70 => .ok .getTriggerToothLog
  | 0x71 => .ok .triggerToothLog
  | 0x72 => .ok .getCanTemplateDirectory
  | 0x73 => .ok .canTemplateDirectory
  | 0x74 => .ok .getCanSignalDirectory
  | 0x75 => .ok .canSignalDirectory
  | 0x6A => .ok .getPinAssignments
  | 0x6B => .ok .pinAssignments
  | 0x6C => .ok .pinAssign
  | 0xA0 => .ok .ack
  | 0xA1 => .ok .nack
  | 0xFF => .ok .error
  | _ => .error (.unknownCmd value)

/-! ### Frames -/

variable (P : Platform)

/-- The frame of a packet: magic, length, command, payload, and the checksum behind them. -/
def Packet.toBytes (packet : Packet) : Bytes :=
  let len := packet.payload.length
  let body := [UInt8.ofNat ((len >>> 8) &&& 0xFF), UInt8.ofNat (len &&& 0xFF), packet.cmd.code] ++
    packet.payload
  let crc := P.crc16 body
  magic ++ body ++ [((crc >>> 8) &&& 0xFF).toUInt8, (crc &&& 0xFF).toUInt8]

/-- The packet at the front of some bytes and the length of its frame, or nothing as long as the
frame is not complete. -/
def Packet.fromBytes (data : Bytes) : Except ProtocolError (Option (Packet × ℕ)) :=
  if data.length < 7 then .ok none
  else if data.getD 0 0 ≠ 0x53 ∨ data.getD 1 0 ≠ 0x54 then .error .badMagic
  else
    let len := ((data.getD 2 0).toNat <<< 8) ||| (data.getD 3 0).toNat
    if len > maxPayload then .error (.tooLarge len)
    else
      let total := 5 + len + 2
      if data.length < total then .ok none
      else
        let expected := P.crc16 (slice data 2 (total - 2))
        let actual := ((data.getD (total - 2) 0).toUInt16 <<< 8) |||
          (data.getD (total - 1) 0).toUInt16
        if expected ≠ actual then .error (.crcFail expected actual)
        else (Cmd.tryFrom (data.getD 4 0)).map fun cmd =>
          some (⟨cmd, slice data 5 (total - 2)⟩, total)

/-! ### The bytes of a frame -/

variable {P} {packet : Packet} {data : Bytes} {n : ℕ}

/-- The two bytes of a payload length that a frame can hold. -/
theorem high_low_of_length (h : n < 65536) :
    (UInt8.ofNat ((n >>> 8) &&& 0xFF)).toNat * 256 + (UInt8.ofNat (n &&& 0xFF)).toNat = n := by
  simp only [UInt8.toNat_ofNat', and_byte, Nat.shiftRight_eq_div_pow]
  omega

theorem eq_high_low {a b : UInt8} (h : a.toNat * 256 + b.toNat = n) :
    a = UInt8.ofNat ((n >>> 8) &&& 0xFF) ∧ b = UInt8.ofNat (n &&& 0xFF) := by
  have ha := a.toNat_lt
  have hb := b.toNat_lt
  constructor <;>
  · apply UInt8.toNat.inj
    simp only [UInt8.toNat_ofNat', and_byte, Nat.shiftRight_eq_div_pow]
    omega

/-- A checksum is joined from its two bytes. -/
theorem join_high_low (crc : UInt16) :
    ((((crc >>> 8) &&& 0xFF).toUInt8).toUInt16 <<< 8) ||| ((crc &&& 0xFF).toUInt8).toUInt16 =
      crc := by
  apply UInt16.toNat.inj
  rw [toNat_shiftLeft_or_byte, toNat_high_byte, toNat_low_byte]
  omega

theorem high_low_join (a b : UInt8) :
    (((((a.toUInt16 <<< 8) ||| b.toUInt16) >>> 8) &&& 0xFF).toUInt8 = a) ∧
      (((a.toUInt16 <<< 8) ||| b.toUInt16) &&& 0xFF).toUInt8 = b := by
  have ha := a.toNat_lt
  have hb := b.toNat_lt
  constructor
  · apply UInt8.toNat.inj
    rw [toNat_high_byte, toNat_shiftLeft_or_byte]
    omega
  · apply UInt8.toNat.inj
    rw [toNat_low_byte, toNat_shiftLeft_or_byte]
    omega

theorem Cmd.tryFrom_code (cmd : Cmd) : Cmd.tryFrom cmd.code = .ok cmd := by
  cases cmd <;> rfl

theorem Cmd.code_of_tryFrom {value : UInt8} {cmd : Cmd} (h : Cmd.tryFrom value = .ok cmd) :
    cmd.code = value := by
  unfold Cmd.tryFrom at h
  split at h <;> cases h <;> rfl

theorem Packet.length_toBytes (packet : Packet) :
    (packet.toBytes P).length = 7 + packet.payload.length := by
  simp only [toBytes, magic, List.length_append, List.length_cons, List.length_nil]
  omega

/-- What is made of bytes that start as a frame does but do not hold all of it. -/
theorem Packet.fromBytes_header {l₀ l₁ code : UInt8} {tail : Bytes}
    (hl : l₀.toNat * 256 + l₁.toNat = n) (hn : n ≤ maxPayload) (htail : tail.length < n + 2) :
    fromBytes P (0x53 :: 0x54 :: l₀ :: l₁ :: code :: tail) = .ok none := by
  simp only [fromBytes, List.length_cons, List.getD_cons_zero, List.getD_cons_succ,
    shiftLeft_or_byte, hl]
  by_cases hshort : tail.length + 1 + 1 + 1 + 1 + 1 < 7
  · rw [if_pos hshort]
  · rw [if_neg hshort, if_neg (by simp), if_neg (Nat.not_lt.mpr hn), if_pos (by omega)]

/-- What is made of bytes that hold a whole frame. -/
theorem Packet.fromBytes_frame {l₀ l₁ code c₀ c₁ : UInt8} {payload : Bytes} (rest : Bytes)
    (hl : l₀.toNat * 256 + l₁.toNat = payload.length) (hn : payload.length ≤ maxPayload) :
    fromBytes P (0x53 :: 0x54 :: l₀ :: l₁ :: code :: (payload ++ c₀ :: c₁ :: rest)) =
      if P.crc16 (l₀ :: l₁ :: code :: payload) ≠ (c₀.toUInt16 <<< 8) ||| c₁.toUInt16 then
        .error (.crcFail (P.crc16 (l₀ :: l₁ :: code :: payload))
          ((c₀.toUInt16 <<< 8) ||| c₁.toUInt16))
      else (Cmd.tryFrom code).map fun cmd => some (⟨cmd, payload⟩, 7 + payload.length) := by
  generalize hdata : 0x53 :: 0x54 :: l₀ :: l₁ :: code :: (payload ++ c₀ :: c₁ :: rest) = data
  have hlen : data.length = 7 + payload.length + rest.length := by
    simp only [← hdata, List.length_cons, List.length_append]
    omega
  have htotal : 5 + payload.length + 2 - 2 = payload.length + 5 := by omega
  have hlast : 5 + payload.length + 2 - 1 = payload.length + 1 + 5 := by omega
  have hbody : slice data 2 (payload.length + 5) = l₀ :: l₁ :: code :: payload := by
    simp [← hdata, slice]
  have hpayload : slice data 5 (payload.length + 5) = payload := by simp [← hdata, slice]
  have hc₀ : data.getD (payload.length + 5) 0 = c₀ := by simp [← hdata]
  have hc₁ : data.getD (payload.length + 1 + 5) 0 = c₁ := by simp [← hdata]
  have h0 : data.getD 0 0 = 0x53 := by rw [← hdata]; rfl
  have h1 : data.getD 1 0 = 0x54 := by rw [← hdata]; rfl
  have h2 : data.getD 2 0 = l₀ := by rw [← hdata]; rfl
  have h3 : data.getD 3 0 = l₁ := by rw [← hdata]; rfl
  have h4 : data.getD 4 0 = code := by rw [← hdata]; rfl
  rw [fromBytes, if_neg (by omega), h0, h1, if_neg (by simp)]
  simp only [h2, h3, h4, shiftLeft_or_byte, hl, htotal, hlast, hbody, hpayload, hc₀, hc₁]
  rw [if_neg (Nat.not_lt.mpr hn), if_neg (by omega), show 5 + payload.length + 2 =
    7 + payload.length by omega]

theorem exists_header {data : Bytes} (h : ¬ data.length < 7) :
    ∃ m₀ m₁ l₀ l₁ code tail, data = m₀ :: m₁ :: l₀ :: l₁ :: code :: tail := by
  match data, h with
  | m₀ :: m₁ :: l₀ :: l₁ :: code :: tail, _ => exact ⟨m₀, m₁, l₀, l₁, code, tail, rfl⟩
  | [], h | [_], h | [_, _], h | [_, _, _], h | [_, _, _, _], h => exact absurd (by simp) h

/-! ### Both directions -/

theorem Packet.toBytes_eq (packet : Packet) :
    ∃ l₀ l₁ c₀ c₁ : UInt8, packet.toBytes P =
        0x53 :: 0x54 :: l₀ :: l₁ :: packet.cmd.code :: (packet.payload ++ [c₀, c₁]) ∧
      (packet.payload.length ≤ maxPayload → l₀.toNat * 256 + l₁.toNat = packet.payload.length) ∧
      (c₀.toUInt16 <<< 8) ||| c₁.toUInt16 =
        P.crc16 (l₀ :: l₁ :: packet.cmd.code :: packet.payload) :=
  ⟨_, _, _, _, rfl, fun h => high_low_of_length (Nat.lt_of_le_of_lt h (by decide)),
    join_high_low _⟩

/-- A frame is read back, whatever follows it. -/
theorem Packet.fromBytes_toBytes (h : packet.payload.length ≤ maxPayload) (rest : Bytes) :
    fromBytes P (packet.toBytes P ++ rest) =
      .ok (some (packet, 7 + packet.payload.length)) := by
  obtain ⟨l₀, l₁, c₀, c₁, hbytes, hl, hcrc⟩ := packet.toBytes_eq (P := P)
  rw [hbytes]
  simp only [List.cons_append, List.append_assoc, List.nil_append]
  rw [fromBytes_frame rest (hl h) h, if_neg (not_not.mpr hcrc.symm), Cmd.tryFrom_code]
  rfl

/-- A frame that has not arrived as a whole is waited for. -/
theorem Packet.fromBytes_prefix (h : packet.payload.length ≤ maxPayload) {front : Bytes}
    (hfront : front <+: packet.toBytes P) (hlt : front.length < (packet.toBytes P).length) :
    fromBytes P front = .ok none := by
  obtain ⟨l₀, l₁, c₀, c₁, hbytes, hl, -⟩ := packet.toBytes_eq (P := P)
  rw [Packet.length_toBytes] at hlt
  by_cases hshort : front.length < 7
  · rw [fromBytes, if_pos hshort]
  · obtain ⟨m₀, m₁, k₀, k₁, code, tail, rfl⟩ := exists_header hshort
    rw [hbytes] at hfront
    simp only [List.cons_prefix_cons] at hfront
    obtain ⟨rfl, rfl, rfl, rfl, -, -⟩ := hfront
    simp only [List.length_cons] at hlt
    exact fromBytes_header (hl h) h (by omega)

/-- Bytes from which a packet is read start with the bytes of some frame. -/
theorem Packet.exists_frame_of_fromBytes (h : fromBytes P data = .ok (some (packet, n))) :
    ∃ (l₀ l₁ code c₀ c₁ : UInt8) (payload rest : Bytes),
      data = 0x53 :: 0x54 :: l₀ :: l₁ :: code :: (payload ++ c₀ :: c₁ :: rest) ∧
      l₀.toNat * 256 + l₁.toNat = payload.length ∧ payload.length ≤ maxPayload := by
  have hshort : ¬ data.length < 7 := by
    intro hshort
    rw [fromBytes, if_pos hshort] at h
    cases h
  obtain ⟨m₀, m₁, l₀, l₁, code, tail, rfl⟩ := exists_header hshort
  by_cases hmagic : m₀ ≠ 0x53 ∨ m₁ ≠ 0x54
  · simp only [fromBytes, List.getD_cons_zero, List.getD_cons_succ] at h
    rw [if_neg hshort, if_pos hmagic] at h
    cases h
  · obtain ⟨rfl, rfl⟩ : m₀ = 0x53 ∧ m₁ = 0x54 := by simpa using hmagic
    by_cases hn : l₀.toNat * 256 + l₁.toNat ≤ maxPayload
    · by_cases htail : tail.length < l₀.toNat * 256 + l₁.toNat + 2
      · rw [fromBytes_header rfl hn htail] at h
        cases h
      · obtain ⟨c₀, c₁, rest, hrest⟩ :
            ∃ c₀ c₁ rest, tail.drop (l₀.toNat * 256 + l₁.toNat) = c₀ :: c₁ :: rest := by
          have hdrop : 2 ≤ (tail.drop (l₀.toNat * 256 + l₁.toNat)).length := by
            rw [List.length_drop]
            omega
          match tail.drop (l₀.toNat * 256 + l₁.toNat), hdrop with
          | c₀ :: c₁ :: rest, _ => exact ⟨c₀, c₁, rest, rfl⟩
        have hlen : (tail.take (l₀.toNat * 256 + l₁.toNat)).length =
            l₀.toNat * 256 + l₁.toNat := by
          rw [List.length_take]
          omega
        refine ⟨l₀, l₁, code, c₀, c₁, tail.take (l₀.toNat * 256 + l₁.toNat), rest, ?_, hlen.symm,
          hlen.trans_le hn⟩
        rw [← hrest, List.take_append_drop]
    · simp only [fromBytes, List.getD_cons_zero, List.getD_cons_succ, shiftLeft_or_byte] at h
      rw [if_neg hshort, if_neg (by simp), if_pos (Nat.lt_of_not_le hn)] at h
      cases h

/-- Only frames are accepted. -/
theorem Packet.toBytes_of_fromBytes (h : fromBytes P data = .ok (some (packet, n))) :
    n ≤ data.length ∧ packet.toBytes P = data.take n := by
  obtain ⟨l₀, l₁, code, c₀, c₁, payload, rest, rfl, hl, hn⟩ := exists_frame_of_fromBytes h
  rw [fromBytes_frame rest hl hn] at h
  split at h
  · cases h
  next hcrc =>
  rw [not_not] at hcrc
  cases hcmd : Cmd.tryFrom code with
  | error e =>
    rw [hcmd] at h
    cases h
  | ok cmd =>
    rw [hcmd] at h
    obtain ⟨rfl, rfl⟩ : (⟨cmd, payload⟩ : Packet) = packet ∧ 7 + payload.length = n := by
      simpa [Except.map] using h
    obtain ⟨hl₀, hl₁⟩ := eq_high_low hl
    obtain ⟨hc₀, hc₁⟩ := high_low_join c₀ c₁
    have hcode := Cmd.code_of_tryFrom hcmd
    subst hcode
    constructor
    · simp only [List.length_cons, List.length_append]
      omega
    · simp only [toBytes, magic, ← hl₀, ← hl₁, List.cons_append, List.nil_append, hcrc, hc₀, hc₁]
      have htake : 7 + payload.length = payload.length + 2 + 5 := by omega
      rw [htake]
      simp only [List.take_succ_cons, List.take_length_add_append, List.take_zero]

/-! ### Streams of packets -/

/-- The frames of packets on a byte stream. -/
def packetFraming (P : Platform) : Framing UInt8 ProtocolError Packet where
  encode := Packet.toBytes P
  decode := Packet.fromBytes P

theorem packetFraming_lawful :
    (packetFraming P).Lawful fun packet => packet.payload.length ≤ maxPayload where
  encode_ne_nil packet := List.ne_nil_of_length_pos (by
    have hlen := packet.length_toBytes (P := P)
    change 0 < (packet.toBytes P).length
    omega)
  decode_encode packet rest h := by
    change Packet.fromBytes P (packet.toBytes P ++ rest) = _
    rw [Packet.fromBytes_toBytes h]
    exact congrArg (fun k => Except.ok (some (packet, k))) packet.length_toBytes.symm
  decode_prefix packet front h hfront hlt := Packet.fromBytes_prefix h hfront hlt
  decode_nil := rfl

/-- **Packet framing.** For every checksum function: a frame is read back whatever follows it, and
a strict prefix of a frame is waited for; only frames are accepted, and the length given back is the
frame's; and the frames of packets, delivered in chunks of any sizes, are received as the packets
that were sent, in order. -/
theorem packet_framing (P : Platform) :
    (∀ (cmd : Cmd) (payload rest : Bytes), payload.length ≤ maxPayload →
      Packet.fromBytes P ((⟨cmd, payload⟩ : Packet).toBytes P ++ rest) =
        .ok (some (⟨cmd, payload⟩, 7 + payload.length))) ∧
    (∀ (cmd : Cmd) (payload front : Bytes), payload.length ≤ maxPayload →
      front <+: (⟨cmd, payload⟩ : Packet).toBytes P →
      front ≠ (⟨cmd, payload⟩ : Packet).toBytes P → Packet.fromBytes P front = .ok none) ∧
    (∀ (data : Bytes) (packet : Packet) (n : ℕ),
      Packet.fromBytes P data = .ok (some (packet, n)) →
        n ≤ data.length ∧ packet.toBytes P = data.take n) ∧
    ∀ (packets : List Packet) (chunks : List Bytes),
      (∀ packet ∈ packets, packet.payload.length ≤ maxPayload) →
      chunks.flatten = packets.flatMap (Packet.toBytes P) →
        (packetFraming P).receiveAll [] chunks = .ok (packets, []) := by
  refine ⟨fun cmd payload rest h => Packet.fromBytes_toBytes h rest,
    fun cmd payload front h hfront hne => ?_, fun _ _ _ => Packet.toBytes_of_fromBytes,
    fun packets chunks h heq => packetFraming_lawful.receiveAll_eq h heq⟩
  have hlt : front.length < ((⟨cmd, payload⟩ : Packet).toBytes P).length :=
    Nat.lt_of_le_of_ne hfront.length_le fun hlen => hne (hfront.eq_of_length hlen)
  exact Packet.fromBytes_prefix h hfront hlt

end StEcu
