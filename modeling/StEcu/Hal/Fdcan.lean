import StEcu.Foundation.BigEndian
import StEcu.Hal.Common

/-!
# Packets over CAN-FD

The transmit queue of the CAN-FD controller (`H743Fdcan` in `src/hal/h743.rs`) has 16 places. A
packet of the protocol is cut into frames of up to 64 bytes, and each frame is queued as it is cut.

## Main definitions

* `CanFdFrame`, `H743Fdcan`: `transmitFd`, `transmitStProtocol`.
* `H743Fdcan.Enqueued`: frames have been put into the queue, in order.
* `AllOrNothing`: a packet is queued as a whole, or nothing is changed.

## Main results

* `transmitFrom_ok`, `transmitFrom_busy`: what becomes of the rest of a packet.
* `transmit_all_or_nothing_iff`: a packet is queued as a whole, or nothing is changed, if and only
  if the queue was full or has room for all its frames.
-/

namespace StEcu

/-- A CAN FD frame with up to 64 bytes of data. -/
structure CanFdFrame where
  id : UInt32 := 0
  extended : Bool := false
  dlc : UInt8 := 0
  data : Vector UInt8 64 := .replicate _ 0
  brs : Bool := false
  deriving DecidableEq

/-- The data bytes that the length of a frame counts. -/
def CanFdFrame.payload (frame : CanFdFrame) : Bytes := frame.data.toList.take frame.dlc.toNat

/-- The transmit queue of the driver and the number of frames in it. -/
structure H743Fdcan where
  txQueue : Vector (Option CanFdFrame) 16 := .replicate _ none
  txHead : ℕ := 0
  deriving DecidableEq

/-- The frame of the protocol that starts at an offset of a packet. -/
def stProtocolFrame (packet : Bytes) (offset : ℕ) : CanFdFrame :=
  let chunkLen := min (packet.length - offset) 64
  { id := 0x7E0
    extended := false
    dlc := UInt8.ofNat chunkLen
    data := .ofFn fun i => if i < chunkLen then packet.getD (offset + i) 0 else 0
    brs := true }

namespace H743Fdcan

variable (can : H743Fdcan)

/-- A frame put into the queue, if there is room. -/
def transmitFd (frame : CanFdFrame) : H743Fdcan × HalResult Unit :=
  if h : can.txHead < 16 then
    ({ can with txQueue := can.txQueue.set can.txHead (some frame), txHead := can.txHead + 1 },
      .ok ())
  else (can, .error .peripheralBusy)

/-- The loop over the packet, from an offset on. -/
def transmitFrom (can : H743Fdcan) (packet : Bytes) (offset : ℕ) : H743Fdcan × HalResult Unit :=
  if offset < packet.length then
    match can.transmitFd (stProtocolFrame packet offset) with
    | (can, .error e) => (can, .error e)
    | (can, .ok ()) => transmitFrom can packet (offset + min (packet.length - offset) 64)
  else (can, .ok ())
termination_by packet.length - offset

/-- A packet put into the queue, in frames of up to 64 bytes. -/
def transmitStProtocol (packet : Bytes) : H743Fdcan × HalResult Unit := can.transmitFrom packet 0

end H743Fdcan

/-! ### The frames of a packet -/

section Frames

variable {packet : Bytes} {offset : ℕ}

theorem toNat_dlc_stProtocolFrame (packet : Bytes) (offset : ℕ) :
    (stProtocolFrame packet offset).dlc.toNat = min (packet.length - offset) 64 := by
  rw [stProtocolFrame, UInt8.toNat_ofNat', Nat.mod_eq_of_lt]
  omega

/-- A frame carries the next bytes of the packet. -/
theorem payload_stProtocolFrame (packet : Bytes) (offset : ℕ) :
    (stProtocolFrame packet offset).payload = (packet.drop offset).take 64 := by
  have hlength : (stProtocolFrame packet offset).payload.length =
      ((packet.drop offset).take 64).length := by
    rw [CanFdFrame.payload, toNat_dlc_stProtocolFrame, List.length_take, List.length_take,
      List.length_drop, Vector.length_toList]
    omega
  refine List.ext_getElem hlength fun i hi hi' => ?_
  rw [List.length_take, List.length_drop] at hi'
  rw [List.getElem_take, List.getElem_drop]
  simp only [CanFdFrame.payload, List.getElem_take, stProtocolFrame, Vector.getElem_toList,
    Vector.getElem_ofFn]
  rw [if_pos (by omega), List.getD_eq_getElem?_getD, List.getElem?_eq_getElem (by omega),
    Option.getD_some]

end Frames

/-! ### What is queued -/

/-- Frames have been put behind those that were in the queue, and nothing else has changed. -/
structure H743Fdcan.Enqueued (before : H743Fdcan) (frames : List CanFdFrame) (after : H743Fdcan) :
    Prop where
  txHead : after.txHead = before.txHead + frames.length
  queued : ∀ k frame, frames[k]? = some frame →
    after.txQueue[before.txHead + k]? = some (some frame)
  others : ∀ i, i < before.txHead ∨ after.txHead ≤ i → after.txQueue[i]? = before.txQueue[i]?

/-- Frames of one to 64 bytes carry a byte string. -/
structure CarriedBy (bytes : Bytes) (frames : List CanFdFrame) : Prop where
  dlc : ∀ frame ∈ frames, 1 ≤ frame.dlc ∧ frame.dlc ≤ 64
  payload : frames.flatMap CanFdFrame.payload = bytes

/-- A packet is accepted and put into the queue in frames that carry it, or it is refused and
nothing has changed. -/
def AllOrNothing (can : H743Fdcan) (packet : Bytes) : Prop :=
  match can.transmitStProtocol packet with
  | (after, .ok ()) => ∃ frames, can.Enqueued frames after ∧ CarriedBy packet frames
  | (after, .error _) => after = can

/-- The number of frames that a number of bytes takes. -/
def frameCount (size : ℕ) : ℕ := (size + 63) / 64

namespace H743Fdcan

variable {can after middle : H743Fdcan} {frame : CanFdFrame} {frames : List CanFdFrame}
  {packet : Bytes} {offset : ℕ}

theorem enqueued_nil (can : H743Fdcan) : can.Enqueued [] can :=
  ⟨rfl, nofun, fun _ _ => rfl⟩

theorem transmitFd_of_lt (h : can.txHead < 16) (frame : CanFdFrame) :
    ∃ after, can.transmitFd frame = (after, .ok ()) ∧ can.Enqueued [frame] after := by
  refine ⟨_, dif_pos h, rfl, ?_, ?_⟩
  · intro k frame' hk
    cases k with
    | zero =>
      obtain rfl := Option.some.inj hk
      exact Vector.getElem?_set_self h
    | succ k => cases hk
  · intro i hi
    exact Vector.getElem?_set_ne h (by simp at hi; omega)

theorem transmitFd_of_le (h : 16 ≤ can.txHead) (frame : CanFdFrame) :
    can.transmitFd frame = (can, .error .peripheralBusy) :=
  dif_neg (Nat.not_lt.mpr h)

/-- Frames that are queued behind a first one. -/
theorem Enqueued.cons (h : can.Enqueued [frame] middle) (h' : middle.Enqueued frames after) :
    can.Enqueued (frame :: frames) after := by
  have hmiddle : middle.txHead = can.txHead + 1 := h.txHead
  have hafter := h'.txHead
  refine ⟨?_, ?_, ?_⟩
  · rw [hafter, hmiddle, List.length_cons]
    omega
  · intro k frame' hk
    cases k with
    | zero =>
      obtain rfl := Option.some.inj hk
      rw [h'.others _ (.inl (by omega))]
      exact h.queued 0 frame rfl
    | succ k =>
      have hqueued := h'.queued k frame' hk
      rwa [hmiddle, Nat.add_assoc, Nat.add_comm 1] at hqueued
  · intro i hi
    rw [h'.others i (by omega), h.others i (by omega)]

theorem transmitFrom_of_le (h : packet.length ≤ offset) :
    can.transmitFrom packet offset = (can, .ok ()) := by
  rw [transmitFrom, if_neg (Nat.not_lt.mpr h)]

/-- A frame is queued, and the rest of the packet follows. -/
theorem transmitFrom_of_lt (h : offset < packet.length) (hroom : can.txHead < 16) :
    ∃ middle, can.Enqueued [stProtocolFrame packet offset] middle ∧
      can.transmitFrom packet offset =
        middle.transmitFrom packet (offset + min (packet.length - offset) 64) := by
  obtain ⟨middle, htransmit, hqueued⟩ := transmitFd_of_lt hroom (stProtocolFrame packet offset)
  refine ⟨middle, hqueued, ?_⟩
  rw [transmitFrom, if_pos h, htransmit]

theorem transmitFrom_of_full (h : offset < packet.length) (hfull : 16 ≤ can.txHead) :
    can.transmitFrom packet offset = (can, .error .peripheralBusy) := by
  rw [transmitFrom, if_pos h, transmitFd_of_le hfull]

/-- The rest of a packet for which there is room is queued as a whole. -/
theorem transmitFrom_ok
    (hroom : packet.length ≤ offset ∨ can.txHead + frameCount (packet.length - offset) ≤ 16) :
    ∃ after frames, can.transmitFrom packet offset = (after, .ok ()) ∧
      can.Enqueued frames after ∧ CarriedBy (packet.drop offset) frames := by
  induction hrest : packet.length - offset using Nat.strong_induction_on
    generalizing can offset with
  | _ rest ih =>
    rcases Nat.lt_or_ge offset packet.length with hlt | hge
    · have hcount : can.txHead + frameCount (packet.length - offset) ≤ 16 :=
        hroom.resolve_left (Nat.not_le.mpr hlt)
      rw [frameCount] at hcount
      obtain ⟨middle, hfirst, hstep⟩ := transmitFrom_of_lt hlt (show can.txHead < 16 by omega)
      have hmiddle : middle.txHead = can.txHead + 1 := hfirst.txHead
      obtain ⟨after, frames, hafter, hqueued, hcarried⟩ :=
        ih (packet.length - (offset + min (packet.length - offset) 64)) (by omega)
          (show _ ∨ middle.txHead + frameCount
            (packet.length - (offset + min (packet.length - offset) 64)) ≤ 16 by
            rw [frameCount]; omega) rfl
      refine ⟨after, stProtocolFrame packet offset :: frames, hstep.trans hafter,
        hfirst.cons hqueued, ?_, ?_⟩
      · intro frame hframe
        rcases List.mem_cons.mp hframe with rfl | hframe
        · rw [UInt8.le_iff_toNat_le, UInt8.le_iff_toNat_le, toNat_dlc_stProtocolFrame]
          change 1 ≤ _ ∧ _ ≤ 64
          omega
        · exact hcarried.dlc frame hframe
      · have hdrop : packet.drop (offset + min (packet.length - offset) 64) =
            (packet.drop offset).drop 64 := by
          rw [List.drop_drop, List.drop_eq_drop_iff]
          omega
        rw [List.flatMap_cons, payload_stProtocolFrame, hcarried.payload, hdrop,
          List.take_append_drop]
    · refine ⟨can, [], transmitFrom_of_le hge, enqueued_nil can, nofun, ?_⟩
      rw [List.drop_of_length_le hge]
      rfl

/-- The rest of a packet for which there is no room fills the queue. -/
theorem transmitFrom_busy (hlt : offset < packet.length)
    (hroom : 16 < can.txHead + frameCount (packet.length - offset)) :
    ∃ after, can.transmitFrom packet offset = (after, .error .peripheralBusy) ∧
      after.txHead = max can.txHead 16 := by
  induction hrest : packet.length - offset using Nat.strong_induction_on
    generalizing can offset with
  | _ rest ih =>
    rcases Nat.lt_or_ge can.txHead 16 with hfree | hfull
    · obtain ⟨middle, hfirst, hstep⟩ := transmitFrom_of_lt hlt hfree
      have hmiddle : middle.txHead = can.txHead + 1 := hfirst.txHead
      rw [frameCount] at hroom
      obtain ⟨after, hafter, htxHead⟩ :=
        ih (packet.length - (offset + min (packet.length - offset) 64)) (by omega)
          (show offset + min (packet.length - offset) 64 < packet.length by omega)
          (show 16 < middle.txHead + frameCount
            (packet.length - (offset + min (packet.length - offset) 64)) by
            rw [frameCount]; omega) rfl
      exact ⟨after, hstep.trans hafter, by omega⟩
    · exact ⟨can, transmitFrom_of_full hlt hfull, (Nat.max_eq_left hfull).symm⟩

end H743Fdcan

/-- **When a packet is queued as a whole or not at all**: if the queue was full, or has room for all
the frames. -/
theorem transmit_all_or_nothing_iff (can : H743Fdcan) (packet : Bytes) :
    AllOrNothing can packet ↔
      16 ≤ can.txHead ∨ can.txHead + frameCount packet.length ≤ 16 := by
  rw [AllOrNothing, H743Fdcan.transmitStProtocol]
  by_cases hroom : packet.length ≤ 0 ∨ can.txHead + frameCount (packet.length - 0) ≤ 16
  · obtain ⟨after, frames, hafter, hqueued, hcarried⟩ := H743Fdcan.transmitFrom_ok hroom
    rw [hafter]
    refine iff_of_true ⟨frames, hqueued, hcarried⟩ ?_
    rcases hroom with hempty | hroom
    · rw [Nat.le_zero.mp hempty, frameCount]
      omega
    · exact .inr hroom
  · rw [not_or, Nat.not_le, Nat.not_le] at hroom
    obtain ⟨after, hafter, htxHead⟩ := H743Fdcan.transmitFrom_busy hroom.1 hroom.2
    rw [hafter]
    constructor
    · rintro rfl
      omega
    · rintro (hfull | hroom')
      · rw [H743Fdcan.transmitFrom_of_full hroom.1 hfull] at hafter
        exact (congrArg Prod.fst hafter).symm
      · exact absurd hroom.2 (Nat.not_lt.mpr hroom')

/-- A queue with one free place. -/
def nearlyFull : H743Fdcan where
  txHead := 15

/-- Of a packet of two frames, the first one stays in a queue that has no room for the other. -/
theorem packet_cut_short : ∃ after,
    nearlyFull.transmitStProtocol (List.replicate 100 0) = (after, .error .peripheralBusy) ∧
      after.txHead = 16 ∧ ¬ AllOrNothing nearlyFull (List.replicate 100 0) := by
  have hroom : 16 < nearlyFull.txHead + frameCount ((List.replicate 100 (0 : UInt8)).length - 0) :=
    by decide
  obtain ⟨after, hafter, htxHead⟩ := H743Fdcan.transmitFrom_busy (by decide) hroom
  refine ⟨after, hafter, htxHead, fun h => ?_⟩
  rw [AllOrNothing, H743Fdcan.transmitStProtocol, hafter] at h
  obtain rfl : after = nearlyFull := h
  cases htxHead

end StEcu
