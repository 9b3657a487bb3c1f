import StEcu.Foundation.Pieces
import StEcu.Foundation.TransitionSystem
import StEcu.Hal.Common

/-!
# Reads from the UART

The receive side of the USB bridge (`F407Uart` in `src/hal/f407.rs`). A read copies bytes from the
front of the receive buffer and lowers the number of bytes that it holds; the bytes that are left
stay where they are.

## Main definitions

* `F407Uart`: `readBytes`, `bytesAvailable`.
* `FifoStream`: the reads of a run return the received bytes in order.

## Main results

* `run_reads`: what a run of reads leaves, and how much it returns.
* `uart_fifo_iff`: a run returns the received bytes in order if and only if, at each read, the bytes
  that are due are also those at the front of the buffer.
-/

namespace StEcu

/-- The receive buffer and the number of bytes in it. -/
structure F407Uart where
  rxBuf : Vector UInt8 4096 := .replicate _ 0
  rxLen : ℕ := 0
  rxLen_le : rxLen ≤ 4096 := by decide
  deriving DecidableEq

namespace F407Uart

variable (uart : F407Uart)

/-- The number of bytes that were read, and the buffer of the caller with these bytes in it. -/
def readBytes (buf : Bytes) : F407Uart × HalResult ℕ × Bytes :=
  let n := min uart.rxLen buf.length
  ({ uart with rxLen := uart.rxLen - n, rxLen_le := (Nat.sub_le _ _).trans uart.rxLen_le },
    .ok n, uart.rxBuf.toList.take n ++ buf.drop n)

/-- The number of bytes that wait to be read. -/
def bytesAvailable : ℕ := uart.rxLen

/-- The bytes that the buffer holds. -/
def received : Bytes := uart.rxBuf.toList.take uart.rxLen

@[simp] theorem length_received : uart.received.length = uart.rxLen := by
  rw [received, List.length_take, Vector.length_toList, Nat.min_eq_left uart.rxLen_le]

end F407Uart

/-- A read, by the buffer of its caller. -/
abbrev UartRead := Transition F407Uart Bytes (HalResult ℕ × Bytes)

/-- The reads of the buffer, each with the buffer of its caller. -/
def uart : TransitionSystem F407Uart Bytes (HalResult ℕ × Bytes) := .ofFun F407Uart.readBytes

/-- The bytes that a read returns. -/
def UartRead.returned (t : UartRead) : Bytes :=
  match t.output.1 with
  | .ok n => t.output.2.take n
  | .error _ => []

/-- All bytes that the reads of a run returned. -/
def returnedBytes (tr : List UartRead) : Bytes := tr.flatMap UartRead.returned

/-- The reads of a run return the bytes received before it, in order, and those that are not
returned yet are available after it. -/
structure FifoStream (before : F407Uart) (tr : List UartRead) (after : F407Uart) : Prop where
  returned : returnedBytes tr <+: before.received
  available : after.bytesAvailable + (returnedBytes tr).length = before.received.length

/-- The number of bytes asked for. -/
def requested (tr : List UartRead) : ℕ := (tr.map fun t => t.event.length).sum

/-- The bytes that are due after a number of bytes. -/
def F407Uart.due (uart : F407Uart) (skipped size : ℕ) : Bytes :=
  (uart.received.drop skipped).take size

section Reads

variable {u₀ u : F407Uart} {tr : List UartRead} {t : UartRead}

theorem requested_concat (tr : List UartRead) (t : UartRead) :
    requested (tr ++ [t]) = requested tr + t.event.length := by
  rw [requested, List.map_append, List.sum_append]
  rfl

theorem returnedBytes_concat (tr : List UartRead) (t : UartRead) :
    returnedBytes (tr ++ [t]) = returnedBytes tr ++ t.returned := by
  rw [returnedBytes, List.flatMap_append, List.flatMap_singleton]
  rfl

/-- A read returns bytes from the front of the buffer. -/
theorem returned_of_step (ht : uart.Step t) :
    t.returned = t.src.received.take t.event.length ∧ t.dst.rxBuf = t.src.rxBuf ∧
      t.dst.rxLen = t.src.rxLen - t.event.length := by
  have hdst : t.src.readBytes t.event = (t.dst, t.output) := ht
  rw [F407Uart.readBytes, Prod.ext_iff] at hdst
  obtain ⟨hdst, hout⟩ := hdst
  dsimp only at hdst hout
  have hlength : (t.src.rxBuf.toList.take (min t.src.rxLen t.event.length)).length =
      min t.src.rxLen t.event.length := by
    have hle := t.src.rxLen_le
    rw [List.length_take, Vector.length_toList]
    omega
  refine ⟨?_, ?_, ?_⟩
  · rw [UartRead.returned, ← hout]
    dsimp only
    rw [List.take_left' hlength, F407Uart.received, List.take_take, Nat.min_comm]
  · rw [← hdst]
  · rw [← hdst]
    dsimp only
    omega

/-- **What a run of reads leaves**: the same buffer, with fewer bytes in it. -/
theorem run_reads (h : uart.Run u₀ tr u) : u.rxBuf = u₀.rxBuf ∧
    u.rxLen = u₀.rxLen - requested tr ∧
      (returnedBytes tr).length = min (requested tr) u₀.rxLen := by
  induction h with
  | nil => exact ⟨rfl, rfl, (Nat.zero_min _).symm⟩
  | @snoc tr s e o s' _ hs ih =>
    obtain ⟨hbuf, hlen, hreturned⟩ := ih
    obtain ⟨hread, hbuf', hlen'⟩ := returned_of_step hs
    rw [requested_concat, returnedBytes_concat, List.length_append, hread, List.length_take,
      F407Uart.length_received, hreturned]
    dsimp only at hbuf' hlen' ⊢
    refine ⟨hbuf'.trans hbuf, ?_, ?_⟩ <;> omega

/-- The bytes that a read returns are those that are due, if these are also at the front. -/
theorem returned_isPrefix_iff (hrun : uart.Run u₀ tr t.src) (ht : uart.Step t) :
    t.returned <+: u₀.received.drop (requested tr) ↔
      u₀.due (requested tr) t.event.length <+: u₀.received := by
  obtain ⟨hbuf, hlen, -⟩ := run_reads hrun
  have hdue : (u₀.due (requested tr) t.event.length).length =
      min t.event.length (u₀.rxLen - requested tr) := by
    rw [F407Uart.due, List.length_take, List.length_drop, F407Uart.length_received]
  have hreturned : t.returned =
      u₀.received.take (u₀.due (requested tr) t.event.length).length := by
    rw [(returned_of_step ht).1, F407Uart.received, F407Uart.received, List.take_take,
      List.take_take, hbuf, hlen, hdue]
    congr 1
    omega
  have hlength : t.returned.length = (u₀.due (requested tr) t.event.length).length := by
    rw [hreturned, List.length_take, hdue, F407Uart.length_received]
    omega
  have hfront : u₀.due (requested tr) t.event.length <+: u₀.received ↔
      u₀.due (requested tr) t.event.length = t.returned := by
    rw [List.prefix_iff_eq_take, ← hreturned]
  have hdrop : t.returned <+: u₀.received.drop (requested tr) ↔
      t.returned = u₀.due (requested tr) t.event.length := by
    rw [List.prefix_iff_eq_take, hlength, F407Uart.due, List.length_take, ← List.take_take,
      List.take_length]
  exact hdrop.trans (eq_comm.trans hfront.symm)

/-- **When the reads are a stream.** The reads of a run return the received bytes in order if and
only if, at each of them, the bytes that are due are also those at the front of the buffer. -/
theorem uart_fifo_iff (h : uart.Run u₀ tr u) : FifoStream u₀ tr u ↔
    ∀ pre t post, tr = pre ++ t :: post →
      u₀.due (requested pre) t.event.length <+: u₀.received := by
  obtain ⟨-, hlen, hreturned⟩ := run_reads h
  have havailable : u.bytesAvailable + (returnedBytes tr).length = u₀.received.length := by
    rw [hreturned, F407Uart.length_received, F407Uart.bytesAvailable, hlen]
    omega
  have hpieces : FifoStream u₀ tr u ↔ returnedBytes tr <+: u₀.received :=
    ⟨FifoStream.returned, fun hreturned => ⟨hreturned, havailable⟩⟩
  rw [hpieces, returnedBytes, flatMap_isPrefix_iff]
  refine forall₄_congr fun pre t post htr => ?_
  subst htr
  obtain ⟨hpre, ht, -⟩ := h.split_mem
  obtain ⟨-, -, hlength⟩ := run_reads hpre
  have hdrop : u₀.received.drop (pre.flatMap UartRead.returned).length =
      u₀.received.drop (requested pre) := by
    rw [← returnedBytes, hlength, List.drop_eq_drop_iff, F407Uart.length_received]
    omega
  rw [hdrop]
  exact returned_isPrefix_iff hpre ht

end Reads

/-- A UART that has received `b"AB"`. -/
def receivedTwo : F407Uart where
  rxBuf := ((Vector.replicate 4096 0).set 0 0x41).set 1 0x42
  rxLen := 2

theorem received_receivedTwo : receivedTwo.received = [0x41, 0x42] := by decide +kernel

/-- The first byte is read twice. -/
theorem first_byte_read_twice : ∃ tr u, uart.Run receivedTwo tr u ∧
    tr.map (fun t => t.event.length) = [1, 1] ∧ returnedBytes tr = [0x41, 0x41] ∧
    ¬ FifoStream receivedTwo tr u := by
  have hrun := TransitionSystem.run_trace F407Uart.readBytes receivedTwo [[0], [0]]
  have hreturned : returnedBytes (TransitionSystem.trace F407Uart.readBytes receivedTwo
      [[0], [0]]) = [0x41, 0x41] := by
    decide +kernel
  refine ⟨_, _, hrun, rfl, hreturned, fun hstream => ?_⟩
  have hprefix := hstream.returned
  rw [hreturned, received_receivedTwo] at hprefix
  exact absurd hprefix (by decide)

/-- A read of nothing, all the bytes in one read, and a read after all of them are taken. -/
theorem uart_fifo_iff_all_read : ∃ tr u, uart.Run receivedTwo tr u ∧
    tr.map (fun t => t.event.length) = [0, 64, 64] ∧ returnedBytes tr = [0x41, 0x42] ∧
    FifoStream receivedTwo tr u := by
  have hrun := TransitionSystem.run_trace F407Uart.readBytes receivedTwo
    [[], List.replicate 64 0, List.replicate 64 0]
  have hreturned : returnedBytes (TransitionSystem.trace F407Uart.readBytes receivedTwo
      [[], List.replicate 64 0, List.replicate 64 0]) = [0x41, 0x42] := by
    decide +kernel
  refine ⟨_, _, hrun, rfl, hreturned, (uart_fifo_iff hrun).mpr fun pre t post htr => ?_⟩
  rcases pre with _ | ⟨a, _ | ⟨b, _ | ⟨c, pre⟩⟩⟩
  · exact List.take_prefix _ _
  · obtain ⟨rfl, -⟩ := List.cons.inj htr
    exact List.take_prefix _ _
  · -- nothing is due any more
    obtain ⟨rfl, htail⟩ := List.cons.inj htr
    obtain ⟨rfl, -⟩ := List.cons.inj htail
    have hdue : receivedTwo.received.drop 64 = [] := by
      rw [received_receivedTwo]
      rfl
    change (receivedTwo.received.drop 64).take _ <+: _
    rw [hdue, List.take_nil]
    exact List.nil_prefix
  · have hlength := congrArg List.length htr
    simp [TransitionSystem.trace] at hlength

end StEcu
