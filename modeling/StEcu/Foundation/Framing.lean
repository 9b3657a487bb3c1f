import Mathlib.Data.List.Basic

/-!
# Framed messages over a stream

A framing writes each message as one frame and reads a frame off the front of what has arrived,
waiting while the frame is not complete. A receiver keeps what it has not read yet, and after each
chunk takes all frames that are complete. However the frames are cut into chunks, it delivers the
messages that were sent, in order and each once.

## Main definitions

* `Framing`, and `Framing.Lawful`: what a framing must do on the frames of its valid messages.
* `Framing.drain`, `Framing.receive`, `Framing.receiveAll`: the receiver.

## Main results

* `Framing.Lawful.receiveAll_eq`: the frames of valid messages, in any chunks, are received as
  these messages.
-/

/-- Messages `μ` written as frames of symbols `α`. -/
structure Framing (α ε μ : Type) where
  encode : μ → List α
  /-- The message of the frame at the front and the length of that frame; `none` for a frame that
  is not complete. -/
  decode : List α → Except ε (Option (μ × ℕ))

namespace Framing

variable {α ε μ : Type}

/-- What a framing must do on the frames of its valid messages. -/
structure Lawful (F : Framing α ε μ) (valid : μ → Prop) : Prop where
  encode_ne_nil : ∀ m, F.encode m ≠ []
  decode_encode : ∀ m rest, valid m →
    F.decode (F.encode m ++ rest) = .ok (some (m, (F.encode m).length))
  decode_prefix : ∀ m front, valid m → front <+: F.encode m →
    front.length < (F.encode m).length → F.decode front = .ok none
  decode_nil : F.decode [] = .ok none

/-- Takes frames off the front of a buffer until one is not complete, at most `fuel` of them: the
messages, and what is left of the buffer. -/
def drain (F : Framing α ε μ) : ℕ → List α → Except ε (List μ × List α)
  | 0, buffer => .ok ([], buffer)
  | fuel + 1, buffer =>
    match F.decode buffer with
    | .error e => .error e
    | .ok none => .ok ([], buffer)
    | .ok (some (m, n)) =>
      (drain F fuel (buffer.drop n)).map fun (ms, rest) => (m :: ms, rest)

/-- A chunk arrives behind what is left in the buffer. -/
def receive (F : Framing α ε μ) (buffer chunk : List α) : Except ε (List μ × List α) :=
  F.drain (buffer ++ chunk).length (buffer ++ chunk)

/-- Chunks arrive one after the other: all messages, and what is left in the buffer. -/
def receiveAll (F : Framing α ε μ) : List α → List (List α) → Except ε (List μ × List α)
  | buffer, [] => .ok ([], buffer)
  | buffer, chunk :: chunks =>
    match F.receive buffer chunk with
    | .error e => .error e
    | .ok (ms, rest) => (receiveAll F rest chunks).map fun (ms', rest') => (ms ++ ms', rest')

/-- The buffer does not hold the whole frame of the first message still to come. -/
def Waits (F : Framing α ε μ) (buffer : List α) (ms : List μ) : Prop :=
  ∀ m ∈ ms.head?, buffer.length < (F.encode m).length

section

variable {F : Framing α ε μ} {valid : μ → Prop} {buffer rest : List α} {ms : List μ}

theorem drain_of_none (h : F.decode buffer = .ok none) (fuel : ℕ) :
    F.drain fuel buffer = .ok ([], buffer) := by
  cases fuel with
  | zero => rfl
  | succ fuel => simp only [drain, h]

/-- What a buffer that starts with the frames of `ms` gives: some of the messages, and the start of
the frames of the others. -/
theorem Lawful.drain_eq (hF : F.Lawful valid) (hms : ∀ m ∈ ms, valid m)
    (heq : buffer ++ rest = ms.flatMap F.encode) {fuel : ℕ} (hfuel : buffer.length ≤ fuel) :
    ∃ ms₁ ms₂ buffer', ms = ms₁ ++ ms₂ ∧ F.drain fuel buffer = .ok (ms₁, buffer') ∧
      buffer' ++ rest = ms₂.flatMap F.encode ∧ F.Waits buffer' ms₂ := by
  induction ms generalizing buffer fuel with
  | nil =>
    obtain rfl : buffer = [] := (List.append_eq_nil_iff.mp heq).1
    exact ⟨[], [], [], rfl, drain_of_none hF.decode_nil fuel, heq, by simp [Waits]⟩
  | cons m ms ih =>
    have hm : valid m := hms m (by simp)
    have heq' : buffer ++ rest = F.encode m ++ ms.flatMap F.encode := heq
    by_cases hlt : buffer.length < (F.encode m).length
    · have hprefix : buffer <+: F.encode m :=
        List.prefix_of_prefix_length_le ⟨rest, heq'⟩ ⟨_, rfl⟩ (Nat.le_of_lt hlt)
      exact ⟨[], m :: ms, buffer, rfl,
        drain_of_none (hF.decode_prefix m buffer hm hprefix hlt) fuel, heq, by simpa [Waits]⟩
    · obtain ⟨tail, rfl⟩ : F.encode m <+: buffer :=
        List.prefix_of_prefix_length_le ⟨_, heq'.symm⟩ ⟨rest, rfl⟩ (Nat.le_of_not_lt hlt)
      rw [List.append_assoc, List.append_cancel_left_eq] at heq'
      have hpos : 0 < (F.encode m).length := List.length_pos_iff.mpr (hF.encode_ne_nil m)
      rw [List.length_append] at hfuel
      obtain ⟨fuel, rfl⟩ : ∃ k, fuel = k + 1 := ⟨fuel - 1, by omega⟩
      obtain ⟨ms₁, ms₂, buffer', rfl, hdrain, hrest, hwaits⟩ :=
        ih (fun m' hm' => hms m' (by simp [hm'])) heq' (show tail.length ≤ fuel by omega)
      refine ⟨m :: ms₁, ms₂, buffer', rfl, ?_, hrest, hwaits⟩
      simp only [drain, hF.decode_encode m tail hm, List.drop_left, hdrain, Except.map]

/-- The invariant of the receiver: what it has kept and what is still to come are the frames of the
messages not delivered yet, and the first of them is not complete. -/
theorem Lawful.receiveAll_of_waits (hF : F.Lawful valid) (hms : ∀ m ∈ ms, valid m)
    {chunks : List (List α)} (heq : buffer ++ chunks.flatten = ms.flatMap F.encode)
    (hwaits : F.Waits buffer ms) : F.receiveAll buffer chunks = .ok (ms, []) := by
  induction chunks generalizing buffer ms with
  | nil =>
    rw [List.flatten_nil, List.append_nil] at heq
    cases ms with
    | nil =>
      subst heq
      rfl
    | cons m ms =>
      have hlt : buffer.length < (F.encode m).length := hwaits m rfl
      rw [heq, List.flatMap_cons, List.length_append] at hlt
      omega
  | cons chunk chunks ih =>
    rw [List.flatten_cons, ← List.append_assoc] at heq
    obtain ⟨ms₁, ms₂, buffer', rfl, hdrain, hrest, hwaits'⟩ :=
      hF.drain_eq hms heq (Nat.le_refl _)
    have htail := ih (fun m hm => hms m (by simp [hm])) hrest hwaits'
    simp only [receiveAll, receive, hdrain, htail, Except.map]

/-- **Delivery.** The frames of valid messages, cut into chunks in any way, are received as these
messages, and nothing is left. -/
theorem Lawful.receiveAll_eq (hF : F.Lawful valid) (hms : ∀ m ∈ ms, valid m)
    {chunks : List (List α)} (heq : chunks.flatten = ms.flatMap F.encode) :
    F.receiveAll [] chunks = .ok (ms, []) :=
  hF.receiveAll_of_waits hms heq fun m _ => List.length_pos_iff.mpr (hF.encode_ne_nil m)

end

end Framing
