import Mathlib.Algebra.Order.Group.Nat
import Mathlib.Data.Nat.Basic
import Mathlib.Logic.Function.Basic
import Mathlib.Order.Bounds.Basic

/-!
# Resumable transfers

A session of a transfer receives numbered blocks, one after the other. From time to time its
progress is stored where it outlives a loss of power, and the session can be resumed from there.
Sessions are numbered by a counter that does not outlive a loss of power: it starts again from the
number of the session that is stored.

Which data was received is a history of its own: the latest data of each block of each session, from
the start of that session on. A transfer is aligned with a history if what it holds, in memory and
stored, is what the history says of its own session and nothing else.

## Main definitions

* `Received`, `Received.start`, `Received.add`: the history.
* `Progress`, `Progress.Holds`: how far a session got, and that its data is that of the history.
* `Transfer`, with `start`, `append`, `resume`, `halt` and `powerCycle`.
* `Transfer.Aligned`: the invariant.

## Main results

* `Transfer.Aligned.start`, `Transfer.Aligned.append`, `Transfer.Aligned.resume`,
  `Transfer.aligned_halt`, `Transfer.Aligned.powerCycle`: every operation keeps it.
* `Transfer.Aligned.isGreatest`: what is stored of the active session is the last progress that was
  due.
-/

variable {α : Type*}

/-- The latest data received of each block of each session. -/
abbrev Received (α : Type*) := ℕ → ℕ → Option (List α)

namespace Received

/-- A session starts, of which nothing was received yet. -/
def start (received : Received α) (session : ℕ) : Received α :=
  Function.update received session fun _ => none

/-- One more block of a session. -/
def add (received : Received α) (session index : ℕ) (block : List α) : Received α :=
  Function.update received session (Function.update (received session) index (some block))

end Received

/-- How far a session got: the number of the next block, and the data of those before it. -/
structure Progress (α : Type*) where
  session : ℕ
  next : ℕ
  image : List α

namespace Progress

variable (p : Progress α)

/-- The next block received. -/
def append (block : List α) : Progress α :=
  { p with next := p.next + 1, image := p.image ++ block }

/-- The data is that of the blocks before the next one, in order. -/
def Holds (received : Received α) : Prop :=
  ∃ blocks : List (List α),
    (List.range p.next).map (received p.session) = blocks.map some ∧ blocks.flatten = p.image

variable {p} {received : Received α}

theorem holds_start (session : ℕ) : (⟨session, 0, []⟩ : Progress α).Holds received :=
  ⟨[], rfl, rfl⟩

/-- Only the blocks before the next one matter. -/
theorem Holds.congr (h : p.Holds received) {received' : Received α}
    (heq : ∀ i < p.next, received' p.session i = received p.session i) : p.Holds received' := by
  obtain ⟨blocks, hblocks, himage⟩ := h
  refine ⟨blocks, ?_, himage⟩
  rw [← hblocks]
  exact List.map_congr_left fun i hi => heq i (List.mem_range.mp hi)

/-- The start of another session. -/
theorem Holds.start (h : p.Holds received) {session : ℕ} (hne : p.session ≠ session) :
    p.Holds (received.start session) :=
  h.congr fun _ _ => by rw [Received.start, Function.update_of_ne hne]

/-- A block of another session, or one that does not come before the next one. -/
theorem Holds.add (h : p.Holds received) {session index : ℕ} (block : List α)
    (hout : p.session = session → p.next ≤ index) : p.Holds (received.add session index block) := by
  refine h.congr fun i hi => ?_
  by_cases hs : p.session = session
  · subst hs
    rw [Received.add, Function.update_self, Function.update_of_ne]
    exact (hi.trans_le (hout rfl)).ne
  · rw [Received.add, Function.update_of_ne hs]

/-- The next block. -/
theorem Holds.append (h : p.Holds received) (block : List α) :
    (p.append block).Holds (received.add p.session p.next block) := by
  have hadd : p.Holds (received.add p.session p.next block) := h.add block fun _ => Nat.le_refl _
  obtain ⟨blocks, hblocks, himage⟩ := hadd
  refine ⟨blocks ++ [block], ?_, ?_⟩
  · have hlast : received.add p.session p.next block p.session p.next = some block := by
      rw [Received.add, Function.update_self, Function.update_self]
    change (List.range (p.next + 1)).map (received.add p.session p.next block p.session) = _
    rw [List.range_succ, List.map_append, List.map_append, hblocks]
    simp only [List.map_cons, List.map_nil, hlast]
  · rw [List.flatten_append, himage]
    simp [Progress.append]

end Progress

/-- A transfer: the number of the latest session, the session in memory, and what is stored. -/
structure Transfer (α : Type*) where
  counter : ℕ
  active : Option (Progress α)
  stored : Option (Progress α)

namespace Transfer

variable (due : ℕ → Prop) (t : Transfer α)

/-- A new session. -/
def start : Transfer α :=
  { t with counter := t.counter + 1, active := some ⟨t.counter + 1, 0, []⟩ }

/-- The active session receives a block; its progress is stored when that is due. -/
def append [DecidablePred due] (p : Progress α) (block : List α) : Transfer α :=
  { t with
    active := some (p.append block)
    stored := if due (p.next + 1) then some (p.append block) else t.stored }

/-- The stored session in place of the active one. -/
def resume : Transfer α := { t with active := t.stored }

/-- The active session ends, and what is stored is dropped. -/
def halt : Transfer α := { t with active := none, stored := none }

/-- A loss of power. -/
def powerCycle : Transfer α :=
  { counter := t.stored.elim 0 Progress.session, active := none, stored := t.stored }

/-- The invariant: what is in memory and what is stored holds the data received, and the active
session has received no block yet or is the stored one, with no progress due since. -/
structure Aligned (received : Received α) : Prop where
  active : ∀ p ∈ t.active, p.Holds received ∧ 0 < p.session ∧ p.session ≤ t.counter
  stored : ∀ p ∈ t.stored, p.Holds received ∧ 0 < p.session ∧ p.session ≤ t.counter ∧ due p.next
  both : ∀ p ∈ t.active, (p.next = 0 ∧ ∀ q ∈ t.stored, q.session < p.session) ∨
    ∃ q ∈ t.stored, q.session = p.session ∧ q.next ≤ p.next ∧
      ∀ n, q.next < n → n ≤ p.next → ¬ due n

variable {due t} {received : Received α}

/-- What is stored of the active session is the last progress that was due. -/
theorem Aligned.isGreatest (h : t.Aligned due received) {p q : Progress α} (hp : p ∈ t.active)
    (hq : q ∈ t.stored) (heq : p.session = q.session) :
    IsGreatest {n | n ≤ p.next ∧ due n} q.next := by
  obtain ⟨-, -, -, hdue⟩ := h.stored q hq
  rcases h.both p hp with ⟨-, hlt⟩ | ⟨q', hq', -, hle, hnone⟩
  · exact absurd heq (hlt q hq).ne'
  · obtain rfl := Option.mem_unique hq' hq
    refine ⟨⟨hle, hdue⟩, fun n ⟨hn, hdue'⟩ => ?_⟩
    by_contra hlt
    exact hnone n (Nat.lt_of_not_le hlt) hn hdue'

theorem Aligned.start (h : t.Aligned due received) :
    t.start.Aligned due (received.start (t.counter + 1)) where
  active p hp := by
    obtain rfl := Option.some.inj hp
    exact ⟨Progress.holds_start _, Nat.succ_pos _, Nat.le_refl _⟩
  stored q hq := by
    obtain ⟨hholds, hpos, hle, hdue⟩ := h.stored q hq
    exact ⟨hholds.start (Nat.lt_succ_of_le hle).ne, hpos, Nat.le_succ_of_le hle, hdue⟩
  both p hp := by
    obtain rfl := Option.some.inj hp
    exact .inl ⟨rfl, fun q hq => Nat.lt_succ_of_le (h.stored q hq).2.2.1⟩

theorem Aligned.append [DecidablePred due] (h : t.Aligned due received) (hone : due 1)
    {p : Progress α} (hp : p ∈ t.active) (block : List α) :
    (t.append due p block).Aligned due (received.add p.session p.next block) where
  active p' hp' := by
    obtain rfl := Option.some.inj hp'
    obtain ⟨hholds, hpos, hle⟩ := h.active p hp
    exact ⟨hholds.append block, hpos, hle⟩
  stored q hq := by
    rw [Transfer.append] at hq
    dsimp only at hq
    split_ifs at hq with hdue
    · obtain rfl := Option.some.inj hq
      obtain ⟨hholds, hpos, hle⟩ := h.active p hp
      exact ⟨hholds.append block, hpos, hle, hdue⟩
    · obtain ⟨hholds, hpos, hle, hdue'⟩ := h.stored q hq
      refine ⟨hholds.add block fun heq => ?_, hpos, hle, hdue'⟩
      exact (h.isGreatest hp hq heq.symm).1.1
  both p' hp' := by
    obtain rfl := Option.some.inj hp'
    rw [Transfer.append]
    dsimp only
    by_cases hdue : due (p.next + 1)
    · rw [if_pos hdue]
      exact .inr ⟨_, rfl, rfl, Nat.le_refl _, fun n hlt hle => absurd hle (Nat.not_le_of_lt hlt)⟩
    · rw [if_neg hdue]
      rcases h.both p hp with ⟨hzero, -⟩ | ⟨q, hq, hsession, hle, hnone⟩
      · rw [hzero] at hdue
        exact absurd hone hdue
      · refine .inr ⟨q, hq, hsession, Nat.le_succ_of_le hle, fun n hlt hn => ?_⟩
        rcases Nat.le_succ_iff.mp hn with hn | rfl
        · exact hnone n hlt hn
        · exact hdue

theorem Aligned.resume (h : t.Aligned due received) : t.resume.Aligned due received where
  active p hp := by
    obtain ⟨hholds, hpos, hle, -⟩ := h.stored p hp
    exact ⟨hholds, hpos, hle⟩
  stored := h.stored
  both p hp := .inr ⟨p, hp, rfl, Nat.le_refl _, fun n hlt hle => absurd hle (Nat.not_le_of_lt hlt)⟩

theorem aligned_halt : t.halt.Aligned due received where
  active _ hp := nomatch hp
  stored _ hp := nomatch hp
  both _ hp := nomatch hp

theorem Aligned.powerCycle (h : t.Aligned due received) : t.powerCycle.Aligned due received where
  active _ hp := nomatch hp
  stored q hq := by
    obtain ⟨hholds, hpos, -, hdue⟩ := h.stored q hq
    refine ⟨hholds, hpos, ?_, hdue⟩
    rw [Transfer.powerCycle, show t.stored = some q from hq]
    exact Nat.le_refl _
  both _ hp := nomatch hp

end Transfer
