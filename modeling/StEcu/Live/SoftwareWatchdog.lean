import Mathlib.Data.Fintype.Fin
import Mathlib.Data.List.FinRange
import Mathlib.Data.List.Induction
import Mathlib.Order.WellFounded
import StEcu.Foundation.Saturating

/-!
# The software watchdog

Every task has a deadline within which it must report (`SoftwareWatchdog` in `src/protection.rs`).
Reports and checks carry the reading of a millisecond counter of 32 bits, which runs around after
49.7 days. A check subtracts the reading of the last report with saturation.

## Main definitions

* `SoftwareWatchdog`: `configureTask`, `kick`, `check`, `overdueTask`.
* `SoftwareWatchdog.run`: a history of calls, at the times that the counter shows.
* `Overdue`: a task that was last kicked longer ago than its deadline.
* `SoftwareWatchdog.Tracks`: a check finds the overdue tasks.

## Main results

* `misses_iff_overdue`: a check sees an overdue task unless the counter ran around since it was last
  kicked.
* `watchdog_tracks_iff`: a check finds the overdue tasks if and only if the counter did not run
  around since the first of them was last kicked.
-/

namespace StEcu

/-- The number of tasks that are watched. -/
abbrev swWdTasks : ℕ := 8

/-- The deadline, the last sign of life and the name of each task. -/
structure SoftwareWatchdog where
  deadlineMs : Vector UInt32 swWdTasks := .replicate _ 0
  lastKickMs : Vector UInt32 swWdTasks := .replicate _ 0
  taskName : Vector UInt8 swWdTasks := .replicate _ 0
  deriving DecidableEq, Repr

namespace SoftwareWatchdog

variable (wd : SoftwareWatchdog)

/-- A task given a deadline. There are eight tasks. -/
def configureTask (taskId : ℕ) (deadlineMs : UInt32) (name : UInt8) : SoftwareWatchdog :=
  if h : taskId < swWdTasks then
    { wd with
      deadlineMs := wd.deadlineMs.set taskId deadlineMs
      taskName := wd.taskName.set taskId name }
  else wd

/-- A sign of life of a task. -/
def kick (taskId : ℕ) (nowMs : UInt32) : SoftwareWatchdog :=
  if h : taskId < swWdTasks then { wd with lastKickMs := wd.lastKickMs.set taskId nowMs } else wd

/-- The body of the two loops over the tasks. -/
def misses (nowMs : UInt32) (i : Fin swWdTasks) : Bool :=
  wd.deadlineMs[i] ≠ 0 ∧ wd.deadlineMs[i] < nowMs.saturatingSub wd.lastKickMs[i]

/-- Some task missed its deadline. -/
def check (nowMs : UInt32) : Bool := (List.finRange swWdTasks).any (wd.misses nowMs)

/-- The first task that missed its deadline. -/
def overdueTask (nowMs : UInt32) : Option (Fin swWdTasks) :=
  (List.finRange swWdTasks).find? (wd.misses nowMs)

end SoftwareWatchdog

/-! ### Histories -/

/-- A call to the watchdog; a kick comes with the time in milliseconds, of which the watchdog sees
the reading of the counter. -/
inductive WatchdogCall
  | configureTask (taskId : ℕ) (deadlineMs : UInt32) (name : UInt8)
  | kick (taskId : ℕ) (time : ℕ)

/-- The reading of the millisecond counter at a time. -/
def millis (time : ℕ) : UInt32 := UInt32.ofNat time

namespace SoftwareWatchdog

/-- What a call does, the time being read off the counter. -/
def apply (wd : SoftwareWatchdog) : WatchdogCall → SoftwareWatchdog
  | .configureTask taskId deadlineMs name => wd.configureTask taskId deadlineMs name
  | .kick taskId time => wd.kick taskId (millis time)

/-- The watchdog after a history of calls. -/
def run (calls : List WatchdogCall) : SoftwareWatchdog := calls.foldl apply {}

end SoftwareWatchdog

/-- The deadline that a task was last given. -/
def deadline (calls : List WatchdogCall) (i : Fin swWdTasks) : UInt32 :=
  calls.foldl (fun last call => match call with
    | .configureTask taskId deadlineMs _ => if taskId = i then deadlineMs else last
    | .kick _ _ => last) 0

/-- The time at which a task was last kicked. -/
def lastKick (calls : List WatchdogCall) (i : Fin swWdTasks) : Option ℕ :=
  calls.foldl (fun last call => match call with
    | .configureTask _ _ _ => last
    | .kick taskId time => if taskId = i then some time else last) none

/-- A task that has a deadline and was last kicked longer ago. -/
def Overdue (calls : List WatchdogCall) (time : ℕ) (i : Fin swWdTasks) : Prop :=
  0 < deadline calls i ∧ (deadline calls i).toNat < 2 ^ 31 ∧
    ∃ kicked ∈ lastKick calls i, (deadline calls i).toNat < time - kicked

/-- Every task with a deadline was kicked, and less than 2^31 ms ago. -/
def RecentlyKicked (calls : List WatchdogCall) (time : ℕ) : Prop :=
  ∀ i, 0 < deadline calls i → ∃ kicked ∈ lastKick calls i, kicked ≤ time ∧ time < kicked + 2 ^ 31

/-- A check of a watchdog finds the overdue tasks: it says whether there are any, and which is the
first of them. -/
structure SoftwareWatchdog.Tracks (wd : SoftwareWatchdog) (calls : List WatchdogCall) (time : ℕ) :
    Prop where
  check_iff : wd.check (millis time) = true ↔ ∃ i, Overdue calls time i
  overdueTask_iff : ∀ i, wd.overdueTask (millis time) = some i ↔
    Overdue calls time i ∧ ∀ j < i, ¬ Overdue calls time j

/-- The counter runs around every `2 ^ 32` ms; a time is in the same round as another one if the
counter did not run around in between. -/
def SameRound (earlier later : ℕ) : Prop := later / 2 ^ 32 = earlier / 2 ^ 32

instance (earlier later : ℕ) : Decidable (SameRound earlier later) :=
  inferInstanceAs (Decidable (later / 2 ^ 32 = earlier / 2 ^ 32))

section Histories

variable {calls : List WatchdogCall} {time : ℕ} {i : Fin swWdTasks}

theorem getElem_set_ite {α : Type} (xs : Vector α swWdTasks) (taskId : ℕ)
    (h : taskId < swWdTasks) (x : α) (i : Fin swWdTasks) :
    (xs.set taskId x h)[i] = if taskId = i then x else xs[i] :=
  Vector.getElem_set h i.isLt

theorem deadlineMs_run (calls : List WatchdogCall) (i : Fin swWdTasks) :
    (SoftwareWatchdog.run calls).deadlineMs[i] = deadline calls i := by
  induction calls using List.reverseRecOn with
  | nil => simp [SoftwareWatchdog.run, deadline]
  | append_singleton calls call ih =>
    rw [SoftwareWatchdog.run, deadline, List.foldl_concat, List.foldl_concat,
      ← SoftwareWatchdog.run, ← deadline, ← ih]
    cases call with
    | configureTask taskId deadlineMs name =>
      rw [SoftwareWatchdog.apply, SoftwareWatchdog.configureTask]
      split_ifs with htask
      · exact getElem_set_ite _ _ htask _ _
      · exact (if_neg (by omega)).symm
    | kick taskId time =>
      rw [SoftwareWatchdog.apply, SoftwareWatchdog.kick]
      split_ifs <;> rfl

theorem lastKickMs_run {kicked : ℕ} (h : lastKick calls i = some kicked) :
    (SoftwareWatchdog.run calls).lastKickMs[i] = millis kicked := by
  induction calls using List.reverseRecOn with
  | nil => cases h
  | append_singleton calls call ih =>
    rw [SoftwareWatchdog.run, List.foldl_concat, ← SoftwareWatchdog.run]
    rw [lastKick, List.foldl_concat, ← lastKick] at h
    cases call with
    | configureTask taskId deadlineMs name =>
      rw [SoftwareWatchdog.apply, SoftwareWatchdog.configureTask]
      split_ifs
      · exact ih h
      · exact ih h
    | kick taskId time =>
      rw [SoftwareWatchdog.apply, SoftwareWatchdog.kick]
      dsimp only at h
      by_cases hi : taskId = i
      · rw [if_pos hi] at h
        obtain rfl := Option.some.inj h
        have htask : taskId < swWdTasks := hi ▸ i.isLt
        rw [dif_pos htask]
        exact (getElem_set_ite _ _ htask _ _).trans (if_pos hi)
      · rw [if_neg hi] at h
        split_ifs with htask
        · exact (getElem_set_ite _ _ htask _ _).trans ((if_neg hi).trans (ih h))
        · exact ih h

/-! ### Checks -/

theorem toNat_millis (time : ℕ) : (millis time).toNat = time % 2 ^ 32 := UInt32.toNat_ofNat'

/-- A task that was kicked recently is found missing by a check if it is overdue, unless the counter
ran around since. -/
theorem misses_iff_overdue (h : RecentlyKicked calls time) :
    (SoftwareWatchdog.run calls).misses (millis time) i = true ↔
      Overdue calls time i ∧ ∀ kicked ∈ lastKick calls i, SameRound kicked time := by
  rw [SoftwareWatchdog.misses, decide_eq_true_iff, deadlineMs_run]
  by_cases hdeadline : deadline calls i = 0
  · simp [Overdue, hdeadline]
  have hpos : 0 < deadline calls i := UInt32.pos_iff_ne_zero.mpr hdeadline
  obtain ⟨kicked, hkicked, hle, hnear⟩ := h i hpos
  rw [Option.mem_def] at hkicked
  simp only [Overdue, hkicked, Option.mem_some_iff, forall_eq', exists_eq_left', hpos, true_and,
    ne_eq, hdeadline, not_false_iff, lastKickMs_run hkicked, UInt32.lt_iff_toNat_lt,
    UInt32.toNat_saturatingSub, toNat_millis, SameRound]
  by_cases hround : time / 2 ^ 32 = kicked / 2 ^ 32
  · rw [Nat.mod_sub_mod_of_div_eq hround]
    omega
  · have hbehind := Nat.mod_lt_mod_of_div_ne hle (by omega) hround
    omega

/-- The first of the tasks in question. -/
theorem overdueTask_eq_some_iff (wd : SoftwareWatchdog) (nowMs : UInt32) :
    wd.overdueTask nowMs = some i ↔
      wd.misses nowMs i = true ∧ ∀ j < i, ¬ wd.misses nowMs j = true := by
  rw [SoftwareWatchdog.overdueTask, List.find?_eq_some_iff_getElem]
  constructor
  · rintro ⟨hi, k, hk, hik, hbefore⟩
    rw [List.getElem_finRange] at hik
    refine ⟨hi, fun j hj => ?_⟩
    have hjk : j.val < k := by
      rw [← hik] at hj
      exact hj
    simpa using hbefore j.val hjk
  · rintro ⟨hi, hbefore⟩
    refine ⟨hi, i.val, by simp, by simp, fun j hj => ?_⟩
    simpa using hbefore ⟨j, hj.trans i.isLt⟩ hj

theorem check_iff (wd : SoftwareWatchdog) (nowMs : UInt32) :
    wd.check nowMs = true ↔ ∃ i, wd.misses nowMs i = true := by
  simp [SoftwareWatchdog.check]

/-- **When the watchdog works.** A check less than 2^31 ms after every task was last kicked finds
the overdue tasks if and only if none is overdue, or the counter did not run around since the first
of them was last kicked. -/
theorem watchdog_tracks_iff (h : RecentlyKicked calls time) :
    (SoftwareWatchdog.run calls).Tracks calls time ↔
      ∀ i, Overdue calls time i → (∀ j < i, ¬ Overdue calls time j) →
        ∀ kicked ∈ lastKick calls i, SameRound kicked time := by
  have hmisses (i : Fin swWdTasks) := misses_iff_overdue (i := i) h
  constructor
  · intro htracks i hi hfirst
    have hfound := (htracks.overdueTask_iff i).mpr ⟨hi, hfirst⟩
    exact ((hmisses i).mp ((overdueTask_eq_some_iff _ _).mp hfound).1).2
  · intro hround
    -- the first overdue task, if there is one, is found
    have hfirst (i : Fin swWdTasks) (hi : Overdue calls time i) :
        ∃ k ≤ i, Overdue calls time k ∧ (∀ j < k, ¬ Overdue calls time j) ∧
          (SoftwareWatchdog.run calls).misses (millis time) k = true := by
      obtain ⟨k, hk, hleast⟩ := WellFounded.has_min (wellFounded_lt (α := Fin swWdTasks))
        {j | Overdue calls time j} ⟨i, hi⟩
      have hbefore (j : Fin swWdTasks) (hj : j < k) : ¬ Overdue calls time j :=
        fun hover => hleast j hover hj
      exact ⟨k, not_lt.mp (hleast i hi), hk, hbefore, (hmisses k).mpr ⟨hk, hround k hk hbefore⟩⟩
    refine ⟨?_, fun i => ?_⟩
    · rw [check_iff]
      constructor
      · rintro ⟨i, hi⟩
        exact ⟨i, ((hmisses i).mp hi).1⟩
      · rintro ⟨i, hi⟩
        obtain ⟨k, -, -, -, hk⟩ := hfirst i hi
        exact ⟨k, hk⟩
    · rw [overdueTask_eq_some_iff]
      constructor
      · rintro ⟨hi, hnone⟩
        obtain ⟨hover, -⟩ := (hmisses i).mp hi
        obtain ⟨k, hki, hk, hbefore, hfound⟩ := hfirst i hover
        obtain rfl : k = i := hki.eq_of_not_lt fun hlt => hnone k hlt hfound
        exact ⟨hk, hbefore⟩
      · rintro ⟨hi, hnone⟩
        exact ⟨(hmisses i).mpr ⟨hi, hround i hi hnone⟩,
          fun j hj hmiss => hnone j hj ((hmisses j).mp hmiss).1⟩

end Histories

/-- A task with a deadline of 100 ms is kicked once. -/
def oneTask (kicked : ℕ) : List WatchdogCall := [.configureTask 0 100 0x41, .kick 0 kicked]

theorem recentlyKicked_oneTask {kicked time : ℕ} (hle : kicked ≤ time)
    (hnear : time < kicked + 2 ^ 31) : RecentlyKicked (oneTask kicked) time := by
  intro i hi
  by_cases hzero : 0 = i.val
  · exact ⟨kicked, if_pos hzero, hle, hnear⟩
  · have hnone : deadline (oneTask kicked) i = 0 := if_neg hzero
    rw [hnone] at hi
    cases hi

/-- The kick comes 100 ms before the counter runs around and the check 500 ms after the kick: the
task is overdue, and the check does not find it. -/
theorem wrapped_watchdog_misses : RecentlyKicked (oneTask (2 ^ 32 - 100)) (2 ^ 32 + 400) ∧
    Overdue (oneTask (2 ^ 32 - 100)) (2 ^ 32 + 400) 0 ∧
    (SoftwareWatchdog.run (oneTask (2 ^ 32 - 100))).check (millis (2 ^ 32 + 400)) = false ∧
    ¬ (SoftwareWatchdog.run (oneTask (2 ^ 32 - 100))).Tracks (oneTask (2 ^ 32 - 100))
      (2 ^ 32 + 400) := by
  have hover : Overdue (oneTask (2 ^ 32 - 100)) (2 ^ 32 + 400) 0 :=
    ⟨by decide, by decide, 2 ^ 32 - 100, rfl, by decide⟩
  have hcheck : (SoftwareWatchdog.run (oneTask (2 ^ 32 - 100))).check (millis (2 ^ 32 + 400)) =
      false := by
    decide
  refine ⟨recentlyKicked_oneTask (by decide) (by decide), hover, hcheck, fun htracks => ?_⟩
  have hfound := htracks.check_iff.mpr ⟨0, hover⟩
  rw [hcheck] at hfound
  cases hfound

/-- A check 50 ms after the same kick, before the counter runs around. -/
theorem watchdog_tracks_iff_oneTask :
    (SoftwareWatchdog.run (oneTask (2 ^ 32 - 100))).Tracks (oneTask (2 ^ 32 - 100))
      (2 ^ 32 - 50) := by
  refine (watchdog_tracks_iff (recentlyKicked_oneTask (by decide) (by decide))).mpr ?_
  intro i _ _ kicked hkicked
  by_cases hzero : 0 = i.val
  · have hlast : lastKick (oneTask (2 ^ 32 - 100)) i = some (2 ^ 32 - 100) := if_pos hzero
    rw [hlast, Option.mem_some_iff] at hkicked
    rw [← hkicked]
    decide
  · have hnone : lastKick (oneTask (2 ^ 32 - 100)) i = none := if_neg hzero
    rw [hnone] at hkicked
    cases hkicked

end StEcu
