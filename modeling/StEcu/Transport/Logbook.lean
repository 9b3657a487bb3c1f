import StEcu.Transport.Activity
import StEcu.Transport.Reference

/-!
# What the logbook accounts for

The logbook enters a session when it is stopped, and an output test that is forced on while the
engine runs. Its summary has the number of sessions, the number of all entries, and the sums of the
elapsed times and of the bytes of the sessions. The entries are counted in eight bits, although the
summary has sixteen for them, so that the entries after the first 255 are not accounted for.

## Main definitions

* `Step.endsSession`, `Step.forcesOutput`, `Step.resetsLogbook`, `sinceReset`.
* `DataLog.Counts`: what the logbook counts, with the largest values of its counters.
* `LogbookAccounted`: the summary accounts for every entry.

## Main results

* `run_logbook_counts`: what the logbook counts after every run.
* `logbook_accounted_iff`: when the summary accounts for every entry.
* `logbook_loses_entries`: a run after which it does not.
-/

namespace StEcu

namespace Step

/-- An active session is stopped. -/
def endsSession (t : Step) : Bool := t.event.packet.cmd = .logStop ∧ t.src.log.active = true

/-- An output test that is forced on, and against the engine running, is accepted. -/
def forcesOutput (t : Step) : Bool :=
  t.event.packet.cmd = .runOutputTest ∧ t.output.cmd = .ack ∧
    t.event.packet.payload.getD 1 0 &&& 1 ≠ 0 ∧ t.event.packet.payload.getD 4 0 ≠ 0 ∧
    100 < t.src.live.lastReportedRpm

/-- The step empties the logbook. -/
def resetsLogbook (t : Step) : Bool :=
  t.event.packet.cmd = .resetLogbook ∧ t.output.cmd = .ack

/-- The elapsed time of the session, as the log has it when the step begins. -/
def sessionElapsedMs (t : Step) : UInt32 :=
  t.src.log.currentLogElapsedMs t.src.live.currentRuntimeMs

/-- The bytes that the session had written before the step. -/
def sessionBytesWritten (t : Step) : UInt32 := t.src.log.bytesWritten

end Step

/-- The steps of a history since the last reset of the logbook that was acknowledged. -/
def sinceReset (tr : List Step) : List Step :=
  tr.foldl (fun since t => if t.resetsLogbook then [] else since ++ [t]) []

/-- The sessions entered into the logbook, by the steps that end them. -/
def endedSessions (since : List Step) : List Step := since.filter Step.endsSession

/-- The summary accounts for every session and every forced output test, and for the elapsed times
and the bytes of the sessions up to the largest value of their sums. -/
structure LogbookAccounted (summary : LogbookSummaryPayload) (since : List Step) : Prop where
  sessions : summary.sessions.toNat = since.countP Step.endsSession
  entries : summary.entries.toNat =
    since.countP Step.endsSession + since.countP Step.forcesOutput
  totalElapsedMs : summary.totalElapsedMs.toNat =
    min ((endedSessions since).map fun t => t.sessionElapsedMs.toNat).sum 0xFFFFFFFF
  totalBytesWritten : summary.totalBytesWritten.toNat =
    min ((endedSessions since).map fun t => t.sessionBytesWritten.toNat).sum 0xFFFFFFFF

namespace DataLog

/-- What the logbook counts: the entries up to the largest value of their counter. -/
structure Counts (log : DataLog) (since : List Step) : Prop where
  sessions : log.totalSessions.toNat = min (since.countP Step.endsSession) 0xFFFFFFFF
  entries : log.logbookEntries.toNat =
    min (since.countP Step.endsSession + since.countP Step.forcesOutput) 0xFF
  totalElapsedMs : log.totalElapsedMs.toNat =
    min ((endedSessions since).map fun t => t.sessionElapsedMs.toNat).sum 0xFFFFFFFF
  totalBytesWritten : log.totalBytesWritten.toNat =
    min ((endedSessions since).map fun t => t.sessionBytesWritten.toNat).sum 0xFFFFFFFF

/-- The counters of the logbook are as they were. -/
structure SameBook (log log' : DataLog) : Prop where
  totalSessions : log'.totalSessions = log.totalSessions
  logbookEntries : log'.logbookEntries = log.logbookEntries
  totalElapsedMs : log'.totalElapsedMs = log.totalElapsedMs
  totalBytesWritten : log'.totalBytesWritten = log.totalBytesWritten

variable {log log' : DataLog} {since : List Step} {t : Step}

theorem sameBook_start (sampleCounter nowMs : UInt32) :
    log.SameBook (log.start sampleCounter nowMs) := by
  obtain ⟨_, _, _, _, _, heq⟩ := log.start_eq sampleCounter nowMs
  rw [heq]
  exact ⟨rfl, rfl, rfl, rfl⟩

theorem sameBook_appendLogSample (P : Platform) (nowMs : UInt32) (frame : LiveDataFrame) :
    log.SameBook (log.appendLogSample P nowMs frame) := by
  obtain ⟨_, _, _, _, heq⟩ := log.appendLogSample_eq P nowMs frame
  rw [heq]
  exact ⟨rfl, rfl, rfl, rfl⟩

/-- The end of a session is entered into the logbook. -/
theorem book_stop (hactive : log.active = true) (nowMs : UInt32) :
    (log.stop nowMs).totalSessions = log.totalSessions.saturatingAdd 1 ∧
      (log.stop nowMs).logbookEntries = log.logbookEntries.saturatingAdd 1 ∧
      (log.stop nowMs).totalElapsedMs =
        log.totalElapsedMs.saturatingAdd (log.currentLogElapsedMs nowMs) ∧
      (log.stop nowMs).totalBytesWritten =
        log.totalBytesWritten.saturatingAdd log.bytesWritten := by
  rw [stop, if_neg (by rw [hactive]; decide)]
  dsimp only
  split_ifs <;> exact ⟨rfl, rfl, rfl, rfl⟩

/-- One step more: a saturating sum over the sessions follows the session that the step ends, if it
ends one. -/
theorem sum_concat (amount : Step → UInt32) {total total' : UInt32}
    (h : total.toNat = min ((endedSessions since).map fun t => (amount t).toNat).sum 0xFFFFFFFF)
    (hstep : total' = if t.endsSession then total.saturatingAdd (amount t) else total) :
    total'.toNat =
      min ((endedSessions (since ++ [t])).map fun t => (amount t).toNat).sum 0xFFFFFFFF := by
  have hended : endedSessions (since ++ [t]) =
      endedSessions since ++ if t.endsSession then [t] else [] := by
    rw [endedSessions, List.filter_append, List.filter_singleton]
    cases t.endsSession <;> rfl
  rw [hstep, hended, List.map_append, List.sum_append]
  split_ifs
  · rw [UInt32.toNat_saturatingAdd, h, List.map_singleton, List.sum_singleton]
    omega
  · exact h

/-- One step more: the counters follow the entry that the step makes, if it makes one. -/
theorem Counts.concat (h : log.Counts since) (hone : t.endsSession = true → t.forcesOutput = false)
    (hsessions : log'.totalSessions =
      if t.endsSession then log.totalSessions.saturatingAdd 1 else log.totalSessions)
    (hentries : log'.logbookEntries =
      if t.endsSession || t.forcesOutput then log.logbookEntries.saturatingAdd 1
      else log.logbookEntries)
    (helapsed : log'.totalElapsedMs =
      if t.endsSession then log.totalElapsedMs.saturatingAdd t.sessionElapsedMs
      else log.totalElapsedMs)
    (hbytes : log'.totalBytesWritten =
      if t.endsSession then log.totalBytesWritten.saturatingAdd t.sessionBytesWritten
      else log.totalBytesWritten) : log'.Counts (since ++ [t]) := by
  have hcount (p : Step → Bool) :
      (since ++ [t]).countP p = since.countP p + if p t then 1 else 0 := by
    rw [List.countP_append, List.countP_singleton]
  have sixteen (n : UInt32) : (n.saturatingAdd 1).toNat = min (n.toNat + 1) 0xFFFFFFFF :=
    UInt32.toNat_saturatingAdd n 1
  refine ⟨?_, ?_, sum_concat _ h.totalElapsedMs helapsed, sum_concat _ h.totalBytesWritten hbytes⟩
  · rw [hsessions, hcount]
    split_ifs
    · rw [sixteen, h.sessions]
      omega
    · exact h.sessions
  · rw [hentries, hcount, hcount]
    cases hends : t.endsSession with
    | true =>
      rw [hone hends, Bool.true_or, if_pos rfl, UInt8.toNat_saturatingAdd, h.entries]
      change min (_ + 1) _ = min (_ + 1 + (_ + 0)) _
      omega
    | false =>
      cases hforces : t.forcesOutput with
      | true =>
        rw [Bool.or_true, if_pos rfl, UInt8.toNat_saturatingAdd, h.entries]
        change min (_ + 1) _ = min (_ + 0 + (_ + 1)) _
        omega
      | false => exact h.entries

theorem counts_nil (hsessions : log.totalSessions = 0) (hentries : log.logbookEntries = 0)
    (helapsed : log.totalElapsedMs = 0) (hbytes : log.totalBytesWritten = 0) : log.Counts [] :=
  ⟨by rw [hsessions]; rfl, by rw [hentries]; rfl, by rw [helapsed]; rfl, by rw [hbytes]; rfl⟩

end DataLog

/-! ### Steps and runs -/

variable {P : Platform} {A : Catalogue} {t : Step} {since : List Step}

/-- A step that makes no entry. -/
theorem DataLog.Counts.keep {log log' : DataLog} (h : log.Counts since) (hsame : log.SameBook log')
    (hends : t.endsSession = false) (hforces : t.forcesOutput = false) :
    log'.Counts (since ++ [t]) :=
  h.concat (fun _ => hforces) (by rw [hends]; exact hsame.totalSessions)
    (by rw [hends, hforces]; exact hsame.logbookEntries)
    (by rw [hends]; exact hsame.totalElapsedMs) (by rw [hends]; exact hsame.totalBytesWritten)

theorem not_resetsLogbook (hcmd : t.event.packet.cmd ≠ .resetLogbook) : t.resetsLogbook = false :=
  decide_eq_false fun h => hcmd h.1

theorem not_endsSession (hcmd : t.event.packet.cmd ≠ .logStop) : t.endsSession = false :=
  decide_eq_false fun h => hcmd h.1

theorem not_forcesOutput (hcmd : t.event.packet.cmd ≠ .runOutputTest) : t.forcesOutput = false :=
  decide_eq_false fun h => hcmd h.1

/-- A step of any other command makes no entry. -/
theorem DataLog.Counts.other (h : t.src.log.Counts since) (hsame : t.src.log.SameBook t.dst.log)
    (hcmd : t.event.packet.cmd ∉ [Cmd.resetLogbook, .logStop, .runOutputTest]) :
    t.dst.log.Counts (if t.resetsLogbook then [] else since ++ [t]) := by
  simp only [List.mem_cons, List.not_mem_nil, or_false, not_or] at hcmd
  rw [not_resetsLogbook hcmd.1]
  exact h.keep hsame (not_endsSession hcmd.2.1) (not_forcesOutput hcmd.2.2)

/-- An accepted output test leaves a marker where it is forced on against a running engine. -/
theorem checkOutputTest_ok {r : FirmwareRuntime} {payload : Bytes} {audit : Bool}
    (h : r.checkOutputTest payload = .ok audit) :
    audit = (payload.getD 1 0 &&& 1 != 0 && payload.getD 4 0 != 0 &&
      decide (100 < r.live.lastReportedRpm)) := by
  unfold FirmwareRuntime.checkOutputTest at h
  dsimp only at h
  split_ifs at h
  exact (Except.ok.inj h).symm

/-- Stopping the log ends the session, where there is one. -/
theorem DataLog.Counts.logStop (h : t.src.log.Counts since) (hcmd : t.event.packet.cmd = .logStop) :
    (t.src.log.stop t.src.live.currentRuntimeMs).Counts (since ++ [t]) := by
  have hforces := not_forcesOutput (t := t) (by rw [hcmd]; decide)
  cases hactive : t.src.log.active with
  | false =>
    refine h.keep ?_ (decide_eq_false fun h => by rw [hactive] at h; cases h.2) hforces
    rw [DataLog.stop, if_pos (by rw [hactive]; rfl)]
    exact ⟨rfl, rfl, rfl, rfl⟩
  | true =>
    have hends : t.endsSession = true := decide_eq_true ⟨hcmd, hactive⟩
    obtain ⟨hsessions, hentries, helapsed, hbytes⟩ :=
      DataLog.book_stop hactive t.src.live.currentRuntimeMs
    refine h.concat (fun _ => hforces) ?_ ?_ ?_ ?_ <;> rw [hends]
    · exact hsessions
    · exact hentries
    · exact helapsed
    · exact hbytes

/-- The marker of an output test that is forced on. -/
theorem DataLog.Counts.marker {log : DataLog} (h : log.Counts since)
    (hends : t.endsSession = false) (hforces : t.forcesOutput = true) :
    log.recordLogbookAuditMarker.Counts (since ++ [t]) := by
  refine h.concat (fun hboth => by rw [hends] at hboth; cases hboth) ?_ ?_ ?_ ?_ <;> rw [hends]
  · rfl
  · rw [hforces]
    rfl
  · rfl
  · rfl

/-- **What a step does to the logbook.** -/
theorem step_counts (ht : (firmware P A).Step t) (hs : t.src.Sound P)
    (h : t.src.log.Counts since) :
    t.dst.log.Counts (if t.resetsLogbook then [] else since ++ [t]) := by
  cases step_activity ht hs with
  | other hcmd hsame =>
    refine h.other ?_ ?_
    · rw [hsame.log_eq]
      exact ⟨rfl, rfl, rfl, rfl⟩
    · intro hmem
      simp only [List.mem_cons, List.not_mem_nil, or_false] at hmem
      rcases hmem with hmem | hmem | hmem <;> rw [hmem] at hcmd <;> cases hcmd
  | rejected hcmd hnack hdst =>
    have hreset : t.resetsLogbook = false :=
      decide_eq_false fun h => by rw [hnack] at h; cases h.2
    have hforces : t.forcesOutput = false :=
      decide_eq_false fun h => by rw [hnack] at h; cases h.2.1
    have hends : t.endsSession = false :=
      decide_eq_false fun h => by rw [h.1] at hcmd; cases hcmd
    rw [hreset, hdst]
    exact h.keep ⟨rfl, rfl, rfl, rfl⟩ hends hforces
  | sampled hcmd hdst =>
    refine h.other ?_ (by rw [hcmd]; decide)
    rw [hdst]
    exact DataLog.sameBook_appendLogSample P _ _
  | logStarted hcmd hdst =>
    refine h.other ?_ (by rw [hcmd]; decide)
    rw [hdst]
    exact DataLog.sameBook_start _ _
  | logStopped hcmd hdst =>
    rw [not_resetsLogbook (by rw [hcmd]; decide), hdst]
    exact h.logStop hcmd
  | logbookReset hcmd hactive hdst hack =>
    have hreset : t.resetsLogbook = true := decide_eq_true ⟨hcmd, by rw [hack]; rfl⟩
    rw [hreset, hdst]
    exact DataLog.counts_nil rfl rfl rfl rfl
  | rtcSynced epochMs hcmd _ _ hdst =>
    refine h.other ?_ (by rw [hcmd]; decide)
    rw [hdst]
    exact ⟨rfl, rfl, rfl, rfl⟩
  | outputTested audit hcmd hcheck hdst hack =>
    have hends := not_endsSession (t := t) (by rw [hcmd]; decide)
    have hforces : t.forcesOutput = audit := by
      rw [checkOutputTest_ok hcheck, Step.forcesOutput, hcmd, hack, Bool.eq_iff_iff]
      simp [ack, FirmwareRuntime.tickUpdateHealthWindow, and_assoc]
      exact fun _ _ => decide_eq_true_iff.symm
    rw [not_resetsLogbook (by rw [hcmd]; decide), hdst]
    cases audit with
    | false => exact h.keep ⟨rfl, rfl, rfl, rfl⟩ hends hforces
    | true => exact h.marker hends hforces
  | tableWritten _ _ _ hcmd _ _ _ _ hdst | cellWritten _ _ _ _ hcmd _ hdst
  | codesCleared hcmd hdst =>
    refine h.other ?_ (by rw [hcmd]; decide)
    rw [hdst]
    exact ⟨rfl, rfl, rfl, rfl⟩

/-- **What the logbook counts after every run.** -/
theorem run_logbook_counts {r₀ r : FirmwareRuntime} {tr : List Step}
    (hrun : (firmware P A).Run r₀ tr r) (hs : r₀.Sound P) (h₀ : r₀.log.Counts []) :
    r.log.Counts (sinceReset tr) := by
  induction hrun with
  | nil => exact h₀
  | snoc hprefix hstep ih =>
    rw [sinceReset, List.foldl_append]
    exact step_counts hstep (run_sound hprefix hs) ih

theorem DataLog.Counts.accounted_iff {log : DataLog} (h : log.Counts since) :
    LogbookAccounted log.buildLogbookSummary since ↔
      since.countP Step.endsSession + since.countP Step.forcesOutput ≤ 255 := by
  have hentries : log.buildLogbookSummary.entries.toNat = log.logbookEntries.toNat :=
    UInt8.toNat_toUInt16 _
  rw [h.entries] at hentries
  constructor
  · intro haccounted
    rw [haccounted.entries] at hentries
    omega
  · intro hfew
    refine ⟨?_, by rw [hentries]; omega, h.totalElapsedMs, h.totalBytesWritten⟩
    change log.totalSessions.toNat = _
    rw [h.sessions]
    omega

theorem counts_of_run {identity : FirmwareIdentity} {simulator : Bool} {s : ConfigStore}
    {r₀ r : FirmwareRuntime} {tr : List Step} (hs : ReachableStore P A s)
    (hboot : FirmwareRuntime.newWithStore P identity simulator s = some r₀)
    (hrun : (firmware P A).Run r₀ tr r) : r.log.Counts (sinceReset tr) := by
  refine run_logbook_counts hrun (FirmwareRuntime.booted_of_newWithStore hs.wellFormed hboot).sound
    ?_
  rw [(FirmwareRuntime.fresh_of_newWithStore hboot).2.1]
  exact DataLog.counts_nil rfl rfl rfl rfl

/-- **The summary accounts for every entry as long as there are at most 255 of them.** After every
run: the sessions ended and the output tests forced since the start or the last reset. -/
theorem logbook_accounted_iff {identity : FirmwareIdentity} {simulator : Bool} {s : ConfigStore}
    {r₀ r : FirmwareRuntime} {tr : List Step} (hs : ReachableStore P A s)
    (hboot : FirmwareRuntime.newWithStore P identity simulator s = some r₀)
    (hrun : (firmware P A).Run r₀ tr r) :
    LogbookAccounted r.log.buildLogbookSummary (sinceReset tr) ↔
      (sinceReset tr).countP Step.endsSession + (sinceReset tr).countP Step.forcesOutput ≤ 255 :=
  (counts_of_run hs hboot hrun).accounted_iff

/-! ### A long logbook -/

/-- A number of sessions, each started and stopped. -/
def logSessions (sessions : ℕ) : List Packet :=
  (List.replicate sessions [⟨.logStart, []⟩, ⟨.logStop, []⟩]).flatten

/-- Each of the sessions is entered into the logbook, and nothing else is. -/
theorem countP_logSessions (r : FirmwareRuntime) (sessions : ℕ) {tr : List Step}
    (htr : tr = TransitionSystem.trace (handle P A) r
      ((logSessions sessions).map fun packet => ⟨⟨0, 0, none⟩, packet⟩)) :
    tr.countP Step.endsSession = sessions ∧ tr.countP Step.forcesOutput = 0 ∧
      ∀ t ∈ tr, Step.resetsLogbook t = false := by
  induction sessions generalizing r tr with
  | zero =>
    rw [htr]
    exact ⟨rfl, rfl, fun t ht => (List.not_mem_nil ht).elim⟩
  | succ sessions ih =>
    let started := Step.of P A r ⟨⟨0, 0, none⟩, ⟨.logStart, []⟩⟩
    let stopped := Step.of P A started.dst ⟨⟨0, 0, none⟩, ⟨.logStop, []⟩⟩
    have hcons : tr = started :: stopped :: TransitionSystem.trace (handle P A) stopped.dst
        ((logSessions sessions).map fun packet => ⟨⟨0, 0, none⟩, packet⟩) := by
      rw [htr, logSessions, List.replicate_succ]
      rfl
    obtain ⟨hends, hforces, hresets⟩ := ih stopped.dst rfl
    have hactive : started.dst.log.active = true := by
      obtain ⟨_, _, _, _, _, heq⟩ := r.log.start_eq r.live.liveSampleCounter r.live.currentRuntimeMs
      exact congrArg DataLog.active heq
    have hstarted : started.endsSession = false := not_endsSession nofun
    have hstopped : stopped.endsSession = true := decide_eq_true ⟨rfl, hactive⟩
    have hstarted' : started.forcesOutput = false := not_forcesOutput nofun
    have hstopped' : stopped.forcesOutput = false := not_forcesOutput nofun
    rw [hcons]
    refine ⟨?_, ?_, fun t ht => ?_⟩
    · rw [List.countP_cons, List.countP_cons, hends, hstarted, hstopped]
      rfl
    · rw [List.countP_cons, List.countP_cons, hforces, hstarted', hstopped']
      rfl
    · rcases List.mem_cons.mp ht with rfl | ht
      · exact not_resetsLogbook nofun
      rcases List.mem_cons.mp ht with rfl | ht
      · exact not_resetsLogbook nofun
      · exact hresets t ht

theorem sinceReset_eq_self {tr : List Step} (h : ∀ t ∈ tr, t.resetsLogbook = false) :
    sinceReset tr = tr := by
  induction tr using List.reverseRecOn with
  | nil => rfl
  | append_singleton tr t ih =>
    rw [sinceReset, List.foldl_append, ← sinceReset, ih fun u hu => h u (List.mem_append_left _ hu),
      List.foldl_cons, List.foldl_nil, h t (List.mem_append_right _ (List.mem_singleton_self t))]
    rfl

/-- A board that has started and stopped a number of sessions. -/
theorem exists_run_logSessions {identity : FirmwareIdentity} {simulator : Bool} {s : ConfigStore}
    {r₀ : FirmwareRuntime} (hs : ReachableStore P A s)
    (hboot : FirmwareRuntime.newWithStore P identity simulator s = some r₀) (sessions : ℕ) :
    ∃ tr r, (firmware P A).Run r₀ tr r ∧
      tr.map (fun t => t.event.packet) = logSessions sessions ∧
      (sinceReset tr).countP Step.endsSession = sessions ∧
      (sinceReset tr).countP Step.forcesOutput = 0 ∧ r.log.Counts (sinceReset tr) := by
  have hrun := TransitionSystem.run_trace (handle P A) r₀
    ((logSessions sessions).map fun packet => ⟨⟨0, 0, none⟩, packet⟩)
  have hpackets := congrArg (List.map Input.packet) (TransitionSystem.map_event_trace (handle P A)
    r₀ ((logSessions sessions).map fun packet => ⟨⟨0, 0, none⟩, packet⟩))
  rw [List.map_map, List.map_map] at hpackets
  obtain ⟨hends, hforces, hresets⟩ := countP_logSessions r₀ sessions rfl
  refine ⟨_, _, hrun, hpackets.trans (List.map_id _), ?_, ?_, counts_of_run hs hboot hrun⟩
  · rw [sinceReset_eq_self hresets, hends]
  · rw [sinceReset_eq_self hresets, hforces]

/-- **A long logbook is not accounted for.** After 256 sessions, the summary has all the sessions
and one entry less. -/
theorem logbook_loses_entries : ∃ r₀ tr r,
    FirmwareRuntime.newWithStore referencePlatform .ecuV1 false (.newZeroed referencePlatform) =
      some r₀ ∧
    (firmware referencePlatform referenceCatalogue).Run r₀ tr r ∧
    tr.map (fun t => t.event.packet) = logSessions 256 ∧
    (sinceReset tr).countP Step.endsSession = 256 ∧
    r.log.buildLogbookSummary.sessions = 256 ∧ r.log.buildLogbookSummary.entries = 255 ∧
    ¬ LogbookAccounted r.log.buildLogbookSummary (sinceReset tr) := by
  obtain ⟨r₀, hboot, -⟩ := exists_reachable_new (P := referencePlatform) (A := referenceCatalogue)
    .ecuV1 false
  obtain ⟨tr, r, hrun, hpackets, hends, hforces, hcounts⟩ :=
    exists_run_logSessions (A := referenceCatalogue) .newZeroed hboot 256
  have hsessions := hcounts.sessions
  have hentries := hcounts.entries
  rw [hends] at hsessions
  rw [hends, hforces] at hentries
  refine ⟨r₀, tr, r, hboot, hrun, hpackets, hends, UInt32.toNat_inj.mp hsessions,
    UInt16.toNat_inj.mp ((UInt8.toNat_toUInt16 _).trans hentries), ?_⟩
  rw [hcounts.accounted_iff, hends, hforces]
  decide

/-- A new board that has stopped one session. -/
theorem logbook_accounted_iff_ecuV1 : ∃ r₀ tr r,
    FirmwareRuntime.newWithStore referencePlatform .ecuV1 false (.newZeroed referencePlatform) =
      some r₀ ∧
    (firmware referencePlatform referenceCatalogue).Run r₀ tr r ∧
    tr.map (fun t => t.event.packet) = logSessions 1 ∧
    LogbookAccounted r.log.buildLogbookSummary (sinceReset tr) := by
  obtain ⟨r₀, hboot, -⟩ := exists_reachable_new (P := referencePlatform) (A := referenceCatalogue)
    .ecuV1 false
  obtain ⟨tr, r, hrun, hpackets, hends, hforces, -⟩ :=
    exists_run_logSessions (A := referenceCatalogue) .newZeroed hboot 1
  refine ⟨r₀, tr, r, hboot, hrun, hpackets, (logbook_accounted_iff .newZeroed hboot hrun).mpr ?_⟩
  rw [hends, hforces]
  decide

end StEcu
