import Mathlib.Tactic.Linarith
import Mathlib.Tactic.NormNum
import StEcu.Transport.LogSession
import StEcu.Transport.Reference

/-!
# A log session that cannot be read back

Six hundred thousand live samples, which are three hours and twenty minutes of logging, fill more
than 65535 blocks. How long the lines of the log are follows from the ranges of the channels in them
and from how numbers are written with a fixed number of decimals.

## Main definitions

* `fixedDecimals`, `loggingPlatform`: the reference platform with numbers written in decimals.

## Main results

* `length_logSampleLine`: a line has between 31 and 1000 bytes.
* `exists_logSession`: a session has as many lines as samples.
* `long_session_not_read_back`: the session.
-/

namespace StEcu

/-! ### Numbers with a fixed number of decimals -/

/-- `format!("{:.n}")`. -/
def fixedDecimals (decimals : ℕ) (x : ℚ) : String :=
  let scaled := (roundHalfEven (|x| * 10 ^ decimals)).toNat
  let sign := if x < 0 then "-" else ""
  let whole := sign ++ toString (scaled / 10 ^ decimals)
  if decimals = 0 then whole
  else
    let fraction := toString (scaled % 10 ^ decimals)
    whole ++ "." ++ String.ofList (List.replicate (decimals - fraction.length) '0') ++ fraction

example : fixedDecimals 1 (177 / 2) = "88.5" := by decide +kernel

example : fixedDecimals 4 (249 / 250) = "0.9960" := by decide +kernel

/-- The reference platform, which writes numbers as the library does. -/
def loggingPlatform : Platform := { referencePlatform with formatFixed := fixedDecimals }

/-- A number of at most four digits takes at most a hundred bytes. -/
theorem length_fixedDecimals_le (decimals : ℕ) {x : ℚ} (hdecimals : decimals ≤ 4)
    (hx : |x| ≤ 9999) : (utf8 (fixedDecimals decimals x)).length ≤ 100 := by
  have hpow : (10 : ℚ) ^ decimals ≤ 10 ^ 4 := by
    exact_mod_cast Nat.pow_le_pow_right (by decide) hdecimals
  have hscaled : |x| * 10 ^ decimals ≤ 99990000 := by
    calc |x| * 10 ^ decimals ≤ 9999 * 10 ^ 4 := by gcongr
      _ = 99990000 := by norm_num
  have hfloor : ⌊|x| * 10 ^ decimals⌋ ≤ 99990000 := Int.floor_le_iff.mpr (by push_cast; linarith)
  have hround := roundHalfEven_le (|x| * 10 ^ decimals)
  rw [fixedDecimals]
  dsimp only
  generalize hs : (roundHalfEven (|x| * 10 ^ decimals)).toNat = scaled
  have hlt : scaled < 10 ^ 8 := by omega
  have hwhole := length_utf8_toString_le (k := 8) (by decide)
    ((Nat.div_le_self scaled (10 ^ decimals)).trans_lt hlt)
  have hfraction := length_utf8_toString_le (k := 8) (by decide)
    ((Nat.mod_le scaled (10 ^ decimals)).trans_lt hlt)
  have hzeros := length_utf8_ofList_le
    (List.replicate (decimals - (toString (scaled % 10 ^ decimals)).length) '0')
  rw [List.length_replicate] at hzeros
  have hsign : (utf8 (if x < 0 then "-" else "")).length ≤ 1 := by
    split_ifs
    · exact Nat.le_refl 1
    · exact Nat.zero_le 1
  have hpoint : (utf8 ".").length = 1 := rfl
  generalize (if x < 0 then "-" else "") = sign at hsign ⊢
  split_ifs with hzero
  · rw [length_utf8_append]
    omega
  · simp only [length_utf8_append, hpoint]
    omega

/-! ### The channels of a line -/

/-- The channels that a line shows, and the one that takes the place of the manifold pressure after
a shutdown. -/
def LiveDataFrame.lineChannels (frame : LiveDataFrame) : List ℚ :=
  [frame.rpm, frame.mapKpa, frame.tpsPct, frame.lambda, frame.coolantC, frame.baroKpa]

/-- A frame whose line is short. -/
def LiveDataFrame.Bounded (frame : LiveDataFrame) : Prop := ∀ x ∈ frame.lineChannels, |x| ≤ 9999

theorem bounded_iff {frame : LiveDataFrame} : frame.Bounded ↔ |frame.rpm| ≤ 9999 ∧
    |frame.mapKpa| ≤ 9999 ∧ |frame.tpsPct| ≤ 9999 ∧ |frame.lambda| ≤ 9999 ∧
    |frame.coolantC| ≤ 9999 ∧ |frame.baroKpa| ≤ 9999 := by
  simp [LiveDataFrame.Bounded, LiveDataFrame.lineChannels]

theorem LiveDataFrame.Bounded.congr {frame frame' : LiveDataFrame} (h : frame.Bounded)
    (heq : frame'.lineChannels = frame.lineChannels) : frame'.Bounded := by
  rwa [LiveDataFrame.Bounded, heq]

theorem bounded_engineFrame (counter timestampMs : UInt32) (syncLossCounter : UInt8)
    (shifting : Bool) : (engineFrame counter timestampMs syncLossCounter shifting).Bounded := by
  rw [bounded_iff]
  simp only [engineFrame, abs_le]
  cases shifting <;> norm_num

theorem lineChannels_actuatorStage (P : Platform) (config : ActuatorRuntimeConfig) (shifting : Bool)
    (frame : LiveDataFrame) :
    (actuatorStage P config shifting frame).lineChannels = frame.lineChannels := by
  obtain ⟨_, _, _, _, _, heq⟩ := actuatorStage_eq P config shifting frame
  rw [heq]
  rfl

theorem bounded_widebandStage {sample : WidebandSample} {frame : LiveDataFrame}
    (h : frame.Bounded) (hlambda : |sample.lambdaPrimary| ≤ 9999) :
    (widebandStage sample frame).Bounded := by
  obtain ⟨_, _, heq⟩ := widebandStage_eq sample frame
  rw [bounded_iff] at h
  rw [heq, bounded_iff]
  obtain ⟨hrpm, hmap, htps, -, hclt, hbaro⟩ := h
  exact ⟨hrpm, hmap, htps, hlambda, hclt, hbaro⟩

theorem abs_min_le {x y bound : ℚ} (hx : |x| ≤ bound) (hy : |y| ≤ bound) : |min x y| ≤ bound := by
  rw [abs_le] at hx hy ⊢
  exact ⟨le_min hx.1 hy.1, min_le_of_left_le hx.2⟩

theorem bounded_applyProtectionAction (action : ProtectionAction) {frame : LiveDataFrame}
    (h : frame.Bounded) : (applyProtectionAction action frame).Bounded := by
  cases action with
  | limpMode =>
    rw [bounded_iff] at h ⊢
    obtain ⟨hrpm, hmap, htps, hlambda, hclt, hbaro⟩ := h
    exact ⟨abs_min_le hrpm (by norm_num), hmap, abs_min_le htps (by norm_num), hlambda, hclt, hbaro⟩
  | shutdown =>
    rw [bounded_iff] at h ⊢
    obtain ⟨_, _, _, hlambda, hclt, hbaro⟩ := h
    exact ⟨by norm_num [applyProtectionAction], hbaro, by norm_num [applyProtectionAction], hlambda,
      hclt, hbaro⟩
  | none | ignitionRetard | sparkCut | fuelEnrich | fuelCut | sparkAndFuelCut => exact h.congr rfl

theorem bounded_protectionStage {frame : LiveDataFrame} (state : ProtectionState)
    (action : ProtectionAction) (h : frame.Bounded) :
    (protectionStage state action frame).Bounded := by
  obtain ⟨_, _, heq⟩ := protectionStage_eq state action frame
  rw [heq]
  exact bounded_applyProtectionAction action (h.congr rfl)

theorem lineChannels_rotationalStage (sample : RotationalIdleSample) (frame : LiveDataFrame) :
    (rotationalStage sample frame).lineChannels = frame.lineChannels := by
  obtain ⟨_, heq⟩ := rotationalStage_eq sample frame
  rw [heq]
  rfl

theorem lineChannels_transmissionStage (sample : TransmissionSample) (frame : LiveDataFrame) :
    (transmissionStage sample frame).lineChannels = frame.lineChannels := rfl

/-- The lambda of a sample, in any source and with any ripple. -/
theorem lambdaPrimary_tick (w : WidebandRuntime) (sampleCounter : UInt32) (engineRunning : Bool) :
    |(w.tick sampleCounter engineRunning).2.lambdaPrimary| ≤ 9999 := by
  have hripple : ((sampleCounter % 17).toNat : ℚ) ≤ 16 := by
    rw [UInt32.toNat_mod]
    exact_mod_cast Nat.le_of_lt_succ (Nat.mod_lt sampleCounter.toNat (by decide))
  have hripple' : (0 : ℚ) ≤ (sampleCounter % 17).toNat := Nat.cast_nonneg _
  rw [abs_le, WidebandRuntime.tick]
  cases engineRunning with
  | false =>
    rw [if_pos (by decide)]
    norm_num [WidebandSample.engineOff]
  | true =>
    rw [if_neg (by decide)]
    dsimp only
    split_ifs <;> constructor <;> linarith

theorem bounded_buildLiveDataFrame (P : Platform) (live : LiveState) (page0 : Option Bytes) :
    (buildLiveDataFrame P live page0).2.Bounded := by
  rw [buildLiveDataFrame]
  obtain ⟨tcuRuntime, tcu⟩ := live.tcuRuntime.tick (live.liveSampleCounter + 1)
  dsimp only
  refine LiveDataFrame.Bounded.congr ?_ (lineChannels_transmissionStage _ _)
  refine LiveDataFrame.Bounded.congr ?_ (lineChannels_rotationalStage _ _)
  refine bounded_protectionStage _ _ (bounded_widebandStage ?_ (lambdaPrimary_tick _ _ _))
  exact LiveDataFrame.Bounded.congr (bounded_engineFrame _ _ _ _)
    (lineChannels_actuatorStage _ _ _ _)

/-! ### The length of a line -/

open DataLog

theorem length_logSampleLine {live : LiveState} {page0 : Option Bytes} :
    31 ≤ (utf8 (logSampleLine loggingPlatform
        (buildLiveDataFrame loggingPlatform live page0).2)).length ∧
      (utf8 (logSampleLine loggingPlatform
        (buildLiveDataFrame loggingPlatform live page0).2)).length ≤ 1000 := by
  have hbounded := bounded_buildLiveDataFrame loggingPlatform live page0
  generalize (buildLiveDataFrame loggingPlatform live page0).2 = frame at hbounded ⊢
  obtain ⟨hrpm, hmap, htps, hlambda, hclt, -⟩ := bounded_iff.mp hbounded
  have hms := length_utf8_toString_le (k := 10) (by decide)
    ((UInt32.toNat_lt frame.timestampMs).trans (by decide))
  have hrpm' := length_fixedDecimals_le 0 (by decide) hrpm
  have hmap' := length_fixedDecimals_le 1 (by decide) hmap
  have htps' := length_fixedDecimals_le 1 (by decide) htps
  have hlambda' := length_fixedDecimals_le 4 (by decide) hlambda
  have hclt' := length_fixedDecimals_le 1 (by decide) hclt
  have hliterals : (utf8 "t=").length = 2 ∧ (utf8 " rpm=").length = 5 ∧
      (utf8 " map=").length = 5 ∧ (utf8 " tps=").length = 5 ∧ (utf8 " lambda=").length = 8 ∧
      (utf8 " clt=").length = 5 ∧ (utf8 "\n").length = 1 := ⟨rfl, rfl, rfl, rfl, rfl, rfl, rfl⟩
  unfold logSampleLine
  simp only [length_utf8_append, hliterals, loggingPlatform]
  omega

/-! ### The session -/

variable {A : Catalogue} {r : FirmwareRuntime} {stream : Bytes}

theorem log_sampleLiveData {P : Platform} (hactive : r.log.active = true) :
    ∃ nowMs, (r.sampleLiveData P).1.log =
      r.log.appendLogBytes nowMs (utf8 (logSampleLine P (r.sampleLiveData P).2)) := by
  rw [FirmwareRuntime.sampleLiveData]
  obtain ⟨live, frame⟩ := buildLiveDataFrame P r.live
    (r.store.readPage ConfigPage.baseEngineFuelComm.id)
  refine ⟨live.currentRuntimeMs, ?_⟩
  dsimp only
  rw [appendLogSample, hactive, if_neg (by decide)]

/-- A live sample of an active session is logged. -/
theorem log_handle_getLiveData {P : Platform} {input : Input}
    (hcmd : input.packet.cmd = .getLiveData) (hactive : r.log.active = true) :
    ∃ nowMs, (handle P A r input).1.log =
      r.log.appendLogBytes nowMs (utf8 (logSampleLine P (r.sampleLiveData P).2)) := by
  obtain ⟨nowMs, hlog⟩ := log_sampleLiveData (P := P)
    (r := r.tickUpdateHealthWindow input.clock.tick) hactive
  refine ⟨nowMs, ?_⟩
  rw [handle, FirmwareRuntime.handlePacket, FirmwareRuntime.dispatch, hcmd]
  exact hlog

/-- Samples of an active session, one after the other. -/
theorem length_logged_samples (inputs : List Input)
    (hcmd : ∀ input ∈ inputs, input.packet.cmd = .getLiveData) (h : r.log.Holds stream)
    (hactive : r.log.active = true) :
    stream.length + 31 * inputs.length ≤
        ((TransitionSystem.trace (handle loggingPlatform A) r inputs).foldl
          (Step.logged loggingPlatform) stream).length ∧
      ((TransitionSystem.trace (handle loggingPlatform A) r inputs).foldl
          (Step.logged loggingPlatform) stream).length ≤
        stream.length + 1000 * inputs.length := by
  induction inputs generalizing r stream with
  | nil => exact ⟨Nat.le_refl _, Nat.le_refl _⟩
  | cons input inputs ih =>
    have hinput := hcmd input List.mem_cons_self
    obtain ⟨nowMs, hlog⟩ := log_handle_getLiveData (A := A) (P := loggingPlatform) hinput hactive
    obtain ⟨hnext, hon⟩ := h.appendLogBytes hactive nowMs
      (utf8 (logSampleLine loggingPlatform (r.sampleLiveData loggingPlatform).2))
    rw [← hlog] at hnext hon
    have hrest := ih (fun input' h' => hcmd input' (List.mem_cons_of_mem _ h')) hnext hon
    have hline : 31 ≤ (utf8 (logSampleLine loggingPlatform
          (r.sampleLiveData loggingPlatform).2)).length ∧
        (utf8 (logSampleLine loggingPlatform
          (r.sampleLiveData loggingPlatform).2)).length ≤ 1000 := length_logSampleLine
    have hlogged : Step.logged loggingPlatform stream ⟨r, input,
        (handle loggingPlatform A r input).2, (handle loggingPlatform A r input).1⟩ =
          stream ++ utf8 (logSampleLine loggingPlatform (r.sampleLiveData loggingPlatform).2) := by
      simp only [Step.logged, hinput, hactive, if_true]
    rw [TransitionSystem.trace, List.foldl_cons, hlogged]
    rw [List.length_append] at hrest
    rw [List.length_cons]
    omega

/-- The start of a session and a number of live samples. -/
def logSession (samples : ℕ) : List Packet :=
  ⟨.logStart, []⟩ :: List.replicate samples ⟨.getLiveData, []⟩

theorem length_loggedBytes_logSession (r : FirmwareRuntime) (hempty : r.log.Holds [])
    (samples : ℕ) : ∃ tr r',
    (firmware loggingPlatform A).Run r tr r' ∧
      tr.map (fun t => t.event.packet) = logSession samples ∧
      31 * samples ≤ (loggedBytes loggingPlatform tr).length ∧
      (loggedBytes loggingPlatform tr).length ≤ 100 + 1000 * samples := by
  have hrun := TransitionSystem.run_trace (handle loggingPlatform A) r
    ((logSession samples).map fun packet => ⟨⟨0, 0, none⟩, packet⟩)
  refine ⟨_, _, hrun, ?_, ?_⟩
  · have hpackets := congrArg (List.map Input.packet) (TransitionSystem.map_event_trace
      (handle loggingPlatform A) r
      ((logSession samples).map fun packet => ⟨⟨0, 0, none⟩, packet⟩))
    rw [List.map_map, List.map_map] at hpackets
    exact hpackets.trans (List.map_id _)
  · have hstart : ((handle loggingPlatform A r ⟨⟨0, 0, none⟩, ⟨.logStart, []⟩⟩).1.log).Holds
        (utf8 (r.log.header r.live.currentRuntimeMs)) := (hempty.start _ _).1
    have hheader := r.log.length_header_le r.live.currentRuntimeMs
    have hsamples := length_logged_samples (A := A)
      ((List.replicate samples ⟨.getLiveData, []⟩).map fun packet => ⟨⟨0, 0, none⟩, packet⟩)
      (by simp) hstart (hempty.start _ _).2
    rw [List.length_map, List.length_replicate] at hsamples
    rw [loggedBytes, logSession, List.map_cons, TransitionSystem.trace, List.foldl_cons]
    change 31 * samples ≤ (List.foldl _ (utf8 (r.log.header r.live.currentRuntimeMs)) _).length ∧
      (List.foldl _ (utf8 (r.log.header r.live.currentRuntimeMs)) _).length ≤ 100 + 1000 * samples
    omega

/-- A session on a new board: its stream is the header and a number of samples. -/
theorem exists_logSession (samples : ℕ) : ∃ r₀ tr r,
    FirmwareRuntime.newWithStore loggingPlatform .ecuV1 false (.newZeroed loggingPlatform) =
      some r₀ ∧
    (firmware loggingPlatform referenceCatalogue).Run r₀ tr r ∧
    tr.map (fun t => t.event.packet) = logSession samples ∧
    31 * samples ≤ (loggedBytes loggingPlatform tr).length ∧
    (loggedBytes loggingPlatform tr).length ≤ 100 + 1000 * samples := by
  obtain ⟨r₀, hboot, -⟩ := exists_reachable_new (P := loggingPlatform) (A := referenceCatalogue)
    .ecuV1 false
  have hempty : r₀.log.Holds [] := by
    rw [(FirmwareRuntime.fresh_of_newWithStore hboot).2.1]
    exact DataLog.holds_nil rfl rfl rfl rfl
  obtain ⟨tr, r, hrun, hpackets, hmin, hmax⟩ :=
    length_loggedBytes_logSession (A := referenceCatalogue) r₀ hempty samples
  exact ⟨r₀, tr, r, hboot, hrun, hpackets, hmin, hmax⟩

/-- **A long session is not read back.** Six hundred thousand live samples are more than 18 MB and
less than 4 GiB. -/
theorem long_session_not_read_back : ∃ r₀ tr r,
    FirmwareRuntime.newWithStore loggingPlatform .ecuV1 false (.newZeroed loggingPlatform) =
      some r₀ ∧
    (firmware loggingPlatform referenceCatalogue).Run r₀ tr r ∧
    tr.map (fun t => t.event.packet) = logSession 600000 ∧
    (loggedBytes loggingPlatform tr).length < 2 ^ 32 ∧
    ¬ r.ReadsBack loggingPlatform referenceCatalogue (loggedBytes loggingPlatform tr) := by
  obtain ⟨r₀, tr, r, hboot, hrun, hpackets, hmin, hmax⟩ := exists_logSession 600000
  have hsize : (loggedBytes loggingPlatform tr).length < 2 ^ 32 := by omega
  refine ⟨r₀, tr, r, hboot, hrun, hpackets, hsize, ?_⟩
  rw [FirmwareRuntime.readsBack_iff (log_holds_of_run .newZeroed hboot hrun) hsize]
  omega

/-- A session of three hundred live samples, which fill at least 36 blocks, is read back. -/
theorem log_reads_back_iff_ecuV1 : ∃ r₀ tr r,
    FirmwareRuntime.newWithStore loggingPlatform .ecuV1 false (.newZeroed loggingPlatform) =
      some r₀ ∧
    (firmware loggingPlatform referenceCatalogue).Run r₀ tr r ∧
    tr.map (fun t => t.event.packet) = logSession 300 ∧
    36 * 256 ≤ (loggedBytes loggingPlatform tr).length ∧
    r.ReadsBack loggingPlatform referenceCatalogue (loggedBytes loggingPlatform tr) := by
  obtain ⟨r₀, tr, r, hboot, hrun, hpackets, hmin, hmax⟩ := exists_logSession 300
  exact ⟨r₀, tr, r, hboot, hrun, hpackets, by omega,
    (log_reads_back_iff .newZeroed hboot hrun (by omega)).mpr (by omega)⟩

end StEcu
