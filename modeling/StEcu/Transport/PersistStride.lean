import StEcu.Transport.NonceUniqueness

/-!
# The stride of the record

A board that nobody but itself burns the record page of renews the record exactly a stride after it
wrote it. The record plus the stride then stays above the counter, also between the encryption of a
page and the renewal of the record that it may bring about; so a reboot goes on above all nonces
that were used.

## Main definitions

* `FirmwareRuntime.OnStride`: the invariant of such a board.

## Main results

* `persist_ahead_stride`: the record and the reboot after any run.
-/

namespace StEcu

open FirmwareRuntime

variable {P : Platform} {A : Catalogue} {identity : FirmwareIdentity}

theorem nonceStride_pos : 0 < nonceStride := by decide

theorem exact_persistedAt {n : ℕ} (h : n + nonceStride < 2 ^ 64) :
    (persistedAt n).Exact nonceStride :=
  ⟨n, rfl, min_eq_left (Nat.le_sub_one_of_lt h)⟩

theorem fresh_persistedAt (n : ℕ) : (persistedAt n).Fresh nonceStride :=
  ⟨n, rfl, le_rfl, Nat.lt_add_of_pos_right nonceStride_pos⟩

/-- A board that encrypts pages, whose record is less than a stride behind and is renewed exactly a
stride after it was written, with room for two strides. -/
structure FirmwareRuntime.OnStride (P : Platform) (identity : FirmwareIdentity)
    (r : FirmwareRuntime) : Prop where
  encrypting : r.Encrypting P identity
  fresh : r.persistAhead.Fresh nonceStride
  exact_threshold : r.persistAhead.Exact nonceStride
  room : r.persistAhead.counter + 2 * nonceStride < 2 ^ 64

/-- A board starts on its stride. -/
theorem onStride_newWithStore (hid : pageCryptoEnabledForIdentity identity = true)
    {s : ConfigStore} (hs : s.WellFormed P) {r : FirmwareRuntime}
    (hboot : newWithStore P identity false s = some r)
    (hroom : r.persistAhead.counter + 2 * nonceStride < 2 ^ 64) : r.OnStride P identity := by
  obtain ⟨counter, -, heq, -⟩ := persistAhead_newWithStore hid hs hboot
  have hexact : r.persistAhead.Exact nonceStride := by
    rw [heq] at hroom ⊢
    refine exact_persistedAt ?_
    change counter + 2 * nonceStride < 2 ^ 64 at hroom
    omega
  exact ⟨encrypting_of_newWithStore hid hs hboot, heq ▸ fresh_persistedAt counter, hexact, hroom⟩

/-- A board on its stride has room for every step. -/
theorem FirmwareRuntime.OnStride.hasRoom {t : BoardStep} (h : t.src.OnStride P identity) :
    t.HasRoom := by
  have hroom := h.room
  obtain ⟨c, hc, hle, -⟩ := h.fresh
  rw [BoardStep.HasRoom]
  split
  · have hpos := nonceStride_pos
    omega
  · intro c' hc'
    obtain rfl := Option.some.inj (hc.symm.trans hc')
    omega

/-- No step but a burn of the record page moves the record away from its threshold. -/
theorem exact_step (hP : AeadLaw P) (hid : pageCryptoEnabledForIdentity identity = true)
    {t : BoardStep} (ht : (board P A identity).Step t) (h : t.src.OnStride P identity)
    (hburns : ¬ t.BurnsRecord) (hroom : t.dst.persistAhead.counter + 2 * nonceStride < 2 ^ 64) :
    t.dst.persistAhead.Exact nonceStride := by
  have hfits := h.hasRoom
  cases ht with
  | @packet r r' input answer hstep =>
    have hsound := h.encrypting.sound
    have htick := hsound.tick input.clock.tick
    rcases (step_effect hstep hsound).nonce_cases hP htick h.encrypting.crypto with
      ⟨-, heq⟩ | ⟨-, hrecord, -⟩ | ⟨hcmd, enc, henc, -, heq⟩
    · change r'.persistAhead = r.persistAhead at heq
      rw [heq]
      exact h.exact_threshold
    · exact absurd ⟨input, answer, rfl, rfl, hrecord⟩ hburns
    · obtain ⟨-, ⟨-, hkept⟩ | hrenewed⟩ :=
        persistAhead_read_cases htick h.encrypting.crypto henc (hfits hcmd) heq
      · rw [hkept]
        exact h.exact_threshold
      · rw [hrenewed] at hroom ⊢
        change r.persistAhead.counter + 1 + 2 * nonceStride < 2 ^ 64 at hroom
        exact exact_persistedAt (n := r.persistAhead.counter + 1) (by omega)
  | reboot hboot =>
    exact (onStride_newWithStore hid h.encrypting.sound.store hboot hroom).exact_threshold

/-- A board stays on its stride, as long as the record page is not burned. -/
theorem onStride_step (hP : AeadLaw P) (hid : pageCryptoEnabledForIdentity identity = true)
    {t : BoardStep} (ht : (board P A identity).Step t) (h : t.src.OnStride P identity)
    (hburns : ¬ t.BurnsRecord) (hroom : t.dst.persistAhead.counter + 2 * nonceStride < 2 ^ 64) :
    t.dst.OnStride P identity where
  encrypting := board_encrypting hid ht h.encrypting
  fresh := by
    obtain ⟨e, hstep, -, hoverwrite⟩ :=
      BoardStep.persistAhead hP hid ht h.encrypting h.hasRoom
    exact hstep.fresh nonceStride_pos h.fresh h.exact_threshold fun record he =>
      hburns (hoverwrite record he).1
  exact_threshold := exact_step hP hid ht h hburns hroom
  room := hroom

/-- **The record is less than a stride behind the counter** at every moment of a run of packets and
reboots that never burns the record page from outside; a reboot at that moment succeeds, and starts
the counter above every nonce that was used. -/
theorem persist_ahead_stride (hP : AeadLaw P) (hid : pageCryptoEnabledForIdentity identity = true)
    {s : ConfigStore} (hs : ReachableStore P A s) {r₀ r : FirmwareRuntime} {tr : List BoardStep}
    (hboot : newWithStore P identity false s = some r₀) (hrun : (board P A identity).Run r₀ tr r)
    (hburns : ∀ t ∈ tr, ¬ t.BurnsRecord)
    (hroom₀ : r₀.persistAhead.counter + 2 * nonceStride < 2 ^ 64)
    (hroom : ∀ t ∈ tr, t.dst.persistAhead.counter + 2 * nonceStride < 2 ^ 64) :
    (∃ c, r.persistAhead.record = some c ∧ r.persistAhead.counter < c + nonceStride) ∧
      ∃ r', newWithStore P identity false r.store = some r' ∧
        ∀ nonce ∈ tr.filterMap (BoardStep.nonce P),
          nonceValue nonce < r'.persistAhead.counter := by
  have h₀ := onStride_newWithStore hid hs.wellFormed hboot hroom₀
  have hkept : ∀ t ∈ tr, (board P A identity).Step t → t.src.OnStride P identity →
      t.dst.OnStride P identity := fun t ht hstep hsrc =>
    onStride_step hP hid hstep hsrc (hburns t ht) (hroom t ht)
  have h := hrun.invariant_of_mem (I := OnStride P identity) h₀ hkept
  obtain ⟨c, hc, -, hlt⟩ := h.fresh
  refine ⟨⟨c, hc, hlt⟩, ?_⟩
  obtain ⟨r', hboot', -⟩ := exists_newWithStore identity false h.encrypting.sound.store
  refine ⟨r', hboot', fun nonce hnonce => ?_⟩
  -- the nonces used are below the counter, and the reboot is above it
  have hissued := (hrun.issued_pairwise (fun r => r.persistAhead.counter)
    (fun t => (BoardStep.nonce P t).map nonceValue) fun t ht hstep => by
      have hsrc := hrun.invariant_src (I := OnStride P identity) h₀ hkept ht
      obtain ⟨e, he, -⟩ :=
        BoardStep.persistAhead hP hid hstep hsrc.encrypting hsrc.hasRoom
      obtain ⟨c, hc, -, hlt⟩ := hsrc.fresh
      exact he.counter_le fun _ => ⟨c, hc, hlt.le⟩).2
  rw [← List.map_filterMap] at hissued
  have hreboot := persistAhead_reboot hid h.encrypting.sound hboot' fun c' hc' => by
    obtain rfl := Option.some.inj (hc.symm.trans hc')
    have hroom := h.room
    obtain ⟨c', hc', hle, -⟩ := h.fresh
    obtain rfl := Option.some.inj (hc.symm.trans hc')
    omega
  exact (hissued _ (List.mem_map_of_mem hnonce)).trans (hreboot.counter_lt_of_restart h.fresh)

/-! ### A run across a stride -/

/-- A read takes the counter to the next value. -/
theorem exists_read_counter (A : Catalogue) (hP : AeadLaw P)
    (hid : pageCryptoEnabledForIdentity identity = true) {r : FirmwareRuntime}
    (h : r.Encrypting P identity) (hroom : r.persistAhead.counter + 1 < 2 ^ 64) :
    ∃ t : BoardStep, (board P A identity).Step t ∧ t.src = r ∧
      t.event = .packet (readPageInput 0) ∧
      t.nonce P = some (nonceOfValue r.persistAhead.counter) ∧ t.dst.Encrypting P identity ∧
      t.dst.persistAhead.counter = r.persistAhead.counter + 1 := by
  obtain ⟨t, ht, rfl, he, hnonce, hdst⟩ := exists_read A hid h hP
  obtain ⟨e, hstep, -⟩ := BoardStep.persistAhead hP hid ht h (hasRoom_of_event he hroom)
  rw [hnonce, Option.map_some] at hstep
  exact ⟨t, ht, rfl, he, hnonce, hdst, hstep.counter_of_some.2⟩

/-- A number of reads, one after the other, use the nonces of as many values of the counter. -/
theorem exists_reads (A : Catalogue) (hP : AeadLaw P)
    (hid : pageCryptoEnabledForIdentity identity = true) (n : ℕ) {r : FirmwareRuntime}
    (h : r.Encrypting P identity) (hroom : r.persistAhead.counter + n < 2 ^ 64) :
    ∃ tr r', (board P A identity).Run r tr r' ∧
      tr.map Transition.event = List.replicate n (.packet (readPageInput 0)) ∧
      tr.filterMap (BoardStep.nonce P) =
        (List.range' r.persistAhead.counter n).map nonceOfValue ∧
      r'.persistAhead.counter = r.persistAhead.counter + n ∧
      ∀ t ∈ tr, t.dst.persistAhead.counter ≤ r.persistAhead.counter + n := by
  induction n generalizing r with
  | zero => exact ⟨[], r, .nil, rfl, rfl, rfl, by simp⟩
  | succ n ih =>
    obtain ⟨t, ht, rfl, he, hnonce, hdst, hcounter⟩ :=
      exists_read_counter A hP hid h (by omega)
    obtain ⟨tr, r', hrun, hevents, hissued, hcounter', hle⟩ := ih hdst (by omega)
    refine ⟨t :: tr, r', hrun.cons ht, ?_, ?_, by omega, ?_⟩
    · rw [List.map_cons, hevents, he, List.replicate_succ]
    · rw [List.filterMap_cons_some hnonce, hissued, hcounter, List.range'_succ, List.map_cons]
    · intro u hu
      rcases List.mem_cons.mp hu with rfl | hu
      · omega
      · exact (hle u hu).trans (by omega)

/-- The board of the tests reads a page as often as a stride is long, which renews the record it
booted with; a reboot goes on above the last nonce. -/
theorem persist_ahead_stride_h743 :
    ∃ r₀ r r' tr,
      newWithStore referencePlatform .h743 false (storeWithRecord referencePlatform 0) = some r₀ ∧
      r₀.persistAhead.record = some 1024 ∧
      (board referencePlatform referenceCatalogue .h743).Run r₀ tr r ∧
      tr.map Transition.event = List.replicate 1024 (.packet (readPageInput 0)) ∧
      tr.filterMap (BoardStep.nonce referencePlatform) =
        (List.range' 1024 1024).map nonceOfValue ∧
      (∃ c, r.persistAhead.record = some c ∧ 1024 < c) ∧
      newWithStore referencePlatform .h743 false r.store = some r' ∧
      nonceValue (nonceOfValue 2047) < r'.persistAhead.counter := by
  obtain ⟨r₀, hboot, h₀, hcounter₀, hrecord₀⟩ := exists_encrypting_h743 referencePlatform
  have hs := reachable_storeWithRecord (P := referencePlatform) (A := referenceCatalogue) 0
  obtain ⟨tr, r, hrun, hevents, hissued, hcounter, hle⟩ :=
    exists_reads referenceCatalogue referencePlatform_aead h743_encrypts 1024 h₀ (by omega)
  rw [hcounter₀] at hissued hcounter hle
  -- every event is a read
  have hburns : ∀ t ∈ tr, ¬ BoardStep.BurnsRecord t := by
    rintro t ht ⟨input, answer, hevent, -, hburn⟩
    have he : t.event = .packet (readPageInput 0) :=
      List.eq_of_mem_replicate (hevents ▸ List.mem_map_of_mem ht)
    obtain rfl := BoardEvent.packet.inj (he.symm.trans hevent)
    cases hburn.1
  have hstride : nonceStride = 1024 := rfl
  obtain ⟨⟨c, hc, hlt⟩, r', hboot', habove⟩ := persist_ahead_stride referencePlatform_aead
    h743_encrypts hs hboot hrun hburns (by omega) fun t ht => by
      have hbound := hle t ht
      omega
  refine ⟨r₀, r, r', tr, hboot, hrecord₀, hrun, hevents, hissued, ⟨c, hc, by omega⟩, hboot', ?_⟩
  refine habove _ ?_
  rw [hissued]
  exact List.mem_map_of_mem (by rw [List.mem_range'_1]; omega)

end StEcu
