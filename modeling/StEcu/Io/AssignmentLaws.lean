import Mathlib.Data.List.Nodup
import Mathlib.Data.List.Perm.Basic
import Mathlib.Data.List.Range
import StEcu.Io.Assignment

/-!
# Legal requests and overrides

The validator checks each request against those accepted before it. What it accepts in the end does
not depend on the order: the requests are legal or not as a set, and each of them is answered in its
own place.

Overrides are merged into the requests of a base one after the other. So applying one list of
overrides after another is applying both together, the last override of a function counts, and a
function that is not mentioned stays where it is.

## Main definitions

* `PinAssignmentRequest.resolved`: the answer to a request, without reference to other requests.
* `LegalRequests`: legal sets of requests.
* `Mentions`: a function is mentioned by a list of overrides.

## Main results

* `validateAssignmentSet_eq_ok_iff_legal`, `validate_assignment_set_spec`.
* `overrides_compose`.
-/

namespace StEcu

/-! ### Legal requests -/

/-- The answer to a request, labelled as on the board. -/
def PinAssignmentRequest.resolved (request : PinAssignmentRequest) : ResolvedPinAssignment where
  function := request.function
  pinId := request.pinId
  pinLabel := ((findPin request.pinId).map PinCapability.label).getD ""
  requiredFunction := request.function.requiredPinFunction

/-- The exclusive resource of the route by which the requested pin serves the function. -/
def PinAssignmentRequest.resource (request : PinAssignmentRequest) : Option String :=
  (findPin request.pinId).bind fun pin => resourceKey pin request.function.requiredPinFunction

/-- Requests that can be granted together. -/
structure LegalRequests (requests : List PinAssignmentRequest) : Prop where
  nodup_function : (requests.map PinAssignmentRequest.function).Nodup
  pinId_of_fixed : ∀ request ∈ requests, ∀ id, request.function.fixedPinId = some id →
    request.pinId = id
  exists_pin : ∀ request ∈ requests, ∃ pin, findPin request.pinId = some pin ∧
    pin.reserved = false ∧ pin.supportsFunction request.function.requiredPinFunction = true
  nodup_pinId : (requests.map PinAssignmentRequest.pinId).Nodup
  nodup_resource : (requests.filterMap PinAssignmentRequest.resource).Nodup

theorem ResolvedPinAssignment.WellPlaced.eq_resolved {a : ResolvedPinAssignment}
    (h : a.WellPlaced) : a = a.request.resolved := by
  obtain ⟨pin, hfind, -, -, hlabel⟩ := h.exists_pin
  rw [PinAssignmentRequest.resolved, ResolvedPinAssignment.request, hfind, Option.map_some,
    Option.getD_some, ← hlabel, ← h.requiredFunction_eq]

theorem wellPlaced_resolved_iff {request : PinAssignmentRequest} :
    request.resolved.WellPlaced ↔
      (∀ id, request.function.fixedPinId = some id → request.pinId = id) ∧
        ∃ pin, findPin request.pinId = some pin ∧ pin.reserved = false ∧
          pin.supportsFunction request.function.requiredPinFunction = true := by
  constructor
  · rintro ⟨-, ⟨pin, hfind, hreserved, hsupports, -⟩, hfixed⟩
    exact ⟨hfixed, pin, hfind, hreserved, hsupports⟩
  · rintro ⟨hfixed, pin, hfind, hreserved, hsupports⟩
    refine ⟨rfl, ⟨pin, hfind, hreserved, hsupports, ?_⟩, hfixed⟩
    rw [PinAssignmentRequest.resolved, hfind]
    rfl

theorem compatible_resolved_iff {a b : PinAssignmentRequest} :
    a.resolved.Compatible b.resolved ↔ a.function ≠ b.function ∧ a.pinId ≠ b.pinId ∧
      ∀ key ∈ a.resource, ∀ key' ∈ b.resource, key ≠ key' := by
  constructor
  · rintro ⟨hfunction, hpin, hresource⟩
    refine ⟨hfunction, hpin, fun key ha key' hb heq => ?_⟩
    exact hresource key ha (heq ▸ hb)
  · rintro ⟨hfunction, hpin, hresource⟩
    exact ⟨hfunction, hpin, fun key ha hb => hresource key ha key hb rfl⟩

/-- The answers to requests are a valid list exactly if the requests are legal. -/
theorem validAssignmentSet_map_resolved_iff {requests : List PinAssignmentRequest} :
    ValidAssignmentSet (requests.map PinAssignmentRequest.resolved) ↔ LegalRequests requests := by
  constructor
  · rintro ⟨hplaced, hpairwise⟩
    rw [List.pairwise_map] at hpairwise
    have hpair := hpairwise.imp compatible_resolved_iff.mp
    have hwell (request) (h : request ∈ requests) :=
      wellPlaced_resolved_iff.mp (hplaced _ (List.mem_map_of_mem h))
    exact ⟨List.pairwise_map.mpr (hpair.imp fun h => h.1), fun request h => (hwell request h).1,
      fun request h => (hwell request h).2, List.pairwise_map.mpr (hpair.imp fun h => h.2.1),
      List.pairwise_filterMap.mpr (hpair.imp fun h => h.2.2)⟩
  · intro h
    refine ⟨fun a ha => ?_, List.pairwise_map.mpr ?_⟩
    · obtain ⟨request, hrequest, rfl⟩ := List.mem_map.mp ha
      exact wellPlaced_resolved_iff.mpr
        ⟨h.pinId_of_fixed request hrequest, h.exists_pin request hrequest⟩
    · have hfunction := List.pairwise_map.mp h.nodup_function
      have hpin := List.pairwise_map.mp h.nodup_pinId
      have hresource := List.pairwise_filterMap.mp h.nodup_resource
      refine ((hfunction.and hpin).and hresource).imp fun hab => ?_
      exact compatible_resolved_iff.mpr ⟨hab.1.1, hab.1.2, hab.2⟩

/-- **The validator accepts exactly the legal requests**, and answers each of them in its place. -/
theorem validateAssignmentSet_eq_ok_iff_legal {requests : List PinAssignmentRequest}
    {as : List ResolvedPinAssignment} :
    validateAssignmentSet requests = .ok as ↔
      LegalRequests requests ∧ as = requests.map PinAssignmentRequest.resolved := by
  rw [validateAssignmentSet_eq_ok_iff]
  constructor
  · rintro ⟨rfl, hvalid⟩
    have heq : as = (as.map ResolvedPinAssignment.request).map PinAssignmentRequest.resolved := by
      rw [List.map_map]
      exact (List.map_id as).symm.trans
        (List.map_congr_left fun a ha => (hvalid.wellPlaced a ha).eq_resolved)
    exact ⟨validAssignmentSet_map_resolved_iff.mp (heq ▸ hvalid), heq⟩
  · rintro ⟨hlegal, rfl⟩
    refine ⟨?_, validAssignmentSet_map_resolved_iff.mpr hlegal⟩
    rw [List.map_map]
    exact List.map_id requests

/-! ### The order of the requests -/

theorem LegalRequests.perm {requests requests' : List PinAssignmentRequest}
    (h : LegalRequests requests) (hperm : requests.Perm requests') : LegalRequests requests' where
  nodup_function := (hperm.map _).nodup h.nodup_function
  pinId_of_fixed request hmem := h.pinId_of_fixed request (hperm.mem_iff.mpr hmem)
  exists_pin request hmem := h.exists_pin request (hperm.mem_iff.mpr hmem)
  nodup_pinId := (hperm.map _).nodup h.nodup_pinId
  nodup_resource := (hperm.filterMap _).nodup h.nodup_resource

/-- The elements of a list at the given positions. -/
def pick {α : Type} (positions : List ℕ) (xs : List α) : List α := positions.filterMap (xs[·]?)

theorem pick_range {α : Type} (xs : List α) : pick (List.range xs.length) xs = xs := by
  induction xs with
  | nil => rfl
  | cons x xs ih =>
    rw [List.length_cons, List.range_succ_eq_map, pick, List.filterMap_cons, List.filterMap_map]
    exact congrArg (x :: ·) ih

theorem pick_perm {α : Type} {positions : List ℕ} {xs : List α}
    (h : positions.Perm (List.range xs.length)) : (pick positions xs).Perm xs :=
  (h.filterMap _).trans (List.Perm.of_eq (pick_range xs))

theorem pick_map {α β : Type} (f : α → β) (positions : List ℕ) (xs : List α) :
    pick positions (xs.map f) = (pick positions xs).map f := by
  simp only [pick, List.getElem?_map, List.map_filterMap]

/-- **The validator**, without reference to the order in which it goes through the requests: it
accepts exactly the legal ones, it lists their functions and pins in request order with the labels
of the board, and where the requests are permuted so is what it returns. -/
theorem validate_assignment_set_spec (requests : List PinAssignmentRequest) :
    ((∃ as, validateAssignmentSet requests = .ok as) ↔ LegalRequests requests) ∧
    (∀ as, validateAssignmentSet requests = .ok as →
      as.map ResolvedPinAssignment.request = requests ∧
        ∀ a ∈ as, ∃ pin, findPin a.pinId = some pin ∧ a.pinLabel = pin.label) ∧
    ∀ positions : List ℕ, positions.Perm (List.range requests.length) →
      ((∃ as, validateAssignmentSet (pick positions requests) = .ok as) ↔
        ∃ as, validateAssignmentSet requests = .ok as) ∧
      ∀ as, validateAssignmentSet requests = .ok as →
        validateAssignmentSet (pick positions requests) = .ok (pick positions as) := by
  have haccepts (requests : List PinAssignmentRequest) :
      (∃ as, validateAssignmentSet requests = .ok as) ↔ LegalRequests requests := by
    simp only [validateAssignmentSet_eq_ok_iff_legal, exists_and_left, exists_eq, and_true]
  refine ⟨haccepts requests, fun as has => ?_, fun positions hpositions => ⟨?_, fun as has => ?_⟩⟩
  · obtain ⟨hmap, hvalid⟩ := validateAssignmentSet_eq_ok_iff.mp has
    refine ⟨hmap, fun a ha => ?_⟩
    obtain ⟨pin, hfind, -, -, hlabel⟩ := (hvalid.wellPlaced a ha).exists_pin
    exact ⟨pin, hfind, hlabel⟩
  · rw [haccepts, haccepts]
    exact ⟨fun h => h.perm (pick_perm hpositions), fun h => h.perm (pick_perm hpositions).symm⟩
  · obtain ⟨hlegal, rfl⟩ := validateAssignmentSet_eq_ok_iff_legal.mp has
    exact validateAssignmentSet_eq_ok_iff_legal.mpr
      ⟨hlegal.perm (pick_perm hpositions).symm, pick_map _ positions requests⟩

/-- The two trigger inputs, in one order and in the other. -/
theorem validate_assignment_set_spec_swapped : ∃ as,
    validateAssignmentSet [⟨.crankInput, "PA0"⟩, ⟨.camInput, "PA1"⟩] = .ok as ∧
    validateAssignmentSet [⟨.camInput, "PA1"⟩, ⟨.crankInput, "PA0"⟩] = .ok (pick [1, 0] as) := by
  obtain ⟨-, -, hpermuted⟩ :=
    validate_assignment_set_spec [⟨.crankInput, "PA0"⟩, ⟨.camInput, "PA1"⟩]
  have has : validateAssignmentSet [⟨.crankInput, "PA0"⟩, ⟨.camInput, "PA1"⟩] =
      .ok [(PinAssignmentRequest.mk .crankInput "PA0").resolved,
        (PinAssignmentRequest.mk .camInput "PA1").resolved] := by decide
  exact ⟨_, has, (hpermuted [1, 0] (by decide)).2 _ has⟩

/-! ### Overrides -/

/-- Some override of the list is for the function. -/
def Mentions (overrides : List PinAssignmentRequest) (function : EcuFunction) : Prop :=
  function ∈ overrides.map PinAssignmentRequest.function

instance (overrides : List PinAssignmentRequest) : DecidablePred (Mentions overrides) :=
  fun _ => inferInstanceAs (Decidable (_ ∈ _))

section Merge

variable {merged overrides : List PinAssignmentRequest} {override : PinAssignmentRequest}

/-- What merging an override does: it replaces the first request for the function, or is put at the
end where there is none. -/
theorem mergeOverride_cases (merged : List PinAssignmentRequest) (override : PinAssignmentRequest) :
    (∃ front old rest, merged = front ++ old :: rest ∧ old.function = override.function ∧
      mergeOverride merged override = front ++ override :: rest) ∨
      mergeOverride merged override = merged ++ [override] := by
  rw [mergeOverride]
  split
  next index hfind =>
    obtain ⟨hlt, heq, -⟩ := List.findIdx?_eq_some_iff_getElem.mp hfind
    obtain ⟨front, rest, hsplit, -, hset⟩ : ∃ front rest,
        merged = front ++ merged[index] :: rest ∧ front.length = index ∧
          merged.set index override = front ++ override :: rest := List.exists_of_set hlt
    exact .inl ⟨front, merged[index], rest, hsplit, by simpa using heq, hset⟩
  next hfind => exact .inr rfl

theorem mem_mergeOverride : override ∈ mergeOverride merged override := by
  obtain ⟨front, old, rest, -, -, heq⟩ | heq := mergeOverride_cases merged override <;>
    simp [heq]

/-- A request for another function keeps its position. -/
theorem getElem?_mergeOverride {i : ℕ} {request : PinAssignmentRequest}
    (h : merged[i]? = some request) (hne : request.function ≠ override.function) :
    (mergeOverride merged override)[i]? = some request := by
  obtain ⟨front, old, rest, rfl, hold, heq⟩ | heq := mergeOverride_cases merged override
  · rw [heq]
    by_cases hi : front.length = i
    · subst hi
      rw [List.getElem?_append_right (Nat.le_refl _), Nat.sub_self, List.getElem?_cons_zero,
        Option.some.injEq] at h
      exact absurd hold (h ▸ hne)
    · rw [← h, List.getElem?_append, List.getElem?_append]
      split
      · rfl
      · obtain ⟨k, hk⟩ : ∃ k, i - front.length = k + 1 := ⟨i - front.length - 1, by omega⟩
        rw [hk, List.getElem?_cons_succ, List.getElem?_cons_succ]
  · rw [heq, List.getElem?_append_left (List.getElem?_eq_some_iff.mp h).1, h]

/-- A choice of requests that leaves the function out is the same before and after. -/
theorem filter_mergeOverride {p : PinAssignmentRequest → Bool}
    (hp : ∀ request, request.function = override.function → p request = false) :
    (mergeOverride merged override).filter p = merged.filter p := by
  obtain ⟨front, old, rest, rfl, hold, heq⟩ | heq := mergeOverride_cases merged override
  · rw [heq, List.filter_append, List.filter_append, List.filter_cons, List.filter_cons,
      hp override rfl, hp old hold]
    rfl
  · rw [heq, List.filter_append, List.filter_cons, hp override rfl]
    simp

/-- Merging a list of overrides, one after the other. -/
theorem getElem?_foldl_mergeOverride {i : ℕ} {request : PinAssignmentRequest}
    (h : merged[i]? = some request) (hnot : ¬ Mentions overrides request.function) :
    (overrides.foldl mergeOverride merged)[i]? = some request := by
  induction overrides generalizing merged with
  | nil => exact h
  | cons override overrides ih =>
    rw [Mentions, List.map_cons, List.mem_cons, not_or] at hnot
    exact ih (getElem?_mergeOverride h hnot.1) hnot.2

theorem filter_foldl_mergeOverride {p : PinAssignmentRequest → Bool}
    (hp : ∀ request, Mentions overrides request.function → p request = false) :
    (overrides.foldl mergeOverride merged).filter p = merged.filter p := by
  induction overrides generalizing merged with
  | nil => rfl
  | cons override overrides ih =>
    rw [List.foldl_cons, ih fun request h => hp request (List.mem_cons_of_mem _ h)]
    exact filter_mergeOverride fun request h => hp request (h ▸ List.mem_cons_self ..)

/-- The last override of a function is in the merged list. -/
theorem mem_foldl_mergeOverride {earlier later : List PinAssignmentRequest}
    (hlast : ¬ Mentions later override.function) :
    override ∈ (earlier ++ override :: later).foldl mergeOverride merged := by
  rw [List.foldl_append, List.foldl_cons]
  have hmem : override ∈ mergeOverride (earlier.foldl mergeOverride merged) override :=
    mem_mergeOverride
  obtain ⟨i, hi⟩ := List.mem_iff_getElem?.mp hmem
  exact List.mem_iff_getElem?.mpr ⟨i, getElem?_foldl_mergeOverride hi hlast⟩

/-! ### Overrides that are overridden -/

/-- The requests with the pin of one function replaced. -/
def withPin (function : EcuFunction) (pinId : String) (request : PinAssignmentRequest) :
    PinAssignmentRequest :=
  if request.function = function then ⟨function, pinId⟩ else request

@[simp] theorem function_withPin (function : EcuFunction) (pinId : String)
    (request : PinAssignmentRequest) :
    (withPin function pinId request).function = request.function := by
  rw [withPin]
  split
  next h => exact h.symm
  next => rfl

theorem map_withPin_mergeOverride (function : EcuFunction) (pinId : String) :
    (mergeOverride merged override).map (withPin function pinId) =
      mergeOverride (merged.map (withPin function pinId)) (withPin function pinId override) := by
  have hfind : (merged.map (withPin function pinId)).findIdx?
        (fun a => a.function == (withPin function pinId override).function) =
      merged.findIdx? fun a => a.function == override.function := by
    rw [List.findIdx?_map]
    simp only [Function.comp_def, function_withPin]
  rw [mergeOverride, mergeOverride, hfind]
  cases merged.findIdx? fun a => a.function == override.function with
  | none => rw [List.map_append, List.map_singleton]
  | some index => rw [List.map_set]

theorem map_withPin_foldl_mergeOverride (function : EcuFunction) (pinId : String) :
    (overrides.foldl mergeOverride merged).map (withPin function pinId) =
      (overrides.map (withPin function pinId)).foldl mergeOverride
        (merged.map (withPin function pinId)) := by
  induction overrides generalizing merged with
  | nil => rfl
  | cons override overrides ih =>
    rw [List.foldl_cons, ih, map_withPin_mergeOverride, List.map_cons, List.foldl_cons]

/-- Where the functions are different, an override forgets which pin its function had before. -/
theorem mergeOverride_map_withPin (hnodup : (merged.map PinAssignmentRequest.function).Nodup)
    (override : PinAssignmentRequest) :
    mergeOverride (merged.map (withPin override.function override.pinId)) override =
      mergeOverride merged override := by
  have hself : withPin override.function override.pinId override = override := if_pos rfl
  have hmap : (mergeOverride merged override).map (withPin override.function override.pinId) =
      mergeOverride (merged.map (withPin override.function override.pinId)) override := by
    rw [map_withPin_mergeOverride, hself]
  rw [← hmap]
  refine (List.map_congr_left fun request hrequest => ?_).trans (List.map_id _)
  rw [withPin]
  split
  next h =>
    exact (List.inj_on_of_nodup_map (nodup_mergeOverride hnodup) hrequest mem_mergeOverride h).symm
  next => rfl

/-- Which pin an override names makes no difference where the function is overridden again. -/
theorem foldl_mergeOverride_overridden (hnodup : (merged.map PinAssignmentRequest.function).Nodup)
    (earlier middle later : List PinAssignmentRequest) (function : EcuFunction)
    (pinId pinId' last : String) :
    (earlier ++ ⟨function, pinId⟩ :: middle ++ ⟨function, last⟩ :: later).foldl mergeOverride
        merged =
      (earlier ++ ⟨function, pinId'⟩ :: middle ++ ⟨function, last⟩ :: later).foldl mergeOverride
        merged := by
  -- up to the pin of the function, the two merged lists are the same all the way
  have hsame (pinId : String) :
      ((earlier ++ ⟨function, pinId⟩ :: middle).foldl mergeOverride merged).map
          (withPin function last) =
        (earlier.map (withPin function last) ++ ⟨function, last⟩ ::
          middle.map (withPin function last)).foldl mergeOverride
            (merged.map (withPin function last)) := by
    have hpin : withPin function last ⟨function, pinId⟩ = ⟨function, last⟩ := if_pos rfl
    rw [map_withPin_foldl_mergeOverride, List.map_append, List.map_cons, hpin]
  have hlast (pinId : String) :
      (earlier ++ ⟨function, pinId⟩ :: middle ++ ⟨function, last⟩ :: later).foldl mergeOverride
          merged =
        later.foldl mergeOverride (mergeOverride (((earlier ++ ⟨function, pinId⟩ :: middle).foldl
          mergeOverride merged).map (withPin function last)) ⟨function, last⟩) := by
    rw [List.foldl_append, List.foldl_cons]
    exact congrArg (List.foldl mergeOverride · later)
      (mergeOverride_map_withPin (nodup_foldl_mergeOverride hnodup) ⟨function, last⟩).symm
  rw [hlast, hlast, hsame, hsame]

end Merge

theorem ValidAssignmentSet.eq_map_resolved {as : List ResolvedPinAssignment}
    (h : ValidAssignmentSet as) :
    as = (as.map ResolvedPinAssignment.request).map PinAssignmentRequest.resolved :=
  (validateAssignmentSet_eq_ok_iff_legal.mp (validateAssignmentSet_eq_ok_iff.mpr ⟨rfl, h⟩)).2

theorem filter_map_resolved (p : EcuFunction → Bool) (requests : List PinAssignmentRequest) :
    (requests.map PinAssignmentRequest.resolved).filter (fun a => p a.function) =
      (requests.filter fun request => p request.function).map PinAssignmentRequest.resolved := by
  rw [List.filter_map]
  rfl

/-- **Overrides compose**, on a base that was validated: applying a list of overrides and then
another is applying both together. In one list the last override of a function counts: which pin an
earlier one names makes no difference, and where the overrides are accepted it is the last one that
is in the result. A function that is not mentioned keeps its pin and its place. -/
theorem overrides_compose (requests : List PinAssignmentRequest)
    (base : List ResolvedPinAssignment) (hbase : validateAssignmentSet requests = .ok base) :
    (∀ first second composed, applyAssignmentOverrides base first = .ok composed →
      applyAssignmentOverrides composed second =
        applyAssignmentOverrides base (first ++ second)) ∧
    (∀ earlier middle later function pinId pinId' last,
      applyAssignmentOverrides base
          (earlier ++ ⟨function, pinId⟩ :: middle ++ ⟨function, last⟩ :: later) =
        applyAssignmentOverrides base
          (earlier ++ ⟨function, pinId'⟩ :: middle ++ ⟨function, last⟩ :: later)) ∧
    ∀ overrides result, applyAssignmentOverrides base overrides = .ok result →
      (∀ earlier override later, overrides = earlier ++ override :: later →
        ¬ Mentions later override.function →
        override ∈ result.map ResolvedPinAssignment.request ∧
          ∀ a ∈ result, a.function = override.function → a.request = override) ∧
      (∀ (i : ℕ) a, base[i]? = some a → ¬ Mentions overrides a.function →
        result[i]? = some a) ∧
      result.filter (fun a => ¬ Mentions overrides a.function) =
        base.filter fun a => ¬ Mentions overrides a.function := by
  have hvalid := (validateAssignmentSet_eq_ok_iff.mp hbase).2
  have hnodup : ((base.map ResolvedPinAssignment.request).map
      PinAssignmentRequest.function).Nodup := by
    rw [List.map_map]
    exact hvalid.nodup_function
  refine ⟨fun first second composed h => ?_,
    fun earlier middle later function pinId pinId' last => ?_, fun overrides result h => ?_⟩
  · rw [applyAssignmentOverrides, (validateAssignmentSet_eq_ok_iff.mp h).1,
      applyAssignmentOverrides, List.foldl_append]
  · rw [applyAssignmentOverrides, applyAssignmentOverrides,
      foldl_mergeOverride_overridden hnodup earlier middle later function pinId pinId' last]
  · obtain ⟨hmap, hresult⟩ := validateAssignmentSet_eq_ok_iff.mp h
    refine ⟨fun earlier override later hsplit hlast => ?_, fun i a ha hnot => ?_, ?_⟩
    · have hmem : override ∈ result.map ResolvedPinAssignment.request := by
        rw [hmap, hsplit]
        exact mem_foldl_mergeOverride hlast
      refine ⟨hmem, fun a ha hfunction => ?_⟩
      obtain ⟨b, hb, rfl⟩ := List.mem_map.mp hmem
      rw [List.inj_on_of_nodup_map hresult.nodup_function ha hb hfunction]
    · have hget : (base.map ResolvedPinAssignment.request)[i]? = some a.request := by
        rw [List.getElem?_map, ha]
        rfl
      rw [hresult.eq_map_resolved, hmap, List.getElem?_map,
        getElem?_foldl_mergeOverride hget hnot, Option.map_some,
        ← (hvalid.wellPlaced a (List.mem_of_getElem? ha)).eq_resolved]
    · rw [hresult.eq_map_resolved, hvalid.eq_map_resolved, hmap,
        filter_map_resolved fun function => ¬ Mentions overrides function,
        filter_map_resolved fun function => ¬ Mentions overrides function,
        filter_foldl_mergeOverride fun request hmentions => by simpa using hmentions]

/-- The boost control is moved to another pin and back. -/
theorem overrides_compose_boost : ∃ base composed,
    validateAssignmentSet [⟨.boostControl, "PB0"⟩, ⟨.idleControl, "PB1"⟩] = .ok base ∧
    applyAssignmentOverrides base [⟨.boostControl, "PC8"⟩] = .ok composed ∧
    applyAssignmentOverrides composed [⟨.boostControl, "PB0"⟩] =
      applyAssignmentOverrides base [⟨.boostControl, "PC8"⟩, ⟨.boostControl, "PB0"⟩] := by
  have hbase : validateAssignmentSet [⟨.boostControl, "PB0"⟩, ⟨.idleControl, "PB1"⟩] =
      .ok [(PinAssignmentRequest.mk .boostControl "PB0").resolved,
        (PinAssignmentRequest.mk .idleControl "PB1").resolved] := by decide
  have hmoved : applyAssignmentOverrides [(PinAssignmentRequest.mk .boostControl "PB0").resolved,
        (PinAssignmentRequest.mk .idleControl "PB1").resolved] [⟨.boostControl, "PC8"⟩] =
      .ok [(PinAssignmentRequest.mk .boostControl "PC8").resolved,
        (PinAssignmentRequest.mk .idleControl "PB1").resolved] := by decide
  exact ⟨_, _, hbase, hmoved, (overrides_compose _ _ hbase).1 _ _ _ hmoved⟩

end StEcu
