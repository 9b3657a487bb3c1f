import Mathlib.Data.List.Perm.Subperm
import StEcu.Board.Pins

/-!
# Pin assignments

Which ECU function sits on which pin (`src/io.rs`). `validateAssignmentSet` goes through the
requests in order and resolves each against those already accepted; it is the only way an
assignment list comes into being.

## Main definitions

* `EcuFunction`, `PinAssignmentRequest`, `ResolvedPinAssignment`, `AssignmentError`.
* `validateAssignmentSet`, `applyAssignmentOverrides`, `defaultPinAssignments`.
* `ValidAssignmentSet`: what a well-formed assignment list is, with no reference to the algorithm.
* `Misplaced`: a request on another pin than its function is fixed to.

## Main results

* `validateAssignmentSet_eq_ok_iff`: the algorithm accepts exactly the requests of a valid list,
  and returns that list.
* `ValidAssignmentSet.length_le`: a valid list has at most one entry for each function.
* `validateAssignmentSet_eq_fixedPinRequired_iff`: when requests are rejected for a fixed pin.
-/

namespace StEcu

/-- The functions of the board that need a pin. -/
inductive EcuFunction
  | crankInput
  | camInput
  | mapSensor
  | tpsSensor
  | cltSensor
  | iatSensor
  | boostControl
  | idleControl
  | injector1
  | injector2
  | ignition1
  | ignition2
  deriving DecidableEq, Repr

namespace EcuFunction

/-- The code of a function in a page. -/
def code : EcuFunction → UInt8
  | crankInput => 0x01
  | camInput => 0x02
  | mapSensor => 0x03
  | tpsSensor => 0x04
  | cltSensor => 0x05
  | iatSensor => 0x06
  | boostControl => 0x10
  | idleControl => 0x11
  | injector1 => 0x20
  | injector2 => 0x21
  | ignition1 => 0x30
  | ignition2 => 0x31

/-- `EcuFunction::try_from`; the source's parse error carries nothing its callers keep. -/
def ofCode (value : UInt8) : Option EcuFunction :=
  if value = 0x01 then some crankInput
  else if value = 0x02 then some camInput
  else if value = 0x03 then some mapSensor
  else if value = 0x04 then some tpsSensor
  else if value = 0x05 then some cltSensor
  else if value = 0x06 then some iatSensor
  else if value = 0x10 then some boostControl
  else if value = 0x11 then some idleControl
  else if value = 0x20 then some injector1
  else if value = 0x21 then some injector2
  else if value = 0x30 then some ignition1
  else if value = 0x31 then some ignition2
  else none

/-- What the pin of a function must be able to do. -/
def requiredPinFunction : EcuFunction → PinFunctionClass
  | crankInput | camInput => .captureInput
  | mapSensor | tpsSensor | cltSensor | iatSensor => .analogInput
  | boostControl | idleControl => .pwmOutput
  | injector1 | injector2 => .injector
  | ignition1 | ignition2 => .ignition

/-- The pin that a function with a fixed hardware path must sit on. -/
def fixedPinId : EcuFunction → Option String
  | crankInput => some "PA0"
  | camInput => some "PA1"
  | injector1 => some "PE9"
  | injector2 => some "PE11"
  | ignition1 => some "PF8"
  | ignition2 => some "PF9"
  | _ => none

@[simp] theorem ofCode_code (f : EcuFunction) : ofCode f.code = some f := by
  cases f <;> rfl

theorem mem_all (f : EcuFunction) :
    f ∈ [crankInput, camInput, mapSensor, tpsSensor, cltSensor, iatSensor, boostControl,
      idleControl, injector1, injector2, ignition1, ignition2] := by
  cases f <;> decide

end EcuFunction

/-- A pin that is asked for. -/
structure PinAssignmentRequest where
  function : EcuFunction
  pinId : String
  deriving DecidableEq, Repr

/-- A pin that is assigned, with its label and what it must be able to do. -/
structure ResolvedPinAssignment where
  function : EcuFunction
  pinId : String
  pinLabel : String
  requiredFunction : PinFunctionClass
  deriving DecidableEq, Repr

/-- The request that a resolved assignment answers. -/
def ResolvedPinAssignment.request (a : ResolvedPinAssignment) : PinAssignmentRequest :=
  ⟨a.function, a.pinId⟩

/-- Why a set of requests is refused. -/
inductive AssignmentError
  | board (error : BoardValidationError)
  | invalidPayload
  | payloadTooLarge (encodedLen pageLen : ℕ)
  | duplicateFunction (function : EcuFunction)
  | duplicatePin (pinId : String) (existing requested : EcuFunction)
  | fixedPinRequired (function : EcuFunction) (expectedPinId requestedPinId : String)
  | resourceConflict (resource : String) (existing requested : EcuFunction)
  deriving DecidableEq, Repr

/-- The pins that the board starts with. -/
def defaultPinAssignments : List PinAssignmentRequest :=
  [⟨.crankInput, "PA0"⟩, ⟨.camInput, "PA1"⟩, ⟨.mapSensor, "PC0"⟩, ⟨.tpsSensor, "PC1"⟩,
    ⟨.cltSensor, "PC2"⟩, ⟨.iatSensor, "PC3"⟩, ⟨.boostControl, "PB0"⟩, ⟨.idleControl, "PB1"⟩,
    ⟨.injector1, "PE9"⟩, ⟨.injector2, "PE11"⟩, ⟨.ignition1, "PF8"⟩, ⟨.ignition2, "PF9"⟩]

/-! ### Validation -/

/-- The resource that a pin claims exclusively when it serves a function class. -/
def resourceKey (pin : PinCapability) (function : PinFunctionClass) : Option String :=
  (pin.routeFor function).bind PinRoute.exclusiveResource

/-- The resource that an assignment already accepted claims exclusively. -/
def ResolvedPinAssignment.resource (item : ResolvedPinAssignment) : Option String :=
  (findPin item.pinId).bind fun pin => resourceKey pin item.requiredFunction

/-- A function with a fixed hardware path may only be requested on its own pin. -/
def checkFixedPin (request : PinAssignmentRequest) : Except AssignmentError Unit :=
  match request.function.fixedPinId with
  | some expectedPinId =>
    if request.pinId ≠ expectedPinId then
      .error (.fixedPinRequired request.function expectedPinId request.pinId)
    else .ok ()
  | none => .ok ()

/-- No accepted assignment may claim the resource that the new one needs. -/
def checkResource (resolved : List ResolvedPinAssignment) (function : EcuFunction)
    (pin : PinCapability) : Except AssignmentError Unit :=
  match resourceKey pin function.requiredPinFunction with
  | some resource =>
    match resolved.find? fun item => item.resource == some resource with
    | some existing => .error (.resourceConflict resource existing.function function)
    | none => .ok ()
  | none => .ok ()

/-- One round of the loop of `validate_assignment_set`: the checks on one request, in order. -/
def resolveRequest (resolved : List ResolvedPinAssignment) (request : PinAssignmentRequest) :
    Except AssignmentError ResolvedPinAssignment :=
  if resolved.any fun item => item.function == request.function then
    .error (.duplicateFunction request.function)
  else
    match checkFixedPin request with
    | .error error => .error error
    | .ok () =>
      match validatePinAssignment request.pinId request.function.requiredPinFunction with
      | .error error => .error (.board error)
      | .ok pin =>
        match resolved.find? fun item => item.pinId == pin.pinId with
        | some existing => .error (.duplicatePin pin.pinId existing.function request.function)
        | none =>
          match checkResource resolved request.function pin with
          | .error error => .error error
          | .ok () =>
            .ok ⟨request.function, pin.pinId, pin.label, request.function.requiredPinFunction⟩

/-- The loop of `validate_assignment_set`, from the assignments accepted so far. -/
def resolveRequests (resolved : List ResolvedPinAssignment) :
    List PinAssignmentRequest → Except AssignmentError (List ResolvedPinAssignment)
  | [] => .ok resolved
  | request :: requests =>
    match resolveRequest resolved request with
    | .error error => .error error
    | .ok item => resolveRequests (resolved ++ [item]) requests

/-- The requests resolved one after the other, each against those before it. -/
def validateAssignmentSet (requests : List PinAssignmentRequest) :
    Except AssignmentError (List ResolvedPinAssignment) :=
  resolveRequests [] requests

/-- Puts an override in place of the request for the same function, or at the end. -/
def mergeOverride (merged : List PinAssignmentRequest) (override : PinAssignmentRequest) :
    List PinAssignmentRequest :=
  match merged.findIdx? fun assignment => assignment.function == override.function with
  | some index => merged.set index override
  | none => merged ++ [override]

/-- Some requests put in place of the assignments of the same functions, and the whole resolved
anew. -/
def applyAssignmentOverrides (base : List ResolvedPinAssignment)
    (overrides : List PinAssignmentRequest) :
    Except AssignmentError (List ResolvedPinAssignment) :=
  validateAssignmentSet (overrides.foldl mergeOverride (base.map ResolvedPinAssignment.request))

/-! ### What a valid assignment list is -/

/-- An assignment that stands on a suitable pin: the pin exists, is not reserved and supports the
function's class, and a function with a fixed hardware path is on its own pin. -/
structure ResolvedPinAssignment.WellPlaced (a : ResolvedPinAssignment) : Prop where
  requiredFunction_eq : a.requiredFunction = a.function.requiredPinFunction
  exists_pin : ∃ pin, findPin a.pinId = some pin ∧ pin.reserved = false ∧
    pin.supportsFunction a.requiredFunction = true ∧ a.pinLabel = pin.label
  pinId_of_fixed : ∀ id, a.function.fixedPinId = some id → a.pinId = id

/-- Two assignments that can stand side by side. -/
structure ResolvedPinAssignment.Compatible (a b : ResolvedPinAssignment) : Prop where
  function_ne : a.function ≠ b.function
  pinId_ne : a.pinId ≠ b.pinId
  resource_ne : ∀ key, a.resource = some key → b.resource ≠ some key

/-- A valid assignment list: every entry is well placed, and no two entries share a function, a
pin or an exclusive resource. -/
structure ValidAssignmentSet (as : List ResolvedPinAssignment) : Prop where
  wellPlaced : ∀ a ∈ as, a.WellPlaced
  pairwise : as.Pairwise ResolvedPinAssignment.Compatible

theorem ValidAssignmentSet.nodup_function {as : List ResolvedPinAssignment}
    (h : ValidAssignmentSet as) : (as.map ResolvedPinAssignment.function).Nodup :=
  List.pairwise_map.mpr (h.pairwise.imp fun hab => hab.function_ne)

theorem ValidAssignmentSet.length_le {as : List ResolvedPinAssignment}
    (h : ValidAssignmentSet as) : as.length ≤ 12 := by
  have hsub := List.subperm_of_subset h.nodup_function fun f _ => EcuFunction.mem_all f
  simpa using hsub.length_le

theorem validAssignmentSet_concat_iff {as : List ResolvedPinAssignment}
    {a : ResolvedPinAssignment} :
    ValidAssignmentSet (as ++ [a]) ↔
      ValidAssignmentSet as ∧ a.WellPlaced ∧ ∀ b ∈ as, b.Compatible a := by
  constructor
  · rintro ⟨hw, hp⟩
    obtain ⟨hp, -, hab⟩ := List.pairwise_append.mp hp
    exact ⟨⟨fun b hb => hw b (List.mem_append_left _ hb), hp⟩, hw a (by simp),
      fun b hb => hab b hb a (by simp)⟩
  · rintro ⟨⟨hw, hp⟩, ha, hab⟩
    refine ⟨fun b hb => ?_, List.pairwise_append.mpr ⟨hp, List.pairwise_singleton .., ?_⟩⟩
    · rcases List.mem_append.mp hb with hb | hb
      · exact hw b hb
      · obtain rfl := List.mem_singleton.mp hb
        exact ha
    · rintro b hb c hc
      obtain rfl := List.mem_singleton.mp hc
      exact hab b hb

/-! ### The algorithm accepts exactly the valid lists -/

theorem checkFixedPin_eq_ok_iff {request : PinAssignmentRequest} :
    checkFixedPin request = .ok () ↔
      ∀ id, request.function.fixedPinId = some id → request.pinId = id := by
  rw [checkFixedPin]
  cases request.function.fixedPinId with
  | none => simp
  | some id => by_cases h : request.pinId = id <;> simp [h]

theorem checkResource_eq_ok_iff {resolved : List ResolvedPinAssignment} {function : EcuFunction}
    {pin : PinCapability} :
    checkResource resolved function pin = .ok () ↔
      ∀ key, resourceKey pin function.requiredPinFunction = some key →
        ∀ b ∈ resolved, b.resource ≠ some key := by
  rw [checkResource]
  cases resourceKey pin function.requiredPinFunction with
  | none => simp
  | some key =>
    dsimp only
    split
    · next b hf =>
      have hb : b.resource = some key := by simpa using List.find?_some hf
      simp only [reduceCtorEq, Option.some.injEq, forall_eq', false_iff]
      exact fun h => h b (List.mem_of_find?_eq_some hf) hb
    · next hf => simpa using hf

/-- One round accepts a request exactly when all five checks pass. -/
theorem resolveRequest_eq_ok_iff {resolved : List ResolvedPinAssignment}
    {request : PinAssignmentRequest} {item : ResolvedPinAssignment} :
    resolveRequest resolved request = .ok item ↔
      (∀ b ∈ resolved, b.function ≠ request.function) ∧ checkFixedPin request = .ok () ∧
        ∃ pin, validatePinAssignment request.pinId request.function.requiredPinFunction = .ok pin ∧
          (∀ b ∈ resolved, b.pinId ≠ pin.pinId) ∧
          checkResource resolved request.function pin = .ok () ∧
          item =
            ⟨request.function, pin.pinId, pin.label, request.function.requiredPinFunction⟩ := by
  rw [resolveRequest]
  by_cases hdup : resolved.any fun item => item.function == request.function
  · simp only [hdup, ↓reduceIte, reduceCtorEq, false_iff, not_and]
    intro hne
    obtain ⟨b, hb, heq⟩ := List.any_eq_true.mp hdup
    exact absurd (by simpa using heq) (hne b hb)
  · have hne : ∀ b ∈ resolved, b.function ≠ request.function := fun b hb heq =>
      hdup (List.any_eq_true.mpr ⟨b, hb, by simpa using heq⟩)
    cases hfix : checkFixedPin request with
    | error e => simp [hdup]
    | ok u =>
      cases hpin : validatePinAssignment request.pinId request.function.requiredPinFunction with
      | error e => simp [hdup]
      | ok pin =>
        simp only [hdup, Bool.false_eq_true, ↓reduceIte]
        split
        · next b hfind =>
          have hb : b.pinId = pin.pinId := by simpa using List.find?_some hfind
          simp only [reduceCtorEq, false_iff]
          rintro ⟨-, -, p, hp, hpne, -⟩
          obtain rfl := Except.ok.inj hp
          exact hpne b (List.mem_of_find?_eq_some hfind) hb
        · next hfind =>
          have hpne : ∀ b ∈ resolved, b.pinId ≠ pin.pinId := by simpa using hfind
          cases hres : checkResource resolved request.function pin with
          | error e => simp [hres]
          | ok u =>
            simp only [Except.ok.injEq]
            constructor
            · rintro rfl
              exact ⟨hne, trivial, pin, rfl, hpne, hres, rfl⟩
            · rintro ⟨-, -, p, rfl, -, -, rfl⟩
              rfl

/-- The resource of an assignment on a pin that was found is the one claimed there. -/
theorem resource_of_findPin {f : EcuFunction} {pin : PinCapability} {label : String}
    {c : PinFunctionClass} (h : findPin pin.pinId = some pin) :
    (ResolvedPinAssignment.mk f pin.pinId label c).resource = resourceKey pin c := by
  simp [ResolvedPinAssignment.resource, h]

/-- One round accepts a request exactly when it can be answered by a well placed assignment that
is compatible with all accepted ones. -/
theorem resolveRequest_eq_ok_iff_compatible {resolved : List ResolvedPinAssignment}
    {request : PinAssignmentRequest} {item : ResolvedPinAssignment} :
    resolveRequest resolved request = .ok item ↔
      item.request = request ∧ item.WellPlaced ∧ ∀ b ∈ resolved, b.Compatible item := by
  rw [resolveRequest_eq_ok_iff]
  constructor
  · rintro ⟨hfun, hfix, pin, hpin, hpinId, hres, rfl⟩
    obtain ⟨hfind, hreserved, hsupports⟩ := validatePinAssignment_eq_ok_iff.mp hpin
    have hid : pin.pinId = request.pinId := findPin_eq_some hfind
    have hfind' : findPin pin.pinId = some pin := by rw [hid, hfind]
    refine ⟨by simp [ResolvedPinAssignment.request, hid],
      ⟨rfl, ⟨pin, hfind', hreserved, hsupports, rfl⟩, fun id h => ?_⟩, fun b hb => ?_⟩
    · exact hid.trans (checkFixedPin_eq_ok_iff.mp hfix id h)
    · refine ⟨hfun b hb, hpinId b hb, fun key hkey h => ?_⟩
      rw [resource_of_findPin hfind'] at h
      exact checkResource_eq_ok_iff.mp hres key h b hb hkey
  · rintro ⟨rfl, ⟨hrf, ⟨pin, hfind, hreserved, hsupports, hlabel⟩, hfixed⟩, hcompat⟩
    have hid : pin.pinId = item.pinId := findPin_eq_some hfind
    have hitem : item = ⟨item.function, pin.pinId, pin.label,
        item.function.requiredPinFunction⟩ := by
      rw [hid, ← hlabel, ← hrf]
    refine ⟨fun b hb => (hcompat b hb).function_ne, checkFixedPin_eq_ok_iff.mpr hfixed, pin,
      validatePinAssignment_eq_ok_iff.mpr ⟨hfind, hreserved, hrf ▸ hsupports⟩,
      fun b hb => hid ▸ (hcompat b hb).pinId_ne, checkResource_eq_ok_iff.mpr ?_, hitem⟩
    intro key hkey b hb hbkey
    refine (hcompat b hb).resource_ne key hbkey ?_
    rw [hitem, resource_of_findPin (by rw [hid, hfind])]
    exact hkey

/-- In a valid list, the entry after an initial part answers its own request. -/
theorem resolveRequest_of_valid {resolved rest : List ResolvedPinAssignment}
    {item : ResolvedPinAssignment} (h : ValidAssignmentSet (resolved ++ item :: rest))
    {request : PinAssignmentRequest} (hr : item.request = request) :
    resolveRequest resolved request = .ok item := by
  have hp := List.pairwise_append.mp h.pairwise
  exact resolveRequest_eq_ok_iff_compatible.mpr
    ⟨hr, h.wellPlaced item (by simp), fun b hb => hp.2.2 b hb item (by simp)⟩

theorem resolveRequests_eq_ok_iff {requests : List PinAssignmentRequest}
    {resolved as : List ResolvedPinAssignment} (h : ValidAssignmentSet resolved) :
    resolveRequests resolved requests = .ok as ↔
      ∃ new, as = resolved ++ new ∧ new.map ResolvedPinAssignment.request = requests ∧
        ValidAssignmentSet as := by
  induction requests generalizing resolved with
  | nil =>
    simp only [resolveRequests, Except.ok.injEq, List.map_eq_nil_iff]
    constructor
    · rintro rfl
      exact ⟨[], by simp, rfl, h⟩
    · rintro ⟨_, rfl, rfl, -⟩
      simp
  | cons request requests ih =>
    rw [resolveRequests]
    cases hr : resolveRequest resolved request with
    | error e =>
      simp only [reduceCtorEq, false_iff, not_exists]
      rintro new ⟨rfl, hmap, hvalid⟩
      obtain ⟨item, rest, rfl, hitem, -⟩ := List.map_eq_cons_iff.mp hmap
      rw [resolveRequest_of_valid hvalid hitem] at hr
      cases hr
    | ok item =>
      obtain ⟨hitem, hw, hc⟩ := resolveRequest_eq_ok_iff_compatible.mp hr
      simp only [ih (validAssignmentSet_concat_iff.mpr ⟨h, hw, hc⟩)]
      constructor
      · rintro ⟨new, rfl, hmap, hvalid⟩
        exact ⟨item :: new, by simp, by simp [hitem, hmap], hvalid⟩
      · rintro ⟨new, rfl, hmap, hvalid⟩
        obtain ⟨item', rest, rfl, hitem', hrest⟩ := List.map_eq_cons_iff.mp hmap
        rw [resolveRequest_of_valid hvalid hitem'] at hr
        obtain rfl := Except.ok.inj hr
        exact ⟨rest, by simp, hrest, hvalid⟩

/-- **The validator accepts exactly the valid assignment lists.** It returns a list that answers
the requests in their order, and it does so for every valid list. -/
theorem validateAssignmentSet_eq_ok_iff {requests : List PinAssignmentRequest}
    {as : List ResolvedPinAssignment} :
    validateAssignmentSet requests = .ok as ↔
      as.map ResolvedPinAssignment.request = requests ∧ ValidAssignmentSet as := by
  rw [validateAssignmentSet, resolveRequests_eq_ok_iff ⟨by simp, List.Pairwise.nil⟩]
  simp

/-! ### Where the algorithm stops -/

/-- The algorithm stops at the first request that it cannot resolve. -/
theorem resolveRequests_eq_error_iff {requests : List PinAssignmentRequest}
    {resolved : List ResolvedPinAssignment} {e : AssignmentError} :
    resolveRequests resolved requests = .error e ↔
      ∃ accepted request rest items, requests = accepted ++ request :: rest ∧
        resolveRequests resolved accepted = .ok items ∧
        resolveRequest items request = .error e := by
  induction requests generalizing resolved with
  | nil => simp [resolveRequests]
  | cons request requests ih =>
    rw [resolveRequests]
    cases hr : resolveRequest resolved request with
    | error e' =>
      simp only [Except.error.injEq]
      constructor
      · rintro rfl
        exact ⟨[], request, requests, resolved, rfl, rfl, hr⟩
      · rintro ⟨accepted, request', rest, items, hsplit, hok, herr⟩
        -- a round that fails is the one that stops the algorithm
        cases accepted with
        | nil =>
          obtain ⟨rfl, -⟩ := List.cons.inj hsplit
          obtain rfl := Except.ok.inj hok
          exact Except.error.inj (hr.symm.trans herr)
        | cons first accepted =>
          obtain ⟨rfl, -⟩ := List.cons.inj hsplit
          simp only [resolveRequests, hr, reduceCtorEq] at hok
    | ok item =>
      simp only [ih]
      constructor
      · rintro ⟨accepted, request', rest, items, rfl, hok, herr⟩
        exact ⟨request :: accepted, request', rest, items, rfl,
          by simp only [resolveRequests, hr, hok], herr⟩
      · rintro ⟨accepted, request', rest, items, hsplit, hok, herr⟩
        cases accepted with
        | nil =>
          obtain ⟨rfl, -⟩ := List.cons.inj hsplit
          obtain rfl := Except.ok.inj hok
          rw [hr] at herr
          cases herr
        | cons first accepted =>
          obtain ⟨rfl, hrest⟩ := List.cons.inj hsplit
          simp only [resolveRequests, hr] at hok
          exact ⟨accepted, request', rest, items, hrest, hok, herr⟩

/-- A request on another pin than the function is fixed to is rejected for that, unless the function
is taken. -/
theorem resolveRequest_of_misplaced {resolved : List ResolvedPinAssignment}
    {request : PinAssignmentRequest} {id : String}
    (hnew : ∀ b ∈ resolved, b.function ≠ request.function)
    (hfixed : request.function.fixedPinId = some id) (hne : request.pinId ≠ id) :
    resolveRequest resolved request =
      .error (.fixedPinRequired request.function id request.pinId) := by
  have hdup : ¬ (resolved.any fun item => item.function == request.function) := by
    simpa using hnew
  have hfix : checkFixedPin request =
      .error (.fixedPinRequired request.function id request.pinId) := by
    simp only [checkFixedPin, hfixed, if_pos hne]
  rw [resolveRequest, if_neg hdup, hfix]

/-- Why one round rejects a request. -/
theorem resolveRequest_error_cases {resolved : List ResolvedPinAssignment}
    {request : PinAssignmentRequest} {e : AssignmentError}
    (h : resolveRequest resolved request = .error e) :
    e = .duplicateFunction request.function ∨
      (∃ id, request.function.fixedPinId = some id ∧ request.pinId ≠ id ∧
        e = .fixedPinRequired request.function id request.pinId) ∨
      (∃ error, e = .board error) ∨
      ∃ pin existing, pin ∈ stEcuV1Pins ∧
        (e = .duplicatePin pin.pinId existing request.function ∨
          ∃ resource, resourceKey pin request.function.requiredPinFunction = some resource ∧
            e = .resourceConflict resource existing request.function) := by
  rw [resolveRequest] at h
  split at h
  · exact .inl (Except.error.inj h).symm
  split at h
  next error hfix =>
    obtain rfl := Except.error.inj h
    rw [checkFixedPin] at hfix
    split at hfix
    next id hfixed =>
      split at hfix
      next hne => exact .inr (.inl ⟨id, hfixed, hne, (Except.error.inj hfix).symm⟩)
      next => cases hfix
    next => cases hfix
  split at h
  next error _ => exact .inr (.inr (.inl ⟨error, (Except.error.inj h).symm⟩))
  next pin hpin =>
  have hmem : pin ∈ stEcuV1Pins :=
    List.mem_of_find?_eq_some (validatePinAssignment_eq_ok_iff.mp hpin).1
  split at h
  next existing _ =>
    exact .inr (.inr (.inr ⟨pin, existing.function, hmem, .inl (Except.error.inj h).symm⟩))
  split at h
  next error hres =>
    obtain rfl := Except.error.inj h
    rw [checkResource] at hres
    split at hres
    next resource hkey =>
      split at hres
      next existing _ =>
        exact .inr (.inr (.inr ⟨pin, existing.function, hmem,
          .inr ⟨resource, hkey, (Except.error.inj hres).symm⟩⟩))
      next => cases hres
    next => cases hres
  next => cases h

/-! ### Overrides -/

/-- An override keeps the functions apart. -/
theorem nodup_mergeOverride {merged : List PinAssignmentRequest} {override : PinAssignmentRequest}
    (h : (merged.map PinAssignmentRequest.function).Nodup) :
    ((mergeOverride merged override).map PinAssignmentRequest.function).Nodup := by
  rw [mergeOverride]
  split
  next index hfind =>
    obtain ⟨hlt, heq, -⟩ := List.findIdx?_eq_some_iff_getElem.mp hfind
    have hsame : merged[index].function = override.function := by simpa using heq
    rw [List.map_set, ← hsame, ← List.getElem_map PinAssignmentRequest.function (h := by simpa),
      List.set_getElem_self]
    exact h
  next hfind =>
    rw [List.map_append, List.map_singleton]
    refine List.nodup_append.mpr ⟨h, List.pairwise_singleton .., fun f hf g hg => ?_⟩
    obtain rfl := List.mem_singleton.mp hg
    obtain ⟨request, hmem, rfl⟩ := List.mem_map.mp hf
    simpa using List.findIdx?_eq_none_iff.mp hfind request hmem

theorem nodup_foldl_mergeOverride {overrides merged : List PinAssignmentRequest}
    (h : (merged.map PinAssignmentRequest.function).Nodup) :
    ((overrides.foldl mergeOverride merged).map PinAssignmentRequest.function).Nodup := by
  induction overrides generalizing merged with
  | nil => exact h
  | cons override overrides ih => exact ih (nodup_mergeOverride h)

/-! ### Misplaced requests -/

/-- A request for a function that is fixed to another pin, behind requests that are all accepted. -/
structure Misplaced (requests : List PinAssignmentRequest) (request : PinAssignmentRequest)
    (expectedPinId : String) : Prop where
  fixedPinId_eq : request.function.fixedPinId = some expectedPinId
  pinId_ne : request.pinId ≠ expectedPinId
  behind : ∃ accepted rest resolved, requests = accepted ++ request :: rest ∧
    validateAssignmentSet accepted = .ok resolved

/-- **Requests for different functions are rejected for a fixed pin exactly at a misplaced
request.** -/
theorem validateAssignmentSet_eq_fixedPinRequired_iff {requests : List PinAssignmentRequest}
    (hnodup : (requests.map PinAssignmentRequest.function).Nodup) {function : EcuFunction}
    {expectedPinId requestedPinId : String} :
    validateAssignmentSet requests =
        .error (.fixedPinRequired function expectedPinId requestedPinId) ↔
      Misplaced requests ⟨function, requestedPinId⟩ expectedPinId := by
  rw [validateAssignmentSet, resolveRequests_eq_error_iff]
  constructor
  · rintro ⟨accepted, request, rest, items, rfl, hok, herr⟩
    rcases resolveRequest_error_cases herr with
      heq | ⟨id, hfixed, hne, heq⟩ | ⟨error, heq⟩ | ⟨pin, existing, -, heq | ⟨resource, -, heq⟩⟩
    case inr.inl =>
      obtain ⟨rfl, rfl, rfl⟩ := AssignmentError.fixedPinRequired.inj heq
      exact ⟨hfixed, hne, accepted, rest, items, rfl, hok⟩
    all_goals cases heq
  · rintro ⟨hfixed, hne, accepted, rest, resolved, rfl, hok⟩
    refine ⟨accepted, ⟨function, requestedPinId⟩, rest, resolved, rfl, hok,
      resolveRequest_of_misplaced (fun b hb => ?_) hfixed hne⟩
    -- the accepted assignments answer the requests in front, which are for other functions
    obtain ⟨hmap, -⟩ := validateAssignmentSet_eq_ok_iff.mp hok
    rw [List.map_append, List.map_cons] at hnodup
    refine (List.nodup_append.mp hnodup).2.2 b.function ?_ function (List.mem_cons_self ..)
    rw [← hmap, List.map_map]
    exact List.mem_map.mpr ⟨b, hb, rfl⟩

end StEcu
