import Mathlib.Data.List.GetD
import StEcu.Foundation.ByteBuffer
import StEcu.Foundation.Cells
import StEcu.Foundation.TransitionSystem
import StEcu.Hal.Common

/-!
# The flash pages

The drivers of the flash (`F407Flash` in `src/hal/f407.rs`, `H743Flash` in `src/hal/h743.rs`). They
differ in the length of a page only. A write puts its bytes at the start of a page; what it does not
reach stays, so a page that was not erased before keeps the end of the longer write before it.

## Main definitions

* `PageFlash`: `erasePage`, `writePage`, `readPage`, with `F407Flash` and `H743Flash`.
* `PageFlash.puts`: the byte that a call puts at a place.
* `PageFlash.answer`: the answer to a call, by the calls before it.

## Main results

* `PageFlash.page_of_run`: every byte is the one that was put there last.
* `PageFlash.flash_follows_calls`: the answers of a run, and the pages it leaves.
-/

namespace StEcu

/-- Ten pages of one length. -/
structure PageFlash (n : ℕ) where
  pages : Vector Bytes 10 := .replicate 10 (List.replicate n 0xFF)
  length_pages : ∀ i, (pages.get i).length = n := by
    intro i
    rw [Vector.get_replicate_fin, List.length_replicate]

/-- The flash of the F407. -/
abbrev F407Flash := PageFlash 512

/-- The flash of the H743. -/
abbrev H743Flash := PageFlash 1024

namespace PageFlash

variable {n : ℕ}

/-- The flash with another content of one page. -/
def setPage (flash : PageFlash n) (i : Fin 10) (page : Bytes) (h : page.length = n) :
    PageFlash n where
  pages := flash.pages.setFin i page
  length_pages j := by
    rw [Vector.get_setFin]
    split
    · exact h
    · exact flash.length_pages j

/-- A page filled with 0xFF. -/
def erasePage (flash : PageFlash n) (pageId : UInt8) : HalResult (PageFlash n) :=
  if h : pageId.toNat < 10 then
    .ok (flash.setPage ⟨pageId.toNat, h⟩ (List.replicate n 0xFF) List.length_replicate)
  else .error .invalidPin

/-- Some bytes written over the front of a page. -/
def writePage (flash : PageFlash n) (pageId : UInt8) (bytes : Bytes) : HalResult (PageFlash n) :=
  if h : pageId.toNat < 10 ∧ bytes.length ≤ n then
    let i : Fin 10 := ⟨pageId.toNat, h.1⟩
    .ok (flash.setPage i (splice (flash.pages.get i) 0 bytes) (by
      rw [length_splice, flash.length_pages i]
      rw [flash.length_pages i]
      omega))
  else .error .invalidPin

/-- `size` is the length of the buffer that is filled. -/
def readPage (flash : PageFlash n) (pageId : UInt8) (size : ℕ) : HalResult Bytes :=
  if h : pageId.toNat < 10 ∧ size ≤ n then
    .ok ((flash.pages.get ⟨pageId.toNat, h.1⟩).take size)
  else .error .invalidPin

end PageFlash

/-- A call of the driver. -/
inductive FlashCall
  | erasePage (pageId : UInt8)
  | writePage (pageId : UInt8) (bytes : Bytes)
  | readPage (pageId : UInt8) (size : ℕ)
  deriving DecidableEq, Repr

/-- The page that a call is to change. -/
def FlashCall.changes : FlashCall → Option UInt8
  | .erasePage pageId => some pageId
  | .writePage pageId _ => some pageId
  | .readPage _ _ => none

namespace PageFlash

variable {n : ℕ}

/-- A call that changes the flash answers with nothing, and one that fails leaves the flash. -/
def settle (flash : PageFlash n) : HalResult (PageFlash n) → PageFlash n × HalResult Bytes
  | .ok next => (next, .ok [])
  | .error e => (flash, .error e)

/-- What a call does and what it answers. A call that fails changes nothing. -/
def step (flash : PageFlash n) : FlashCall → PageFlash n × HalResult Bytes
  | .erasePage pageId => flash.settle (flash.erasePage pageId)
  | .writePage pageId bytes => flash.settle (flash.writePage pageId bytes)
  | .readPage pageId size => (flash, flash.readPage pageId size)

/-- The calls of the driver. -/
def driver (n : ℕ) : TransitionSystem (PageFlash n) FlashCall (HalResult Bytes) := .ofFun step

/-- The byte that a call puts at a place of a page, if it puts one there. -/
def puts (n : ℕ) (i : Fin 10) (place : ℕ) : FlashCall → Option UInt8
  | .erasePage pageId => if pageId.toNat = i then some 0xFF else none
  | .writePage pageId bytes =>
    if pageId.toNat = i ∧ bytes.length ≤ n then bytes[place]? else none
  | .readPage _ _ => none

/-- The byte at a place of a page, by the calls. -/
def putLast (n : ℕ) (calls : List FlashCall) (i : Fin 10) (place : ℕ) : UInt8 :=
  (calls.filterMap (puts n i place)).getLast?.getD 0xFF

/-- The answer to a call, by the calls before it. -/
def answer (n : ℕ) (calls : List FlashCall) : FlashCall → HalResult Bytes
  | .erasePage pageId => if pageId.toNat < 10 then .ok [] else .error .invalidPin
  | .writePage pageId bytes =>
    if pageId.toNat < 10 ∧ bytes.length ≤ n then .ok [] else .error .invalidPin
  | .readPage pageId size =>
    if h : pageId.toNat < 10 ∧ size ≤ n then
      .ok ((List.range size).map (putLast n calls ⟨pageId.toNat, h.1⟩))
    else .error .invalidPin

variable {flash next : PageFlash n} {i : Fin 10} {place : ℕ}

/-- **What one call does to a byte.** -/
theorem byte_step (hplace : place < n) (call : FlashCall) :
    ((flash.step call).1.pages.get i).getD place 0xFF =
      (puts n i place call).getD ((flash.pages.get i).getD place 0xFF) := by
  cases call with
  | erasePage pageId =>
    rw [step, erasePage, puts]
    split
    · simp only [settle, setPage, Vector.get_setFin, Fin.ext_iff]
      split <;> simp [hplace]
    · next hid =>
      have hne : pageId.toNat ≠ i := fun heq => hid (heq ▸ i.isLt)
      rw [if_neg hne]
      rfl
  | writePage pageId bytes =>
    rw [step, writePage, puts]
    split
    · next h =>
      simp only [settle, setPage, Vector.get_setFin, Fin.ext_iff, h.2, and_true]
      split
      · next heq =>
        have hi : (⟨pageId.toNat, h.1⟩ : Fin 10) = i := Fin.ext heq
        have hfits : 0 + bytes.length ≤ (flash.pages.get i).length := by
          rw [flash.length_pages i]
          omega
        rw [hi, List.getD_eq_getElem?_getD, getElem?_splice hfits]
        simp only [Nat.zero_le, true_and, zero_add, Nat.sub_zero]
        split
        · next hlt => rw [List.getElem?_eq_getElem hlt, Option.getD_some, Option.getD_some]
        · next hge =>
          rw [List.getElem?_eq_none (not_lt.mp hge), Option.getD_none, List.getD_eq_getElem?_getD]
      · rfl
    · next h =>
      have hne : ¬(pageId.toNat = i ∧ bytes.length ≤ n) := fun heq => h ⟨heq.1 ▸ i.isLt, heq.2⟩
      rw [if_neg hne]
      rfl
  | readPage pageId size => rfl

/-! ### Runs -/

section Run

variable {tr : List (Transition (PageFlash n) FlashCall (HalResult Bytes))}
  {calls pre mid post : List FlashCall} {pageId : UInt8} {bytes : Bytes}

/-- **Every byte is the one that was put there last.** -/
theorem page_of_run (h : (driver n).Run {} tr flash) (i : Fin 10) :
    flash.pages.get i = (List.range n).map (putLast n (tr.map Transition.event) i) := by
  have hbyte (place : ℕ) (hplace : place < n) : (flash.pages.get i).getD place 0xFF =
      putLast n (tr.map Transition.event) i place := by
    have hlast := h.observe_getLast (fun flash => (flash.pages.get i).getD place 0xFF)
      (fun t => puts n i place t.event) fun t _ hs => by
        rw [← byte_step hplace, show t.src.step t.event = (t.dst, t.output) from hs]
    rw [hlast, putLast, List.filterMap_map, Vector.get_replicate_fin,
      List.getD_eq_getElem _ _ (List.length_replicate.symm ▸ hplace), List.getElem_replicate]
    rfl
  refine List.ext_getElem ?_ fun place hleft hright => ?_
  · rw [flash.length_pages, List.length_map, List.length_range]
  · rw [flash.length_pages] at hleft
    rw [List.getElem_map, List.getElem_range, ← hbyte place hleft, List.getD_eq_getElem]

/-- Every call is answered by the calls before it. -/
theorem answer_of_run (h : (driver n).Run {} tr flash) (call : FlashCall) :
    (flash.step call).2 = answer n (tr.map Transition.event) call := by
  cases call with
  | erasePage pageId =>
    rw [step, erasePage, answer]
    split <;> rfl
  | writePage pageId bytes =>
    rw [step, writePage, answer]
    split <;> rfl
  | readPage pageId size =>
    rw [step, readPage, answer]
    split
    · next hid =>
      rw [page_of_run h, ← List.map_take, List.take_range, Nat.min_eq_left hid.2]
    · rfl

/-- A call for another page puts nothing there. -/
theorem puts_eq_none {call : FlashCall} (hi : pageId.toNat = i)
    (hcall : call.changes ≠ some pageId) (place : ℕ) : puts n i place call = none := by
  have hne (other : UInt8) (hother : some other ≠ some pageId) : other.toNat ≠ i := fun heq =>
    hother (congrArg some (UInt8.toNat_inj.mp (heq.trans hi.symm)))
  cases call with
  | erasePage other => exact if_neg (hne other hcall)
  | writePage other bytes => exact if_neg fun heq => hne other hcall heq.1
  | readPage other size => rfl

/-- A page that was erased and then written, with other pages in between. -/
theorem putLast_erased (hi : pageId.toNat = i) (hfits : bytes.length ≤ n)
    (hother : ∀ call ∈ mid ++ post, call.changes ≠ some pageId) (place : ℕ) :
    putLast n (pre ++ .erasePage pageId :: mid ++ .writePage pageId bytes :: post) i place =
      bytes.getD place 0xFF := by
  have hquiet (l : List FlashCall) (hl : ∀ call ∈ l, call ∈ mid ++ post) :
      l.filterMap (puts n i place) = [] :=
    List.filterMap_eq_nil_iff.mpr fun call hcall =>
      puts_eq_none hi (hother call (hl call hcall)) place
  have herase : puts n i place (.erasePage pageId) = some 0xFF := if_pos hi
  have hwrite : puts n i place (.writePage pageId bytes) = bytes[place]? := if_pos ⟨hi, hfits⟩
  rw [putLast, List.filterMap_append, List.filterMap_append, List.filterMap_cons_some herase,
    hquiet mid fun call hcall => List.mem_append_left _ hcall, List.filterMap_cons, hwrite,
    hquiet post fun call hcall => List.mem_append_right _ hcall, List.getD_eq_getElem?_getD]
  cases bytes[place]? with
  | none => simp
  | some b => simp

/-- **What the driver answers, and what the flash holds**, after any calls. A read returns the bytes
that were put there last; a page that was erased before it was written holds what was written, and
nothing of what was written before. -/
theorem flash_follows_calls (h : (driver n).Run {} tr flash) :
    (∀ pre t post, tr = pre ++ t :: post →
      t.output = answer n (pre.map Transition.event) t.event) ∧
    (∀ i, flash.pages.get i = (List.range n).map (putLast n (tr.map Transition.event) i)) ∧
    ∀ (i : Fin 10) (pageId : UInt8) bytes pre mid post,
      tr.map Transition.event = pre ++ .erasePage pageId :: mid ++ .writePage pageId bytes :: post →
      pageId.toNat = (i : ℕ) → bytes.length ≤ n →
      (∀ call ∈ mid ++ post, call.changes ≠ some pageId) →
      flash.pages.get i = bytes ++ List.replicate (n - bytes.length) 0xFF := by
  refine ⟨fun pre t post htr => ?_, page_of_run h,
    fun i pageId bytes pre mid post hcalls hi hfits hother => ?_⟩
  · subst htr
    obtain ⟨hpre, hstep, -⟩ := h.split_mem
    have hanswer := answer_of_run hpre t.event
    rwa [show t.src.step t.event = (t.dst, t.output) from hstep] at hanswer
  · have hplaces : putLast n (tr.map Transition.event) i = (bytes.getD · 0xFF) := by
      funext place
      rw [hcalls, putLast_erased hi hfits hother]
    rw [page_of_run h, hplaces]
    refine List.ext_getElem ?_ fun place hleft hright => ?_
    · simp [hfits]
    · rw [List.getElem_map, List.getElem_range, List.getElem_append, List.getD_eq_getElem?_getD]
      split
      · next hlt => rw [List.getElem?_eq_getElem hlt, Option.getD_some]
      · next hge =>
        rw [List.getElem?_eq_none (not_lt.mp hge), Option.getD_none, List.getElem_replicate]

/-- A page of the first controller is written twice, and erased and written again. -/
theorem flash_follows_calls_rewritten : ∃ tr flash, (driver 512).Run {} tr flash ∧
    tr.map Transition.output = [.ok [], .ok [], .ok [7, 2, 3, 0xFF], .ok [], .ok []] ∧
    flash.pages.get 3 = 9 :: List.replicate 511 0xFF := by
  have hcalls := TransitionSystem.map_event_trace step ({} : PageFlash 512)
    [.writePage 3 [1, 2, 3], .writePage 3 [7], .readPage 3 4, .erasePage 3, .writePage 3 [9]]
  have hrun := TransitionSystem.run_trace step ({} : PageFlash 512)
    [.writePage 3 [1, 2, 3], .writePage 3 [7], .readPage 3 4, .erasePage 3, .writePage 3 [9]]
  obtain ⟨-, -, herased⟩ := flash_follows_calls hrun
  refine ⟨_, _, hrun, by decide +kernel, ?_⟩
  exact herased 3 3 [9] [.writePage 3 [1, 2, 3], .writePage 3 [7], .readPage 3 4] [] [] hcalls rfl
    (by decide) (by simp)

end Run

end PageFlash

end StEcu
