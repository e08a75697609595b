import CLIntercept.Api
import CLIntercept.Lib.OrdMap

/-!
# The tracked objects

For dumping, injecting and replaying kernel arguments the layer keeps track of the memory objects,
samplers and SVM and USM allocations of the application. `Objects` holds these maps, and the
functions below are the ones of `intercept.cpp` that add to them, remove from them and search them.
What the driver answers to a query is an argument.

SVM and USM pointers may point anywhere into an allocation. `findAllocation` is the search that the
setters of kernel arguments share: the lower bound, and one step back where it has another key.
`findAllocation_eq_floor` says what it finds, the allocation with the greatest base that is not
above the pointer, if that one reaches so far.
-/

set_option autoImplicit false

namespace CLIntercept.Track

open CLIntercept.Lib

/-! ## The maps -/

/-- `cl_mem_object_type`, as far as `addImage` tells images apart. `unset` is a zero. -/
inductive ImageType
  | unset
  | image1D
  | image1DArray
  | image2D
  | image2DArray
  | image3D
  deriving DecidableEq, Repr

/-- What is recorded of an image. -/
structure SImageInfo where
  region : Nat × Nat × Nat := (0, 0, 0)
  elementSize : Nat := 0
  format : Nat × Nat := (0, 0)
  rowPitch : Nat := 0
  slicePitch : Nat := 0
  imageType : ImageType := .unset
  deriving DecidableEq, Repr

/-- The maps of tracked objects. -/
structure Objects where
  memAllocNumber : Nat := 0
  memAllocNumberMap : Nat → Option Nat := fun _ => none
  samplerDataMap : Handle → Option String := fun _ => none
  bufferInfoMap : Handle → Option Nat := fun _ => none
  imageInfoMap : Handle → Option SImageInfo := fun _ => none
  svmAllocInfoMap : OrdMap Nat Nat := .empty
  usmAllocInfoMap : OrdMap Nat Nat := .empty

/-- `m_MemAllocNumberMap[ptr] = m_MemAllocNumber` and `m_MemAllocNumber++`. -/
def Objects.number (o : Objects) (ptr : Nat) : Objects :=
  { o with
    memAllocNumberMap := Function.update o.memAllocNumberMap ptr (some o.memAllocNumber)
    memAllocNumber := (o.memAllocNumber + 1) % uintModulus }

/-- `m_MemAllocNumberMap.erase(ptr)`. -/
def Objects.unnumber (o : Objects) (ptr : Nat) : Objects :=
  { o with memAllocNumberMap := Function.update o.memAllocNumberMap ptr none }

/-! ## Memory objects and samplers -/

/-- `size` is the answer to `CL_MEM_SIZE`, if the query succeeds. -/
def addBuffer (buffer : Handle) (size : Option Nat) (o : Objects) : Objects :=
  if buffer = null then o
  else match size with
    | some size =>
      let o := o.number buffer
      { o with bufferInfoMap := Function.update o.bufferInfoMap buffer (some size) }
    | none => o

/-- The answers to the queries of an image. -/
structure ImageAnswers where
  width : Nat
  height : Nat
  depth : Nat
  arraySize : Nat
  elementSize : Nat
  rowPitch : Nat
  slicePitch : Nat
  format : Nat × Nat
  deriving DecidableEq, Repr

/-- The image info made of the answers, over what `operator[]` found. The depth is looked at after
the height, and the type it sets stays. -/
def imageInfo (a : ImageAnswers) (old : SImageInfo) : SImageInfo :=
  let info := { old with region := (a.width, old.region.2) }
  let info :=
    if a.height = 0 then
      if a.arraySize = 0 then
        { info with region := (info.region.1, 1, info.region.2.2), imageType := .image1D }
      else
        { info with
          region := (info.region.1, a.arraySize, info.region.2.2), imageType := .image1DArray }
    else { info with region := (info.region.1, a.height, info.region.2.2) }
  let info :=
    if a.depth = 0 then
      if a.arraySize = 0 then
        { info with region := (info.region.1, info.region.2.1, 1), imageType := .image2D }
      else
        { info with
          region := (info.region.1, info.region.2.1, a.arraySize), imageType := .image2DArray }
    else { info with region := (info.region.1, info.region.2.1, a.depth), imageType := .image3D }
  { info with
    elementSize := a.elementSize
    format := a.format
    rowPitch := a.rowPitch
    slicePitch := a.slicePitch }

/-- `answers` are the answers to the queries, if all of them succeed. -/
def addImage (image : Handle) (answers : Option ImageAnswers) (o : Objects) : Objects :=
  if image = null then o
  else match answers with
    | some a =>
      let info := imageInfo a ((o.imageInfoMap image).getD {})
      let o := { o with imageInfoMap := Function.update o.imageInfoMap image (some info) }
      o.number image
    | none => o

/-- `refCount` is the answer to the reference count query, 0 where it fails. -/
def checkRemoveMemObj (memobj : Handle) (refCount : Nat) (o : Objects) : Objects :=
  if refCount = 1 then
    let o := o.unnumber memobj
    { o with
      bufferInfoMap := Function.update o.bufferInfoMap memobj none
      imageInfoMap := Function.update o.imageInfoMap memobj none }
  else o

def addSamplerString (sampler : Handle) (str : String) (o : Objects) : Objects :=
  if sampler = null then o
  else { o with samplerDataMap := Function.update o.samplerDataMap sampler (some str) }

def checkRemoveSamplerString (sampler : Handle) (refCount : Nat) (o : Objects) : Objects :=
  if refCount = 1 then { o with samplerDataMap := Function.update o.samplerDataMap sampler none }
  else o

/-- The string of the sampler that an argument value holds: `value` is null or its bytes. -/
def checkGetSamplerString (value : Option Bytes) (o : Objects) : Option String :=
  match value with
  | some bytes => if bytes.length = pointerSize then o.samplerDataMap bytes.toNat else none
  | none => none

/-! ## SVM and USM allocations -/

def addSVMAllocation (svmPtr size : Nat) (o : Objects) : Objects :=
  if svmPtr = null then o
  else
    let o := o.number svmPtr
    { o with svmAllocInfoMap := o.svmAllocInfoMap.insert svmPtr size }

def removeSVMAllocation (svmPtr : Nat) (o : Objects) : Objects :=
  let o := o.unnumber svmPtr
  { o with svmAllocInfoMap := o.svmAllocInfoMap.erase svmPtr }

def addUSMAllocation (usmPtr size : Nat) (o : Objects) : Objects :=
  if usmPtr = null then o
  else
    let o := o.number usmPtr
    { o with usmAllocInfoMap := o.usmAllocInfoMap.insert usmPtr size }

def removeUSMAllocation (usmPtr : Nat) (o : Objects) : Objects :=
  let o := o.unnumber usmPtr
  { o with usmAllocInfoMap := o.usmAllocInfoMap.erase usmPtr }

/-- The search of the pointer setters, in the map of their kind. The last case is for a position
without an entry, which the step back leaves no room for. -/
def findAllocation (m : OrdMap Nat Nat) (arg : Nat) : Option (Nat × Nat) :=
  if m.entries.isEmpty then none
  else
    let iter := m.lowerBound arg
    let iter :=
      if iter = m.fin ∨ ((m.at? iter).map (·.1) ≠ some arg ∧ iter ≠ 0) then iter - 1 else iter
    match m.at? iter with
    | some (startPtr, size) =>
      if startPtr ≤ arg ∧ arg < startPtr + size then some (startPtr, size) else none
    | none => none

/-- An allocation holds a pointer. -/
def Holds (alloc : Nat × Nat) (ptr : Nat) : Prop := alloc.1 ≤ ptr ∧ ptr < alloc.1 + alloc.2

instance (alloc : Nat × Nat) (ptr : Nat) : Decidable (Holds alloc ptr) :=
  inferInstanceAs (Decidable (_ ∧ _))

/-- The range check at a position is a filter. -/
theorem filter_holds (e : Option (Nat × Nat)) (arg : Nat) :
    (match e with
      | some (startPtr, size) =>
        if startPtr ≤ arg ∧ arg < startPtr + size then some (startPtr, size) else none
      | none => none) = e.filter (Holds · arg) := by
  cases e with
  | none => rfl
  | some e =>
    rw [Option.filter_some]
    show (if Holds e arg then some e else none) = if decide (Holds e arg) = true then some e else none
    simp only [decide_eq_true_eq]

/-- **What the search finds.** -/
theorem findAllocation_eq_floor (m : OrdMap Nat Nat) (arg : Nat) :
    findAllocation m arg = (m.floor? arg).filter (Holds · arg) := by
  unfold findAllocation
  split
  · next hempty =>
    have : m.floor? arg = none :=
      OrdMap.floor?_eq_none_iff.mpr (by simp [List.isEmpty_iff.mp hempty])
    rw [this]
    rfl
  · next hne =>
    dsimp only
    rw [filter_holds, OrdMap.floor?_eq_of_lowerBound]
    cases hat : m.at? (m.lowerBound arg) with
    | none =>
      have hfin : m.lowerBound arg = m.fin :=
        Nat.le_antisymm List.findIdx_le_length (List.getElem?_eq_none_iff.mp hat)
      have hpos : m.lowerBound arg ≠ 0 := fun h0 =>
        hne (List.isEmpty_iff_length_eq_zero.mpr (hfin.symm.trans h0))
      simp only [hfin, true_or, if_true]
      rw [if_neg (hfin ▸ hpos)]
    | some e =>
      have hfin : m.lowerBound arg ≠ m.fin := by
        obtain ⟨h, -⟩ := List.getElem?_eq_some_iff.mp hat
        exact Nat.ne_of_lt h
      by_cases hkey : e.1 = arg
      · simp [hfin, hat, hkey]
      · by_cases h0 : m.lowerBound arg = 0
        · -- The first entry is above the pointer, so the range check refuses it.
          have habove := OrdMap.le_of_lowerBound_le (Nat.le_refl _) hat
          have : ¬ Holds e arg := fun h => hkey (Nat.le_antisymm h.1 habove)
          have hiter : ¬ (m.lowerBound arg = m.fin ∨
              (((some e).map (·.1) ≠ some arg) ∧ m.lowerBound arg ≠ 0)) :=
            fun h => h.elim hfin fun h => h.2 h0
          rw [if_neg hiter, hat]
          simp [hkey, h0, this]
        · simp [hfin, hkey, h0]

/-- What the search finds is an entry that holds the pointer. -/
theorem findAllocation_sound {m : OrdMap Nat Nat} {arg : Nat} {alloc : Nat × Nat}
    (h : findAllocation m arg = some alloc) : alloc ∈ m.entries ∧ Holds alloc arg := by
  rw [findAllocation_eq_floor, Option.filter_eq_some_iff] at h
  exact ⟨(OrdMap.floor?_eq_some_iff.mp h.1).1, by simpa using h.2⟩

/-! ## Any change of the tracked objects -/

/-- A call that adds to the tracked objects or removes from them. -/
inductive ObjectCall
  | addBuffer (buffer : Handle) (size : Option Nat)
  | addImage (image : Handle) (answers : Option ImageAnswers)
  | checkRemoveMemObj (memobj : Handle) (refCount : Nat)
  | addSamplerString (sampler : Handle) (str : String)
  | checkRemoveSamplerString (sampler : Handle) (refCount : Nat)
  | addSVMAllocation (svmPtr size : Nat)
  | removeSVMAllocation (svmPtr : Nat)
  | addUSMAllocation (usmPtr size : Nat)
  | removeUSMAllocation (usmPtr : Nat)
  deriving DecidableEq, Repr

def ObjectCall.apply : ObjectCall → Objects → Objects
  | .addBuffer buffer size => Track.addBuffer buffer size
  | .addImage image answers => Track.addImage image answers
  | .checkRemoveMemObj memobj refCount => Track.checkRemoveMemObj memobj refCount
  | .addSamplerString sampler str => Track.addSamplerString sampler str
  | .checkRemoveSamplerString sampler refCount => Track.checkRemoveSamplerString sampler refCount
  | .addSVMAllocation svmPtr size => Track.addSVMAllocation svmPtr size
  | .removeSVMAllocation svmPtr => Track.removeSVMAllocation svmPtr
  | .addUSMAllocation usmPtr size => Track.addUSMAllocation usmPtr size
  | .removeUSMAllocation usmPtr => Track.removeUSMAllocation usmPtr

/-- A tracked SVM or USM allocation: its base and size. -/
def Objects.Allocated (o : Objects) (alloc : Nat × Nat) : Prop :=
  alloc ∈ o.svmAllocInfoMap.entries ∨ alloc ∈ o.usmAllocInfoMap.entries

/-- Allocations are tracked under their bases, which are not null. -/
def Objects.NonNull (o : Objects) : Prop := ∀ alloc, o.Allocated alloc → alloc.1 ≠ null

/-- The two maps of allocations. -/
def Objects.allocs (o : Objects) : OrdMap Nat Nat × OrdMap Nat Nat :=
  (o.svmAllocInfoMap, o.usmAllocInfoMap)

@[simp] theorem allocs_addBuffer (buffer : Handle) (size : Option Nat) (o : Objects) :
    (addBuffer buffer size o).allocs = o.allocs := by
  unfold addBuffer
  split
  · rfl
  · cases size <;> rfl

@[simp] theorem allocs_addImage (image : Handle) (answers : Option ImageAnswers) (o : Objects) :
    (addImage image answers o).allocs = o.allocs := by
  unfold addImage
  split
  · rfl
  · cases answers <;> rfl

@[simp] theorem allocs_checkRemoveMemObj (memobj : Handle) (refCount : Nat) (o : Objects) :
    (checkRemoveMemObj memobj refCount o).allocs = o.allocs := by
  unfold checkRemoveMemObj
  split <;> rfl

@[simp] theorem allocs_addSamplerString (sampler : Handle) (str : String) (o : Objects) :
    (addSamplerString sampler str o).allocs = o.allocs := by
  unfold addSamplerString
  split <;> rfl

@[simp] theorem allocs_checkRemoveSamplerString (sampler : Handle) (refCount : Nat) (o : Objects) :
    (checkRemoveSamplerString sampler refCount o).allocs = o.allocs := by
  unfold checkRemoveSamplerString
  split <;> rfl

/-- An SVM allocation is put into the map of SVM allocations. -/
@[simp] theorem allocs_addSVMAllocation (svmPtr size : Nat) (o : Objects) :
    (addSVMAllocation svmPtr size o).allocs =
      if svmPtr = null then o.allocs else (o.svmAllocInfoMap.insert svmPtr size, o.usmAllocInfoMap) := by
  unfold addSVMAllocation
  split <;> rfl

/-- A USM allocation is put into the map of USM allocations. -/
@[simp] theorem allocs_addUSMAllocation (usmPtr size : Nat) (o : Objects) :
    (addUSMAllocation usmPtr size o).allocs =
      if usmPtr = null then o.allocs else (o.svmAllocInfoMap, o.usmAllocInfoMap.insert usmPtr size) := by
  unfold addUSMAllocation
  split <;> rfl

@[simp] theorem allocs_removeSVMAllocation (svmPtr : Nat) (o : Objects) :
    (removeSVMAllocation svmPtr o).allocs = (o.svmAllocInfoMap.erase svmPtr, o.usmAllocInfoMap) := rfl

@[simp] theorem allocs_removeUSMAllocation (usmPtr : Nat) (o : Objects) :
    (removeUSMAllocation usmPtr o).allocs = (o.svmAllocInfoMap, o.usmAllocInfoMap.erase usmPtr) := rfl

theorem allocated_iff {o : Objects} {alloc : Nat × Nat} :
    o.Allocated alloc ↔ alloc ∈ o.allocs.1.entries ∨ alloc ∈ o.allocs.2.entries := Iff.rfl

/-- An allocation that is tracked after a call was tracked before, or has a base. -/
theorem allocated_apply {o : Objects} (c : ObjectCall) {alloc : Nat × Nat}
    (h : (c.apply o).Allocated alloc) : o.Allocated alloc ∨ alloc.1 ≠ null := by
  rw [allocated_iff] at h ⊢
  cases c with
  | addSVMAllocation svmPtr size =>
    simp only [ObjectCall.apply, allocs_addSVMAllocation] at h
    split at h
    · exact .inl h
    · next hnull =>
      rcases h with h | h
      · exact (OrdMap.mem_insert.mp h).elim (fun h => .inr (h ▸ hnull)) fun h => .inl (.inl h.1)
      · exact .inl (.inr h)
  | addUSMAllocation usmPtr size =>
    simp only [ObjectCall.apply, allocs_addUSMAllocation] at h
    split at h
    · exact .inl h
    · next hnull =>
      rcases h with h | h
      · exact .inl (.inl h)
      · exact (OrdMap.mem_insert.mp h).elim (fun h => .inr (h ▸ hnull)) fun h => .inl (.inr h.1)
  | removeSVMAllocation svmPtr => exact .inl (h.imp_left fun h => (OrdMap.mem_erase.mp h).1)
  | removeUSMAllocation usmPtr => exact .inl (h.imp_right fun h => (OrdMap.mem_erase.mp h).1)
  | _ => simpa [ObjectCall.apply] using Or.inl h

/-- No call brings in an allocation at `NULL`. -/
theorem Objects.NonNull.apply {o : Objects} (h : o.NonNull) (c : ObjectCall) :
    (c.apply o).NonNull := fun alloc halloc => (allocated_apply c halloc).elim (h alloc) id

end CLIntercept.Track
