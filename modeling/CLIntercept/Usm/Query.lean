import CLIntercept.Lib.Intervals
import CLIntercept.Track.Allocations
import CLIntercept.Track.KernelArgs
import CLIntercept.Usm.Invariant

/-!
# Searching an allocation by a pointer into it

`setKernelArgSVMPointer`, `setKernelArgUSMPointer` and `emulatedGetMemAllocInfoINTEL` are given a
pointer anywhere in an allocation and search their map with `lower_bound` and one step back. The
functions here are those of the source with their iterators: an iterator that is decremented at
`begin()` or dereferenced at `end()` has no result, `none`. `Track.KernelArgs` has the setters
without iterators, and `setKernelArgPointer?_eq` is that they agree.

For allocations that are disjoint, and of which no empty one lies inside another, all three agree
with a linear search.
-/

set_option autoImplicit false

namespace CLIntercept.Track

open CLIntercept.Lib

/-! ## The setters -/

/-- The position that the setters look at, in a map that is not empty. -/
def setterIterator (m : OrdMap Nat Nat) (arg : Nat) : Option Nat :=
  let iter := m.lowerBound arg
  if iter = m.fin then m.prev? iter
  else (m.at? iter).bind fun e => if e.1 ≠ arg ∧ iter ≠ 0 then m.prev? iter else some iter

/-- What the setters do with the map of their kind. -/
def setKernelArgPointer? (allocs : OrdMap Nat Nat) (kernel : Handle) (argIndex arg : Nat)
    (t : KernelArgs) : Option KernelArgs :=
  if allocs.entries.isEmpty then some t
  else
    (setterIterator allocs arg).bind fun iter => (allocs.at? iter).map fun (startPtr, size) =>
      if startPtr ≤ arg ∧ arg < startPtr + size then
        { t with
          kernelArgMemMap := store t.kernelArgMemMap kernel argIndex ⟨startPtr, arg - startPtr⟩
          kernelArgDataMap := store t.kernelArgDataMap kernel argIndex (pointerBytes startPtr) }
      else t

def setKernelArgSVMPointer? (kernel : Handle) (argIndex arg : Nat) (o : Objects) (t : KernelArgs) :
    Option KernelArgs :=
  setKernelArgPointer? o.svmAllocInfoMap kernel argIndex arg t

def setKernelArgUSMPointer? (kernel : Handle) (argIndex arg : Nat) (o : Objects) (t : KernelArgs) :
    Option KernelArgs :=
  setKernelArgPointer? o.usmAllocInfoMap kernel argIndex arg t

/-- The iterator has an entry, and past the range check it is the greatest base not above the
pointer. -/
theorem setterIterator_spec {m : OrdMap Nat Nat} (hne : m.entries.isEmpty = false) (arg : Nat) :
    ∃ iter e, setterIterator m arg = some iter ∧ m.at? iter = some e ∧
      (some e).filter (Holds · arg) = (m.floor? arg).filter (Holds · arg) := by
  unfold setterIterator
  rcases m.lowerBound_cases arg with ⟨e, hat, hkey, hfloor⟩ | ⟨h0, habove, hfloor⟩ |
    ⟨h0, hkey, e, hat, hfloor⟩
  · have hfin : m.lowerBound arg ≠ m.fin := fun h =>
      nomatch (OrdMap.lowerBound_eq_fin_iff.mp h).symm.trans hat
    refine ⟨m.lowerBound arg, e, ?_, hat, by rw [hfloor]⟩
    simp [hfin, hat, hkey]
  · have hfin : m.lowerBound arg ≠ m.fin := fun h => OrdMap.fin_ne_zero hne (h.symm.trans h0)
    cases hat : m.at? (m.lowerBound arg) with
    | none => exact absurd (OrdMap.lowerBound_eq_fin_iff.mpr hat) hfin
    | some e =>
      -- the first base is above the pointer, and the range check refuses it
      have hout : ¬Holds e arg := fun h => absurd h.1 (Nat.not_le.mpr (habove e hat))
      refine ⟨m.lowerBound arg, e, ?_, hat, by simp [hfloor, hout]⟩
      dsimp only
      rw [if_neg hfin, hat, Option.bind_some, if_neg fun h => h.2 h0]
  · refine ⟨m.lowerBound arg - 1, e, ?_, hat, by rw [hfloor]⟩
    by_cases hfin : m.lowerBound arg = m.fin
    · rw [if_pos hfin, OrdMap.prev?_of_ne_zero m h0]
    · cases hat' : m.at? (m.lowerBound arg) with
      | none => exact absurd (OrdMap.lowerBound_eq_fin_iff.mpr hat') hfin
      | some d =>
        dsimp only
        rw [if_neg hfin, hat', Option.bind_some, if_pos ⟨hkey d hat', h0⟩,
          OrdMap.prev?_of_ne_zero m h0]

/-- **The setters always have a result**, the one of `setKernelArgPointer`. -/
theorem setKernelArgPointer?_eq (allocs : OrdMap Nat Nat) (kernel : Handle) (argIndex arg : Nat)
    (t : KernelArgs) :
    setKernelArgPointer? allocs kernel argIndex arg t =
      some (setKernelArgPointer allocs kernel argIndex arg t) := by
  unfold setKernelArgPointer? setKernelArgPointer
  rw [findAllocation_eq_floor]
  by_cases hempty : allocs.entries.isEmpty
  · have hnone : allocs.floor? arg = none :=
      OrdMap.floor?_eq_none_iff.mpr (by simp [List.isEmpty_iff.mp hempty])
    rw [if_pos hempty, hnone]
    rfl
  · obtain ⟨iter, ⟨startPtr, size⟩, hiter, hat, hfilter⟩ :=
      setterIterator_spec (by simpa using hempty) arg
    rw [if_neg hempty, hiter, Option.bind_some, hat, ← hfilter, Option.map_some,
      Option.filter_some]
    dsimp only
    by_cases hholds : startPtr ≤ arg ∧ arg < startPtr + size
    · have hdecide : decide (Holds (startPtr, size) arg) = true := decide_eq_true hholds
      rw [if_pos hholds, hdecide, if_pos rfl]
    · have hdecide : decide (Holds (startPtr, size) arg) = false := decide_eq_false hholds
      rw [if_neg hholds, hdecide, if_neg Bool.false_ne_true]

/-- **What a setter should do**: record the base and the offset if an allocation holds the pointer,
and change nothing if none does. -/
def Records (m : OrdMap Nat Nat) (kernel : Handle) (argIndex arg : Nat) (t : KernelArgs)
    (result : Option KernelArgs) : Prop :=
  (∀ base size, (base, size) ∈ m.entries → Holds (base, size) arg → result = some
    { t with
      kernelArgMemMap := store t.kernelArgMemMap kernel argIndex ⟨base, arg - base⟩
      kernelArgDataMap := store t.kernelArgDataMap kernel argIndex (pointerBytes base) }) ∧
  ((∀ alloc ∈ m.entries, ¬Holds alloc arg) → result = some t)

theorem records_setKernelArgPointer? {m : OrdMap Nat Nat} (h : m.Separate id) (kernel : Handle)
    (argIndex arg : Nat) (t : KernelArgs) :
    Records m kernel argIndex arg t (setKernelArgPointer? m kernel argIndex arg t) := by
  rw [setKernelArgPointer?_eq]
  unfold setKernelArgPointer
  rw [findAllocation_eq_floor]
  constructor
  · intro base size hmem hholds
    have hfound : (m.floor? arg).filter (Holds · arg) = some (base, size) :=
      (OrdMap.filter_floor?_eq_some_iff h).mpr ⟨hmem, hholds⟩
    rw [hfound]
  · intro hnone
    have hfound : (m.floor? arg).filter (Holds · arg) = none :=
      (OrdMap.filter_floor?_eq_none_iff h).mpr hnone
    rw [hfound]

/-- Wherever the maps track the live allocations, the setters find what they should. -/
theorem Allocations.TracksLive.separate {s : Allocations.State} (h : Allocations.TracksLive s) :
    s.objects.svmAllocInfoMap.Separate id ∧ s.objects.usmAllocInfoMap.Separate id := by
  have hapart : ∀ a b, s.objects.Allocated a → s.objects.Allocated b → a.1 < b.1 →
      a.1 + a.2 ≤ b.1 := by
    intro a b ha hb hlt
    rcases h.apart a b ha hb fun heq => hlt.ne (congrArg Prod.fst heq) with hle | hle <;> omega
  exact ⟨fun a ha b hb => hapart a b (.inl ha) (.inl hb),
    fun a ha b hb => hapart a b (.inr ha) (.inr hb)⟩

end CLIntercept.Track

namespace CLIntercept.Usm

open CLIntercept.Lib

/-! ## The query -/

/-- `cl_mem_info_intel`. -/
inductive MemInfo
  | allocType
  | allocBasePtr
  | allocSize
  | allocDevice
  | other (name : Nat)
  deriving DecidableEq, Repr

/-- `cl_unified_shared_memory_type_intel`, by its numbers. -/
def MemType.value : MemType → Nat
  | .unknown => 0x4196
  | .host => 0x4197
  | .device => 0x4198
  | .shared => 0x4199

/-- Where the caller wants its answer: `param_value_size`, and whether the two pointers are not
`NULL`. -/
structure Destination where
  paramValueSize : Nat
  paramValue : Bool
  paramValueSizeRet : Bool
  deriving DecidableEq, Repr

/-- What a query returns, and what it writes behind the two pointers. -/
structure Answer where
  retVal : Int
  paramValue : Option Bytes := none
  paramValueSizeRet : Option Nat := none
  deriving DecidableEq, Repr

/-- `param` is given by its bytes. -/
def writeParamToMemory (dest : Destination) (param : Bytes) : Answer :=
  let sizeRet := if dest.paramValueSizeRet then some param.length else none
  if dest.paramValue then
    if dest.paramValueSize < param.length then ⟨clInvalidValue, none, sizeRet⟩
    else ⟨clSuccess, some param, sizeRet⟩
  else ⟨clSuccess, none, sizeRet⟩

/-- The answer from an allocation. A type has the size of a `cl_uint`. -/
def SUSMAllocInfo.answer (allocInfo : SUSMAllocInfo) (paramName : MemInfo) (dest : Destination) :
    Answer :=
  match paramName with
  | .allocType => writeParamToMemory dest ((pointerBytes allocInfo.type.value).take 4)
  | .allocBasePtr => writeParamToMemory dest (pointerBytes allocInfo.baseAddress)
  | .allocSize => writeParamToMemory dest (pointerBytes allocInfo.size)
  | .allocDevice => writeParamToMemory dest (pointerBytes allocInfo.device)
  | .other _ => ⟨clInvalidValue, none, none⟩

/-- The position that the query looks at, in a map that is not empty; `some none` is "This pointer
is not in the map". -/
def queryIterator (m : OrdMap Nat SUSMAllocInfo) (ptr : Nat) : Option (Option Nat) :=
  let iter := m.lowerBound ptr
  let back := if iter = 0 then some none else (m.prev? iter).map some
  if iter = m.fin then back
  else (m.at? iter).bind fun e => if e.1 ≠ ptr then back else some (some iter)

def emulatedGetMemAllocInfoINTEL (context ptr : Nat) (paramName : MemInfo) (dest : Destination)
    (u : Layer) : Option Answer :=
  if ptr = null then some ⟨clInvalidValue, none, none⟩
  else
    let allocMap := (u.contextInfoMap context).allocMap
    if allocMap.entries.isEmpty then some ⟨clInvalidMemObject, none, none⟩
    else (queryIterator allocMap ptr).bind fun
      | none => some ⟨clInvalidMemObject, none, none⟩
      | some iter => (allocMap.at? iter).map fun (_, allocInfo) =>
        if ptr < allocInfo.baseAddress ∨ ptr ≥ allocInfo.baseAddress + allocInfo.size then
          ⟨clInvalidMemObject, none, none⟩
        else allocInfo.answer paramName dest

/-- The map of a context has its allocations under their bases, they are disjoint, and no empty one
lies inside another. -/
structure SUSMContextInfo.Tracks (info : SUSMContextInfo) : Prop where
  based : ∀ e ∈ info.allocMap.entries, e.2.baseAddress = e.1
  disjoint : info.allocMap.Disjoint SUSMAllocInfo.size
  noEmptyInside : info.allocMap.NoEmptyInside SUSMAllocInfo.size

theorem SUSMContextInfo.Tracks.separate {info : SUSMContextInfo} (h : info.Tracks) :
    info.allocMap.Separate SUSMAllocInfo.size :=
  OrdMap.separate_iff.mpr ⟨h.disjoint, h.noEmptyInside⟩

/-- **What the query should do**: answer from the allocation that holds the pointer, and refuse a
pointer that none holds. -/
def Answers (m : OrdMap Nat SUSMAllocInfo) (ptr : Nat) (paramName : MemInfo) (dest : Destination)
    (result : Option Answer) : Prop :=
  (∀ base allocInfo, (base, allocInfo) ∈ m.entries → base ≤ ptr → ptr < base + allocInfo.size →
    result = some (allocInfo.answer paramName dest)) ∧
  ((∀ base allocInfo, (base, allocInfo) ∈ m.entries → ¬(base ≤ ptr ∧ ptr < base + allocInfo.size)) →
    result = some ⟨clInvalidMemObject, none, none⟩)

/-- Where the iterator ends: at the greatest base not above the pointer, or nowhere. -/
theorem queryIterator_spec {m : OrdMap Nat SUSMAllocInfo} (hne : m.entries.isEmpty = false)
    (ptr : Nat) :
    (queryIterator m ptr = some none ∧ m.floor? ptr = none) ∨
      ∃ iter e, queryIterator m ptr = some (some iter) ∧ m.at? iter = some e ∧
        m.floor? ptr = some e := by
  unfold queryIterator
  rcases m.lowerBound_cases ptr with ⟨e, hat, hkey, hfloor⟩ | ⟨h0, habove, hfloor⟩ |
    ⟨h0, hkey, e, hat, hfloor⟩
  · have hfin : m.lowerBound ptr ≠ m.fin := fun h =>
      nomatch (OrdMap.lowerBound_eq_fin_iff.mp h).symm.trans hat
    refine .inr ⟨m.lowerBound ptr, e, ?_, hat, hfloor⟩
    simp [hfin, hat, hkey]
  · have hfin : m.lowerBound ptr ≠ m.fin := fun h => OrdMap.fin_ne_zero hne (h.symm.trans h0)
    refine .inl ⟨?_, hfloor⟩
    cases hat : m.at? (m.lowerBound ptr) with
    | none => exact absurd (OrdMap.lowerBound_eq_fin_iff.mpr hat) hfin
    | some e =>
      dsimp only
      rw [if_neg hfin, hat, Option.bind_some, if_pos (habove e hat).ne', if_pos h0]
  · refine .inr ⟨m.lowerBound ptr - 1, e, ?_, hat, hfloor⟩
    dsimp only
    rw [if_neg h0, OrdMap.prev?_of_ne_zero m h0]
    by_cases hfin : m.lowerBound ptr = m.fin
    · rw [if_pos hfin]
      rfl
    · cases hat' : m.at? (m.lowerBound ptr) with
      | none => exact absurd (OrdMap.lowerBound_eq_fin_iff.mpr hat') hfin
      | some d =>
        rw [if_neg hfin, Option.bind_some, if_pos (hkey d hat')]
        rfl

/-- The query reads the greatest base not above the pointer, and checks how far it reaches. -/
theorem emulatedGetMemAllocInfoINTEL_eq {context ptr : Nat} (hptr : ptr ≠ null)
    (paramName : MemInfo) (dest : Destination) (u : Layer)
    (h : (u.contextInfoMap context).Tracks) :
    emulatedGetMemAllocInfoINTEL context ptr paramName dest u =
      match ((u.contextInfoMap context).allocMap.floor? ptr).filter
          (OrdMap.Covers SUSMAllocInfo.size · ptr) with
      | some e => some (e.2.answer paramName dest)
      | none => some ⟨clInvalidMemObject, none, none⟩ := by
  unfold emulatedGetMemAllocInfoINTEL
  rw [if_neg hptr]
  generalize hm : (u.contextInfoMap context).allocMap = m
  have hbased := h.based
  rw [hm] at hbased
  dsimp only
  by_cases hempty : m.entries.isEmpty
  · have hnone : m.floor? ptr = none :=
      OrdMap.floor?_eq_none_iff.mpr (by simp [List.isEmpty_iff.mp hempty])
    rw [if_pos hempty, hnone]
    rfl
  rw [if_neg hempty]
  rcases queryIterator_spec (by simpa using hempty) ptr with ⟨hiter, hfloor⟩ |
    ⟨iter, e, hiter, hat, hfloor⟩
  · rw [hiter, hfloor]
    rfl
  · have hmem := (OrdMap.floor?_eq_some_iff.mp hfloor).1
    have hbase := hbased e hmem
    rw [hiter, Option.bind_some]
    dsimp only
    rw [hat, hfloor, Option.map_some, Option.filter_some, hbase]
    by_cases hout : ptr < e.1 ∨ ptr ≥ e.1 + e.2.size
    · have hcovers : ¬OrdMap.Covers SUSMAllocInfo.size e ptr := fun h =>
        hout.elim (Nat.not_lt.mpr h.1) (Nat.not_le.mpr h.2)
      rw [if_pos hout, decide_eq_false hcovers, if_neg Bool.false_ne_true]
    · have hcovers : OrdMap.Covers SUSMAllocInfo.size e ptr :=
        ⟨Nat.not_lt.mp fun h => hout (.inl h), Nat.not_le.mp fun h => hout (.inr h)⟩
      rw [if_neg hout, decide_eq_true hcovers, if_pos rfl]

theorem answers_emulatedGetMemAllocInfoINTEL {context ptr : Nat} (hptr : ptr ≠ null)
    (paramName : MemInfo) (dest : Destination) (u : Layer)
    (h : (u.contextInfoMap context).Tracks) :
    Answers (u.contextInfoMap context).allocMap ptr paramName dest
      (emulatedGetMemAllocInfoINTEL context ptr paramName dest u) := by
  rw [emulatedGetMemAllocInfoINTEL_eq hptr paramName dest u h]
  constructor
  · intro base allocInfo hmem hle hlt
    rw [(OrdMap.filter_floor?_eq_some_iff h.separate).mpr ⟨hmem, hle, hlt⟩]
  · intro hnone
    rw [(OrdMap.filter_floor?_eq_none_iff h.separate).mpr fun e he => hnone e.1 e.2 he]

/-- What is known of the layer in every run is enough for the query. -/
theorem Inv.tracks {s : State} (h : Inv s) (context : Handle) :
    (s.usm.contextInfoMap context).Tracks := by
  have hlive : ∀ base allocInfo, (base, allocInfo) ∈ (s.usm.contextInfoMap context).allocMap.entries →
      ⟨context, allocInfo.type, base, allocInfo.size⟩ ∈ s.live ∧ allocInfo.baseAddress = base :=
    fun base allocInfo hmem => h.recorded context base allocInfo (OrdMap.get?_eq_some_iff.mpr hmem)
  suffices hseparate : (s.usm.contextInfoMap context).allocMap.Separate SUSMAllocInfo.size by
    obtain ⟨hdisjoint, hempty⟩ := OrdMap.separate_iff.mp hseparate
    exact ⟨fun e hmem => (hlive e.1 e.2 hmem).2, hdisjoint, hempty⟩
  rintro ⟨base, allocInfo⟩ ha ⟨base', allocInfo'⟩ hb hlt
  have hsymm : Std.Symm fun a b : LiveAlloc =>
      b.base + b.size ≤ a.base ∨ a.base + a.size ≤ b.base := ⟨fun _ _ => Or.symm⟩
  have hapart := h.disjoint.forall (hlive _ _ ha).1 (hlive _ _ hb).1 fun heq => by
    injection heq with _ _ hbase
    exact hlt.ne hbase
  simp only at hapart hlt ⊢
  omega

/-! ## All three -/

section

variable {o : Track.Objects} {u : Layer} {context : Handle}

open CLIntercept.Track

/-- **The three searches agree with a linear one**, with no iterator out of range: for allocations
that are disjoint, and of which no empty one lies inside another, the setters record the base and
the offset of the one that holds the pointer, and the query answers from it. A null pointer is
refused by the query before it searches. -/
theorem searches_linear
    (hsvm : o.svmAllocInfoMap.Disjoint id ∧ o.svmAllocInfoMap.NoEmptyInside id)
    (husm : o.usmAllocInfoMap.Disjoint id ∧ o.usmAllocInfoMap.NoEmptyInside id)
    (hemulated : (u.contextInfoMap context).Tracks) (kernel : Handle) (argIndex ptr : Nat)
    (t : KernelArgs) (paramName : MemInfo) (dest : Destination) :
    Records o.svmAllocInfoMap kernel argIndex ptr t
        (setKernelArgSVMPointer? kernel argIndex ptr o t) ∧
      Records o.usmAllocInfoMap kernel argIndex ptr t
        (setKernelArgUSMPointer? kernel argIndex ptr o t) ∧
      (ptr ≠ null → Answers (u.contextInfoMap context).allocMap ptr paramName dest
        (emulatedGetMemAllocInfoINTEL context ptr paramName dest u)) ∧
      (ptr = null → emulatedGetMemAllocInfoINTEL context ptr paramName dest u =
        some ⟨clInvalidValue, none, none⟩) :=
  ⟨records_setKernelArgPointer? (OrdMap.separate_iff.mpr hsvm) kernel argIndex ptr t,
    records_setKernelArgPointer? (OrdMap.separate_iff.mpr husm) kernel argIndex ptr t,
    fun hptr => answers_emulatedGetMemAllocInfoINTEL hptr paramName dest u hemulated,
    fun hptr => if_pos hptr⟩

/-- Two SVM allocations with a gap. -/
def twoAllocations : Objects :=
  { svmAllocInfoMap := (OrdMap.empty.insert 4096 64).insert 8192 64 }

/-- One emulated host allocation, in every context. -/
def oneAllocation : Layer :=
  { contextInfoMap := fun _ => { allocMap := OrdMap.empty.insert 4096 ⟨.host, 0, 4096, 64, 0⟩ } }

/-- A pointer into the second, and one into the emulated one. -/
theorem searches_linear_inside :
    Records twoAllocations.svmAllocInfoMap 1 0 8200 {}
        (setKernelArgSVMPointer? 1 0 8200 twoAllocations {}) ∧
      Answers (oneAllocation.contextInfoMap 1).allocMap 4100 .allocSize ⟨8, true, false⟩
        (emulatedGetMemAllocInfoINTEL 1 4100 .allocSize ⟨8, true, false⟩ oneAllocation) := by
  have hseparate : (oneAllocation.contextInfoMap 1).allocMap.Separate SUSMAllocInfo.size := by
    decide
  have hemulated := OrdMap.separate_iff.mp hseparate
  have h := @searches_linear twoAllocations oneAllocation 1 (OrdMap.separate_iff.mp (by decide))
    (OrdMap.separate_iff.mp (by decide)) ⟨by decide, hemulated.1, hemulated.2⟩ 1 0
  exact ⟨(h 8200 {} .allocSize ⟨8, true, false⟩).1,
    (h 4100 {} .allocSize ⟨8, true, false⟩).2.2.1 (by decide)⟩

/-- An allocation and an empty one inside it. -/
def emptyInside : Objects :=
  { svmAllocInfoMap := (OrdMap.empty.insert 4096 64).insert 4100 0
    usmAllocInfoMap := (OrdMap.empty.insert 4096 64).insert 4100 0 }

/-- They have no point in common. -/
theorem disjoint_emptyInside : emptyInside.svmAllocInfoMap.Disjoint id := by
  intro a ha b hb hne p hap hbp
  have hentries : emptyInside.svmAllocInfoMap.entries = [(4096, 64), (4100, 0)] := by decide
  rw [hentries] at ha hb
  obtain ⟨hap, hap'⟩ := hap
  obtain ⟨hbp, hbp'⟩ := hbp
  simp only [List.mem_cons, List.not_mem_nil, or_false] at ha hb
  rcases ha with rfl | rfl <;> rcases hb with rfl | rfl <;> simp_all <;> omega

/-- **The null pointer is in no allocation, and is not refused as such a pointer; an empty allocation
hides the one that it lies in.** -/
theorem null_refused_empty_hides :
    ¬Answers .empty null .allocSize ⟨8, true, false⟩
      (emulatedGetMemAllocInfoINTEL 1 null .allocSize ⟨8, true, false⟩ {}) ∧
    (emptyInside.svmAllocInfoMap.Disjoint id ∧
      ¬Records emptyInside.svmAllocInfoMap 1 0 4110 {}
        (setKernelArgSVMPointer? 1 0 4110 emptyInside {})) ∧
    emptyInside.usmAllocInfoMap.Disjoint id ∧
      ¬Records emptyInside.usmAllocInfoMap 1 0 4110 {}
        (setKernelArgUSMPointer? 1 0 4110 emptyInside {}) := by
  have hmisses : ¬Records emptyInside.svmAllocInfoMap 1 0 4110 {}
      (setKernelArgPointer? emptyInside.svmAllocInfoMap 1 0 4110 {}) := by
    intro h
    have hrecorded := h.1 4096 64 (by decide) (by decide)
    rw [setKernelArgPointer?_eq] at hrecorded
    have hmem := congrArg (fun t : KernelArgs => t.kernelArgMemMap 1 0) (Option.some.inj hrecorded)
    exact absurd hmem (by decide)
  refine ⟨fun h => ?_, ⟨disjoint_emptyInside, hmisses⟩, disjoint_emptyInside, hmisses⟩
  have hrefused := h.2 fun _ _ hmem => absurd hmem List.not_mem_nil
  exact absurd hrefused (by decide)

end

end CLIntercept.Usm
