import CLIntercept.Track.Objects
import CLIntercept.Lib.Run

/-!
# Tracked kernel arguments

For each kernel and argument index the layer records what was set: in one map the memory object or
allocation, in one the sampler, in one the bytes, in one the size of local memory. Three setters
write these maps, each to some of them, and none of them takes anything out.

`ArgEntries` is what the four maps say of one index and `ArgEntries.after` what a setter makes of
it, so that every setter is one function on the entries of one index (`entries_apply`) and does
not touch another. `Describes` says what the entries should be after a call. `describes_after_iff`
is the exact condition on the OLD entries under which they are: whatever the setter does not
overwrite has to be right already. `described_iff` carries it to runs of any length.
-/

set_option autoImplicit false

namespace CLIntercept.Track

open CLIntercept.Lib

/-! ## The maps and the setters -/

/-- A cl_mem or the base of an allocation, and how far into it the argument points. -/
structure SMemInfo where
  value : Nat := null
  offset : Nat := 0
  deriving DecidableEq, Repr

/-- The maps of kernel arguments, by kernel and argument index. -/
structure KernelArgs where
  kernelArgMemMap : Handle → Nat → Option SMemInfo := fun _ _ => none
  kernelArgSamplerMap : Handle → Nat → Option String := fun _ _ => none
  kernelArgDataMap : Handle → Nat → Option Bytes := fun _ _ => none
  kernelArgLocalSizeMap : Handle → Nat → Option Nat := fun _ _ => none

/-- `map[kernel][arg_index] = x`. -/
def store {α : Type} (map : Handle → Nat → Option α) (kernel : Handle) (argIndex : Nat) (x : α) :
    Handle → Nat → Option α :=
  Function.update map kernel (Function.update (map kernel) argIndex (some x))

/-- What `clSetKernelArg` is given: bytes, or no value and a size of local memory. -/
inductive ArgValue
  | bytes (argValue : Bytes)
  | null (argSize : Nat)
  deriving DecidableEq, Repr

/-- The memory object in an argument value, if it is a tracked one. -/
def trackedMem (argValue : Bytes) (o : Objects) : Option Nat :=
  if argValue.length = pointerSize then
    if (o.memAllocNumberMap argValue.toNat).isSome then some argValue.toNat else none
  else none

/-- A memory object is written over the value of the entry that `operator[]` found: the offset in
it stays. -/
def setKernelArg (kernel : Handle) (argIndex : Nat) (value : ArgValue) (o : Objects)
    (t : KernelArgs) : KernelArgs :=
  match value with
  | .bytes argValue =>
    let t := match trackedMem argValue o with
      | some mem =>
        let memInfo := (t.kernelArgMemMap kernel argIndex).getD {}
        { t with
          kernelArgMemMap := store t.kernelArgMemMap kernel argIndex { memInfo with value := mem } }
      | none => t
    let t := match checkGetSamplerString (some argValue) o with
      | some samplerString =>
        { t with
          kernelArgSamplerMap := store t.kernelArgSamplerMap kernel argIndex samplerString }
      | none => t
    { t with kernelArgDataMap := store t.kernelArgDataMap kernel argIndex argValue }
  | .null argSize =>
    { t with kernelArgLocalSizeMap := store t.kernelArgLocalSizeMap kernel argIndex argSize }

/-- What the two pointer setters do with the map of their kind. The bytes recorded are those of the
base. -/
def setKernelArgPointer (allocs : OrdMap Nat Nat) (kernel : Handle) (argIndex arg : Nat)
    (t : KernelArgs) : KernelArgs :=
  match findAllocation allocs arg with
  | some (startPtr, _) =>
    { t with
      kernelArgMemMap := store t.kernelArgMemMap kernel argIndex ⟨startPtr, arg - startPtr⟩
      kernelArgDataMap := store t.kernelArgDataMap kernel argIndex (pointerBytes startPtr) }
  | none => t

def setKernelArgSVMPointer (kernel : Handle) (argIndex arg : Nat) (o : Objects) (t : KernelArgs) :
    KernelArgs :=
  setKernelArgPointer o.svmAllocInfoMap kernel argIndex arg t

def setKernelArgUSMPointer (kernel : Handle) (argIndex arg : Nat) (o : Objects) (t : KernelArgs) :
    KernelArgs :=
  setKernelArgPointer o.usmAllocInfoMap kernel argIndex arg t

/-! ## The entries of one index -/

/-- What the four maps have of one index. -/
structure ArgEntries where
  mem : Option SMemInfo := none
  sampler : Option String := none
  data : Option Bytes := none
  localSize : Option Nat := none
  deriving DecidableEq, Repr

def KernelArgs.entries (t : KernelArgs) (kernel : Handle) (argIndex : Nat) : ArgEntries where
  mem := t.kernelArgMemMap kernel argIndex
  sampler := t.kernelArgSamplerMap kernel argIndex
  data := t.kernelArgDataMap kernel argIndex
  localSize := t.kernelArgLocalSizeMap kernel argIndex

/-- A setter and what it is given. -/
inductive SetCall
  | arg (value : ArgValue)
  | svmPointer (arg : Nat)
  | usmPointer (arg : Nat)
  deriving DecidableEq, Repr

/-- A call of a setter. -/
def SetCall.apply (c : SetCall) (kernel : Handle) (argIndex : Nat) (o : Objects) (t : KernelArgs) :
    KernelArgs :=
  match c with
  | .arg value => setKernelArg kernel argIndex value o t
  | .svmPointer ptr => setKernelArgSVMPointer kernel argIndex ptr o t
  | .usmPointer ptr => setKernelArgUSMPointer kernel argIndex ptr o t

/-- What a hit of the search writes, if there is one. -/
def ArgEntries.afterPointer (e : ArgEntries) (arg : Nat) : Option (Nat × Nat) → ArgEntries
  | some (startPtr, _) =>
    { e with mem := some ⟨startPtr, arg - startPtr⟩, data := some (pointerBytes startPtr) }
  | none => e

/-- What a setter makes of the entries of its index. -/
def ArgEntries.after (e : ArgEntries) (o : Objects) : SetCall → ArgEntries
  | .arg (.bytes argValue) =>
    { mem := match trackedMem argValue o with
        | some mem => some { e.mem.getD {} with value := mem }
        | none => e.mem
      sampler := (checkGetSamplerString (some argValue) o).or e.sampler
      data := some argValue
      localSize := e.localSize }
  | .arg (.null argSize) => { e with localSize := some argSize }
  | .svmPointer arg => e.afterPointer arg (findAllocation o.svmAllocInfoMap arg)
  | .usmPointer arg => e.afterPointer arg (findAllocation o.usmAllocInfoMap arg)

theorem store_apply {α : Type} (map : Handle → Nat → Option α) (kernel kernel' : Handle)
    (argIndex argIndex' : Nat) (x : α) :
    store map kernel argIndex x kernel' argIndex' =
      if kernel' = kernel ∧ argIndex' = argIndex then some x else map kernel' argIndex' := by
  by_cases hk : kernel' = kernel <;> by_cases hi : argIndex' = argIndex <;> simp [store, hk, hi]

theorem entries_setKernelArgPointer (allocs : OrdMap Nat Nat) (kernel kernel' : Handle)
    (argIndex argIndex' arg : Nat) (t : KernelArgs) :
    (setKernelArgPointer allocs kernel argIndex arg t).entries kernel' argIndex' =
      if kernel' = kernel ∧ argIndex' = argIndex then
        (t.entries kernel argIndex).afterPointer arg (findAllocation allocs arg)
      else t.entries kernel' argIndex' := by
  unfold setKernelArgPointer
  by_cases h : kernel' = kernel ∧ argIndex' = argIndex
  · obtain ⟨rfl, rfl⟩ := h
    cases findAllocation allocs arg <;>
      simp [KernelArgs.entries, store_apply, ArgEntries.afterPointer]
  · cases findAllocation allocs arg <;> simp [KernelArgs.entries, store_apply, h]

/-- **A setter is a function on the entries of its index**, and leaves every other one alone. -/
theorem entries_apply (c : SetCall) (kernel kernel' : Handle) (argIndex argIndex' : Nat)
    (o : Objects) (t : KernelArgs) :
    (c.apply kernel argIndex o t).entries kernel' argIndex' =
      if kernel' = kernel ∧ argIndex' = argIndex then (t.entries kernel argIndex).after o c
      else t.entries kernel' argIndex' := by
  match c with
  | .svmPointer arg => exact entries_setKernelArgPointer o.svmAllocInfoMap ..
  | .usmPointer arg => exact entries_setKernelArgPointer o.usmAllocInfoMap ..
  | .arg (.null argSize) =>
    by_cases h : kernel' = kernel ∧ argIndex' = argIndex <;>
      simp [SetCall.apply, setKernelArg, KernelArgs.entries, store_apply, ArgEntries.after, h]
  | .arg (.bytes argValue) =>
    by_cases h : kernel' = kernel ∧ argIndex' = argIndex <;>
      cases hmem : trackedMem argValue o <;>
      cases hsampler : checkGetSamplerString (some argValue) o <;>
      simp [SetCall.apply, setKernelArg, KernelArgs.entries, store_apply, ArgEntries.after, h, hmem,
        hsampler]

/-! ## What the entries should say -/

/-- The entry that a pointer should have: its allocation and offset if it points into a tracked
allocation of either kind, and none if it does not. -/
def PointerMem (o : Objects) (arg : Nat) : Option SMemInfo → Prop
  | some info => ∃ alloc, o.Allocated alloc ∧ Holds alloc arg ∧ info = ⟨alloc.1, arg - alloc.1⟩
  | none => ∀ alloc, o.Allocated alloc → ¬ Holds alloc arg

/-- What should be recorded of a pointer: no sampler, and for a non-null one the bytes of its base,
of its own where it has none. -/
def PointerEntries (o : Objects) (arg : Nat) (e : ArgEntries) : Prop :=
  PointerMem o arg e.mem ∧ e.sampler = none ∧
    if arg = null then e.data = none ∧ e.localSize.isSome
    else e.data = some (pointerBytes ((e.mem.map (·.value)).getD arg)) ∧ e.localSize = none

/-- **What should be recorded after a call**, of that call alone: the tracked memory object with
its offset, the tracked sampler, and the bytes or the size of local memory. -/
def Describes (o : Objects) (c : SetCall) (e : ArgEntries) : Prop :=
  match c with
  | .arg (.bytes argValue) =>
    e.mem = (trackedMem argValue o).map (fun mem => ⟨mem, 0⟩) ∧
      e.sampler = checkGetSamplerString (some argValue) o ∧
      e.data = some argValue ∧ e.localSize = none
  | .arg (.null argSize) =>
    e.mem = none ∧ e.sampler = none ∧ e.data = none ∧ e.localSize = some argSize
  | .svmPointer arg | .usmPointer arg => PointerEntries o arg e

/-- What a pointer setter needs of the old entries: after a hit it writes neither the sampler nor
the local size, and without one it writes nothing. -/
def PointerOk (o : Objects) (found : Option (Nat × Nat)) (arg : Nat) (e : ArgEntries) : Prop :=
  match found with
  | some _ => e.sampler = none ∧ e.localSize = none
  | none => PointerEntries o arg e

/-- **The condition on the old entries**: what the setter does not overwrite is right already. -/
def SetterOk (o : Objects) (c : SetCall) (e : ArgEntries) : Prop :=
  match c with
  | .arg (.bytes argValue) =>
    (match trackedMem argValue o with
      | some _ => (e.mem.getD {}).offset = 0
      | none => e.mem = none) ∧
      (checkGetSamplerString (some argValue) o = none → e.sampler = none) ∧ e.localSize = none
  | .arg (.null _) => e.mem = none ∧ e.sampler = none ∧ e.data = none
  | .svmPointer arg => PointerOk o (findAllocation o.svmAllocInfoMap arg) arg e
  | .usmPointer arg => PointerOk o (findAllocation o.usmAllocInfoMap arg) arg e

theorem pointerEntries_after_iff {o : Objects} (ho : o.NonNull) {allocs : OrdMap Nat Nat}
    (hallocs : ∀ alloc ∈ allocs.entries, o.Allocated alloc) (arg : Nat) (e : ArgEntries) :
    PointerEntries o arg (e.afterPointer arg (findAllocation allocs arg)) ↔
      PointerOk o (findAllocation allocs arg) arg e := by
  cases hfound : findAllocation allocs arg with
  | none => exact Iff.rfl
  | some alloc =>
    obtain ⟨hmem, hholds⟩ := findAllocation_sound hfound
    have hnull : arg ≠ null := fun h =>
      ho alloc (hallocs alloc hmem) (Nat.le_zero.mp (Nat.le_trans hholds.1 (Nat.le_of_eq h)))
    have hpointer : PointerMem o arg (some ⟨alloc.1, arg - alloc.1⟩) :=
      ⟨alloc, hallocs alloc hmem, hholds, rfl⟩
    simp [PointerEntries, PointerOk, ArgEntries.afterPointer, hpointer, hnull]

/-- **Exactly when a setter leaves the entries describing its call.** -/
theorem describes_after_iff {o : Objects} (ho : o.NonNull) (c : SetCall) (e : ArgEntries) :
    Describes o c (e.after o c) ↔ SetterOk o c e := by
  match c with
  | .svmPointer arg => exact pointerEntries_after_iff ho (fun _ => .inl) arg e
  | .usmPointer arg => exact pointerEntries_after_iff ho (fun _ => .inr) arg e
  | .arg (.null argSize) => simp [Describes, ArgEntries.after, SetterOk]
  | .arg (.bytes argValue) =>
    simp only [Describes, ArgEntries.after, SetterOk]
    cases trackedMem argValue o <;> cases checkGetSamplerString (some argValue) o <;> simp

/-! ## Runs -/

/-- The layer, and the last setter call for each index with the objects as they were tracked when
it was made. -/
structure State where
  objects : Objects := {}
  args : KernelArgs := {}
  last : Handle → Nat → Option (Objects × SetCall) := fun _ _ => none

/-- A setter call, or any change of the tracked objects. -/
inductive Action
  | set (kernel : Handle) (argIndex : Nat) (c : SetCall)
  | object (c : ObjectCall)

def step (s : State) : Action → State
  | .set kernel argIndex c =>
    { s with
      args := c.apply kernel argIndex s.objects s.args
      last := store s.last kernel argIndex (s.objects, c) }
  | .object c => { s with objects := c.apply s.objects }

/-- The layer under any calls. -/
def system : System State Action := ⟨step, fun _ _ => True⟩

/-- **The property**: of every kernel and index, the tracked state describes the last call, and
there is none before the first. -/
def Described (s : State) : Prop :=
  ∀ kernel argIndex, match s.last kernel argIndex with
    | some (objects, c) => Describes objects c (s.args.entries kernel argIndex)
    | none => s.args.entries kernel argIndex = {}

/-- The condition on a call. -/
def StepOk (s : State) : Action → Prop
  | .set kernel argIndex c => SetterOk s.objects c (s.args.entries kernel argIndex)
  | .object _ => True

theorem described_step_iff {s : State} (ho : s.objects.NonNull) (h : Described s) (a : Action) :
    Described (step s a) ↔ StepOk s a := by
  cases a with
  | object c => exact iff_of_true h trivial
  | set kernel argIndex c =>
    rw [StepOk, ← describes_after_iff ho]
    constructor
    · intro h'
      simpa [step, store_apply, entries_apply] using h' kernel argIndex
    · intro hdesc kernel' argIndex'
      simp only [step, store_apply, entries_apply]
      by_cases heq : kernel' = kernel ∧ argIndex' = argIndex
      · simpa [heq] using hdesc
      · simpa [heq] using h kernel' argIndex'

/-- **Exactly when kernel argument tracking holds up.** In any run of setter calls on any kernels,
among any changes of the tracked objects, the tracked state always describes the last call of each
index exactly when no setter call meets entries that it should have replaced and does not. -/
theorem described_iff (as : List Action) :
    system.Always Described {} as ↔ system.Each StepOk {} as := by
  refine System.always_iff_each (I := fun s => s.objects.NonNull) (fun s a hi _ => ?_)
    (fun s a hi hp _ => described_step_iff hi hp a) (fun alloc h => ?_) (fun _ _ => rfl)
    (System.each_of_forall (fun _ _ => trivial) _ _)
  · cases a with
    | object c => exact hi.apply c
    | set kernel argIndex c => exact hi
  · exact h.elim (absurd · List.not_mem_nil) (absurd · List.not_mem_nil)

/-- An index bound to a tracked buffer and then to local memory: the buffer and its bytes stay. -/
theorem buffer_stays_after_rebinding :
    ¬ Described (system.exec {} [.object (.addBuffer 64 (some 16)),
      .set 7 0 (.arg (.bytes (pointerBytes 64))), .set 7 0 (.arg (.null 128))]) := by
  intro h
  obtain ⟨hmem, -⟩ := h 7 0
  exact absurd hmem (by decide)

end CLIntercept.Track
