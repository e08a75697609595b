import CLIntercept.Track.KernelArgs
import CLIntercept.Track.Programs
import CLIntercept.Usm.Context

/-!
# Kernel objects

What is tracked of a kernel is stored under its handle in six maps: the four of its arguments, its
USM exec info and its kernel info. The last release erases the kernel info and a clone gets a copy
of that one. The other five are left as they are, by releases, by creations and by clones, and the
setters write before the driver has said whether it takes the argument.

`State` has the maps beside the driver's kernels: their references, what each argument index is
bound to, and the exec info they were given. `Describes` says that of live kernels the maps tell
nothing else. `describes_iff` says of every run exactly which calls keep it so: for a new kernel,
what is left under its handle; for a clone, what is there and what is under its source; for an
argument that the driver takes, the old entries that the setter does not overwrite; for one that it
rejects, what the setter has overwritten.
-/

set_option autoImplicit false

namespace CLIntercept.Track.Kernels

open CLIntercept.Lib CLIntercept.Usm

/-! ## The entry points -/

/-- The entry points that set an argument. -/
inductive ArgCall
  | clSetKernelArg (value : ArgValue)
  | clSetKernelArgSVMPointer (arg : Nat)
  | clSetKernelArgMemPointerINTEL (arg : Nat)
  | clSetKernelArgDevicePointerEXT (arg : Nat)
  deriving DecidableEq, Repr

/-- The setter that an entry point calls, if any. Device pointers are not tracked. -/
def ArgCall.setter (config : Config) : ArgCall → Option SetCall
  | .clSetKernelArg value => if config.setsKernelArg then some (.arg value) else none
  | .clSetKernelArgSVMPointer arg =>
    if config.setsKernelArgPointer then some (.svmPointer arg) else none
  | .clSetKernelArgMemPointerINTEL arg =>
    if config.setsKernelArgPointer then some (.usmPointer arg) else none
  | .clSetKernelArgDevicePointerEXT _ => none

/-- What an entry point does before it calls the driver. -/
def ArgCall.apply (config : Config) (c : ArgCall) (kernel : Handle) (argIndex : Nat) (o : Objects)
    (t : KernelArgs) : KernelArgs :=
  match c.setter config with
  | some setter => setter.apply kernel argIndex o t
  | none => t

/-- What an entry point makes of the entries of its index. -/
def ArgCall.after (config : Config) (c : ArgCall) (o : Objects) (e : ArgEntries) : ArgEntries :=
  match c.setter config with
  | some setter => e.after o setter
  | none => e

/-- A setter reaches the entries of its own index. -/
theorem ArgCall.entries_apply (config : Config) (c : ArgCall) (kernel kernel' : Handle)
    (argIndex argIndex' : Nat) (o : Objects) (t : KernelArgs) :
    (c.apply config kernel argIndex o t).entries kernel' argIndex' =
      if kernel' = kernel ∧ argIndex' = argIndex then c.after config o (t.entries kernel argIndex)
      else t.entries kernel' argIndex' := by
  unfold ArgCall.apply ArgCall.after
  cases c.setter config with
  | some setter => exact Track.entries_apply setter ..
  | none =>
    by_cases h : kernel' = kernel ∧ argIndex' = argIndex
    · simp [h]
    · simp [h]

/-- `Emulate_cl_intel_unified_shared_memory` has the exec info tracked, whatever the driver answers
when it is asked then. -/
def clSetKernelExecInfo (config : Config) (kernel : Handle) (paramName : KernelExecInfo)
    (paramValue : Bytes) (u : Layer) : Layer :=
  if config.emulateUnifiedSharedMemory then
    (trackUSMKernelExecInfo kernel paramName paramValue u).1
  else u

/-! ## What the driver holds -/

/-- What an argument index is bound to. The sampler is the string of the one that the bytes are the
handle of, as it was when they were bound. -/
inductive Binding
  | value (argValue : Bytes) (sampler : Option String)
  | localMemory (argSize : Nat)
  | address (arg : Nat)
  deriving DecidableEq, Repr

/-- What an entry point binds its index to. -/
def ArgCall.binding (o : Objects) : ArgCall → Binding
  | .clSetKernelArg (.bytes argValue) => .value argValue (checkGetSamplerString (some argValue) o)
  | .clSetKernelArg (.null argSize) => .localMemory argSize
  | .clSetKernelArgSVMPointer arg | .clSetKernelArgMemPointerINTEL arg
  | .clSetKernelArgDevicePointerEXT arg => .address arg

/-- The base of the allocation that an address is in, as it is recorded; the address itself where
nothing is. -/
def ArgEntries.base (e : ArgEntries) (arg : Nat) : Nat := (e.mem.map (·.value)).getD arg

/-- **No entry contradicts a binding.** An entry that is missing contradicts nothing. -/
def Agrees (e : ArgEntries) : Binding → Prop
  | .value argValue sampler =>
    (∀ info, e.mem = some info → argValue.length = pointerSize ∧ info = ⟨argValue.toNat, 0⟩) ∧
      (∀ s, e.sampler = some s → sampler = some s) ∧
      (∀ data, e.data = some data → data = argValue) ∧ e.localSize = none
  | .localMemory argSize =>
    e.mem = none ∧ e.sampler = none ∧ e.data = none ∧
      ∀ size, e.localSize = some size → size = argSize
  | .address arg =>
    (∀ info, e.mem = some info → info.value + info.offset = arg) ∧ e.sampler = none ∧
      (∀ data, e.data = some data → data = pointerBytes (ArgEntries.base e arg)) ∧
      e.localSize = none

/-- The same of an index that may not be bound: any entry contradicts that. -/
def AgreesHeld (e : ArgEntries) : Option Binding → Prop
  | some binding => Agrees e binding
  | none => e = {}

/-- The maps, the references of each kernel, what the driver holds for its arguments, and the exec
info that it was given since it is there. -/
structure State where
  objects : Objects := {}
  args : KernelArgs := {}
  usm : Layer := {}
  programs : Programs := {}
  refCounts : Handle → Nat := fun _ => 0
  held : Handle → Nat → Option Binding := fun _ _ => none
  execInfo : Layer := {}

def State.Live (s : State) (kernel : Handle) : Prop := s.refCounts kernel ≠ 0

/-- **The property**: what is recorded of a live kernel is of that kernel. -/
def Describes (s : State) : Prop :=
  ∀ kernel, s.Live kernel →
    (∀ argIndex, AgreesHeld (s.args.entries kernel argIndex) (s.held kernel argIndex)) ∧
      s.usm.kernelInfoMap kernel = s.execInfo.kernelInfoMap kernel

/-- Two handles have the same recorded. -/
def SameRecord (s : State) (kernel kernel' : Handle) : Prop :=
  (∀ argIndex, s.args.entries kernel argIndex = s.args.entries kernel' argIndex) ∧
    s.usm.kernelInfoMap kernel = s.usm.kernelInfoMap kernel'

/-- A handle has nothing recorded. -/
def NoRecord (s : State) (kernel : Handle) : Prop :=
  (∀ argIndex, s.args.entries kernel argIndex = {}) ∧ s.usm.kernelInfoMap kernel = {}

/-! ## The system -/

/-- The calls, with what the driver answers. A null handle is what a failed creation answers. -/
inductive Action
  | object (c : ObjectCall)
  | createKernel (kernel program : Handle) (kernelName : String)
  | createKernelsInProgram (kernels : List (Handle × Option String)) (program : Handle)
  | cloneKernel (kernel sourceKernel : Handle)
  | retainKernel (kernel : Handle) (success : Bool)
  | releaseKernel (kernel : Handle) (refCount : Nat) (success : Bool)
  | setKernelArg (kernel : Handle) (argIndex : Nat) (c : ArgCall) (success : Bool)
  | setKernelExecInfo (kernel : Handle) (paramName : KernelExecInfo) (paramValue : Bytes)

/-- The driver makes kernels, or hands out ones that are there: override kernels are retained. -/
def State.created (s : State) (made : List Handle) : State :=
  { s with
    refCounts := fun kernel => s.refCounts kernel + made.count kernel
    held := fun kernel => if kernel ∈ made ∧ s.refCounts kernel = 0 then fun _ => none
      else s.held kernel
    execInfo := { s.execInfo with
      kernelInfoMap := fun kernel => if kernel ∈ made ∧ s.refCounts kernel = 0 then {}
        else s.execInfo.kernelInfoMap kernel } }

/-- The driver makes a clone: it holds what its source does. -/
def State.cloned (s : State) (kernel sourceKernel : Handle) : State :=
  { s with
    refCounts := Function.update s.refCounts kernel 1
    held := Function.update s.held kernel (s.held sourceKernel)
    execInfo := s.execInfo.setKernel kernel (s.execInfo.kernelInfoMap sourceKernel) }

section

variable (config : Config) (demangle : String → String)

/-- One call. -/
def step (s : State) : Action → State
  | .object c => { s with objects := c.apply s.objects }
  | .createKernel kernel program kernelName =>
    if kernel = null then s
    else { s.created [kernel] with
      programs := addKernelInfo demangle config kernel program kernelName s.programs }
  | .createKernelsInProgram kernels program =>
    { s.created (kernels.map (·.1)) with
      programs := addKernelInfos demangle config program kernels s.programs }
  | .cloneKernel kernel sourceKernel =>
    if kernel = null then s
    else { s.cloned kernel sourceKernel with
      programs := addKernelInfoClone kernel sourceKernel s.programs }
  | .retainKernel kernel success =>
    if success then
      { s with refCounts := Function.update s.refCounts kernel (s.refCounts kernel + 1) }
    else s
  | .releaseKernel kernel refCount success =>
    let s := { s with programs := checkRemoveKernelInfo kernel refCount s.programs }
    if success then
      { s with refCounts := Function.update s.refCounts kernel (s.refCounts kernel - 1) }
    else s
  | .setKernelArg kernel argIndex c success =>
    let s' := { s with args := c.apply config kernel argIndex s.objects s.args }
    if success then { s' with held := store s.held kernel argIndex (c.binding s.objects) } else s'
  | .setKernelExecInfo kernel paramName paramValue =>
    { s with
      usm := clSetKernelExecInfo config kernel paramName paramValue s.usm
      execInfo := clSetKernelExecInfo config kernel paramName paramValue s.execInfo }

/-- The driver clones, retains, releases and sets arguments of live kernels, and a clone is new. -/
def legal (s : State) : Action → Prop
  | .cloneKernel kernel sourceKernel => kernel ≠ null → s.Live sourceKernel ∧ ¬ s.Live kernel
  | .retainKernel kernel success | .releaseKernel kernel _ success
  | .setKernelArg kernel _ _ success => success → s.Live kernel
  | _ => True

def system : System State Action where
  step := step config demangle
  legal := legal

end

/-! ## Conditions on the entries -/

/-- **The condition on the old entries where the driver takes the argument**: what the setter does
not overwrite agrees with the new binding. A setter that finds no allocation overwrites nothing. -/
def AcceptedOk (config : Config) (c : ArgCall) (o : Objects) (e : ArgEntries) : Prop :=
  match c.setter config with
  | some (.arg (.bytes argValue)) =>
    (match trackedMem argValue o with
      | some _ => (e.mem.getD {}).offset = 0
      | none => ∀ info, e.mem = some info →
          argValue.length = pointerSize ∧ info = ⟨argValue.toNat, 0⟩) ∧
      (checkGetSamplerString (some argValue) o = none → e.sampler = none) ∧ e.localSize = none
  | some (.arg (.null _)) => e.mem = none ∧ e.sampler = none ∧ e.data = none
  | some (.svmPointer arg) =>
    if (findAllocation o.svmAllocInfoMap arg).isSome then e.sampler = none ∧ e.localSize = none
    else Agrees e (.address arg)
  | some (.usmPointer arg) =>
    if (findAllocation o.usmAllocInfoMap arg).isSome then e.sampler = none ∧ e.localSize = none
    else Agrees e (.address arg)
  | none => Agrees e (c.binding o)

/-- What the bytes of a rejected argument and the tracked objects have to be, for what the setter
writes of them to agree with what is bound. -/
def RejectedBytesOk (argValue : Bytes) (o : Objects) (e : ArgEntries) : Option Binding → Prop
  | some (.value bound sampler) =>
    argValue = bound ∧
      ∀ s, checkGetSamplerString (some argValue) o = some s → sampler = some s
  | some (.address arg) =>
    checkGetSamplerString (some argValue) o = none ∧
      match trackedMem argValue o with
      | some mem => mem + (e.mem.getD {}).offset = arg
      | none => argValue = pointerBytes (ArgEntries.base e arg)
  | _ => False

/-- The same of a rejected pointer. Where no allocation is found, nothing is written. -/
def RejectedPointerOk (arg : Nat) (found : Option (Nat × Nat)) (held : Option Binding) : Prop :=
  match found, held with
  | some (startPtr, _), some (.value bound _) =>
    startPtr = arg ∧ bound.length = pointerSize ∧ bound.toNat = arg
  | some _, some (.address bound) => arg = bound
  | some _, _ => False
  | none, _ => True

/-- **The condition where the driver rejects the argument**: what the setter has written is what is
bound. -/
def RejectedOk (config : Config) (c : ArgCall) (o : Objects) (e : ArgEntries)
    (held : Option Binding) : Prop :=
  match c.setter config with
  | some (.arg (.bytes argValue)) => RejectedBytesOk argValue o e held
  | some (.arg (.null argSize)) => held = some (.localMemory argSize)
  | some (.svmPointer arg) => RejectedPointerOk arg (findAllocation o.svmAllocInfoMap arg) held
  | some (.usmPointer arg) => RejectedPointerOk arg (findAllocation o.usmAllocInfoMap arg) held
  | none => True

/-! ## One setter -/

/-- A handle spelled in bytes and back. -/
theorem map_range_toNat (bytes : Bytes) :
    ((List.range bytes.length).map fun i => UInt8.ofNat (bytes.toNat / 256 ^ i)) = bytes := by
  induction bytes with
  | nil => rfl
  | cons b bs ih =>
    have hb := b.toNat_lt
    have hfirst : UInt8.ofNat (b.toNat + 256 * Bytes.toNat bs) = b := by
      rw [← UInt8.toNat_inj]
      simp only [UInt8.toNat_ofNat']
      omega
    have hdiv : ∀ i, (b.toNat + 256 * Bytes.toNat bs) / 256 ^ (i + 1) =
        Bytes.toNat bs / 256 ^ i := fun i => by
      rw [Nat.pow_succ', ← Nat.div_div_eq_div_mul]
      congr 1
      omega
    simp only [List.length_cons, List.range_succ_eq_map, List.map_cons, List.map_map, Bytes.toNat,
      Nat.pow_zero, Nat.div_one, hfirst, Function.comp_def, Nat.succ_eq_add_one, hdiv, ih]

/-- The bytes of an address read back. -/
theorem pointerBytes_toNat {bytes : Bytes} (h : bytes.length = pointerSize) :
    pointerBytes bytes.toNat = bytes := by
  rw [pointerBytes, ← h]
  exact map_range_toNat bytes

/-- A value is taken for a handle if it has the size of a pointer. -/
theorem trackedMem_eq_some {argValue : Bytes} {o : Objects} {mem : Nat}
    (h : trackedMem argValue o = some mem) :
    argValue.length = pointerSize ∧ mem = argValue.toNat := by
  unfold trackedMem at h
  split at h
  · next hlen =>
    split at h
    · exact ⟨hlen, (Option.some.inj h).symm⟩
    · exact nomatch h
  · exact nomatch h

/-- After a hit the memory and data entries agree with the address. -/
theorem agrees_afterPointer_some {e : ArgEntries} {arg : Nat} {alloc : Nat × Nat}
    (h : Holds alloc arg) :
    Agrees (e.afterPointer arg (some alloc)) (.address arg) ↔ e.sampler = none ∧ e.localSize = none := by
  have hoffset := Nat.add_sub_cancel' h.1
  simp [Agrees, ArgEntries.afterPointer, ArgEntries.base, hoffset]

/-- When the entries agree with a pointer that was set. -/
theorem agrees_afterPointer_iff (allocs : OrdMap Nat Nat) (e : ArgEntries) (arg : Nat) :
    Agrees (e.afterPointer arg (findAllocation allocs arg)) (.address arg) ↔
      if (findAllocation allocs arg).isSome then e.sampler = none ∧ e.localSize = none
      else Agrees e (.address arg) := by
  cases hfound : findAllocation allocs arg with
  | none => exact Iff.rfl
  | some alloc => exact agrees_afterPointer_some (findAllocation_sound hfound).2

/-- When the entries agree with a value that was set. -/
theorem agrees_afterBytes_iff (argValue : Bytes) (o : Objects) (e : ArgEntries) :
    Agrees (e.after o (.arg (.bytes argValue)))
        (.value argValue (checkGetSamplerString (some argValue) o)) ↔
      (match trackedMem argValue o with
        | some _ => (e.mem.getD {}).offset = 0
        | none => ∀ info, e.mem = some info →
            argValue.length = pointerSize ∧ info = ⟨argValue.toNat, 0⟩) ∧
        (checkGetSamplerString (some argValue) o = none → e.sampler = none) ∧
          e.localSize = none := by
  have hsampler : (∀ s, (checkGetSamplerString (some argValue) o).or e.sampler = some s →
      checkGetSamplerString (some argValue) o = some s) ↔
      (checkGetSamplerString (some argValue) o = none → e.sampler = none) := by
    cases checkGetSamplerString (some argValue) o <;> cases e.sampler <;> simp
  simp only [Agrees, ArgEntries.after, hsampler]
  cases hmem : trackedMem argValue o with
  | none => simp
  | some mem =>
    obtain ⟨hlen, rfl⟩ := trackedMem_eq_some hmem
    simp [hlen]

/-- **An argument that the driver takes.** -/
theorem agrees_after_iff (config : Config) (c : ArgCall) (o : Objects) (e : ArgEntries) :
    Agrees (c.after config o e) (c.binding o) ↔ AcceptedOk config c o e := by
  unfold ArgCall.after AcceptedOk
  match c with
  | .clSetKernelArgDevicePointerEXT arg => exact Iff.rfl
  | .clSetKernelArgSVMPointer arg =>
    cases hset : config.setsKernelArgPointer
    · simp [ArgCall.setter, hset]
    · simpa [ArgCall.setter, hset, ArgCall.binding, ArgEntries.after] using
        agrees_afterPointer_iff o.svmAllocInfoMap e arg
  | .clSetKernelArgMemPointerINTEL arg =>
    cases hset : config.setsKernelArgPointer
    · simp [ArgCall.setter, hset]
    · simpa [ArgCall.setter, hset, ArgCall.binding, ArgEntries.after] using
        agrees_afterPointer_iff o.usmAllocInfoMap e arg
  | .clSetKernelArg (.null argSize) =>
    cases hset : config.setsKernelArg <;>
      simp [ArgCall.setter, hset, ArgCall.binding, ArgEntries.after, Agrees]
  | .clSetKernelArg (.bytes argValue) =>
    cases hset : config.setsKernelArg
    · simp [ArgCall.setter, hset]
    · simp only [ArgCall.setter, hset, if_true]
      exact agrees_afterBytes_iff argValue o e

/-- When they still agree with the old binding after a pointer that was rejected. -/
theorem agreesHeld_afterPointer_iff {allocs : OrdMap Nat Nat} {e : ArgEntries} {arg : Nat}
    {held : Option Binding} (h : AgreesHeld e held) :
    AgreesHeld (e.afterPointer arg (findAllocation allocs arg)) held ↔
      RejectedPointerOk arg (findAllocation allocs arg) held := by
  cases hfound : findAllocation allocs arg with
  | none => exact iff_of_true h (by simp [RejectedPointerOk])
  | some alloc =>
    have hle := (findAllocation_sound hfound).2.1
    match held with
    | none => simp [AgreesHeld, ArgEntries.afterPointer, RejectedPointerOk]
    | some (.localMemory argSize) =>
      simp [AgreesHeld, Agrees, ArgEntries.afterPointer, RejectedPointerOk]
    | some (.address bound) =>
      have hoffset := Nat.add_sub_cancel' hle
      simp [AgreesHeld, Agrees, ArgEntries.afterPointer, RejectedPointerOk, ArgEntries.base, hoffset,
        h.2.1, h.2.2.2]
    | some (.value bound sampler) =>
      obtain ⟨-, hsampler, -, hlocal⟩ := h
      simp only [AgreesHeld, Agrees, ArgEntries.afterPointer, RejectedPointerOk, Option.some.injEq,
        forall_eq', SMemInfo.mk.injEq, hlocal, and_true]
      constructor
      · rintro ⟨⟨hlen, hbase, hoffset⟩, -, -⟩
        have : alloc.1 = arg := by omega
        exact ⟨this, hlen, by omega⟩
      · rintro ⟨hbase, hlen, hnat⟩
        refine ⟨⟨hlen, by omega, by omega⟩, hsampler, ?_⟩
        rw [hbase, ← hnat]
        exact pointerBytes_toNat hlen

/-- When they still agree with the old binding after a value that was rejected. -/
theorem agreesHeld_afterBytes_iff {argValue : Bytes} {o : Objects} {e : ArgEntries}
    {held : Option Binding} (h : AgreesHeld e held) :
    AgreesHeld (e.after o (.arg (.bytes argValue))) held ↔ RejectedBytesOk argValue o e held := by
  match held with
  | none => simp [AgreesHeld, ArgEntries.after, RejectedBytesOk]
  | some (.localMemory argSize) => simp [AgreesHeld, Agrees, ArgEntries.after, RejectedBytesOk]
  | some (.value bound sampler) =>
    obtain ⟨hmem, hsampler, -, hlocal⟩ := h
    simp only [AgreesHeld, Agrees, ArgEntries.after, RejectedBytesOk, Option.some.injEq, forall_eq',
      hlocal, and_true]
    constructor
    · rintro ⟨-, hs, rfl⟩
      exact ⟨rfl, fun s hget => hs s (by rw [hget, Option.some_or])⟩
    · rintro ⟨rfl, hs⟩
      refine ⟨fun info hinfo => ?_, fun s hget => ?_, rfl⟩
      · cases htracked : trackedMem argValue o with
        | none =>
          rw [htracked] at hinfo
          exact hmem info hinfo
        | some mem =>
          rw [htracked] at hinfo
          obtain ⟨hlen, rfl⟩ := trackedMem_eq_some htracked
          cases hold : e.mem with
          | none => exact ⟨hlen, by simpa [hold] using hinfo.symm⟩
          | some old => exact ⟨hlen, by simpa [hold, (hmem old hold).2] using hinfo.symm⟩
      · cases hnow : checkGetSamplerString (some argValue) o with
        | none =>
          rw [hnow] at hget
          exact hsampler s hget
        | some now =>
          rw [hnow] at hget
          exact hs s (hnow.trans hget)
  | some (.address arg) =>
    obtain ⟨hmem, hsampler, -, hlocal⟩ := h
    simp only [AgreesHeld, Agrees, ArgEntries.after, RejectedBytesOk, ArgEntries.base, hsampler,
      Option.or_none, hlocal, Option.some.injEq, forall_eq', and_true]
    cases htracked : trackedMem argValue o with
    | none =>
      exact ⟨fun h => ⟨h.2.1, h.2.2⟩, fun h => ⟨hmem, h.1, h.2⟩⟩
    | some mem =>
      obtain ⟨hlen, rfl⟩ := trackedMem_eq_some htracked
      simp [pointerBytes_toNat hlen, and_comm]

/-- **An argument that the driver rejects.** -/
theorem agreesHeld_after_iff (config : Config) (c : ArgCall) (o : Objects) {e : ArgEntries}
    {held : Option Binding} (h : AgreesHeld e held) :
    AgreesHeld (c.after config o e) held ↔ RejectedOk config c o e held := by
  unfold ArgCall.after RejectedOk
  cases hset : c.setter config with
  | none => exact iff_of_true h trivial
  | some setter =>
    match setter with
    | .svmPointer arg => exact agreesHeld_afterPointer_iff h
    | .usmPointer arg => exact agreesHeld_afterPointer_iff h
    | .arg (.bytes argValue) => exact agreesHeld_afterBytes_iff h
    | .arg (.null argSize) =>
      match held with
      | none => simp [AgreesHeld, ArgEntries.after]
      | some (.value bound sampler) => simp [AgreesHeld, Agrees, ArgEntries.after]
      | some (.address arg) => simp [AgreesHeld, Agrees, ArgEntries.after]
      | some (.localMemory bound) =>
        obtain ⟨hmem, hsampler, hdata, -⟩ := h
        simp [AgreesHeld, Agrees, ArgEntries.after, hmem, hsampler, hdata, eq_comm]

/-! ## One step -/

/-- **The condition on a call.** Nothing is left under the handle of a new kernel, and under that of
a clone nothing but what its source has. An argument call on a live kernel meets the condition for
its outcome. On other handles anything may be set, and be left there. -/
def CallOk (config : Config) (s : State) : Action → Prop
  | .createKernel kernel _ _ => kernel ≠ null → ¬ s.Live kernel → NoRecord s kernel
  | .createKernelsInProgram kernels _ =>
    ∀ kernel ∈ kernels.map (·.1), ¬ s.Live kernel → NoRecord s kernel
  | .cloneKernel kernel sourceKernel => kernel ≠ null → SameRecord s kernel sourceKernel
  | .setKernelArg kernel argIndex c success =>
    s.Live kernel →
      let e := s.args.entries kernel argIndex
      if success then AcceptedOk config c s.objects e
      else RejectedOk config c s.objects e (s.held kernel argIndex)
  | .object _ | .retainKernel _ _ | .releaseKernel _ _ _ | .setKernelExecInfo _ _ _ => True

/-- A clone starts with the entries of its source. -/
def CloneStartsAsSource (config : Config) (demangle : String → String) (s : State) (a : Action) :
    Prop :=
  match a with
  | .cloneKernel kernel sourceKernel =>
    kernel ≠ null → SameRecord (step config demangle s a) kernel sourceKernel
  | _ => True

/-- **New kernels** are described exactly when nothing is left of old ones. -/
theorem describes_created_iff {s : State} (h : Describes s) (made : List Handle)
    (programs : Programs) :
    Describes { s.created made with programs := programs } ↔
      ∀ kernel ∈ made, ¬ s.Live kernel → NoRecord s kernel := by
  constructor
  · intro h' kernel hmade hdead
    have hzero : s.refCounts kernel = 0 := not_not.mp hdead
    obtain ⟨hargs, hinfo⟩ := h' kernel (by
      show s.refCounts kernel + made.count kernel ≠ 0
      have := List.count_pos_iff.mpr hmade
      omega)
    refine ⟨fun argIndex => ?_, ?_⟩
    · simpa [State.created, hmade, hzero, AgreesHeld] using hargs argIndex
    · simpa [State.created, hmade, hzero] using hinfo
  · intro hok kernel hlive
    by_cases hnew : kernel ∈ made ∧ s.refCounts kernel = 0
    · obtain ⟨hargs, hinfo⟩ := hok kernel hnew.1 (not_not.mpr hnew.2)
      simpa [State.created, hnew, AgreesHeld] using And.intro hargs hinfo
    · have hold : s.Live kernel := by
        intro hzero
        have hcount : s.refCounts kernel + made.count kernel ≠ 0 := hlive
        rw [hzero, Nat.zero_add] at hcount
        exact hnew ⟨List.count_pos_iff.mp (Nat.pos_of_ne_zero hcount), hzero⟩
      simpa [State.created, hnew] using h kernel hold

/-- **A clone** of a live kernel starts as its source and is described exactly when the same is left
under its handle. -/
theorem describes_cloned_iff {s : State} (h : Describes s) {kernel sourceKernel : Handle}
    (hsource : s.Live sourceKernel) (hnew : ¬ s.Live kernel) (programs : Programs) :
    Describes { s.cloned kernel sourceKernel with programs := programs } ∧
        SameRecord { s.cloned kernel sourceKernel with programs := programs } kernel sourceKernel ↔
      SameRecord s kernel sourceKernel := by
  refine ⟨fun h' => h'.2, fun hsame => ⟨fun k hlive => ?_, hsame⟩⟩
  by_cases hk : k = kernel
  · subst hk
    obtain ⟨hargs, hinfo⟩ := h sourceKernel hsource
    refine ⟨fun argIndex => ?_, ?_⟩
    · simpa [State.cloned, hsame.1 argIndex] using hargs argIndex
    · simpa [State.cloned, Layer.setKernel, hsame.2] using hinfo
  · have hold : s.Live k := by simpa [State.Live, State.cloned, hk] using hlive
    simpa [State.cloned, Layer.setKernel, hk] using h k hold

/-- What is tracked of a kernel's exec info is a function of what was tracked of it. -/
theorem kernelInfoMap_clSetKernelExecInfo (config : Config) (kernel kernel' : Handle)
    (paramName : KernelExecInfo) (paramValue : Bytes) {u u' : Layer}
    (h : u.kernelInfoMap kernel' = u'.kernelInfoMap kernel') :
    (clSetKernelExecInfo config kernel paramName paramValue u).kernelInfoMap kernel' =
      (clSetKernelExecInfo config kernel paramName paramValue u').kernelInfoMap kernel' := by
  unfold clSetKernelExecInfo
  split
  · by_cases hk : kernel' = kernel
    · subst hk
      unfold trackUSMKernelExecInfo
      cases paramName <;> dsimp only <;> (try split) <;> simp [Layer.setKernel, h]
    · unfold trackUSMKernelExecInfo
      cases paramName <;> dsimp only <;> (try split) <;> simp [Layer.setKernel, hk, h]
  · exact h

/-- **Setting an argument** of a live kernel. -/
theorem describes_setKernelArg_iff {config : Config} {demangle : String → String} {s : State}
    (h : Describes s) (kernel : Handle) (argIndex : Nat) (c : ArgCall) (success : Bool) :
    Describes (step config demangle s (.setKernelArg kernel argIndex c success)) ↔
      CallOk config s (.setKernelArg kernel argIndex c success) := by
  -- The entries and the binding of an index after the call.
  have hentries : ∀ k i, (step config demangle s (.setKernelArg kernel argIndex c success)).args.entries
      k i = if k = kernel ∧ i = argIndex then c.after config s.objects (s.args.entries kernel argIndex)
        else s.args.entries k i := by
    intro k i
    cases success <;> exact ArgCall.entries_apply config c kernel k argIndex i s.objects s.args
  have hheld : ∀ k i, (step config demangle s (.setKernelArg kernel argIndex c success)).held k i =
      if k = kernel ∧ i = argIndex ∧ success = true then some (c.binding s.objects)
        else s.held k i := by
    intro k i
    cases success
    · simp [step]
    · simp [step, store_apply]
  have hlive : ∀ k, (step config demangle s (.setKernelArg kernel argIndex c success)).Live k ↔
      s.Live k := by
    intro k
    cases success <;> exact Iff.rfl
  have husm : ∀ k, s.Live k →
      (step config demangle s (.setKernelArg kernel argIndex c success)).usm.kernelInfoMap k =
        (step config demangle s (.setKernelArg kernel argIndex c success)).execInfo.kernelInfoMap k := by
    intro k hk
    cases success <;> exact (h k hk).2
  constructor
  · intro h' hk
    have hafter := (h' kernel ((hlive kernel).mpr hk)).1 argIndex
    rw [hentries, hheld] at hafter
    cases success with
    | true => exact (agrees_after_iff config c s.objects _).mp (by simpa [AgreesHeld] using hafter)
    | false =>
      exact (agreesHeld_after_iff config c s.objects ((h kernel hk).1 argIndex)).mp
        (by simpa using hafter)
  · intro hok k hk
    have hk' := (hlive k).mp hk
    refine ⟨fun i => ?_, husm k hk'⟩
    rw [hentries, hheld]
    by_cases heq : k = kernel ∧ i = argIndex
    · obtain ⟨rfl, rfl⟩ := heq
      have hok := hok hk'
      cases success with
      | true => simpa [AgreesHeld] using (agrees_after_iff config c s.objects _).mpr hok
      | false =>
        simpa using (agreesHeld_after_iff config c s.objects ((h k hk').1 i)).mpr hok
    · rw [if_neg heq, if_neg fun h => heq ⟨h.1, h.2.1⟩]
      exact (h k hk').1 i

/-- A reference count is not recorded, as long as the kernel was live. -/
theorem describes_refCounts {s : State} (h : Describes s) {kernel : Handle} (hlive : s.Live kernel)
    (refCount : Nat) (programs : Programs) :
    Describes { s with
      programs := programs
      refCounts := Function.update s.refCounts kernel refCount } := by
  intro k hk
  by_cases heq : k = kernel
  · exact h k (heq ▸ hlive)
  · exact h k (by simpa [State.Live, heq] using hk)

/-- **Exactly when a call keeps live kernels described.** -/
theorem describes_step_iff {config : Config} {demangle : String → String} {s : State}
    (h : Describes s) (a : Action) (hlegal : legal s a) :
    Describes (step config demangle s a) ∧ CloneStartsAsSource config demangle s a ↔
      CallOk config s a := by
  cases a with
  | object c => exact iff_of_true ⟨h, trivial⟩ trivial
  | createKernel kernel program kernelName =>
    simp only [step, CloneStartsAsSource, CallOk, and_true]
    split
    · next hnull => exact iff_of_true h fun hne => absurd hnull hne
    · next hne =>
      refine (describes_created_iff h [kernel] _).trans ?_
      simp [hne]
  | createKernelsInProgram kernels program =>
    simp only [step, CloneStartsAsSource, CallOk, and_true]
    exact describes_created_iff h _ _
  | cloneKernel kernel sourceKernel =>
    simp only [step, CloneStartsAsSource, CallOk]
    split
    · next hnull => exact iff_of_true ⟨h, fun hne => absurd hnull hne⟩ fun hne => absurd hnull hne
    · next hne =>
      obtain ⟨hsource, hnew⟩ := hlegal hne
      simp only [ne_eq, hne, not_false_eq_true, forall_const]
      exact describes_cloned_iff h hsource hnew _
  | retainKernel kernel success =>
    refine iff_of_true ⟨?_, trivial⟩ trivial
    cases success with
    | false => exact h
    | true => exact describes_refCounts h (hlegal rfl) (s.refCounts kernel + 1) s.programs
  | releaseKernel kernel refCount success =>
    refine iff_of_true ⟨?_, trivial⟩ trivial
    cases success with
    | false => exact h
    | true => exact describes_refCounts h (hlegal rfl) (s.refCounts kernel - 1) _
  | setKernelArg kernel argIndex c success =>
    simp only [CloneStartsAsSource, and_true]
    exact describes_setKernelArg_iff h kernel argIndex c success
  | setKernelExecInfo kernel paramName paramValue =>
    refine iff_of_true ⟨fun k hk => ⟨(h k hk).1, ?_⟩, trivial⟩ trivial
    exact kernelInfoMap_clSetKernelExecInfo config kernel k paramName paramValue (h k hk).2

/-! ## Runs -/

/-- **Exactly when what is tracked of live kernels is theirs**, and clones start as their sources:
in runs in which every call meets its condition, and in no others. -/
theorem describes_iff (config : Config) (demangle : String → String) {run : List Action}
    (hlegal : (system config demangle).Legal {} run) :
    (system config demangle).Always Describes {} run ∧
        (system config demangle).Each (CloneStartsAsSource config demangle) {} run ↔
      (system config demangle).Each (CallOk config) {} run :=
  System.always_and_each_iff_each (I := fun _ => True) (fun _ _ _ _ => trivial)
    (fun _ a _ hp hl => describes_step_iff hp a hl) trivial (fun _ hlive => absurd rfl hlive) hlegal

/-- A kernel with a buffer argument, used and released. -/
def onceUsed : List Action :=
  [.object (.addBuffer 64 (some 16)), .createKernel 7 1 "copy",
    .setKernelArg 7 0 (.clSetKernelArg (.bytes (pointerBytes 64))) true, .releaseKernel 7 1 true]

/-- The controls of the runs here. -/
def dumping : Config := { dumpBuffersBeforeEnqueue := true }

theorem legal_onceUsed : (system dumping id).Legal {} onceUsed :=
  ⟨trivial, trivial, fun _ => Nat.one_ne_zero, fun _ => Nat.one_ne_zero, trivial⟩

theorem callOk_onceUsed : (system dumping id).Each (CallOk dumping) {} onceUsed :=
  ⟨trivial, fun _ _ => ⟨fun _ => rfl, rfl⟩, fun _ => ⟨rfl, fun _ => rfl, rfl⟩, trivial, trivial⟩

theorem describes_onceUsed : (system dumping id).Always Describes {} onceUsed ∧
    (system dumping id).Each (CloneStartsAsSource dumping id) {} onceUsed :=
  (describes_iff dumping id legal_onceUsed).mpr callOk_onceUsed

/-- The next kernel gets the handle. -/
def handleReused : List Action := onceUsed ++ [.createKernel 7 1 "fill"]

/-- **Arguments outlive their kernel.** -/
theorem arguments_of_released_kernel : (system dumping id).Legal {} handleReused ∧
    ¬ (system dumping id).Always Describes {} handleReused := by
  refine ⟨⟨trivial, trivial, fun _ => Nat.one_ne_zero, fun _ => Nat.one_ne_zero, trivial, trivial⟩,
    fun h => ?_⟩
  obtain ⟨hargs, -⟩ := h.last 7 Nat.one_ne_zero
  have hnone : ((system dumping id).exec {} handleReused).args.entries 7 0 = {} := hargs 0
  exact absurd hnone (by decide)

end CLIntercept.Track.Kernels
