import CLIntercept.Api
import CLIntercept.Lib.OrdMap
import CLIntercept.Lib.Run

/-!
# Emulated unified shared memory

With `Emulate_cl_intel_unified_shared_memory` the layer serves host, device and shared allocations
from `clSVMAlloc`. For each context it keeps an ordered map of the allocations and one vector for
each type, and for each kernel the indirect access flags and the pointer lists that the application
set. `Layer` is this state and the functions below are those of `intercept.cpp` on it, each given what
the driver answers.

`State` adds what the layer cannot see: which allocations are live. The driver is an adversary that
promises one thing, `FreshRange`: a non-null answer is a range disjoint from every live one. `Inv`
says what the state of the layer is, in any run of such calls: the vectors are the live
allocations, type by type, and so is the map.
-/

set_option autoImplicit false

namespace CLIntercept.Usm

open CLIntercept.Lib

/-! ## The state of the layer -/

/-- `cl_unified_shared_memory_type_intel`. -/
inductive MemType
  | unknown
  | host
  | device
  | shared
  deriving DecidableEq, Repr

/-- What is recorded of an allocation. -/
structure SUSMAllocInfo where
  type : MemType := .unknown
  device : Handle := null
  baseAddress : Nat := null
  size : Nat := 0
  alignment : Nat := 0
  deriving DecidableEq, Repr

/-- What is recorded of a context. -/
structure SUSMContextInfo where
  allocMap : OrdMap Nat SUSMAllocInfo := .empty
  hostAllocVector : List Nat := []
  deviceAllocVector : List Nat := []
  sharedAllocVector : List Nat := []

/-- What is recorded of a kernel. -/
structure SUSMKernelInfo where
  indirectHostAccess : Bool := false
  indirectDeviceAccess : Bool := false
  indirectSharedAccess : Bool := false
  svmPtrs : List Nat := []
  usmPtrs : List Nat := []
  deriving DecidableEq, Repr

/-- `m_USMContextInfoMap` and `m_USMKernelInfoMap`. Both are only read with `operator[]`, so a
missing entry is a default one. -/
structure Layer where
  contextInfoMap : Handle → SUSMContextInfo := fun _ => {}
  kernelInfoMap : Handle → SUSMKernelInfo := fun _ => {}

/-- Store what is recorded of a context. -/
def Layer.setContext (u : Layer) (context : Handle) (info : SUSMContextInfo) : Layer :=
  { u with contextInfoMap := Function.update u.contextInfoMap context info }

/-- Store what is recorded of a kernel. -/
def Layer.setKernel (u : Layer) (kernel : Handle) (info : SUSMKernelInfo) : Layer :=
  { u with kernelInfoMap := Function.update u.kernelInfoMap kernel info }

@[simp] theorem Layer.contextInfoMap_setContext (u : Layer) (context : Handle)
    (info : SUSMContextInfo) :
    (u.setContext context info).contextInfoMap = Function.update u.contextInfoMap context info :=
  rfl

@[simp] theorem Layer.contextInfoMap_setKernel (u : Layer) (kernel : Handle)
    (info : SUSMKernelInfo) : (u.setKernel kernel info).contextInfoMap = u.contextInfoMap := rfl

/-- The vector of a type. Allocations are never of unknown type. -/
def SUSMContextInfo.allocVector (info : SUSMContextInfo) : MemType → List Nat
  | .unknown => []
  | .host => info.hostAllocVector
  | .device => info.deviceAllocVector
  | .shared => info.sharedAllocVector

/-- The flag of a type. -/
def SUSMKernelInfo.indirectAccess (info : SUSMKernelInfo) : MemType → Bool
  | .unknown => false
  | .host => info.indirectHostAccess
  | .device => info.indirectDeviceAccess
  | .shared => info.indirectSharedAccess

/-! ## Allocation -/

def clMemAllocFlags : Nat := 0x4195
def clMemAllocWriteCombined : Nat := 1

/-- The properties are pairs up to a zero; `none` is a null list. A property is compared as the
`cl_int` it is cast to. -/
def validateUSMMemProperties : Option (List (Nat × Nat)) → Bool
  | none => true
  | some properties => properties.all fun p =>
      p.1 % 2 ^ 32 = clMemAllocFlags && p.2 ||| clMemAllocWriteCombined = clMemAllocWriteCombined

def clMemReadWrite : Nat := 1
def clMemSVMFineGrainBuffer : Nat := 2 ^ 10

/-- `clSVMAlloc` in the dispatch table: what it answers for a context, flags, a size and an
alignment. `none` where the driver has no such function. -/
abbrev ClSVMAlloc := Option (Handle → Nat → Nat → Nat → Nat)

/-- The pointer an allocation gets from the driver. -/
def svmPointer (clSVMAlloc : ClSVMAlloc) (context : Handle) (flags size alignment : Nat) : Nat :=
  match clSVMAlloc with
  | some alloc => alloc context flags size alignment
  | none => null

/-- What an allocation hands back. -/
structure AllocResult where
  ptr : Nat
  errcode : Int
  deriving DecidableEq, Repr

/-- The alloc info that an allocation leaves under its pointer, over what `operator[]` found. Host
allocations do not write the device. -/
def allocInfo (type : MemType) (device : Option Handle) (ptr size alignment : Nat)
    (old : SUSMAllocInfo) : SUSMAllocInfo where
  type := type
  device := device.getD old.device
  baseAddress := ptr
  size := size
  alignment := alignment

/-- The push onto the vector of a type. -/
def SUSMContextInfo.push (info : SUSMContextInfo) (type : MemType) (ptr : Nat) :
    SUSMContextInfo :=
  match type with
  | .unknown => info
  | .host => { info with hostAllocVector := info.hostAllocVector ++ [ptr] }
  | .device => { info with deviceAllocVector := info.deviceAllocVector ++ [ptr] }
  | .shared => { info with sharedAllocVector := info.sharedAllocVector ++ [ptr] }

/-- `AllocMap[ptr]`, written. -/
def SUSMContextInfo.recordAlloc (info : SUSMContextInfo) (ptr : Nat) (alloc : SUSMAllocInfo) :
    SUSMContextInfo :=
  { info with allocMap := info.allocMap.insert ptr alloc }

/-- What the three allocations have in common. -/
def emulatedMemAlloc (type : MemType) (flags : Nat) (device : Option Handle) (context : Handle)
    (properties : Option (List (Nat × Nat))) (size alignment : Nat) (clSVMAlloc : ClSVMAlloc)
    (u : Layer) : Layer × AllocResult :=
  if !validateUSMMemProperties properties then (u, ⟨null, clInvalidProperty⟩)
  else
    let ptr := svmPointer clSVMAlloc context flags size alignment
    if ptr = null then (u, ⟨null, clOutOfResources⟩)
    else
      let info := u.contextInfoMap context
      let old := (info.allocMap.get? ptr).getD {}
      let info := info.recordAlloc ptr (allocInfo type device ptr size alignment old)
      (u.setContext context (info.push type ptr), ⟨ptr, clSuccess⟩)

def emulatedHostMemAlloc (context : Handle) (properties : Option (List (Nat × Nat)))
    (size alignment : Nat) (clSVMAlloc : ClSVMAlloc) (u : Layer) : Layer × AllocResult :=
  emulatedMemAlloc .host (clMemReadWrite ||| clMemSVMFineGrainBuffer) none context properties size
    alignment clSVMAlloc u

/-- Device allocations are coarse grain. -/
def emulatedDeviceMemAlloc (context device : Handle) (properties : Option (List (Nat × Nat)))
    (size alignment : Nat) (clSVMAlloc : ClSVMAlloc) (u : Layer) : Layer × AllocResult :=
  emulatedMemAlloc .device clMemReadWrite (some device) context properties size alignment clSVMAlloc
    u

def emulatedSharedMemAlloc (context device : Handle) (properties : Option (List (Nat × Nat)))
    (size alignment : Nat) (clSVMAlloc : ClSVMAlloc) (u : Layer) : Layer × AllocResult :=
  emulatedMemAlloc .shared (clMemReadWrite ||| clMemSVMFineGrainBuffer) (some device) context
    properties size alignment clSVMAlloc u

/-! ## Free -/

/-- What a free does besides changing the state: its result, whether it reaches `CLI_ASSERT(0)`,
and the `clSVMFree` it makes. -/
structure FreeResult where
  retVal : Int
  asserts : Bool
  clSVMFree : Option (Handle × Nat)
  deriving DecidableEq, Repr

/-- The switch on the type: `vector.erase(std::find(..))`. `List.erase` also leaves a vector without
the pointer alone, where the source would erase `end()`. -/
def SUSMContextInfo.eraseFromVector (info : SUSMContextInfo) (type : MemType) (ptr : Nat) :
    SUSMContextInfo :=
  match type with
  | .unknown => info
  | .host => { info with hostAllocVector := info.hostAllocVector.erase ptr }
  | .device => { info with deviceAllocVector := info.deviceAllocVector.erase ptr }
  | .shared => { info with sharedAllocVector := info.sharedAllocVector.erase ptr }

/-- `AllocMap.erase(ptr)`. -/
def SUSMContextInfo.forgetAlloc (info : SUSMContextInfo) (ptr : Nat) : SUSMContextInfo :=
  { info with allocMap := info.allocMap.erase ptr }

/-- The types that reach the `default` of the switch. The case of shared allocations has no
`break`. -/
def MemType.reachesDefault : MemType → Bool
  | .host | .device => false
  | .shared | .unknown => true

def emulatedMemFree (context : Handle) (ptr : Nat) (u : Layer) : Layer × FreeResult :=
  let info := u.contextInfoMap context
  match info.allocMap.get? ptr with
  | some allocInfo =>
    let info := info.eraseFromVector allocInfo.type ptr
    let info := info.forgetAlloc ptr
    (u.setContext context info, ⟨clSuccess, allocInfo.type.reachesDefault, some (context, ptr)⟩)
  | none => (u, ⟨clInvalidMemObject, false, none⟩)

/-! ## Kernel exec info -/

/-- `cl_kernel_exec_info`. -/
inductive KernelExecInfo
  | indirectHostAccess
  | indirectDeviceAccess
  | indirectSharedAccess
  | usmPtrs
  | svmPtrs
  | other (name : Nat)
  deriving DecidableEq, Repr

/-- `sizeof(cl_bool)`. -/
def boolSize : Nat := 4

/-- The flag that the application passes is set for `CL_TRUE` only. -/
def isTrue (paramValue : Bytes) : Bool := paramValue.toNat = 1

/-- The pointers that the application passes: whole ones, `param_value_size / sizeof(void*)`. -/
def passedPtrs (paramValue : Bytes) : List Nat :=
  paramValue.pointers (paramValue.length / pointerSize)

/-- Set the flags and lists of a kernel. The result is `CL_SUCCESS` only for a flag: the pointer
lists are recorded and the call still goes to the driver. -/
def trackUSMKernelExecInfo (kernel : Handle) (paramName : KernelExecInfo) (paramValue : Bytes)
    (u : Layer) : Layer × Int :=
  let info := u.kernelInfoMap kernel
  match paramName with
  | .indirectHostAccess =>
    if paramValue.length = boolSize then
      (u.setKernel kernel { info with indirectHostAccess := isTrue paramValue }, clSuccess)
    else (u, clInvalidValue)
  | .indirectDeviceAccess =>
    if paramValue.length = boolSize then
      (u.setKernel kernel { info with indirectDeviceAccess := isTrue paramValue }, clSuccess)
    else (u, clInvalidValue)
  | .indirectSharedAccess =>
    if paramValue.length = boolSize then
      (u.setKernel kernel { info with indirectSharedAccess := isTrue paramValue }, clSuccess)
    else (u, clInvalidValue)
  | .usmPtrs => (u.setKernel kernel { info with usmPtrs := passedPtrs paramValue }, clInvalidValue)
  | .svmPtrs => (u.setKernel kernel { info with svmPtrs := passedPtrs paramValue }, clInvalidValue)
  | .other _ => (u, clInvalidValue)

/-! ## Runs against a driver -/

/-- A live allocation: what the driver knows of it, and the type it was asked for. -/
structure LiveAlloc where
  context : Handle
  type : MemType
  base : Nat
  size : Nat
  deriving DecidableEq, Repr

/-- The state of the layer, and the allocations that are live. -/
structure State where
  usm : Layer := {}
  live : List LiveAlloc := []

/-- **The driver's promise.** A range is fresh if it starts at no null pointer, is not empty and
overlaps no live range. -/
def FreshRange (s : State) (base size : Nat) : Prop :=
  base ≠ null ∧ 0 < size ∧ ∀ a ∈ s.live, base + size ≤ a.base ∨ a.base + a.size ≤ base

/-- The calls of the application. -/
inductive Action
  | hostMemAlloc (context : Handle) (properties : Option (List (Nat × Nat))) (size alignment : Nat)
      (clSVMAlloc : ClSVMAlloc)
  | deviceMemAlloc (context device : Handle) (properties : Option (List (Nat × Nat)))
      (size alignment : Nat) (clSVMAlloc : ClSVMAlloc)
  | sharedMemAlloc (context device : Handle) (properties : Option (List (Nat × Nat)))
      (size alignment : Nat) (clSVMAlloc : ClSVMAlloc)
  | memFree (context : Handle) (ptr : Nat)
  | kernelExecInfo (kernel : Handle) (paramName : KernelExecInfo) (paramValue : Bytes)

/-- The live allocations after an allocation: one more where the driver gave a pointer. -/
def State.afterAlloc (s : State) (context : Handle) (type : MemType) (size : Nat)
    (r : Layer × AllocResult) : State where
  usm := r.1
  live := if r.2.ptr = null then s.live else s.live ++ [⟨context, type, r.2.ptr, size⟩]

/-- The live allocations after a free: without the one that was given to `clSVMFree`. -/
def State.afterFree (s : State) (r : Layer × FreeResult) : State where
  usm := r.1
  live := match r.2.clSVMFree with
    | some (_, ptr) => s.live.filter fun a => a.base ≠ ptr
    | none => s.live

/-- One call. -/
def step (s : State) : Action → State
  | .hostMemAlloc context properties size alignment clSVMAlloc =>
    s.afterAlloc context .host size
      (emulatedHostMemAlloc context properties size alignment clSVMAlloc s.usm)
  | .deviceMemAlloc context device properties size alignment clSVMAlloc =>
    s.afterAlloc context .device size
      (emulatedDeviceMemAlloc context device properties size alignment clSVMAlloc s.usm)
  | .sharedMemAlloc context device properties size alignment clSVMAlloc =>
    s.afterAlloc context .shared size
      (emulatedSharedMemAlloc context device properties size alignment clSVMAlloc s.usm)
  | .memFree context ptr => s.afterFree (emulatedMemFree context ptr s.usm)
  | .kernelExecInfo kernel paramName paramValue =>
    { s with usm := (trackUSMKernelExecInfo kernel paramName paramValue s.usm).1 }

/-- What the driver answers an allocation keeps its promise. -/
def FreshAnswers (s : State) (context size alignment : Nat) (clSVMAlloc : ClSVMAlloc) : Prop :=
  ∀ flags, svmPointer clSVMAlloc context flags size alignment ≠ null →
    FreshRange s (svmPointer clSVMAlloc context flags size alignment) size

def legal (s : State) : Action → Prop
  | .hostMemAlloc context _ size alignment clSVMAlloc
  | .deviceMemAlloc context _ _ size alignment clSVMAlloc
  | .sharedMemAlloc context _ _ size alignment clSVMAlloc =>
    FreshAnswers s context size alignment clSVMAlloc
  | .memFree _ _ | .kernelExecInfo _ _ _ => True

/-- The emulation and its driver. -/
def system : System State Action := ⟨step, legal⟩

/-- A state that the emulation can be in. -/
def Reachable (s : State) : Prop := ∃ as, system.Legal {} as ∧ s = system.exec {} as

end CLIntercept.Usm
