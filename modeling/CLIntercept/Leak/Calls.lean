import CLIntercept.Config
import CLIntercept.Enqueue
import CLIntercept.Leak.Tracker
import CLIntercept.Lib.Run
import Mathlib.Data.Multiset.AddSub
import Mathlib.Data.Multiset.Filter

/-!
# What the entry points count

The entry points tell the object tracker of the objects that they create, retain and release, each
after other macros that may have put an event of the layer in the place of the application's and may
have turned an error into success.

The state is the tracker beside the references that the application holds. `leaksExact_iff` says of
every run exactly which calls keep the counts right: the two functions that map memory hand their
pointer to the macros in the place of an error code, and an error that `NoErrors` has hidden makes
what the application's variables held before the call count.
-/

set_option autoImplicit false

namespace CLIntercept.Leak

open CLIntercept.Lib

/-! ## The code -/

/-- The entry points with `ADD_OBJECT_ALLOCATION` of the object that they return. -/
inductive CreateFunction where
  | clCreateContext
  | clCreateContextFromType
  | clCreateCommandQueue
  | clCreateBuffer
  | clCreateBufferWithProperties
  | clCreateBufferWithPropertiesINTEL
  | clCreateBufferNV
  | clCreateSubBuffer
  | clCreateImage
  | clCreateImageWithProperties
  | clCreateImage2D
  | clCreateImage3D
  | clCreateSampler
  | clCreateProgramWithSource
  | clCreateProgramWithBinary
  | clCreateProgramWithBuiltInKernels
  | clLinkProgram
  | clCreateKernel
  | clCreateUserEvent
  | clCreateSemaphoreWithPropertiesKHR
  | clCreateFromGLBuffer
  | clCreateFromGLTexture
  | clCreateFromGLTexture2D
  | clCreateFromGLTexture3D
  | clCreateFromGLRenderbuffer
  | clCreatePipe
  | clCreateCommandQueueWithProperties
  | clCreateCommandQueueWithPropertiesKHR
  | clCreateSamplerWithProperties
  | clCreateProgramWithIL
  | clCreateProgramWithILKHR
  | clCloneKernel
  | clCreateEventFromGLsyncKHR
  | clCreateFromD3D10BufferKHR
  | clCreateFromD3D10Texture2DKHR
  | clCreateFromD3D10Texture3DKHR
  | clCreateFromD3D11BufferKHR
  | clCreateFromD3D11Texture2DKHR
  | clCreateFromD3D11Texture3DKHR
  | clCreateFromDX9MediaSurfaceKHR
  | clCreateFromDX9MediaSurfaceINTEL
  | clCreatePerfCountersCommandQueueINTEL
  | clCreateFromVA_APIMediaSurfaceINTEL
  | clCreateCommandBufferKHR
  | clRemapCommandBufferKHR
  deriving DecidableEq, Repr

def CreateFunction.objectType : CreateFunction → ObjectType
  | clCreateContext | clCreateContextFromType => .context
  | clCreateCommandQueue | clCreateCommandQueueWithProperties
  | clCreateCommandQueueWithPropertiesKHR | clCreatePerfCountersCommandQueueINTEL => .commandQueue
  | clCreateSampler | clCreateSamplerWithProperties => .sampler
  | clCreateProgramWithSource | clCreateProgramWithBinary
  | clCreateProgramWithBuiltInKernels | clLinkProgram | clCreateProgramWithIL
  | clCreateProgramWithILKHR => .program
  | clCreateKernel | clCloneKernel => .kernel
  | clCreateUserEvent | clCreateEventFromGLsyncKHR => .event
  | clCreateSemaphoreWithPropertiesKHR => .semaphore
  | clCreateCommandBufferKHR | clRemapCommandBufferKHR => .commandBuffer
  | _ => .mem

/-- The entry points that create several objects. -/
inductive CreateManyFunction where
  | clCreateSubDevices
  | clCreateKernelsInProgram
  deriving DecidableEq, Repr

def CreateManyFunction.objectType : CreateManyFunction → ObjectType
  | .clCreateSubDevices => .device
  | .clCreateKernelsInProgram => .kernel

/-- `CHECK_ERROR`: the error code after it. -/
def checkError (config : Config) (errorCode : Int) : Int :=
  if errorCode ≠ clSuccess && config.noErrors then clSuccess else errorCode

/-- `ADD_OBJECT_ALLOCATION`. -/
def addObjectAllocation (config : Config) (t : ObjectType) (obj : Handle) (T : CObjectTracker) :
    CObjectTracker :=
  if config.leakChecking then addAllocation t obj T else T

/-- `ADD_OBJECT_ALLOCATION_EVENT`. The event is what the pointer to it points at. -/
def addObjectAllocationEvent (config : Config) (errorCode : Int) (event : Option Handle)
    (T : CObjectTracker) : CObjectTracker :=
  match event with
  | some event =>
    if config.leakChecking && errorCode = clSuccess then addAllocation .event event T else T
  | none => T

/-- `ADD_OBJECT_RETAIN`. -/
def addObjectRetain (config : Config) (t : ObjectType) (obj : Handle) (T : CObjectTracker) :
    CObjectTracker :=
  if config.leakChecking then addRetain t obj T else T

/-- `ADD_OBJECT_RELEASE`. -/
def addObjectRelease (config : Config) (t : ObjectType) (obj : Handle) (T : CObjectTracker) :
    CObjectTracker :=
  if config.leakChecking then addRelease t obj T else T

/-- The loop over an array of new objects. -/
def addAllocations (t : ObjectType) (objs : List Handle) (T : CObjectTracker) : CObjectTracker :=
  objs.foldl (fun T obj => addAllocation t obj T) T

/-- `ADD_POINTER_FREES`, without a callback. -/
def addPointerFrees (ptrs : List Nat) (T : CObjectTracker) : CObjectTracker :=
  ptrs.foldl (fun T ptr => addPointerFree ptr T) T

/-- A call of one of the two functions that create several objects: the number behind the
application's pointer and the memory behind the array, if it passes them, and the driver's answer.
The driver writes both if it succeeds. -/
structure CreateMany where
  function : CreateManyFunction
  numRet : Option UInt32
  array : Option (Nat → Handle)
  errorCode : Int
  objects : List Handle

/-- What is in the array after the call, as far as the number after the call goes. -/
def CreateMany.out (c : CreateMany) (array : Nat → Handle) : List Handle :=
  if c.errorCode = clSuccess then c.objects
  else (List.range (c.numRet.getD 0).toNat).map array

def createMany (config : Config) (c : CreateMany) (T : CObjectTracker) : CObjectTracker :=
  match c.array with
  | some array =>
    if config.leakChecking && checkError config c.errorCode = clSuccess then
      addAllocations c.function.objectType (c.out array) T
    else T
  | none => T

/-- An enqueue: what the application's event pointer points at, if it passes one; whether the
enqueue counter and the environment allow timing; the driver's answer, which is a pointer of the
functions that map memory; and the pointers that `clEnqueueSVMFree` frees. The driver writes an event
if it succeeds. -/
structure EnqueueCall where
  function : EnqueueFunction
  event : Option Handle
  timed : Bool := false
  errorCode : Int
  pointer : Nat := null
  newEvent : Handle := null
  svmPointers : List Nat := []
  hasCallback : Bool := false

/-- `doDevicePerformanceTiming`. -/
def EnqueueCall.timing (config : Config) (e : EnqueueCall) : Bool :=
  e.function.timesDevice && config.timesEnqueues && e.timed

/-- What the macros after the call are given as its error code. -/
def EnqueueCall.result (e : EnqueueCall) : Int :=
  if e.function.returnsPointer then e.pointer else e.errorCode

/-- The event pointer after `DEVICE_PERFORMANCE_TIMING_START`, the driver's call and
`DEVICE_PERFORMANCE_TIMING_END`. -/
def EnqueueCall.eventAfter (config : Config) (e : EnqueueCall) : Option Handle :=
  let isLocalEvent := e.timing config && e.event.isNone
  let event := if isLocalEvent then some null else e.event
  let event := if e.errorCode = clSuccess then event.map fun _ => e.newEvent else event
  if isLocalEvent && e.result = clSuccess then none else event

/-- The error code for `ADD_OBJECT_ALLOCATION_EVENT`. `CHECK_ERROR` looks at another one where the
function returns a pointer. -/
def EnqueueCall.checked (config : Config) (e : EnqueueCall) : Int :=
  if e.function.returnsPointer then e.result else checkError config e.result

def enqueueObjects (config : Config) (e : EnqueueCall) (T : CObjectTracker) : CObjectTracker :=
  if config.nullEnqueue then T
  else
    let T :=
      if e.function.returnsEvent then
        addObjectAllocationEvent config (e.checked config) (e.eventAfter config) T
      else T
    if e.function = .clEnqueueSVMFree && config.leakChecking && !e.hasCallback then
      addPointerFrees e.svmPointers T
    else T

/-! ## The application's references -/

/-- The tracker, the references to objects that the application holds, and its SVM and USM
allocations. -/
structure LeakState where
  tracker : CObjectTracker := {}
  held : ObjectType → Multiset Handle := fun _ => 0
  heldPointers : Multiset Nat := 0

/-- The calls. A creation that fails returns `NULL`; retains, releases and frees succeed. -/
inductive LeakCall where
  | create (function : CreateFunction) (retVal : Handle)
  | createMany (c : CreateMany)
  | enqueue (e : EnqueueCall)
  | retain (t : ObjectType) (obj : Handle)
  | release (t : ObjectType) (obj : Handle)
  | allocatePointer (retVal : Nat)
  | freePointer (ptr : Nat)

def nonNull (objs : List Nat) : Multiset Nat := (objs.filter (· ≠ null) : List Nat)

/-- References of one type more. -/
def gain (held : ObjectType → Multiset Handle) (t : ObjectType) (objs : Multiset Handle) :
    ObjectType → Multiset Handle :=
  fun t' => if t' = t then held t' + objs else held t'

/-- The objects that the application gets. -/
def CreateMany.given (c : CreateMany) : Multiset Handle :=
  if c.errorCode = clSuccess && c.array.isSome then nonNull c.objects else 0

/-- The event that the application gets. -/
def EnqueueCall.given (config : Config) (e : EnqueueCall) : Multiset Handle :=
  if !config.nullEnqueue && e.errorCode = clSuccess && e.event.isSome then nonNull [e.newEvent]
  else 0

/-- The allocations that the application gives back. With a callback the callback frees them. -/
def EnqueueCall.freed (config : Config) (e : EnqueueCall) : Multiset Nat :=
  if !config.nullEnqueue && e.errorCode = clSuccess && e.function = .clEnqueueSVMFree &&
      !e.hasCallback then
    nonNull e.svmPointers
  else 0

/-- The objects whose references are not counted: a root device is retained and released with success,
and nothing changes. -/
def unreferenced (rootDevice : Handle → Bool) (t : ObjectType) (obj : Handle) : Bool :=
  t = .device && rootDevice obj

def leakStep (rootDevice : Handle → Bool) (config : Config) (s : LeakState) : LeakCall → LeakState
  | .create function retVal =>
    { s with
      tracker := addObjectAllocation config function.objectType retVal s.tracker
      held := gain s.held function.objectType (nonNull [retVal]) }
  | .createMany c =>
    { s with
      tracker := createMany config c s.tracker
      held := gain s.held c.function.objectType c.given }
  | .enqueue e =>
    { tracker := enqueueObjects config e s.tracker
      held := gain s.held .event (e.given config)
      heldPointers := s.heldPointers - e.freed config }
  | .retain t obj =>
    { s with
      tracker := addObjectRetain config t obj s.tracker
      held := if unreferenced rootDevice t obj then s.held else gain s.held t {obj} }
  | .release t obj =>
    { s with
      tracker := addObjectRelease config t obj s.tracker
      held :=
        if unreferenced rootDevice t obj then s.held
        else fun t' => if t' = t then (s.held t').erase obj else s.held t' }
  | .allocatePointer retVal =>
    { s with
      tracker := if config.leakChecking then addPointerAllocation retVal s.tracker else s.tracker
      heldPointers := s.heldPointers + nonNull [retVal] }
  | .freePointer ptr =>
    { s with
      tracker := if config.leakChecking then addPointerFree ptr s.tracker else s.tracker
      heldPointers := s.heldPointers - nonNull [ptr] }

/-- What the application and the driver may do: a retain or a release that succeeds is of an object,
and a reference or an allocation is given back only by its holder; a sub-device is no root device;
mapping memory returns a pointer exactly if it succeeds; and a function that returns no event is not
asked for one. -/
def leakLegal (rootDevice : Handle → Bool) (config : Config) (s : LeakState) : LeakCall → Prop
  | .create _ _ => True
  | .createMany c => ∀ obj ∈ c.given, unreferenced rootDevice c.function.objectType obj = false
  | .enqueue e =>
    (e.function.returnsPointer = true → (e.errorCode = clSuccess ↔ e.pointer ≠ null)) ∧
      (e.function.returnsEvent = false → e.event = none) ∧ e.freed config ≤ s.heldPointers
  | .retain _ obj => obj ≠ null
  | .release t obj => obj ≠ null ∧ (unreferenced rootDevice t obj = true ∨ obj ∈ s.held t)
  | .allocatePointer _ => True
  | .freePointer ptr => nonNull [ptr] ≤ s.heldPointers

def leakSystem (rootDevice : Handle → Bool) (config : Config) : System LeakState LeakCall where
  step := leakStep rootDevice config
  legal := leakLegal rootDevice config

/-- **The counts are exact**, for each type of objects and for pointers, and the report says what they
mean. -/
structure LeaksExact (s : LeakState) : Prop where
  objects : ∀ t, (s.tracker.trackers t).numAllocations + (s.tracker.trackers t).numRetains =
    (s.tracker.trackers t).numReleases + (s.held t).card
  pointers : s.tracker.pointers.numAllocations =
    s.tracker.pointers.numFrees + s.heldPointers.card
  leak : ∀ t : ObjectType, possibleLeak t.label ∈ writeReport s.tracker ↔ s.held t ≠ 0
  pointerLeak : possibleLeak pointerLabel ∈ writeReport s.tracker ↔ s.heldPointers ≠ 0
  unexpected : ∀ label, unexpectedCounts label ∉ writeReport s.tracker

/-- The enqueues whose event counts right: the functions that map memory are never given an event, and
an error that is hidden leaves no old event to count. -/
def EnqueueCall.EventRight (config : Config) (e : EnqueueCall) : Prop :=
  ∀ old, e.event = some old →
    if e.function.returnsPointer then
      if e.errorCode = clSuccess then e.newEvent = null else old = null
    else e.errorCode = clSuccess ∨ config.noErrors = false ∨ old = null

/-- The enqueues whose frees count right: no pointer is passed to an enqueue of frees that fails. -/
def EnqueueCall.FreesRight (e : EnqueueCall) : Prop :=
  e.function = .clEnqueueSVMFree → e.hasCallback = false → e.errorCode ≠ clSuccess →
    ∀ ptr ∈ e.svmPointers, ptr = null

/-- The calls that are counted right. -/
def CountedRight (rootDevice : Handle → Bool) (config : Config) (_ : LeakState) : LeakCall → Prop
  | .createMany c =>
    c.errorCode = clSuccess ∨ config.noErrors = false ∨
      ∀ array, c.array = some array → ∀ obj ∈ c.out array, obj = null
  | .enqueue e =>
    config.nullEnqueue = true ∨ e.EventRight config ∧ e.FreesRight
  | .retain t obj | .release t obj => unreferenced rootDevice t obj = false
  | _ => True

/-! ## Balances -/

/-- What was counted is what is held. -/
structure Balanced (T : CObjectTracker) (held : ObjectType → Multiset Handle)
    (heldPointers : Multiset Nat) : Prop where
  objects : ∀ t, (T.trackers t).numAllocations + (T.trackers t).numRetains =
    (T.trackers t).numReleases + (held t).card
  pointers : T.pointers.numAllocations = T.pointers.numFrees + heldPointers.card

/-- Some allocations of one type of objects, and some frees of pointers. -/
def CObjectTracker.change (T : CObjectTracker) (t : ObjectType) (allocations frees : Nat) :
    CObjectTracker :=
  { T.modify t fun tracker =>
      { tracker with numAllocations := tracker.numAllocations + allocations } with
    pointers := { T.pointers with numFrees := T.pointers.numFrees + frees } }

section

variable {T : CObjectTracker} {held : ObjectType → Multiset Handle} {heldPointers : Multiset Nat}

/-- The reports are exact where the counts are balanced. -/
theorem leaksExact_iff_balanced (s : LeakState) :
    LeaksExact s ↔ Balanced s.tracker s.held s.heldPointers := by
  refine ⟨fun h => ⟨h.objects, h.pointers⟩, fun h => ⟨h.objects, h.pointers, fun t => ?_, ?_, ?_⟩⟩
  · rw [possibleLeak_mem_iff, h.objects, ← Multiset.card_pos]
    exact Nat.lt_add_right_iff_pos
  · rw [possibleLeak_pointers_mem_iff, h.pointers, ← Multiset.card_pos]
    exact Nat.lt_add_right_iff_pos
  · refine unexpectedCounts_notMem (fun t => ?_) ?_
    · rw [h.objects]
      exact Nat.le_add_right _ _
    · rw [h.pointers]
      exact Nat.le_add_right _ _

/-- A change of the counts is right exactly when each number is that of what changed hands. -/
theorem balanced_change_iff (h : Balanced T held heldPointers) (t : ObjectType) (k f : Nat)
    (objs : Multiset Handle) {ptrs : Multiset Nat} (hp : ptrs ≤ heldPointers) :
    Balanced (T.change t k f) (gain held t objs) (heldPointers - ptrs) ↔
      k = objs.card ∧ f = ptrs.card := by
  have hcard : heldPointers.card = (heldPointers - ptrs).card + ptrs.card := by
    rw [Multiset.card_sub hp, Nat.sub_add_cancel (Multiset.card_le_card hp)]
  have hobjects := h.objects t
  have hpointers := h.pointers
  constructor
  · intro hb
    have ht := hb.objects t
    have hf := hb.pointers
    simp only [CObjectTracker.change, CObjectTracker.modify, gain, if_true, Multiset.card_add] at ht hf
    omega
  · rintro ⟨hk, hf⟩
    refine ⟨fun t' => ?_, ?_⟩
    · by_cases ht : t' = t
      · subst ht
        simp only [CObjectTracker.change, CObjectTracker.modify, gain, if_true, Multiset.card_add]
        omega
      · simpa only [CObjectTracker.change, CObjectTracker.modify, gain, if_neg ht] using h.objects t'
    · simp only [CObjectTracker.change, CObjectTracker.modify]
      omega

/-- A call that counts nothing leaves the tracker as it is. -/
theorem change_zero (T : CObjectTracker) (t : ObjectType) : T.change t 0 0 = T := by
  have htrackers : (T.change t 0 0).trackers = T.trackers := by
    funext t'
    by_cases ht : t' = t
    · simp [CObjectTracker.change, CObjectTracker.modify, ht]
    · simp [CObjectTracker.change, CObjectTracker.modify, ht]
  cases T
  exact congrArg (CObjectTracker.mk · _) htrackers

/-- Two changes of one type are one. -/
theorem change_change (T : CObjectTracker) (t : ObjectType) (k k' f f' : Nat) :
    (T.change t k f).change t k' f' = T.change t (k + k') (f + f') := by
  have htrackers : ((T.change t k f).change t k' f').trackers =
      (T.change t (k + k') (f + f')).trackers := by
    funext t'
    by_cases ht : t' = t
    · simp [CObjectTracker.change, CObjectTracker.modify, ht, Nat.add_assoc]
    · simp [CObjectTracker.change, CObjectTracker.modify, ht]
  simp only [CObjectTracker.change, CObjectTracker.modify, Nat.add_assoc] at htrackers ⊢
  rw [htrackers]

/-- `ADD_OBJECT_ALLOCATION` counts what is not `NULL`. -/
theorem addAllocation_eq (t : ObjectType) (obj : Handle) (T : CObjectTracker) :
    addAllocation t obj T = T.change t (nonNull [obj]).card 0 := by
  unfold addAllocation
  by_cases hobj : obj = null
  · simp [hobj, nonNull, change_zero]
  · simp only [hobj, ne_eq, not_false_eq_true, if_true, nonNull]
    simp [hobj, CObjectTracker.change, CObjectTracker.modify]

/-- Objects are counted one by one. -/
theorem nonNull_cons (obj : Nat) (objs : List Nat) :
    (nonNull (obj :: objs)).card = (nonNull [obj]).card + (nonNull objs).card := by
  by_cases hobj : obj = null
  · simp [nonNull, hobj]
  · simp [nonNull, hobj, Nat.add_comm]

/-- A list of objects counts those that are not `NULL`. -/
theorem addAllocations_eq (t : ObjectType) (objs : List Handle) (T : CObjectTracker) :
    addAllocations t objs T = T.change t (nonNull objs).card 0 := by
  induction objs generalizing T with
  | nil => exact (change_zero T t).symm
  | cons obj objs ih =>
    rw [nonNull_cons, ← change_change _ _ _ _ 0 0, ← addAllocation_eq]
    exact ih _

/-- A free counts a pointer that is not `NULL`. -/
theorem addPointerFree_eq (t : ObjectType) (ptr : Nat) (T : CObjectTracker) :
    addPointerFree ptr T = T.change t 0 (nonNull [ptr]).card := by
  unfold addPointerFree
  by_cases hptr : ptr = null
  · simp [hptr, nonNull, change_zero]
  · have hone : (nonNull [ptr]).card = 1 := by simp [nonNull, hptr]
    rw [if_pos hptr, hone]
    calc { T with pointers := { T.pointers with numFrees := T.pointers.numFrees + 1 } }
        = { T.change t 0 0 with
            pointers := { T.pointers with numFrees := T.pointers.numFrees + 1 } } := by
          rw [change_zero]
      _ = T.change t 0 1 := rfl

/-- A list of frees counts likewise. -/
theorem addPointerFrees_eq (t : ObjectType) (ptrs : List Nat) (T : CObjectTracker) :
    addPointerFrees ptrs T = T.change t 0 (nonNull ptrs).card := by
  induction ptrs generalizing T with
  | nil => exact (change_zero T t).symm
  | cons ptr ptrs ih =>
    rw [nonNull_cons, ← change_change _ _ 0 0, ← addPointerFree_eq]
    exact ih _

end

/-! ## One call -/

section

variable {rootDevice : Handle → Bool} {config : Config} {s : LeakState}

/-- The events that an enqueue counts: one or none. -/
def EnqueueCall.counted (config : Config) (e : EnqueueCall) : Multiset Handle :=
  match e.eventAfter config with
  | some event =>
    if !config.nullEnqueue && e.function.returnsEvent && e.checked config = clSuccess then
      nonNull [event]
    else 0
  | none => 0

/-- The pointers that an enqueue counts as freed. -/
def EnqueueCall.countedFrees (config : Config) (e : EnqueueCall) : Multiset Nat :=
  if !config.nullEnqueue && e.function = .clEnqueueSVMFree && !e.hasCallback then
    nonNull e.svmPointers
  else 0

/-- An enqueue counts the event that it finds in the application's variable. -/
theorem addObjectAllocationEvent_eq (h : config.leakChecking = true) (hnull : config.nullEnqueue = false)
    (e : EnqueueCall) (T : CObjectTracker) :
    (if e.function.returnsEvent then
      addObjectAllocationEvent config (e.checked config) (e.eventAfter config) T
    else T) = T.change .event (e.counted config).card 0 := by
  unfold EnqueueCall.counted addObjectAllocationEvent
  cases e.eventAfter config with
  | none => simp [change_zero]
  | some event =>
    by_cases hr : e.function.returnsEvent = true
    · by_cases hc : e.checked config = clSuccess
      · simp [hr, hc, h, hnull, addAllocation_eq]
      · simp [hr, hc, change_zero]
    · simp [hr, change_zero]

/-- All that an enqueue counts: its event, and what it frees. -/
theorem enqueueObjects_eq (h : config.leakChecking = true) (e : EnqueueCall) (T : CObjectTracker) :
    enqueueObjects config e T =
      T.change .event (e.counted config).card (e.countedFrees config).card := by
  unfold enqueueObjects
  cases hnull : config.nullEnqueue with
  | true =>
    have hcounted : e.counted config = 0 := by
      unfold EnqueueCall.counted
      split <;> simp [hnull]
    simp [hcounted, EnqueueCall.countedFrees, hnull, change_zero]
  | false =>
    simp only [Bool.false_eq_true, if_false, addObjectAllocationEvent_eq h hnull]
    by_cases hfree : e.function = .clEnqueueSVMFree ∧ e.hasCallback = false
    · have hfrees : e.countedFrees config = nonNull e.svmPointers := by
        simp [EnqueueCall.countedFrees, hnull, hfree]
      rw [hfrees, if_pos (by simp [hfree, h]), addPointerFrees_eq .event, change_change]
      simp
    · have hkeeps : ¬(decide (e.function = .clEnqueueSVMFree) && !e.hasCallback) = true := by
        simpa using hfree
      have hfrees : e.countedFrees config = 0 := by
        simp only [EnqueueCall.countedFrees, hnull, Bool.not_false, Bool.true_and]
        exact if_neg hkeeps
      have hkeeps' :
          ¬(decide (e.function = .clEnqueueSVMFree) && config.leakChecking && !e.hasCallback) = true := by
        rw [h, Bool.and_true]
        exact hkeeps
      rw [hfrees, if_neg hkeeps', Multiset.card_zero]

/-- One object is one, or `NULL`. -/
theorem card_nonNull_one (obj : Nat) : (nonNull [obj]).card = if obj = null then 0 else 1 := by
  by_cases hobj : obj = null
  · simp [nonNull, hobj]
  · simp [nonNull, hobj]

/-- The result of mapping memory stands for success exactly when it is not. -/
theorem EnqueueCall.result_eq (e : EnqueueCall) (hr : e.function.returnsPointer = true)
    (hpointer : e.errorCode = clSuccess ↔ e.pointer ≠ null) :
    e.result = clSuccess ↔ e.errorCode ≠ clSuccess := by
  have hresult : e.result = clSuccess ↔ e.pointer = null := by
    simp [result, hr, clSuccess, null]
  rw [hresult, ne_eq, hpointer, not_not]

/-- With `NoErrors` every call counts as a success. -/
theorem checkError_eq (errorCode : Int) :
    checkError config errorCode = clSuccess ↔ errorCode = clSuccess ∨ config.noErrors = true := by
  unfold checkError
  by_cases herr : errorCode = clSuccess
  · simp [herr]
  · cases hno : config.noErrors <;> simp [herr]

/-- An event that nobody asked for is not counted: it is the tool's own, and either released and
forgotten or `NULL`. -/
theorem counted_of_none (e : EnqueueCall) (hevent : e.event = none)
    (hpointer : e.function.returnsPointer = true → (e.errorCode = clSuccess ↔ e.pointer ≠ null)) :
    e.counted config = 0 := by
  unfold EnqueueCall.counted
  cases hafter : e.eventAfter config with
  | none => rfl
  | some event =>
    simp only [EnqueueCall.eventAfter, hevent, Option.isNone_none, Bool.and_true] at hafter
    cases htiming : e.timing config with
    | false => simp [htiming] at hafter
    | true =>
      by_cases herr : e.errorCode = clSuccess
      · -- the event is kept only if the result is a pointer
        cases hr : e.function.returnsPointer with
        | false => simp [htiming, EnqueueCall.result, hr, herr] at hafter
        | true =>
          have hresult : e.result ≠ clSuccess := by
            rw [ne_eq, e.result_eq hr (hpointer hr), not_not]
            exact herr
          simp [EnqueueCall.checked, hr, hresult]
      · -- the local event is as it was
        have hnull : event = null := by
          simp only [htiming, if_true, herr, if_false] at hafter
          split at hafter
          · cases hafter
          · exact (Option.some.inj hafter).symm
        simp [hnull, nonNull]

/-- The event counts as one that was given exactly under the condition. -/
theorem card_counted_iff (hnull : config.nullEnqueue = false) (e : EnqueueCall)
    (hl : leakLegal rootDevice config s (.enqueue e)) :
    (e.counted config).card = (e.given config).card ↔ e.EventRight config := by
  obtain ⟨hpointer, hasks, -⟩ := hl
  cases hevent : e.event with
  | none =>
    have hright : e.EventRight config := by
      intro old hold
      rw [hevent] at hold
      cases hold
    simp [counted_of_none e hevent hpointer, EnqueueCall.given, hevent, hright]
  | some old =>
    have hasked : e.function.returnsEvent = true := by
      by_contra hr
      rw [hasks (by simpa using hr)] at hevent
      cases hevent
    have hafter : e.eventAfter config =
        some (if e.errorCode = clSuccess then e.newEvent else old) := by
      by_cases herr : e.errorCode = clSuccess <;> simp [EnqueueCall.eventAfter, hevent, herr]
    simp only [EnqueueCall.counted, EnqueueCall.given, EnqueueCall.EventRight, hafter, hnull,
      hasked, hevent, Option.some.injEq, forall_eq', Option.isSome_some, Bool.not_false,
      Bool.true_and, Bool.and_true, decide_eq_true_eq]
    cases hr : e.function.returnsPointer with
    | true =>
      have hresult := e.result_eq hr (hpointer hr)
      by_cases herr : e.errorCode = clSuccess
      · simp [EnqueueCall.checked, hr, hresult, herr, card_nonNull_one, eq_comm]
      · simp [EnqueueCall.checked, hr, hresult, herr, card_nonNull_one]
    | false =>
      by_cases herr : e.errorCode = clSuccess
      · simp [EnqueueCall.checked, EnqueueCall.result, hr, checkError_eq, herr]
      · cases hno : config.noErrors <;>
          simp [EnqueueCall.checked, EnqueueCall.result, hr, checkError_eq, herr, hno,
            card_nonNull_one]

/-- The frees of an enqueue are counted right where the condition on them holds. -/
theorem card_countedFrees_iff (hnull : config.nullEnqueue = false) (e : EnqueueCall) :
    (e.countedFrees config).card = (e.freed config).card ↔ e.FreesRight := by
  unfold EnqueueCall.countedFrees EnqueueCall.freed EnqueueCall.FreesRight
  by_cases hfree : e.function = .clEnqueueSVMFree ∧ e.hasCallback = false
  · by_cases herr : e.errorCode = clSuccess
    · simp [hfree, hnull, herr]
    · simp [hfree, hnull, herr, nonNull]
  · have hnever : ∀ b : Bool,
        (b && decide (e.function = .clEnqueueSVMFree) && !e.hasCallback) = false := by
      intro b
      by_cases hfunction : e.function = .clEnqueueSVMFree
      · cases hcallback : e.hasCallback with
        | false => exact absurd ⟨hfunction, hcallback⟩ hfree
        | true => simp
      · simp [hfunction]
    simp only [hnever, Bool.false_eq_true, if_false, true_iff]
    intro hfunction hcallback
    exact absurd ⟨hfunction, hcallback⟩ hfree

/-! ## Every call -/

/-- The objects that a creation of several counts. -/
def CreateMany.counted (config : Config) (c : CreateMany) : Multiset Handle :=
  match c.array with
  | some array => if checkError config c.errorCode = clSuccess then nonNull (c.out array) else 0
  | none => 0

/-- What a creation of several objects counts. -/
theorem createMany_eq (h : config.leakChecking = true) (c : CreateMany) (T : CObjectTracker) :
    createMany config c T = T.change c.function.objectType (c.counted config).card 0 := by
  unfold createMany CreateMany.counted
  cases c.array with
  | none => exact (change_zero T _).symm
  | some array =>
    by_cases herr : checkError config c.errorCode = clSuccess
    · simp [h, herr, addAllocations_eq]
    · simp [herr, change_zero]

/-- An enqueue takes away the allocations that it frees. -/
theorem enqueue_balanced_iff (h : config.leakChecking = true) (e : EnqueueCall)
    (hb : Balanced s.tracker s.held s.heldPointers) (hl : leakLegal rootDevice config s (.enqueue e)) :
    Balanced (enqueueObjects config e s.tracker) (gain s.held .event (e.given config))
        (s.heldPointers - e.freed config) ↔
      CountedRight rootDevice config s (.enqueue e) := by
  rw [enqueueObjects_eq h, balanced_change_iff hb _ _ _ _ hl.2.2]
  unfold CountedRight
  cases hnull : config.nullEnqueue with
  | true =>
    have hcounted : e.counted config = 0 := by
      unfold EnqueueCall.counted
      split <;> simp [hnull]
    simp [hcounted, EnqueueCall.given, EnqueueCall.countedFrees, EnqueueCall.freed, hnull]
  | false =>
    rw [card_counted_iff hnull e hl, card_countedFrees_iff hnull e]
    simp

/-- Such a creation keeps the balance where it counts what it has given. -/
theorem createMany_balanced_iff (h : config.leakChecking = true) (c : CreateMany)
    (hb : Balanced s.tracker s.held s.heldPointers) :
    Balanced (createMany config c s.tracker) (gain s.held c.function.objectType c.given)
        s.heldPointers ↔
      CountedRight rootDevice config s (.createMany c) := by
  have hiff := balanced_change_iff hb c.function.objectType (c.counted config).card 0 c.given
    (Multiset.zero_le _)
  rw [Multiset.sub_zero] at hiff
  rw [createMany_eq h, hiff]
  unfold CountedRight CreateMany.given CreateMany.counted
  cases harray : c.array with
  | none => simp [harray]
  | some array =>
    by_cases herr : c.errorCode = clSuccess
    · simp [checkError_eq, herr, CreateMany.out]
    · cases hno : config.noErrors <;> simp [checkError_eq, herr, hno, harray, nonNull]

/-- A creation of one object always keeps the balance. -/
theorem create_balanced (function : CreateFunction) (retVal : Handle)
    (h : config.leakChecking = true) (hb : Balanced s.tracker s.held s.heldPointers) :
    Balanced (addObjectAllocation config function.objectType retVal s.tracker)
      (gain s.held function.objectType (nonNull [retVal])) s.heldPointers := by
  have hiff := balanced_change_iff hb function.objectType (nonNull [retVal]).card 0
    (nonNull [retVal]) (Multiset.zero_le _)
  rw [Multiset.sub_zero] at hiff
  rw [addObjectAllocation, if_pos h, addAllocation_eq]
  exact hiff.mpr ⟨rfl, rfl⟩

/-- A retain is always counted, and right if a reference is gained. -/
theorem retain_balanced_iff (t : ObjectType) {obj : Handle} (hobj : obj ≠ null)
    (h : config.leakChecking = true) (hb : Balanced s.tracker s.held s.heldPointers) :
    Balanced (addObjectRetain config t obj s.tracker)
        (if unreferenced rootDevice t obj then s.held else gain s.held t {obj}) s.heldPointers ↔
      unreferenced rootDevice t obj = false := by
  rw [addObjectRetain, if_pos h, addRetain, if_pos hobj]
  cases hroot : unreferenced rootDevice t obj with
  | true =>
    rw [if_pos rfl]
    refine iff_of_false (fun hafter => ?_) Bool.noConfusion
    have hbefore := hb.objects t
    have hcounts := hafter.objects t
    simp only [CObjectTracker.modify, if_true] at hcounts
    omega
  | false =>
    rw [if_neg Bool.false_ne_true]
    refine iff_of_true ⟨fun t' => ?_, hb.pointers⟩ rfl
    have hobjects := hb.objects t'
    by_cases ht : t' = t
    · subst ht
      simp only [CObjectTracker.modify, gain, if_true, Multiset.card_add, Multiset.card_singleton]
      omega
    · simpa only [CObjectTracker.modify, gain, if_neg ht] using hobjects

/-- A release is always counted, and right if a reference is given back. -/
theorem release_balanced_iff (t : ObjectType) {obj : Handle} (hobj : obj ≠ null)
    (hheld : unreferenced rootDevice t obj = true ∨ obj ∈ s.held t)
    (h : config.leakChecking = true) (hb : Balanced s.tracker s.held s.heldPointers) :
    Balanced (addObjectRelease config t obj s.tracker)
        (if unreferenced rootDevice t obj then s.held
          else fun t' => if t' = t then (s.held t').erase obj else s.held t') s.heldPointers ↔
      unreferenced rootDevice t obj = false := by
  rw [addObjectRelease, if_pos h, addRelease, if_pos hobj]
  cases hroot : unreferenced rootDevice t obj with
  | true =>
    rw [if_pos rfl]
    refine iff_of_false (fun hafter => ?_) Bool.noConfusion
    have hbefore := hb.objects t
    have hcounts := hafter.objects t
    simp only [CObjectTracker.modify, if_true] at hcounts
    omega
  | false =>
    rw [if_neg Bool.false_ne_true]
    refine iff_of_true ⟨fun t' => ?_, hb.pointers⟩ rfl
    have hobjects := hb.objects t'
    by_cases ht : t' = t
    · subst ht
      have hmem := hheld.resolve_left (ne_true_of_eq_false hroot)
      have hcard : (s.held t').card = ((s.held t').erase obj).card + 1 :=
        (Multiset.card_erase_add_one hmem).symm
      simp only [CObjectTracker.modify, if_true]
      omega
    · simpa only [CObjectTracker.modify, if_neg ht] using hobjects

/-- An allocation is counted once, like the pointer that it returns. -/
theorem allocatePointer_balanced (retVal : Nat) (h : config.leakChecking = true)
    (hb : Balanced s.tracker s.held s.heldPointers) :
    Balanced (if config.leakChecking then addPointerAllocation retVal s.tracker else s.tracker)
      s.held (s.heldPointers + nonNull [retVal]) := by
  have hpointers := hb.pointers
  rw [if_pos h, addPointerAllocation]
  by_cases hnull : retVal = null
  · simp [hnull, nonNull, hb]
  · rw [if_pos hnull]
    refine ⟨hb.objects, ?_⟩
    rw [Multiset.card_add, card_nonNull_one, if_neg hnull]
    show s.tracker.pointers.numAllocations + 1 = s.tracker.pointers.numFrees + _
    omega

/-- The free of a pointer that is allocated is counted once. -/
theorem freePointer_balanced (ptr : Nat) (h : config.leakChecking = true)
    (hb : Balanced s.tracker s.held s.heldPointers)
    (hl : leakLegal rootDevice config s (.freePointer ptr)) :
    Balanced (if config.leakChecking then addPointerFree ptr s.tracker else s.tracker) s.held
      (s.heldPointers - nonNull [ptr]) := by
  have hcard := Multiset.card_le_card hl
  have hsub := Multiset.card_sub hl
  have hpointers := hb.pointers
  rw [if_pos h, addPointerFree_eq .mem]
  refine ⟨fun t => ?_, ?_⟩
  · by_cases ht : t = .mem
    · simpa [CObjectTracker.change, CObjectTracker.modify, ht] using hb.objects .mem
    · simpa [CObjectTracker.change, CObjectTracker.modify, ht] using hb.objects t
  · rw [hsub]
    simp only [CObjectTracker.change, CObjectTracker.modify]
    omega

/-- One call keeps the balance exactly if it is counted right. -/
theorem leakStep_balanced_iff (h : config.leakChecking = true) (call : LeakCall)
    (hb : Balanced s.tracker s.held s.heldPointers) (hl : leakLegal rootDevice config s call) :
    Balanced (leakStep rootDevice config s call).tracker (leakStep rootDevice config s call).held
        (leakStep rootDevice config s call).heldPointers ↔
      CountedRight rootDevice config s call := by
  cases call with
  | create function retVal => exact iff_of_true (create_balanced function retVal h hb) trivial
  | createMany c => exact createMany_balanced_iff h c hb
  | enqueue e => exact enqueue_balanced_iff h e hb hl
  | retain t obj => exact retain_balanced_iff t hl h hb
  | release t obj => exact release_balanced_iff t hl.1 hl.2 h hb
  | allocatePointer retVal => exact iff_of_true (allocatePointer_balanced retVal h hb) trivial
  | freePointer ptr => exact iff_of_true (freePointer_balanced ptr h hb hl) trivial

end

/-! ## Every run -/

/-- **Leak checking is exact exactly as long as every call is counted right.** -/
theorem leaksExact_iff (rootDevice : Handle → Bool) (config : Config) (h : config.leakChecking = true)
    (calls : List LeakCall) (hl : (leakSystem rootDevice config).Legal {} calls) :
    (leakSystem rootDevice config).Always LeaksExact {} calls ↔
      (leakSystem rootDevice config).Each (CountedRight rootDevice config) {} calls := by
  refine System.always_iff_each (I := fun _ => True) (fun _ _ _ _ => trivial)
    (fun s call _ hexact hlegal => ?_) trivial ?_ hl
  · rw [leaksExact_iff_balanced] at hexact ⊢
    exact leakStep_balanced_iff h call hexact hlegal
  · rw [leaksExact_iff_balanced]
    exact ⟨fun t => rfl, rfl⟩

/-- A kernel launch that is timed and gives its event to the application. -/
def timedLaunch : EnqueueCall where
  function := .clEnqueueNDRangeKernel
  event := some null
  timed := true
  errorCode := clSuccess
  newEvent := 8

/-- The launch, and a retain and the two releases of its event. -/
def launchCalls : List LeakCall :=
  [.enqueue timedLaunch, .retain .event 8, .release .event 8, .release .event 8]

theorem legal_launchCalls (rootDevice : Handle → Bool) :
    (leakSystem rootDevice { leakChecking := true, devicePerformanceTiming := true }).Legal {}
      launchCalls := by
  refine ⟨⟨fun h => ?_, fun h => ?_, Multiset.zero_le _⟩, ?_, ⟨?_, .inr ?_⟩, ⟨?_, .inr ?_⟩, trivial⟩
  · exact absurd h (by decide)
  · exact absurd h (by decide)
  · exact Nat.succ_ne_zero 7
  · exact Nat.succ_ne_zero 7
  · show 8 ∈ (0 + nonNull [8] + {8})
    decide
  · exact Nat.succ_ne_zero 7
  · show 8 ∈ (0 + nonNull [8] + {8}).erase 8
    decide

/-- Each of the calls is counted right, and the counts are exact behind each. -/
theorem leaksExact_launch :
    (leakSystem (fun device => device == 4)
      { leakChecking := true, devicePerformanceTiming := true }).Always LeaksExact {} launchCalls := by
  refine (leaksExact_iff _ _ rfl _ (legal_launchCalls _)).mpr ⟨.inr ⟨?_, ?_⟩, ?_, ?_, ?_, trivial⟩
  · intro old hold
    exact .inl rfl
  · intro hfunction
    exact absurd hfunction (by decide)
  all_goals rfl

/-- A buffer is mapped, and the application asks for the event. -/
def mapBuffer : EnqueueCall where
  function := .clEnqueueMapBuffer
  event := some null
  errorCode := clSuccess
  pointer := 4096
  newEvent := 8

/-- The event is not counted, and the release of a root device is. -/
theorem mapBuffer_not_counted :
    (¬∀ (config : Config), config.leakChecking = true → ∀ calls : List LeakCall,
      (leakSystem (fun _ => false) config).Legal {} calls →
        (leakSystem (fun _ => false) config).Always LeaksExact {} calls) ∧
    (leakSystem (fun device => device == 4) { leakChecking := true }).Legal {}
      [.release .device 4] ∧
    ¬(leakSystem (fun device => device == 4) { leakChecking := true }).Always LeaksExact {}
      [.release .device 4] := by
  refine ⟨fun hclaim => ?_, ⟨⟨by decide, .inl rfl⟩, trivial⟩, fun hexact => ?_⟩
  · have hlegal : (leakSystem (fun _ => false) { leakChecking := true }).Legal {}
        [.enqueue mapBuffer] :=
      ⟨⟨fun _ => by decide, fun h => absurd h (by decide), Multiset.zero_le _⟩, trivial⟩
    have hexact := (hclaim { leakChecking := true } rfl _ hlegal).last
    exact absurd (hexact.objects .event) (by decide)
  · exact absurd (hexact.last.objects .device) (by decide)

end CLIntercept.Leak
