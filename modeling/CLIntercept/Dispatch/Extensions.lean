import CLIntercept.Api
import CLIntercept.Config
import CLIntercept.Lib.OrdMap
import CLIntercept.Lib.Overlay
import CLIntercept.Lib.Run

/-!
# Functions of extensions

An application gets the functions of an extension by name, of a platform or of none, and gets those
of the layer. What such a wrapper calls is in a table of the platform that its object is of. There is
one table for no platform, which serves every platform that has none; a platform has one from the
first look up that came upon nothing. Nothing of the table for no platform is in it: a wrapper that
worked may have nothing to call any more (`wrapper_lost_iff`).

`reached_run` says what a wrapper calls behind any history of look ups, the layer's own included.
-/

set_option autoImplicit false

namespace CLIntercept.Dispatch

open CLIntercept.Lib

structure DispatchConfig extends Config where
  betaExtensionIntercepting : Bool := true
  emulateSemaphore : Bool := false
  deriving DecidableEq, Repr

/-! ## The functions that are known -/

/-- Which of the three macros looks a function up. -/
inductive Route where
  | icdLoader
  | extension
  | emulated
  deriving DecidableEq, Repr

def glSharing : List String :=
  ["clGetGLContextInfoKHR", "clCreateFromGLBuffer", "clCreateFromGLTexture",
   "clCreateFromGLTexture2D", "clCreateFromGLTexture3D", "clCreateFromGLRenderbuffer",
   "clGetGLObjectInfo", "clGetGLTextureInfo", "clEnqueueAcquireGLObjects",
   "clEnqueueReleaseGLObjects"]

def directX : List String :=
  ["clGetDeviceIDsFromD3D10KHR", "clCreateFromD3D10BufferKHR", "clCreateFromD3D10Texture2DKHR",
   "clCreateFromD3D10Texture3DKHR", "clEnqueueAcquireD3D10ObjectsKHR",
   "clEnqueueReleaseD3D10ObjectsKHR", "clGetDeviceIDsFromD3D11KHR", "clCreateFromD3D11BufferKHR",
   "clCreateFromD3D11Texture2DKHR", "clCreateFromD3D11Texture3DKHR",
   "clEnqueueAcquireD3D11ObjectsKHR", "clEnqueueReleaseD3D11ObjectsKHR",
   "clGetDeviceIDsFromDX9MediaAdapterKHR", "clCreateFromDX9MediaSurfaceKHR",
   "clEnqueueAcquireDX9MediaSurfacesKHR", "clEnqueueReleaseDX9MediaSurfacesKHR"]

def commandBuffers : List String :=
  ["clCreateCommandBufferKHR", "clFinalizeCommandBufferKHR", "clRetainCommandBufferKHR",
   "clReleaseCommandBufferKHR", "clEnqueueCommandBufferKHR", "clCommandBarrierWithWaitListKHR",
   "clCommandCopyBufferKHR", "clCommandCopyBufferRectKHR", "clCommandCopyBufferToImageKHR",
   "clCommandCopyImageKHR", "clCommandCopyImageToBufferKHR", "clCommandFillBufferKHR",
   "clCommandFillImageKHR", "clCommandSVMMemcpyKHR", "clCommandSVMMemFillKHR",
   "clCommandNDRangeKernelKHR", "clGetCommandBufferInfoKHR", "clRemapCommandBufferKHR",
   "clUpdateMutableCommandsKHR", "clGetMutableCommandInfoKHR"]

def khr : List String :=
  ["clCreateCommandQueueWithPropertiesKHR", "clEnqueueAcquireExternalMemObjectsKHR",
   "clEnqueueReleaseExternalMemObjectsKHR", "clGetSemaphoreHandleForTypeKHR",
   "clCreateEventFromGLsyncKHR", "clCreateProgramWithILKHR"]

def semaphores : List String :=
  ["clCreateSemaphoreWithPropertiesKHR", "clEnqueueWaitSemaphoresKHR",
   "clEnqueueSignalSemaphoresKHR", "clGetSemaphoreInfoKHR", "clRetainSemaphoreKHR",
   "clReleaseSemaphoreKHR"]

def kernels : List String :=
  ["clGetKernelSubGroupInfoKHR", "clGetKernelSuggestedLocalWorkSizeKHR"]

def unifiedSvm : List String :=
  ["clSVMAllocWithPropertiesKHR", "clSVMFreeWithPropertiesKHR", "clGetSVMPointerInfoKHR",
   "clGetSVMSuggestedTypeIndexKHR"]

def intel : List String :=
  ["clSetKernelArgDevicePointerEXT", "clGetImageRequirementsInfoEXT", "clSetPerfHintQCOM",
   "clCreatePerfCountersCommandQueueINTEL", "clSetPerformanceConfigurationINTEL",
   "clGetKernelSuggestedLocalWorkSizeINTEL", "clCreateAcceleratorINTEL",
   "clGetAcceleratorInfoINTEL", "clRetainAcceleratorINTEL", "clReleaseAcceleratorINTEL",
   "clCreateBufferWithPropertiesINTEL"]

def directX9Intel : List String :=
  ["clGetDeviceIDsFromDX9INTEL", "clCreateFromDX9MediaSurfaceINTEL",
   "clEnqueueAcquireDX9ObjectsINTEL", "clEnqueueReleaseDX9ObjectsINTEL"]

def formats : List String :=
  ["clGetSupportedGLTextureFormatsINTEL", "clGetSupportedDX9MediaSurfaceFormatsINTEL",
   "clGetSupportedD3D10TextureFormatsINTEL", "clGetSupportedD3D11TextureFormatsINTEL",
   "clGetSupportedVA_APIMediaSurfaceFormatsINTEL"]

def usm : List String :=
  ["clHostMemAllocINTEL", "clDeviceMemAllocINTEL", "clSharedMemAllocINTEL", "clMemFreeINTEL",
   "clMemBlockingFreeINTEL", "clGetMemAllocInfoINTEL", "clSetKernelArgMemPointerINTEL",
   "clEnqueueMemsetINTEL", "clEnqueueMemFillINTEL", "clEnqueueMemcpyINTEL",
   "clEnqueueMigrateMemINTEL", "clEnqueueMemAdviseINTEL"]

def vaApi : List String :=
  ["clGetDeviceIDsFromVA_APIMediaAdapterINTEL", "clCreateFromVA_APIMediaSurfaceINTEL",
   "clEnqueueAcquireVA_APIMediaSurfacesINTEL", "clEnqueueReleaseVA_APIMediaSurfacesINTEL",
   "clCreateBufferNV"]

/-- The look ups in their order. -/
def known (config : DispatchConfig) : List (String × Route) :=
  glSharing.map (·, .icdLoader) ++
  (if config.windows then directX.map (·, .extension) else []) ++
  (if config.betaExtensionIntercepting then commandBuffers.map (·, .extension) else []) ++
  khr.map (·, .extension) ++
  semaphores.map (·, if config.emulateSemaphore then .emulated else .extension) ++
  kernels.map (·, .extension) ++
  (if config.betaExtensionIntercepting then unifiedSvm.map (·, .extension) else []) ++
  intel.map (·, .extension) ++
  (if config.windows then directX9Intel.map (·, .extension) else []) ++
  formats.map (·, .extension) ++
  usm.map (·, if config.emulateUnifiedSharedMemory then .emulated else .extension) ++
  vaApi.map (·, .extension)

def names : List String :=
  glSharing ++ directX ++ commandBuffers ++ khr ++ semaphores ++ kernels ++ unifiedSvm ++ intel ++
    directX9Intel ++ formats ++ usm ++ vaApi

theorem nodup_names : names.Nodup := by decide

/-! ## The code -/

/-- What is looked up behind the layer: the two functions of the library, if it has them, and the
addresses of the layer's own emulations. -/
structure Driver where
  clGetExtensionFunctionAddress : Option (String → Handle)
  clGetExtensionFunctionAddressForPlatform : Option (Handle → String → Handle)
  emu : String → Handle

def Driver.lookup (driver : Driver) (platform : Handle) (funcName : String) : Handle :=
  match driver.clGetExtensionFunctionAddressForPlatform, driver.clGetExtensionFunctionAddress with
  | some forPlatform, address =>
    if platform ≠ null then forPlatform platform funcName
    else (address.map (· funcName)).getD null
  | none, address => (address.map (· funcName)).getD null

/-- The members of `cl_icd_dispatch` and of `CLdispatchX`, by name. -/
abbrev CLdispatchX := String → Handle

/-- `{0}`. -/
def CLdispatchX.zero : CLdispatchX := fun _ => null

/-- `m_Dispatch` and `m_DispatchX`. -/
structure DispatchState where
  dispatch : CLdispatchX
  dispatchX : OrdMap Handle CLdispatchX
  isSome_null : (dispatchX.get? null).isSome

/-- The constructor, and what `initDispatch` found exported. -/
def DispatchState.init (exported : CLdispatchX) : DispatchState where
  dispatch := exported
  dispatchX := OrdMap.empty.insert null .zero
  isSome_null := by rw [OrdMap.get?_insert, if_pos rfl]; rfl

/-- `dispatchX`: `at( NULL )` does not throw. -/
def DispatchState.tableOf (s : DispatchState) (platform : Handle) : CLdispatchX :=
  match s.dispatchX.get? platform with
  | some table => table
  | none => (s.dispatchX.get? null).get s.isSome_null

/-- `m_DispatchX[platform] . funcname = func`. -/
def DispatchState.install (s : DispatchState) (platform : Handle) (funcName : String)
    (func : Handle) : DispatchState where
  dispatch := s.dispatch
  dispatchX := s.dispatchX.insert platform
    (Function.update ((s.dispatchX.get? platform).getD .zero) funcName func)
  isSome_null := by
    rw [OrdMap.get?_insert]
    split
    · rfl
    · exact s.isSome_null

/-- `CHECK_RETURN_ICD_LOADER_EXTENSION_FUNCTION`. -/
def checkIcdLoader (driver : Driver) (platform : Handle) (funcName : String) (s : DispatchState) :
    DispatchState × Option String :=
  let s := if s.dispatch funcName = null then
      { s with dispatch := Function.update s.dispatch funcName (driver.lookup platform funcName) }
    else s
  (s, if s.dispatch funcName ≠ null then some funcName else none)

/-- `CHECK_RETURN_EXTENSION_FUNCTION`, and with `_EMU`, which differ in the function that is put into
the table. -/
def checkExtension (func : Handle) (platform : Handle) (funcName : String) (s : DispatchState) :
    DispatchState × Option String :=
  let s := if s.tableOf platform funcName = null then s.install platform funcName func
    else s
  (s, if s.tableOf platform funcName ≠ null then some funcName else none)

def check (driver : Driver) (route : Route) (platform : Handle) (funcName : String) :
    DispatchState → DispatchState × Option String :=
  match route with
  | .icdLoader => checkIcdLoader driver platform funcName
  | .extension => checkExtension (driver.lookup platform funcName) platform funcName
  | .emulated => checkExtension (driver.emu funcName) platform funcName

/-- One check after the other, until one returns. What is returned is the layer's function of the
name. -/
def checkAll (driver : Driver) (platform : Handle) (funcName : String) :
    List (String × Route) → DispatchState → DispatchState × Option String
  | [], s => (s, none)
  | (name, route) :: rest, s =>
    if funcName = name then
      match check driver route platform funcName s with
      | (s, some wrapper) => (s, some wrapper)
      | (s, none) => checkAll driver platform funcName rest s
    else checkAll driver platform funcName rest s

section

variable (config : DispatchConfig) (driver : Driver)

def getExtensionFunctionAddress (platform : Handle) (funcName : String) (s : DispatchState) :
    DispatchState × Option String :=
  checkAll driver platform funcName (known config) s

/-- What an application gets. -/
inductive Address where
  | null
  | wrapper (funcName : String)
  | driver (func : Handle)
  deriving DecidableEq, Repr

/-- The layer's function, or what the driver says. -/
def addressOf (func : Handle) (result : DispatchState × Option String) : DispatchState × Address :=
  (result.1, match result.2 with
    | some wrapper => .wrapper wrapper
    | none => .driver func)

def clGetExtensionFunctionAddress (funcName : Option String) (s : DispatchState) :
    DispatchState × Address :=
  match driver.clGetExtensionFunctionAddress, funcName with
  | some address, some funcName =>
    addressOf (address funcName) (getExtensionFunctionAddress config driver null funcName s)
  | _, _ => (s, .null)

def clGetExtensionFunctionAddressForPlatform (platform : Handle) (funcName : Option String)
    (s : DispatchState) : DispatchState × Address :=
  match driver.clGetExtensionFunctionAddressForPlatform, funcName with
  | some forPlatform, some funcName =>
    addressOf (forPlatform platform funcName)
      (getExtensionFunctionAddress config driver platform funcName s)
  | _, _ => (s, .null)

/-- What the layer does before it calls a function of an extension itself. -/
def lookUpForItself (platform : Handle) (funcName : String) (s : DispatchState) : DispatchState :=
  if s.tableOf platform funcName = null then
    (getExtensionFunctionAddress config driver platform funcName s).1
  else s

inductive Action where
  | clGetExtensionFunctionAddress (funcName : Option String)
  | clGetExtensionFunctionAddressForPlatform (platform : Handle) (funcName : Option String)
  | lookUpForItself (platform : Handle) (funcName : String)
  deriving DecidableEq, Repr

def step (s : DispatchState) : Action → DispatchState
  | .clGetExtensionFunctionAddress funcName =>
    (clGetExtensionFunctionAddress config driver funcName s).1
  | .clGetExtensionFunctionAddressForPlatform platform funcName =>
    (clGetExtensionFunctionAddressForPlatform config driver platform funcName s).1
  | .lookUpForItself platform funcName => lookUpForItself config driver platform funcName s

def system : System DispatchState Action where
  step := step config driver
  legal _ _ := True

/-- What the layer's function calls for an object of the platform; nothing, if it is null. -/
def reached (s : DispatchState) (platform : Handle) (funcName : String) : Handle :=
  match (known config).lookup funcName with
  | some .icdLoader => s.dispatch funcName
  | some _ => s.tableOf platform funcName
  | none => null

end

/-! ## One look up -/

section

variable (config : DispatchConfig) (driver : Driver)

/-- No function is looked up twice. -/
theorem nodup_known : ((known config).map Prod.fst).Nodup := by
  have hall : ∀ (xs : List String) (route : Route),
      ((xs.map (·, route)).map Prod.fst).Sublist xs := by
    intro xs route
    have hid : (xs.map (·, route)).map Prod.fst = xs := by
      rw [List.map_map]
      exact List.map_id xs
    exact hid.symm ▸ List.Sublist.refl xs
  have hif : ∀ (b : Bool) (xs : List String) (route : Route),
      ((if b then xs.map (·, route) else []).map Prod.fst).Sublist xs := by
    intro b xs route
    cases b with
    | true => exact hall xs route
    | false => exact List.nil_sublist xs
  apply List.Nodup.sublist _ nodup_names
  unfold known names
  simp only [List.map_append]
  refine .append (.append (.append (.append (.append (.append (.append (.append (.append (.append
    (.append ?_ ?_) ?_) ?_) ?_) ?_) ?_) ?_) ?_) ?_) ?_) ?_
  all_goals first | exact hall _ _ | exact hif _ _ _

/-- Only the check of its own name sees a name. -/
theorem checkAll_eq {checks : List (String × Route)} (hnodup : (checks.map Prod.fst).Nodup)
    (platform : Handle) (funcName : String) (s : DispatchState) :
    checkAll driver platform funcName checks s =
      match checks.lookup funcName with
      | some route => check driver route platform funcName s
      | none => (s, none) := by
  induction checks generalizing s with
  | nil => rfl
  | cons entry rest ih =>
    obtain ⟨name, route⟩ := entry
    obtain ⟨hnot, hrest⟩ := List.nodup_cons.mp hnodup
    rw [checkAll, List.lookup_cons]
    by_cases hname : funcName = name
    · subst hname
      have hnone : rest.lookup funcName = none := by
        rw [List.lookup_eq_none_iff]
        intro entry hmem
        exact bne_iff_ne.mpr fun h => hnot (List.mem_map.mpr ⟨entry, hmem, h.symm⟩)
      rw [if_pos rfl, beq_self_eq_true]
      dsimp only
      generalize check driver route platform funcName s = result
      obtain ⟨s', wrapper⟩ := result
      cases wrapper with
      | some wrapper => rfl
      | none =>
        dsimp only
        rw [ih hrest, hnone]
    · rw [if_neg hname, beq_false_of_ne hname, ih hrest]

/-- The long list of comparisons is a look-up by name. -/
theorem getExtensionFunctionAddress_eq (platform : Handle) (funcName : String)
    (s : DispatchState) :
    getExtensionFunctionAddress config driver platform funcName s =
      match (known config).lookup funcName with
      | some route => check driver route platform funcName s
      | none => (s, none) :=
  checkAll_eq driver (nodup_known config) platform funcName s

/-- The layer's function is handed out where there is something that it can call. -/
theorem getExtensionFunctionAddress_snd (platform : Handle) (funcName : String)
    (s : DispatchState) :
    (getExtensionFunctionAddress config driver platform funcName s).2 =
      if reached config (getExtensionFunctionAddress config driver platform funcName s).1 platform
        funcName ≠ null then some funcName else none := by
  rw [getExtensionFunctionAddress_eq, reached]
  cases (known config).lookup funcName with
  | none => rfl
  | some route =>
    cases route with
    | icdLoader => rfl
    | extension => rfl
    | emulated => rfl

end

/-! ## The tables, and the questions -/

/-- An address that can be called. -/
def callable (func : Handle) : Option Handle := if func = null then none else some func

/-- Whose table is asked. -/
def owner (platform : Handle) : Option Handle := if platform = null then none else some platform

theorem callable_eq_none {func : Handle} : callable func = none ↔ func = null := by
  unfold callable
  split
  · next h => exact iff_of_true rfl h
  · next h => exact iff_of_false (by simp) h

theorem tableOf_of_some {s : DispatchState} {platform : Handle} {table : CLdispatchX}
    (h : s.dispatchX.get? platform = some table) : s.tableOf platform = table := by
  unfold DispatchState.tableOf
  split
  · next table' h' => exact Option.some.inj (h'.symm.trans h)
  · next h' => exact absurd (h'.symm.trans h) (by simp)

/-- A platform without a table has that of no platform. -/
theorem tableOf_of_none {s : DispatchState} {platform : Handle}
    (h : s.dispatchX.get? platform = none) : s.tableOf platform = s.tableOf null := by
  obtain ⟨table, hnull⟩ := Option.isSome_iff_exists.mp s.isSome_null
  rw [tableOf_of_some hnull]
  unfold DispatchState.tableOf
  split
  · next table' h' => exact absurd (h'.symm.trans h) (by simp)
  · simp only [hnull, Option.get_some]

/-- A function is installed in the table of its platform, which is made if it is not there. -/
theorem get?_install (s : DispatchState) (platform platform' : Handle) (funcName : String)
    (func : Handle) :
    (s.install platform funcName func).dispatchX.get? platform' =
      if platform' = platform then
        some (Function.update ((s.dispatchX.get? platform).getD .zero) funcName func)
      else s.dispatchX.get? platform' :=
  OrdMap.get?_insert _ _ _ _

/-- The tables as they are asked. -/
def tables (s : DispatchState) : Overlay Handle String Handle where
  common := callable ∘ s.tableOf null
  own platform :=
    if platform = null then none else (s.dispatchX.get? platform).map (callable ∘ ·)

/-- The table of a platform, as the overlay sees it. -/
theorem table_tables (s : DispatchState) (platform : Handle) :
    (tables s).table (owner platform) = callable ∘ s.tableOf platform := by
  unfold owner
  by_cases hnull : platform = null
  · rw [if_pos hnull, hnull]
    rfl
  · rw [if_neg hnull]
    unfold Overlay.table tables
    dsimp only
    rw [if_neg hnull]
    cases hget : s.dispatchX.get? platform with
    | some table => rw [tableOf_of_some hget]; rfl
    | none => rw [tableOf_of_none hget]; rfl

/-- What is put into `m_DispatchX` is put into the table of the platform. -/
theorem tables_install (s : DispatchState) (platform : Handle) (funcName : String) (func : Handle) :
    tables (s.install platform funcName func) =
      (tables s).put (owner platform) funcName (callable func) := by
  unfold owner
  by_cases hnull : platform = null
  · obtain ⟨table, hget⟩ := Option.isSome_iff_exists.mp s.isSome_null
    have hnew : (s.install null funcName func).tableOf null = Function.update table funcName func := by
      apply tableOf_of_some
      rw [get?_install, if_pos rfl, hget, Option.getD_some]
    rw [if_pos hnull, hnull]
    unfold tables Overlay.put
    dsimp only
    rw [hnew, tableOf_of_some hget, Function.comp_update, Overlay.mk.injEq]
    refine ⟨rfl, funext fun platform' => ?_⟩
    by_cases hplatform : platform' = null
    · rw [if_pos hplatform, if_pos hplatform]
    · rw [if_neg hplatform, if_neg hplatform, get?_install, if_neg hplatform]
  · have hold : (s.install platform funcName func).tableOf null = s.tableOf null := by
      obtain ⟨table, hget⟩ := Option.isSome_iff_exists.mp s.isSome_null
      rw [tableOf_of_some hget]
      apply tableOf_of_some
      rw [get?_install, if_neg (Ne.symm hnull), hget]
    rw [if_neg hnull]
    unfold tables Overlay.put
    dsimp only
    rw [hold, if_neg hnull, Overlay.mk.injEq]
    refine ⟨rfl, funext fun platform' => ?_⟩
    by_cases hplatform : platform' = platform
    · subst hplatform
      rw [Function.update_self, if_neg hnull, get?_install, if_pos rfl, Option.map_some,
        Function.comp_update]
      cases s.dispatchX.get? platform' with
      | some table => rfl
      | none => rfl
    · rw [Function.update_of_ne hplatform, get?_install, if_neg hplatform]

/-- A check asks the table of the platform, and outside what the macro says. -/
theorem tables_checkExtension (answer : Option Handle → String → Option Handle) {func : Handle}
    {platform : Handle} {funcName : String} (h : answer (owner platform) funcName = callable func)
    (s : DispatchState) :
    tables (checkExtension func platform funcName s).1 =
      Overlay.ask answer (tables s) (owner platform, funcName) := by
  have hasked : (tables s).table (owner platform) funcName =
      callable (s.tableOf platform funcName) := congrFun (table_tables s platform) funcName
  unfold checkExtension Overlay.ask
  dsimp only
  rw [h, hasked]
  by_cases hnull : s.tableOf platform funcName = null
  · rw [if_pos hnull, callable_eq_none.mpr hnull, tables_install]
    rfl
  · have hsome : (callable (s.tableOf platform funcName)).isSome = true :=
      Option.isSome_iff_ne_none.mpr fun h => hnull (callable_eq_none.mp h)
    rw [if_neg hnull, if_pos hsome]

/-! ## A history of look ups -/

section

variable (config : DispatchConfig) (driver : Driver)

/-- What is found outside. -/
def answers (owner : Option Handle) (funcName : String) : Option Handle :=
  match (known config).lookup funcName with
  | some .extension => callable (driver.lookup (owner.getD null) funcName)
  | some .emulated => callable (driver.emu funcName)
  | some .icdLoader | none => none

/-- What an action looks up, and of which platform. -/
def lookUp : Action → Option (Handle × String)
  | .clGetExtensionFunctionAddress funcName =>
    if driver.clGetExtensionFunctionAddress.isSome then funcName.map (null, ·) else none
  | .clGetExtensionFunctionAddressForPlatform platform funcName =>
    if driver.clGetExtensionFunctionAddressForPlatform.isSome then funcName.map (platform, ·) else none
  | .lookUpForItself platform funcName => some (platform, funcName)

def lookUps (as : List Action) : List (Handle × String) := as.filterMap (lookUp driver)

/-- The look ups that go to `m_DispatchX`. -/
def question (found : Handle × String) : Option (Option Handle × String) :=
  match (known config).lookup found.2 with
  | some .extension | some .emulated => some (owner found.1, found.2)
  | some .icdLoader | none => none

def questions (as : List Action) : List (Option Handle × String) :=
  (lookUps driver as).filterMap (question config)

theorem getD_owner (platform : Handle) : (owner platform).getD null = platform := by
  unfold owner
  split
  · next h => exact h.symm
  · rfl

/-- **A look-up asks the driver at most once, and keeps what it answers.** -/
theorem tables_getExtensionFunctionAddress (platform : Handle) (funcName : String)
    (s : DispatchState) :
    tables (getExtensionFunctionAddress config driver platform funcName s).1 =
      ((question config (platform, funcName)).toList).foldl (Overlay.ask (answers config driver))
        (tables s) := by
  rw [getExtensionFunctionAddress_eq, question]
  cases hroute : (known config).lookup funcName with
  | none => rfl
  | some route =>
    cases route with
    | icdLoader =>
      dsimp only [check, checkIcdLoader]
      split <;> rfl
    | extension =>
      apply tables_checkExtension
      simp only [answers, hroute, getD_owner]
    | emulated =>
      apply tables_checkExtension
      simp only [answers, hroute]

/-- **A step** looks one function up or none; for itself, the layer looks only if the table of the
platform does not have it. -/
theorem step_cases (s : DispatchState) (a : Action) :
    lookUp driver a = none ∧ step config driver s a = s ∨
      ∃ platform funcName, lookUp driver a = some (platform, funcName) ∧
        (step config driver s a = (getExtensionFunctionAddress config driver platform funcName s).1 ∨
          s.tableOf platform funcName ≠ null ∧ step config driver s a = s) := by
  cases a with
  | clGetExtensionFunctionAddress funcName =>
    unfold step clGetExtensionFunctionAddress lookUp
    cases driver.clGetExtensionFunctionAddress with
    | none => exact Or.inl ⟨rfl, rfl⟩
    | some address =>
      cases funcName with
      | none => exact Or.inl ⟨rfl, rfl⟩
      | some funcName => exact Or.inr ⟨null, funcName, rfl, Or.inl rfl⟩
  | clGetExtensionFunctionAddressForPlatform platform funcName =>
    unfold step clGetExtensionFunctionAddressForPlatform lookUp
    cases driver.clGetExtensionFunctionAddressForPlatform with
    | none => exact Or.inl ⟨rfl, rfl⟩
    | some forPlatform =>
      cases funcName with
      | none => exact Or.inl ⟨rfl, rfl⟩
      | some funcName => exact Or.inr ⟨platform, funcName, rfl, Or.inl rfl⟩
  | lookUpForItself platform funcName =>
    refine Or.inr ⟨platform, funcName, rfl, ?_⟩
    by_cases hfound : s.tableOf platform funcName = null
    · exact Or.inl (if_pos hfound)
    · exact Or.inr ⟨hfound, if_neg hfound⟩

/-- The questions of one action. -/
theorem questions_singleton (a : Action) :
    questions config driver [a] = ((lookUp driver a).bind (question config)).toList := by
  unfold questions lookUps
  rw [List.filterMap_cons, List.filterMap_nil]
  cases lookUp driver a with
  | none => rfl
  | some found =>
    dsimp only [Option.bind_some]
    rw [List.filterMap_cons, List.filterMap_nil]
    cases question config found <;> rfl

/-- **A step** asks the tables at most one question. -/
theorem tables_step (s : DispatchState) (a : Action) :
    tables (step config driver s a) =
      (questions config driver [a]).foldl (Overlay.ask (answers config driver)) (tables s) := by
  rw [questions_singleton]
  rcases step_cases config driver s a with ⟨hnone, hsame⟩ | ⟨platform, funcName, hsome, hstep⟩
  · rw [hnone, hsame]
    rfl
  · rw [hsome, Option.bind_some]
    rcases hstep with hstep | ⟨hfound, hsame⟩
    · rw [hstep]
      exact tables_getExtensionFunctionAddress config driver platform funcName s
    · -- The table has it, and the question is answered from there.
      have hasked : ((tables s).table (owner platform) funcName).isSome = true := by
        rw [table_tables, Option.isSome_iff_ne_none]
        exact fun h => hfound (callable_eq_none.mp h)
      rw [hsame]
      unfold question
      split
      · exact (if_pos hasked).symm
      · exact (if_pos hasked).symm
      · rfl
      · rfl

/-- Before any look-up all tables are empty. -/
theorem tables_init (exported : CLdispatchX) : tables (DispatchState.init exported) = .empty := by
  have hnull : (DispatchState.init exported).tableOf null = .zero :=
    tableOf_of_some (by rw [DispatchState.init, OrdMap.get?_insert, if_pos rfl])
  unfold tables Overlay.empty
  rw [hnull, Overlay.mk.injEq]
  refine ⟨rfl, funext fun platform => ?_⟩
  by_cases hplatform : platform = null
  · rw [if_pos hplatform]
  · rw [if_neg hplatform, DispatchState.init, OrdMap.get?_insert, if_neg hplatform]
    rfl

/-- The questions of two histories, one behind the other. -/
theorem questions_append (as bs : List Action) :
    questions config driver (as ++ bs) = questions config driver as ++ questions config driver bs := by
  unfold questions lookUps
  rw [List.filterMap_append, List.filterMap_append]

/-- **A run** asks the tables the questions of its actions. -/
theorem tables_exec (exported : CLdispatchX) (as : List Action) :
    tables ((system config driver).exec (.init exported) as) =
      (questions config driver as).foldl (Overlay.ask (answers config driver)) .empty := by
  induction as using List.reverseRecOn with
  | nil => exact tables_init exported
  | append_singleton as a ih =>
    rw [System.exec_append, questions_append, List.foldl_append, ← ih]
    exact tables_step config driver _ a

/-- The functions that the ICD loader has keep what was found first. -/
theorem dispatch_getExtensionFunctionAddress {funcName : String}
    (hroute : (known config).lookup funcName = some .icdLoader) (platform : Handle) (name : String)
    (s : DispatchState) :
    callable ((getExtensionFunctionAddress config driver platform name s).1.dispatch funcName) =
      (callable (s.dispatch funcName)).or
        (if name = funcName then callable (driver.lookup platform funcName) else none) := by
  have hextension : ∀ func, (checkExtension func platform name s).1.dispatch = s.dispatch := by
    intro func
    unfold checkExtension
    dsimp only
    split <;> rfl
  rw [getExtensionFunctionAddress_eq]
  by_cases hname : name = funcName
  · subst hname
    rw [hroute, if_pos rfl]
    dsimp only [check, checkIcdLoader]
    by_cases hnull : s.dispatch name = null
    · rw [if_pos hnull, callable_eq_none.mpr hnull, Option.none_or]
      exact congrArg callable (Function.update_self _ _ _)
    · rw [if_neg hnull]
      obtain ⟨func, hfunc⟩ := Option.ne_none_iff_exists'.mp fun h => hnull (callable_eq_none.mp h)
      rw [hfunc, Option.some_or]
  · rw [if_neg hname, Option.or_none]
    cases (known config).lookup name with
    | none => rfl
    | some route =>
      cases route with
      | icdLoader =>
        dsimp only [check, checkIcdLoader]
        split
        · exact congrArg callable (Function.update_of_ne (Ne.symm hname) _ _)
        · rfl
      | extension => exact congrArg (fun table => callable (table funcName)) (hextension _)
      | emulated => exact congrArg (fun table => callable (table funcName)) (hextension _)

/-- What an action finds of a function that the ICD loader has. -/
def found (funcName : String) (q : Handle × String) : Option Handle :=
  if q.2 = funcName then callable (driver.lookup q.1 funcName) else none

/-- A function of the loader is the exported one, or the first that was looked up. -/
theorem dispatch_exec {funcName : String}
    (hroute : (known config).lookup funcName = some .icdLoader) (exported : CLdispatchX)
    (as : List Action) :
    callable (((system config driver).exec (.init exported) as).dispatch funcName) =
      (callable (exported funcName)).or ((lookUps driver as).findSome? (found driver funcName)) := by
  induction as using List.reverseRecOn with
  | nil => exact (Option.or_none).symm
  | append_singleton as a ih =>
    have htables := tables_exec config driver exported as
    have hone : ([a].filterMap (lookUp driver)).findSome? (found driver funcName) =
        (lookUp driver a).bind (found driver funcName) := by
      cases hlook : lookUp driver a with
      | none => simp [hlook]
      | some q => simp [hlook]
    rw [System.exec_append, lookUps, List.filterMap_append, List.findSome?_append, hone,
      ← Option.or_assoc, ← lookUps, ← ih]
    generalize (system config driver).exec (.init exported) as = s at htables ⊢
    show callable ((step config driver s a).dispatch funcName) = _
    rcases step_cases config driver s a with ⟨hnone, hsame⟩ | ⟨platform, name, hsome, hstep⟩
    · rw [hnone, hsame]
      exact (Option.or_none).symm
    · rw [hsome, Option.bind_some]
      rcases hstep with hstep | ⟨hfound, hsame⟩
      · rw [hstep]
        exact dispatch_getExtensionFunctionAddress config driver hroute platform name s
      · -- No such function is ever in a table of an extension's.
        have hne : name ≠ funcName := by
          rintro rfl
          have hanswers : ∀ owner, answers config driver owner name = none :=
            fun _ => by simp only [answers, hroute]
          have hnone := Overlay.table_foldl_eq_none hanswers (questions config driver as)
            (owner platform)
          rw [← htables, table_tables] at hnone
          exact hfound (callable_eq_none.mp hnone)
        rw [hsame, found, if_neg hne]
        exact (Option.or_none).symm

end

/-! ## What a wrapper calls -/

section

variable (config : DispatchConfig) (driver : Driver)

/-- A platform that was asked what the table for no platform could not answer. -/
def HasTable (as : List Action) (platform : Handle) : Prop :=
  Overlay.Apart (answers config driver) (questions config driver as) platform

/-- A platform that was asked this when it had a table, be it by this look up. -/
def InTable (as : List Action) (platform : Handle) (funcName : String) : Prop :=
  Overlay.Kept (answers config driver) (questions config driver as) platform funcName

open scoped Classical in
/-- What a wrapper calls for an object of the platform, said by the look ups. -/
noncomputable def served (exported : CLdispatchX) (as : List Action) (platform : Handle)
    (funcName : String) : Option Handle :=
  match (known config).lookup funcName with
  | some .icdLoader =>
    (callable (exported funcName)).or ((lookUps driver as).findSome? (found driver funcName))
  | some .extension | some .emulated =>
    if HasTable config driver as platform then
      if InTable config driver as platform funcName then
        answers config driver (owner platform) funcName
      else none
    else if (none, funcName) ∈ questions config driver as then answers config driver none funcName
    else none
  | none => none

/-- No platform has no table of its own. -/
theorem not_hasTable_null (as : List Action) : ¬HasTable config driver as null := by
  rintro ⟨before, funcName, after, hsplit, -⟩
  have hmem : (some null, funcName) ∈ questions config driver as := by simp [hsplit]
  obtain ⟨found, -, hfound⟩ := List.mem_filterMap.mp hmem
  unfold question owner at hfound
  split at hfound
  · simp at hfound
  · simp at hfound
  · simp at hfound
  · simp at hfound

/-- **What a platform can call is what the questions so far have brought.** -/
theorem callable_tableOf (exported : CLdispatchX) (as : List Action) (platform : Handle)
    (funcName : String) :
    callable (((system config driver).exec (.init exported) as).tableOf platform funcName) =
      ((questions config driver as).foldl (Overlay.ask (answers config driver)) .empty).table
        (owner platform) funcName := by
  rw [← tables_exec config driver exported, table_tables]
  rfl

open scoped Classical in
/-- **What a wrapper calls behind any history of look ups.** -/
theorem reached_run (exported : CLdispatchX) (as : List Action) (platform : Handle)
    (funcName : String) :
    callable (reached config ((system config driver).exec (.init exported) as) platform funcName) =
      served config driver exported as platform funcName := by
  have htable : ∀ f, callable (((system config driver).exec (.init exported) as).tableOf platform f) =
      if HasTable config driver as platform then
        if InTable config driver as platform f then answers config driver (owner platform) f
        else none
      else if (none, f) ∈ questions config driver as then answers config driver none f else none := by
    intro f
    rw [callable_tableOf]
    by_cases hnull : platform = null
    · subst hnull
      rw [if_neg (not_hasTable_null config driver as)]
      exact congrFun (Overlay.common_foldl _) f
    · rw [owner, if_neg hnull]
      exact Overlay.table_foldl _ _ _
  unfold reached served
  cases hroute : (known config).lookup funcName with
  | none => rfl
  | some route =>
    cases route with
    | icdLoader => exact dispatch_exec config driver hroute exported as
    | extension => exact htable funcName
    | emulated => exact htable funcName

/-- An application that always names a platform keeps what it got: what was looked up of the platform
at any time is called from then on. -/
theorem reached_of_platforms (exported : CLdispatchX) {as : List Action}
    (hnamed : ∀ q ∈ questions config driver as, q.1 ≠ none) {platform : Handle}
    (hplatform : platform ≠ null) {funcName : String}
    (hasked : (some platform, funcName) ∈ questions config driver as) :
    callable (((system config driver).exec (.init exported) as).tableOf platform funcName) =
      answers config driver (some platform) funcName := by
  classical
  have hkept : Overlay.Kept (answers config driver) (questions config driver as) platform funcName :=
    (Overlay.kept_iff_mem hnamed platform funcName).mpr hasked
  rw [callable_tableOf, owner, if_neg hplatform, Overlay.table_foldl, if_pos hkept.apart,
    if_pos hkept]

/-- **When a wrapper loses what it called**: its platform gets a table, and the function is not looked
up of the platform from then on, or the platform does not have it. -/
theorem wrapper_lost_iff (exported : CLdispatchX) {as : List Action} {platform : Handle}
    {funcName : String}
    (h : reached config ((system config driver).exec (.init exported) as) platform funcName ≠ null)
    (later : List Action) :
    reached config ((system config driver).exec (.init exported) (as ++ later)) platform funcName =
        null ↔
      (known config).lookup funcName ≠ some .icdLoader ∧ ¬HasTable config driver as platform ∧
        HasTable config driver (as ++ later) platform ∧
        (InTable config driver (as ++ later) platform funcName →
          answers config driver (owner platform) funcName = none) := by
  have htable : ∀ {f : String},
      ((system config driver).exec (.init exported) as).tableOf platform f ≠ null →
      (((system config driver).exec (.init exported) (as ++ later)).tableOf platform f = null ↔
        ¬HasTable config driver as platform ∧ HasTable config driver (as ++ later) platform ∧
          (InTable config driver (as ++ later) platform f →
            answers config driver (owner platform) f = none)) := by
    intro f hf
    rw [← callable_eq_none, callable_tableOf, questions_append]
    rw [Ne, ← callable_eq_none, callable_tableOf] at hf
    unfold HasTable InTable
    rw [questions_append]
    by_cases hnull : platform = null
    · have hno := not_hasTable_null config driver (as ++ later)
      unfold HasTable at hno
      rw [questions_append] at hno
      subst hnull
      refine iff_of_false (fun hlost => hf ?_) fun hlost => hno hlost.2.1
      exact Overlay.common_eq_none_of_append hlost
    · rw [owner, if_neg hnull] at hf ⊢
      exact Overlay.lost_iff hf _
  unfold reached at h ⊢
  cases hroute : (known config).lookup funcName with
  | none => exact absurd (by rw [hroute]) h
  | some route =>
    rw [hroute] at h
    cases route with
    | icdLoader =>
      refine iff_of_false (fun hlost => h ?_) fun hlost => hlost.1 rfl
      have hboth := dispatch_exec config driver hroute exported (as ++ later)
      rw [callable_eq_none.mpr hlost, lookUps, List.filterMap_append, List.findSome?_append,
        ← Option.or_assoc, ← lookUps, ← dispatch_exec config driver hroute exported as] at hboth
      exact callable_eq_none.mp (Option.or_eq_none_iff.mp hboth.symm).1
    | extension =>
      exact (htable h).trans (and_iff_right (by simp)).symm
    | emulated =>
      exact (htable h).trans (and_iff_right (by simp)).symm

end

/-! ## A wrapper that is lost -/

/-- A library that has every function, of each platform and of none. -/
def everything : Driver where
  clGetExtensionFunctionAddress := some fun _ => 5
  clGetExtensionFunctionAddressForPlatform := some fun _ _ => 6
  emu := fun _ => 7

/-- `clMemFreeINTEL` is got without a platform, and works for one until another function is got of
it. -/
theorem lost_clMemFreeINTEL :
    reached {} ((system {} everything).exec (.init .zero)
        [.clGetExtensionFunctionAddress (some "clMemFreeINTEL"),
          .clGetExtensionFunctionAddressForPlatform 3 (some "clHostMemAllocINTEL")])
      3 "clMemFreeINTEL" = null := by
  have hroute : (known {}).lookup "clMemFreeINTEL" = some .extension := rfl
  have hfirst : questions {} everything [.clGetExtensionFunctionAddress (some "clMemFreeINTEL")] =
      [(none, "clMemFreeINTEL")] := rfl
  have hboth : questions {} everything
      [.clGetExtensionFunctionAddress (some "clMemFreeINTEL"),
        .clGetExtensionFunctionAddressForPlatform 3 (some "clHostMemAllocINTEL")] =
      [(none, "clMemFreeINTEL"), (some 3, "clHostMemAllocINTEL")] := rfl
  have hworks : reached {} ((system {} everything).exec (.init .zero)
      [.clGetExtensionFunctionAddress (some "clMemFreeINTEL")]) 3 "clMemFreeINTEL" ≠ null := by
    have hfive : reached {} ((system {} everything).exec (.init .zero)
      [.clGetExtensionFunctionAddress (some "clMemFreeINTEL")]) 3 "clMemFreeINTEL" = 5 := rfl
    rw [hfive]
    exact Nat.succ_ne_zero 4
  refine (wrapper_lost_iff {} everything .zero hworks
    [.clGetExtensionFunctionAddressForPlatform 3 (some "clHostMemAllocINTEL")]).mpr ⟨?_, ?_, ?_, ?_⟩
  · rw [hroute]
    simp
  · rintro ⟨before, funcName, after, hsplit, -⟩
    have hmem : (some 3, funcName) ∈ [((none : Option Handle), "clMemFreeINTEL")] := by
      rw [← hfirst, hsplit]
      simp
    simp at hmem
  · refine ⟨[(none, "clMemFreeINTEL")], "clHostMemAllocINTEL", [], hboth, fun hmem => ?_⟩
    simp at hmem
  · rintro ⟨before, after, hsplit, -⟩
    have hmem : ((some 3 : Option Handle), "clMemFreeINTEL") ∈
        [((none : Option Handle), "clMemFreeINTEL"), (some 3, "clHostMemAllocINTEL")] := by
      rw [← hboth]
      exact hsplit ▸ (by simp)
    simp at hmem

end CLIntercept.Dispatch
