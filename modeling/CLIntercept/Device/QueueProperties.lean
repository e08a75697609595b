import CLIntercept.Api
import CLIntercept.Config
import Mathlib.Data.List.Range

/-!
# The properties of a command queue

`createCommandQueueProperties` and `createCommandQueuePropertiesOverride` build the property list that
a queue is created with: they count the elements, allocate an array for them and the terminating
zero, and then store them. A store is kept here with its index, whether or not the array has it.

Counting and storing are two passes with conditions of their own. Both functions count the throttle
hint where the priority hint is meant, and the first stores a throttle hint that the device does not
support; `propertiesFit_iff` says when the array is large enough all the same.
-/

set_option autoImplicit false

namespace CLIntercept.Device

/-! ## Property lists -/

def clQueueProperties : UInt64 := 0x1093
def clQueuePriority : UInt64 := 0x1096
def clQueueThrottle : UInt64 := 0x1097

def clQueueOutOfOrderExecModeEnable : UInt64 := 1
def clQueueProfilingEnable : UInt64 := 2

/-- A list of the application: the keys and values up to the terminating zero. -/
structure QueueProperties where
  pairs : List (UInt64 × UInt64)
  keys : ∀ pair ∈ pairs, pair.1 ≠ 0

/-- What a loop over the list goes through: nothing if it is `NULL`. -/
def pairsOf : Option QueueProperties → List (UInt64 × UInt64)
  | none => []
  | some properties => properties.pairs

def keysOf (properties : Option QueueProperties) : List UInt64 := (pairsOf properties).map (·.1)

/-- An array under construction: each store with its index, and the index of the next. -/
structure Stores where
  stores : List (Nat × UInt64) := []
  numProperties : Nat := 0

/-- A key and its value. -/
def Stores.add (s : Stores) (pair : UInt64 × UInt64) : Stores where
  stores := s.stores ++ [(s.numProperties, pair.1), (s.numProperties + 1, pair.2)]
  numProperties := s.numProperties + 2

/-- The array that is handed to the driver. -/
structure LocalProperties where
  allocated : Nat
  stores : List (Nat × UInt64)

/-- The terminating zero. -/
def Stores.finish (s : Stores) (allocated : Nat) : LocalProperties where
  allocated := allocated
  stores := s.stores ++ [(s.numProperties, 0)]

/-- **No store leaves the array.** -/
structure LocalProperties.Fits (p : LocalProperties) : Prop where
  inside : ∀ store ∈ p.stores, store.1 < p.allocated
  count : p.stores.length ≤ p.allocated

/-! ## The two functions -/

section

variable (config : Config) (checkDeviceForExtension : String → Bool)

def modifyCommandQueueProperties (props : UInt64) : UInt64 :=
  let props := if config.inOrderQueue then props &&& ~~~clQueueOutOfOrderExecModeEnable else props
  let props := if config.noProfilingQueue then props &&& ~~~clQueueProfilingEnable else props
  if config.devicePerformanceTiming || config.ittPerformanceTiming ||
      config.chromePerformanceTiming || config.devicePerfCounterEventBasedSampling then
    props ||| clQueueProfilingEnable
  else props

/-- What is to be added to a list. -/
structure AddEnums where
  commandQueueProperties : Bool := true
  priorityHint : Bool
  throttleHint : Bool

/-- What is to be added to an empty list. -/
def addEnums : AddEnums where
  priorityHint := config.defaultQueuePriorityHint ≠ 0 &&
    checkDeviceForExtension "cl_khr_priority_hints"
  throttleHint := config.defaultQueueThrottleHint ≠ 0 &&
    checkDeviceForExtension "cl_khr_throttle_hints"

/-- A key that is there already is not added. -/
def AddEnums.found (add : AddEnums) (key : UInt64) : AddEnums :=
  if key = clQueueProperties then { add with commandQueueProperties := false }
  else if key = clQueuePriority then { add with priorityHint := false }
  else if key = clQueueThrottle then { add with throttleHint := false }
  else add

/-- The elements that are counted for what is added: the throttle hint is counted twice. -/
def AddEnums.count (add : AddEnums) : Nat :=
  (if add.commandQueueProperties then 2 else 0) + (if add.throttleHint then 2 else 0) +
    (if add.throttleHint then 2 else 0)

def priorityPair : UInt64 × UInt64 := (clQueuePriority, config.defaultQueuePriorityHint.toUInt64)

def throttlePair : UInt64 × UInt64 := (clQueueThrottle, config.defaultQueueThrottleHint.toUInt64)

def createCommandQueueProperties (props : UInt64) : LocalProperties :=
  let add := addEnums config checkDeviceForExtension
  let s : Stores := {}
  let s := if add.priorityHint then s.add (priorityPair config) else s
  -- The extension is not looked at.
  let s := if config.defaultQueueThrottleHint ≠ 0 then s.add (throttlePair config) else s
  let s :=
    if add.commandQueueProperties then
      s.add (clQueueProperties, modifyCommandQueueProperties config props)
    else s
  s.finish (add.count + 1)

/-- A pair of the application, with its queue properties modified. -/
def copiedPair (pair : UInt64 × UInt64) : UInt64 × UInt64 :=
  if pair.1 = clQueueProperties then (pair.1, modifyCommandQueueProperties config pair.2) else pair

def createCommandQueuePropertiesOverride (properties : Option QueueProperties) : LocalProperties :=
  let add := (keysOf properties).foldl AddEnums.found (addEnums config checkDeviceForExtension)
  let s : Stores := ((pairsOf properties).map (copiedPair config)).foldl Stores.add {}
  let s := if add.priorityHint then s.add (priorityPair config) else s
  let s := if add.throttleHint then s.add (throttlePair config) else s
  let s :=
    if add.commandQueueProperties then
      s.add (clQueueProperties, modifyCommandQueueProperties config 0)
    else s
  s.finish (2 * (pairsOf properties).length + add.count + 1)

end

/-! ## Where the stores go -/

/-- The stores are one behind the other. -/
def Stores.Dense (s : Stores) : Prop := s.stores.map (·.1) = List.range s.numProperties

/-- A pair is stored right behind the pairs before it. -/
theorem Stores.Dense.add {s : Stores} (h : s.Dense) (pair : UInt64 × UInt64) : (s.add pair).Dense := by
  unfold Stores.Dense Stores.add at *
  rw [List.map_append, h, List.range_succ, List.range_succ]
  simp

theorem Stores.Dense.ite {s : Stores} (h : s.Dense) (c : Prop) [Decidable c]
    (pair : UInt64 × UInt64) : (if c then s.add pair else s).Dense := by
  split
  · exact h.add pair
  · exact h

/-- A list of pairs leaves no gap. -/
theorem Stores.Dense.foldl {s : Stores} (h : s.Dense) (pairs : List (UInt64 × UInt64)) :
    (pairs.foldl Stores.add s).Dense := by
  induction pairs generalizing s with
  | nil => exact h
  | cons pair pairs ih => exact ih (h.add pair)

theorem numProperties_ite (s : Stores) (c : Prop) [Decidable c] (pair : UInt64 × UInt64) :
    (if c then s.add pair else s).numProperties = s.numProperties + if c then 2 else 0 := by
  split <;> rfl

/-- Every pair takes two places. -/
theorem numProperties_foldl (s : Stores) (pairs : List (UInt64 × UInt64)) :
    (pairs.foldl Stores.add s).numProperties = s.numProperties + 2 * pairs.length := by
  induction pairs generalizing s with
  | nil => rfl
  | cons pair pairs ih =>
    rw [List.foldl_cons, ih, List.length_cons, Stores.add]
    dsimp only
    omega

/-- Dense stores stay inside the array if they are not too many. -/
theorem Stores.Dense.fits_iff {s : Stores} (h : s.Dense) (allocated : Nat) :
    (s.finish allocated).Fits ↔ s.numProperties + 1 ≤ allocated := by
  have hlength : s.stores.length = s.numProperties := by
    have hmap := congrArg List.length h
    rwa [List.length_map, List.length_range] at hmap
  constructor
  · intro hfits
    exact hfits.inside (s.numProperties, 0) (List.mem_append_right _ (List.mem_singleton.mpr rfl))
  · intro hle
    refine ⟨fun store hstore => ?_, by simpa [Stores.finish, hlength] using hle⟩
    rcases List.mem_append.mp hstore with hmem | hmem
    · have hindex : store.1 ∈ s.stores.map (·.1) := List.mem_map_of_mem hmem
      rw [h, List.mem_range] at hindex
      exact Nat.lt_of_lt_of_le hindex (Nat.le_of_succ_le hle)
    · rw [List.mem_singleton.mp hmem]
      exact hle

theorem dense_empty : Stores.Dense {} := rfl

/-! ## When the array is large enough -/

section

variable (config : Config) (checkDeviceForExtension : String → Bool)

/-- The default hint is asked for, and the device supports it. -/
def AsksPriority : Prop :=
  config.defaultQueuePriorityHint ≠ 0 ∧ checkDeviceForExtension "cl_khr_priority_hints" = true

def AsksThrottle : Prop :=
  config.defaultQueueThrottleHint ≠ 0 ∧ checkDeviceForExtension "cl_khr_throttle_hints" = true

end

variable {config : Config} {checkDeviceForExtension : String → Bool}

/-- The priority is to be added if the controls ask for one and the device has the extension. -/
theorem priorityHint_addEnums : (addEnums config checkDeviceForExtension).priorityHint = true ↔
    AsksPriority config checkDeviceForExtension := by
  simp [addEnums, AsksPriority]

/-- The throttle is to be added if the controls ask for one and the device has the extension. -/
theorem throttleHint_addEnums : (addEnums config checkDeviceForExtension).throttleHint = true ↔
    AsksThrottle config checkDeviceForExtension := by
  simp [addEnums, AsksThrottle]

/-- A key that the application gives is not added again. -/
theorem hints_found (add : AddEnums) (key : UInt64) :
    ((add.found key).priorityHint = true ↔ add.priorityHint = true ∧ key ≠ clQueuePriority) ∧
      ((add.found key).throttleHint = true ↔ add.throttleHint = true ∧ key ≠ clQueueThrottle) := by
  have hdistinct : clQueueProperties ≠ clQueuePriority ∧ clQueueProperties ≠ clQueueThrottle ∧
      clQueuePriority ≠ clQueueThrottle := by decide
  unfold AddEnums.found
  split
  · next hkey => simp [hkey, hdistinct]
  · split
    · next hkey => simp [hkey, hdistinct]
    · split
      · next hkey => simp [hkey, hdistinct.2.2.symm]
      · next hpriority hthrottle => simp [hpriority, hthrottle]

/-- A hint is added unless a key of the list is its own. -/
theorem hints_foldl_found (add : AddEnums) (keys : List UInt64) :
    ((keys.foldl AddEnums.found add).priorityHint = true ↔
        add.priorityHint = true ∧ clQueuePriority ∉ keys) ∧
      ((keys.foldl AddEnums.found add).throttleHint = true ↔
        add.throttleHint = true ∧ clQueueThrottle ∉ keys) := by
  induction keys generalizing add with
  | nil => simp
  | cons key keys ih =>
    obtain ⟨hpriority, hthrottle⟩ := ih (add.found key)
    obtain ⟨hpriority', hthrottle'⟩ := hints_found add key
    rw [List.foldl_cons, hpriority, hpriority', hthrottle, hthrottle', List.mem_cons, List.mem_cons,
      not_or, not_or, and_assoc, and_assoc, ne_comm, ne_comm (a := key) (b := clQueueThrottle)]
    exact ⟨.rfl, .rfl⟩

/-- The first function does not fit a throttle hint of a device without them. -/
theorem create_fits_iff (props : UInt64) :
    (createCommandQueueProperties config checkDeviceForExtension props).Fits ↔
      AsksThrottle config checkDeviceForExtension ∨
        (¬ AsksPriority config checkDeviceForExtension ∧ config.defaultQueueThrottleHint = 0) := by
  have hasked : (addEnums config checkDeviceForExtension).throttleHint = true →
      config.defaultQueueThrottleHint ≠ 0 := fun h => (throttleHint_addEnums.mp h).1
  unfold createCommandQueueProperties
  dsimp only
  rw [Stores.Dense.fits_iff (((dense_empty.ite _ _).ite _ _).ite _ _), numProperties_ite,
    numProperties_ite, numProperties_ite, AddEnums.count, ← priorityHint_addEnums,
    ← throttleHint_addEnums]
  cases hthrottle : (addEnums config checkDeviceForExtension).throttleHint with
  | true =>
    refine iff_of_true ?_ (.inl rfl)
    rw [if_pos (hasked hthrottle)]
    split <;> split <;> simp
  | false =>
    cases hpriority : (addEnums config checkDeviceForExtension).priorityHint <;>
      by_cases hhint : config.defaultQueueThrottleHint = 0 <;> simp [hhint]

/-- The second does not fit a priority hint without a throttle hint. -/
theorem createOverride_fits_iff (properties : Option QueueProperties) :
    (createCommandQueuePropertiesOverride config checkDeviceForExtension properties).Fits ↔
      (AsksPriority config checkDeviceForExtension ∧ clQueuePriority ∉ keysOf properties →
        AsksThrottle config checkDeviceForExtension ∧ clQueueThrottle ∉ keysOf properties) := by
  obtain ⟨hpriority, hthrottle⟩ :=
    hints_foldl_found (addEnums config checkDeviceForExtension) (keysOf properties)
  rw [priorityHint_addEnums] at hpriority
  rw [throttleHint_addEnums] at hthrottle
  rw [← hpriority, ← hthrottle]
  unfold createCommandQueuePropertiesOverride
  dsimp only
  rw [Stores.Dense.fits_iff ((((dense_empty.foldl _).ite _ _).ite _ _).ite _ _), numProperties_ite,
    numProperties_ite, numProperties_ite, numProperties_foldl, List.length_map]
  generalize (keysOf properties).foldl AddEnums.found
    (addEnums config checkDeviceForExtension) = add
  unfold AddEnums.count
  cases add.priorityHint <;> cases add.throttleHint <;> simp <;> omega

/-- **When the array is large enough.** -/
theorem propertiesFit_iff (config : Config) (checkDeviceForExtension : String → Bool) (props : UInt64)
    (properties : Option QueueProperties) :
    ((createCommandQueueProperties config checkDeviceForExtension props).Fits ↔
      AsksThrottle config checkDeviceForExtension ∨
        (¬ AsksPriority config checkDeviceForExtension ∧ config.defaultQueueThrottleHint = 0)) ∧
    ((createCommandQueuePropertiesOverride config checkDeviceForExtension properties).Fits ↔
      (AsksPriority config checkDeviceForExtension ∧ clQueuePriority ∉ keysOf properties →
        AsksThrottle config checkDeviceForExtension ∧ clQueueThrottle ∉ keysOf properties)) :=
  ⟨create_fits_iff props, createOverride_fits_iff properties⟩

/-- A priority hint alone is stored behind the array. -/
theorem priority_hint_overruns :
    ¬ (createCommandQueuePropertiesOverride { defaultQueuePriorityHint := 1 }
      (fun _ => true) none).Fits :=
  fun h => absurd h.count (by decide)

end CLIntercept.Device
