import CLIntercept.Api
import CLIntercept.Config
import CLIntercept.Lib.Run
import Mathlib.Data.List.Basic
import Mathlib.Logic.Function.Basic

/-!
# Devices that are partitioned for the application

`autoPartitionGetDeviceIDs` answers `clGetDeviceIDs` with the sub-devices of the platform's devices. It
asks the driver twice for each list, for its length and for its elements, and keeps the sub-devices of a
device in `m_SubDeviceCacheMap` from then on. Of the answers for a device it looks at the length
alone: when the second call fails, the handles of a vector that nobody filled stay in the cache, and
when the first one fails the device is returned as it is, this time.

A device is settled when the cache has sub-devices of it or it cannot be partitioned; from then on it
is returned the same way, `lawful_of_withoutMishap`. Nothing is said of sub-devices that the application
releases.
-/

set_option autoImplicit false

namespace CLIntercept.Device.AutoPartition

open CLIntercept.Lib

/-! ## The driver -/

/-- The handle of a device. -/
abbrev DeviceId := { device : Handle // device ≠ null }

abbrev ErrorCode := { code : Int // code ≠ clSuccess }

/-- `CL_DEVICE_PARTITION_BY_AFFINITY_DOMAIN` with the next partitionable domain, and
`CL_DEVICE_PARTITION_EQUALLY`. -/
inductive PartitionProperty
  | byAffinityDomain
  | equally (units : UInt32)
  deriving DecidableEq, Repr

/-- A platform: its devices, and into how many sub-devices each can be partitioned. -/
structure Platform where
  devices : Handle → UInt64 → List DeviceId
  devices_lt : ∀ platform deviceType, (devices platform deviceType).length < 2 ^ 32
  numSubDevices : Handle → PartitionProperty → UInt32
  numSubDevices_null : ∀ property, numSubDevices null property = 0

/-- How two calls of `clCreateSubDevices` end: with an error, or as the platform has it. -/
structure PartitionAnswers where
  count : Option ErrorCode := none
  create : Except ErrorCode (Nat → DeviceId)

/-- How the calls to the driver end. -/
structure Answers where
  count : Option ErrorCode := none
  fill : Option ErrorCode := none
  partition : Handle → PartitionProperty → PartitionAnswers

/-! ## The function -/

/-- The cache, and the handles that the driver has given out so far. -/
structure Layer where
  subDeviceCacheMap : Handle → List Handle := fun _ => []
  produced : List DeviceId := []

section

variable (config : Config) (P : Platform) (answers : Answers)

/-- `numSubDevices` after the first call for a property. -/
def reported (parent : Handle) (property : PartitionProperty) : UInt32 :=
  match (answers.partition parent property).count with
  | some _ => 0
  | none => P.numSubDevices parent property

/-- The two calls for one property. The vector is resized in between. -/
def createSubDevices (parent : Handle) (property : PartitionProperty) (L : Layer) : Layer :=
  let numSubDevices := reported P answers parent property
  if 1 < numSubDevices then
    match (answers.partition parent property).create with
    | .ok created =>
      let subDevices := (List.range numSubDevices.toNat).map created
      { subDeviceCacheMap :=
          Function.update L.subDeviceCacheMap parent (subDevices.map Subtype.val)
        produced := L.produced ++ subDevices }
    | .error _ =>
      { L with
        subDeviceCacheMap :=
          Function.update L.subDeviceCacheMap parent (List.replicate numSubDevices.toNat null) }
  else L

/-- A property is tried if it is asked for and there are no sub-devices yet. -/
def partitionBy (enabled : Bool) (parent : Handle) (property : PartitionProperty) (L : Layer) :
    Layer :=
  if L.subDeviceCacheMap parent = [] ∧ enabled = true then
    createSubDevices P answers parent property L
  else L

/-- The body of the loop, up to where the device or its sub-devices are returned. The outer test of
the source is the one that is made for each property. -/
def partitionDevice (parent : Handle) (L : Layer) : Layer :=
  let L := partitionBy P answers config.autoPartitionByAffinityDomain parent .byAffinityDomain L
  partitionBy P answers (config.autoPartitionEqually ≠ 0) parent
    (.equally config.autoPartitionEqually) L

/-- What is put into `returnedDevices`. -/
def returnDevices (parent : Handle) (subDevices : List Handle) : List Handle :=
  if subDevices = [] then [parent]
  else
    (if config.autoPartitionAllDevices then [parent] else []) ++
      if config.autoPartitionAllDevices || config.autoPartitionAllSubDevices then subDevices
      else if config.autoPartitionSingleSubDevice then subDevices.take 1
      else [parent]

/-- The loop over the parent devices. -/
def returnedDevices : List Handle → Layer → List Handle × Layer
  | [], L => ([], L)
  | parent :: parents, L =>
    let L := partitionDevice config P answers parent L
    let (rest, L') := returnedDevices parents L
    (returnDevices config parent (L.subDeviceCacheMap parent) ++ rest, L')

end

/-- The arguments of a call, with how the driver answers: `devices` and `num_devices` say whether
the pointers are there. -/
structure Call where
  platform : Handle
  deviceType : UInt64
  numEntries : UInt32
  devices : Bool
  numDevices : Bool
  answers : Answers

/-- The error code, what is stored in `devices` with its index, and in `num_devices`. -/
structure Result where
  errorCode : Int
  devices : List (Handle × Nat) := []
  numDevices : Option UInt32 := none

section

variable (config : Config) (P : Platform)

/-- The error code and the parent devices after the two calls of `clGetDeviceIDs`. -/
def parentDevices (call : Call) (L : Layer) : Int × List Handle × Layer :=
  let devices := P.devices call.platform call.deviceType
  match call.answers.count with
  | some error => (error.1, [], L)
  | none =>
    if devices.length = 0 then (clSuccess, [], L)
    else
      match call.answers.fill with
      | some error => (error.1, List.replicate devices.length null, L)
      | none =>
        (clSuccess, devices.map Subtype.val, { L with produced := L.produced ++ devices })

/-- With no result where the call does not return: an index of 32 bits does not reach a size beyond
them, and nothing can be stored through `NULL`. -/
def autoPartitionGetDeviceIDs (call : Call) (L : Layer) : Option (Result × Layer) :=
  let (errorCode, parents, L) := parentDevices P call L
  let (returned, L) := returnedDevices config P call.answers parents L
  if errorCode = clSuccess then
    let stores := returned.zipIdx.filter fun store => store.2 < call.numEntries.toNat
    if returned.length < 2 ^ 32 ∧ (stores = [] ∨ call.devices = true) then
      some (⟨errorCode, stores, if call.numDevices then some (UInt32.ofNat returned.length) else none⟩,
        L)
    else none
  else some ({ errorCode }, L)

/-- Calls in turn. One that does not return changes nothing. -/
def system : System Layer Call where
  step L call :=
    match autoPartitionGetDeviceIDs config P call L with
    | some (_, L) => L
    | none => L
  legal _ _ := True

end

/-- **What a successful call answers**, given the devices of each platform and type: as many as there
is room for, in their order, and how many there are; and the driver has given out all of them. -/
structure Answered (devices : Handle → UInt64 → List Handle) (call : Call) (result : Result)
    (L : Layer) : Prop where
  stores : result.devices =
    ((devices call.platform call.deviceType).take call.numEntries.toNat).zipIdx
  count : call.numDevices = true →
    result.numDevices.map UInt32.toNat = some (devices call.platform call.deviceType).length
  produced : ∀ device ∈ devices call.platform call.deviceType,
    ∃ given ∈ L.produced, given.1 = device

/-- **All successful calls of a run answer with the same devices.** -/
def Lawful (config : Config) (P : Platform) (calls : List Call) : Prop :=
  ∃ devices : Handle → UInt64 → List Handle, (system config P).Each
    (fun L call => ∀ result L', autoPartitionGetDeviceIDs config P call L = some (result, L') →
      result.errorCode = clSuccess → Answered devices call result L') {} calls

/-! ## Settled devices -/

section

variable (config : Config) (P : Platform)

/-- A device that can be partitioned in one of the ways that are asked for. -/
def Partitionable (parent : Handle) : Prop :=
  (config.autoPartitionByAffinityDomain = true ∧ 1 < P.numSubDevices parent .byAffinityDomain) ∨
    (config.autoPartitionEqually ≠ 0 ∧
      1 < P.numSubDevices parent (.equally config.autoPartitionEqually))

/-- **Nothing is left to find out about the device.** -/
def Settled (L : Layer) (parent : Handle) : Prop :=
  L.subDeviceCacheMap parent ≠ [] ∨ ¬ Partitionable config P parent

/-- The second call for a property does not fail. -/
def Creates (answers : Answers) (parent : Handle) (property : PartitionProperty) : Prop :=
  ∃ created, (answers.partition parent property).create = .ok created

/-- **A device is partitioned without a mishap**: the first property with several sub-devices gets
them; or no property has them, on this platform. -/
def Settles (answers : Answers) (parent : Handle) : Prop :=
  if config.autoPartitionByAffinityDomain = true ∧
      1 < reported P answers parent .byAffinityDomain then
    Creates answers parent .byAffinityDomain
  else if config.autoPartitionEqually ≠ 0 ∧
      1 < reported P answers parent (.equally config.autoPartitionEqually) then
    Creates answers parent (.equally config.autoPartitionEqually)
  else ¬ Partitionable config P parent

end

variable {config : Config} {P : Platform} {answers : Answers}

/-- `NULL` is not partitioned. -/
theorem not_partitionable_null : ¬ Partitionable config P null := by
  rintro (⟨_, h⟩ | ⟨_, h⟩)
  · rw [P.numSubDevices_null] at h
    exact absurd h (by decide)
  · rw [P.numSubDevices_null] at h
    exact absurd h (by decide)

/-- What a device reports it can be partitioned into. -/
theorem numSubDevices_of_reported {parent : Handle} {property : PartitionProperty}
    (h : 1 < reported P answers parent property) : 1 < P.numSubDevices parent property := by
  unfold reported at h
  split at h
  · exact absurd h (by decide)
  · exact h

/-! ### One property -/

/-- The cache has as many elements as the first call reported, and at least two. -/
theorem cached_of_reported {parent : Handle} {property : PartitionProperty}
    (h : 1 < reported P answers parent property) (L : Layer) :
    (createSubDevices P answers parent property L).subDeviceCacheMap parent ≠ [] := by
  have hlength : 1 < (reported P answers parent property).toNat := h
  intro hnil
  have hlen := congrArg List.length hnil
  unfold createSubDevices at hlen
  simp only [h, if_true] at hlen
  split at hlen
  · simp only [Function.update_self, List.length_map, List.length_range, List.length_nil] at hlen
    omega
  · simp only [Function.update_self, List.length_replicate, List.length_nil] at hlen
    omega

/-- Other devices keep what is cached of them. -/
theorem createSubDevices_of_ne {parent other : Handle} (hne : other ≠ parent)
    (property : PartitionProperty) (L : Layer) :
    (createSubDevices P answers parent property L).subDeviceCacheMap other =
      L.subDeviceCacheMap other := by
  unfold createSubDevices
  dsimp only
  split
  · split
    · exact Function.update_of_ne hne ..
    · exact Function.update_of_ne hne ..
  · rfl

/-- Nothing that was given out is forgotten. -/
theorem produced_createSubDevices (parent : Handle) (property : PartitionProperty) (L : Layer) :
    L.produced ⊆ (createSubDevices P answers parent property L).produced := by
  unfold createSubDevices
  dsimp only
  split
  · split
    · exact List.subset_append_left ..
    · exact List.Subset.refl _
  · exact List.Subset.refl _

/-- All cached handles were given out by the driver. -/
def Layer.Filled (L : Layer) : Prop :=
  ∀ parent, ∀ device ∈ L.subDeviceCacheMap parent, ∃ given ∈ L.produced, given.1 = device

/-- A partition that is created fills its list. -/
theorem Layer.Filled.createSubDevices {L : Layer} (h : L.Filled) {parent : Handle}
    {property : PartitionProperty}
    (hcreates : 1 < reported P answers parent property → Creates answers parent property) :
    (createSubDevices P answers parent property L).Filled := by
  unfold AutoPartition.createSubDevices
  dsimp only
  split
  next hreported =>
    obtain ⟨created, hcreated⟩ := hcreates hreported
    simp only [hcreated]
    intro other device hdevice
    dsimp only at hdevice ⊢
    by_cases hother : other = parent
    · subst hother
      rw [Function.update_self] at hdevice
      obtain ⟨given, hgiven, hval⟩ := List.mem_map.mp hdevice
      exact ⟨given, List.mem_append_right _ hgiven, hval⟩
    · rw [Function.update_of_ne hother] at hdevice
      obtain ⟨given, hgiven, hval⟩ := h other device hdevice
      exact ⟨given, List.mem_append_left _ hgiven, hval⟩
  next => exact h

/-- Nothing is created if no more than one sub-device is reported. -/
theorem createSubDevices_of_not_reported {parent : Handle} {property : PartitionProperty}
    (h : ¬ 1 < reported P answers parent property) (L : Layer) :
    createSubDevices P answers parent property L = L := if_neg h

/-! ### A property that is tried -/

section

variable {enabled : Bool} {parent other : Handle} {property : PartitionProperty} {L : Layer}

/-- The lists of other devices are left alone. -/
theorem partitionBy_of_ne (hne : other ≠ parent) :
    (partitionBy P answers enabled parent property L).subDeviceCacheMap other =
      L.subDeviceCacheMap other := by
  unfold partitionBy
  split
  · exact createSubDevices_of_ne hne property L
  · rfl

/-- A device that has sub-devices in the cache is left alone. -/
theorem partitionBy_of_cached (h : L.subDeviceCacheMap parent ≠ []) :
    partitionBy P answers enabled parent property L = L := if_neg fun hand => h hand.1

/-- A way of partitioning that is off, or that the device lacks, does nothing. -/
theorem partitionBy_of_not_reported (h : ¬ (enabled = true ∧ 1 < reported P answers parent property)) :
    partitionBy P answers enabled parent property L = L := by
  unfold partitionBy
  split
  next hand => exact createSubDevices_of_not_reported (fun hmore => h ⟨hand.2, hmore⟩) L
  next => rfl

/-- After a partition the device has a list. -/
theorem cached_partitionBy (henabled : enabled = true) (h : 1 < reported P answers parent property) :
    (partitionBy P answers enabled parent property L).subDeviceCacheMap parent ≠ [] := by
  unfold partitionBy
  split
  next => exact cached_of_reported h L
  next hnot => exact fun hnil => hnot ⟨hnil, henabled⟩

/-- No sub-device is forgotten. -/
theorem produced_partitionBy :
    L.produced ⊆ (partitionBy P answers enabled parent property L).produced := by
  unfold partitionBy
  split
  · exact produced_createSubDevices ..
  · exact List.Subset.refl _

/-- The lists stay filled, if the driver creates what it reports. -/
theorem Layer.Filled.partitionBy (h : L.Filled)
    (hcreates : L.subDeviceCacheMap parent = [] → enabled = true →
      1 < reported P answers parent property → Creates answers parent property) :
    (partitionBy P answers enabled parent property L).Filled := by
  unfold AutoPartition.partitionBy
  split
  next hand => exact h.createSubDevices (hcreates hand.1 hand.2)
  next => exact h

end

/-! ### One device -/

section

variable {parent other : Handle} {L : Layer}

/-- A device is partitioned by itself. -/
theorem partitionDevice_of_ne (hne : other ≠ parent) :
    (partitionDevice config P answers parent L).subDeviceCacheMap other =
      L.subDeviceCacheMap other := by
  unfold partitionDevice
  dsimp only
  rw [partitionBy_of_ne hne, partitionBy_of_ne hne]

/-- A device that cannot be partitioned is not. -/
theorem partitionDevice_of_not_partitionable (h : ¬ Partitionable config P parent) :
    partitionDevice config P answers parent L = L := by
  unfold partitionDevice
  dsimp only
  rw [partitionBy_of_not_reported, partitionBy_of_not_reported]
  · exact fun hand => h (.inl ⟨hand.1, numSubDevices_of_reported hand.2⟩)
  · exact fun hand => h (.inr ⟨of_decide_eq_true hand.1, numSubDevices_of_reported hand.2⟩)

/-- **What is settled stays as it is.** -/
theorem Settled.partitionDevice (h : Settled config P L other) :
    (partitionDevice config P answers parent L).subDeviceCacheMap other =
      L.subDeviceCacheMap other := by
  by_cases hne : other = parent
  · subst hne
    rcases h with hcached | hnot
    · unfold AutoPartition.partitionDevice
      dsimp only
      rw [partitionBy_of_cached hcached, partitionBy_of_cached hcached]
    · rw [partitionDevice_of_not_partitionable hnot]
  · exact partitionDevice_of_ne hne

/-- Partitioning a device forgets no sub-device. -/
theorem produced_partitionDevice :
    L.produced ⊆ (partitionDevice config P answers parent L).produced :=
  List.Subset.trans produced_partitionBy produced_partitionBy

/-- **Without a mishap the device is settled afterwards.** -/
theorem settled_partitionDevice
    (h : L.subDeviceCacheMap parent = [] → Settles config P answers parent) :
    Settled config P (partitionDevice config P answers parent L) parent := by
  by_cases hcached : L.subDeviceCacheMap parent = []
  · have hsettles := h hcached
    unfold Settles at hsettles
    split at hsettles
    next haffinity =>
      refine .inl ?_
      have hsome := cached_partitionBy (L := L) haffinity.1 haffinity.2
      unfold partitionDevice
      dsimp only
      rwa [partitionBy_of_cached hsome]
    next =>
      split at hsettles
      next hequally => exact .inl (cached_partitionBy (decide_eq_true hequally.1) hequally.2)
      next => exact .inr hsettles
  · refine .inl ?_
    rwa [Settled.partitionDevice (.inl hcached)]

/-- Without a mishap the cache gets handles from the driver only. -/
theorem Layer.Filled.partitionDevice (hfilled : L.Filled)
    (h : L.subDeviceCacheMap parent = [] → Settles config P answers parent) :
    (partitionDevice config P answers parent L).Filled := by
  refine (hfilled.partitionBy ?_).partitionBy ?_
  · intro hnil henabled hmore
    have hsettles := h hnil
    unfold Settles at hsettles
    rwa [if_pos ⟨henabled, hmore⟩] at hsettles
  · intro hnil henabled hmore
    -- the first property was not reported, or there would be sub-devices
    have haffinity : ¬ (config.autoPartitionByAffinityDomain = true ∧
        1 < reported P answers parent .byAffinityDomain) :=
      fun hand => cached_partitionBy hand.1 hand.2 hnil
    rw [partitionBy_of_not_reported haffinity] at hnil
    have hsettles := h hnil
    unfold Settles at hsettles
    rwa [if_neg haffinity, if_pos ⟨of_decide_eq_true henabled, hmore⟩] at hsettles

end

/-! ## All devices -/

/-- Only its own list says whether a device is settled. -/
theorem Settled.of_eq {L L' : Layer} {parent : Handle} (h : Settled config P L parent)
    (heq : L'.subDeviceCacheMap parent = L.subDeviceCacheMap parent) : Settled config P L' parent := by
  unfold Settled
  rwa [heq]

/-- A device that is not partitioned is settled. -/
theorem settles_of_not_partitionable {parent : Handle} (h : ¬ Partitionable config P parent) :
    Settles config P answers parent := by
  unfold Settles
  rw [if_neg, if_neg]
  · exact h
  · exact fun hand => h (.inr ⟨hand.1, numSubDevices_of_reported hand.2⟩)
  · exact fun hand => h (.inl ⟨hand.1, numSubDevices_of_reported hand.2⟩)

/-- No device that is looked at for the first time meets with a mishap. -/
def NoMishap (config : Config) (P : Platform) (answers : Answers) (parents : List Handle)
    (L : Layer) : Prop :=
  ∀ parent ∈ parents, L.subDeviceCacheMap parent = [] → Settles config P answers parent

section

variable {parents : List Handle} {L : Layer}

/-- The devices behind the first have no mishap either. -/
theorem NoMishap.tail {parent : Handle} (h : NoMishap config P answers (parent :: parents) L) :
    NoMishap config P answers parents (partitionDevice config P answers parent L) := by
  intro other hother hnil
  refine h other (List.mem_cons_of_mem _ hother) ?_
  by_contra hcached
  rw [Settled.partitionDevice (.inl hcached)] at hnil
  exact hcached hnil

/-- What is settled is not changed by the loop. -/
theorem Settled.returnedDevices {other : Handle} (h : Settled config P L other) :
    (returnedDevices config P answers parents L).2.subDeviceCacheMap other =
      L.subDeviceCacheMap other := by
  induction parents generalizing L with
  | nil => rfl
  | cons parent parents ih =>
    have hhead : (AutoPartition.partitionDevice config P answers parent L).subDeviceCacheMap other =
        L.subDeviceCacheMap other := h.partitionDevice
    exact (ih (h.of_eq hhead)).trans hhead

/-- A whole call forgets no sub-device. -/
theorem produced_returnedDevices :
    L.produced ⊆ (returnedDevices config P answers parents L).2.produced := by
  induction parents generalizing L with
  | nil => exact List.Subset.refl _
  | cons parent parents ih => exact List.Subset.trans produced_partitionDevice ih

/-- **A call without a mishap leaves the lists filled.** -/
theorem Layer.Filled.returnedDevices (hfilled : L.Filled)
    (h : NoMishap config P answers parents L) :
    (returnedDevices config P answers parents L).2.Filled := by
  induction parents generalizing L with
  | nil => exact hfilled
  | cons parent parents ih =>
    exact ih (hfilled.partitionDevice (h parent List.mem_cons_self)) h.tail

/-- All of them are settled afterwards. -/
theorem settled_returnedDevices (h : NoMishap config P answers parents L) :
    ∀ parent ∈ parents, Settled config P (returnedDevices config P answers parents L).2 parent := by
  induction parents generalizing L with
  | nil => nofun
  | cons parent parents ih =>
    intro other hother
    rcases List.mem_cons.mp hother with rfl | hmem
    · have hhead : Settled config P (partitionDevice config P answers other L) other :=
        settled_partitionDevice (h other List.mem_cons_self)
      exact hhead.of_eq hhead.returnedDevices
    · exact ih h.tail other hmem

/-- **What is returned** can be read off the cache at the end. -/
theorem returnedDevices_eq (h : NoMishap config P answers parents L) :
    (returnedDevices config P answers parents L).1 = parents.flatMap fun parent =>
      returnDevices config parent
        ((returnedDevices config P answers parents L).2.subDeviceCacheMap parent) := by
  induction parents generalizing L with
  | nil => rfl
  | cons parent parents ih =>
    have hhead : Settled config P (partitionDevice config P answers parent L) parent :=
      settled_partitionDevice (h parent List.mem_cons_self)
    have hsame : (returnedDevices config P answers parents
        (partitionDevice config P answers parent L)).2.subDeviceCacheMap parent =
          (partitionDevice config P answers parent L).subDeviceCacheMap parent :=
      hhead.returnedDevices
    unfold AutoPartition.returnedDevices
    dsimp only
    rw [List.flatMap_cons, hsame, ← ih h.tail]

end

/-- A device is returned for itself or for its parent. -/
theorem mem_returnDevices {parent device : Handle} {subDevices : List Handle}
    (h : device ∈ returnDevices config parent subDevices) : device = parent ∨ device ∈ subDevices := by
  unfold returnDevices at h
  split at h
  · exact .inl (List.mem_singleton.mp h)
  · rcases List.mem_append.mp h with h | h
    · split at h
      · exact .inl (List.mem_singleton.mp h)
      · cases h
    · split at h
      · exact .inr h
      · split at h
        · exact .inr (List.mem_of_mem_take h)
        · exact .inl (List.mem_singleton.mp h)

/-! ## One call -/

/-- **A call without a mishap**: if the devices are listed, none of them that has no sub-devices in
the cache meets with one. -/
def WithoutMishap (config : Config) (P : Platform) (L : Layer) (call : Call) : Prop :=
  call.answers.count = none → call.answers.fill = none →
    ∀ device ∈ P.devices call.platform call.deviceType, L.subDeviceCacheMap device.1 = [] →
      Settles config P call.answers device.1

section

variable {call : Call} {L L' : Layer} {result : Result}

/-- Asking for the parents partitions none of them. -/
theorem parentDevices_cache : (parentDevices P call L).2.2.subDeviceCacheMap = L.subDeviceCacheMap := by
  unfold parentDevices
  dsimp only
  split
  · rfl
  · split
    · rfl
    · split <;> rfl

/-- Asking for the parents forgets no sub-device. -/
theorem produced_parentDevices : L.produced ⊆ (parentDevices P call L).2.2.produced := by
  unfold parentDevices
  dsimp only
  split
  · exact List.Subset.refl _
  · split
    · exact List.Subset.refl _
    · split
      · exact List.Subset.refl _
      · exact List.subset_append_left ..

/-- Asking for the parents leaves the lists as they are. -/
theorem Layer.Filled.parentDevices (h : L.Filled) : (parentDevices P call L).2.2.Filled := by
  intro parent device hdevice
  rw [parentDevices_cache] at hdevice
  obtain ⟨given, hgiven, hval⟩ := h parent device hdevice
  exact ⟨given, produced_parentDevices hgiven, hval⟩

/-- A call without a mishap has none in its devices. -/
theorem noMishap_parentDevices (h : WithoutMishap config P L call) :
    NoMishap config P call.answers (parentDevices P call L).2.1 (parentDevices P call L).2.2 := by
  intro parent hparent hnil
  rw [parentDevices_cache] at hnil
  unfold AutoPartition.parentDevices at hparent
  dsimp only at hparent
  split at hparent
  next => cases hparent
  next hcount =>
    split at hparent
    next => cases hparent
    next =>
      split at hparent
      next =>
        rw [List.eq_of_mem_replicate hparent]
        exact settles_of_not_partitionable not_partitionable_null
      next hfill =>
        obtain ⟨device, hdevice, rfl⟩ := List.mem_map.mp hparent
        exact h hcount hfill device hdevice hnil

/-- A successful answer is about the devices of the platform, and the driver has given them out. -/
theorem parentDevices_success (h : (parentDevices P call L).1 = clSuccess) :
    (parentDevices P call L).2.1 =
        (P.devices call.platform call.deviceType).map Subtype.val ∧
      P.devices call.platform call.deviceType ⊆ (parentDevices P call L).2.2.produced := by
  revert h
  unfold parentDevices
  dsimp only
  split
  next error _ => exact fun h => absurd h error.2
  next =>
    split
    next hlength =>
      intro _
      rw [List.eq_nil_of_length_eq_zero hlength]
      exact ⟨rfl, List.nil_subset _⟩
    next =>
      split
      next error _ => exact fun h => absurd h error.2
      next => exact fun _ => ⟨rfl, List.subset_append_right ..⟩

/-- **What a call that returns does.** -/
theorem returns_spec (h : autoPartitionGetDeviceIDs config P call L = some (result, L')) :
    L' = (returnedDevices config P call.answers (parentDevices P call L).2.1
        (parentDevices P call L).2.2).2 ∧
      result.errorCode = (parentDevices P call L).1 ∧
      ∀ returned, returned = (returnedDevices config P call.answers (parentDevices P call L).2.1
          (parentDevices P call L).2.2).1 → result.errorCode = clSuccess →
        returned.length < 2 ^ 32 ∧
        result.devices = returned.zipIdx.filter (fun store => store.2 < call.numEntries.toNat) ∧
        result.numDevices =
          if call.numDevices then some (UInt32.ofNat returned.length) else none := by
  unfold autoPartitionGetDeviceIDs at h
  dsimp only at h
  split at h
  next hcode =>
    split at h
    next hfits =>
      cases h
      refine ⟨rfl, rfl, ?_⟩
      rintro returned rfl _
      exact ⟨hfits.1, rfl, rfl⟩
    next => cases h
  next hcode =>
    cases h
    exact ⟨rfl, rfl, fun _ _ hsuccess => absurd hsuccess hcode⟩

end

/-! ## Runs -/

/-- The devices of each platform, as a cache has them returned. -/
def devicesOf (config : Config) (P : Platform) (L : Layer) (platform : Handle) (deviceType : UInt64) :
    List Handle :=
  (P.devices platform deviceType).flatMap fun device =>
    returnDevices config device.1 (L.subDeviceCacheMap device.1)

/-- Storing what there is room for. -/
theorem filter_zipIdx_lt {α : Type*} (l : List α) (n k : Nat) :
    ((l.zipIdx k).filter fun store => store.2 < k + n) = (l.take n).zipIdx k := by
  induction l generalizing n k with
  | nil => simp
  | cons a l ih =>
    cases n with
    | zero =>
      refine List.filter_eq_nil_iff.mpr fun store hstore => ?_
      have hle : k ≤ store.2 := List.le_snd_of_mem_zipIdx hstore
      simpa using hle
    | succ n =>
      have hhead : k < k + (n + 1) := by omega
      rw [List.zipIdx_cons, List.filter_cons, if_pos (decide_eq_true hhead), List.take_succ_cons,
        List.zipIdx_cons, ← ih n (k + 1)]
      simp only [Nat.add_assoc, Nat.add_comm 1 n]

section

variable {call : Call} {L L' : Layer} {result : Result}

/-- What a successful call stores. -/
theorem answered_of_returns (hreturns :
    autoPartitionGetDeviceIDs config P call L = some (result, L'))
    (hsuccess : result.errorCode = clSuccess) (hfilled : L.Filled)
    (h : WithoutMishap config P L call) :
    Answered (devicesOf config P L') call result L' ∧
      ∀ device ∈ P.devices call.platform call.deviceType, Settled config P L' device.1 := by
  have hnone := noMishap_parentDevices h
  obtain ⟨hL', hcode, hstored⟩ := returns_spec hreturns
  obtain ⟨hparents, hgiven⟩ := parentDevices_success (hcode.symm.trans hsuccess)
  have hsettled := settled_returnedDevices hnone
  have hfilled' : L'.Filled := hL' ▸ hfilled.parentDevices.returnedDevices hnone
  have hproduced : (parentDevices P call L).2.2.produced ⊆ L'.produced :=
    hL' ▸ produced_returnedDevices
  rw [← hL', hparents] at hsettled
  have hlist : devicesOf config P L' call.platform call.deviceType =
      (returnedDevices config P call.answers (parentDevices P call L).2.1
        (parentDevices P call L).2.2).1 := by
    rw [returnedDevices_eq hnone, ← hL', hparents, List.flatMap_map]
    rfl
  obtain ⟨hlength, hdevices, hnumDevices⟩ := hstored _ hlist hsuccess
  refine ⟨⟨?_, ?_, ?_⟩, fun device hdevice => hsettled device.1 (List.mem_map_of_mem hdevice)⟩
  · have hstores := filter_zipIdx_lt (devicesOf config P L' call.platform call.deviceType)
      call.numEntries.toNat 0
    rw [Nat.zero_add] at hstores
    rw [hdevices, hstores]
  · intro hpointer
    rw [hnumDevices, if_pos hpointer, Option.map_some, UInt32.toNat_ofNat']
    exact congrArg some (Nat.mod_eq_of_lt hlength)
  · intro device hdevice
    obtain ⟨parent, hparent, hreturned⟩ := List.mem_flatMap.mp hdevice
    rcases mem_returnDevices hreturned with rfl | hcached
    · exact ⟨parent, hproduced (hgiven hparent), rfl⟩
    · exact hfilled' parent.1 device hcached

/-- What is settled is not changed by a call. -/
theorem Settled.step {device : Handle} (h : Settled config P L device) :
    ((system config P).step L call).subDeviceCacheMap device = L.subDeviceCacheMap device := by
  dsimp only [system]
  split
  next hreturns =>
    rw [(returns_spec hreturns).1, Settled.returnedDevices, parentDevices_cache]
    exact h.of_eq (congrFun parentDevices_cache device)
  next => rfl

/-- A step without a mishap leaves the lists filled. -/
theorem Layer.Filled.step (hfilled : L.Filled) (h : WithoutMishap config P L call) :
    ((system config P).step L call).Filled := by
  dsimp only [system]
  split
  next hreturns =>
    exact (returns_spec hreturns).1 ▸
      hfilled.parentDevices.returnedDevices (noMishap_parentDevices h)
  next => exact hfilled

end

/-- What is settled is not changed by a run. -/
theorem Settled.exec {L : Layer} {device : Handle} (h : Settled config P L device)
    (calls : List Call) :
    ((system config P).exec L calls).subDeviceCacheMap device = L.subDeviceCacheMap device := by
  induction calls generalizing L with
  | nil => rfl
  | cons call calls ih =>
    have hstep : ((system config P).step L call).subDeviceCacheMap device =
        L.subDeviceCacheMap device := h.step
    exact (ih (h.of_eq hstep)).trans hstep

/-- The devices of a run without mishaps are those of the cache at its end. -/
theorem answered_of_withoutMishap {L : Layer} (hfilled : L.Filled) {calls : List Call}
    (h : (system config P).Each (WithoutMishap config P) L calls) :
    (system config P).Each
      (fun L' call => ∀ result L'', autoPartitionGetDeviceIDs config P call L' = some (result, L'') →
        result.errorCode = clSuccess →
          Answered (devicesOf config P ((system config P).exec L calls)) call result L'') L calls := by
  induction calls generalizing L with
  | nil => trivial
  | cons call calls ih =>
    refine ⟨?_, ih (hfilled.step h.1) h.2⟩
    intro result L' hreturns hsuccess
    obtain ⟨hanswered, hsettled⟩ := answered_of_returns hreturns hsuccess hfilled h.1
    have hstep : (system config P).step L call = L' := by
      dsimp only [system]
      rw [hreturns]
    -- the cache says the same of these devices at the end of the run
    have hsame : devicesOf config P ((system config P).exec L (call :: calls)) call.platform
        call.deviceType = devicesOf config P L' call.platform call.deviceType := by
      refine List.flatMap_congr fun device hdevice => ?_
      have hexec := (hsettled device hdevice).exec calls
      rw [← hstep] at hexec ⊢
      exact congrArg (returnDevices config device.1) hexec
    exact ⟨hsame ▸ hanswered.stores, hsame ▸ hanswered.count, hsame ▸ hanswered.produced⟩

/-- **Without mishaps all successful calls answer with the same devices**, all of them given out by
the driver. -/
theorem lawful_of_withoutMishap (config : Config) (P : Platform) (calls : List Call)
    (h : (system config P).Each (WithoutMishap config P) {} calls) : Lawful config P calls :=
  ⟨_, answered_of_withoutMishap (by rintro parent device ⟨⟩) h⟩

/-- One device with two sub-devices. -/
def twoSubDevices : Platform where
  devices _ _ := [⟨1, by decide⟩]
  devices_lt _ _ := by decide
  numSubDevices device _ := if device = 1 then 2 else 0
  numSubDevices_null _ := rfl

/-- A call with room for three devices. -/
def roomForThree (partition : PartitionAnswers) : Call :=
  ⟨1, 4, 3, true, true, { partition := fun _ _ => partition }⟩

def created : PartitionAnswers := { create := .ok fun i => ⟨10 + i, by simp [null]⟩ }

def notCreated : PartitionAnswers := { create := .error ⟨-6, by decide⟩ }

/-- The call, where the driver does not list the devices. -/
def notListed : Call :=
  { roomForThree notCreated with
    answers := { fill := some ⟨-6, by decide⟩, partition := fun _ _ => notCreated } }

/-- A device that is listed at the second try and is partitioned then, once and for all. -/
theorem lawful_partitioned :
    Lawful { autoPartitionAllSubDevices := true } twoSubDevices
      [notListed, roomForThree created, roomForThree notCreated] := by
  refine lawful_of_withoutMishap _ _ _ ⟨fun _ hfill => (nomatch hfill), ?_, ?_, trivial⟩
  · intro _ _ device hdevice _
    rw [List.mem_singleton.mp hdevice]
    exact ⟨_, rfl⟩
  · -- the sub-devices are in the cache
    intro _ _ device hdevice hempty
    rw [List.mem_singleton.mp hdevice] at hempty
    exact absurd hempty (by decide)

/-- **The handles of a vector that the driver did not fill are returned.** -/
theorem unfilled_returned :
    ¬ Lawful { autoPartitionAllSubDevices := true } twoSubDevices
      [roomForThree notCreated] := by
  rintro ⟨devices, hanswered, _⟩
  obtain ⟨hstores, -, hproduced⟩ := hanswered _ _ rfl rfl
  have hnull : null ∈ devices 1 4 := by
    have hmem : (null, 0) ∈ ((devices 1 4).take 3).zipIdx := hstores ▸ List.mem_cons_self
    exact List.mem_of_mem_take (List.fst_mem_of_mem_zipIdx hmem)
  obtain ⟨given, _, hval⟩ := hproduced null hnull
  exact given.2 hval

/-- A device that was not partitioned for an error is partitioned the next time. -/
theorem retried_differs :
    ¬ Lawful { autoPartitionAllSubDevices := true } twoSubDevices
      [roomForThree { created with count := some ⟨-6, by decide⟩ }, roomForThree created] := by
  rintro ⟨devices, hfirst, hsecond, _⟩
  have honce : [(1, 0)] = ((devices 1 4).take 3).zipIdx := (hfirst _ _ rfl rfl).stores
  have htwice : [(10, 0), (11, 1)] = ((devices 1 4).take 3).zipIdx := (hsecond _ _ rfl rfl).stores
  exact absurd (honce.trans htwice.symm) (by decide)

end CLIntercept.Device.AutoPartition
