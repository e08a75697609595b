import CLIntercept.Api
import CLIntercept.Lib.Run
import CLIntercept.Lib.Walk
import Mathlib.Logic.Function.Basic

/-!
# Devices and their parents

A device is named in reports by its index and those of its parents, up to a root device and its
platform. What is known of a sub-device while it is live is in `m_SubDeviceInfoMap`; what was known
when a device was first looked at is in `m_DeviceInfoMap` and stays. `getDeviceIndexString` looks at
each device on its way up, so the links that it follows are those of `Layer.link`: the cached one of a
device that is cached, and the recorded one otherwise.

`getDeviceIndexString_isSome_iff` is that it ends exactly where the walk along these links does, and
`indexStrings_iff` says in which runs it always does.
-/

set_option autoImplicit false

namespace CLIntercept.Device.Hierarchy

open CLIntercept.Lib
open Relation

/-! ## The layer -/

structure SSubDeviceInfo where
  parentDevice : Handle
  subDeviceIndex : Nat
  deriving DecidableEq, Repr

/-- The part of `SDeviceInfo` that says where a device is. -/
structure SDeviceInfo where
  parentDevice : Handle := null
  platformIndex : Nat := 0
  deviceIndex : Nat := 0
  deriving DecidableEq, Repr

/-- The two maps. -/
structure Layer where
  subDeviceInfoMap : Handle → Option SSubDeviceInfo := fun _ => none
  deviceInfoMap : Handle → Option SDeviceInfo := fun _ => none

/-- `m_DeviceInfoMap[device]`, read. A missing entry is a default one. -/
def Layer.deviceInfo (L : Layer) (device : Handle) : SDeviceInfo :=
  (L.deviceInfoMap device).getD {}

/-- What is cached of a device that is not in `m_DeviceInfoMap`. `index` is what `getDeviceIndex`
finds: the indices of its platform and of the device in it. -/
def Layer.infoOf (L : Layer) (device : Handle) (index : Nat × Nat) : SDeviceInfo :=
  match L.subDeviceInfoMap device with
  | some info => ⟨info.parentDevice, 0, info.subDeviceIndex⟩
  | none => ⟨null, index.1, index.2⟩

def cacheDeviceInfo (device : Handle) (index : Nat × Nat) (L : Layer) : Layer :=
  if device ≠ null ∧ L.deviceInfoMap device = none then
    { L with
      deviceInfoMap := Function.update L.deviceInfoMap device (some (L.infoOf device index)) }
  else L

/-- The loop over the new devices, from the last to the first. -/
def addSubDevices (parentDevice : Handle) (devices : List Handle) : Nat → Layer → Layer
  | 0, L => L
  | numSubDevices + 1, L =>
    let device := devices.getD numSubDevices null
    addSubDevices parentDevice devices numSubDevices
      (if device ≠ null then
        { L with
          subDeviceInfoMap :=
            Function.update L.subDeviceInfoMap device (some ⟨parentDevice, numSubDevices⟩) }
      else L)

/-- A device of which something is cached already only gets a warning. -/
def addSubDeviceInfo (parentDevice : Handle) (devices : List Handle) (L : Layer) : Layer :=
  addSubDevices parentDevice devices devices.length L

def checkRemoveDeviceInfo (device : Handle) (refCount : Nat) (L : Layer) : Layer :=
  if refCount = 1 then
    { L with subDeviceInfoMap := Function.update L.subDeviceInfoMap device none }
  else L

/-- The loop of `getDeviceIndexString`, with no result where `fuel` rounds do not end it. -/
def indexLoop (index : Handle → Nat × Nat) : Nat → Handle → String → Layer →
    Option (Handle × String × Layer)
  | 0, _, _, _ => none
  | fuel + 1, device, str, L =>
    let parent := (L.deviceInfo device).parentDevice
    if parent = null then some (device, str, L)
    else
      let L := cacheDeviceInfo parent (index parent) L
      indexLoop index fuel parent (toString (L.deviceInfo parent).deviceIndex ++ "." ++ str) L

def getDeviceIndexString (index : Handle → Nat × Nat) (fuel : Nat) (device : Handle) (L : Layer) :
    Option (String × Layer) :=
  let L := cacheDeviceInfo device (index device) L
  (indexLoop index fuel device (toString (L.deviceInfo device).deviceIndex) L).map
    fun (device, str, L) => (toString (L.deviceInfo device).platformIndex ++ "." ++ str, L)

/-! ## Runs -/

/-- The calls that change the maps. `getDeviceIndexString` does so through `cacheDeviceInfo`. -/
inductive Action
  | addSubDeviceInfo (parentDevice : Handle) (devices : List Handle)
  | checkRemoveDeviceInfo (device : Handle) (refCount : Nat)
  | cacheDeviceInfo (device : Handle) (index : Nat × Nat)
  deriving DecidableEq, Repr

def step (L : Layer) : Action → Layer
  | .addSubDeviceInfo parentDevice devices => addSubDeviceInfo parentDevice devices L
  | .checkRemoveDeviceInfo device refCount => checkRemoveDeviceInfo device refCount L
  | .cacheDeviceInfo device index => cacheDeviceInfo device index L

/-- Nothing is assumed of the calls. -/
def system : System Layer Action := ⟨step, fun _ _ => True⟩

/-! ## Links -/

/-- A handle that is not `NULL`. -/
def nonNull (device : Handle) : Option Handle := if device = null then none else some device

/-- The parent that is recorded of a live sub-device. -/
def Layer.recorded (L : Layer) (device : Handle) : Option Handle :=
  (L.subDeviceInfoMap device).bind fun info => nonNull info.parentDevice

/-- The parent that is cached. -/
def Layer.cached (L : Layer) (device : Handle) : Option Handle :=
  (L.deviceInfoMap device).bind fun info => nonNull info.parentDevice

/-- **The link that the walk follows**. -/
def Layer.link (L : Layer) (device : Handle) : Option Handle :=
  if device = null then none
  else if (L.deviceInfoMap device).isSome then L.cached device else L.recorded device

/-- **The property**: no cached links form a cycle, and `getDeviceIndexString` ends for every
device, whatever `getDeviceIndex` finds. -/
structure IndexStringsEnd (L : Layer) : Prop where
  acyclic : ∀ device, ¬TransGen (Link L.cached) device device
  ends : ∀ index device, device ≠ null → ∃ fuel, (getDeviceIndexString index fuel device L).isSome

/-- **The condition on a call**: new devices that are not cached yet are not met on the way up from
their parent. -/
def AddsNoLoop (L : Layer) : Action → Prop
  | .addSubDeviceInfo parentDevice devices => parentDevice ≠ null → ∀ device ∈ devices,
      device ≠ null → L.deviceInfoMap device = none → ¬ReflTransGen (Link L.link) parentDevice device
  | .checkRemoveDeviceInfo _ _ | .cacheDeviceInfo _ _ => True

/-! ## What a call does to the links -/

/-- A parent is one unless it is `NULL`. -/
theorem nonNull_eq_some_iff {a b : Handle} : nonNull a = some b ↔ a = b ∧ b ≠ null := by
  unfold nonNull
  split
  next h =>
    refine ⟨nofun, ?_⟩
    rintro ⟨rfl, hne⟩
    exact absurd h hne
  next h =>
    rw [Option.some_inj]
    refine ⟨?_, And.left⟩
    rintro rfl
    exact ⟨rfl, h⟩

/-- What is cached of a device says its parent. -/
theorem link_of_cached {L : Layer} {device : Handle} {info : SDeviceInfo} (hne : device ≠ null)
    (h : L.deviceInfoMap device = some info) : L.link device = nonNull info.parentDevice := by
  simp only [Layer.link, hne, if_false, h, Option.isSome_some, if_true, Layer.cached,
    Option.bind_some]

/-- Otherwise the record of the sub-devices does. -/
theorem link_of_not_cached {L : Layer} {device : Handle} (hne : device ≠ null)
    (h : L.deviceInfoMap device = none) : L.link device = L.recorded device := by
  simp only [Layer.link, hne, if_false, h, Option.isSome_none, Bool.false_eq_true]

/-- What is cached of a device says what was recorded. -/
theorem nonNull_infoOf (L : Layer) (device : Handle) (index : Nat × Nat) :
    nonNull (L.infoOf device index).parentDevice = L.recorded device := by
  unfold Layer.infoOf Layer.recorded
  cases L.subDeviceInfoMap device with
  | none => rfl
  | some info => rfl

/-- **Caching changes no link.** -/
@[simp] theorem link_cacheDeviceInfo (device : Handle) (index : Nat × Nat) (L : Layer) :
    (cacheDeviceInfo device index L).link = L.link := by
  unfold cacheDeviceInfo
  split
  next h =>
    funext d
    by_cases hd : d = null
    · simp only [Layer.link, hd, if_true]
    by_cases hdev : d = device
    · subst hdev
      have hcached : Function.update L.deviceInfoMap d (some (L.infoOf d index)) d =
          some (L.infoOf d index) := Function.update_self ..
      rw [link_of_not_cached hd h.2, link_of_cached hd hcached, nonNull_infoOf]
    · simp only [Layer.link, hd, if_false, Function.update_of_ne hdev, Layer.cached, Layer.recorded]
  next => rfl

theorem recorded_init (device : Handle) : ({} : Layer).recorded device = none := rfl

/-- The last release of a device forgets its record. -/
theorem recorded_checkRemoveDeviceInfo (device : Handle) (refCount : Nat) (L : Layer)
    (device' : Handle) :
    (checkRemoveDeviceInfo device refCount L).recorded device' =
      if refCount = 1 ∧ device' = device then none else L.recorded device' := by
  unfold checkRemoveDeviceInfo
  by_cases hcount : refCount = 1
  · by_cases hdev : device' = device
    · simp [hcount, hdev, Layer.recorded]
    · simp [hcount, hdev, Layer.recorded]
  · simp [hcount]

@[simp] theorem deviceInfoMap_checkRemoveDeviceInfo (device : Handle) (refCount : Nat) (L : Layer) :
    (checkRemoveDeviceInfo device refCount L).deviceInfoMap = L.deviceInfoMap := by
  unfold checkRemoveDeviceInfo
  split <;> rfl

@[simp] theorem recorded_cacheDeviceInfo (device : Handle) (index : Nat × Nat) (L : Layer) :
    (cacheDeviceInfo device index L).recorded = L.recorded := by
  unfold cacheDeviceInfo
  split <;> rfl

/-- Removing takes links away. -/
theorem link_checkRemoveDeviceInfo {device : Handle} {refCount : Nat} {L : Layer} {a b : Handle}
    (h : (checkRemoveDeviceInfo device refCount L).link a = some b) : L.link a = some b := by
  by_cases ha : a = null
  · simp [Layer.link, ha] at h
  cases hc : L.deviceInfoMap a with
  | some info =>
    rw [link_of_cached ha ((congrFun (deviceInfoMap_checkRemoveDeviceInfo ..) a).trans hc)] at h
    rwa [link_of_cached ha hc]
  | none =>
    rw [link_of_not_cached ha (by rw [deviceInfoMap_checkRemoveDeviceInfo, hc]),
      recorded_checkRemoveDeviceInfo] at h
    split at h
    · cases h
    · rwa [link_of_not_cached ha hc]

@[simp] theorem deviceInfoMap_addSubDevices (parentDevice : Handle) (devices : List Handle)
    (n : Nat) (L : Layer) :
    (addSubDevices parentDevice devices n L).deviceInfoMap = L.deviceInfoMap := by
  induction n generalizing L with
  | zero => rfl
  | succ n ih =>
    rw [addSubDevices, ih]
    split <;> rfl

/-- The new devices are recorded with their parent, the others as they were. -/
theorem recorded_addSubDevices (parentDevice : Handle) (devices : List Handle) (n : Nat) (L : Layer)
    (device : Handle) :
    (addSubDevices parentDevice devices n L).recorded device =
      if device ≠ null ∧ device ∈ devices.take n then nonNull parentDevice
      else L.recorded device := by
  induction n generalizing L with
  | zero => rw [addSubDevices, if_neg fun h => absurd h.2 List.not_mem_nil]
  | succ n ih =>
    rw [addSubDevices, ih]
    have hmem : device ≠ null ∧ device ∈ devices.take (n + 1) ↔
        (device ≠ null ∧ device ∈ devices.take n) ∨
          (devices.getD n null ≠ null ∧ devices.getD n null = device) := by
      rw [List.take_add_one, List.mem_append, List.getD_eq_getElem?_getD]
      cases devices[n]? with
      | none => simp
      | some d =>
        simp only [Option.toList_some, List.mem_singleton, Option.getD_some]
        grind
    by_cases htake : device ≠ null ∧ device ∈ devices.take n
    · rw [if_pos htake, if_pos (hmem.mpr (.inl htake))]
    rw [if_neg htake]
    by_cases hne : devices.getD n null = null
    · rw [if_neg (not_not.mpr hne), if_neg fun h => (hmem.mp h).elim htake fun h => h.1 hne]
    rw [if_pos hne]
    by_cases hdev : devices.getD n null = device
    · rw [if_pos (hmem.mpr (.inr ⟨hne, hdev⟩))]
      simp only [Layer.recorded, hdev, Function.update_self, Option.bind_some]
    · rw [if_neg fun h => (hmem.mp h).elim htake fun h => hdev h.2]
      simp only [Layer.recorded, Function.update_of_ne (Ne.symm hdev)]

/-- New sub-devices are recorded under their parent. -/
theorem recorded_addSubDeviceInfo (parentDevice : Handle) (devices : List Handle) (L : Layer)
    (device : Handle) :
    (addSubDeviceInfo parentDevice devices L).recorded device =
      if device ≠ null ∧ device ∈ devices then nonNull parentDevice else L.recorded device := by
  rw [addSubDeviceInfo, recorded_addSubDevices, List.take_length]

/-- **New devices that are not cached yet are linked to their parent.** -/
theorem link_addSubDeviceInfo (parentDevice : Handle) (devices : List Handle) (L : Layer) :
    (addSubDeviceInfo parentDevice devices L).link =
      relink L.link
        (fun device => device ∈ devices ∧ device ≠ null ∧ (L.deviceInfoMap device).isNone)
        (nonNull parentDevice) := by
  funext device
  unfold relink
  have hsame : (addSubDeviceInfo parentDevice devices L).deviceInfoMap device =
      L.deviceInfoMap device := congrFun (deviceInfoMap_addSubDevices ..) device
  by_cases hne : device = null
  · rw [if_neg fun h => h.2.1 hne]
    simp only [Layer.link, hne, if_true]
  cases hc : L.deviceInfoMap device with
  | some info =>
    have hnew : ¬(device ∈ devices ∧ device ≠ null ∧ (L.deviceInfoMap device).isNone = true) := by
      rw [hc]
      exact fun h => nomatch h.2.2
    rw [if_neg hnew, link_of_cached hne hc, link_of_cached hne (hsame.trans hc)]
  | none =>
    rw [link_of_not_cached hne hc, link_of_not_cached hne (hsame.trans hc),
      recorded_addSubDeviceInfo]
    simp only [hc, ne_eq, hne, not_false_eq_true, true_and, Option.isNone_none, and_true]

/-! ## The walk -/

/-- A device that was just cached is, and one that was cached still is. -/
theorem cached_cacheDeviceInfo {device : Handle} (hne : device ≠ null) (index : Nat × Nat)
    (L : Layer) : ∃ info, (cacheDeviceInfo device index L).deviceInfoMap device = some info := by
  unfold cacheDeviceInfo
  split
  next => exact ⟨_, Function.update_self ..⟩
  next h =>
    exact Option.ne_none_iff_exists'.mp fun hnone => h ⟨hne, hnone⟩

/-- The parent that the loop goes on to is the one of the link. -/
theorem nonNull_deviceInfo {L : Layer} {device : Handle} (hne : device ≠ null)
    (hcached : ∃ info, L.deviceInfoMap device = some info) :
    nonNull (L.deviceInfo device).parentDevice = L.link device := by
  obtain ⟨info, hinfo⟩ := hcached
  rw [link_of_cached hne hinfo, Layer.deviceInfo, hinfo]
  rfl

/-- **The loop ends exactly where the walk does**, from a device that is cached. -/
theorem indexLoop_isSome_iff (index : Handle → Nat × Nat) {device : Handle} (hne : device ≠ null)
    (str : String) {L : Layer} (hcached : ∃ info, L.deviceInfoMap device = some info) :
    (∃ fuel, (indexLoop index fuel device str L).isSome) ↔ Ends L.link device := by
  constructor
  · rintro ⟨fuel, h⟩
    induction fuel generalizing device str L with
    | zero => cases h
    | succ fuel ih =>
      have hlink := nonNull_deviceInfo hne hcached
      by_cases hparent : (L.deviceInfo device).parentDevice = null
      · exact .stop (by rw [← hlink, nonNull, if_pos hparent])
      · rw [indexLoop, if_neg hparent] at h
        rw [nonNull, if_neg hparent] at hlink
        have hends := ih hparent _ (cached_cacheDeviceInfo hparent _ L) h
        rw [link_cacheDeviceInfo] at hends
        exact .step hlink.symm hends
  · intro h
    generalize hf : L.link = f at h
    induction h generalizing str L with
    | @stop device hnone =>
      refine ⟨1, ?_⟩
      have hlink := nonNull_deviceInfo hne hcached
      have hparent : (L.deviceInfo device).parentDevice = null := by
        by_contra hparent
        rw [nonNull, if_neg hparent, hf, hnone] at hlink
        cases hlink
      rw [indexLoop, if_pos hparent]
      rfl
    | @step device parent hsome _ ih =>
      have hlink := nonNull_deviceInfo hne hcached
      rw [hf, hsome] at hlink
      obtain ⟨rfl, hparent⟩ := nonNull_eq_some_iff.mp hlink
      obtain ⟨fuel, hfuel⟩ := ih hparent _
        (cached_cacheDeviceInfo hparent (index (L.deviceInfo device).parentDevice) L)
        ((link_cacheDeviceInfo ..).trans hf)
      refine ⟨fuel + 1, ?_⟩
      rw [indexLoop, if_neg hparent]
      exact hfuel

/-- **`getDeviceIndexString` ends exactly where the walk does.** -/
theorem getDeviceIndexString_isSome_iff (index : Handle → Nat × Nat) {device : Handle}
    (hne : device ≠ null) (L : Layer) :
    (∃ fuel, (getDeviceIndexString index fuel device L).isSome) ↔ Ends L.link device := by
  simp only [getDeviceIndexString, Option.isSome_map]
  rw [indexLoop_isSome_iff index hne _ (cached_cacheDeviceInfo hne (index device) L),
    link_cacheDeviceInfo]

/-- What the loop leaves is what calls of `cacheDeviceInfo` leave. -/
theorem indexLoop_exec {index : Handle → Nat × Nat} {fuel : Nat} {device device' : Handle}
    {str str' : String} {L L' : Layer}
    (h : indexLoop index fuel device str L = some (device', str', L')) :
    ∃ devices : List Handle,
      L' = system.exec L (devices.map fun d => .cacheDeviceInfo d (index d)) := by
  induction fuel generalizing device str L with
  | zero => cases h
  | succ fuel ih =>
    rw [indexLoop] at h
    dsimp only at h
    by_cases hparent : (L.deviceInfo device).parentDevice = null
    · rw [if_pos hparent] at h
      cases h
      exact ⟨[], rfl⟩
    · rw [if_neg hparent] at h
      obtain ⟨devices, hdevices⟩ := ih h
      exact ⟨(L.deviceInfo device).parentDevice :: devices, hdevices⟩

/-- **`getDeviceIndexString` is a run of `cacheDeviceInfo`**, so the runs have all that it does. -/
theorem getDeviceIndexString_exec {index : Handle → Nat × Nat} {fuel : Nat} {device : Handle}
    {str : String} {L L' : Layer} (h : getDeviceIndexString index fuel device L = some (str, L')) :
    ∃ devices : List Handle,
      L' = system.exec L (devices.map fun d => .cacheDeviceInfo d (index d)) := by
  unfold getDeviceIndexString at h
  obtain ⟨⟨_, _, L''⟩, hloop, heq⟩ := Option.map_eq_some_iff.mp h
  obtain ⟨devices, hdevices⟩ := indexLoop_exec hloop
  cases heq
  exact ⟨device :: devices, hdevices⟩

/-! ## When it always ends -/

/-- **The property is about the links**: every walk along them ends. -/
theorem indexStringsEnd_iff (L : Layer) : IndexStringsEnd L ↔ ∀ device, Ends L.link device := by
  constructor
  · intro h device
    by_cases hne : device = null
    · exact .stop (by rw [Layer.link, if_pos hne])
    · exact (getDeviceIndexString_isSome_iff (fun _ => (0, 0)) hne L).mp (h.ends _ device hne)
  · intro h
    refine ⟨fun device hloop => ?_, fun index device hne => ?_⟩
    · -- a cached link from a device that is not null is the one that the walk follows
      have hnull : ∀ a b, Link L.cached a b → b ≠ null := by
        intro a b hab
        obtain ⟨info, _, hparent⟩ := Option.bind_eq_some_iff.mp hab
        exact (nonNull_eq_some_iff.mp hparent).2
      have hlink : ∀ a b, a ≠ null → Link L.cached a b → Link L.link a b := by
        intro a b ha hab
        obtain ⟨info, hinfo, hparent⟩ := Option.bind_eq_some_iff.mp hab
        exact (link_of_cached ha hinfo).trans hparent
      have hpath : ∀ b, TransGen (Link L.cached) device b → b ≠ null ∧
          (device ≠ null → TransGen (Link L.link) device b) := by
        intro b hb
        induction hb with
        | single hab => exact ⟨hnull _ _ hab, fun hne => .single (hlink _ _ hne hab)⟩
        | tail _ hbc ih => exact ⟨hnull _ _ hbc, fun hne => (ih.2 hne).tail (hlink _ _ ih.1 hbc)⟩
      obtain ⟨hne, hpath⟩ := hpath device hloop
      exact (h device).not_transGen (hpath hne)
    · exact (getDeviceIndexString_isSome_iff index hne L).mpr (h device)

/-- One call. -/
theorem step_indexStringsEnd_iff {L : Layer} (h : IndexStringsEnd L) (a : Action) :
    IndexStringsEnd (step L a) ↔ AddsNoLoop L a := by
  rw [indexStringsEnd_iff] at h ⊢
  cases a with
  | addSubDeviceInfo parentDevice devices =>
    simp only [step, AddsNoLoop]
    rw [link_addSubDeviceInfo, forall_ends_relink_iff h]
    simp only [nonNull_eq_some_iff, Option.isNone_iff_eq_none]
    constructor
    · intro hloops hne device hmem hdevice hcached hpath
      exact hloops parentDevice ⟨rfl, hne⟩ device hpath ⟨hmem, hdevice, hcached⟩
    · rintro hok parent ⟨rfl, hne⟩ device hpath ⟨hmem, hdevice, hcached⟩
      exact hok hne device hmem hdevice hcached hpath
  | checkRemoveDeviceInfo device refCount =>
    exact iff_of_true (fun d => (h d).mono fun a b => link_checkRemoveDeviceInfo) trivial
  | cacheDeviceInfo device index =>
    simp only [step, link_cacheDeviceInfo]
    exact iff_of_true h trivial

theorem indexStringsEnd_init : IndexStringsEnd {} := by
  refine (indexStringsEnd_iff {}).mpr fun device => .stop ?_
  by_cases hne : device = null
  · exact if_pos hne
  · exact link_of_not_cached hne rfl

/-- **When every walk ends in every state of a run**, whatever the calls are. -/
theorem indexStrings_iff (as : List Action) :
    system.Always IndexStringsEnd {} as ↔ system.Each AddsNoLoop {} as :=
  System.always_iff_each (I := fun _ => True) (fun _ _ _ _ => trivial)
    (fun _ a _ h _ => step_indexStringsEnd_iff h a) trivial indexStringsEnd_init
    (System.each_of_forall (fun _ _ => trivial) _ _)

/-! ## Handles that come back -/

/-- **What the driver promises**, given which devices are root devices: it gives a new sub-device a
handle that no other has, and no device becomes its own ancestor. -/
def Promised (isRoot : Handle → Bool) (L : Layer) : Action → Prop
  | .addSubDeviceInfo parentDevice devices =>
    (isRoot parentDevice ∨ (L.subDeviceInfoMap parentDevice).isSome) ∧ devices.Nodup ∧
      (∀ device ∈ devices, device ≠ null ∧ isRoot device = false ∧
        L.subDeviceInfoMap device = none) ∧
      ∀ device, ¬TransGen (Link (addSubDeviceInfo parentDevice devices L).recorded) device device
  | .checkRemoveDeviceInfo _ _ | .cacheDeviceInfo _ _ => True

/-- Where new devices come below their parent in some order of the devices, and the recorded ones
already are, none becomes its own ancestor. -/
theorem not_transGen_recorded (rank : Handle → Nat) {parentDevice : Handle} {devices : List Handle}
    {L : Layer} (hnew : ∀ device ∈ devices, rank parentDevice < rank device)
    (hold : ∀ a b, Link L.recorded a b → rank b < rank a) (device : Handle) :
    ¬TransGen (Link (addSubDeviceInfo parentDevice devices L).recorded) device device := by
  refine not_transGen_of_rank rank (fun a b hab => ?_) device
  rw [Link, recorded_addSubDeviceInfo] at hab
  split at hab
  next h =>
    obtain ⟨rfl, -⟩ := nonNull_eq_some_iff.mp hab
    exact hnew a h.2
  next => exact hold a b hab

/-- Device 1 is a root. 2 is made from it and 3 from 2, and 3 is looked at. Both are released, and
then 3 is made from 1 and 2 from 3. -/
def recycled : List Action :=
  [.addSubDeviceInfo 1 [2], .addSubDeviceInfo 2 [3], .cacheDeviceInfo 3 (0, 0),
    .checkRemoveDeviceInfo 3 1, .checkRemoveDeviceInfo 2 1, .addSubDeviceInfo 1 [3],
    .addSubDeviceInfo 3 [2]]

theorem recycled_promised : system.Each (Promised (· = 1)) {} recycled := by
  refine ⟨⟨by decide, by decide, by decide, ?_⟩, ⟨by decide, by decide, by decide, ?_⟩, trivial,
    trivial, trivial, ⟨by decide, by decide, by decide, ?_⟩, ⟨by decide, by decide, by decide, ?_⟩,
    trivial⟩
  · exact not_transGen_recorded id (by decide) fun a b hab => nomatch hab
  all_goals
    simp only [system, step]
  · refine not_transGen_recorded id (by decide) fun a b hab => ?_
    simp only [Link, recorded_addSubDeviceInfo, recorded_init, List.mem_singleton] at hab
    grind [nonNull_eq_some_iff]
  · refine not_transGen_recorded id (by decide) fun a b hab => ?_
    simp only [Link, recorded_checkRemoveDeviceInfo, recorded_cacheDeviceInfo,
      recorded_addSubDeviceInfo, recorded_init, List.mem_singleton] at hab
    grind
  · -- 2 is below 3 now
    refine not_transGen_recorded (fun d => if d = 2 then 4 else d) (by decide) fun a b hab => ?_
    simp only [Link, recorded_checkRemoveDeviceInfo, recorded_cacheDeviceInfo,
      recorded_addSubDeviceInfo, recorded_init, List.mem_singleton] at hab
    grind [nonNull_eq_some_iff]

/-- The cached link from 3 is still the one to 2, and the walk from 2 comes back to it. -/
theorem recycled_loops :
    ∃ as, system.Each (Promised (· = 1)) {} as ∧ ¬system.Always IndexStringsEnd {} as := by
  refine ⟨recycled, recycled_promised, fun h => ?_⟩
  have hends := (indexStringsEnd_iff _).mp h.last 2
  have hup : Link (system.exec {} recycled).link 2 3 := rfl
  have hback : Link (system.exec {} recycled).link 3 2 := rfl
  exact hends.not_transGen (.head hup (.single hback))

end CLIntercept.Device.Hierarchy
