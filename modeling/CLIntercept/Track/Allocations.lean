import CLIntercept.Config
import CLIntercept.Lib.Run
import CLIntercept.Track.Objects

/-!
# Live allocations

The SVM and USM allocations that the layer tracks beside those that the driver has live. Five entry
points allocate and five free, each through one of the two maps. The driver is an adversary that
allocates ranges apart from every live one, and says of every free whether it has freed.

`TracksLive` says that the two maps together are the live allocations. `tracksLive_iff` says of
every run exactly which frees keep it so: those that free nothing live and those that free an
allocation that is in the map they remove it from. `clEnqueueSVMFree` removes nothing, and the
others remove what they are given, also when the driver did not free it.
-/

set_option autoImplicit false

namespace CLIntercept.Track.Allocations

open CLIntercept.Lib

/-! ## The entry points -/

/-- The two maps. -/
inductive Kind
  | svm
  | usm
  deriving DecidableEq, Repr

def allocInfoMap (o : Objects) : Kind → OrdMap Nat Nat
  | .svm => o.svmAllocInfoMap
  | .usm => o.usmAllocInfoMap

/-- `ADD_SVM_ALLOCATION` and `ADD_USM_ALLOCATION`. -/
def addAllocation (config : Config) (kind : Kind) (ptr size : Nat) (o : Objects) : Objects :=
  if ptr ≠ null && config.tracksAllocations then
    match kind with
    | .svm => addSVMAllocation ptr size o
    | .usm => addUSMAllocation ptr size o
  else o

/-- `REMOVE_SVM_ALLOCATION` and `REMOVE_USM_ALLOCATION`. -/
def removeAllocation (config : Config) (kind : Kind) (ptr : Nat) (o : Objects) : Objects :=
  if ptr ≠ null && config.tracksAllocations then
    match kind with
    | .svm => removeSVMAllocation ptr o
    | .usm => removeUSMAllocation ptr o
  else o

/-- The pointer of a USM allocation. With relaxed limits the driver is asked with new properties
first, and with those of the application if that gives null. -/
def usmPointer (relaxed : Option Nat) (retVal : Nat) : Nat :=
  match relaxed with
  | some ptr => if ptr = null then retVal else ptr
  | none => retVal

def clSVMAlloc (config : Config) (retVal size : Nat) (o : Objects) : Objects :=
  addAllocation config .svm retVal size o

def clSVMAllocWithPropertiesKHR (config : Config) (retVal size : Nat) (o : Objects) : Objects :=
  addAllocation config .svm retVal size o

def clHostMemAllocINTEL (config : Config) (relaxed : Option Nat) (retVal size : Nat) (o : Objects) :
    Objects :=
  addAllocation config .usm (usmPointer relaxed retVal) size o

def clDeviceMemAllocINTEL (config : Config) (relaxed : Option Nat) (retVal size : Nat)
    (o : Objects) : Objects :=
  addAllocation config .usm (usmPointer relaxed retVal) size o

def clSharedMemAllocINTEL (config : Config) (relaxed : Option Nat) (retVal size : Nat)
    (o : Objects) : Objects :=
  addAllocation config .usm (usmPointer relaxed retVal) size o

/-- None of the frees looks at what the driver answers. -/
def clSVMFree (config : Config) (svmPointer : Nat) (o : Objects) : Objects :=
  removeAllocation config .svm svmPointer o

def clSVMFreeWithPropertiesKHR (config : Config) (ptr : Nat) (o : Objects) : Objects :=
  removeAllocation config .svm ptr o

def clMemFreeINTEL (config : Config) (ptr : Nat) (o : Objects) : Objects :=
  removeAllocation config .usm ptr o

def clMemBlockingFreeINTEL (config : Config) (ptr : Nat) (o : Objects) : Objects :=
  removeAllocation config .usm ptr o

/-- The removal is a TODO in the source. -/
def clEnqueueSVMFree (_svmPointers : List Nat) (o : Objects) : Objects := o

/-! ## Runs against a driver -/

/-- The entry points that allocate, with what the driver answers. -/
inductive AllocCall
  | clSVMAlloc (retVal : Nat)
  | clSVMAllocWithPropertiesKHR (retVal : Nat)
  | clHostMemAllocINTEL (relaxed : Option Nat) (retVal : Nat)
  | clDeviceMemAllocINTEL (relaxed : Option Nat) (retVal : Nat)
  | clSharedMemAllocINTEL (relaxed : Option Nat) (retVal : Nat)
  deriving DecidableEq, Repr

/-- The pointer that the application gets. -/
def AllocCall.ptr : AllocCall → Nat
  | .clSVMAlloc retVal | .clSVMAllocWithPropertiesKHR retVal => retVal
  | .clHostMemAllocINTEL relaxed retVal | .clDeviceMemAllocINTEL relaxed retVal
  | .clSharedMemAllocINTEL relaxed retVal => usmPointer relaxed retVal

/-- The map that it goes to. -/
def AllocCall.kind : AllocCall → Kind
  | .clSVMAlloc _ | .clSVMAllocWithPropertiesKHR _ => .svm
  | .clHostMemAllocINTEL _ _ | .clDeviceMemAllocINTEL _ _ | .clSharedMemAllocINTEL _ _ => .usm

def AllocCall.apply (config : Config) (size : Nat) (o : Objects) : AllocCall → Objects
  | .clSVMAlloc retVal => Allocations.clSVMAlloc config retVal size o
  | .clSVMAllocWithPropertiesKHR retVal =>
    Allocations.clSVMAllocWithPropertiesKHR config retVal size o
  | .clHostMemAllocINTEL relaxed retVal =>
    Allocations.clHostMemAllocINTEL config relaxed retVal size o
  | .clDeviceMemAllocINTEL relaxed retVal =>
    Allocations.clDeviceMemAllocINTEL config relaxed retVal size o
  | .clSharedMemAllocINTEL relaxed retVal =>
    Allocations.clSharedMemAllocINTEL config relaxed retVal size o

/-- The entry points that free one pointer. -/
inductive FreeCall
  | clSVMFree
  | clSVMFreeWithPropertiesKHR
  | clMemFreeINTEL
  | clMemBlockingFreeINTEL
  deriving DecidableEq, Repr

/-- The map that they remove from. -/
def FreeCall.kind : FreeCall → Kind
  | .clSVMFree | .clSVMFreeWithPropertiesKHR => .svm
  | .clMemFreeINTEL | .clMemBlockingFreeINTEL => .usm

def FreeCall.apply (config : Config) (ptr : Nat) (o : Objects) : FreeCall → Objects
  | .clSVMFree => Allocations.clSVMFree config ptr o
  | .clSVMFreeWithPropertiesKHR => Allocations.clSVMFreeWithPropertiesKHR config ptr o
  | .clMemFreeINTEL => Allocations.clMemFreeINTEL config ptr o
  | .clMemBlockingFreeINTEL => Allocations.clMemBlockingFreeINTEL config ptr o

/-- The tracked objects, and the sizes of the live allocations by their bases. -/
structure State where
  objects : Objects := {}
  live : Nat → Option Nat := fun _ => none

/-- The calls. `freed` says whether the driver freed what it was given, `success` whether it took
the command, which is complete then: an application callback would have to free by itself. -/
inductive Action
  | alloc (c : AllocCall) (size : Nat)
  | free (c : FreeCall) (ptr : Nat) (freed : Bool)
  | enqueueSVMFree (svmPointers : List Nat) (success : Bool)
  deriving DecidableEq, Repr

section

variable (config : Config)

/-- One call. With null enqueues the command does not get to the driver. -/
def step (s : State) : Action → State
  | .alloc c size =>
    { objects := c.apply config size s.objects
      live := if c.ptr = null then s.live else Function.update s.live c.ptr (some size) }
  | .free c ptr freed =>
    { objects := c.apply config ptr s.objects
      live := if freed then Function.update s.live ptr none else s.live }
  | .enqueueSVMFree svmPointers success =>
    if config.nullEnqueue then s
    else
      { objects := clEnqueueSVMFree svmPointers s.objects
        live := fun base =>
          if success = true ∧ base ∈ svmPointers then none else s.live base }

/-- Two ranges have nothing in common. -/
def Apart (a b : Nat × Nat) : Prop := a.1 + a.2 ≤ b.1 ∨ b.1 + b.2 ≤ a.1

/-- **The driver's promise**: a range that it allocates is apart from every live one. -/
def legal (s : State) : Action → Prop
  | .alloc c size =>
    c.ptr ≠ null → ∀ base n, s.live base = some n → c.ptr ≠ base ∧ Apart (c.ptr, size) (base, n)
  | .free _ _ _ | .enqueueSVMFree _ _ => True

def system : System State Action where
  step := step config
  legal := legal

end

/-! ## What is tracked -/

/-- The two maps together are the live allocations, none is in both, and each has a number. -/
structure Recorded (s : State) : Prop where
  sizes : ∀ base, (s.objects.svmAllocInfoMap.get? base).or (s.objects.usmAllocInfoMap.get? base) =
    s.live base
  once : ∀ base, s.objects.svmAllocInfoMap.get? base = none ∨
    s.objects.usmAllocInfoMap.get? base = none
  numbered : ∀ base, (s.live base).isSome → (s.objects.memAllocNumberMap base).isSome

/-- **The property**: the maps hold exactly the live allocations, and what they hold is pairwise
apart. -/
structure TracksLive (s : State) : Prop extends Recorded s where
  apart : ∀ a b, s.objects.Allocated a → s.objects.Allocated b → a ≠ b → Apart a b

/-- What the driver has live, in any run. -/
structure DriverInv (s : State) : Prop where
  null : s.live null = none
  apart : ∀ base base' n n', s.live base = some n → s.live base' = some n' → base ≠ base' →
    Apart (base, n) (base', n')

/-- An entry in one of the maps is a live allocation. -/
theorem Recorded.live_of_allocated {s : State} (h : Recorded s) {alloc : Nat × Nat}
    (ha : s.objects.Allocated alloc) : s.live alloc.1 = some alloc.2 := by
  rw [← h.sizes]
  rcases ha with ha | ha
  · rw [OrdMap.get?_eq_some_iff.mpr ha, Option.some_or]
  · have husm := OrdMap.get?_eq_some_iff.mpr ha
    rcases h.once alloc.1 with hsvm | hnone
    · rw [hsvm, husm, Option.none_or]
    · exact nomatch hnone.symm.trans husm

/-- Live allocations are apart, so tracked ones are. -/
theorem tracksLive_iff_recorded {s : State} (hd : DriverInv s) : TracksLive s ↔ Recorded s := by
  refine ⟨fun h => h.toRecorded, fun h => ⟨h, fun a b ha hb hne => ?_⟩⟩
  have hla := h.live_of_allocated ha
  have hlb := h.live_of_allocated hb
  refine hd.apart a.1 b.1 a.2 b.2 hla hlb fun hbase => hne (Prod.ext hbase ?_)
  rw [hbase, hlb] at hla
  exact (Option.some.inj hla).symm

/-! ## One step -/

theorem AllocCall.apply_eq (config : Config) (c : AllocCall) (size : Nat) (o : Objects) :
    c.apply config size o = addAllocation config c.kind c.ptr size o := by
  cases c <;> rfl

theorem FreeCall.apply_eq (config : Config) (c : FreeCall) (ptr : Nat) (o : Objects) :
    c.apply config ptr o = removeAllocation config c.kind ptr o := by
  cases c <;> rfl

/-- Nothing is broken by what is no longer live. -/
theorem driverInv_mono {s s' : State} (h : DriverInv s)
    (hsub : ∀ base n, s'.live base = some n → s.live base = some n) : DriverInv s' := by
  constructor
  · cases hnull : s'.live null with
    | none => rfl
    | some n => exact nomatch h.null.symm.trans (hsub null n hnull)
  · intro base base' n n' hb hb' hne
    exact h.apart base base' n n' (hsub base n hb) (hsub base' n' hb') hne

/-- A range that is apart from the live ones may become one of them. -/
theorem driverInv_insert {s s' : State} (h : DriverInv s) {ptr size : Nat} (hptr : ptr ≠ null)
    (hlive : s'.live = Function.update s.live ptr (some size))
    (hapart : ∀ base n, s.live base = some n → Apart (ptr, size) (base, n)) : DriverInv s' := by
  constructor
  · rw [hlive, Function.update_of_ne hptr.symm]
    exact h.null
  · intro base base' n n' hb hb' hne
    rw [hlive] at hb hb'
    by_cases hbase : base = ptr
    · subst hbase
      rw [Function.update_self] at hb
      rw [Function.update_of_ne hne.symm] at hb'
      cases hb
      exact hapart base' n' hb'
    · rw [Function.update_of_ne hbase] at hb
      by_cases hbase' : base' = ptr
      · subst hbase'
        rw [Function.update_self] at hb'
        cases hb'
        exact (hapart base n hb).symm
      · rw [Function.update_of_ne hbase'] at hb'
        exact h.apart base base' n n' hb hb' hne

/-- Live allocations stay apart. -/
theorem driverInv_step (config : Config) (s : State) (a : Action) (h : DriverInv s)
    (hl : legal s a) : DriverInv (step config s a) := by
  cases a with
  | alloc c size =>
    by_cases hnull : c.ptr = null
    · have hlive : (step config s (.alloc c size)).live = s.live := if_pos hnull
      exact driverInv_mono h fun base n hb => hlive ▸ hb
    · exact driverInv_insert h hnull (if_neg hnull) fun base n hb => (hl hnull base n hb).2
  | free c ptr freed =>
    refine driverInv_mono h fun base n hb => ?_
    cases freed with
    | false => exact hb
    | true =>
      by_cases hbase : base = ptr
      · simp [step, hbase] at hb
      · simpa [step, hbase] using hb
  | enqueueSVMFree svmPointers success =>
    simp only [step]
    split
    · exact h
    · refine driverInv_mono h fun base n hb => ?_
      dsimp only at hb
      split at hb
      · exact nomatch hb
      · exact hb

/-- What is not live is in neither map. -/
theorem Recorded.none_of_not_live {s : State} (h : Recorded s) (base : Nat)
    (hlive : s.live base = none) : s.objects.svmAllocInfoMap.get? base = none ∧
      s.objects.usmAllocInfoMap.get? base = none := by
  have hsizes := h.sizes base
  rw [hlive, Option.or_eq_none_iff] at hsizes
  exact hsizes

/-- **An allocation** is recorded. -/
theorem Recorded.add {config : Config} (htracks : config.tracksAllocations = true) {s : State}
    (h : Recorded s) (kind : Kind) {ptr : Nat} (hne : ptr ≠ null) (hnew : s.live ptr = none)
    (size : Nat) :
    Recorded { objects := addAllocation config kind ptr size s.objects
               live := Function.update s.live ptr (some size) } := by
  obtain ⟨hsvm, husm⟩ := h.none_of_not_live ptr hnew
  refine ⟨fun base => ?_, fun base => ?_, fun base => ?_⟩ <;> by_cases hb : base = ptr
  · subst hb
    cases kind <;> simp [addAllocation, htracks, hne, addSVMAllocation, addUSMAllocation,
      Objects.number, OrdMap.get?_insert, hsvm]
  · have := h.sizes base
    cases kind <;> simpa [addAllocation, htracks, hne, addSVMAllocation, addUSMAllocation,
      Objects.number, OrdMap.get?_insert, hb] using this
  · subst hb
    cases kind <;> simp [addAllocation, htracks, hne, addSVMAllocation, addUSMAllocation,
      Objects.number, OrdMap.get?_insert, hsvm, husm]
  · have := h.once base
    cases kind <;> simpa [addAllocation, htracks, hne, addSVMAllocation, addUSMAllocation,
      Objects.number, OrdMap.get?_insert, hb] using this
  · subst hb
    cases kind <;> simp [addAllocation, htracks, hne, addSVMAllocation, addUSMAllocation,
      Objects.number]
  · have := h.numbered base
    cases kind <;> simpa [addAllocation, htracks, hne, addSVMAllocation, addUSMAllocation,
      Objects.number, hb] using this

section

variable {config : Config} (htracks : config.tracksAllocations = true)
include htracks

/-! What a removal leaves: its pointer is gone from its own map and has no number. -/

/-- An SVM allocation is forgotten by the functions for SVM alone. -/
theorem removeAllocation_svm (kind : Kind) {ptr : Nat} (hne : ptr ≠ null) (o : Objects)
    (base : Nat) :
    (removeAllocation config kind ptr o).svmAllocInfoMap.get? base =
      if base = ptr ∧ kind = .svm then none else o.svmAllocInfoMap.get? base := by
  cases kind <;>
    simp [removeAllocation, hne, htracks, removeSVMAllocation, removeUSMAllocation,
      Objects.unnumber, OrdMap.get?_erase]

/-- A USM allocation is forgotten by the functions for USM alone. -/
theorem removeAllocation_usm (kind : Kind) {ptr : Nat} (hne : ptr ≠ null) (o : Objects)
    (base : Nat) :
    (removeAllocation config kind ptr o).usmAllocInfoMap.get? base =
      if base = ptr ∧ kind = .usm then none else o.usmAllocInfoMap.get? base := by
  cases kind <;>
    simp [removeAllocation, hne, htracks, removeSVMAllocation, removeUSMAllocation,
      Objects.unnumber, OrdMap.get?_erase]

/-- Its number is forgotten by either. -/
theorem removeAllocation_number (kind : Kind) {ptr : Nat} (hne : ptr ≠ null) (o : Objects)
    (base : Nat) :
    (removeAllocation config kind ptr o).memAllocNumberMap base =
      if base = ptr then none else o.memAllocNumberMap base := by
  cases kind <;>
    simp [removeAllocation, hne, htracks, removeSVMAllocation, removeUSMAllocation,
      Objects.unnumber, Function.update_apply]

/-- Removing what is not live changes no entry. -/
theorem Recorded.remove_dead {s : State} (h : Recorded s) (kind : Kind) {ptr : Nat}
    (hne : ptr ≠ null) (hdead : s.live ptr = none) :
    Recorded { s with objects := removeAllocation config kind ptr s.objects } := by
  obtain ⟨hnosvm, hnousm⟩ := h.none_of_not_live ptr hdead
  have hsvm : ∀ base, (removeAllocation config kind ptr s.objects).svmAllocInfoMap.get? base =
      s.objects.svmAllocInfoMap.get? base := fun base => by
    rw [removeAllocation_svm htracks kind hne]
    split
    · next hb => rw [hb.1, hnosvm]
    · rfl
  have husm : ∀ base, (removeAllocation config kind ptr s.objects).usmAllocInfoMap.get? base =
      s.objects.usmAllocInfoMap.get? base := fun base => by
    rw [removeAllocation_usm htracks kind hne]
    split
    · next hb => rw [hb.1, hnousm]
    · rfl
  refine ⟨fun base => ?_, fun base => ?_, fun base hb => ?_⟩
  · simp only [hsvm, husm]
    exact h.sizes base
  · simp only [hsvm, husm]
    exact h.once base
  · have hbase : base ≠ ptr := fun heq => by simp [heq, hdead] at hb
    rw [removeAllocation_number htracks kind hne, if_neg hbase]
    exact h.numbered base hb

/-- Removing what is in the map keeps to the live allocations if it is freed. -/
theorem Recorded.remove_freed {s : State} (h : Recorded s) (kind : Kind) {ptr : Nat}
    (hne : ptr ≠ null) (hin : ((allocInfoMap s.objects kind).get? ptr).isSome) :
    Recorded { objects := removeAllocation config kind ptr s.objects
               live := Function.update s.live ptr none } := by
  -- What is in this map is not in the other.
  have hgone : (if kind = .svm then none else s.objects.svmAllocInfoMap.get? ptr) = none ∧
      (if kind = .usm then none else s.objects.usmAllocInfoMap.get? ptr) = none := by
    have honce := h.once ptr
    cases kind with
    | svm => exact ⟨rfl, honce.resolve_left fun hnone => by simp [allocInfoMap, hnone] at hin⟩
    | usm => exact ⟨honce.resolve_right fun hnone => by simp [allocInfoMap, hnone] at hin, rfl⟩
  refine ⟨fun base => ?_, fun base => ?_, fun base hb => ?_⟩
  · simp only [removeAllocation_svm htracks kind hne, removeAllocation_usm htracks kind hne]
    by_cases hbase : base = ptr
    · subst hbase
      simp [hgone]
    · simpa [hbase] using h.sizes base
  · simp only [removeAllocation_svm htracks kind hne, removeAllocation_usm htracks kind hne]
    exact (h.once base).imp (fun hnone => by simp [hnone]) fun hnone => by simp [hnone]
  · have hbase : base ≠ ptr := fun heq => by simp [heq] at hb
    rw [removeAllocation_number htracks kind hne, if_neg hbase]
    exact h.numbered base (by simpa [hbase] using hb)

/-- What is removed while it is live has to be freed, and to be in the map. -/
theorem Recorded.of_remove_live {s : State} (h : Recorded s) (kind : Kind) {ptr : Nat}
    (hne : ptr ≠ null) (hlive : (s.live ptr).isSome) {freed : Bool}
    (h' : Recorded { objects := removeAllocation config kind ptr s.objects
                     live := if freed then Function.update s.live ptr none else s.live }) :
    ((allocInfoMap s.objects kind).get? ptr).isSome ∧ freed = true := by
  cases freed with
  | false =>
    -- Its number is gone.
    have hnumber := h'.numbered ptr hlive
    rw [removeAllocation_number htracks kind hne, if_pos rfl] at hnumber
    exact nomatch hnumber
  | true =>
    refine ⟨?_, rfl⟩
    obtain ⟨hsvm, husm⟩ := h'.none_of_not_live ptr (by simp)
    rw [removeAllocation_svm htracks kind hne] at hsvm
    rw [removeAllocation_usm htracks kind hne] at husm
    rw [← h.sizes ptr] at hlive
    cases kind with
    | svm =>
      have hother : s.objects.usmAllocInfoMap.get? ptr = none := by simpa using husm
      simpa [hother, allocInfoMap] using hlive
    | usm =>
      have hother : s.objects.svmAllocInfoMap.get? ptr = none := by simpa using hsvm
      simpa [hother, allocInfoMap] using hlive

/-- **A free of one pointer**: if it is live, it has to be in the map that it is removed from, and
to be freed. -/
theorem recorded_free_iff {s : State} (hd : DriverInv s) (h : Recorded s) (kind : Kind) (ptr : Nat)
    (freed : Bool) :
    Recorded { objects := removeAllocation config kind ptr s.objects
               live := if freed then Function.update s.live ptr none else s.live } ↔
      ((s.live ptr).isSome → ((allocInfoMap s.objects kind).get? ptr).isSome ∧ freed = true) := by
  cases hlive : s.live ptr with
  | none =>
    have hsame : (if freed then Function.update s.live ptr none else s.live) = s.live := by
      cases freed
      · rfl
      · exact Function.update_eq_self_iff.mpr hlive.symm
    rw [hsame]
    refine iff_of_true ?_ fun h => nomatch h
    by_cases hnull : ptr = null
    · simpa [removeAllocation, hnull] using h
    · exact h.remove_dead htracks kind hnull hlive
  | some n =>
    have hne : ptr ≠ null := fun hnull => nomatch (hnull ▸ hlive).symm.trans hd.null
    have hsome : (s.live ptr).isSome := by rw [hlive]; rfl
    refine ⟨fun h' _ => h.of_remove_live htracks kind hne hsome h', fun hok => ?_⟩
    obtain ⟨hin, rfl⟩ := hok rfl
    exact h.remove_freed htracks kind hne hin

end

/-! ## Runs -/

/-- **The condition on a call**: what a free is given is not live, or it is in the map that it is
removed from and the driver frees it. An enqueued free that the driver takes is of nothing live. -/
def CallOk (config : Config) (s : State) : Action → Prop
  | .alloc _ _ => True
  | .free c ptr freed =>
    (s.live ptr).isSome → ((allocInfoMap s.objects c.kind).get? ptr).isSome ∧ freed = true
  | .enqueueSVMFree svmPointers success =>
    config.nullEnqueue = false → success = true → ∀ ptr ∈ svmPointers, s.live ptr = none

/-- **Exactly when a call keeps the live allocations tracked.** -/
theorem recorded_step_iff {config : Config} (htracks : config.tracksAllocations = true) {s : State}
    (hd : DriverInv s) (h : Recorded s) (a : Action) (hl : legal s a) :
    Recorded (step config s a) ↔ CallOk config s a := by
  cases a with
  | alloc c size =>
    refine iff_of_true ?_ trivial
    simp only [step, AllocCall.apply_eq]
    split
    · next hnull => simpa [addAllocation, hnull] using h
    · next hne =>
      have hnew : s.live c.ptr = none := by
        cases hlive : s.live c.ptr with
        | none => rfl
        | some n => exact absurd rfl (hl hne c.ptr n hlive).1
      exact h.add htracks c.kind hne hnew size
  | free c ptr freed =>
    simp only [step, FreeCall.apply_eq, CallOk]
    exact recorded_free_iff htracks hd h c.kind ptr freed
  | enqueueSVMFree svmPointers success =>
    cases hnull : config.nullEnqueue with
    | true => simpa [step, CallOk, hnull] using h
    | false =>
      simp only [step, CallOk, hnull, Bool.false_eq_true, if_false, forall_const, clEnqueueSVMFree]
      constructor
      · rintro h' hsuccess ptr hmem
        have hsizes := h'.sizes ptr
        simp only [hsuccess, hmem, and_self, if_true] at hsizes
        rw [← h.sizes ptr]
        exact hsizes
      · intro hok
        have hsame : (fun base => if success = true ∧ base ∈ svmPointers then none
            else s.live base) = s.live := by
          funext base
          split
          · next hb => exact (hok hb.1 base hb.2).symm
          · rfl
        rw [hsame]
        exact ⟨h.sizes, h.once, h.numbered⟩

theorem driverInv_initial : DriverInv {} := ⟨rfl, fun _ _ _ _ h => nomatch h⟩

theorem tracksLive_initial : TracksLive {} :=
  (tracksLive_iff_recorded driverInv_initial).mpr
    ⟨fun _ => rfl, fun _ => .inl rfl, fun _ h => nomatch h⟩

/-- **Exactly when the maps are the live allocations**: in runs in which every free meets its
condition, and in no others. -/
theorem tracksLive_iff {config : Config} (htracks : config.tracksAllocations = true)
    {run : List Action} (hlegal : (system config).Legal {} run) :
    (system config).Always TracksLive {} run ↔ (system config).Each (CallOk config) {} run := by
  refine System.always_iff_each (I := DriverInv) (driverInv_step config) (fun s a hd h hl => ?_)
    driverInv_initial tracksLive_initial hlegal
  exact (tracksLive_iff_recorded (driverInv_step config s a hd hl)).trans
    (recorded_step_iff htracks hd h.toRecorded a hl)

/-- The controls of the runs here. -/
def dumping : Config := { dumpBuffersBeforeEnqueue := true }

/-- An address that is allocated, freed and allocated again. -/
def reuse : List Action :=
  [.alloc (.clSVMAlloc 4096) 64, .alloc (.clHostMemAllocINTEL none 8192) 32,
    .free .clSVMFree 4096 true, .alloc (.clDeviceMemAllocINTEL (some 4096) null) 128]

theorem legal_reuse : (system dumping).Legal {} reuse := by
  refine ⟨fun _ _ _ h => (by cases h), fun _ base n h => ?_, trivial, fun _ base n h => ?_, trivial⟩
  · by_cases hb : base = 4096
    · subst hb
      cases h
      exact ⟨by decide, .inr (by decide)⟩
    · simp [system, step, AllocCall.ptr, hb, null] at h
  · by_cases hb : base = 8192
    · subst hb
      cases h
      exact ⟨by decide, .inl (by decide)⟩
    · by_cases hb' : base = 4096
      · subst hb'
        cases h
      · simp [system, step, AllocCall.ptr, usmPointer, hb, hb', null] at h

theorem tracksLive_reuse : (system dumping).Always TracksLive {} reuse :=
  (tracksLive_iff rfl legal_reuse).mpr
    ⟨trivial, trivial, fun _ => ⟨by decide, rfl⟩, trivial, trivial⟩

/-- An allocation that is freed by a command. -/
def enqueuedFree : List Action := [.alloc (.clSVMAlloc 4096) 64, .enqueueSVMFree [4096] true]

/-- **An enqueued free leaves the allocation tracked.** -/
theorem freed_allocation_stays : (system dumping).Legal {} enqueuedFree ∧
    ¬ (system dumping).Always TracksLive {} enqueuedFree := by
  refine ⟨⟨fun _ _ _ h => (nomatch h), trivial, trivial⟩, fun h => ?_⟩
  exact absurd (h.last.sizes 4096) (by decide)

end CLIntercept.Track.Allocations
