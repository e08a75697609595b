import CLIntercept.Usm.Invariant
import Mathlib.Tactic.Tauto

/-!
# Indirect access through SVM pointers

A kernel with an indirect access flag may reach every allocation of that type. The driver is not
told so; before each launch `setUSMKernelExecInfo` hands it the pointers one by one, as
`CL_KERNEL_EXEC_INFO_SVM_PTRS`. `pointerSet` is what the driver should be handed: the pointers that
the application set and the live allocations of the flagged types.

Where the application set no pointers and one flagged type has allocations, the vector of that type
is passed as it is. Otherwise the pointers are combined, into a vector CONSTRUCTED with as many null
elements as there are pointers: the pointers are inserted after them, and the size passed covers the
nulls. `passesPointerSet_iff` says that the call is right in the first case and in no other, but where there
is nothing to pass except null pointers.
-/

set_option autoImplicit false

namespace CLIntercept.Usm

open CLIntercept.Lib

/-! ## The call -/

/-- A call of `clSetKernelExecInfo`: `array` is the memory that `param_value` points to. -/
structure ExecInfoCall where
  kernel : Handle
  paramName : KernelExecInfo
  paramValueSize : Nat
  array : List Nat
  deriving DecidableEq, Repr

/-- The pointers that the driver reads. -/
def ExecInfoCall.read (c : ExecInfoCall) : List Nat := c.array.take (c.paramValueSize / pointerSize)

/-- The calls made before a launch on a queue of `context`, and the result. -/
def setUSMKernelExecInfo (context kernel : Handle) (clSetKernelExecInfo : ExecInfoCall → Int)
    (u : Layer) : List ExecInfoCall × Int :=
  let k := u.kernelInfoMap kernel
  if k.indirectHostAccess || k.indirectDeviceAccess || k.indirectSharedAccess then
    let c := u.contextInfoMap context
    let hasSVMPtrs := !k.svmPtrs.isEmpty
    let hasUSMPtrs := !k.usmPtrs.isEmpty
    let setHostAllocs := !c.hostAllocVector.isEmpty && k.indirectHostAccess
    let setDeviceAllocs := !c.deviceAllocVector.isEmpty && k.indirectDeviceAccess
    let setSharedAllocs := !c.sharedAllocVector.isEmpty && k.indirectSharedAccess
    let fastPath := !hasSVMPtrs && !hasUSMPtrs &&
      ((!setHostAllocs && !setDeviceAllocs && !setSharedAllocs) ||
        (setHostAllocs && !setDeviceAllocs && !setSharedAllocs) ||
        (!setHostAllocs && setDeviceAllocs && !setSharedAllocs) ||
        (!setHostAllocs && !setDeviceAllocs && setSharedAllocs))
    let pass (count : Nat) (array : List Nat) : List ExecInfoCall :=
      [⟨kernel, .svmPtrs, count * pointerSize, array⟩]
    let calls :=
      if fastPath then
        (if setHostAllocs then pass c.hostAllocVector.length c.hostAllocVector else []) ++
        (if setDeviceAllocs then pass c.deviceAllocVector.length c.deviceAllocVector else []) ++
        (if setSharedAllocs then pass c.sharedAllocVector.length c.sharedAllocVector else [])
      else
        let count := k.svmPtrs.length + k.usmPtrs.length +
          (if setHostAllocs then c.hostAllocVector.length else 0) +
          (if setDeviceAllocs then c.deviceAllocVector.length else 0) +
          (if setSharedAllocs then c.sharedAllocVector.length else 0)
        let combined := List.replicate count null
        let combined := combined ++ k.svmPtrs
        let combined := combined ++ k.usmPtrs
        let combined := if setHostAllocs then combined ++ c.hostAllocVector else combined
        let combined := if setDeviceAllocs then combined ++ c.deviceAllocVector else combined
        let combined := if setSharedAllocs then combined ++ c.sharedAllocVector else combined
        pass count combined
    (calls, (calls.map clSetKernelExecInfo).getLastD clSuccess)
  else ([], clSuccess)

/-! ## What should be passed -/

/-- The live allocations that a flag of the kernel covers. -/
def State.flagged (s : State) (context kernel : Handle) (type : MemType) : List Nat :=
  if (s.usm.kernelInfoMap kernel).indirectAccess type then (s.liveOf context type).map (·.base)
  else []

/-- What the driver should be handed. -/
def State.pointerSet (s : State) (context kernel : Handle) : List Nat :=
  (s.usm.kernelInfoMap kernel).svmPtrs ++ (s.usm.kernelInfoMap kernel).usmPtrs ++
    s.flagged context kernel .host ++ s.flagged context kernel .device ++
    s.flagged context kernel .shared

/-- **The specification**: one call, and it passes the pointers, all of them and no other. -/
def PassesPointerSet (s : State) (context kernel : Handle)
    (clSetKernelExecInfo : ExecInfoCall → Int) : Prop :=
  ∃ call, (setUSMKernelExecInfo context kernel clSetKernelExecInfo s.usm).1 = [call] ∧
    call.kernel = kernel ∧ call.paramName = .svmPtrs ∧
    call.read.Perm (s.pointerSet context kernel)

/-- The application set no pointers and at most one flagged type has live allocations. -/
def OneType (s : State) (context kernel : Handle) : Prop :=
  (s.usm.kernelInfoMap kernel).svmPtrs = [] ∧ (s.usm.kernelInfoMap kernel).usmPtrs = [] ∧
    ∀ type type', s.flagged context kernel type ≠ [] → s.flagged context kernel type' ≠ [] →
      type = type'

/-! ## The call that is made -/

/-- A vector as it counts: with its flag set, and empty without. -/
def counted (flag : Bool) (vector : List Nat) : List Nat := if flag then vector else []

theorem isEmpty_counted (flag : Bool) (vector : List Nat) :
    (!vector.isEmpty && flag) = !(counted flag vector).isEmpty := by
  cases flag <;> simp [counted]

theorem length_counted (flag : Bool) (vector : List Nat) :
    (if (!vector.isEmpty && flag) = true then vector.length else 0) =
      (counted flag vector).length := by
  cases flag <;> cases vector <;> simp [counted]

theorem append_counted (flag : Bool) (vector front : List Nat) :
    (if (!vector.isEmpty && flag) = true then front ++ vector else front) =
      front ++ counted flag vector := by
  cases flag <;> cases vector <;> simp [counted]

theorem pass_counted (flag : Bool) (vector : List Nat) (kernel : Handle) :
    (if (!vector.isEmpty && flag) = true then
        [(⟨kernel, .svmPtrs, vector.length * pointerSize, vector⟩ : ExecInfoCall)] else []) =
      if (counted flag vector).isEmpty then []
      else [⟨kernel, .svmPtrs, (counted flag vector).length * pointerSize, counted flag vector⟩] := by
  cases flag <;> cases vector <;> simp [counted]

/-- The vectors as they count are the live allocations as they are flagged. -/
theorem Inv.flagged_eq {s : State} (h : Inv s) (context kernel : Handle) (type : MemType) :
    s.flagged context kernel type =
      counted ((s.usm.kernelInfoMap kernel).indirectAccess type) (s.usm.vector context type) := by
  rw [h.vectors]
  rfl

/-- No two of the three flagged types have live allocations. -/
theorem oneType_iff {s : State} {context kernel : Handle} :
    OneType s context kernel ↔
      (s.usm.kernelInfoMap kernel).svmPtrs = [] ∧ (s.usm.kernelInfoMap kernel).usmPtrs = [] ∧
        ((s.flagged context kernel .device = [] ∧ s.flagged context kernel .shared = []) ∨
          (s.flagged context kernel .host = [] ∧ s.flagged context kernel .shared = []) ∨
          (s.flagged context kernel .host = [] ∧ s.flagged context kernel .device = [])) := by
  refine and_congr_right fun _ => and_congr_right fun _ => ⟨fun h => ?_, fun h type type' => ?_⟩
  · have hhd := h .host .device
    have hhs := h .host .shared
    have hds := h .device .shared
    simp only [reduceCtorEq] at hhd hhs hds
    tauto
  · have hunknown : s.flagged context kernel .unknown = [] := rfl
    cases type <;> cases type' <;> simp only [reduceCtorEq] <;> tauto

/-- **The call that is made**, with some flag set and something to pass: of the pointers themselves
on the fast path, and of as many nulls in front of them on the other. -/
theorem Inv.calls_eq {s : State} (h : Inv s) {context kernel : Handle}
    (hflag : ∃ type, (s.usm.kernelInfoMap kernel).indirectAccess type)
    (hne : s.pointerSet context kernel ≠ []) (clSetKernelExecInfo : ExecInfoCall → Int) :
    ∃ array, (setUSMKernelExecInfo context kernel clSetKernelExecInfo s.usm).1 =
        [⟨kernel, .svmPtrs, (s.pointerSet context kernel).length * pointerSize, array⟩] ∧
      (OneType s context kernel → array = s.pointerSet context kernel) ∧
      (¬ OneType s context kernel →
        array = List.replicate (s.pointerSet context kernel).length null ++
          s.pointerSet context kernel) := by
  have hany : ((s.usm.kernelInfoMap kernel).indirectHostAccess ||
      (s.usm.kernelInfoMap kernel).indirectDeviceAccess ||
      (s.usm.kernelInfoMap kernel).indirectSharedAccess) = true := by
    obtain ⟨type, ht⟩ := hflag
    cases type <;> simp_all [SUSMKernelInfo.indirectAccess]
  have hhost := h.flagged_eq context kernel .host
  have hdevice := h.flagged_eq context kernel .device
  have hshared := h.flagged_eq context kernel .shared
  unfold setUSMKernelExecInfo
  simp only [hany, if_true, length_counted, append_counted, pass_counted]
  simp only [isEmpty_counted (s.usm.kernelInfoMap kernel).indirectHostAccess,
    isEmpty_counted (s.usm.kernelInfoMap kernel).indirectDeviceAccess,
    isEmpty_counted (s.usm.kernelInfoMap kernel).indirectSharedAccess]
  simp only [oneType_iff, State.pointerSet] at hne ⊢
  simp only [Layer.vector, SUSMKernelInfo.indirectAccess, SUSMContextInfo.allocVector]
    at hhost hdevice hshared
  rw [← hhost, ← hdevice, ← hshared]
  clear hhost hdevice hshared
  generalize s.flagged context kernel .host = host at *
  generalize s.flagged context kernel .device = device at *
  generalize s.flagged context kernel .shared = shared at *
  generalize (s.usm.kernelInfoMap kernel).svmPtrs = svm at *
  generalize (s.usm.kernelInfoMap kernel).usmPtrs = usm at *
  split
  · next hfast =>
    -- One of the three is passed as it is, and the others are empty.
    simp only [Bool.not_not, Bool.and_eq_true, List.isEmpty_iff] at hfast
    obtain ⟨⟨rfl, rfl⟩, hone⟩ := hfast
    cases host <;> cases device <;> cases shared <;> simp_all
  · next hslow =>
    refine ⟨List.replicate (svm ++ usm ++ host ++ device ++ shared).length null ++
      (svm ++ usm ++ host ++ device ++ shared), ?_, fun hone => absurd ?_ hslow, fun _ => rfl⟩
    · simp only [List.length_append, List.append_assoc, Nat.add_assoc]
    · obtain ⟨rfl, rfl, hone⟩ := hone
      cases host <;> cases device <;> cases shared <;> simp_all

/-! ## Where it is right -/

theorem take_replicate_append (n : Nat) (l : List Nat) :
    (List.replicate n null ++ l).take n = List.replicate n null := by
  rw [List.take_append_of_le_length (by simp), List.take_of_length_le (by simp)]

/-- **When indirect access is set up right**: where the application set no pointers and one flagged
type has allocations, and otherwise only where every pointer to pass is null. -/
theorem passesPointerSet_iff {s : State} (h : Reachable s) {context kernel : Handle}
    (hflag : ∃ type, (s.usm.kernelInfoMap kernel).indirectAccess type)
    (hne : s.pointerSet context kernel ≠ []) (clSetKernelExecInfo : ExecInfoCall → Int) :
    PassesPointerSet s context kernel clSetKernelExecInfo ↔
      OneType s context kernel ∨ ∀ ptr ∈ s.pointerSet context kernel, ptr = null := by
  obtain ⟨array, hcalls, hfast, hslow⟩ := h.inv.calls_eq hflag hne clSetKernelExecInfo
  have hread : ∀ size : Nat, (size * pointerSize) / pointerSize = size :=
    fun size => Nat.mul_div_cancel size (by decide)
  have hpass : PassesPointerSet s context kernel clSetKernelExecInfo ↔
      (array.take (s.pointerSet context kernel).length).Perm (s.pointerSet context kernel) := by
    simp only [PassesPointerSet, hcalls, List.cons.injEq, and_true]
    constructor
    · rintro ⟨_, rfl, -, -, hperm⟩
      simpa only [ExecInfoCall.read, hread] using hperm
    · exact fun hperm => ⟨_, rfl, rfl, rfl, by simpa only [ExecInfoCall.read, hread] using hperm⟩
  rw [hpass]
  by_cases hone : OneType s context kernel
  · rw [hfast hone, List.take_length]
    exact ⟨fun _ => .inl hone, fun _ => .refl _⟩
  · rw [hslow hone, take_replicate_append]
    constructor
    · intro hperm
      exact .inr fun ptr hptr => List.eq_of_mem_replicate (hperm.mem_iff.mpr hptr)
    · rintro (habs | hnull)
      · exact absurd habs hone
      · rw [← List.eq_replicate_of_mem hnull]

/-! ## Runs -/

/-- One host allocation, and a kernel that may reach it. -/
def hostRun : List Action :=
  [.hostMemAlloc 1 none 64 0 (some fun _ _ _ _ => 4096),
    .kernelExecInfo 7 .indirectHostAccess [1, 0, 0, 0]]

/-- The same, and the application also set an SVM pointer. -/
def hostAndSVMRun : List Action := hostRun ++ [.kernelExecInfo 7 .svmPtrs (pointerBytes 8192)]

theorem legal_hostRun : system.Legal {} hostRun :=
  ⟨fun _ hnn => ⟨hnn, by decide, nofun⟩, trivial, trivial⟩

theorem passesPointerSet_hostRun :
    PassesPointerSet (system.exec {} hostRun) 1 7 (fun _ => clSuccess) :=
  (passesPointerSet_iff ⟨hostRun, legal_hostRun, rfl⟩ ⟨.host, by decide⟩ (by decide) _).mpr
    (.inl (oneType_iff.mpr (by decide)))

/-- With an SVM pointer set as well, the driver is handed nulls. -/
theorem nulls_are_passed : ∃ s, Reachable s ∧
    (∃ type, (s.usm.kernelInfoMap 7).indirectAccess type) ∧ s.pointerSet 1 7 ≠ [] ∧
    ¬ PassesPointerSet s 1 7 (fun _ => clSuccess) := by
  refine ⟨system.exec {} hostAndSVMRun,
    ⟨hostAndSVMRun, ⟨fun _ hnn => ⟨hnn, by decide, nofun⟩, trivial, trivial, trivial⟩, rfl⟩,
    ⟨.host, by decide⟩, by decide, ?_⟩
  rintro ⟨call, hcalls, -, -, hperm⟩
  have hcall : call = ⟨7, .svmPtrs, 16, [0, 0, 8192, 4096]⟩ := by
    have : (setUSMKernelExecInfo 1 7 (fun _ => clSuccess) (system.exec {} hostAndSVMRun).usm).1 =
      [⟨7, .svmPtrs, 16, [0, 0, 8192, 4096]⟩] := by decide
    exact (List.cons.inj (this.symm.trans hcalls)).1.symm
  rw [hcall] at hperm
  exact absurd (hperm.mem_iff (a := 0)) (by decide)

end CLIntercept.Usm
