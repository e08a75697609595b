import CLIntercept.Usm.Context

/-!
# The vectors are the live allocations

The layer is observed through `Layer.vector`, the vector of a context and a type, and
`Layer.lookup`, the entry of a context and a pointer. `emulatedMemAlloc_cases` and
`emulatedMemFree_cases` say in these terms everything that an allocation and a free can do.

`Inv` ties them to what is live: each vector lists the live allocations of its context and type in
the order they were made, and the map has an entry exactly for each of them. A run keeps it
(`Reachable.inv`) because the driver hands out fresh ranges, so that a base names one live
allocation, and because a free takes the same base out of the map, out of one vector and out of
what is live.
-/

set_option autoImplicit false

namespace CLIntercept.Usm

open CLIntercept.Lib

/-- The vector of a context and a type. -/
def Layer.vector (u : Layer) (context : Handle) (type : MemType) : List Nat :=
  (u.contextInfoMap context).allocVector type

/-- What `AllocMap` has of a pointer. -/
def Layer.lookup (u : Layer) (context : Handle) (ptr : Nat) : Option SUSMAllocInfo :=
  (u.contextInfoMap context).allocMap.get? ptr

/-- The live allocations of a context and a type. -/
def State.liveOf (s : State) (context : Handle) (type : MemType) : List LiveAlloc :=
  s.live.filter fun a => a.context = context ∧ a.type = type

/-- **What holds of the layer in every run.** -/
structure Inv (s : State) : Prop where
  nonnull : ∀ a ∈ s.live, a.base ≠ null ∧ 0 < a.size
  known : ∀ a ∈ s.live, a.type ≠ .unknown
  disjoint : s.live.Pairwise fun a b => b.base + b.size ≤ a.base ∨ a.base + a.size ≤ b.base
  vectors : ∀ context type, s.usm.vector context type = (s.liveOf context type).map (·.base)
  recorded : ∀ context ptr info, s.usm.lookup context ptr = some info →
    ⟨context, info.type, ptr, info.size⟩ ∈ s.live ∧ info.baseAddress = ptr
  found : ∀ a ∈ s.live, (s.usm.lookup a.context a.base).isSome

/-- Nothing is live before the first call. -/
theorem Inv.init : Inv {} where
  nonnull _ h := absurd h List.not_mem_nil
  known _ h := absurd h List.not_mem_nil
  disjoint := .nil
  vectors context type := by cases type <;> rfl
  recorded _ _ _ h := nomatch h
  found _ h := absurd h List.not_mem_nil

/-- A base names one live allocation. -/
theorem Inv.eq_of_base_eq {s : State} (h : Inv s) {a b : LiveAlloc} (ha : a ∈ s.live)
    (hb : b ∈ s.live) (hbase : a.base = b.base) : a = b := by
  have hpos := (h.nonnull a ha).2
  have hpos' := (h.nonnull b hb).2
  obtain ⟨i, hi, rfl⟩ := List.getElem_of_mem ha
  obtain ⟨j, hj, rfl⟩ := List.getElem_of_mem hb
  rcases Nat.lt_trichotomy i j with hij | rfl | hij
  · have := List.pairwise_iff_getElem.mp h.disjoint i j hi hj hij
    omega
  · rfl
  · have := List.pairwise_iff_getElem.mp h.disjoint j i hj hi hij
    omega

/-! ## What an operation does to the vectors and the map -/

theorem allocVector_push (info : SUSMContextInfo) (type type' : MemType) (ptr : Nat)
    (ht : type ≠ .unknown) :
    (info.push type ptr).allocVector type' =
      if type' = type then info.allocVector type' ++ [ptr] else info.allocVector type' := by
  cases type <;> cases type' <;> first | rfl | exact absurd rfl ht

@[simp] theorem allocMap_push (info : SUSMContextInfo) (type : MemType) (ptr : Nat) :
    (info.push type ptr).allocMap = info.allocMap := by
  cases type <;> rfl

theorem allocVector_eraseFromVector (info : SUSMContextInfo) (type type' : MemType) (ptr : Nat) :
    (info.eraseFromVector type ptr).allocVector type' =
      if type' = type then (info.allocVector type').erase ptr else info.allocVector type' := by
  cases type <;> cases type' <;> rfl

@[simp] theorem allocMap_eraseFromVector (info : SUSMContextInfo) (type : MemType) (ptr : Nat) :
    (info.eraseFromVector type ptr).allocMap = info.allocMap := by
  cases type <;> rfl

@[simp] theorem allocVector_recordAlloc (info : SUSMContextInfo) (ptr : Nat)
    (alloc : SUSMAllocInfo) (type : MemType) :
    (info.recordAlloc ptr alloc).allocVector type = info.allocVector type := by
  cases type <;> rfl

@[simp] theorem allocVector_forgetAlloc (info : SUSMContextInfo) (ptr : Nat) (type : MemType) :
    (info.forgetAlloc ptr).allocVector type = info.allocVector type := by
  cases type <;> rfl

theorem vector_setContext (u : Layer) (context context' : Handle) (info : SUSMContextInfo)
    (type : MemType) :
    (u.setContext context info).vector context' type =
      if context' = context then info.allocVector type else u.vector context' type := by
  simp only [Layer.vector, Layer.setContext, Function.update_apply]
  split <;> rfl

theorem lookup_setContext (u : Layer) (context context' : Handle) (ptr : Nat) (info : SUSMContextInfo) :
    (u.setContext context info).lookup context' ptr =
      if context' = context then info.allocMap.get? ptr else u.lookup context' ptr := by
  simp only [Layer.lookup, Layer.setContext, Function.update_apply]
  split <;> rfl

/-- **What an allocation does**: nothing and no pointer, or the pointer at the end of one vector
and one entry of the map. -/
theorem emulatedMemAlloc_cases {type : MemType} (ht : type ≠ .unknown) (flags : Nat)
    (device : Option Handle) (context : Handle) (properties : Option (List (Nat × Nat)))
    (size alignment : Nat) (clSVMAlloc : ClSVMAlloc) (u : Layer) :
    (∃ e, emulatedMemAlloc type flags device context properties size alignment clSVMAlloc u =
        (u, ⟨null, e⟩)) ∨
    ∃ u' ptr info, ptr = svmPointer clSVMAlloc context flags size alignment ∧ ptr ≠ null ∧
      emulatedMemAlloc type flags device context properties size alignment clSVMAlloc u =
        (u', ⟨ptr, clSuccess⟩) ∧
      (info.type = type ∧ info.baseAddress = ptr ∧ info.size = size) ∧
      (∀ context' type', u'.vector context' type' =
        if context' = context ∧ type' = type then u.vector context' type' ++ [ptr]
        else u.vector context' type') ∧
      ∀ context' ptr', u'.lookup context' ptr' =
        if context' = context ∧ ptr' = ptr then some info else u.lookup context' ptr' := by
  unfold emulatedMemAlloc
  split
  · exact .inl ⟨_, rfl⟩
  · dsimp only
    split
    · exact .inl ⟨_, rfl⟩
    · next hptr =>
      generalize svmPointer clSVMAlloc context flags size alignment = ptr at hptr
      refine .inr ⟨_, ptr, allocInfo type device ptr size alignment
        (((u.contextInfoMap context).allocMap.get? ptr).getD {}), rfl, hptr, rfl, ⟨rfl, rfl, rfl⟩,
        fun context' type' => ?_, fun context' ptr' => ?_⟩
      · rw [vector_setContext, allocVector_push _ _ _ _ ht, allocVector_recordAlloc]
        by_cases hc : context' = context <;> by_cases htt : type' = type <;>
          simp [hc, htt, Layer.vector]
      · rw [lookup_setContext, allocMap_push, SUSMContextInfo.recordAlloc, OrdMap.get?_insert]
        by_cases hc : context' = context <;> by_cases hp : ptr' = ptr <;>
          simp [hc, hp, Layer.lookup]

/-- **What a free does**: nothing, or one pointer less in one vector and in the map. -/
theorem emulatedMemFree_cases (context : Handle) (ptr : Nat) (u : Layer) :
    (u.lookup context ptr = none ∧
      emulatedMemFree context ptr u = (u, ⟨clInvalidMemObject, false, none⟩)) ∨
    ∃ u' info, u.lookup context ptr = some info ∧
      emulatedMemFree context ptr u =
        (u', ⟨clSuccess, info.type.reachesDefault, some (context, ptr)⟩) ∧
      (∀ context' type', u'.vector context' type' =
        if context' = context ∧ type' = info.type then (u.vector context' type').erase ptr
        else u.vector context' type') ∧
      ∀ context' ptr', u'.lookup context' ptr' =
        if context' = context ∧ ptr' = ptr then none else u.lookup context' ptr' := by
  unfold emulatedMemFree
  dsimp only
  cases hget : (u.contextInfoMap context).allocMap.get? ptr with
  | none => exact .inl ⟨hget, rfl⟩
  | some info =>
    refine .inr ⟨_, info, hget, rfl, fun context' type' => ?_, fun context' ptr' => ?_⟩
    · rw [vector_setContext, allocVector_forgetAlloc, allocVector_eraseFromVector]
      by_cases hc : context' = context <;> by_cases htt : type' = info.type <;>
        simp [hc, htt, Layer.vector]
    · rw [lookup_setContext, SUSMContextInfo.forgetAlloc, allocMap_eraseFromVector,
        OrdMap.get?_erase]
      by_cases hc : context' = context <;> by_cases hp : ptr' = ptr <;> simp [hc, hp, Layer.lookup]

/-- Kernel exec info is no matter of the allocations. -/
theorem contextInfoMap_trackUSMKernelExecInfo (kernel : Handle) (paramName : KernelExecInfo)
    (paramValue : Bytes) (u : Layer) :
    (trackUSMKernelExecInfo kernel paramName paramValue u).1.contextInfoMap = u.contextInfoMap := by
  unfold trackUSMKernelExecInfo
  dsimp only
  split <;> first | rfl | (split <;> rfl)

/-! ## A run keeps the invariant -/

/-- An allocation keeps the invariant. -/
theorem Inv.afterAlloc {s : State} (h : Inv s) (type : MemType) (ht : type ≠ .unknown)
    (flags : Nat) (device : Option Handle) {context : Handle}
    (properties : Option (List (Nat × Nat))) {size alignment : Nat} {clSVMAlloc : ClSVMAlloc}
    (hfresh : FreshAnswers s context size alignment clSVMAlloc) :
    Inv (s.afterAlloc context type size
      (emulatedMemAlloc type flags device context properties size alignment clSVMAlloc s.usm)) := by
  rcases emulatedMemAlloc_cases ht flags device context properties size alignment clSVMAlloc s.usm
    with ⟨e, he⟩ | ⟨u', ptr, info, hptr, hnn, he, ⟨htype, hbase, hsz⟩, hvector, hlookup⟩
  · rw [he]
    simpa [State.afterAlloc] using h
  · obtain ⟨_, hsize, hdisj⟩ := hptr ▸ hfresh flags (hptr ▸ hnn)
    rw [he]
    simp only [State.afterAlloc, if_neg hnn]
    refine ⟨?_, ?_, ?_, ?_, ?_, ?_⟩
    · intro a ha
      rcases List.mem_append.mp ha with ha | ha
      · exact h.nonnull a ha
      · rw [List.mem_singleton.mp ha]
        exact ⟨hnn, hsize⟩
    · intro a ha
      rcases List.mem_append.mp ha with ha | ha
      · exact h.known a ha
      · rw [List.mem_singleton.mp ha]
        exact ht
    · refine List.pairwise_append.mpr ⟨h.disjoint, List.pairwise_singleton _ _, ?_⟩
      intro a ha b hb
      rw [List.mem_singleton.mp hb]
      exact hdisj a ha
    · intro context' type'
      rw [hvector, h.vectors]
      simp only [State.liveOf, List.filter_append, List.map_append]
      by_cases hc : context' = context <;> by_cases htt : type' = type <;>
        simp [hc, htt, eq_comm (b := context'), eq_comm (b := type')]
    · intro context' ptr' info' hget
      rw [hlookup] at hget
      split at hget
      · next hp =>
        obtain rfl := Option.some.inj hget
        obtain ⟨rfl, rfl⟩ := hp
        exact ⟨List.mem_append.mpr (.inr (by simp [htype, hsz])), hbase⟩
      · exact (h.recorded context' ptr' info' hget).imp_left (List.mem_append.mpr ∘ .inl)
    · intro a ha
      rw [hlookup]
      split
      · rfl
      · next hne =>
        rcases List.mem_append.mp ha with ha | ha
        · exact h.found a ha
        · exact absurd (by simp [List.mem_singleton.mp ha]) hne

/-- The bases of the live allocations are distinct. -/
theorem Inv.nodup {s : State} (h : Inv s) : (s.live.map (·.base)).Nodup := by
  refine List.pairwise_map.mpr ((List.Pairwise.and_mem.mp h.disjoint).imp fun {a b} hab => ?_)
  obtain ⟨ha, hb, hab⟩ := hab
  have := (h.nonnull a ha).2
  have := (h.nonnull b hb).2
  omega

/-- A free keeps the invariant. -/
theorem Inv.afterFree {s : State} (h : Inv s) (context : Handle) (ptr : Nat) :
    Inv (s.afterFree (emulatedMemFree context ptr s.usm)) := by
  rcases emulatedMemFree_cases context ptr s.usm with
    ⟨_, he⟩ | ⟨u', info, hget, he, hvector, hlookup⟩
  · rw [he]
    exact h
  · obtain ⟨hlive, -⟩ := h.recorded context ptr info hget
    -- The pointer is the base of this live allocation and of no other.
    have hother : ∀ a ∈ s.live, a.base = ptr → a = ⟨context, info.type, ptr, info.size⟩ :=
      fun a ha hbase => h.eq_of_base_eq ha hlive hbase
    rw [he]
    simp only [State.afterFree]
    refine ⟨fun a ha => h.nonnull a (List.mem_filter.mp ha).1,
      fun a ha => h.known a (List.mem_filter.mp ha).1, h.disjoint.filter _, ?_, ?_, ?_⟩
    · intro context' type'
      have hnodup : ((s.liveOf context' type').map (·.base)).Nodup :=
        h.nodup.sublist (List.filter_sublist.map _)
      rw [hvector, h.vectors]
      simp only [State.liveOf, List.filter_filter] at hnodup ⊢
      split
      · rw [hnodup.erase_eq_filter, List.filter_map, List.filter_filter]
        refine congrArg _ (List.filter_congr fun a _ => ?_)
        simp [Bool.and_comm, bne, beq_eq_decide]
      · next hne =>
        refine congrArg _ (List.filter_congr fun a ha => ?_)
        by_cases hbase : a.base = ptr
        · have := hother a ha hbase
          simpa [this, eq_comm (b := context'), eq_comm (b := type')] using hne
        · simp [hbase]
    · intro context' ptr' info' hget'
      rw [hlookup] at hget'
      split at hget'
      · exact nomatch hget'
      · next hne =>
        obtain ⟨hmem, hb⟩ := h.recorded context' ptr' info' hget'
        refine ⟨List.mem_filter.mpr ⟨hmem, ?_⟩, hb⟩
        have : ptr' ≠ ptr := fun hp => hne ⟨congrArg LiveAlloc.context (hother _ hmem hp), hp⟩
        simpa using this
    · intro a ha
      obtain ⟨ha, hne⟩ := List.mem_filter.mp ha
      rw [hlookup, if_neg fun hp => by simp [hp.2] at hne]
      exact h.found a ha

/-- Every legal call keeps the invariant. -/
theorem Inv.step {s : State} (h : Inv s) (a : Action) (hl : legal s a) : Inv (step s a) := by
  cases a with
  | hostMemAlloc context properties size alignment clSVMAlloc =>
    exact Inv.afterAlloc h .host nofun _ _ properties hl
  | deviceMemAlloc context device properties size alignment clSVMAlloc =>
    exact Inv.afterAlloc h .device nofun _ _ properties hl
  | sharedMemAlloc context device properties size alignment clSVMAlloc =>
    exact Inv.afterAlloc h .shared nofun _ _ properties hl
  | memFree context ptr => exact h.afterFree context ptr
  | kernelExecInfo kernel paramName paramValue =>
    have hsame := contextInfoMap_trackUSMKernelExecInfo kernel paramName paramValue s.usm
    refine ⟨h.nonnull, h.known, h.disjoint, fun context type => ?_, fun context ptr info hget => ?_,
      fun a ha => ?_⟩
    · exact (congrArg (fun m => (m context).allocVector type) hsame).trans (h.vectors context type)
    · exact h.recorded context ptr info
        ((congrArg (fun m => (m context).allocMap.get? ptr) hsame).symm.trans hget)
    · exact (congrArg (fun m => ((m a.context).allocMap.get? a.base).isSome) hsame).trans
        (h.found a ha)

/-- **The invariant of the emulation.** -/
theorem Reachable.inv {s : State} (h : Reachable s) : Inv s := by
  obtain ⟨as, hl, rfl⟩ := h
  exact System.exec_of_step (S := system) (fun _ a hi hla => hi.step a hla) Inv.init hl

end CLIntercept.Usm
