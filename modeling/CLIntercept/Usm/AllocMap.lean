import Mathlib.Data.List.Nodup
import CLIntercept.Usm.Invariant

/-!
# The map and the vectors

A context has its allocations twice, in `AllocMap` and in three vectors. `MapAgrees` says that they
are the same allocations under the same types, and holds in every state. `FreesLive` says what a
free does: it takes a live pointer out of the one vector that has it, and refuses any other pointer.
The case of shared allocations in its switch goes on into `CLI_ASSERT(0)`, so a run frees right
exactly if it frees no shared allocation (`freesLive_iff`).
-/

set_option autoImplicit false

namespace CLIntercept.Usm

open CLIntercept.Lib

/-- The three vectors. -/
def SUSMContextInfo.allocVectors (info : SUSMContextInfo) : List Nat :=
  info.hostAllocVector ++ info.deviceAllocVector ++ info.sharedAllocVector

/-- The keys of the map. -/
def SUSMContextInfo.allocKeys (info : SUSMContextInfo) : List Nat :=
  info.allocMap.entries.map (·.1)

/-- **The map and the vectors have the same pointers**, each once and under one type. -/
structure MapAgrees (info : SUSMContextInfo) : Prop where
  keys : info.allocKeys.Perm info.allocVectors
  nodup : info.allocVectors.Nodup
  typed : ∀ ptr alloc, info.allocMap.get? ptr = some alloc →
    ∀ type, ptr ∈ info.allocVector type ↔ type = alloc.type

/-- A free takes the pointer out of the vector of a type, where it is found, and out of no other. -/
structure Frees (u : Layer) (context : Handle) (ptr : Nat) (type : MemType) : Prop where
  found : ptr ∈ u.vector context type
  vectors : ∀ context' type', (emulatedMemFree context ptr u).1.vector context' type' =
    if context' = context ∧ type' = type then (u.vector context' type').erase ptr
    else u.vector context' type'
  gone : ∀ type', ptr ∉ (emulatedMemFree context ptr u).1.vector context type'
  forgotten : (emulatedMemFree context ptr u).1.lookup context ptr = none
  succeeds : (emulatedMemFree context ptr u).2.retVal = clSuccess
  asserts : (emulatedMemFree context ptr u).2.asserts = false

/-- An allocation of a context starts at this pointer. -/
def LiveAt (s : State) (context : Handle) (ptr : Nat) (a : LiveAlloc) : Prop :=
  a ∈ s.live ∧ a.context = context ∧ a.base = ptr

/-- **What a free must do.** -/
def FreesLive (s : State) : Action → Prop
  | .memFree context ptr =>
    (∀ a, LiveAt s context ptr a → Frees s.usm context ptr a.type) ∧
    ((∀ a, ¬ LiveAt s context ptr a) →
      emulatedMemFree context ptr s.usm = (s.usm, ⟨clInvalidMemObject, false, none⟩))
  | _ => True

/-- No shared allocation is freed. -/
def FreesNoShared (s : State) : Action → Prop
  | .memFree context ptr => ∀ a, LiveAt s context ptr a → a.type ≠ .shared
  | _ => True

/-! ## The map and the vectors agree -/

/-- The keys are the pointers that the map has an entry for. -/
theorem mem_allocKeys {info : SUSMContextInfo} {ptr : Nat} :
    ptr ∈ info.allocKeys ↔ ∃ alloc, info.allocMap.get? ptr = some alloc := by
  simp [SUSMContextInfo.allocKeys, OrdMap.get?_eq_some_iff]

/-- No pointer has two entries. -/
theorem nodup_allocKeys (info : SUSMContextInfo) : info.allocKeys.Nodup :=
  List.pairwise_map.mpr (info.allocMap.sorted.imp fun h => Nat.ne_of_lt h)

/-- The three vectors together. -/
theorem mem_allocVectors {info : SUSMContextInfo} {ptr : Nat} :
    ptr ∈ info.allocVectors ↔ ∃ type, ptr ∈ info.allocVector type := by
  constructor
  · intro h
    rcases List.mem_append.mp h with h | h
    · rcases List.mem_append.mp h with h | h
      · exact ⟨.host, h⟩
      · exact ⟨.device, h⟩
    · exact ⟨.shared, h⟩
  · rintro ⟨type, h⟩
    cases type with
    | unknown => cases h
    | host => exact List.mem_append_left _ (List.mem_append_left _ h)
    | device => exact List.mem_append_left _ (List.mem_append_right _ h)
    | shared => exact List.mem_append_right _ h

/-- Vectors that are free of duplicates and of common pointers are so together. -/
theorem nodup_allocVectors {info : SUSMContextInfo}
    (hnodup : ∀ type, (info.allocVector type).Nodup)
    (hone : ∀ ptr type type', ptr ∈ info.allocVector type → ptr ∈ info.allocVector type' →
      type = type') : info.allocVectors.Nodup := by
  have hdisj : ∀ type type', type ≠ type' →
      (info.allocVector type).Disjoint (info.allocVector type') :=
    fun type type' hne ptr h h' => hne (hone ptr type type' h h')
  have hfront : (info.hostAllocVector ++ info.deviceAllocVector).Nodup :=
    List.Nodup.append (hnodup .host) (hnodup .device) (hdisj .host .device nofun)
  exact List.Nodup.append hfront (hnodup .shared)
    (List.disjoint_append_left.mpr ⟨hdisj .host .shared nofun, hdisj .device .shared nofun⟩)

variable {s : State}

/-- The vector of a type has the live allocations of that type. -/
theorem mem_vector (h : Inv s) {context : Handle} {type : MemType} {ptr : Nat} :
    ptr ∈ s.usm.vector context type ↔ ∃ a, LiveAt s context ptr a ∧ a.type = type := by
  rw [h.vectors, List.mem_map]
  constructor
  · rintro ⟨a, ha, rfl⟩
    obtain ⟨hmem, hof⟩ := List.mem_filter.mp ha
    obtain ⟨hcontext, htype⟩ := of_decide_eq_true hof
    exact ⟨a, ⟨hmem, hcontext, rfl⟩, htype⟩
  · rintro ⟨a, ⟨hmem, hcontext, hbase⟩, htype⟩
    exact ⟨a, List.mem_filter.mpr ⟨hmem, decide_eq_true ⟨hcontext, htype⟩⟩, hbase⟩

/-- One allocation is live at a pointer. -/
theorem LiveAt.eq (h : Inv s) {context context' : Handle} {ptr : Nat} {a b : LiveAlloc}
    (ha : LiveAt s context ptr a) (hb : LiveAt s context' ptr b) : a = b :=
  h.eq_of_base_eq ha.1 hb.1 (ha.2.2.trans hb.2.2.symm)

/-- A pointer is recorded while it is live, with the type that it was allocated with. -/
theorem lookup_iff_liveAt (h : Inv s) {context : Handle} {ptr : Nat} {type : MemType} :
    (∃ alloc, s.usm.lookup context ptr = some alloc ∧ alloc.type = type) ↔
      ∃ a, LiveAt s context ptr a ∧ a.type = type := by
  constructor
  · rintro ⟨alloc, hget, rfl⟩
    exact ⟨_, ⟨(h.recorded context ptr alloc hget).1, rfl, rfl⟩, rfl⟩
  · rintro ⟨a, ha, rfl⟩
    have hfound := h.found a ha.1
    rw [ha.2.1, ha.2.2] at hfound
    obtain ⟨alloc, hget⟩ := Option.isSome_iff_exists.mp hfound
    have hlive : LiveAt s context ptr ⟨context, alloc.type, ptr, alloc.size⟩ :=
      ⟨(h.recorded context ptr alloc hget).1, rfl, rfl⟩
    exact ⟨alloc, hget, congrArg LiveAlloc.type (hlive.eq h ha)⟩

/-- **The map agrees with the vectors**, whatever is live. -/
theorem Inv.mapAgrees (h : Inv s) (context : Handle) : MapAgrees (s.usm.contextInfoMap context) := by
  have hnodup : (s.usm.contextInfoMap context).allocVectors.Nodup := by
    refine nodup_allocVectors (fun type => ?_) fun ptr type type' hmem hmem' => ?_
    · show (s.usm.vector context type).Nodup
      rw [h.vectors]
      exact h.nodup.sublist (List.filter_sublist.map _)
    · obtain ⟨a, ha, rfl⟩ := (mem_vector h).mp hmem
      obtain ⟨b, hb, rfl⟩ := (mem_vector h).mp hmem'
      rw [ha.eq h hb]
  have htyped : ∀ ptr alloc, (s.usm.contextInfoMap context).allocMap.get? ptr = some alloc →
      ∀ type, ptr ∈ (s.usm.contextInfoMap context).allocVector type ↔ type = alloc.type := by
    intro ptr alloc hget type
    obtain ⟨a, ha, htype⟩ := (lookup_iff_liveAt h).mp ⟨alloc, hget, rfl⟩
    refine (mem_vector h).trans ⟨?_, fun heq => ⟨a, ha, htype.trans heq.symm⟩⟩
    rintro ⟨b, hb, rfl⟩
    rw [← htype, ha.eq h hb]
  refine ⟨?_, hnodup, htyped⟩
  refine (List.perm_ext_iff_of_nodup (nodup_allocKeys _) hnodup).mpr fun ptr => ?_
  rw [mem_allocKeys, mem_allocVectors]
  constructor
  · rintro ⟨alloc, hget⟩
    exact ⟨alloc.type, (htyped ptr alloc hget _).mpr rfl⟩
  · rintro ⟨type, hmem⟩
    obtain ⟨alloc, hget, -⟩ := (lookup_iff_liveAt h).mpr ((mem_vector h).mp hmem)
    exact ⟨alloc, hget⟩

/-! ## What a free does -/

/-- Of the three types only shared runs into the assertion. -/
theorem reachesDefault_iff {type : MemType} (ht : type ≠ .unknown) :
    type.reachesDefault = false ↔ type ≠ .shared := by
  cases type with
  | unknown => exact absurd rfl ht
  | host => exact ⟨fun _ => nofun, fun _ => rfl⟩
  | device => exact ⟨fun _ => nofun, fun _ => rfl⟩
  | shared => exact ⟨nofun, fun h => absurd rfl h⟩

/-- **A live allocation is freed unless it is shared.** -/
theorem frees_iff (h : Inv s) {context : Handle} {ptr : Nat} {a : LiveAlloc}
    (ha : LiveAt s context ptr a) : Frees s.usm context ptr a.type ↔ a.type ≠ .shared := by
  obtain ⟨alloc, hget, htype⟩ := (lookup_iff_liveAt h).mpr ⟨a, ha, rfl⟩
  rcases emulatedMemFree_cases context ptr s.usm with
    ⟨hnone, -⟩ | ⟨u', info, hget', hfree, hvector, hlookup⟩
  · rw [hget] at hnone
    cases hnone
  obtain rfl : alloc = info := Option.some.inj (hget.symm.trans hget')
  rw [htype] at hfree hvector
  have hasserts : (emulatedMemFree context ptr s.usm).2.asserts = a.type.reachesDefault := by
    rw [hfree]
  rw [← reachesDefault_iff (h.known a ha.1), ← hasserts]
  refine ⟨Frees.asserts, fun hdefault => ?_⟩
  have hfound : ptr ∈ s.usm.vector context a.type := (mem_vector h).mpr ⟨a, ha, rfl⟩
  refine ⟨hfound, by rw [hfree]; exact hvector, fun type' hmem => ?_, ?_, by rw [hfree], hdefault⟩
  · rw [hfree, hvector] at hmem
    by_cases htype' : type' = a.type
    · subst htype'
      rw [if_pos ⟨rfl, rfl⟩] at hmem
      have hnodup : (s.usm.vector context a.type).Nodup := by
        rw [h.vectors]
        exact h.nodup.sublist (List.filter_sublist.map _)
      exact (hnodup.mem_erase_iff.mp hmem).1 rfl
    · rw [if_neg fun hand => htype' hand.2] at hmem
      obtain ⟨b, hb, hb'⟩ := (mem_vector h).mp hmem
      exact htype' (by rw [← hb', hb.eq h ha])
  · rw [hfree, hlookup, if_pos ⟨rfl, rfl⟩]

/-- A pointer that is not live is refused. -/
theorem refuses (h : Inv s) {context : Handle} {ptr : Nat} (hnone : ∀ a, ¬ LiveAt s context ptr a) :
    emulatedMemFree context ptr s.usm = (s.usm, ⟨clInvalidMemObject, false, none⟩) := by
  rcases emulatedMemFree_cases context ptr s.usm with ⟨-, hfree⟩ | ⟨u', info, hget, -⟩
  · exact hfree
  · obtain ⟨a, ha, -⟩ := (lookup_iff_liveAt h).mp ⟨info, hget, rfl⟩
    exact absurd ha (hnone a)

/-- A call frees what it should unless it frees shared memory. -/
theorem step_freesLive_iff (h : Inv s) (action : Action) :
    FreesLive s action ↔ FreesNoShared s action := by
  cases action with
  | memFree context ptr =>
    constructor
    · intro hfree a ha
      exact (frees_iff h ha).mp (hfree.1 a ha)
    · intro hfree
      exact ⟨fun a ha => (frees_iff h ha).mpr (hfree a ha), refuses h⟩
  | hostMemAlloc => exact .rfl
  | deviceMemAlloc => exact .rfl
  | sharedMemAlloc => exact .rfl
  | kernelExecInfo => exact .rfl

/-! ## Runs -/

/-- **When a run frees right**: the map agrees with the vectors throughout, and each free does what
it must exactly if no shared allocation is freed. -/
theorem freesLive_iff {as : List Action} (hl : system.Legal {} as) :
    system.Always (fun s => ∀ context, MapAgrees (s.usm.contextInfoMap context)) {} as ∧
      system.Each FreesLive {} as ↔ system.Each FreesNoShared {} as :=
  System.always_and_each_iff_each (S := system) (fun _ action h hla => h.step action hla)
    (fun s action h _ hla => by
      rw [step_freesLive_iff h]
      exact ⟨And.right, fun hfree => ⟨(h.step action hla).mapAgrees, hfree⟩⟩)
    Inv.init Inv.init.mapAgrees hl

/-- A device allocation that is freed, twice. -/
def deviceRun : List Action :=
  [.deviceMemAlloc 1 2 none 64 0 (some fun _ _ _ _ => 4096), .memFree 1 4096, .memFree 1 4096]

theorem legal_deviceRun : system.Legal {} deviceRun :=
  ⟨fun _ hnn => ⟨hnn, by decide, nofun⟩, trivial, trivial, trivial⟩

theorem freesLive_deviceRun :
    system.Always (fun s => ∀ context, MapAgrees (s.usm.contextInfoMap context)) {} deviceRun ∧
      system.Each FreesLive {} deviceRun := by
  refine (freesLive_iff legal_deviceRun).mpr ⟨trivial, fun a ha => ?_, fun a ha => ?_, trivial⟩
  · rw [List.mem_singleton.mp ha.1]
    exact nofun
  · exact absurd ha.1 List.not_mem_nil

/-- The free of a shared allocation reaches the assertion. -/
theorem shared_free_asserts : ∃ as, system.Legal {} as ∧
    ¬ (system.Always (fun s => ∀ context, MapAgrees (s.usm.contextInfoMap context)) {} as ∧
      system.Each FreesLive {} as) := by
  refine ⟨[.sharedMemAlloc 1 2 none 64 0 (some fun _ _ _ _ => 4096), .memFree 1 4096],
    ⟨fun _ hnn => ⟨hnn, by decide, nofun⟩, trivial, trivial⟩, ?_⟩
  rintro ⟨-, -, hfree, -⟩
  have hasserts := (hfree.1 ⟨1, .shared, 4096, 64⟩ ⟨List.mem_singleton.mpr rfl, rfl, rfl⟩).asserts
  exact absurd hasserts (by decide)

end CLIntercept.Usm
