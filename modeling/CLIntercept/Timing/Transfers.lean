import CLIntercept.Lib.Pairing
import CLIntercept.Timing.Tags

/-!
# Tags of transfers

A transfer is timed under its function, its kind and, with `DevicePerformanceTimeTransferTracking`,
its size. An unmap is given neither flags nor a size; it takes those that were kept of the pointer.
They are of the first map since the pointer was last unmapped (`unmapTags_run`): of what was mapped
twice and unmapped once, nothing is kept. The maps of images are never kept.
-/

set_option autoImplicit false

namespace CLIntercept.Timing

open CLIntercept.Lib

/-! ## The code -/

def clMapRead : UInt64 := 1
def clMapWrite : UInt64 := 2
def clMapWriteInvalidateRegion : UInt64 := 4

/-- What a map is for. -/
def mapKind (flags : UInt64) : String :=
  (if flags &&& clMapWriteInvalidateRegion ≠ 0 then "WI"
    else if flags &&& clMapWrite ≠ 0 then "RW"
    else if flags &&& clMapRead ≠ 0 then "R"
    else "") ++
  (if flags &&& ~~~(clMapRead ||| clMapWrite ||| clMapWriteInvalidateRegion) ≠ 0 then "?" else "")

/-- Where a pointer points to, by its `cl_unified_shared_memory_type_intel`. -/
def memLetter (memType : UInt32) : String :=
  if memType = 0x4198 then "D"
  else if memType = 0x4197 then "H"
  else if memType = 0x4199 then "S"
  else "M"

section

variable (config : TagsConfig)

/-- The device tag of a transfer of a kind. -/
def transferTag (functionName kind : String) (size : UInt64) : String :=
  functionName ++ "( " ++ kind ++
    (if size ≠ 0 && config.devicePerformanceTimeTransferTracking then
      "; " ++ decimalText size ++ " bytes" else "") ++ " )"

def getTimingTagsMap (functionName : String) (flags : UInt64) (blocking : UInt32) (size : UInt64) :
    Tags where
  hostTag := mapKind flags ++ (if blocking = 1 then "; blocking" else "")
  deviceTag := transferTag config functionName (mapKind flags) size

/-- `dstType` is `none` where the memory cannot be asked about. -/
def getTimingTagsMemfill (functionName : String) (dstType : Option UInt32) (size : UInt64) : Tags :=
  match dstType with
  | some dstType =>
    { hostTag := memLetter dstType
      deviceTag := transferTag config functionName (memLetter dstType) size }
  | none => {}

def getTimingTagsMemcpy (functionName : String) (blocking : UInt32)
    (types : Option (UInt32 × UInt32)) (size : UInt64) : Tags :=
  let kind := match types with
    | some (dstType, srcType) => memLetter srcType ++ "to" ++ memLetter dstType
    | none => ""
  { hostTag := kind ++ (if blocking = 1 then "; blocking" else "")
    deviceTag := if types.isSome then transferTag config functionName kind size else "" }

/-! ### Pointers that are mapped -/

structure SMapPointerInfo where
  flags : UInt64
  size : UInt64
  deriving DecidableEq, Repr

abbrev MapPointers := OrdMap Handle SMapPointerInfo

def getTimingTagsUnmap (functionName : String) (ptr : Handle) (m : MapPointers) : Tags :=
  if ptr = null then {}
  else
    match m.get? ptr with
    | some info =>
      { hostTag := mapKind info.flags
        deviceTag := transferTag config functionName (mapKind info.flags) info.size }
    | none => {}

/-- A duplicate is ignored. -/
def addMapPointer (ptr : Handle) (flags size : UInt64) (m : MapPointers) : MapPointers :=
  if ptr = null then m
  else if (m.get? ptr).isSome then m
  else m.insert ptr ⟨flags, size⟩

def removeMapPointer (ptr : Handle) (m : MapPointers) : MapPointers :=
  if ptr = null then m else m.erase ptr

/-- What `ADD_MAP_POINTER` and `REMOVE_MAP_PTR` look at. -/
def mapsPointers : Bool :=
  config.chromeCallLogging || config.hostPerformanceTiming || config.timesEnqueues

/-- The members that the tags of an enqueue are made of. -/
structure MapState where
  enqueueCounter : UInt64 := 0
  mapPointerInfoMap : MapPointers := OrdMap.empty

/-- The enqueues that map and unmap, and any other. A map of a buffer comes with its result; an image
that is mapped is not kept. -/
inductive MapAction where
  | clEnqueueMapBuffer (flags cb : UInt64) (retVal : Handle)
  | clEnqueueMapImage (flags : UInt64) (retVal : Handle)
  | clEnqueueSVMMap (svmPtr : Handle) (flags size : UInt64)
  | clEnqueueUnmapMemObject (mappedPtr : Handle)
  | clEnqueueSVMUnmap (svmPtr : Handle)
  | other
  deriving DecidableEq, Repr

/-- With `NullEnqueue` nothing but the counter changes. Whether the driver takes the enqueue is not
looked at. -/
def mapStep (s : MapState) (a : MapAction) : MapState where
  enqueueCounter := s.enqueueCounter + 1
  mapPointerInfoMap :=
    if config.nullEnqueue || !mapsPointers config then s.mapPointerInfoMap
    else
      match a with
      | .clEnqueueMapBuffer flags cb retVal => addMapPointer retVal flags cb s.mapPointerInfoMap
      | .clEnqueueSVMMap svmPtr flags size => addMapPointer svmPtr flags size s.mapPointerInfoMap
      | .clEnqueueUnmapMemObject mappedPtr => removeMapPointer mappedPtr s.mapPointerInfoMap
      | .clEnqueueSVMUnmap svmPtr => removeMapPointer svmPtr s.mapPointerInfoMap
      | .clEnqueueMapImage _ _ => s.mapPointerInfoMap
      | .other => s.mapPointerInfoMap

def mapSystem : System MapState MapAction where
  step := mapStep config
  legal _ _ := True

/-- An enqueue makes tags. -/
def makesTags (enabled : Bool) (s : MapState) : Bool :=
  !config.nullEnqueue && checkGetTimingTags config enabled s.enqueueCounter

/-- The tags that `clEnqueueUnmapMemObject` makes. -/
def unmapTags (enabled : Bool) (mappedPtr : Handle) (s : MapState) : Tags :=
  if makesTags config enabled s then
    getTimingTagsUnmap config "clEnqueueUnmapMemObject" mappedPtr s.mapPointerInfoMap
  else {}

end

/-! ## Tags that are told apart -/

section

variable (config : TagsConfig)

/-- The size, if it is shown. -/
def sizeText (size : UInt64) : List Char :=
  if size ≠ 0 && config.devicePerformanceTimeTransferTracking then
    "; ".toList ++ (digits size.toNat ++ " bytes".toList)
  else []

/-- A tag: the function, the kind and the size. -/
theorem toList_transferTag (functionName kind : String) (size : UInt64) :
    (transferTag config functionName kind size).toList =
      functionName.toList ++ '(' :: (' ' :: (kind.toList ++ (sizeText config size ++ " )".toList))) := by
  unfold transferTag sizeText
  split
  · simp [decimalText, digits]
  · simp

/-- The size reads back where it is shown. -/
theorem sizeText_inj {size size' : UInt64}
    (h : sizeText config size ++ " )".toList = sizeText config size' ++ " )".toList)
    (htracking : config.devicePerformanceTimeTransferTracking = true) : size = size' := by
  have htext : sizeText config size = sizeText config size' := List.append_cancel_right h
  have hbytes : ∀ c, (" bytes".toList).head? = some c → c.isDigit = false :=
    fun c hc => Option.some.inj hc ▸ rfl
  unfold sizeText at htext
  simp only [htracking, Bool.and_true, decide_eq_true_eq, ne_eq] at htext
  by_cases hsize : size = 0
  · by_cases hsize' : size' = 0
    · rw [hsize, hsize']
    · rw [if_neg (not_not_intro hsize), if_pos hsize'] at htext
      exact absurd htext (by simp)
  · by_cases hsize' : size' = 0
    · rw [if_pos hsize, if_neg (not_not_intro hsize')] at htext
      exact absurd htext (by simp)
    · rw [if_pos hsize, if_pos hsize'] at htext
      have hdigits := append_inj_of_head (fun c => isDigit_of_mem_digits)
        (fun c => isDigit_of_mem_digits) hbytes hbytes (List.append_cancel_left htext)
      exact UInt64.toNat_inj.mp (digits_inj hdigits.1)

/-- What follows the kind begins with a character that no kind has. -/
theorem head?_sizeText (size : UInt64) :
    ∀ c, (sizeText config size ++ " )".toList).head? = some c →
      (c != ';' && c != ' ') = false := by
  intro c hc
  unfold sizeText at hc
  split at hc
  · exact Option.some.inj hc ▸ rfl
  · exact Option.some.inj hc ▸ rfl

/-- Neither of the characters that end a kind. -/
def IsKind (kind : String) : Prop := ∀ c ∈ kind.toList, (c != ';' && c != ' ') = true

/-- The tag says the function and the kind, and the size where it is tracked. -/
theorem transferTag_eq_iff {functionName functionName' kind kind' : String}
    (hfunction : '(' ∉ functionName.toList) (hfunction' : '(' ∉ functionName'.toList)
    (hkind : IsKind kind) (hkind' : IsKind kind') (size size' : UInt64) :
    transferTag config functionName kind size = transferTag config functionName' kind' size' ↔
      functionName = functionName' ∧ kind = kind' ∧
        (config.devicePerformanceTimeTransferTracking = true → size = size') := by
  refine ⟨fun h => ?_, fun ⟨hf, hk, hs⟩ => ?_⟩
  · have htext := congrArg String.toList h
    rw [toList_transferTag, toList_transferTag] at htext
    obtain ⟨hf, hrest⟩ := append_cons_inj hfunction hfunction' htext
    obtain ⟨hk, hs⟩ := append_inj_of_head hkind hkind' (head?_sizeText config size)
      (head?_sizeText config size') (List.cons.inj hrest).2
    exact ⟨String.toList_inj.mp hf, String.toList_inj.mp hk, sizeText_inj config hs⟩
  · rw [hf, hk]
    unfold transferTag
    cases htracking : config.devicePerformanceTimeTransferTracking with
    | false => simp only [Bool.and_false, Bool.false_eq_true, if_false]
    | true => rw [hs htracking]

/-- A kind has no blanks. -/
theorem isKind_of_all {kind : String} (h : (kind.toList.all fun c => c != ';' && c != ' ') = true) :
    IsKind kind :=
  List.all_eq_true.mp h

/-- Two kinds make one. -/
theorem IsKind.append {kind kind' : String} (h : IsKind kind) (h' : IsKind kind') :
    IsKind (kind ++ kind') := by
  intro c hc
  rw [String.toList_append, List.mem_append] at hc
  exact hc.elim (h c) (h' c)

theorem IsKind.ite {p : Prop} [Decidable p] {kind kind' : String} (h : IsKind kind)
    (h' : IsKind kind') : IsKind (if p then kind else kind') := by
  split
  · exact h
  · exact h'

/-- The kind of a map, from its flags. -/
theorem isKind_mapKind (flags : UInt64) : IsKind (mapKind flags) := by
  have hnone : IsKind "" := isKind_of_all rfl
  apply IsKind.append
  · apply IsKind.ite (isKind_of_all rfl)
    apply IsKind.ite (isKind_of_all rfl)
    exact IsKind.ite (isKind_of_all rfl) hnone
  · exact IsKind.ite (isKind_of_all rfl) hnone

/-- The kind of memory that a pointer is of. -/
theorem isKind_memLetter (memType : UInt32) : IsKind (memLetter memType) := by
  apply IsKind.ite (isKind_of_all rfl)
  apply IsKind.ite (isKind_of_all rfl)
  exact IsKind.ite (isKind_of_all rfl) (isKind_of_all rfl)

/-- The kinds of both pointers of a copy. -/
theorem isKind_memcpy (dstType srcType : UInt32) :
    IsKind (memLetter srcType ++ "to" ++ memLetter dstType) :=
  ((isKind_memLetter srcType).append (isKind_of_all rfl)).append (isKind_memLetter dstType)

/-- The transfers that have a kind, where the memory could be asked about. -/
inductive Transfer where
  | map (flags : UInt64) (blocking : UInt32)
  | memfill (dstType : UInt32)
  | memcpy (blocking : UInt32) (dstType srcType : UInt32)
  deriving DecidableEq, Repr

def Transfer.kind : Transfer → String
  | .map flags _ => mapKind flags
  | .memfill dstType => memLetter dstType
  | .memcpy _ dstType srcType => memLetter srcType ++ "to" ++ memLetter dstType

def Transfer.tags (functionName : String) (size : UInt64) : Transfer → Tags
  | .map flags blocking => getTimingTagsMap config functionName flags blocking size
  | .memfill dstType => getTimingTagsMemfill config functionName (some dstType) size
  | .memcpy blocking dstType srcType =>
    getTimingTagsMemcpy config functionName blocking (some (dstType, srcType)) size

/-- The tag of a transfer is made of its kind and its size. -/
theorem Transfer.deviceTag (functionName : String) (size : UInt64) (t : Transfer) :
    (t.tags config functionName size).deviceTag = transferTag config functionName t.kind size := by
  cases t with
  | map flags blocking => rfl
  | memfill dstType => rfl
  | memcpy blocking dstType srcType => rfl

/-- Every transfer has a kind. -/
theorem Transfer.isKind_kind (t : Transfer) : IsKind t.kind := by
  cases t with
  | map flags blocking => exact isKind_mapKind flags
  | memfill dstType => exact isKind_memLetter dstType
  | memcpy blocking dstType srcType => exact isKind_memcpy dstType srcType

/-- **Two transfers share a row of the report exactly if they have the function and the kind in
common**, and the size where it is tracked. -/
theorem Transfer.sameRow_iff {functionName functionName' : String}
    (hfunction : '(' ∉ functionName.toList) (hfunction' : '(' ∉ functionName'.toList)
    (size size' : UInt64) (t t' : Transfer) :
    (t.tags config functionName size).deviceTag = (t'.tags config functionName' size').deviceTag ↔
      functionName = functionName' ∧ t.kind = t'.kind ∧
        (config.devicePerformanceTimeTransferTracking = true → size = size') := by
  rw [t.deviceTag, t'.deviceTag]
  exact transferTag_eq_iff config hfunction hfunction' t.isKind_kind t'.isKind_kind size size'

end

/-! ## What an unmap is timed under -/

/-- What an enqueue keeps of a pointer, and what it forgets. -/
def mapPairing : Pairing MapAction Handle SMapPointerInfo where
  opens
    | .clEnqueueMapBuffer flags cb retVal, ptr =>
      if ptr ≠ null ∧ retVal = ptr then some ⟨flags, cb⟩ else none
    | .clEnqueueSVMMap svmPtr flags size, ptr =>
      if ptr ≠ null ∧ svmPtr = ptr then some ⟨flags, size⟩ else none
    | _, _ => none
  closes
    | .clEnqueueUnmapMemObject mappedPtr, ptr => ptr ≠ null && mappedPtr = ptr
    | .clEnqueueSVMUnmap svmPtr, ptr => ptr ≠ null && svmPtr = ptr
    | _, _ => false
  opens_eq_none a ptr h := by
    cases a with
    | clEnqueueMapBuffer flags cb retVal => exact Bool.noConfusion h
    | clEnqueueSVMMap svmPtr flags size => exact Bool.noConfusion h
    | _ => rfl

/-- `NULL` is no map. -/
theorem opens_null (a : MapAction) : mapPairing.opens a null = none := by
  have hnull : ∀ ptr : Handle, ¬((null : Handle) ≠ null ∧ ptr = null) := fun _ h => h.1 rfl
  cases a with
  | clEnqueueMapBuffer flags cb retVal => exact if_neg (t := some ⟨flags, cb⟩) (hnull retVal)
  | clEnqueueSVMMap svmPtr flags size => exact if_neg (t := some ⟨flags, size⟩) (hnull svmPtr)
  | _ => rfl

/-- Behind these enqueues the pointer is still mapped as it was at first. -/
def StillMapped (as : List MapAction) (ptr : Handle) (info : SMapPointerInfo) : Prop :=
  mapPairing.Opened as ptr info

/-- Nothing of the pointer is kept. -/
def Unmapped (as : List MapAction) (ptr : Handle) : Prop := mapPairing.Shut as ptr

section

variable (config : TagsConfig)

/-- A pointer that is mapped again keeps what was first said of it. -/
theorem get?_addMapPointer (m : MapPointers) (ptr ptr' : Handle) (flags size : UInt64) :
    (addMapPointer ptr flags size m).get? ptr' =
      (m.get? ptr').or (if ptr' ≠ null ∧ ptr = ptr' then some ⟨flags, size⟩ else none) := by
  unfold addMapPointer
  by_cases hnull : ptr = null
  · rw [if_pos hnull, if_neg fun h => h.1 (h.2 ▸ hnull), Option.or_none]
  · rw [if_neg hnull]
    cases hfound : m.get? ptr with
    | some info =>
      rw [Option.isSome_some, if_pos rfl]
      by_cases hptr : ptr = ptr'
      · rw [← hptr, hfound, Option.some_or]
      · rw [if_neg fun h => hptr h.2, Option.or_none]
    | none =>
      rw [Option.isSome_none, if_neg Bool.false_ne_true, OrdMap.get?_insert]
      by_cases hptr : ptr' = ptr
      · rw [if_pos hptr, hptr, hfound, if_pos ⟨hnull, rfl⟩, Option.none_or]
      · rw [if_neg hptr, if_neg fun h => hptr h.2.symm, Option.or_none]

/-- An unmap forgets its pointer. -/
theorem get?_removeMapPointer (m : MapPointers) (ptr ptr' : Handle) :
    (removeMapPointer ptr m).get? ptr' =
      if (ptr' ≠ null && ptr = ptr') = true then none else m.get? ptr' := by
  unfold removeMapPointer
  by_cases hnull : ptr = null
  · rw [if_pos hnull]
    by_cases hptr : ptr = ptr'
    · simp [← hptr, hnull]
    · simp [hptr]
  · rw [if_neg hnull, OrdMap.get?_erase]
    by_cases hptr : ptr' = ptr
    · simp [hptr, hnull]
    · simp [hptr, Ne.symm hptr]

/-- With the controls set the map is kept as it should be. -/
theorem get?_mapSystem (hconfig : config.nullEnqueue = false) (hmaps : mapsPointers config = true)
    (as : List MapAction) (ptr : Handle) :
    ((mapSystem config).exec {} as).mapPointerInfoMap.get? ptr = mapPairing.look as ptr := by
  induction as using List.reverseRecOn with
  | nil => exact OrdMap.get?_empty ptr
  | append_singleton as a ih =>
    rw [System.exec_append, Pairing.look_concat, ← ih]
    generalize (mapSystem config).exec {} as = s
    have hstep : (mapSystem config).exec s [a] = mapStep config s a := rfl
    rw [hstep]
    unfold mapStep
    rw [hconfig, hmaps]
    cases a with
    | clEnqueueMapBuffer flags cb retVal => exact get?_addMapPointer _ _ _ _ _
    | clEnqueueSVMMap svmPtr flags size => exact get?_addMapPointer _ _ _ _ _
    | clEnqueueUnmapMemObject mappedPtr =>
      exact (get?_removeMapPointer _ _ _).trans (if_congr Iff.rfl rfl (Option.or_none).symm)
    | clEnqueueSVMUnmap svmPtr =>
      exact (get?_removeMapPointer _ _ _).trans (if_congr Iff.rfl rfl (Option.or_none).symm)
    | clEnqueueMapImage flags retVal => exact (Option.or_none).symm
    | other => exact (Option.or_none).symm

/-- Whatever makes tags keeps the pointers too. -/
theorem mapsPointers_of_makesTags {enabled : Bool} {s : MapState}
    (h : makesTags config enabled s = true) :
    config.nullEnqueue = false ∧ mapsPointers config = true := by
  unfold makesTags checkGetTimingTags at h
  rw [Bool.and_eq_true] at h
  obtain ⟨hnull, htags⟩ := h
  refine ⟨Bool.not_eq_true' _ |>.mp hnull, ?_⟩
  unfold mapsPointers
  cases hchrome : config.chromeCallLogging with
  | true => rfl
  | false =>
    cases hhost : config.hostPerformanceTiming with
    | true => rfl
    | false =>
      cases htimes : config.timesEnqueues with
      | true => rfl
      | false => simp [hchrome, hhost, htimes] at htags

/-- **An unmap is timed as the map that it undoes**: under the kind and the size of the first buffer
or SVM map of the pointer since it was last unmapped, whatever was mapped of it after that. Where
there is none the tags are empty. -/
theorem unmapTags_run (enabled : Bool) (as : List MapAction) (mappedPtr : Handle) :
    (∀ info, StillMapped as mappedPtr info →
      unmapTags config enabled mappedPtr ((mapSystem config).exec {} as) =
        if makesTags config enabled ((mapSystem config).exec {} as) then
          getTimingTagsMap config "clEnqueueUnmapMemObject" info.flags 0 info.size
        else {}) ∧
    (Unmapped as mappedPtr →
      unmapTags config enabled mappedPtr ((mapSystem config).exec {} as) = {}) := by
  unfold unmapTags
  cases hmakes : makesTags config enabled ((mapSystem config).exec {} as) with
  | false => exact ⟨fun _ _ => rfl, fun _ => rfl⟩
  | true =>
    obtain ⟨hconfig, hmaps⟩ := mapsPointers_of_makesTags config hmakes
    have hget := get?_mapSystem config hconfig hmaps as mappedPtr
    simp only [if_true]
    unfold getTimingTagsUnmap
    refine ⟨fun info hinfo => ?_, fun hunmapped => ?_⟩
    · have hfound := hget.trans (Pairing.look_eq_some_iff.mpr hinfo)
      have hnull : mappedPtr ≠ null := by
        rintro rfl
        obtain ⟨_, a, _, _, _, hopens, _⟩ := hinfo
        exact absurd ((opens_null a).symm.trans hopens) (by simp)
      rw [if_neg hnull]
      simp only [hfound, getTimingTagsMap]
      rw [if_neg (by decide), String.append_empty]
    · have hfound := hget.trans (Pairing.look_eq_none_iff.mpr hunmapped)
      simp only [hfound, ite_self]

end

/-- A region that is mapped for reading and then, before it is unmapped, for writing. -/
def mappedTwice : List MapAction :=
  [.clEnqueueMapBuffer clMapRead 16 64, .clEnqueueMapBuffer clMapWrite 32 64]

def transferTracking : TagsConfig :=
  { devicePerformanceTiming := true, devicePerformanceTimeTransferTracking := true }

/-- Both unmaps are of the same pointer; the first is timed as one for reading, the second has no
tag. -/
theorem unmapTags_mappedTwice :
    (unmapTags transferTracking false 64 ((mapSystem transferTracking).exec {} mappedTwice)).deviceTag =
        "clEnqueueUnmapMemObject( R; 16 bytes )" ∧
      unmapTags transferTracking false 64 ((mapSystem transferTracking).exec {}
        (mappedTwice ++ [.clEnqueueUnmapMemObject 64])) = {} := by
  have hmapped : StillMapped mappedTwice 64 ⟨clMapRead, 16⟩ := by
    refine ⟨[], _, _, rfl, mapPairing.shut_nil 64, rfl, fun b hb => ?_⟩
    rw [List.mem_singleton.mp hb]
    rfl
  have hunmapped : Unmapped (mappedTwice ++ [.clEnqueueUnmapMemObject 64]) 64 :=
    (mapPairing.shut_concat _ _ 64).mpr (Or.inl rfl)
  refine ⟨?_, (unmapTags_run transferTracking false _ 64).2 hunmapped⟩
  rw [(unmapTags_run transferTracking false mappedTwice 64).1 _ hmapped]
  decide +kernel

end CLIntercept.Timing
