import CLIntercept.Replay.Script

/-!
# What the script reads of a capture

The script finds the entries of the arguments again. The memory of an argument is found under
`foundIndex`: the index itself, unless the kernel's name has a number of its own behind `_Arg_`; and
not at all if the name has a slash.
-/

set_option autoImplicit false

namespace CLIntercept.Replay

open CLIntercept.Lib CLIntercept.Track CLIntercept.Timing CLIntercept.Dump.Memory

section

variable (dec : Decimals) (kernel : Handle) (s : Session) (l : Launch)

/-- The path of a dumped file up to the index of its argument. -/
def dumpedStem : List Char :=
  "./Pre/Enqueue_".toList ++ ((number 10 4 l.enqueueCounter.toNat).toList ++
    ("_Kernel_".toList ++ ((shortKernelName kernel l).toList ++ "_Arg_".toList)))

/-- The index under which the file of an argument is found. -/
def foundIndex (argIndex : Nat) : Nat :=
  (dec.firstNumber (fromFirst "_Arg_".toList (dumpedStem kernel l))).getD argIndex

/-- A dumped file is found under an index. -/
def FoundUnder (h : Half) (idx : Nat) (bytes : Bytes) : Prop :=
  '/' ∉ (shortKernelName kernel l).toList ∧
    ∃ argIndex key, dumpedFile kernel s l h argIndex = some (key, bytes) ∧
      foundIndex dec kernel l argIndex = idx

/-- A file of a capture. -/
inductive InCapture : String × Content → Prop
  | info (file : String × Content) (hfile : file ∈ kernelInfoFiles kernel l) : InCapture file
  | argument (i : Nat) (value : Bytes) (hvalue : s.kernelArgs.kernelArgDataMap kernel i = some value) :
    InCapture (argumentFile i value)
  | localMemory (i size : Nat) (hsize : s.kernelArgs.kernelArgLocalSizeMap kernel i = some size) :
    InCapture (localFile i size)
  | mem (i : Nat) (memInfo : SMemInfo) (hmem : s.kernelArgs.kernelArgMemMap kernel i = some memInfo) :
    InCapture (memFile s i memInfo)
  | sampler (i : Nat) (value : String)
      (hvalue : s.kernelArgs.kernelArgSamplerMap kernel i = some value) :
    InCapture (samplerFile i value)
  | dumped (h : Half) (i : Nat) (file : FileKey × Bytes)
      (hfile : dumpedFile kernel s l h i = some file) :
    InCapture ("Pre/" ++ file.1.name, .binary file.2)

end

variable {dec : Decimals} {float : FloatText} {kernel : Handle} {s : Session} {l : Launch}
  {listing : Listing} {dir : Directory}

/-! ## Listings -/

/-- What the script finds of a folder, in the order of the listing. -/
theorem mem_glob {before after : String} {file : String × Content} :
    file ∈ listing.glob dir before after ↔
      file ∈ dir ∧ globMatches before.toList after.toList (path file) = true := by
  rw [Listing.glob, (listing.perm _).mem_iff, List.mem_filter]

/-- A dictionary by the index in the names, if all names have one. -/
theorem indexed_eq_some {α : Type} (index : List Char → Option Nat) (value : Content → Option α)
    (files : Directory)
    (h : ∀ file ∈ files, (index (path file)).isSome ∧ (value file.2).isSome) :
    ∃ items, indexed index value files = some items ∧ ∀ idx x, (idx, x) ∈ items ↔
      ∃ file ∈ files, index (path file) = some idx ∧ value file.2 = some x := by
  have hsome : (indexed index value files).isSome := by
    apply mapM_isSome
    intro file hfile
    obtain ⟨hindex, hvalue⟩ := h file hfile
    obtain ⟨idx, hidx⟩ := Option.isSome_iff_exists.mp hindex
    obtain ⟨x, hx⟩ := Option.isSome_iff_exists.mp hvalue
    simp [hidx, hx]
  obtain ⟨items, hitems⟩ := Option.isSome_iff_exists.mp hsome
  refine ⟨items, hitems, fun idx x => ?_⟩
  rw [mem_mapM hitems]
  simp [Option.bind_eq_some_iff, Option.map_eq_some_iff]

/-- Files of one kind, over the indices that the session knows. -/
theorem mem_filterMap_indices (hinv : SessionInv float kernel s) {α : Type}
    (entry : ArgEntries → Option α) (hempty : entry {} = none) (file : Nat → α → String × Content)
    (f : String × Content) :
    (f ∈ s.argIndices.filterMap fun i => (entry (s.kernelArgs.entries kernel i)).map (file i)) ↔
      ∃ i x, entry (s.kernelArgs.entries kernel i) = some x ∧ f = file i x := by
  rw [List.mem_filterMap]
  constructor
  · rintro ⟨i, -, hf⟩
    obtain ⟨x, hx, rfl⟩ := Option.map_eq_some_iff.mp hf
    exact ⟨i, x, hx, rfl⟩
  · rintro ⟨i, x, hx, rfl⟩
    refine ⟨i, ?_, by rw [hx]; rfl⟩
    by_contra hi
    rw [hinv.unset i hi, hempty] at hx
    cases hx

/-- What is dumped of an argument, where it is recorded as memory. -/
theorem dumpedFile_eq_some {h : Half} {i : Nat} {file : FileKey × Bytes} :
    dumpedFile kernel s l h i = some file ↔ ∃ memInfo t,
      s.kernelArgs.kernelArgMemMap kernel i = some memInfo ∧
      h.tracked s.objects memInfo.value = some t ∧ l.reads i = true ∧
      readMemory s.live h t = some file.2 ∧
      file.1 = { enqueue := l.enqueueCounter.toUInt32, kernelName := shortKernelName kernel l,
                 argIndex := i, memAllocNumber := t.memAllocNumber, shape := t.shape } := by
  have htarget : target (launchSession kernel s l) 0 h i =
      (s.kernelArgs.kernelArgMemMap kernel i).bind fun memInfo =>
        h.tracked s.objects memInfo.value := rfl
  unfold dumpedFile fileKey
  rw [htarget]
  constructor
  · intro hfile
    obtain ⟨key, hkey, hfile⟩ := Option.bind_eq_some_iff.mp hfile
    obtain ⟨t, ht, hfile⟩ := Option.bind_eq_some_iff.mp hfile
    rw [ht] at hkey
    obtain ⟨memInfo, hmem, htracked⟩ := Option.bind_eq_some_iff.mp ht
    split at hfile
    · next hreads =>
      obtain ⟨bytes, hbytes, rfl⟩ := Option.map_eq_some_iff.mp hfile
      exact ⟨memInfo, t, hmem, htracked, hreads, hbytes, (Option.some.inj hkey).symm⟩
    · cases hfile
  · rintro ⟨memInfo, t, hmem, htracked, hreads, hbytes, hkey⟩
    obtain ⟨key, bytes⟩ := file
    simp only at hbytes hkey
    subst hkey
    rw [hmem, Option.bind_some, htracked]
    simp [hreads, hbytes, shortKernelName, launchSession, MemSession.kernel]

/-- **What a capture writes.** -/
theorem mem_capture (hinv : SessionInv float kernel s) {file : String × Content} :
    file ∈ capture kernel s l ↔ InCapture kernel s l file := by
  have hdumped : ∀ h, file ∈ dumpedFiles kernel s l h ↔
      ∃ i f, dumpedFile kernel s l h i = some f ∧ file = ("Pre/" ++ f.1.name, .binary f.2) := by
    intro h
    rw [dumpedFiles, List.mem_filterMap]
    constructor
    · rintro ⟨i, -, hfile⟩
      obtain ⟨f, hf, rfl⟩ := Option.map_eq_some_iff.mp hfile
      exact ⟨i, f, hf, rfl⟩
    · rintro ⟨i, f, hf, rfl⟩
      refine ⟨i, ?_, by rw [hf]; rfl⟩
      obtain ⟨memInfo, t, hmem, -⟩ := dumpedFile_eq_some.mp hf
      by_contra hi
      have hempty : (s.kernelArgs.entries kernel i).mem = none := by rw [hinv.unset i hi]
      exact nomatch hmem.symm.trans hempty
  have harguments :=
    mem_filterMap_indices hinv ArgEntries.data rfl argumentFile file
  have hlocals := mem_filterMap_indices hinv ArgEntries.localSize rfl localFile file
  have hmems := mem_filterMap_indices hinv ArgEntries.mem rfl (memFile s) file
  have hsamplers := mem_filterMap_indices hinv ArgEntries.sampler rfl samplerFile file
  simp only [capture, kernelArgumentFiles, List.mem_append, hdumped]
  constructor
  · rintro (((h | ((h | h) | h) | h) | h) | h)
    · exact .info file h
    · obtain ⟨i, x, hx, rfl⟩ := harguments.mp h
      exact .argument i x hx
    · obtain ⟨i, x, hx, rfl⟩ := hlocals.mp h
      exact .localMemory i x hx
    · obtain ⟨i, x, hx, rfl⟩ := hmems.mp h
      exact .mem i x hx
    · obtain ⟨i, x, hx, rfl⟩ := hsamplers.mp h
      exact .sampler i x hx
    · obtain ⟨i, f, hf, rfl⟩ := h
      exact .dumped .buffers i f hf
    · obtain ⟨i, f, hf, rfl⟩ := h
      exact .dumped .images i f hf
  · intro h
    cases h with
    | info file h => exact .inl (.inl (.inl h))
    | argument i x hx => exact .inl (.inl (.inr (.inl (.inl (.inl (harguments.mpr ⟨i, x, hx, rfl⟩))))))
    | localMemory i x hx => exact .inl (.inl (.inr (.inl (.inl (.inr (hlocals.mpr ⟨i, x, hx, rfl⟩))))))
    | mem i x hx => exact .inl (.inl (.inr (.inl (.inr (hmems.mpr ⟨i, x, hx, rfl⟩)))))
    | sampler i x hx => exact .inl (.inl (.inr (.inr (hsamplers.mpr ⟨i, x, hx, rfl⟩))))
    | dumped h i f hf =>
      cases h with
      | buffers => exact .inl (.inr ⟨i, f, hf, rfl⟩)
      | images => exact .inr ⟨i, f, hf, rfl⟩

/-! ## The names of dumped files -/

/-- What is behind the index of the argument. -/
def nameTail (key : FileKey) : List Char :=
  ("_".intercalate (shapeFields key.memAllocNumber key.shape)).toList

/-- The name of a dumped file, piece by piece. -/
theorem toList_name (key : FileKey) : key.name.toList =
    "Enqueue_".toList ++ ((number 10 4 key.enqueue.toNat).toList ++ ("_Kernel_".toList ++
      (key.kernelName.toList ++ ("_Arg_".toList ++ ((number 10 1 key.argIndex).toList ++
        '_' :: nameTail key))))) := by
  have hfields : shapeFields key.memAllocNumber key.shape ≠ [] := by
    cases key.shape <;> simp [shapeFields]
  rw [FileKey.name, String.intercalate_append_of_ne_nil (by simp) (by simp),
    String.intercalate_append_of_ne_nil (by simp) hfields]
  simp [nameTail]

theorem slash_notMem_number (w n : Nat) : '/' ∉ (number 10 w n).toList :=
  notMem_number (by decide) (by decide) w n (by decide)

theorem newline_notMem_number (w n : Nat) : '\n' ∉ (number 10 w n).toList :=
  notMem_number (by decide) (by decide) w n (by decide)

/-- A number with its line end. -/
theorem lines_number (n : Nat) : lines ((number 10 1 n).toList ++ ['\n']) =
    [(number 10 1 n).toList] := by
  have h := lines_flatMap fun row (hrow : row ∈ [(number 10 1 n).toList]) =>
    (List.mem_singleton.mp hrow).symm ▸ newline_notMem_number 1 n
  rw [List.flatMap_cons, List.flatMap_nil, List.append_nil] at h
  exact h

/-- What the star of the pattern stands for in the name of a buffer. -/
theorem nameTail_buffer {key : FileKey} (h : key.shape = none) : ∃ star : List Char,
    nameTail key = star ++ ".bin".toList ∧ '/' ∉ star := by
  refine ⟨"Buffer_".toList ++ (number 10 4 key.memAllocNumber).toList, ?_, ?_⟩
  · simp [nameTail, h, shapeFields]
  · simp [slash_notMem_number]

/-- What the star of the pattern stands for in the name of an image. -/
theorem nameTail_image {key : FileKey} (h : key.shape ≠ none) : ∃ star : List Char,
    nameTail key = star ++ ".raw".toList ∧ '/' ∉ star := by
  obtain ⟨⟨width, height, depth, bits⟩, hshape⟩ := Option.ne_none_iff_exists'.mp h
  refine ⟨"Image_".toList ++ ((number 10 4 key.memAllocNumber).toList ++ '_' ::
    (("x".intercalate ([width, height, depth].map (number 10 1))).toList ++ '_' ::
      ((number 10 1 bits).toList ++ "bpp".toList))), ?_, ?_⟩
  · simp [nameTail, hshape, shapeFields]
  · simp [slash_notMem_number]

/-- The path of a dumped file of this launch. -/
def dumpedPath (kernel : Handle) (l : Launch) (key : FileKey) : List Char :=
  dumpedStem kernel l ++ ((number 10 1 key.argIndex).toList ++ '_' :: nameTail key)

/-- A dumped file lies where the script looks for it, while the counter has not started again. -/
theorem path_dumped {h : Half} {i : Nat} {file : FileKey × Bytes}
    (hcounter : l.enqueueCounter.toUInt32.toNat = l.enqueueCounter.toNat)
    (hfile : dumpedFile kernel s l h i = some file) :
    path ("Pre/" ++ file.1.name, .binary file.2) = dumpedPath kernel l file.1 := by
  obtain ⟨memInfo, t, -, -, -, -, hkey⟩ := dumpedFile_eq_some.mp hfile
  unfold path dumpedPath dumpedStem
  simp only [String.toList_append, toList_name, hkey, hcounter, List.append_assoc]
  rfl

/-! ## Which files a pattern matches -/

/-- One of two texts goes on from the other. -/
def Begin (start before : List Char) : Prop := start <+: before ∨ before <+: start

/-- A pattern that matches begins like the path. -/
theorem begin_of_globMatches {before after start rest : List Char}
    (h : globMatches before after (start ++ rest) = true) : Begin start before :=
  List.prefix_or_prefix_of_prefix (List.prefix_append start rest) (isPrefix_of_globMatches h)

/-- A pattern that matches says how the name begins. -/
theorem begin_of_globMatches_whole {before after start : List Char}
    (h : globMatches before after start = true) : Begin start before := by
  rw [← List.append_nil start] at h
  exact begin_of_globMatches h

/-- Where the file of an argument lies. -/
theorem path_argFile (stem : String) (i : Nat) (suffix : String) (content : Content) :
    path (argFile stem i suffix content) =
      ("./" ++ stem).toList ++ ((number 10 1 i).toList ++ suffix.toList) := by
  simp [path, argFile]

/-- The pattern of its kind finds it. -/
theorem globMatches_argFile (stem : String) (i : Nat) (suffix : String) (content : Content) :
    globMatches ("./" ++ stem).toList suffix.toList (path (argFile stem i suffix content)) = true := by
  rw [path_argFile, globMatches_append]
  simp [slash_notMem_number]

/-- **The files of a capture, by how their paths begin.** -/
theorem InCapture.begins {before after : List Char} {file : String × Content}
    (h : InCapture kernel s l file) (hm : globMatches before after (path file) = true) :
    (Begin "./Argument".toList before ∧
      ∃ i value, s.kernelArgs.kernelArgDataMap kernel i = some value ∧ file = argumentFile i value) ∨
    (Begin "./Local".toList before ∧ ∃ i size,
      s.kernelArgs.kernelArgLocalSizeMap kernel i = some size ∧ file = localFile i size) ∨
    ((Begin "./Image_MetaData_".toList before ∨ Begin "./SVM_Arg_Offset_".toList before) ∧
      ∃ i memInfo, s.kernelArgs.kernelArgMemMap kernel i = some memInfo ∧
        file = memFile s i memInfo) ∨
    (Begin "./Sampler".toList before ∧ ∃ i value,
      s.kernelArgs.kernelArgSamplerMap kernel i = some value ∧ file = samplerFile i value) ∨
    (Begin "./Pre/".toList before ∧ ∃ h i f, dumpedFile kernel s l h i = some f ∧
      file = ("Pre/" ++ f.1.name, .binary f.2)) ∨
    (Begin "./enqueueNumber.txt".toList before ∨ Begin "./worksizes.txt".toList before ∨
      Begin "./kernelName.txt".toList before) := by
  cases h with
  | argument i value hvalue =>
    rw [argumentFile, path_argFile] at hm
    exact .inl ⟨begin_of_globMatches hm, i, value, hvalue, rfl⟩
  | localMemory i size hsize =>
    rw [localFile, path_argFile] at hm
    exact .inr (.inl ⟨begin_of_globMatches hm, i, size, hsize, rfl⟩)
  | mem i memInfo hmem =>
    refine .inr (.inr (.inl ⟨?_, i, memInfo, hmem, rfl⟩))
    unfold memFile at hm
    split at hm
    · rw [path_argFile] at hm
      exact .inl (begin_of_globMatches hm)
    · rw [path_argFile] at hm
      exact .inr (begin_of_globMatches hm)
  | sampler i value hvalue =>
    rw [samplerFile, path_argFile] at hm
    exact .inr (.inr (.inr (.inl ⟨begin_of_globMatches hm, i, value, hvalue, rfl⟩)))
  | dumped h i f hf =>
    have hpath : path ("Pre/" ++ f.1.name, .binary f.2) = "./Pre/".toList ++ f.1.name.toList := by
      simp [path]
    rw [hpath] at hm
    exact .inr (.inr (.inr (.inr (.inl ⟨begin_of_globMatches hm, h, i, f, hf, rfl⟩))))
  | info file hfile =>
    refine .inr (.inr (.inr (.inr (.inr ?_))))
    simp only [kernelInfoFiles, List.mem_cons, List.not_mem_nil, or_false] at hfile
    rcases hfile with rfl | rfl | rfl
    · exact .inl (begin_of_globMatches_whole hm)
    · exact .inr (.inl (begin_of_globMatches_whole hm))
    · exact .inr (.inr (begin_of_globMatches_whole hm))

variable (l listing) in
/-- The values that the script finds are those that the session keeps. -/
theorem mem_glob_argument (hinv : SessionInv float kernel s) {file : String × Content} :
    file ∈ listing.glob (capture kernel s l) "./Argument" ".bin" ↔
      ∃ i value, s.kernelArgs.kernelArgDataMap kernel i = some value ∧
        file = argumentFile i value := by
  rw [mem_glob, mem_capture hinv]
  constructor
  · rintro ⟨h, hm⟩
    simpa [Begin] using h.begins hm
  · rintro ⟨i, value, hvalue, rfl⟩
    exact ⟨.argument i value hvalue, globMatches_argFile "Argument" i ".bin" _⟩

variable (l listing) in
/-- The local sizes that the script finds are those that the session keeps. -/
theorem mem_glob_local (hinv : SessionInv float kernel s) {file : String × Content} :
    file ∈ listing.glob (capture kernel s l) "./Local" ".txt" ↔
      ∃ i size, s.kernelArgs.kernelArgLocalSizeMap kernel i = some size ∧
        file = localFile i size := by
  rw [mem_glob, mem_capture hinv]
  constructor
  · rintro ⟨h, hm⟩
    simpa [Begin] using h.begins hm
  · rintro ⟨i, size, hsize, rfl⟩
    exact ⟨.localMemory i size hsize, globMatches_argFile "Local" i ".txt" _⟩

variable (l listing) in
/-- The samplers that the script finds are those that the session keeps. -/
theorem mem_glob_sampler (hinv : SessionInv float kernel s) {file : String × Content} :
    file ∈ listing.glob (capture kernel s l) "./Sampler" ".txt" ↔
      ∃ i value, s.kernelArgs.kernelArgSamplerMap kernel i = some value ∧
        file = samplerFile i value := by
  rw [mem_glob, mem_capture hinv]
  constructor
  · rintro ⟨h, hm⟩
    simpa [Begin] using h.begins hm
  · rintro ⟨i, value, hvalue, rfl⟩
    exact ⟨.sampler i value hvalue, globMatches_argFile "Sampler" i ".txt" _⟩

variable (l listing) in
/-- An offset is written for what is no image. -/
theorem mem_glob_offset (hinv : SessionInv float kernel s) {file : String × Content} :
    file ∈ listing.glob (capture kernel s l) "./SVM_Arg_Offset" ".txt" ↔
      ∃ i memInfo, s.kernelArgs.kernelArgMemMap kernel i = some memInfo ∧
        s.objects.imageInfoMap memInfo.value = none ∧ file = memFile s i memInfo := by
  rw [mem_glob, mem_capture hinv]
  constructor
  · rintro ⟨h, hm⟩
    have hfile : ∃ i memInfo, s.kernelArgs.kernelArgMemMap kernel i = some memInfo ∧
        file = memFile s i memInfo := by
      simpa [Begin] using h.begins hm
    obtain ⟨i, memInfo, hmem, rfl⟩ := hfile
    refine ⟨i, memInfo, hmem, ?_, rfl⟩
    cases himage : s.objects.imageInfoMap memInfo.value with
    | none => rfl
    | some info =>
      simp only [memFile, himage] at hm
      rw [path_argFile] at hm
      exact absurd (begin_of_globMatches hm) (by simp [Begin])
  · rintro ⟨i, memInfo, hmem, himage, rfl⟩
    refine ⟨.mem i memInfo hmem, ?_⟩
    simp only [memFile, himage]
    rw [path_argFile]
    have hstart : ("./" ++ "SVM_Arg_Offset_").toList ++ ((number 10 1 i).toList ++ ".txt".toList) =
        "./SVM_Arg_Offset".toList ++ (("_".toList ++ (number 10 1 i).toList) ++ ".txt".toList) := by
      simp
    rw [hstart, globMatches_append]
    simp [slash_notMem_number]

/-- The pattern for the dumped files of a half. -/
def dumpedSuffix : Half → String
  | .buffers => ".bin"
  | .images => ".raw"

/-- The endings of buffers and images differ. -/
theorem dumpedSuffix_inj {h h' : Half}
    (hend : (dumpedSuffix h).toList <:+ (dumpedSuffix h').toList) : h = h' := by
  have table : ¬ ['.', 'b', 'i', 'n'] <:+ ['.', 'r', 'a', 'w'] ∧
      ¬ ['.', 'r', 'a', 'w'] <:+ ['.', 'b', 'i', 'n'] := by decide
  cases h <;> cases h' <;> simp_all [dumpedSuffix]

/-- The path of a dumped file, as its pattern takes it apart. -/
theorem dumpedPath_eq {h : Half} {i : Nat} {file : FileKey × Bytes}
    (hfile : dumpedFile kernel s l h i = some file) : ∃ star : List Char,
    dumpedPath kernel l file.1 =
      ("./Pre/Enqueue_" ++ number 10 4 l.enqueueCounter.toNat).toList ++
        (star ++ (dumpedSuffix h).toList) ∧
      ('/' ∈ star ↔ '/' ∈ (shortKernelName kernel l).toList) := by
  obtain ⟨memInfo, t, -, htracked, -, -, hkey⟩ := dumpedFile_eq_some.mp hfile
  have htail : ∃ star : List Char, nameTail file.1 = star ++ (dumpedSuffix h).toList ∧ '/' ∉ star := by
    cases h with
    | buffers =>
      obtain ⟨size, -, rfl⟩ := Option.map_eq_some_iff.mp htracked
      exact nameTail_buffer (by rw [hkey])
    | images =>
      obtain ⟨info, -, rfl⟩ := Option.map_eq_some_iff.mp htracked
      exact nameTail_image (by rw [hkey]; simp)
  obtain ⟨star, hstar, hslash⟩ := htail
  refine ⟨"_Kernel_".toList ++ ((shortKernelName kernel l).toList ++ ("_Arg_".toList ++
    ((number 10 1 file.1.argIndex).toList ++ '_' :: star))), ?_, ?_⟩
  · unfold dumpedPath dumpedStem
    simp only [hstar, String.toList_append, List.append_assoc, List.cons_append]
  · simp [slash_notMem_number, hslash]

variable (listing) in
/-- The dumped files that it finds are those of this launch. -/
theorem mem_glob_dumped (hinv : SessionInv float kernel s)
    (hcounter : l.enqueueCounter.toUInt32.toNat = l.enqueueCounter.toNat) (h : Half)
    {file : String × Content} :
    file ∈ listing.glob (capture kernel s l)
        ("./Pre/Enqueue_" ++ number 10 4 l.enqueueCounter.toNat) (dumpedSuffix h) ↔
      '/' ∉ (shortKernelName kernel l).toList ∧ ∃ i f, dumpedFile kernel s l h i = some f ∧
        file = ("Pre/" ++ f.1.name, .binary f.2) := by
  rw [mem_glob, mem_capture hinv]
  constructor
  · rintro ⟨hcapture, hm⟩
    have hfile : ∃ h' i f, dumpedFile kernel s l h' i = some f ∧
        file = ("Pre/" ++ f.1.name, .binary f.2) := by
      simpa [Begin] using hcapture.begins hm
    obtain ⟨h', i, f, hf, rfl⟩ := hfile
    obtain ⟨star, hpath, hslash⟩ := dumpedPath_eq hf
    rw [path_dumped hcounter hf, hpath] at hm
    have hends := List.suffix_or_suffix_of_suffix (isSuffix_of_globMatches hm)
      ((List.suffix_append star _).trans (List.suffix_append _ _))
    obtain rfl : h = h' := hends.elim dumpedSuffix_inj fun hend => (dumpedSuffix_inj hend).symm
    rw [globMatches_append] at hm
    refine ⟨fun hmem => ?_, i, f, hf, rfl⟩
    simp [hslash.mpr hmem] at hm
  · rintro ⟨hslash', i, f, hf, rfl⟩
    obtain ⟨star, hpath, hslash⟩ := dumpedPath_eq hf
    refine ⟨.dumped h i f hf, ?_⟩
    rw [path_dumped hcounter hf, hpath, globMatches_append]
    simpa [hslash] using hslash'

/-! ## The index in a name -/

/-- Below 128 the digits of Python are those of ASCII. -/
theorem isDigit_ascii {c : Char} (h : c.toNat < 128) : dec.isDigit c = c.isDigit := by
  rw [Decimals.isDigit, dec.ascii c h]
  cases c.isDigit <;> rfl

/-- The index in the name of a file is that of its argument. -/
theorem indexOf_argFile (stem : String) (i : Nat) (suffix : String) (content : Content)
    (hstem : ∀ c ∈ ("./" ++ stem).toList, c.toNat < 128 ∧ c.isDigit = false)
    (hsuffix : ∀ c ∈ suffix.toList.head?, c.toNat < 128 ∧ c.isDigit = false) :
    indexOf dec (path (argFile stem i suffix content)) = some i := by
  rw [path_argFile]
  refine Decimals.firstNumber_number (by decide) i (fun c hc => ?_) fun c hc => ?_
  · rw [isDigit_ascii (hstem c hc).1, (hstem c hc).2]
  · rw [isDigit_ascii (hsuffix c hc).1, (hsuffix c hc).2]

/-- **The index behind `_Arg_`** is read back, unless a number is in front of it. -/
theorem indexFromArg_stem {stem : List Char} (hword : "_Arg_".toList <:+ stem) (argIndex : Nat)
    (tail : List Char) :
    indexFromArg dec (stem ++ ((number 10 1 argIndex).toList ++ '_' :: tail)) =
      some ((dec.firstNumber (fromFirst "_Arg_".toList stem)).getD argIndex) := by
  obtain ⟨front, hfront⟩ := suffix_fromFirst hword
  unfold indexFromArg
  rw [fromFirst_append hword.isInfix]
  cases hnumber : dec.firstNumber (fromFirst "_Arg_".toList stem) with
  | some n =>
    -- The number ends before the underscore, so the index of the argument does not matter.
    have hstem : fromFirst "_Arg_".toList stem = (front ++ "_Arg".toList) ++ ['_'] := by
      rw [← hfront]
      simp
    rw [hstem] at hnumber ⊢
    rw [List.append_assoc, List.singleton_append]
    exact Decimals.firstNumber_append_right (isDigit_ascii (by decide)) hnumber _
  | none =>
    refine Decimals.firstNumber_number (by decide) _ (Decimals.isDigit_of_firstNumber hnumber)
      fun c hc => ?_
    cases hc
    exact isDigit_ascii (by decide)

/-- **A dumped file is found under an index that does not depend on the memory.** -/
theorem indexFromArg_dumpedPath (key : FileKey) :
    indexFromArg dec (dumpedPath kernel l key) = some (foundIndex dec kernel l key.argIndex) := by
  have hword : "_Arg_".toList <:+ dumpedStem kernel l := by
    unfold dumpedStem
    exact (((List.suffix_append _ _).trans (List.suffix_append _ _)).trans
      (List.suffix_append _ _)).trans (List.suffix_append _ _)
  exact indexFromArg_stem hword key.argIndex (nameTail key)

/-! ## Text files -/

/-- A file is read by its name, if no other has it. -/
theorem readText_eq {name : String} {chars : List Char} (hmem : (name, Content.text chars) ∈ dir)
    (honly : ∀ file ∈ dir, file.1 = name → file.2 = .text chars) :
    readText dir name = some chars := by
  have hfound : (dir.find? (·.1 = name)).isSome := by
    rw [List.find?_isSome]
    exact ⟨_, hmem, by simp⟩
  obtain ⟨file, hfile⟩ := Option.isSome_iff_exists.mp hfound
  have hcontent := honly file (List.mem_of_find?_eq_some hfile)
    (by simpa using List.find?_some hfile)
  obtain ⟨name', content⟩ := file
  simp only at hcontent
  subst hcontent
  rw [readText, hfile]

/-- What is read lies in the folder. -/
theorem exists_file_of_readText {name : String} {chars : List Char}
    (h : readText dir name = some chars) : ∃ file ∈ dir, file.1 = name := by
  cases hfile : dir.find? (·.1 = name) with
  | none => simp [readText, hfile] at h
  | some file =>
    exact ⟨file, List.mem_of_find?_eq_some hfile, by simpa using List.find?_some hfile⟩

theorem toList_argFile (stem : String) (i : Nat) (suffix : String) (content : Content) :
    (argFile stem i suffix content).1.toList =
      stem.toList ++ ((number 10 1 i).toList ++ suffix.toList) := by
  simp [argFile]

/-- Files of arguments begin with their kind. -/
theorem stem_argFile (stem : String) (i : Nat) (suffix : String) (content : Content) :
    stem.toList <+: (argFile stem i suffix content).1.toList := by
  rw [toList_argFile]
  exact List.prefix_append _ _

/-- A file is known by where its name begins. -/
theorem InCapture.of_name {file : String × Content} (h : InCapture kernel s l file) :
    file ∈ kernelInfoFiles kernel l ∨
    (∃ stem ∈ ["Argument", "Local", "SVM_Arg_Offset_", "Sampler", "Pre/"],
      stem.toList <+: file.1.toList) ∨
    ∃ i memInfo info, s.kernelArgs.kernelArgMemMap kernel i = some memInfo ∧
      s.objects.imageInfoMap memInfo.value = some info ∧
      file = argFile "Image_MetaData_" i ".txt" (.text (printMetadata info)) := by
  cases h with
  | info file hfile => exact .inl hfile
  | argument i value hvalue =>
    exact .inr (.inl ⟨"Argument", by simp, stem_argFile "Argument" i ".bin" _⟩)
  | localMemory i size hsize =>
    exact .inr (.inl ⟨"Local", by simp, stem_argFile "Local" i ".txt" _⟩)
  | mem i memInfo hmem =>
    unfold memFile
    split
    · next info hinfo => exact .inr (.inr ⟨i, memInfo, info, hmem, hinfo, rfl⟩)
    · exact .inr (.inl ⟨"SVM_Arg_Offset_", by simp, stem_argFile "SVM_Arg_Offset_" i ".txt" _⟩)
  | sampler i value hvalue =>
    exact .inr (.inl ⟨"Sampler", by simp, stem_argFile "Sampler" i ".txt" _⟩)
  | dumped h i f hf =>
    refine .inr (.inl ⟨"Pre/", by simp, ?_⟩)
    rw [String.toList_append]
    exact List.prefix_append _ _

/-- The files about the launch itself. -/
theorem mem_kernelInfoFiles (kernel : Handle) (l : Launch) :
    ("enqueueNumber.txt", Content.text ((number 10 1 l.enqueueCounter.toNat).toList ++ ['\n'])) ∈
        kernelInfoFiles kernel l ∧
      ("worksizes.txt", Content.text (printWorkSizes l)) ∈ kernelInfoFiles kernel l ∧
      ("kernelName.txt", Content.text (shortKernelName kernel l).toList) ∈
        kernelInfoFiles kernel l := by
  simp only [kernelInfoFiles]
  exact ⟨List.mem_cons_self, List.mem_cons_of_mem _ List.mem_cons_self,
    List.mem_cons_of_mem _ (List.mem_cons_of_mem _ List.mem_cons_self)⟩

/-- The script reads them as they were written. -/
theorem readText_info (hinv : SessionInv float kernel s) {name : String} {chars : List Char}
    (hmem : (name, Content.text chars) ∈ kernelInfoFiles kernel l) :
    readText (capture kernel s l) name = some chars := by
  have hnames : name = "enqueueNumber.txt" ∨ name = "worksizes.txt" ∨ name = "kernelName.txt" := by
    simp only [kernelInfoFiles, List.mem_cons, List.not_mem_nil, or_false, Prod.mk.injEq] at hmem
    exact hmem.imp (·.1) (·.imp (·.1) (·.1))
  refine readText_eq ((mem_capture hinv).mpr (.info _ hmem)) fun file hfile hname => ?_
  rcases ((mem_capture hinv).mp hfile).of_name with hinfo | ⟨stem, hstem, hstart⟩ |
    ⟨i, memInfo, info, -, -, rfl⟩
  · obtain ⟨name', content⟩ := file
    simp only at hname
    subst hname
    simp only [kernelInfoFiles, List.mem_cons, List.not_mem_nil, or_false, Prod.mk.injEq] at hinfo hmem
    rcases hnames with rfl | rfl | rfl <;> simp_all
  · rw [hname] at hstart
    simp only [List.mem_cons, List.not_mem_nil, or_false] at hstem
    rcases hnames with rfl | rfl | rfl <;> rcases hstem with rfl | rfl | rfl | rfl | rfl <;>
      simp at hstart
  · have hchars := congrArg String.toList hname
    rw [toList_argFile] at hchars
    rcases hnames with rfl | rfl | rfl <;> simp at hchars

/-! ## The metadata of images and the sizes -/

/-- Two files of one kind are those of one argument only if the indices agree. -/
theorem argFile_inj {stem : String} {i j : Nat} {suffix : String} {content content' : Content}
    (h : (argFile stem i suffix content).1 = (argFile stem j suffix content').1) : i = j := by
  have hchars := congrArg String.toList h
  rw [toList_argFile, toList_argFile] at hchars
  have hnumbers := List.append_cancel_right (List.append_cancel_left hchars)
  exact number_inj (b := 10) (by decide) (by decide) (String.toList_inj.mp hnumbers)

/-- A file with metadata is that of an image that is recorded of this index. -/
theorem InCapture.metadata {file : String × Content} (h : InCapture kernel s l file) {i : Nat}
    (hname : file.1 = "Image_MetaData_" ++ number 10 1 i ++ ".txt") :
    ∃ memInfo info, s.kernelArgs.kernelArgMemMap kernel i = some memInfo ∧
      s.objects.imageInfoMap memInfo.value = some info ∧
      file.2 = .text (printMetadata info) := by
  have hstart : "Image_MetaData_".toList <+:
      ("Image_MetaData_" ++ number 10 1 i ++ ".txt").toList :=
    stem_argFile "Image_MetaData_" i ".txt" (.text [])
  rcases h.of_name with hinfo | ⟨stem, hstem, hstart'⟩ | ⟨j, memInfo, info, hmem, hinfo, rfl⟩
  · simp only [kernelInfoFiles, List.mem_cons, List.not_mem_nil, or_false] at hinfo
    rcases hinfo with rfl | rfl | rfl <;> rw [← hname] at hstart <;> simp at hstart
  · rw [hname] at hstart'
    have hcomparable := List.prefix_or_prefix_of_prefix hstart hstart'
    simp only [List.mem_cons, List.not_mem_nil, or_false] at hstem
    rcases hstem with rfl | rfl | rfl | rfl | rfl <;> simp at hcomparable
  · obtain rfl : j = i := @argFile_inj _ _ _ _ _ (.text (printMetadata info)) hname
    exact ⟨memInfo, info, hmem, hinfo, rfl⟩

/-- The description of an image is found under its argument. -/
theorem readText_metadata (hinv : SessionInv float kernel s) {i : Nat} {memInfo : SMemInfo}
    {info : SImageInfo} (hmem : s.kernelArgs.kernelArgMemMap kernel i = some memInfo)
    (hinfo : s.objects.imageInfoMap memInfo.value = some info) :
    readText (capture kernel s l) ("Image_MetaData_" ++ number 10 1 i ++ ".txt") =
      some (printMetadata info) := by
  have hfile : InCapture kernel s l
      (argFile "Image_MetaData_" i ".txt" (.text (printMetadata info))) := by
    have h := InCapture.mem (s := s) (l := l) i memInfo hmem
    simpa only [memFile, hinfo] using h
  refine readText_eq ((mem_capture hinv).mpr hfile) fun file hmem' hname => ?_
  obtain ⟨memInfo', info', hmemInfo', hinfo', hcontent⟩ := ((mem_capture hinv).mp hmem').metadata hname
  rw [hmem] at hmemInfo'
  cases hmemInfo'
  rw [hinfo] at hinfo'
  cases hinfo'
  exact hcontent

/-- The shape that is read of an image. -/
def recordedShape (info : SImageInfo) : List Nat :=
  match info.imageType with
  | .image1D => [info.region.1]
  | .image2D => [info.region.1, info.region.2.1]
  | _ => [info.region.1, info.region.2.1, info.region.2.2]

/-- The description of an image has nine lines, one number each. -/
theorem lines_printMetadata (info : SImageInfo) : lines (printMetadata info) =
    ([info.region.1, info.region.2.1, info.region.2.2, info.elementSize, info.rowPitch,
      info.slicePitch, info.format.2, info.format.1, imageTypeCode info.imageType].map
        fun n => (number 10 1 n).toList) := by
  have hrows : ∀ row ∈ [info.region.1, info.region.2.1, info.region.2.2, info.elementSize,
      info.rowPitch, info.slicePitch, info.format.2, info.format.1].map
        fun n => (number 10 1 n).toList, '\n' ∉ row := by
    intro row hrow
    obtain ⟨n, -, rfl⟩ := List.mem_map.mp hrow
    exact newline_notMem_number 1 n
  have hlines := lines_flatMap_append hrows
    (newline_notMem_number 1 (imageTypeCode info.imageType))
    (Decimals.number_ne_nil (by decide))
  rw [List.flatMap_map] at hlines
  exact hlines

/-- Types of images have their own codes. -/
theorem imageTypeCode_inj : Function.Injective imageTypeCode := by
  intro t t' h
  cases t <;> cases t' <;> first | rfl | exact absurd h (by decide)

/-- Every line reads back. -/
theorem lineNumber_printMetadata (info : SImageInfo) (line : Nat) :
    lineNumber dec (printMetadata info) line =
      [info.region.1, info.region.2.1, info.region.2.2, info.elementSize, info.rowPitch,
        info.slicePitch, info.format.2, info.format.1, imageTypeCode info.imageType][line]? := by
  have hnumber : (fun n => dec.wholeNumber (number 10 1 n).toList) = some := by
    ext1 n
    have h := dec.wholeNumber_number Nat.one_pos n (List.forall_mem_nil _)
    rwa [List.append_nil] at h
  rw [lineNumber, lines_printMetadata, List.getElem?_map, Option.bind_map, Function.comp_def, hnumber,
    Option.bind_fun_some]

/-- **The script makes an image of the format and shape that were recorded.** -/
theorem getImageMetadata_capture (hinv : SessionInv float kernel s) {i : Nat} {memInfo : SMemInfo}
    {info : SImageInfo} (hmem : s.kernelArgs.kernelArgMemMap kernel i = some memInfo)
    (hinfo : s.objects.imageInfoMap memInfo.value = some info) :
    getImageMetadata dec (capture kernel s l) i = some (info.format, recordedShape info) := by
  rw [getImageMetadata, readText_metadata hinv hmem hinfo]
  cases himage : info.imageType <;>
    simp [lineNumber_printMetadata, List.mapM_cons, imageTypeCode_inj.eq_iff, himage, recordedShape]

/-- What is read of an image was recorded of it. -/
theorem getImageMetadata_capture_eq_some (hinv : SessionInv float kernel s) {i : Nat}
    {image : (Nat × Nat) × List Nat}
    (h : getImageMetadata dec (capture kernel s l) i = some image) :
    ∃ memInfo info, s.kernelArgs.kernelArgMemMap kernel i = some memInfo ∧
      s.objects.imageInfoMap memInfo.value = some info ∧
      image = (info.format, recordedShape info) := by
  obtain ⟨chars, hchars, -⟩ := Option.bind_eq_some_iff.mp (show _ = some image from h)
  obtain ⟨file, hfile, hname⟩ := exists_file_of_readText hchars
  obtain ⟨memInfo, info, hmem, hinfo, -⟩ := ((mem_capture hinv).mp hfile).metadata hname
  rw [getImageMetadata_capture hinv hmem hinfo] at h
  exact ⟨memInfo, info, hmem, hinfo, (Option.some.inj h).symm⟩

/-- The words of the sizes are their numbers. -/
theorem words_printSizes (sizes : Option (Fin l.workDim → Nat)) :
    (words (printSizes l sizes)).mapM dec.wholeNumber =
      some (List.ofFn (sizes.getD fun _ => 0)) := by
  have hblank : ∀ n, ' ' ∉ (number 10 1 n).toList := fun n =>
    notMem_number (by decide) (by decide) 1 n (by decide)
  have hparts : ∀ part ∈ (List.ofFn (sizes.getD fun _ => 0)).map
      fun n => (number 10 1 n).toList, ' ' ∉ part ∧ part ≠ [] := by
    intro part hpart
    obtain ⟨n, -, rfl⟩ := List.mem_map.mp hpart
    exact ⟨hblank n, Decimals.number_ne_nil (by decide)⟩
  have hwords := words_flatMap (fun part hpart => (hparts part hpart).1)
    fun part hpart => (hparts part hpart).2
  rw [List.flatMap_map] at hwords
  unfold printSizes
  rw [hwords, mapM_wholeNumber]

theorem newline_notMem_printSizes (sizes : Option (Fin l.workDim → Nat)) :
    '\n' ∉ printSizes l sizes := by
  unfold printSizes
  rw [List.mem_flatMap]
  rintro ⟨n, -, hmem⟩
  rcases List.mem_append.mp hmem with hmem | hmem
  · exact newline_notMem_number 1 n hmem
  · simp at hmem

/-- The three lines of sizes read back, zeros for a missing one. -/
theorem readSizes_printWorkSizes (line : Nat) : readSizes dec (printWorkSizes l) line =
    [l.globalSize, l.localSize, l.globalOffset][line]?.map fun sizes =>
      List.ofFn (sizes.getD fun _ => 0) := by
  have hlines : lines (printWorkSizes l) =
      [l.globalSize, l.localSize, l.globalOffset].map (printSizes l) := by
    refine lines_flatMap fun row hrow => ?_
    have hrow' : row ∈ [l.globalSize, l.localSize, l.globalOffset].map (printSizes l) := hrow
    obtain ⟨sizes, -, rfl⟩ := List.mem_map.mp hrow'
    exact newline_notMem_printSizes sizes
  have hsizes : (fun sizes => (words (printSizes l sizes)).mapM dec.wholeNumber) =
      fun sizes => some (List.ofFn (sizes.getD fun _ => 0)) := by
    ext1 sizes
    exact words_printSizes sizes
  rw [readSizes, hlines, List.getElem?_map, Option.bind_map, Function.comp_def, hsizes,
    Option.map_eq_bind]
  rfl

/-! ## All inputs -/

/-- The memory of a half. -/
def Inputs.dumped (inp : Inputs) : Half → List (Nat × Bytes)
  | .buffers => inp.buffers
  | .images => inp.images

/-- **What is read of a capture**: the entries of the arguments, and the memory under the indices
where it is found. -/
structure ReadOf (dec : Decimals) (kernel : Handle) (s : Session) (l : Launch) (listing : Listing)
    (inp : Inputs) : Prop where
  arguments : ∀ i x, (i, x) ∈ inp.arguments ↔ s.kernelArgs.kernelArgDataMap kernel i = some x
  svmArgOffsets : ∀ i x, (i, x) ∈ inp.svmArgOffsets ↔ ∃ memInfo,
    s.kernelArgs.kernelArgMemMap kernel i = some memInfo ∧
      s.objects.imageInfoMap memInfo.value = none ∧ memInfo.offset = x
  dumped : ∀ h i x, (i, x) ∈ inp.dumped h ↔ FoundUnder dec kernel s l h i x
  localSizes : ∀ i x, (i, x) ∈ inp.localSizes ↔
    s.kernelArgs.kernelArgLocalSizeMap kernel i = some x
  samplers : ∀ i x, (i, x) ∈ inp.samplers ↔ ∃ str,
    s.kernelArgs.kernelArgSamplerMap kernel i = some str ∧
      samplerFromString (str.toList.takeWhile (· ≠ '\n')) = x
  files : ∀ h, indexed (indexFromArg dec) Content.bytes
    (listing.glob (capture kernel s l)
      ("./Pre/Enqueue_" ++ number 10 4 l.enqueueCounter.toNat) (dumpedSuffix h)) =
    some (inp.dumped h)

variable (dec) in
/-- The index that is found in the path of a dumped file, digits of the kernel's name included. -/
theorem indexFromArg_dumped {h : Half} {i : Nat} {f : FileKey × Bytes}
    (hcounter : l.enqueueCounter.toUInt32.toNat = l.enqueueCounter.toNat)
    (hf : dumpedFile kernel s l h i = some f) :
    indexFromArg dec (path ("Pre/" ++ f.1.name, .binary f.2)) =
      some (foundIndex dec kernel l i) := by
  obtain ⟨memInfo, t, -, -, -, -, hkey⟩ := dumpedFile_eq_some.mp hf
  rw [path_dumped hcounter hf, indexFromArg_dumpedPath, hkey]

variable (dec listing) in
/-- The dictionary of the dumped files. -/
theorem indexed_dumped (hinv : SessionInv float kernel s)
    (hcounter : l.enqueueCounter.toUInt32.toNat = l.enqueueCounter.toNat) (h : Half) :
    ∃ items, indexed (indexFromArg dec) Content.bytes (listing.glob (capture kernel s l)
        ("./Pre/Enqueue_" ++ number 10 4 l.enqueueCounter.toNat) (dumpedSuffix h)) = some items ∧
      ∀ i x, (i, x) ∈ items ↔ FoundUnder dec kernel s l h i x := by
  obtain ⟨items, hitems, hmem⟩ := indexed_eq_some (indexFromArg dec) Content.bytes
    (listing.glob (capture kernel s l)
      ("./Pre/Enqueue_" ++ number 10 4 l.enqueueCounter.toNat) (dumpedSuffix h))
    (fun file hfile => by
      obtain ⟨-, i, f, hf, rfl⟩ := (mem_glob_dumped listing hinv hcounter h).mp hfile
      rw [indexFromArg_dumped dec hcounter hf]
      exact ⟨rfl, rfl⟩)
  refine ⟨items, hitems, fun i x => ?_⟩
  rw [hmem]
  constructor
  · rintro ⟨file, hfile, hidx, hvalue⟩
    obtain ⟨hslash, j, f, hf, rfl⟩ := (mem_glob_dumped listing hinv hcounter h).mp hfile
    rw [indexFromArg_dumped dec hcounter hf] at hidx
    cases hvalue
    exact ⟨hslash, j, f.1, hf, Option.some.inj hidx⟩
  · rintro ⟨hslash, j, key, hf, hidx⟩
    refine ⟨_, (mem_glob_dumped listing hinv hcounter h).mpr ⟨hslash, j, _, hf, rfl⟩, ?_, rfl⟩
    rw [indexFromArg_dumped dec hcounter hf, hidx]

variable (dec) in
/-- The files of one map. -/
theorem indexed_argFiles {α β : Type} {files : Directory} {entry : Nat → α → Prop}
    {file : Nat → α → String × Content} (value : Content → Option β) (content : α → β)
    (hfiles : ∀ {f}, f ∈ files ↔ ∃ i x, entry i x ∧ f = file i x)
    (hindex : ∀ i x, entry i x → indexOf dec (path (file i x)) = some i)
    (hvalue : ∀ i x, entry i x → value (file i x).2 = some (content x)) :
    ∃ items, indexed (indexOf dec) value files = some items ∧
      ∀ i y, (i, y) ∈ items ↔ ∃ x, entry i x ∧ content x = y := by
  obtain ⟨items, hitems, hmem⟩ := indexed_eq_some (indexOf dec) value files (fun f hf => by
      obtain ⟨i, x, hx, rfl⟩ := hfiles.mp hf
      rw [hindex i x hx, hvalue i x hx]
      exact ⟨rfl, rfl⟩)
  refine ⟨items, hitems, fun i y => ?_⟩
  rw [hmem]
  constructor
  · rintro ⟨f, hf, hidx, hy⟩
    obtain ⟨j, x, hx, rfl⟩ := hfiles.mp hf
    rw [hindex j x hx] at hidx
    rw [hvalue j x hx] at hy
    obtain rfl := Option.some.inj hidx
    exact ⟨x, hx, Option.some.inj hy⟩
  · rintro ⟨x, hx, rfl⟩
    exact ⟨_, hfiles.mpr ⟨i, x, hx, rfl⟩, hindex i x hx, hvalue i x hx⟩

variable (dec listing) in
/-- **Reading a capture succeeds, and finds what was recorded.** -/
theorem readInputs_capture (hinv : SessionInv float kernel s)
    (hcounter : l.enqueueCounter.toUInt32.toNat = l.enqueueCounter.toNat) :
    ∃ inp, readInputs dec listing (capture kernel s l) = some inp ∧
      ReadOf dec kernel s l listing inp := by
  have hnumber : readText (capture kernel s l) "enqueueNumber.txt" =
      some ((number 10 1 l.enqueueCounter.toNat).toList ++ ['\n']) :=
    readText_info hinv (mem_kernelInfoFiles kernel l).1
  have hlines := lines_number l.enqueueCounter.toNat
  obtain ⟨arguments, harguments, hargument⟩ := indexed_argFiles dec Content.bytes id
    (mem_glob_argument l listing hinv)
    (fun i x _ => indexOf_argFile "Argument" i ".bin" _ (by simp) (by simp)) (fun _ _ _ => rfl)
  have hoffsetFiles : ∀ {f}, f ∈ listing.glob (capture kernel s l) "./SVM_Arg_Offset" ".txt" ↔
      ∃ i memInfo, (s.kernelArgs.kernelArgMemMap kernel i = some memInfo ∧
        s.objects.imageInfoMap memInfo.value = none) ∧ f = memFile s i memInfo := by
    intro f
    simpa only [and_assoc] using mem_glob_offset l listing hinv
  obtain ⟨offsets, hoffsets, hoffset⟩ := indexed_argFiles dec
    (fun file => file.chars.bind dec.wholeNumber) SMemInfo.offset hoffsetFiles
    (fun i x hx => by
      simp only [memFile, hx.2]
      exact indexOf_argFile "SVM_Arg_Offset_" i ".txt" _ (by simp) (by simp))
    (fun i x hx => by
      simp only [memFile, hx.2, argFile, Content.chars, Option.bind_some]
      exact Decimals.wholeNumber_number Nat.one_pos x.offset (by simp))
  obtain ⟨locals, hlocals, hlocal⟩ := indexed_argFiles dec
    (fun file => file.chars.bind dec.wholeNumber) id
    (mem_glob_local l listing hinv)
    (fun i x _ => indexOf_argFile "Local" i ".txt" _ (by simp) (by simp))
    (fun i x _ => by
      simp only [localFile, argFile, Content.chars, Option.bind_some, id]
      rw [← List.append_nil (number 10 1 x).toList]
      exact Decimals.wholeNumber_number Nat.one_pos x nofun)
  obtain ⟨samplers, hsamplers, hsampler⟩ := indexed_argFiles dec
    (fun file => file.chars.map fun text => samplerFromString (text.takeWhile (· ≠ '\n')))
    (fun str : String => samplerFromString (str.toList.takeWhile (· ≠ '\n')))
    (mem_glob_sampler l listing hinv)
    (fun i x _ => indexOf_argFile "Sampler" i ".txt" _ (by simp) (by simp)) (fun _ _ _ => rfl)
  obtain ⟨buffers, hbuffers, hbuffer⟩ :=
    indexed_dumped dec listing hinv hcounter .buffers
  obtain ⟨images, himages, himage⟩ :=
    indexed_dumped dec listing hinv hcounter .images
  refine ⟨⟨arguments, offsets, buffers, images, locals, samplers⟩, ?_, ?_⟩
  · simp only [dumpedSuffix] at hbuffers himages
    simp only [readInputs, Option.bind_eq_bind, hnumber, Option.bind_some, hlines, List.head?_cons,
      leftpad_number (b := 10) (show 1 ≤ 4 by decide), harguments, hoffsets, hbuffers, himages,
      hlocals, hsamplers, Option.pure_def]
  · exact {
      arguments := fun i x => by simpa using hargument i x
      svmArgOffsets := fun i x => by simpa [and_assoc] using hoffset i x
      dumped := fun h => by
        cases h with
        | buffers => exact hbuffer
        | images => exact himage
      localSizes := fun i x => by simpa using hlocal i x
      samplers := hsampler
      files := fun h => by
        cases h with
        | buffers => exact hbuffers
        | images => exact himages }

end CLIntercept.Replay
