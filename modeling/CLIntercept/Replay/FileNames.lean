import CLIntercept.Replay.Reconstruct

/-!
# The names of captured files

The layer encodes an argument's index in the name of a file, and the script decodes it: it looks for
the files of the captured enqueue with a pattern, and takes the first number behind the first `_Arg_`
for the index. The counter is printed as an `unsigned int` in the name and in full in
`enqueueNumber.txt`, and the kernel's name is in front of the index.

`fileNames_iff` says for which counters, names and arguments the round trip succeeds. A captured
enqueue has a counter of 32 bits, `counter_lt_of_captured`, so it is the kernel's name that matters.
-/

set_option autoImplicit false

namespace CLIntercept.Replay

open CLIntercept.Lib CLIntercept.Track CLIntercept.Timing CLIntercept.Dump.Memory

/-! ## Encoding -/

/-- What `dumpBuffersForKernel` and `dumpImagesForKernel` name a file by. -/
def writtenKey (enqueueCounter : UInt64) (kernelName : String) (argIndex memAllocNumber : Nat)
    (shape : Option (Nat × Nat × Nat × Nat)) : FileKey where
  enqueue := enqueueCounter.toUInt32
  kernelName := kernelName
  argIndex := argIndex
  memAllocNumber := memAllocNumber
  shape := shape

def enqueueNumberText (enqueueCounter : UInt64) : List Char :=
  (number 10 1 enqueueCounter.toNat).toList ++ ['\n']

def halfOf : Option (Nat × Nat × Nat × Nat) → Half
  | none => .buffers
  | some _ => .images

/-- The files of a capture have these names. -/
theorem key_of_dumpedFile {kernel : Handle} {s : Session} {l : Launch} {h : Half} {i : Nat}
    {file : FileKey × Bytes} (hfile : dumpedFile kernel s l h i = some file) :
    ∃ memAllocNumber shape, halfOf shape = h ∧
      file.1 = writtenKey l.enqueueCounter (shortKernelName kernel l) i memAllocNumber shape := by
  obtain ⟨memInfo, t, -, htracked, -, -, hkey⟩ := dumpedFile_eq_some.mp hfile
  refine ⟨t.memAllocNumber, t.shape, ?_, hkey⟩
  cases h with
  | buffers =>
    obtain ⟨size, -, rfl⟩ := Option.map_eq_some_iff.mp htracked
    rfl
  | images =>
    obtain ⟨info, -, rfl⟩ := Option.map_eq_some_iff.mp htracked
    rfl

/-! ## Decoding -/

/-- The first line, padded to four digits. -/
def paddedEnqueueNum (text : List Char) : Option String :=
  (lines text).head?.map fun enqueueNumber => String.ofList (enqueueNumber.leftpad 4 '0')

/-- The path of a file in one of the directories of dumped files. -/
def pathIn (folder : String) (key : FileKey) : List Char := ("./" ++ (folder ++ key.name)).toList

/-- The number of the kernel's name that is found in place of an index. -/
def strayNumber (dec : Decimals) (kernelName : String) : Option Nat :=
  dec.firstNumber (fromFirst "_Arg_".toList
    ("_Kernel_".toList ++ (kernelName.toList ++ "_Arg_".toList)))

/-- **A file is selected for its enqueue, and gives the index of its argument**: where `replay` looks
for it and where `validate` does. -/
structure Decodes (dec : Decimals) (enqueueCounter : UInt64) (key : FileKey) : Prop where
  replayed : ∃ padded, paddedEnqueueNum (enqueueNumberText enqueueCounter) = some padded ∧
    globMatches ("./Pre/Enqueue_" ++ padded).toList (dumpedSuffix (halfOf key.shape)).toList
      (pathIn "Pre/" key) = true
  validated : ∃ padded, paddedEnqueueNum (enqueueNumberText enqueueCounter) = some padded ∧
    globMatches ("./Post/Enqueue_" ++ padded ++ "_Kernel_").toList
      (dumpedSuffix (halfOf key.shape)).toList (pathIn "Post/" key) = true
  replayIndex : indexFromArg dec (pathIn "Pre/" key) = some key.argIndex
  validateIndex : indexFromArg dec (pathIn "Post/" key) = some key.argIndex

theorem paddedEnqueueNum_eq (enqueueCounter : UInt64) :
    paddedEnqueueNum (enqueueNumberText enqueueCounter) =
      some (number 10 4 enqueueCounter.toNat) := by
  rw [paddedEnqueueNum, enqueueNumberText, lines_number]
  exact congrArg some (leftpad_number (by decide) _)

/-! ## The index in a path -/

/-- A path up to the index of the argument. -/
def argStem (folder : String) (enqueue : Nat) (kernelName : String) : List Char :=
  ("./" ++ (folder ++ "Enqueue_")).toList ++ ((number 10 4 enqueue).toList ++
    ("_Kernel_".toList ++ (kernelName.toList ++ "_Arg_".toList)))

theorem pathIn_eq (folder : String) (key : FileKey) : pathIn folder key =
    argStem folder key.enqueue.toNat key.kernelName ++
      ((number 10 1 key.argIndex).toList ++ '_' :: nameTail key) := by
  simp only [pathIn, argStem, String.toList_append, toList_name, List.append_assoc]

/-- The directories have no `_Arg_` of their own. -/
def Plain (folder : String) : Prop := ¬ "_Arg_".toList <:+: ("./" ++ (folder ++ "Enqueue_")).toList

theorem plain_folders : Plain "Pre/" ∧ Plain "Post/" ∧ Plain "Test/" := by
  have table : ¬ "_Arg_".toList <:+: "./Pre/Enqueue_".toList ∧
      ¬ "_Arg_".toList <:+: "./Post/Enqueue_".toList ∧
      ¬ "_Arg_".toList <:+: "./Test/Enqueue_".toList := by decide
  exact table

/-- **The index that is found in a path.** -/
theorem indexFromArg_argStem (dec : Decimals) {folder : String} (hfolder : Plain folder)
    (enqueue : Nat) (kernelName : String) (argIndex : Nat) (tail : List Char) :
    indexFromArg dec (argStem folder enqueue kernelName ++
        ((number 10 1 argIndex).toList ++ '_' :: tail)) =
      some ((strayNumber dec kernelName).getD argIndex) := by
  have hword : "_Arg_".toList <:+
      "_Kernel_".toList ++ (kernelName.toList ++ "_Arg_".toList) :=
    (List.suffix_append _ _).trans (List.suffix_append _ _)
  have hdigits : ∀ c ∈ (number 10 4 enqueue).toList, c ∉ "_Arg_".toList := by
    intro c hc
    obtain ⟨d, hd, rfl⟩ := Decimals.mem_number hc
    have table : ∀ d : Fin 10, digitChar d ∉ "_Arg_".toList := by decide
    exact table ⟨d, hd⟩
  have hfirst : fromFirst "_Arg_".toList (argStem folder enqueue kernelName) =
      fromFirst "_Arg_".toList ("_Kernel_".toList ++ (kernelName.toList ++ "_Arg_".toList)) :=
    fromFirst_append_append (by simp) (Decimals.number_ne_nil (by decide)) hdigits hfolder
      hword.isInfix
  have hstem : "_Arg_".toList <:+ argStem folder enqueue kernelName :=
    (hword.trans (List.suffix_append _ _)).trans (List.suffix_append _ _)
  rw [indexFromArg_stem hstem, hfirst]
  rfl

theorem indexFromArg_pathIn (dec : Decimals) {folder : String} (hfolder : Plain folder)
    (key : FileKey) : indexFromArg dec (pathIn folder key) =
      some ((strayNumber dec key.kernelName).getD key.argIndex) := by
  rw [pathIn_eq, indexFromArg_argStem dec hfolder]

/-! ## The pattern -/

theorem nameTail_halfOf (key : FileKey) : ∃ star : List Char,
    nameTail key = star ++ (dumpedSuffix (halfOf key.shape)).toList ∧ '/' ∉ star := by
  cases hshape : key.shape with
  | none => exact nameTail_buffer hshape
  | some shape => exact nameTail_image (by rw [hshape]; exact Option.some_ne_none shape)

/-- A path as the script's patterns take it apart. -/
theorem exists_star (folder : String) (key : FileKey) : ∃ star : List Char,
    pathIn folder key = ("./" ++ (folder ++ "Enqueue_")).toList ++
      ((number 10 4 key.enqueue.toNat).toList ++ ("_Kernel_".toList ++
        (star ++ (dumpedSuffix (halfOf key.shape)).toList))) ∧
      ('/' ∈ star ↔ '/' ∈ key.kernelName.toList) := by
  obtain ⟨star, hstar, hslash⟩ := nameTail_halfOf key
  refine ⟨key.kernelName.toList ++ ("_Arg_".toList ++ ((number 10 1 key.argIndex).toList ++
    '_' :: star)), ?_, ?_⟩
  · rw [pathIn_eq, argStem, hstar]
    simp only [List.append_assoc, List.cons_append]
  · simp [slash_notMem_number, hslash]

/-- Where two counters are printed alike, one is at most the other. -/
theorem le_of_number_prefix {m n : Nat} {rest : List Char}
    (h : (number 10 4 m).toList <+: (number 10 4 n).toList ++ '_' :: rest) : m ≤ n := by
  have hunderscore : '_' ∉ (number 10 4 m).toList :=
    underscore_notMem_number (by decide) (by decide) 4 m
  have hprefix : (number 10 4 m).toList <+: (number 10 4 n).toList := by
    refine (List.prefix_or_prefix_of_prefix h (List.prefix_append _ _)).elim id fun hlonger => ?_
    -- a longer one would have the underscore
    obtain ⟨digits, hdigits⟩ := hlonger
    cases digits with
    | nil => rw [← hdigits, List.append_nil]
    | cons c digits =>
      rw [← hdigits, List.prefix_append_right_inj, List.cons_prefix_cons] at h
      rw [← hdigits, h.1] at hunderscore
      exact absurd (List.mem_append_right _ List.mem_cons_self) hunderscore
  have hvalue := numberValue_le_of_prefix (b := 10) (by decide) hprefix
  rwa [numberValue_number (by decide) (by decide), numberValue_number (by decide) (by decide)]
    at hvalue

theorem toNat_toUInt32_iff (enqueueCounter : UInt64) :
    enqueueCounter.toUInt32.toNat = enqueueCounter.toNat ↔ enqueueCounter.toNat < UInt32.size := by
  rw [UInt64.toNat_toUInt32]
  exact ⟨fun h => h ▸ Nat.mod_lt _ (by decide), Nat.mod_eq_of_lt⟩

/-- **When `replay` selects a file.** -/
theorem replay_selects_iff (enqueueCounter : UInt64) (kernelName : String)
    (argIndex memAllocNumber : Nat) (shape : Option (Nat × Nat × Nat × Nat)) :
    globMatches ("./Pre/Enqueue_" ++ number 10 4 enqueueCounter.toNat).toList
        (dumpedSuffix (halfOf shape)).toList
        (pathIn "Pre/" (writtenKey enqueueCounter kernelName argIndex memAllocNumber shape)) = true ↔
      '/' ∉ kernelName.toList ∧ enqueueCounter.toNat < UInt32.size := by
  obtain ⟨star, hpath, hslash⟩ :=
    exists_star "Pre/" (writtenKey enqueueCounter kernelName argIndex memAllocNumber shape)
  have hname : '/' ∈ star ↔ '/' ∈ kernelName.toList := hslash
  have hmatches (heq : enqueueCounter.toUInt32.toNat = enqueueCounter.toNat) :
      globMatches ("./Pre/Enqueue_" ++ number 10 4 enqueueCounter.toNat).toList
        (dumpedSuffix (halfOf shape)).toList (pathIn "Pre/"
          (writtenKey enqueueCounter kernelName argIndex memAllocNumber shape)) =
        !("_Kernel_".toList ++ star).contains '/' := by
    rw [← globMatches_append ("./Pre/Enqueue_" ++ number 10 4 enqueueCounter.toNat).toList
      (dumpedSuffix (halfOf shape)).toList, hpath, writtenKey, heq, String.toList_append,
      List.append_assoc, List.append_assoc]
    rfl
  constructor
  · intro h
    have hprefix := isPrefix_of_globMatches h
    rw [hpath, String.toList_append] at hprefix
    have hle := le_of_number_prefix ((List.prefix_append_right_inj _).mp hprefix)
    have heq : enqueueCounter.toUInt32.toNat = enqueueCounter.toNat :=
      Nat.le_antisymm (UInt64.toNat_toUInt32 _ ▸ Nat.mod_le _ _) hle
    rw [hmatches heq] at h
    refine ⟨fun hmem => ?_, (toNat_toUInt32_iff _).mp heq⟩
    simp [hname.mpr hmem] at h
  · rintro ⟨hslash', hlt⟩
    rw [hmatches ((toNat_toUInt32_iff _).mpr hlt)]
    simpa [hname] using hslash'

/-- `validate` has the rest of the name in its pattern. -/
theorem validate_selects {enqueueCounter : UInt64} {kernelName : String}
    (hslash : '/' ∉ kernelName.toList) (hcounter : enqueueCounter.toNat < UInt32.size)
    (argIndex memAllocNumber : Nat) (shape : Option (Nat × Nat × Nat × Nat)) :
    globMatches ("./Post/Enqueue_" ++ number 10 4 enqueueCounter.toNat ++ "_Kernel_").toList
        (dumpedSuffix (halfOf shape)).toList
        (pathIn "Post/" (writtenKey enqueueCounter kernelName argIndex memAllocNumber shape)) =
      true := by
  obtain ⟨star, hpath, hname⟩ :=
    exists_star "Post/" (writtenKey enqueueCounter kernelName argIndex memAllocNumber shape)
  have hstar : '/' ∉ star := fun h => hslash (hname.mp h)
  have heq := (toNat_toUInt32_iff enqueueCounter).mpr hcounter
  have hparts : pathIn "Post/"
      (writtenKey enqueueCounter kernelName argIndex memAllocNumber shape) =
      ("./Post/Enqueue_" ++ number 10 4 enqueueCounter.toNat ++ "_Kernel_").toList ++
        (star ++ (dumpedSuffix (halfOf shape)).toList) := by
    have hfolder : ("./" ++ ("Post/" ++ "Enqueue_")).toList = "./Post/Enqueue_".toList := by decide
    rw [hpath, writtenKey, heq, hfolder, String.toList_append, String.toList_append,
      List.append_assoc, List.append_assoc]
  rw [hparts, globMatches_append]
  simpa using hstar

/-! ## The round trip -/

theorem getD_eq_self_iff {found : Option Nat} {argIndex : Nat} :
    found.getD argIndex = argIndex ↔ ∀ n, found = some n → n = argIndex := by
  cases found with
  | none => simp
  | some n => simp

theorem decodes_iff (dec : Decimals) (enqueueCounter : UInt64) (kernelName : String)
    (argIndex memAllocNumber : Nat) (shape : Option (Nat × Nat × Nat × Nat)) :
    Decodes dec enqueueCounter
        (writtenKey enqueueCounter kernelName argIndex memAllocNumber shape) ↔
      ('/' ∉ kernelName.toList ∧ enqueueCounter.toNat < UInt32.size) ∧
        ∀ n, strayNumber dec kernelName = some n → n = argIndex := by
  have hindex {folder : String} (hfolder : Plain folder) :
      indexFromArg dec (pathIn folder
          (writtenKey enqueueCounter kernelName argIndex memAllocNumber shape)) = some argIndex ↔
        ∀ n, strayNumber dec kernelName = some n → n = argIndex := by
    rw [indexFromArg_pathIn dec hfolder, Option.some_inj]
    exact getD_eq_self_iff
  constructor
  · rintro ⟨⟨padded, hpadded, hreplayed⟩, -, hreplay, -⟩
    rw [paddedEnqueueNum_eq] at hpadded
    obtain rfl := Option.some.inj hpadded
    exact ⟨(replay_selects_iff ..).mp hreplayed, (hindex plain_folders.1).mp hreplay⟩
  · rintro ⟨hselected, hstray⟩
    exact ⟨⟨_, paddedEnqueueNum_eq _, (replay_selects_iff ..).mpr hselected⟩,
      ⟨_, paddedEnqueueNum_eq _, validate_selects hselected.1 hselected.2 ..⟩,
      (hindex plain_folders.1).mpr hstray, (hindex plain_folders.2.1).mpr hstray⟩

/-- **No two arguments of a launch collapse**: what the script takes for their indices differs. -/
def Separates (dec : Decimals) (enqueueCounter : UInt64) (kernelName folder : String) : Prop :=
  ∀ i j memAllocNumber memAllocNumber' shape shape',
    indexFromArg dec (pathIn folder (writtenKey enqueueCounter kernelName i memAllocNumber shape)) =
      indexFromArg dec (pathIn folder
        (writtenKey enqueueCounter kernelName j memAllocNumber' shape')) → i = j

theorem separates_iff (dec : Decimals) (enqueueCounter : UInt64) (kernelName : String)
    {folder : String} (hfolder : Plain folder) :
    Separates dec enqueueCounter kernelName folder ↔ strayNumber dec kernelName = none := by
  unfold Separates
  simp only [indexFromArg_pathIn dec hfolder, Option.some_inj]
  cases hstray : strayNumber dec kernelName with
  | none => simp [writtenKey, hstray]
  | some n =>
    refine iff_of_false (fun h => ?_) (Option.some_ne_none n)
    have hcollapse := h 0 1 0 0 none none (by simp only [writtenKey, hstray, Option.getD_some])
    exact Nat.zero_ne_one hcollapse

/-- **When the names of captured files decode**: the counter fits an `unsigned int`, and the kernel's
name brings no number behind an `_Arg_`, or just the argument's own. -/
theorem fileNames_iff (dec : Decimals) (enqueueCounter : UInt64) (kernelName : String) :
    (∀ argIndex memAllocNumber shape,
      Decodes dec enqueueCounter
          (writtenKey enqueueCounter kernelName argIndex memAllocNumber shape) ↔
        ('/' ∉ kernelName.toList ∧ enqueueCounter.toNat < UInt32.size) ∧
          ∀ n, strayNumber dec kernelName = some n → n = argIndex) ∧
    (Separates dec enqueueCounter kernelName "Pre/" ∧
        Separates dec enqueueCounter kernelName "Post/" ↔
      strayNumber dec kernelName = none) :=
  ⟨decodes_iff dec enqueueCounter kernelName,
    by rw [separates_iff dec enqueueCounter kernelName plain_folders.1,
      separates_iff dec enqueueCounter kernelName plain_folders.2.1, and_self]⟩

/-- A captured enqueue has a counter that is printed in full. -/
theorem counter_lt_of_captured (config : Config) {enqueueCounter : UInt64}
    (h : checkCaptureReplayEnqueueLimits config enqueueCounter = true) :
    enqueueCounter.toNat < UInt32.size :=
  (toNat_toUInt32_iff enqueueCounter).mp (toNat_enqueueCounter config h)

/-- The first argument of a kernel `f_Arg_1` is taken for its second. -/
theorem index_of_kernel_name :
    checkCaptureReplayEnqueueLimits {} 7 = true ∧ '/' ∉ "f_Arg_1".toList ∧
      ¬ Decodes Decimals.plain 7 (writtenKey 7 "f_Arg_1" 0 0 none) ∧
      ¬ Separates Decimals.plain 7 "f_Arg_1" "Pre/" := by
  have hstray : strayNumber Decimals.plain "f_Arg_1" = some 1 := by decide
  refine ⟨by decide, by decide, fun h => ?_, fun h => ?_⟩
  · have hindex := ((decodes_iff _ _ _ _ _ _).mp h).2 1 hstray
    exact Nat.one_ne_zero hindex
  · rw [separates_iff _ _ _ plain_folders.1, hstray] at h
    cases h

end CLIntercept.Replay
