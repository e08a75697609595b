import CLIntercept.Replay.FileNames
import Mathlib.Data.List.Dedup

/-!
# What the validation compares

`validate` compares the files that a replay wrote under `Test` with those that the layer dumped under
`Post` behind the captured enqueue. It keeps a digest of each file under the index that it finds in
the file's name, and goes through the indices of the replayed ones.

The digest is of whole items of eight bytes, as `np.fromfile` reads nothing else, so what is behind
the last of them is not compared. And where the kernel's name has a number of its own all files have
one index, and the last one that is listed stands for them. `validates_iff` says when the report is
right all the same, in whichever order the files are listed.
-/

set_option autoImplicit false

namespace CLIntercept.Replay

open CLIntercept.Lib CLIntercept.Track CLIntercept.Dump.Memory

/-! ## The script -/

/-- What `np.fromfile` reads of a file, with its default type: items of eight bytes. -/
def wholeItems (bytes : Bytes) : Bytes := bytes.take (bytes.length / 8 * 8)

/-- What it leaves. -/
def partialItem (bytes : Bytes) : Bytes := bytes.drop (bytes.length / 8 * 8)

/-- What is printed: of each index whether the digests are equal, and the result. -/
structure Report where
  checks : List (Nat × Bool)
  allEqual : Bool
  deriving DecidableEq, Repr

/-- The loop over the replayed indices: one without a dump ends the script. -/
def checkHashes (replayedHashes dumpedHashes : List (Nat × String)) : Option (List (Nat × Bool)) :=
  (replayedHashes.map (·.1)).dedup.mergeSort.mapM fun pos =>
    (dict replayedHashes pos).bind fun replayed =>
      (dict dumpedHashes pos).map fun dumped => (pos, decide (replayed = dumped))

section

variable (dec : Decimals) (md5 : Bytes → String) (listing : Listing) (dir : Directory)

/-- A loop over the files of a pattern. -/
def hashesOf (files : Directory) : Option (List (Nat × String)) :=
  indexed (indexFromArg dec)
    (fun content => content.bytes.map fun bytes => md5 (wholeItems bytes)) files

/-- The files of one kind in a directory of dumped files. -/
def kernelFiles (folder padded : String) (h : Half) : Directory :=
  listing.glob dir ("./" ++ (folder ++ "Enqueue_") ++ padded ++ "_Kernel_") (dumpedSuffix h)

/-- The buffers, and then the images. -/
def folderHashes (folder padded : String) : Option (List (Nat × String)) := do
  let buffers ← hashesOf dec md5 (kernelFiles listing dir folder padded .buffers)
  let images ← hashesOf dec md5 (kernelFiles listing dir folder padded .images)
  return buffers ++ images

/-- **`validate`**. -/
def validate : Option Report := do
  let text ← readText dir "enqueueNumber.txt"
  let padded ← paddedEnqueueNum text
  let replayedHashes ← folderHashes dec md5 listing dir "Test/" padded
  let dumpedHashes ← folderHashes dec md5 listing dir "Post/" padded
  let checks ← checkHashes replayedHashes dumpedHashes
  return { checks := checks, allEqual := checks.all (·.2) }

/-- The report says that all arguments are equal. -/
def ReportsEqual : Prop :=
  ∃ report, validate dec md5 listing dir = some report ∧ report.allEqual = true

end

/-! ## The files -/

/-- A file of an argument, and what its name has behind `Buffer` or `Image`. -/
structure ArgOutput where
  half : Half
  argIndex : Nat
  label : String
  bytes : Bytes
  noSlash : '/' ∉ label.toList

def Half.noun : Half → String
  | .buffers => "Buffer"
  | .images => "Image"

def ArgOutput.name (f : ArgOutput) (folder : String) (enqueue : UInt32) (kernelName : String) :
    String :=
  folder ++ "Enqueue_" ++ number 10 4 enqueue.toNat ++ "_Kernel_" ++ kernelName ++ "_Arg_" ++
    number 10 1 f.argIndex ++ "_" ++ Half.noun f.half ++ f.label ++ dumpedSuffix f.half

/-- What `replay` writes of an argument: `_Buffer.bin` and `_Image.raw`. -/
def replayedOutput (half : Half) (argIndex : Nat) (bytes : Bytes) : ArgOutput where
  half := half
  argIndex := argIndex
  label := ""
  bytes := bytes
  noSlash := List.not_mem_nil

/-- The files of an enqueue in one directory: one of an argument. -/
structure Outputs where
  files : List ArgOutput
  nodup : (files.map (·.argIndex)).Nodup

/-- The two directories that are compared. -/
inductive Folder where
  | test
  | post
  deriving DecidableEq, Repr

def Folder.text : Folder → String
  | test => "Test/"
  | post => "Post/"

def Outputs.inFolder (outputs : Outputs) (folder : Folder) (enqueue : UInt32)
    (kernelName : String) : Directory :=
  outputs.files.map fun f => (f.name folder.text enqueue kernelName, .binary f.bytes)

/-- What the script is run in. -/
def validationDir (enqueue : UInt32) (kernelName : String) (outputs : Folder → Outputs) : Directory :=
  [("enqueueNumber.txt", .text (enqueueNumberText enqueue.toUInt64))] ++
    (outputs .test).inFolder .test enqueue kernelName ++
    (outputs .post).inFolder .post enqueue kernelName

/-- **Every replayed file is dumped with the same bytes.** -/
def Identical (outputs : Folder → Outputs) : Prop :=
  ∀ f ∈ (outputs .test).files, ∃ g ∈ (outputs .post).files,
    g.argIndex = f.argIndex ∧ g.bytes = f.bytes

/-! ## The names -/

/-- What is behind `Buffer_<number>` or `Image_<number>` in the name of a dumped file. -/
def dumpedLabel (memAllocNumber : Nat) : Option (Nat × Nat × Nat × Nat) → String
  | none => "_" ++ number 10 4 memAllocNumber
  | some (width, height, depth, bits) =>
    "_" ++ number 10 4 memAllocNumber ++ "_" ++
      "x".intercalate ([width, height, depth].map (number 10 1)) ++ "_" ++ number 10 1 bits ++ "bpp"

/-- What the star stands for in a name of either kind. -/
theorem nameTail_eq (key : FileKey) : nameTail key =
    (Half.noun (halfOf key.shape) ++ dumpedLabel key.memAllocNumber key.shape ++
      dumpedSuffix (halfOf key.shape)).toList := by
  unfold nameTail
  cases key.shape with
  | none => simp [halfOf, Half.noun, dumpedLabel, dumpedSuffix, shapeFields]
  | some shape => simp [halfOf, Half.noun, dumpedLabel, dumpedSuffix, shapeFields]

/-- The files that the layer dumps have such names. -/
theorem name_of_key (key : FileKey) (bytes : Bytes) : ∃ f : ArgOutput,
    f.half = halfOf key.shape ∧ f.argIndex = key.argIndex ∧ f.bytes = bytes ∧
      f.label = dumpedLabel key.memAllocNumber key.shape ∧
      f.name "Post/" key.enqueue key.kernelName = "Post/" ++ key.name := by
  have hlabel : '/' ∉ (dumpedLabel key.memAllocNumber key.shape).toList := by
    cases key.shape with
    | none => simp [dumpedLabel, slash_notMem_number]
    | some shape => simp [dumpedLabel, slash_notMem_number]
  refine ⟨⟨halfOf key.shape, key.argIndex, _, bytes, hlabel⟩, rfl, rfl, rfl, rfl, ?_⟩
  rw [← String.toList_inj, String.toList_append, toList_name, nameTail_eq]
  simp [ArgOutput.name]

variable {dec : Decimals} {md5 : Bytes → String} {listing : Listing} {enqueue : UInt32}
  {kernelName : String} {outputs : Folder → Outputs}

/-- The path of a file in a folder. -/
theorem path_name (f : ArgOutput) (folder : String) (content : Content) :
    path (f.name folder enqueue kernelName, content) =
      argStem folder enqueue.toNat kernelName ++ ((number 10 1 f.argIndex).toList ++
        '_' :: ((Half.noun f.half ++ f.label).toList ++ (dumpedSuffix f.half).toList)) := by
  simp [path, ArgOutput.name, argStem]

/-- The names of the folders match no others. -/
theorem plain_text (folder : Folder) : Plain folder.text := by
  cases folder with
  | test => exact plain_folders.2.2
  | post => exact plain_folders.2.1

/-- The script finds the index of the argument, or the stray number of the kernel's name. -/
theorem indexFromArg_name (f : ArgOutput) (folder : Folder) (content : Content) :
    indexFromArg dec (path (f.name folder.text enqueue kernelName, content)) =
      some ((strayNumber dec kernelName).getD f.argIndex) := by
  rw [path_name, indexFromArg_argStem dec (plain_text folder)]

/-- The pattern of a folder and a kind. -/
def kernelPattern (folder : String) (enqueue : UInt32) : String :=
  "./" ++ (folder ++ "Enqueue_") ++ number 10 4 enqueue.toNat ++ "_Kernel_"

variable (enqueue) in
/-- A pattern finds the files of its folder and its kind. -/
theorem globMatches_name_iff (hname : '/' ∉ kernelName.toList) (f : ArgOutput)
    (folder folder' : Folder) (h : Half) (content : Content) :
    globMatches (kernelPattern folder.text enqueue).toList (dumpedSuffix h).toList
        (path (f.name folder'.text enqueue kernelName, content)) = true ↔
      folder' = folder ∧ f.half = h := by
  have hpath (folder : Folder) : path (f.name folder.text enqueue kernelName, content) =
      (kernelPattern folder.text enqueue).toList ++ ((kernelName.toList ++ ("_Arg_".toList ++
        ((number 10 1 f.argIndex).toList ++ '_' :: (Half.noun f.half ++ f.label).toList))) ++
        (dumpedSuffix f.half).toList) := by
    rw [path_name]
    simp [argStem, kernelPattern]
  constructor
  · intro hm
    obtain rfl : folder' = folder := by
      have hbegin : Begin ("./" ++ folder'.text).toList
          (kernelPattern folder.text enqueue).toList := by
        have hstart : path (f.name folder'.text enqueue kernelName, content) =
            ("./" ++ folder'.text).toList ++ ("Enqueue_" ++ number 10 4 enqueue.toNat ++
              "_Kernel_" ++ kernelName ++ "_Arg_" ++ number 10 1 f.argIndex ++ "_" ++
              Half.noun f.half ++ f.label ++ dumpedSuffix f.half).toList := by
          simp [path, ArgOutput.name]
        rw [hstart] at hm
        exact begin_of_globMatches hm
      cases folder <;> cases folder' <;>
        first | rfl | simp [Begin, kernelPattern, Folder.text] at hbegin
    have hends := List.suffix_or_suffix_of_suffix (isSuffix_of_globMatches hm)
      (hpath folder' ▸ (List.suffix_append _ _).trans (List.suffix_append _ _))
    exact ⟨rfl, (hends.elim dumpedSuffix_inj fun hend => (dumpedSuffix_inj hend).symm).symm⟩
  · rintro ⟨rfl, rfl⟩
    have hnoun : '/' ∉ (Half.noun f.half).toList := by
      have table : ∀ h : Half, '/' ∉ (Half.noun h).toList := by
        intro h
        cases h <;> decide
      exact table f.half
    rw [hpath, globMatches_append]
    simp [hname, slash_notMem_number, f.noSlash, hnoun]

/-! ## The listed files -/

variable (listing enqueue kernelName outputs) in
/-- The files of a directory in the order in which they are read. -/
def listed (folder : Folder) : Directory :=
  kernelFiles listing (validationDir enqueue kernelName outputs) folder.text
      (number 10 4 enqueue.toNat) .buffers ++
    kernelFiles listing (validationDir enqueue kernelName outputs) folder.text
      (number 10 4 enqueue.toNat) .images

/-- The files of a folder and a kind are those of its outputs. -/
theorem mem_kernelFiles (hname : '/' ∉ kernelName.toList) (folder : Folder) (h : Half)
    (file : String × Content) :
    file ∈ kernelFiles listing (validationDir enqueue kernelName outputs) folder.text
        (number 10 4 enqueue.toNat) h ↔
      ∃ f ∈ (outputs folder).files, f.half = h ∧
        file = (f.name folder.text enqueue kernelName, .binary f.bytes) := by
  have hpattern (file : String × Content) :
      file ∈ kernelFiles listing (validationDir enqueue kernelName outputs) folder.text
          (number 10 4 enqueue.toNat) h ↔
        file ∈ validationDir enqueue kernelName outputs ∧
          globMatches (kernelPattern folder.text enqueue).toList (dumpedSuffix h).toList
            (path file) = true := mem_glob
  have hmatches := globMatches_name_iff enqueue hname
  rw [hpattern, validationDir, List.mem_append, List.mem_append, List.mem_singleton,
    Outputs.inFolder, Outputs.inFolder, List.mem_map, List.mem_map]
  constructor
  · rintro ⟨(rfl | ⟨f, hf, rfl⟩) | ⟨f, hf, rfl⟩, hm⟩
    · have hbegin := begin_of_globMatches_whole hm
      cases folder <;> simp [Begin, path, kernelPattern, Folder.text] at hbegin
    · obtain ⟨rfl, hhalf⟩ := (hmatches f folder .test h _).mp hm
      exact ⟨f, hf, hhalf, rfl⟩
    · obtain ⟨rfl, hhalf⟩ := (hmatches f folder .post h _).mp hm
      exact ⟨f, hf, hhalf, rfl⟩
  · rintro ⟨f, hf, hhalf, rfl⟩
    refine ⟨?_, (hmatches f folder folder h _).mpr ⟨rfl, hhalf⟩⟩
    cases folder with
    | test => exact .inl (.inr ⟨f, hf, rfl⟩)
    | post => exact .inr ⟨f, hf, rfl⟩

variable (listing enqueue outputs) in
/-- All files of a folder, both kinds one behind the other. -/
theorem mem_listed (hname : '/' ∉ kernelName.toList) (folder : Folder) (file : String × Content) :
    file ∈ listed listing enqueue kernelName outputs folder ↔
      ∃ f ∈ (outputs folder).files,
        file = (f.name folder.text enqueue kernelName, .binary f.bytes) := by
  rw [listed, List.mem_append, mem_kernelFiles hname, mem_kernelFiles hname]
  constructor
  · rintro (⟨f, hf, -, rfl⟩ | ⟨f, hf, -, rfl⟩) <;> exact ⟨f, hf, rfl⟩
  · rintro ⟨f, hf, rfl⟩
    cases hhalf : f.half with
    | buffers => exact .inl ⟨f, hf, hhalf, rfl⟩
    | images => exact .inr ⟨f, hf, hhalf, rfl⟩

/-- The hashes are those of the files that are listed. -/
theorem folderHashes_eq (folder : Folder) :
    folderHashes dec md5 listing (validationDir enqueue kernelName outputs) folder.text
        (number 10 4 enqueue.toNat) =
      hashesOf dec md5 (listed listing enqueue kernelName outputs folder) := by
  unfold folderHashes listed hashesOf indexed
  rw [List.mapM_append]

variable (md5) in
/-- What is compared of a file. -/
def ArgOutput.digest (f : ArgOutput) : String := md5 (wholeItems f.bytes)

variable (dec md5 listing enqueue outputs) in
/-- **What is kept of the files of a directory.** -/
theorem exists_hashes (hname : '/' ∉ kernelName.toList) (folder : Folder) : ∃ hashes,
    folderHashes dec md5 listing (validationDir enqueue kernelName outputs) folder.text
        (number 10 4 enqueue.toNat) = some hashes ∧
      (∀ idx hash, (idx, hash) ∈ hashes ↔ ∃ f ∈ (outputs folder).files,
        (strayNumber dec kernelName).getD f.argIndex = idx ∧ f.digest md5 = hash) ∧
      hashes.getLast?.map (·.2) =
        (listed listing enqueue kernelName outputs folder).getLast?.bind fun file =>
          file.2.bytes.map fun bytes => md5 (wholeItems bytes) := by
  have hindex : ∀ file ∈ listed listing enqueue kernelName outputs folder,
      (indexFromArg dec (path file)).isSome ∧
        (file.2.bytes.map fun bytes => md5 (wholeItems bytes)).isSome := by
    intro file hfile
    obtain ⟨f, -, rfl⟩ := (mem_listed listing enqueue outputs hname folder file).mp hfile
    rw [indexFromArg_name]
    exact ⟨rfl, rfl⟩
  obtain ⟨hashes, hhashes, hmem⟩ := indexed_eq_some (indexFromArg dec)
    (fun content => content.bytes.map fun bytes => md5 (wholeItems bytes)) _ hindex
  refine ⟨hashes, (folderHashes_eq folder).trans hhashes, fun idx hash => ?_, ?_⟩
  · rw [hmem]
    constructor
    · rintro ⟨file, hfile, hidx, hhash⟩
      obtain ⟨f, hf, rfl⟩ := (mem_listed listing enqueue outputs hname folder file).mp hfile
      rw [indexFromArg_name] at hidx
      exact ⟨f, hf, Option.some.inj hidx, Option.some.inj hhash⟩
    · rintro ⟨f, hf, rfl, rfl⟩
      exact ⟨_, (mem_listed listing enqueue outputs hname folder _).mpr ⟨f, hf, rfl⟩,
        indexFromArg_name f folder _, rfl⟩
  · rw [getLast?_mapM hhashes]
    cases hlast : (listed listing enqueue kernelName outputs folder).getLast? with
    | none => rfl
    | some file =>
      obtain ⟨hsome, -⟩ := hindex file (List.mem_of_getLast? hlast)
      obtain ⟨idx, hidx⟩ := Option.isSome_iff_exists.mp hsome
      rw [Option.bind_some, Option.bind_some, hidx, Option.bind_some, Option.map_map]
      exact Option.map_id'

/-! ## The report -/

/-- The loop over the indices ends if each has a dump, and finds them all equal if each has the same
digest. -/
theorem checks_iff (replayed dumped : List (Nat × String)) :
    (∃ checks, checkHashes replayed dumped = some checks ∧ checks.all (·.2) = true) ↔
      ∀ pos ∈ replayed.map (·.1), ∃ hash, dict replayed pos = some hash ∧
        dict dumped pos = some hash := by
  have hpos (pos : Nat) :
      pos ∈ (replayed.map (·.1)).dedup.mergeSort ↔ pos ∈ replayed.map (·.1) := by
    rw [List.mem_mergeSort, List.mem_dedup]
  constructor
  · rintro ⟨checks, hchecks, hall⟩ pos hmem
    obtain ⟨check, hcheck⟩ := Option.isSome_iff_exists.mp
      (isSome_of_mapM hchecks ((hpos pos).mpr hmem))
    have hequal := List.all_eq_true.mp hall check
      ((mem_mapM hchecks check).mpr ⟨pos, (hpos pos).mpr hmem, hcheck⟩)
    obtain ⟨hash, hhash, hcheck⟩ := Option.bind_eq_some_iff.mp hcheck
    obtain ⟨hash', hhash', rfl⟩ := Option.map_eq_some_iff.mp hcheck
    obtain rfl := of_decide_eq_true hequal
    exact ⟨hash, hhash, hhash'⟩
  · intro h
    have hcheck : ∀ pos ∈ (replayed.map (·.1)).dedup.mergeSort,
        ((dict replayed pos).bind fun hash =>
          (dict dumped pos).map fun hash' => (pos, decide (hash = hash'))) = some (pos, true) := by
      intro pos hmem
      obtain ⟨hash, hhash, hhash'⟩ := h pos ((hpos pos).mp hmem)
      rw [hhash, hhash', Option.bind_some, Option.map_some, decide_eq_true rfl]
    have hchecks := mapM_map_eq_some (g := fun pos => pos) hcheck
    rw [List.map_id'] at hchecks
    exact ⟨_, hchecks, by simp⟩

/-- The number of the enqueue is read first. -/
theorem readText_validationDir : readText (validationDir enqueue kernelName outputs)
    "enqueueNumber.txt" = some (enqueueNumberText enqueue.toUInt64) := by
  simp [readText, validationDir]

/-- **When all arguments are reported to be equal.** -/
theorem reportsEqual_iff {replayed dumped : List (Nat × String)}
    (hreplayed : folderHashes dec md5 listing (validationDir enqueue kernelName outputs)
      Folder.test.text (number 10 4 enqueue.toNat) = some replayed)
    (hdumped : folderHashes dec md5 listing (validationDir enqueue kernelName outputs)
      Folder.post.text (number 10 4 enqueue.toNat) = some dumped) :
    ReportsEqual dec md5 listing (validationDir enqueue kernelName outputs) ↔
      ∀ pos ∈ replayed.map (·.1), ∃ hash, dict replayed pos = some hash ∧
        dict dumped pos = some hash := by
  rw [← checks_iff]
  unfold ReportsEqual validate
  rw [readText_validationDir, Option.bind_eq_bind, Option.bind_some, paddedEnqueueNum_eq,
    UInt32.toNat_toUInt64]
  simp only [Option.bind_eq_bind, Option.bind_some]
  rw [show "Test/" = Folder.test.text from rfl, show "Post/" = Folder.post.text from rfl, hreplayed,
    hdumped, Option.bind_some, Option.bind_some]
  constructor
  · rintro ⟨report, hreport, hall⟩
    obtain ⟨checks, hchecks, hreport⟩ := Option.bind_eq_some_iff.mp hreport
    obtain rfl := Option.some.inj hreport
    exact ⟨checks, hchecks, hall⟩
  · rintro ⟨checks, hchecks, hall⟩
    exact ⟨⟨checks, checks.all (·.2)⟩, Option.bind_eq_some_iff.mpr ⟨checks, hchecks, rfl⟩, hall⟩

/-- An argument has one file in a directory. -/
theorem Outputs.eq_of_argIndex (o : Outputs) {f g : ArgOutput} (hf : f ∈ o.files)
    (hg : g ∈ o.files) (h : f.argIndex = g.argIndex) : f = g :=
  List.inj_on_of_nodup_map o.nodup hf hg h

/-- Where every file is found under its own index, the digests of each argument are compared. -/
theorem reportsEqual_of_none (hname : '/' ∉ kernelName.toList)
    (hstray : strayNumber dec kernelName = none) :
    ReportsEqual dec md5 listing (validationDir enqueue kernelName outputs) ↔
      ∀ f ∈ (outputs .test).files, ∃ g ∈ (outputs .post).files,
        g.argIndex = f.argIndex ∧ g.digest md5 = f.digest md5 := by
  have hitems (folder : Folder) : ∃ hashes,
      folderHashes dec md5 listing (validationDir enqueue kernelName outputs) folder.text
        (number 10 4 enqueue.toNat) = some hashes ∧
      (∀ idx hash, dict hashes idx = some hash ↔ ∃ f ∈ (outputs folder).files,
        f.argIndex = idx ∧ f.digest md5 = hash) := by
    obtain ⟨hashes, hhashes, hmem, -⟩ :=
      exists_hashes dec md5 listing enqueue outputs hname folder
    simp only [hstray, Option.getD_none] at hmem
    refine ⟨hashes, hhashes, fun idx hash => ?_⟩
    rw [dict_eq_some_iff, hmem]
    intro x y hx hy
    obtain ⟨f, hf, hidx, rfl⟩ := (hmem idx x).mp hx
    obtain ⟨g, hg, hidx', rfl⟩ := (hmem idx y).mp hy
    rw [(outputs folder).eq_of_argIndex hf hg (hidx.trans hidx'.symm)]
  obtain ⟨replayed, hreplayed, hdict⟩ := hitems .test
  obtain ⟨dumped, hdumped, hdict'⟩ := hitems .post
  rw [reportsEqual_iff hreplayed hdumped]
  constructor
  · intro h f hf
    have hfound := (hdict f.argIndex (f.digest md5)).mpr ⟨f, hf, rfl, rfl⟩
    obtain ⟨hash, hhash, hhash'⟩ :=
      h f.argIndex (List.mem_map_of_mem (f := Prod.fst) (mem_of_dict hfound))
    obtain rfl := Option.some.inj (hfound.symm.trans hhash)
    exact (hdict' _ _).mp hhash'
  · intro h pos hpos
    obtain ⟨item, hitem, rfl⟩ := List.mem_map.mp hpos
    obtain ⟨hash, hhash⟩ := Option.isSome_iff_exists.mp (dict_isSome_of_mem hitem)
    obtain ⟨f, hf, hidx, rfl⟩ := (hdict _ _).mp hhash
    obtain ⟨g, hg, hidx', hdigest⟩ := h f hf
    exact ⟨_, hhash, (hdict' _ _).mpr ⟨g, hg, hidx'.trans hidx, hdigest⟩⟩

variable (md5 listing enqueue kernelName outputs) in
/-- The digest of the file of a directory that is listed last. -/
def lastDigest (folder : Folder) : Option String :=
  (listed listing enqueue kernelName outputs folder).getLast?.bind fun file =>
    file.2.bytes.map fun bytes => md5 (wholeItems bytes)

/-- Where the kernel's name has a number, the last file of each directory stands for all. -/
theorem reportsEqual_of_some (hname : '/' ∉ kernelName.toList) {n : Nat}
    (hstray : strayNumber dec kernelName = some n) :
    ReportsEqual dec md5 listing (validationDir enqueue kernelName outputs) ↔
      ∀ hash, lastDigest md5 listing enqueue kernelName outputs .test = some hash →
        lastDigest md5 listing enqueue kernelName outputs .post = some hash := by
  have hitems (folder : Folder) : ∃ hashes,
      folderHashes dec md5 listing (validationDir enqueue kernelName outputs) folder.text
        (number 10 4 enqueue.toNat) = some hashes ∧ (∀ item ∈ hashes, item.1 = n) ∧
      dict hashes n = lastDigest md5 listing enqueue kernelName outputs folder := by
    obtain ⟨hashes, hhashes, hmem, hlast⟩ :=
      exists_hashes dec md5 listing enqueue outputs hname folder
    have hkeys : ∀ item ∈ hashes, item.1 = n := by
      intro item hitem
      obtain ⟨f, -, hidx, -⟩ := (hmem item.1 item.2).mp hitem
      rw [← hidx, hstray, Option.getD_some]
    exact ⟨hashes, hhashes, hkeys, (dict_of_forall_key hkeys).trans hlast⟩
  obtain ⟨replayed, hreplayed, hkeys, hdict⟩ := hitems .test
  obtain ⟨dumped, hdumped, -, hdict'⟩ := hitems .post
  rw [reportsEqual_iff hreplayed hdumped, ← hdict, ← hdict']
  constructor
  · intro h hash hhash
    obtain ⟨hash', hfound, hfound'⟩ := h n (List.mem_map_of_mem (f := Prod.fst) (mem_of_dict hhash))
    rw [hfound']
    exact hfound.symm.trans hhash
  · intro h pos hpos
    obtain ⟨item, hitem, rfl⟩ := List.mem_map.mp hpos
    rw [hkeys item hitem]
    obtain ⟨hash, hhash⟩ := Option.isSome_iff_exists.mp
      (dict_isSome_of_mem (hkeys item hitem ▸ hitem : (n, item.2) ∈ replayed))
    exact ⟨hash, hhash, h hash hhash⟩

variable (md5 listing enqueue outputs) in
/-- No digest is left only if there is no file. -/
theorem lastDigest_eq_none_iff (hname : '/' ∉ kernelName.toList) (folder : Folder) :
    lastDigest md5 listing enqueue kernelName outputs folder = none ↔
      (outputs folder).files = [] := by
  unfold lastDigest
  cases hlast : (listed listing enqueue kernelName outputs folder).getLast? with
  | none =>
    rw [List.getLast?_eq_none_iff] at hlast
    refine iff_of_true rfl (List.eq_nil_iff_forall_not_mem.mpr fun f hf => ?_)
    have hmem := (mem_listed listing enqueue outputs hname folder _).mpr ⟨f, hf, rfl⟩
    rw [hlast] at hmem
    cases hmem
  | some file =>
    obtain ⟨f, hf, rfl⟩ :=
      (mem_listed listing enqueue outputs hname folder file).mp (List.mem_of_getLast? hlast)
    exact iff_of_false (Option.some_ne_none _) (List.ne_nil_of_mem hf)

/-! ## The file that is listed last -/

/-- The files one of which is listed last: the images, or the buffers if there are none. -/
def Outputs.lastKind (o : Outputs) : List ArgOutput :=
  if o.files.any (·.half = .images) then o.files.filter (·.half = .images) else o.files

/-- The kind that is listed last: the images, if there are any. -/
theorem Outputs.mem_lastKind {o : Outputs} {f : ArgOutput} :
    f ∈ o.lastKind ↔ f ∈ o.files ∧ (f.half = .images ∨ ∀ g ∈ o.files, g.half = .buffers) := by
  unfold Outputs.lastKind
  by_cases hany : o.files.any (·.half = .images) = true
  · rw [if_pos hany, List.mem_filter, decide_eq_true_eq]
    obtain ⟨g, hg, himage⟩ := List.any_eq_true.mp hany
    refine ⟨fun h => ⟨h.1, .inl h.2⟩, fun h => ⟨h.1, h.2.resolve_right fun hall => ?_⟩⟩
    exact absurd ((hall g hg).symm.trans (of_decide_eq_true himage)) (by decide)
  · rw [if_neg hany]
    refine ⟨fun h => ⟨h, .inr fun g hg => ?_⟩, And.left⟩
    cases hhalf : g.half with
    | buffers => rfl
    | images => exact absurd (List.any_eq_true.mpr ⟨g, hg, decide_eq_true hhalf⟩) hany

/-- The file as it lies in a folder. -/
def ArgOutput.file (f : ArgOutput) (folder : Folder) (enqueue : UInt32) (kernelName : String) :
    String × Content :=
  (f.name folder.text enqueue kernelName, .binary f.bytes)

/-- The last file of a directory is of that kind. -/
theorem getLast?_listed (hname : '/' ∉ kernelName.toList) {folder : Folder}
    {file : String × Content}
    (h : (listed listing enqueue kernelName outputs folder).getLast? = some file) :
    ∃ f ∈ (outputs folder).lastKind, file = f.file folder enqueue kernelName := by
  rw [listed, List.getLast?_append] at h
  rcases Option.or_eq_some_iff.mp h with h | ⟨hnone, h⟩
  · obtain ⟨f, hf, himage, rfl⟩ := (mem_kernelFiles hname folder .images file).mp
      (List.mem_of_getLast? h)
    exact ⟨f, Outputs.mem_lastKind.mpr ⟨hf, .inl himage⟩, rfl⟩
  · obtain ⟨f, hf, -, rfl⟩ := (mem_kernelFiles hname folder .buffers file).mp
      (List.mem_of_getLast? h)
    refine ⟨f, Outputs.mem_lastKind.mpr ⟨hf, .inr fun g hg => ?_⟩, rfl⟩
    cases hhalf : g.half with
    | buffers => rfl
    | images =>
      have hmem : g.file folder enqueue kernelName ∈ kernelFiles listing
          (validationDir enqueue kernelName outputs) folder.text (number 10 4 enqueue.toNat)
          .images := (mem_kernelFiles hname folder .images _).mpr ⟨g, hg, hhalf, rfl⟩
      rw [List.getLast?_eq_none_iff.mp hnone] at hmem
      cases hmem

/-- A directory that lists some files behind the others. -/
def Listing.lastly (p : String × Content → Bool) : Listing where
  order files := files.filter (fun file => !p file) ++ files.filter p
  perm files := List.perm_append_comm.trans (List.filter_append_perm p files)

/-- A listing may have any of its files at its end. -/
theorem getLast?_lastly {p : String × Content → Bool} {files : Directory}
    {file : String × Content} (hmem : file ∈ files)
    (hp : ∀ other ∈ files, p other = true ↔ other = file) :
    ((Listing.lastly p).order files).getLast? = some file := by
  have hlast : file ∈ files.filter p := List.mem_filter.mpr ⟨hmem, (hp file hmem).mpr rfl⟩
  obtain ⟨last, h⟩ := Option.isSome_iff_exists.mp
    (List.getLast?_isSome.mpr (List.ne_nil_of_mem hlast))
  obtain ⟨hmem', hlast'⟩ := List.mem_filter.mp (List.mem_of_getLast? h)
  obtain rfl := (hp last hmem').mp hlast'
  exact List.getLast?_append.trans (by rw [h, Option.some_or])

/-- Of a folder, one of that kind is listed last if it is listed behind the others. -/
theorem getLast?_listed_lastly (hname : '/' ∉ kernelName.toList) {folder : Folder} {f : ArgOutput}
    (hf : f ∈ (outputs folder).lastKind) {p : String × Content → Bool}
    (hp : ∀ g : ArgOutput, p (g.file folder enqueue kernelName) = true ↔
      g.file folder enqueue kernelName = f.file folder enqueue kernelName) :
    (listed (.lastly p) enqueue kernelName outputs folder).getLast? =
      some (f.file folder enqueue kernelName) := by
  obtain ⟨hfile, hkind⟩ := Outputs.mem_lastKind.mp hf
  have hlast : (kernelFiles (.lastly p) (validationDir enqueue kernelName outputs) folder.text
      (number 10 4 enqueue.toNat) f.half).getLast? = some (f.file folder enqueue kernelName) := by
    refine getLast?_lastly ?_ fun other hother => ?_
    · exact ((Listing.lastly p).perm _).mem_iff.mp
        ((mem_kernelFiles hname folder f.half _).mpr ⟨f, hfile, rfl, rfl⟩)
    · obtain ⟨g, -, -, rfl⟩ := (mem_kernelFiles hname folder f.half other).mp
        (((Listing.lastly p).perm _).mem_iff.mpr hother)
      exact hp g
  rw [listed, List.getLast?_append]
  cases hhalf : f.half with
  | images => rw [← hhalf, hlast, Option.some_or]
  | buffers =>
    have hall := hkind.resolve_left fun himage => absurd (hhalf.symm.trans himage) (by decide)
    have hnone : kernelFiles (.lastly p) (validationDir enqueue kernelName outputs) folder.text
        (number 10 4 enqueue.toNat) .images = [] := by
      refine List.eq_nil_iff_forall_not_mem.mpr fun other hother => ?_
      obtain ⟨g, hg, himage, -⟩ := (mem_kernelFiles hname folder .images other).mp hother
      exact absurd ((hall g hg).symm.trans himage) (by decide)
    rw [hnone, List.getLast?_nil, Option.none_or, ← hhalf, hlast]

/-- A file of one folder is no file of the other. -/
theorem file_ne {folder folder' : Folder} (hne : folder ≠ folder') (hname : '/' ∉ kernelName.toList)
    (f g : ArgOutput) : f.file folder enqueue kernelName ≠ g.file folder' enqueue kernelName := by
  intro heq
  have hown := (globMatches_name_iff enqueue hname f folder folder f.half (.binary f.bytes)).mpr
    ⟨rfl, rfl⟩
  have hpath : path (f.name folder.text enqueue kernelName, .binary f.bytes) =
      path (g.name folder'.text enqueue kernelName, .binary g.bytes) := congrArg path heq
  rw [hpath] at hown
  exact hne ((globMatches_name_iff enqueue hname g folder folder' f.half _).mp hown).1.symm

/-- **Any two files of that kind may be the last ones.** -/
theorem exists_listing_last (hname : '/' ∉ kernelName.toList) {f g : ArgOutput}
    (hf : f ∈ (outputs .test).lastKind) (hg : g ∈ (outputs .post).lastKind) :
    ∃ listing, lastDigest md5 listing enqueue kernelName outputs .test = some (f.digest md5) ∧
      lastDigest md5 listing enqueue kernelName outputs .post = some (g.digest md5) := by
  have hother : Folder.test ≠ Folder.post := by decide
  refine ⟨.lastly fun file => file = f.file .test enqueue kernelName ∨
    file = g.file .post enqueue kernelName, ?_, ?_⟩
  · unfold lastDigest
    rw [getLast?_listed_lastly hname hf fun f' => ?_]
    · rfl
    · rw [decide_eq_true_eq]
      exact or_iff_left (file_ne hother hname f' g)
  · unfold lastDigest
    rw [getLast?_listed_lastly hname hg fun g' => ?_]
    · rfl
    · rw [decide_eq_true_eq]
      exact or_iff_right (file_ne hother.symm hname g' f)

/-- What is compared if the kernel's name has a number is the digest of such a file. -/
theorem exists_of_lastDigest (hname : '/' ∉ kernelName.toList) {folder : Folder} {hash : String}
    (h : lastDigest md5 listing enqueue kernelName outputs folder = some hash) :
    ∃ f ∈ (outputs folder).lastKind, f.digest md5 = hash := by
  obtain ⟨file, hlast, hbytes⟩ := Option.bind_eq_some_iff.mp h
  obtain ⟨f, hf, rfl⟩ := getLast?_listed hname hlast
  exact ⟨f, hf, Option.some.inj hbytes⟩

/-! ## When the report is right -/

/-- The digests of the files that are compared do not collide. -/
def CollisionFree (md5 : Bytes → String) (outputs : Folder → Outputs) : Prop :=
  ∀ f ∈ (outputs .test).files, ∀ g ∈ (outputs .post).files,
    f.digest md5 = g.digest md5 → wholeItems f.bytes = wholeItems g.bytes

/-- Every replayed file is dumped with the same whole items, and behind them one of them differs. -/
def OnlyTailsDiffer (outputs : Folder → Outputs) : Prop :=
  (∀ f ∈ (outputs .test).files, ∃ g ∈ (outputs .post).files,
    g.argIndex = f.argIndex ∧ wholeItems g.bytes = wholeItems f.bytes) ∧
  ∃ f ∈ (outputs .test).files, ∃ g ∈ (outputs .post).files,
    g.argIndex = f.argIndex ∧ partialItem g.bytes ≠ partialItem f.bytes

/-- The files that may be listed last speak for all: they have the same whole items in both
directories and no file differs, or they share none and some file differs. -/
def LastSpeaksForAll (outputs : Folder → Outputs) : Prop :=
  (Identical outputs ∧ ∀ f ∈ (outputs .test).lastKind, ∀ g ∈ (outputs .post).lastKind,
    wholeItems f.bytes = wholeItems g.bytes) ∨
  (¬Identical outputs ∧ ∀ f ∈ (outputs .test).lastKind, ∀ g ∈ (outputs .post).lastKind,
    wholeItems f.bytes ≠ wholeItems g.bytes)

/-- The files that the comparison tells apart. -/
def ToldApart (dec : Decimals) (kernelName : String) (outputs : Folder → Outputs) : Prop :=
  match strayNumber dec kernelName with
  | none => ¬OnlyTailsDiffer outputs
  | some _ => LastSpeaksForAll outputs

/-- Bytes are their whole items and what is behind them. -/
theorem bytes_eq_iff (bytes bytes' : Bytes) :
    bytes = bytes' ↔
      wholeItems bytes = wholeItems bytes' ∧ partialItem bytes = partialItem bytes' := by
  refine ⟨fun h => h ▸ ⟨rfl, rfl⟩, fun ⟨hitems, hrest⟩ => ?_⟩
  rw [← List.take_append_drop (bytes.length / 8 * 8) bytes,
    ← List.take_append_drop (bytes'.length / 8 * 8) bytes']
  exact congrArg₂ (· ++ ·) hitems hrest

/-- Where not only the tails differ, equal items are equal outputs. -/
theorem identical_of_not_onlyTailsDiffer (h : ¬OnlyTailsDiffer outputs)
    (hitems : ∀ f ∈ (outputs .test).files, ∃ g ∈ (outputs .post).files,
      g.argIndex = f.argIndex ∧ wholeItems g.bytes = wholeItems f.bytes) :
    Identical outputs := by
  intro f hf
  obtain ⟨g, hg, hidx, hsame⟩ := hitems f hf
  refine ⟨g, hg, hidx, (bytes_eq_iff _ _).mpr ⟨hsame, ?_⟩⟩
  by_contra hrest
  exact h ⟨hitems, f, hf, g, hg, hidx, hrest⟩

/-- **Without a stray number every file is compared, up to its whole items.** -/
theorem validates_of_none (hname : '/' ∉ kernelName.toList)
    (hstray : strayNumber dec kernelName = none) (hmd5 : CollisionFree md5 outputs) :
    (∀ listing, ReportsEqual dec md5 listing (validationDir enqueue kernelName outputs) ↔
        Identical outputs) ↔
      ¬OnlyTailsDiffer outputs := by
  have hreport (listing : Listing) :
      ReportsEqual dec md5 listing (validationDir enqueue kernelName outputs) ↔
        ∀ f ∈ (outputs .test).files, ∃ g ∈ (outputs .post).files,
          g.argIndex = f.argIndex ∧ wholeItems g.bytes = wholeItems f.bytes := by
    rw [reportsEqual_of_none hname hstray]
    refine forall₂_congr fun f hf => exists_congr fun g => and_congr_right fun hg =>
      and_congr_right fun _ => ⟨fun h => (hmd5 f hf g hg h.symm).symm, fun h => ?_⟩
    rw [ArgOutput.digest, ArgOutput.digest, h]
  simp only [hreport]
  constructor
  · rintro h ⟨hitems, f, hf, g, hg, hidx, hrest⟩
    obtain ⟨g', hg', hidx', hbytes⟩ := (h ⟨fun files => files, fun _ => .rfl⟩).mp hitems f hf
    obtain rfl := (outputs .post).eq_of_argIndex hg hg' (hidx.trans hidx'.symm)
    exact hrest (congrArg partialItem hbytes)
  · intro h _
    refine ⟨identical_of_not_onlyTailsDiffer h, fun hidentical f hf => ?_⟩
    obtain ⟨g, hg, hidx, hbytes⟩ := hidentical f hf
    exact ⟨g, hg, hidx, congrArg wholeItems hbytes⟩

/-- **With one the last file speaks for all.** -/
theorem validates_of_some (hname : '/' ∉ kernelName.toList) {n : Nat}
    (hstray : strayNumber dec kernelName = some n) (hmd5 : CollisionFree md5 outputs) :
    (∀ listing, ReportsEqual dec md5 listing (validationDir enqueue kernelName outputs) ↔
        Identical outputs) ↔
      LastSpeaksForAll outputs := by
  have hdigest {f g : ArgOutput} (hf : f ∈ (outputs .test).lastKind)
      (hg : g ∈ (outputs .post).lastKind) :
      g.digest md5 = f.digest md5 ↔ wholeItems f.bytes = wholeItems g.bytes := by
    refine ⟨fun h => hmd5 f (Outputs.mem_lastKind.mp hf).1 g (Outputs.mem_lastKind.mp hg).1 h.symm,
      fun h => ?_⟩
    rw [ArgOutput.digest, ArgOutput.digest, h]
  simp only [reportsEqual_of_some hname hstray]
  constructor
  · intro h
    by_cases hidentical : Identical outputs
    · refine .inl ⟨hidentical, fun f hf g hg => ?_⟩
      obtain ⟨listing, htest, hpost⟩ := exists_listing_last hname hf hg
      have hsame := (h listing).mpr hidentical _ htest
      exact (hdigest hf hg).mp (Option.some.inj (hpost.symm.trans hsame))
    · refine .inr ⟨hidentical, fun f hf g hg hitems => hidentical ?_⟩
      obtain ⟨listing, htest, hpost⟩ := exists_listing_last hname hf hg
      refine (h listing).mp fun hash hhash => ?_
      obtain rfl := Option.some.inj (htest.symm.trans hhash)
      rw [hpost, (hdigest hf hg).mpr hitems]
  · rintro (⟨hidentical, halike⟩ | ⟨hdiffers, hunlike⟩) listing
    · refine iff_of_true (fun hash hhash => ?_) hidentical
      obtain ⟨f, hf, rfl⟩ := exists_of_lastDigest hname hhash
      cases hpost : lastDigest md5 listing enqueue kernelName outputs .post with
      | none =>
        -- nothing is dumped, though the replayed file is
        obtain ⟨g, hg, -⟩ := hidentical f (Outputs.mem_lastKind.mp hf).1
        rw [(lastDigest_eq_none_iff md5 listing enqueue outputs hname .post).mp hpost] at hg
        cases hg
      | some hash =>
        obtain ⟨g, hg, rfl⟩ := exists_of_lastDigest hname hpost
        rw [(hdigest hf hg).mpr (halike f hf g hg)]
    · refine iff_of_false (fun h => ?_) hdiffers
      cases htest : lastDigest md5 listing enqueue kernelName outputs .test with
      | none =>
        refine hdiffers fun f hf => ?_
        rw [(lastDigest_eq_none_iff md5 listing enqueue outputs hname .test).mp htest] at hf
        cases hf
      | some hash =>
        obtain ⟨f, hf, rfl⟩ := exists_of_lastDigest hname htest
        obtain ⟨g, hg, hsame⟩ := exists_of_lastDigest hname (h _ htest)
        exact hunlike f hf g hg ((hdigest hf hg).mp hsame)

/-- **When the validation is right**: it reports that all arguments are equal just if they are. -/
theorem validates_iff (dec : Decimals) (md5 : Bytes → String) (enqueue : UInt32)
    (kernelName : String) (hname : '/' ∉ kernelName.toList) (outputs : Folder → Outputs)
    (hmd5 : CollisionFree md5 outputs) :
    (∀ listing, ReportsEqual dec md5 listing (validationDir enqueue kernelName outputs) ↔
        Identical outputs) ↔
      ToldApart dec kernelName outputs := by
  unfold ToldApart
  cases hstray : strayNumber dec kernelName with
  | none => exact validates_of_none hname hstray hmd5
  | some n => exact validates_of_some hname hstray hmd5

/-- One buffer, replayed and dumped. -/
def oneBuffer (replayed dumped : Bytes) (folder : Folder) : Outputs where
  files := [replayedOutput .buffers 0 (match folder with
    | .test => replayed
    | .post => dumped)]
  nodup := List.nodup_singleton _

/-- A digest that no two texts share. -/
def hexDigest (bytes : Bytes) : String :=
  String.join (bytes.map fun byte => number 16 2 byte.toNat)

/-- Ten bytes, two of them behind the last whole item. -/
def tenBytes : Bytes := [1, 2, 3, 4, 5, 6, 7, 8, 9, 10]

/-- The same ten bytes, and ten of which the first differs. -/
theorem validates_tenBytes :
    (∀ listing, ReportsEqual Decimals.plain hexDigest listing
      (validationDir 7 "f" (oneBuffer tenBytes tenBytes))) ∧
    ∀ listing, ¬ReportsEqual Decimals.plain hexDigest listing
      (validationDir 7 "f" (oneBuffer (0 :: tenBytes.tail) tenBytes)) := by
  have hstray : strayNumber Decimals.plain "f" = none := by decide
  constructor
  · intro listing
    refine ((validates_iff Decimals.plain hexDigest 7 "f" (by decide) (oneBuffer tenBytes tenBytes)
      ?_).mpr ?_ listing).mpr ?_
    · exact List.forall_mem_singleton.mpr (List.forall_mem_singleton.mpr fun _ => rfl)
    · rw [ToldApart, hstray]
      rintro ⟨-, f, hf, g, hg, -, hrest⟩
      obtain rfl := List.mem_singleton.mp hf
      obtain rfl := List.mem_singleton.mp hg
      exact hrest rfl
    · exact List.forall_mem_singleton.mpr ⟨_, List.mem_singleton_self _, rfl, rfl⟩
  · intro listing
    refine mt ((validates_iff Decimals.plain hexDigest 7 "f" (by decide)
      (oneBuffer (0 :: tenBytes.tail) tenBytes) ?_).mpr ?_ listing).mp ?_
    · refine List.forall_mem_singleton.mpr (List.forall_mem_singleton.mpr fun h => ?_)
      exact absurd h (by decide +kernel)
    · rw [ToldApart, hstray]
      rintro ⟨hitems, -⟩
      obtain ⟨g, hg, -, hsame⟩ := hitems _ (List.mem_singleton_self _)
      obtain rfl := List.mem_singleton.mp hg
      exact absurd hsame (by decide)
    · intro h
      obtain ⟨g, hg, -, hbytes⟩ := h _ (List.mem_singleton_self _)
      obtain rfl := List.mem_singleton.mp hg
      exact absurd hbytes (by decide)

/-- Two files of one byte are equal to the validation. -/
theorem one_byte_not_compared :
    (∀ listing, ReportsEqual Decimals.plain hexDigest listing
        (validationDir 7 "f" (oneBuffer [0] [1]))) ∧
      ¬ Identical (oneBuffer [0] [1]) := by
  have hstray : strayNumber Decimals.plain "f" = none := by decide
  constructor
  · intro listing
    rw [reportsEqual_of_none (by decide) hstray]
    exact List.forall_mem_singleton.mpr
      ⟨replayedOutput .buffers 0 [1], List.mem_singleton_self _, rfl, rfl⟩
  · intro h
    obtain ⟨g, hg, -, hbytes⟩ := h (replayedOutput .buffers 0 [0]) (List.mem_singleton_self _)
    rw [List.mem_singleton.mp hg] at hbytes
    exact absurd hbytes (by decide)

end CLIntercept.Replay
