import CLIntercept.Replay.Reading
import CLIntercept.Replay.Samplers

/-!
# What a launch means, and what is launched

A launch is reconstructed when the script launches the kernel of this name with these sizes, when
every argument means what it meant, memory that is shared and no other is shared again, and every
image is read back as large as it is: `Reconstructed` of one order of the files, `Reconstructs` of
all. `Reconstructible` is what that takes of the launch and of what the layer has recorded.

What the script launches is said by the dictionaries that it has read (`ReadOf`), and these by the
entries of the arguments: what is found of memory, images, sizes and storage, one lemma each.
-/

set_option autoImplicit false

namespace CLIntercept.Replay

open CLIntercept.Lib CLIntercept.Track CLIntercept.Timing CLIntercept.Dump.Memory

/-! ## What arguments mean -/

/-- What an argument is to a kernel. -/
inductive Meaning
  | bytes (value : Bytes)
  | localMemory (size : Nat)
  | buffer (contents : Bytes)
  | pointer (contents : Bytes) (offset : Nat)
  | image (imageType : ImageType) (format : Nat × Nat) (extent : Nat × Nat × Nat) (contents : Bytes)
  | sampler (values : SamplerValues)
  deriving DecidableEq, Repr

/-- The memory of a half. -/
def Meaning.memory : Half → Meaning → Option Bytes
  | .buffers, buffer contents | .buffers, pointer contents _ => some contents
  | .images, image _ _ _ contents => some contents
  | _, _ => none

/-- The type of an image. Only arrays have a size as such, and only images of two or three dimensions
a height. -/
def imageTypeOf (answers : ImageAnswers) : ImageType :=
  if answers.depth ≠ 0 then .image3D
  else if answers.height ≠ 0 then
    if answers.arraySize = 0 then .image2D else .image2DArray
  else if answers.arraySize = 0 then .image1D else .image1DArray

/-- The region that is the whole image. -/
def extentOf (answers : ImageAnswers) : Nat × Nat × Nat :=
  match imageTypeOf answers with
  | .image1DArray => (answers.width, answers.arraySize, 1)
  | .image2D => (answers.width, answers.height, 1)
  | .image2DArray => (answers.width, answers.height, answers.arraySize)
  | .image3D => (answers.width, answers.height, answers.depth)
  | _ => (answers.width, 1, 1)

section

variable (live : Nat → Option Object)

/-- What an argument is set to. -/
def Arg.meaning : Arg → Option Meaning
  | bytes argValue => some (.bytes argValue)
  | localMemory argSize => some (.localMemory argSize)
  | object handle => (live handle).bind fun
    | .buffer block => some (.buffer block.contents)
    | .image answers contents =>
      some (.image (imageTypeOf answers) answers.format (extentOf answers) contents)
    | .sampler properties => some (.sampler (samplerValues properties))
    | .allocation _ _ => none
  | pointer _ base offset => (live base).bind fun
    | .allocation _ block => some (.pointer block.contents offset)
    | _ => none

/-- The bytes of a buffer or an allocation. -/
def blockAt (address : Nat) : Option Block :=
  (live address).bind fun
    | .buffer block | .allocation _ block => some block
    | _ => none

/-- The storage of a buffer or of what a pointer points into. -/
def Arg.storage (arg : Arg) : Option Nat :=
  (arg.address.bind (blockAt live)).map (·.storage)

end

/-- What the script's image is, from its shape. -/
def shapeType : List Nat → ImageType
  | [_] => .image1D
  | [_, _] => .image2D
  | _ => .image3D

/-- A region with ones for the dimensions that are left out. -/
def shapeRegion (shape : List Nat) : Nat × Nat × Nat :=
  (shape[0]?.getD 1, shape[1]?.getD 1, shape[2]?.getD 1)

namespace ReplayedArg

def meaning : ReplayedArg → Meaning
  | bytes value => .bytes value
  | localMemory size => .localMemory size
  | buffer _ contents => .buffer contents
  | svm _ contents offset => .pointer contents offset
  | image format shape contents => .image (shapeType shape) format (shapeRegion shape) contents
  | sampler values => .sampler values

def storage : ReplayedArg → Option Bytes
  | buffer storage _ | svm storage _ _ => some storage
  | _ => none

end ReplayedArg

/-! ## Launches that are reconstructed -/

namespace Session

variable (s : Session)

def meaning (i : Nat) : Option Meaning := (s.args i).bind (Arg.meaning s.live)

def memory (h : Half) (i : Nat) : Option Bytes := (s.meaning i).bind (Meaning.memory h)

end Session

section

variable (dec : Decimals) (float : FloatText) (useSvm : Bool) (kernel : Handle) (s : Session)
variable (l : Launch)

/-- **The launch is the same.** -/
structure Reconstructed (r : Replayed) : Prop where
  kernelName : r.kernelName = l.functionName
  globalSize : r.globalSize = List.ofFn (l.globalSize.getD fun _ => 0)
  localSize : r.localSize = l.localSize.map List.ofFn
  globalOffset : r.globalOffset = List.ofFn (l.globalOffset.getD fun _ => 0)
  args : ∀ i, (∀ a ∈ r.args i, s.meaning i = some a.meaning) ∧
    ((s.meaning i).isSome → r.args i ≠ [])
  storage : ∀ i j arg arg', s.args i = some arg → s.args j = some arg' →
    (arg.storage s.live).isSome → (arg'.storage s.live).isSome →
      ∀ a ∈ r.args i, ∀ b ∈ r.args j,
        (a.storage = b.storage ↔ arg.storage s.live = arg'.storage s.live)
  regions : ∀ i imageType format extent contents,
    s.meaning i = some (.image imageType format extent contents) →
      (r.regions i).map shapeRegion = some extent

/-- In whatever order the files are listed. -/
def Reconstructs : Prop :=
  ∀ listing, ∃ r, replay dec listing useSvm (capture kernel s l) = some r ∧ Reconstructed s l r

/-! ## Which launches are -/

/-- `NULL` is written as zeros, and zeros are read as none, in up to three dimensions. -/
def LocalSizeKept : Prop :=
  match l.localSize with
  | none => 1 ≤ l.workDim ∧ l.workDim ≤ 3
  | some sizes => 1 ≤ l.workDim → l.workDim ≤ 3 → ∃ i, sizes i ≠ 0

/-- Arrays and images of one dimension are made again as others. -/
def ImageKept (answers : ImageAnswers) : Prop :=
  answers.height ≠ 0 ∧ (answers.depth ≠ 0 ∨ answers.arraySize = 0)

/-- The image that is made from what is written of one is another: it has two dimensions or three,
and for a height or a depth that is missing the number of images of an array. -/
structure ImageMadeAs (recorded answers : ImageAnswers) : Prop where
  format : recorded.format = answers.format
  imageType : imageTypeOf answers =
    if recorded.depth = 0 ∧ recorded.arraySize = 0 then .image2D else .image3D
  extent : extentOf answers = (recorded.width,
    if recorded.height = 0 then max recorded.arraySize 1 else recorded.height,
    if recorded.depth = 0 then max recorded.arraySize 1 else recorded.depth)

/-- SVM is asked for, or an offset is recorded with what is no image. -/
def ReplaysSvm : Prop :=
  useSvm = true ∨ ∃ i memInfo, s.kernelArgs.kernelArgMemMap kernel i = some memInfo ∧
    s.objects.imageInfoMap memInfo.value = none ∧ memInfo.offset ≠ 0

/-- The layer takes an argument for memory that lives, with these bytes. -/
def RecordedMemory (h : Half) (i : Nat) (bytes : Bytes) : Prop :=
  ∃ memInfo t, s.kernelArgs.kernelArgMemMap kernel i = some memInfo ∧
    h.tracked s.objects memInfo.value = some t ∧ readMemory s.live h t = some bytes

/-- Exactly the memory of the arguments is found, each under its index. -/
def MemoryFound : Prop :=
  ∀ h d bytes,
    ('/' ∉ (shortKernelName kernel l).toList ∧ ∃ i, RecordedMemory kernel s h i bytes ∧
      l.reads i = true ∧ foundIndex dec kernel l i = d) ↔ s.memory h d = some bytes

/-- What is recorded of an index makes its argument again: the value or the size itself, the offset
of a pointer, and an image or a sampler from what is written of the one that is recorded. The bytes
of a buffer or an allocation are found in its file. -/
def RecordedAs (e : ArgEntries) : Arg → Prop
  | .bytes argValue => e.data = some argValue
  | .localMemory argSize => e.localSize = some argSize
  | .pointer _ _ offset => ∃ memInfo, e.mem = some memInfo ∧
      s.objects.imageInfoMap memInfo.value = none ∧ memInfo.offset = offset
  | .object handle =>
    match s.live handle with
    | some (.buffer _) => e.data.isSome
    | some (.image answers _) => ∃ memInfo recorded contents, e.mem = some memInfo ∧
        s.live memInfo.value = some (.image recorded contents) ∧ ImageMadeAs recorded answers
    | some (.sampler properties) => ∃ recorded : SamplerProperties,
        ((recorded.getD []).map (·.name)).Nodup ∧
          e.sampler = some (getSamplerPropertiesString float recorded) ∧
          SamplerMadeAs recorded properties
    | _ => True

/-- What is recorded of an index fits the kind of its argument. -/
structure NothingLeft : Prop where
  values : ∀ i value, s.kernelArgs.kernelArgDataMap kernel i = some value →
    ∃ arg, s.args i = some arg ∧ ∀ size, arg ≠ .localMemory size
  localSizes : ∀ i size, s.kernelArgs.kernelArgLocalSizeMap kernel i = some size →
    s.args i = some (.localMemory size)
  samplers : ∀ i str, s.kernelArgs.kernelArgSamplerMap kernel i = some str →
    ∃ handle properties, s.args i = some (.object handle) ∧
      s.live handle = some (.sampler properties)

/-- **What a launch has to be.** -/
structure Reconstructible : Prop where
  name : shortKernelName kernel l = l.functionName
  localSize : LocalSizeKept l
  found : MemoryFound dec kernel s l
  recorded : ∀ i arg, s.args i = some arg → RecordedAs float s (s.kernelArgs.entries kernel i) arg
  buffers : ∀ i handle block, s.args i = some (.object handle) →
    s.live handle = some (.buffer block) → ¬ ReplaysSvm useSvm kernel s
  pointers : ∀ i kind base offset, s.args i = some (.pointer kind base offset) →
    ReplaysSvm useSvm kernel s
  extents : ∀ i j handle handle' answers answers' contents contents',
    s.args i = some (.object handle) → s.live handle = some (.image answers contents) →
    s.args j = some (.object handle') → s.live handle' = some (.image answers' contents') →
      extentOf answers = extentOf answers'
  aliases : ∀ i j x y, s.memory .buffers i = some x → s.memory .buffers j = some y →
    (s.kernelArgs.entries kernel i).data = (s.kernelArgs.entries kernel j).data → x = y
  storage : ∀ i j arg arg', s.args i = some arg → s.args j = some arg' →
    (arg.storage s.live).isSome → (arg'.storage s.live).isSome →
      ((s.kernelArgs.entries kernel i).data = (s.kernelArgs.entries kernel j).data ↔
        arg.storage s.live = arg'.storage s.live)
  leftover : NothingLeft kernel s

end

variable {dec : Decimals} {float : FloatText} {kernel : Handle} {s : Session} {l : Launch}
  {listing : Listing} {useSvm : Bool} {inp : Inputs}

/-! ## The dictionaries -/

/-- What is recorded of an argument's contents is the file that is dumped for it. -/
theorem recordedMemory_iff {h : Half} {i : Nat} {bytes : Bytes} :
    (RecordedMemory kernel s h i bytes ∧ l.reads i = true) ↔
      ∃ key, dumpedFile kernel s l h i = some (key, bytes) := by
  simp only [dumpedFile_eq_some]
  constructor
  · rintro ⟨⟨memInfo, t, hmem, ht, hread⟩, hreads⟩
    exact ⟨_, memInfo, t, hmem, ht, hreads, hread, rfl⟩
  · rintro ⟨key, memInfo, t, hmem, ht, hreads, hread, -⟩
    exact ⟨⟨memInfo, t, hmem, ht, hread⟩, hreads⟩

/-- Found is what is recorded: each file under its own argument. -/
theorem memoryFound_iff : MemoryFound dec kernel s l ↔
    ∀ h d bytes, FoundUnder dec kernel s l h d bytes ↔ s.memory h d = some bytes := by
  refine forall_congr' fun h => forall_congr' fun d => forall_congr' fun bytes => iff_congr ?_ .rfl
  refine and_congr_right fun _ => ?_
  simp only [← and_assoc, recordedMemory_iff, exists_and_right]

namespace ReadOf

variable (hread : ReadOf dec kernel s l listing inp)
include hread

/-- The values that are read are those that the session keeps. -/
theorem dict_arguments (i : Nat) : dict inp.arguments i = (s.kernelArgs.entries kernel i).data :=
  dict_eq hread.arguments i

/-- The sizes of local memory, likewise. -/
theorem dict_localSizes (i : Nat) :
    dict inp.localSizes i = (s.kernelArgs.entries kernel i).localSize :=
  dict_eq hread.localSizes i

/-- A sampler is read up to the end of its first line. -/
theorem dict_samplers (i : Nat) : dict inp.samplers i =
    (s.kernelArgs.entries kernel i).sampler.map fun str =>
      samplerFromString (str.toList.takeWhile (· ≠ '\n')) := by
  have hmem : ∀ j x, (j, x) ∈ inp.samplers ↔
      ((s.kernelArgs.entries kernel j).sampler.map fun str =>
        samplerFromString (str.toList.takeWhile (· ≠ '\n'))) = some x := by
    intro j x
    rw [hread.samplers, Option.map_eq_some_iff]
    rfl
  exact dict_eq hmem i

/-- An offset is kept for all that is no image. -/
theorem dict_svmArgOffsets (i : Nat) : dict inp.svmArgOffsets i =
    (s.kernelArgs.entries kernel i).mem.bind fun memInfo =>
      if s.objects.imageInfoMap memInfo.value = none then some memInfo.offset else none := by
  have hmem : ∀ j x, (j, x) ∈ inp.svmArgOffsets ↔
      ((s.kernelArgs.entries kernel j).mem.bind fun memInfo =>
        if s.objects.imageInfoMap memInfo.value = none then some memInfo.offset else none) =
          some x := by
    intro j x
    rw [hread.svmArgOffsets, Option.bind_eq_some_iff]
    refine exists_congr fun memInfo => and_congr_right fun _ => ?_
    rw [Option.ite_none_right_eq_some, Option.some.injEq]
  exact dict_eq hmem i

end ReadOf

/-! ## What an argument is -/

/-- What an argument is set to, and what it means. -/
inductive ArgAs (s : Session) (i : Nat) : Prop
  | unset (hargs : s.args i = none) (hmeaning : s.meaning i = none)
  | bytes (value : Bytes) (hargs : s.args i = some (.bytes value))
    (hmeaning : s.meaning i = some (.bytes value))
  | localMemory (size : Nat) (hargs : s.args i = some (.localMemory size))
    (hmeaning : s.meaning i = some (.localMemory size))
  | buffer (handle : Nat) (block : Block) (hargs : s.args i = some (.object handle))
    (hlive : s.live handle = some (.buffer block))
    (hmeaning : s.meaning i = some (.buffer block.contents))
  | image (handle : Nat) (answers : ImageAnswers) (contents : Bytes)
    (hargs : s.args i = some (.object handle))
    (hlive : s.live handle = some (.image answers contents))
    (hmeaning : s.meaning i =
      some (.image (imageTypeOf answers) answers.format (extentOf answers) contents))
  | sampler (handle : Nat) (properties : SamplerProperties)
    (hargs : s.args i = some (.object handle))
    (hlive : s.live handle = some (.sampler properties))
    (hmeaning : s.meaning i = some (.sampler (samplerValues properties)))
  | pointer (kind : Allocations.Kind) (base offset : Nat) (block : Block)
    (hargs : s.args i = some (.pointer kind base offset))
    (hlive : s.live base = some (.allocation kind block))
    (hmeaning : s.meaning i = some (.pointer block.contents offset))

namespace SessionInv

variable (hinv : SessionInv float kernel s)
include hinv

/-- What is known of an image is what was recorded at its creation. -/
theorem imageInfoMap (a : Nat) : s.objects.imageInfoMap a = (trackedOf float s.live a).image :=
  congrArg Tracked.image (hinv.tracks a)

/-- Only a live image is known as one. -/
theorem imageInfoMap_eq_some_iff {a : Nat} {info : SImageInfo} :
    s.objects.imageInfoMap a = some info ↔ ∃ recorded contents,
      s.live a = some (.image recorded contents) ∧ imageInfo recorded {} = info := by
  rw [hinv.imageInfoMap, trackedOf]
  cases s.live a with
  | none => simp
  | some object =>
    cases object with
    | buffer block | sampler properties | image recorded contents => simp [Object.tracked]
    | allocation kind block => cases kind <;> simp [Object.tracked]

/-- Every argument is kept as the kind of thing that was set. -/
theorem argAs (i : Nat) : ArgAs s i := by
  cases hargs : s.args i with
  | none => exact .unset hargs (by simp [Session.meaning, hargs])
  | some arg =>
    have hmeaning : s.meaning i = arg.meaning s.live := by rw [Session.meaning, hargs]; rfl
    have hvalid := hinv.valid i arg hargs
    cases arg with
    | bytes value => exact .bytes value hargs hmeaning
    | localMemory size => exact .localMemory size hargs hmeaning
    | pointer kind base offset =>
      obtain ⟨block, hlive, -⟩ := hvalid
      rw [Arg.meaning, hlive] at hmeaning
      exact .pointer kind base offset block hargs hlive hmeaning
    | object handle =>
      obtain ⟨object, hlive, hobject⟩ := hvalid
      rw [Arg.meaning, hlive] at hmeaning
      cases object with
      | buffer block => exact .buffer handle block hargs hlive hmeaning
      | image answers contents => exact .image handle answers contents hargs hlive hmeaning
      | sampler properties => exact .sampler handle properties hargs hlive hmeaning
      | allocation kind block => exact absurd rfl (hobject kind block)

/-- The memory of buffers and pointers is that of the block at their address. -/
theorem memory_buffers {i : Nat} {x : Bytes} : s.memory .buffers i = some x ↔
    ∃ arg a block, s.args i = some arg ∧ arg.address = some a ∧ blockAt s.live a = some block ∧
      block.contents = x := by
  unfold Session.memory
  cases hinv.argAs i with
  | unset hargs hmeaning => simp [hargs, hmeaning]
  | bytes _ hargs hmeaning | localMemory _ hargs hmeaning =>
    simp [hargs, hmeaning, Meaning.memory, Arg.address]
  | buffer _ _ hargs hlive hmeaning | image _ _ _ hargs hlive hmeaning
  | sampler _ _ hargs hlive hmeaning | pointer _ _ _ _ hargs hlive hmeaning =>
    simp [hargs, hmeaning, Meaning.memory, Arg.address, blockAt, hlive]

/-- What has storage is memory. -/
theorem memory_of_storage {i : Nat} {arg : Arg} (hargs : s.args i = some arg)
    (h : (arg.storage s.live).isSome) : (s.memory .buffers i).isSome := by
  rw [Arg.storage, Option.isSome_map] at h
  obtain ⟨block, hblock⟩ := Option.isSome_iff_exists.mp h
  obtain ⟨a, ha, hblock⟩ := Option.bind_eq_some_iff.mp hblock
  exact Option.isSome_iff_exists.mpr
    ⟨_, hinv.memory_buffers.mpr ⟨arg, a, block, hargs, ha, hblock, rfl⟩⟩

end SessionInv

/-! ## Images -/

/-- **The images that are made from what is written of another.** -/
theorem shape_imageInfo_iff {recorded answers : ImageAnswers} :
    (shapeType (recordedShape (imageInfo recorded {})) = imageTypeOf answers ∧
        (imageInfo recorded {}).format = answers.format ∧
        shapeRegion (recordedShape (imageInfo recorded {})) = extentOf answers) ↔
      ImageMadeAs recorded answers := by
  have hsplit : ImageMadeAs recorded answers ↔ imageTypeOf answers =
        (if recorded.depth = 0 ∧ recorded.arraySize = 0 then .image2D else .image3D) ∧
      recorded.format = answers.format ∧ extentOf answers = (recorded.width,
        if recorded.height = 0 then max recorded.arraySize 1 else recorded.height,
        if recorded.depth = 0 then max recorded.arraySize 1 else recorded.depth) :=
    ⟨fun h => ⟨h.imageType, h.format, h.extent⟩, fun h => ⟨h.2.1, h.1, h.2.2⟩⟩
  have harray : recorded.arraySize ≠ 0 → max recorded.arraySize 1 = recorded.arraySize :=
    fun h => Nat.max_eq_left (Nat.pos_of_ne_zero h)
  rw [hsplit, eq_comm, eq_comm (b := extentOf answers)]
  unfold imageInfo recordedShape
  by_cases hheight : recorded.height = 0 <;> by_cases hdepth : recorded.depth = 0 <;>
    by_cases hsize : recorded.arraySize = 0 <;>
    simp [hheight, hdepth, hsize, harray, shapeType, shapeRegion]

/-- The images that are made again from what is written of themselves. -/
theorem imageMadeAs_self {answers : ImageAnswers} (h : answers.height = 0 → answers.depth = 0) :
    ImageMadeAs answers answers ↔ ImageKept answers := by
  rw [← shape_imageInfo_iff]
  unfold imageInfo recordedShape extentOf imageTypeOf ImageKept
  by_cases hheight : answers.height = 0
  · by_cases harray : answers.arraySize = 0 <;>
      simp [hheight, h hheight, harray, shapeType]
  · by_cases hdepth : answers.depth = 0
    · by_cases harray : answers.arraySize = 0 <;>
        simp [hheight, hdepth, harray, shapeType, shapeRegion]
    · simp [hheight, hdepth, shapeType, shapeRegion]

/-- The script takes all memory for SVM if it is told to, or finds an offset. -/
theorem usesSvm_iff (hread : ReadOf dec kernel s l listing inp) (useSvm : Bool) :
    inp.usesSvm useSvm = true ↔ ReplaysSvm useSvm kernel s := by
  rw [Inputs.usesSvm, Bool.or_eq_true, ReplaysSvm, List.any_eq_true]
  refine or_congr_right ⟨?_, ?_⟩
  · rintro ⟨⟨i, x⟩, hmem, hx⟩
    obtain ⟨memInfo, hentry, himage, rfl⟩ := (hread.svmArgOffsets i x).mp hmem
    exact ⟨i, memInfo, hentry, himage, by simpa using hx⟩
  · rintro ⟨i, memInfo, hentry, himage, hoffset⟩
    exact ⟨(i, memInfo.offset), (hread.svmArgOffsets i memInfo.offset).mpr
      ⟨memInfo, hentry, himage, rfl⟩, by simpa using hoffset⟩

/-! ## What is launched -/

section

variable (dec kernel s l useSvm inp)

/-- The images with their formats and shapes. -/
def metadata : Option (List (Nat × (Nat × Nat) × List Nat)) :=
  inp.images.mapM fun item =>
    (getImageMetadata dec (capture kernel s l) item.1).map fun metadata => (item.1, metadata)

/-- What is launched with them. -/
def launched (images : List (Nat × (Nat × Nat) × List Nat)) : Replayed where
  kernelName := shortKernelName kernel l
  globalSize := List.ofFn (l.globalSize.getD fun _ => 0)
  localSize :=
    if List.ofFn (l.localSize.getD fun _ => 0) ∈ [[0], [0, 0], [0, 0, 0]] then none
    else some (List.ofFn (l.localSize.getD fun _ => 0))
  globalOffset := List.ofFn (l.globalOffset.getD fun _ => 0)
  args := inp.setArgs (inp.usesSvm useSvm) images
  regions := fun idx => if (dict images idx).isSome then images.getLast?.map (·.2.2) else none

end

/-- A replay runs if its inputs are complete and every image has its description. -/
theorem replay_eq_some_iff (hinv : SessionInv float kernel s)
    (hread : readInputs dec listing (capture kernel s l) = some inp) {r : Replayed} :
    replay dec listing useSvm (capture kernel s l) = some r ↔
      inp.Complete (inp.usesSvm useSvm) = true ∧ ∃ images,
        metadata dec kernel s l inp = some images ∧ launched kernel l useSvm inp images = r := by
  have hname : readText (capture kernel s l) "kernelName.txt" =
      some (shortKernelName kernel l).toList :=
    readText_info hinv (mem_kernelInfoFiles kernel l).2.2
  have hsizes : readText (capture kernel s l) "worksizes.txt" = some (printWorkSizes l) :=
    readText_info hinv (mem_kernelInfoFiles kernel l).2.1
  unfold replay
  simp only [Option.bind_eq_bind, hread, Option.bind_some, hname, hsizes, readSizes_printWorkSizes]
  by_cases hcomplete : inp.Complete (inp.usesSvm useSvm) = true
  · rw [if_pos hcomplete]
    show (metadata dec kernel s l inp).bind _ = some r ↔ _
    rw [Option.bind_eq_some_iff]
    simp [hcomplete, launched]
  · simp [hcomplete]

/-- The images that were found, with what their files say. -/
theorem dict_metadata {images : List (Nat × (Nat × Nat) × List Nat)}
    (himages : metadata dec kernel s l inp = some images) (i : Nat) :
    dict images i =
      (dict inp.images i).bind fun _ => getImageMetadata dec (capture kernel s l) i := by
  have hmem : ∀ j m, (j, m) ∈ images ↔
      ((dict inp.images j).bind fun _ => getImageMetadata dec (capture kernel s l) j) = some m := by
    intro j m
    rw [mem_mapM himages, Option.bind_eq_some_iff]
    constructor
    · rintro ⟨⟨k, c⟩, hc, hm⟩
      obtain ⟨m', hm', hjm⟩ := Option.map_eq_some_iff.mp hm
      cases hjm
      obtain ⟨x, hx⟩ := Option.isSome_iff_exists.mp (dict_isSome_of_mem hc)
      exact ⟨x, hx, hm'⟩
    · rintro ⟨x, hx, hm⟩
      exact ⟨(j, x), mem_of_dict hx, by rw [hm]; rfl⟩
  exact dict_eq hmem i

/-- The buffer of an index is made of the first one with the same argument. -/
theorem firstAlias_spec {i : Nat} (h : (dict inp.buffers i).isSome) :
    ∃ first, inp.firstAlias i = some first ∧ (dict inp.buffers first).isSome ∧
      dict inp.arguments first = dict inp.arguments i := by
  have hsome : (inp.firstAlias i).isSome := by
    rw [Inputs.firstAlias, List.find?_isSome]
    exact ⟨i, dict_isSome_iff.mp h, by simp⟩
  obtain ⟨first, hfirst⟩ := Option.isSome_iff_exists.mp hsome
  refine ⟨first, hfirst, ?_, by simpa using List.find?_some hfirst⟩
  exact dict_isSome_iff.mpr (List.mem_of_find?_eq_some hfirst)


/-! ## Lookups -/

/-- A test of all keys of a dictionary. -/
theorem all_keys_iff {α : Type} (items : List (Nat × α)) (p : Nat → Bool) :
    items.all (fun item => p item.1) = true ↔ ∀ i, (dict items i).isSome → p i = true := by
  simp only [List.all_eq_true, dict_isSome_iff, List.mem_map, forall_exists_index, and_imp,
    forall_apply_eq_imp_iff₂]

/-- What the checks of the script ask of its inputs. -/
theorem complete_iff {svm : Bool} : inp.Complete svm = true ↔
    (∀ i, (dict inp.buffers i).isSome → (dict inp.arguments i).isSome) ∧
      (∀ i, (dict inp.images i).isSome →
        (dict inp.arguments i).isSome ∧ dict inp.buffers i = none) ∧
      (∀ i, (dict inp.samplers i).isSome →
        (dict inp.arguments i).isSome ∧ dict inp.buffers i = none ∧ dict inp.images i = none) ∧
      (svm = true → ∀ i, (dict inp.buffers i).isSome → (dict inp.svmArgOffsets i).isSome) := by
  have hbuffers := all_keys_iff inp.buffers fun i => (dict inp.arguments i).isSome
  have himages := all_keys_iff inp.images fun i =>
    (dict inp.arguments i).isSome && (dict inp.buffers i).isNone
  have hsamplers := all_keys_iff inp.samplers fun i =>
    (dict inp.arguments i).isSome && (dict inp.buffers i).isNone && (dict inp.images i).isNone
  have hoffsets := all_keys_iff inp.buffers fun i => (dict inp.svmArgOffsets i).isSome
  rw [Inputs.Complete, Bool.and_eq_true, Bool.and_eq_true, Bool.and_eq_true, hbuffers, himages,
    hsamplers, Bool.or_eq_true, hoffsets]
  cases svm <;> simp [and_assoc]

/-- Memory is set with the contents of its first alias, as a buffer or as SVM. -/
theorem memoryArg_cases {svm : Bool} {i : Nat} {a : ReplayedArg}
    (h : inp.memoryArg svm i = some a) : ∃ storage first contents, (dict inp.buffers i).isSome ∧
      dict inp.arguments i = some storage ∧ inp.firstAlias i = some first ∧
      dict inp.buffers first = some contents ∧
      if svm then ∃ offset, dict inp.svmArgOffsets i = some offset ∧ a = .svm storage contents offset
      else a = .buffer storage contents := by
  unfold Inputs.memoryArg at h
  simp only [Option.bind_eq_bind, Option.bind_eq_some_iff] at h
  obtain ⟨own, hown, first, hfirst, contents, hcontents, storage, hstorage, h⟩ := h
  refine ⟨storage, first, contents, by rw [hown]; rfl, hstorage, hfirst, hcontents, ?_⟩
  cases svm with
  | false => exact (Option.some.inj h).symm
  | true =>
    obtain ⟨offset, hoffset, ha⟩ := Option.bind_eq_some_iff.mp h
    exact ⟨offset, hoffset, (Option.some.inj ha).symm⟩

/-- The calls of `set_arg`. -/
theorem mem_setArgs_iff {svm : Bool} {images : List (Nat × (Nat × Nat) × List Nat)} {i : Nat}
    {a : ReplayedArg} : a ∈ inp.setArgs svm images i ↔
      (dict inp.buffers i = none ∧ dict inp.images i = none ∧ dict inp.samplers i = none ∧
        ∃ value, dict inp.arguments i = some value ∧ .bytes value = a) ∨
      inp.memoryArg svm i = some a ∨
      (∃ image, dict images i = some image ∧
        ∃ contents, dict inp.images i = some contents ∧ .image image.1 image.2 contents = a) ∨
      (∃ size, dict inp.localSizes i = some size ∧ .localMemory size = a) ∨
      ∃ values, dict inp.samplers i = some values ∧ .sampler values = a := by
  simp only [Inputs.setArgs, List.mem_append, Option.mem_toList, or_assoc, Option.map_eq_some_iff,
    Option.bind_eq_some_iff, Option.ite_none_left_eq_some, Bool.or_eq_true, not_or, and_assoc,
    Bool.not_eq_true, Option.isSome_eq_false_iff, Option.isNone_iff_eq_none]

/-- Only a buffer's argument becomes a buffer or a pointer. -/
theorem memoryArg_of_memory {svm : Bool} {images : List (Nat × (Nat × Nat) × List Nat)} {i : Nat}
    {a : ReplayedArg} (ha : a ∈ inp.setArgs svm images i)
    (hmemory : (a.meaning.memory .buffers).isSome) : inp.memoryArg svm i = some a := by
  rcases mem_setArgs_iff.mp ha with ⟨-, -, -, _, -, rfl⟩ | ha | ⟨_, -, _, -, rfl⟩ | ⟨_, -, rfl⟩ |
    ⟨_, -, rfl⟩
  · cases hmemory
  · exact ha
  · cases hmemory
  · cases hmemory
  · cases hmemory

/-- Only an image's argument becomes an image. -/
theorem image_of_memory {svm : Bool} {images : List (Nat × (Nat × Nat) × List Nat)} {i : Nat}
    {a : ReplayedArg} (ha : a ∈ inp.setArgs svm images i)
    (hmemory : (a.meaning.memory .images).isSome) : ∃ image, dict images i = some image ∧
      ∃ contents, dict inp.images i = some contents ∧ .image image.1 image.2 contents = a := by
  rcases mem_setArgs_iff.mp ha with ⟨-, -, -, _, -, rfl⟩ | ha | ha | ⟨_, -, rfl⟩ | ⟨_, -, rfl⟩
  · cases hmemory
  · obtain ⟨_, _, _, -, -, -, -, ha⟩ := memoryArg_cases ha
    split at ha
    · obtain ⟨_, -, rfl⟩ := ha
      cases hmemory
    · subst ha
      cases hmemory
  · exact ha
  · cases hmemory
  · cases hmemory

/-- Only a local size becomes local memory, only a sampler's argument a sampler, and only a value
that is nothing else is set as it is. -/
theorem value_of_setArgs {svm : Bool} {images : List (Nat × (Nat × Nat) × List Nat)} {i : Nat}
    {a : ReplayedArg} (ha : a ∈ inp.setArgs svm images i) :
    match a.meaning with
    | .bytes value => dict inp.arguments i = some value
    | .localMemory size => dict inp.localSizes i = some size
    | .sampler values => dict inp.samplers i = some values
    | _ => True := by
  rcases mem_setArgs_iff.mp ha with ⟨-, -, -, _, hvalue, rfl⟩ | ha | ⟨_, -, _, -, rfl⟩ |
    ⟨_, hsize, rfl⟩ | ⟨_, hvalues, rfl⟩
  · exact hvalue
  · obtain ⟨_, _, _, -, -, -, -, ha⟩ := memoryArg_cases ha
    split at ha
    · obtain ⟨_, -, rfl⟩ := ha
      trivial
    · subst ha
      trivial
  · trivial
  · exact hsize
  · exact hvalues

/-! ## Sizes -/

/-- Sizes that are all zero, in up to three dimensions. -/
theorem mem_zeros_iff {n : Nat} (sizes : Fin n → Nat) :
    List.ofFn sizes ∈ [[0], [0, 0], [0, 0, 0]] ↔ (1 ≤ n ∧ n ≤ 3) ∧ ∀ i, sizes i = 0 := by
  have hzeros : ∀ k, List.ofFn sizes = List.replicate k 0 ↔ n = k ∧ ∀ i, sizes i = 0 := by
    intro k
    simp [List.eq_replicate_iff, List.mem_ofFn]
  have hmem : List.ofFn sizes ∈ [[0], [0, 0], [0, 0, 0]] ↔ List.ofFn sizes = List.replicate 1 0 ∨
      List.ofFn sizes = List.replicate 2 0 ∨ List.ofFn sizes = List.replicate 3 0 := by
    simp [List.replicate]
  rw [hmem, hzeros, hzeros, hzeros, ← or_and_right, ← or_and_right]
  refine and_congr_left fun _ => ?_
  omega

/-- A local size is replayed unless it reads as a missing one. -/
theorem localSize_launched_iff {images : List (Nat × (Nat × Nat) × List Nat)} :
    (launched kernel l useSvm inp images).localSize = l.localSize.map List.ofFn ↔
      LocalSizeKept l := by
  unfold launched LocalSizeKept
  simp only
  cases l.localSize with
  | none =>
    rw [Option.getD_none, Option.map_none, ite_eq_left_iff]
    have hzeros := mem_zeros_iff fun _ : Fin l.workDim => 0
    simp only [implies_true, and_true] at hzeros
    rw [hzeros]
    simp
  | some sizes =>
    rw [Option.getD_some, Option.map_some, ite_eq_right_iff]
    have hzeros := mem_zeros_iff sizes
    rw [hzeros]
    simp only [reduceCtorEq, imp_false, not_and, not_forall, and_imp]


/-! ## Storage -/

section

variable (hread : ReadOf dec kernel s l listing inp)
include hread

/-- A piece of memory is known by the value that is recorded of its argument. -/
theorem storage_of_mem {svm : Bool} {images : List (Nat × (Nat × Nat) × List Nat)} {i : Nat}
    {a : ReplayedArg} (ha : a ∈ inp.setArgs svm images i)
    (hmemory : (a.meaning.memory .buffers).isSome) :
    a.storage = (s.kernelArgs.entries kernel i).data := by
  obtain ⟨storage, _, _, -, hstorage, -, -, hreplayed⟩ :=
    memoryArg_cases (memoryArg_of_memory ha hmemory)
  rw [← hread.dict_arguments, hstorage]
  split at hreplayed
  · obtain ⟨_, -, rfl⟩ := hreplayed
    rfl
  · rw [hreplayed]
    rfl

/-- Storage is shared again where the same value is recorded. -/
theorem storage_eq_iff (hinv : SessionInv float kernel s) {svm : Bool}
    {images : List (Nat × (Nat × Nat) × List Nat)}
    (hmeaning : ∀ i, ∀ a ∈ inp.setArgs svm images i, s.meaning i = some a.meaning) {i j : Nat}
    {arg arg' : Arg} (hi : s.args i = some arg) (hj : s.args j = some arg')
    (hstorage : (arg.storage s.live).isSome) (hstorage' : (arg'.storage s.live).isSome)
    {a b : ReplayedArg} (ha : a ∈ inp.setArgs svm images i) (hb : b ∈ inp.setArgs svm images j) :
    a.storage = b.storage ↔
      (s.kernelArgs.entries kernel i).data = (s.kernelArgs.entries kernel j).data := by
  have hmemory : ∀ {k arg a}, s.args k = some arg → (arg.storage s.live).isSome →
      a ∈ inp.setArgs svm images k → (a.meaning.memory .buffers).isSome := by
    intro k arg a hk hstorage ha
    have hmemory := hinv.memory_of_storage hk hstorage
    rwa [Session.memory, hmeaning k a ha] at hmemory
  rw [storage_of_mem hread ha (hmemory hi hstorage ha),
    storage_of_mem hread hb (hmemory hj hstorage' hb)]

end

end CLIntercept.Replay
