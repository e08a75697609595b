import CLIntercept.Dump.Memory
import Mathlib.Data.PNat.Basic

/-!
# Images that are recorded and injected

`addImage` records the region and the type of an image from what the driver says of its dimensions:
the height is looked at first, and the depth after it. An image without a height has no depth either,
so what the first branch says of a 1D image or array is overwritten (`recordedWhole_iff`).

`injectImagesForKernel` reads every file into one buffer. A file of another size than its image is
reported as skipped, and is still injected if an earlier image left enough room in the buffer, with
what was in it behind the bytes of the file (`injectsExactly_iff`).
-/

set_option autoImplicit false

namespace CLIntercept.Dump.Memory

open CLIntercept.Lib CLIntercept.Track

/-! ## Dimensions -/

/-- An image with its dimensions. -/
inductive Dimensions
  | image1D (width : ℕ+)
  | image1DArray (width arraySize : ℕ+)
  | image2D (width height : ℕ+)
  | image2DArray (width height arraySize : ℕ+)
  | image3D (width height depth : ℕ+)
  deriving DecidableEq

namespace Dimensions

def imageType : Dimensions → ImageType
  | image1D .. => .image1D
  | image1DArray .. => .image1DArray
  | image2D .. => .image2D
  | image2DArray .. => .image2DArray
  | image3D .. => .image3D

/-- The region of the whole image. -/
def region : Dimensions → Nat × Nat × Nat
  | image1D width => (width, 1, 1)
  | image1DArray width arraySize => (width, arraySize, 1)
  | image2D width height => (width, height, 1)
  | image2DArray width height arraySize => (width, height, arraySize)
  | image3D width height depth => (width, height, depth)

/-- What the driver answers: zero for a dimension that the image does not have. -/
def answers (dims : Dimensions) (elementSize rowPitch slicePitch : Nat) (format : Nat × Nat) :
    ImageAnswers :=
  match dims with
  | image1D width => ⟨width, 0, 0, 0, elementSize, rowPitch, slicePitch, format⟩
  | image1DArray width arraySize =>
    ⟨width, 0, 0, arraySize, elementSize, rowPitch, slicePitch, format⟩
  | image2D width height => ⟨width, height, 0, 0, elementSize, rowPitch, slicePitch, format⟩
  | image2DArray width height arraySize =>
    ⟨width, height, 0, arraySize, elementSize, rowPitch, slicePitch, format⟩
  | image3D width height depth =>
    ⟨width, height, depth, 0, elementSize, rowPitch, slicePitch, format⟩

/-- The elements of an image. -/
def elements (dims : Dimensions) : Nat := dims.region.1 * dims.region.2.1 * dims.region.2.2

end Dimensions

/-- **What is recorded of an image is the whole image**: its region, its type and its size. -/
structure RecordedWhole (dims : Dimensions) (elementSize : Nat) (info : SImageInfo) : Prop where
  region : info.region = dims.region
  imageType : info.imageType = dims.imageType
  size : imageSize info = dims.elements * elementSize % sizeModulus

/-- The size of an image, from the region that is recorded. -/
theorem imageSize_eq {dims : Dimensions} {info : SImageInfo} (h : info.region = dims.region) :
    imageSize info = dims.elements * info.elementSize % sizeModulus := by
  rw [imageSize, Dimensions.elements, h]

section

variable (dims : Dimensions) (elementSize rowPitch slicePitch : Nat) (format : Nat × Nat)
  (old : SImageInfo)

/-- The type of an image without a height is overwritten. -/
theorem imageType_imageInfo :
    (imageInfo (dims.answers elementSize rowPitch slicePitch format) old).imageType =
      dims.imageType ↔ dims.imageType ≠ .image1D ∧ dims.imageType ≠ .image1DArray := by
  cases dims <;> simp [imageInfo, Dimensions.answers, Dimensions.imageType]

/-- The region of an array of 1D images has its length twice. -/
theorem region_imageInfo :
    (imageInfo (dims.answers elementSize rowPitch slicePitch format) old).region = dims.region ↔
      ∀ width arraySize, dims = .image1DArray width arraySize → arraySize = 1 := by
  cases dims <;> simp [imageInfo, Dimensions.answers, Dimensions.region]

/-- The size of an element is recorded as the driver tells it. -/
theorem elementSize_imageInfo :
    (imageInfo (dims.answers elementSize rowPitch slicePitch format) old).elementSize =
      elementSize := by
  cases dims <;> rfl

end

/-- **Which images are recorded right**: those of two and three dimensions. -/
theorem recordedWhole_iff {image : Handle} (himage : image ≠ null) (dims : Dimensions)
    (elementSize rowPitch slicePitch : Nat) (format : Nat × Nat) (o : Objects) :
    (∃ info, (addImage image (some (dims.answers elementSize rowPitch slicePitch format))
        o).imageInfoMap image = some info ∧ RecordedWhole dims elementSize info) ↔
      dims.imageType ≠ .image1D ∧ dims.imageType ≠ .image1DArray := by
  have hrecorded : (addImage image (some (dims.answers elementSize rowPitch slicePitch format))
      o).imageInfoMap image = some (imageInfo (dims.answers elementSize rowPitch slicePitch format)
        ((o.imageInfoMap image).getD {})) := by
    simp [addImage, himage, Objects.number]
  rw [hrecorded]
  constructor
  · rintro ⟨info, hinfo, hwhole⟩
    obtain rfl := Option.some.inj hinfo
    exact (imageType_imageInfo ..).mp hwhole.imageType
  · intro hkind
    have hregion := (region_imageInfo dims elementSize rowPitch slicePitch format
      ((o.imageInfoMap image).getD {})).mpr fun width arraySize hdims =>
        absurd (congrArg Dimensions.imageType hdims) hkind.2
    refine ⟨_, rfl, hregion, (imageType_imageInfo ..).mpr hkind, ?_⟩
    rw [imageSize_eq hregion, elementSize_imageInfo]

theorem recordedWhole_volume :
    ∃ info, (addImage 64 (some ((Dimensions.image3D 4 3 2).answers 4 16 48 (0, 0))) {}).imageInfoMap
      64 = some info ∧ RecordedWhole (.image3D 4 3 2) 4 info :=
  (recordedWhole_iff (by decide) _ _ _ _ _ _).mpr (by decide)

/-- An array of three 1D images of four elements is recorded as one of 2D images, with 36. -/
theorem array_is_recorded_larger :
    ¬ ∃ info, (addImage 64 (some ((Dimensions.image1DArray 4 3).answers 4 16 16 (0, 0)))
      {}).imageInfoMap 64 = some info ∧ RecordedWhole (.image1DArray 4 3) 4 info := by
  rintro ⟨info, hinfo, hwhole⟩
  obtain rfl := Option.some.inj hinfo
  exact absurd hwhole.size (by decide)

/-! ## Injection -/

/-- An argument that is an image, and the file for it, if there is one. -/
structure ImageArg where
  memobj : Handle
  info : SImageInfo
  file : Option Bytes

namespace ImageArg

variable (arg : ImageArg)

def size : Nat := imageSize arg.info

/-- The file has the size of the image. -/
def Matches : Prop := ∃ bytes, arg.file = some bytes ∧ bytes.length = arg.size

/-- The file has another size. -/
def Mismatches : Prop := ∃ bytes, arg.file = some bytes ∧ bytes.length ≠ arg.size

/-- What should be written to the image. -/
def injected : Option Bytes := arg.file.filter fun bytes => bytes.length = arg.size

end ImageArg

/-- `transferBuf.resize(size)`, to a greater size. -/
def grow (transferBuf : Bytes) (size : Nat) : Bytes :=
  transferBuf ++ List.replicate (size - transferBuf.length) 0

/-- `is.read(transferBuf.data(), size)`: what the file has of these bytes. -/
def readInto (transferBuf bytes : Bytes) (size : Nat) : Bytes :=
  bytes.take size ++ transferBuf.drop (min size bytes.length)

/-- One round: the buffer behind it, and what is written to the image. A file of another size ends
up where the buffer has room for the image. -/
def injectImage (transferBuf : Bytes) (arg : ImageArg) : Bytes × Option Bytes :=
  match arg.file with
  | none => (transferBuf, none)
  | some bytes =>
    let transferBuf :=
      if arg.size ≠ bytes.length then transferBuf
      else if transferBuf.length < arg.size then grow transferBuf arg.size
      else transferBuf
    if arg.size ≤ transferBuf.length then
      let transferBuf := readInto transferBuf bytes arg.size
      (transferBuf, some (transferBuf.take arg.size))
    else (transferBuf, none)

/-- The loop: what is written to each image. -/
def injectImages : Bytes → List ImageArg → List (Option Bytes)
  | _, [] => []
  | transferBuf, arg :: args =>
    (injectImage transferBuf arg).2 :: injectImages (injectImage transferBuf arg).1 args

/-- **What the injection must do**: write the files that have the size of their image. -/
def InjectsExactly (args : List ImageArg) : Prop :=
  injectImages [] args = args.map ImageArg.injected

/-- No file of another size stands behind one that makes room for its image. -/
def NoRoom (args : List ImageArg) : Prop :=
  ∀ front arg back, args = front ++ arg :: back → arg.Mismatches →
    arg.size ≠ 0 ∧ ∀ earlier ∈ front, earlier.Matches → earlier.size < arg.size

/-! ### One round -/

/-- Reading a file into the buffer does not change its length. -/
theorem length_readInto {transferBuf bytes : Bytes} {size : Nat} (h : size ≤ transferBuf.length) :
    (readInto transferBuf bytes size).length = transferBuf.length := by
  simp [readInto]
  omega

/-- The buffer grows to the size, if it is smaller. -/
theorem length_grow (transferBuf : Bytes) (size : Nat) :
    (grow transferBuf size).length = max transferBuf.length size := by
  simp [grow]
  omega

/-- A file of the right size is written as it is, and the buffer is large enough then. -/
theorem injectImage_of_matches {arg : ImageArg} (h : arg.Matches) (transferBuf : Bytes) :
    (injectImage transferBuf arg).1.length = max transferBuf.length arg.size ∧
      (injectImage transferBuf arg).2 = arg.injected := by
  obtain ⟨bytes, hfile, hsize⟩ := h
  have hroom : (if transferBuf.length < arg.size then grow transferBuf arg.size
      else transferBuf).length = max transferBuf.length arg.size := by
    split
    · exact length_grow transferBuf arg.size
    · omega
  simp only [injectImage, hfile, hsize, ne_eq, not_true_eq_false, if_false, hroom,
    Nat.le_max_right, if_true]
  refine ⟨by rw [length_readInto (by omega), hroom], ?_⟩
  have hbytes : bytes.take arg.size = bytes := List.take_of_length_le (Nat.le_of_eq hsize)
  rw [readInto, hbytes, ← hsize, List.take_left, ImageArg.injected, hfile, Option.filter_some,
    if_pos (decide_eq_true hsize)]

/-- A file of another size leaves the buffer as large as it was, and is written if that is enough. -/
theorem injectImage_of_mismatches {arg : ImageArg} (h : arg.Mismatches) (transferBuf : Bytes) :
    (injectImage transferBuf arg).1.length = transferBuf.length ∧
      ((injectImage transferBuf arg).2 = arg.injected ↔ transferBuf.length < arg.size) := by
  obtain ⟨bytes, hfile, hsize⟩ := h
  have hinjected : arg.injected = none := by
    rw [ImageArg.injected, hfile, Option.filter_some, if_neg (by simpa using hsize)]
  simp only [injectImage, hfile, ne_eq, hsize.symm, not_false_eq_true, if_true, hinjected]
  split
  · next hroom => exact ⟨length_readInto hroom, iff_of_false nofun (Nat.not_lt.mpr hroom)⟩
  · next hroom => exact ⟨rfl, iff_of_true rfl (Nat.lt_of_not_le hroom)⟩

/-- Without a file the image stays as it is, and so does the buffer. -/
theorem injectImage_of_none {arg : ImageArg} (h : arg.file = none) (transferBuf : Bytes) :
    injectImage transferBuf arg = (transferBuf, arg.injected) := by
  rw [injectImage, ImageArg.injected, h]
  rfl

/-- A file that is too short or too long does not match. -/
theorem not_matches_of_mismatches {arg : ImageArg} (h : arg.Mismatches) : ¬ arg.Matches := by
  rintro ⟨bytes, hfile, hsize⟩
  obtain ⟨bytes', hfile', hsize'⟩ := h
  rw [hfile] at hfile'
  exact hsize' (Option.some.inj hfile' ▸ hsize)

/-! ### All images of a kernel -/

/-- Each place in a list is its head or one in its tail. -/
theorem forall_place_cons {α : Type} {P : List α → α → Prop} {a : α} {as : List α} :
    (∀ front x back, a :: as = front ++ x :: back → P front x) ↔
      P [] a ∧ ∀ front x back, as = front ++ x :: back → P (a :: front) x := by
  constructor
  · intro h
    exact ⟨h [] a as rfl, fun front x back heq => h (a :: front) x back (by rw [heq]; rfl)⟩
  · rintro ⟨hhead, htail⟩ front x back heq
    cases front with
    | nil =>
      obtain ⟨rfl, -⟩ := List.cons.inj heq
      exact hhead
    | cons b front =>
      obtain ⟨rfl, hrest⟩ := List.cons.inj heq
      exact htail front x back hrest

/-- The loop from any buffer: its size counts like that of an earlier image. -/
theorem injectImages_eq_iff (args : List ImageArg) : ∀ transferBuf : Bytes,
    injectImages transferBuf args = args.map ImageArg.injected ↔
      ∀ front arg back, args = front ++ arg :: back → arg.Mismatches →
        transferBuf.length < arg.size ∧ ∀ earlier ∈ front, earlier.Matches → earlier.size < arg.size := by
  induction args with
  | nil => exact fun _ => iff_of_true rfl fun front arg back h => absurd h (by simp)
  | cons arg args ih =>
    intro transferBuf
    rw [injectImages, List.map_cons, List.cons.injEq, ih, forall_place_cons]
    cases hfile : arg.file with
    | none =>
      have hmatch : ¬ arg.Matches := fun ⟨_, h, _⟩ => nomatch hfile.symm.trans h
      have hmismatch : ¬ arg.Mismatches := fun ⟨_, h, _⟩ => nomatch hfile.symm.trans h
      rw [injectImage_of_none hfile]
      simp [hmatch, hmismatch]
    | some bytes =>
      by_cases hsize : bytes.length = arg.size
      · have hmatch : arg.Matches := ⟨bytes, hfile, hsize⟩
        have hmismatch : ¬ arg.Mismatches := fun h => not_matches_of_mismatches h hmatch
        obtain ⟨hlength, hwritten⟩ := injectImage_of_matches hmatch transferBuf
        rw [hlength]
        simp [hmatch, hmismatch, hwritten, and_assoc]
      · have hmismatch : arg.Mismatches := ⟨bytes, hfile, hsize⟩
        have hmatch := not_matches_of_mismatches hmismatch
        obtain ⟨hlength, hwritten⟩ := injectImage_of_mismatches hmismatch transferBuf
        rw [hlength, hwritten]
        simp [hmatch, hmismatch]

/-- **When the injection is right**: no file of another size finds room for its image. -/
theorem injectsExactly_iff (args : List ImageArg) : InjectsExactly args ↔ NoRoom args := by
  rw [InjectsExactly, injectImages_eq_iff]
  simp only [List.length_nil, Nat.pos_iff_ne_zero, NoRoom]

/-- An image of `n` bytes. -/
def row (n : Nat) : SImageInfo := { region := (n, 1, 1), elementSize := 1, imageType := .image2D }

/-- A file that is too short for the second image is written behind what is left of the first. -/
theorem short_file_is_injected : ¬ InjectsExactly
    [⟨64, row 3, some [1, 2, 3]⟩, ⟨72, row 2, some [9]⟩] := by
  unfold InjectsExactly
  decide

/-! ### The images of a session -/

section

variable (config : Config) (files : Files) (s : MemSession) (k : Nat)

/-- An argument of a kernel, if it is an image. -/
def imageArg (argIndex : Nat) : Option ImageArg :=
  (s.args.kernelArgMemMap (s.kernel k) argIndex).bind fun memInfo =>
    (s.objects.imageInfoMap memInfo.value).map fun info =>
      { memobj := memInfo.value, info := info,
        file := (openedFor config files s k .images argIndex).map (·.2) }

/-- The buffer when the images of the first arguments are done. -/
def transferBuf (argIndex : Nat) : Bytes :=
  ((List.range argIndex).filterMap (imageArg config files s k)).foldl
    (fun transferBuf arg => (injectImage transferBuf arg).1) []

end

variable {config : Config} {files : Files} {s : MemSession} {k : Nat}

theorem target_eq_none_of_imageArg {argIndex : Nat} (h : imageArg config files s k argIndex = none) :
    target s k .images argIndex = none := by
  unfold imageArg at h
  unfold target
  cases hmem : s.args.kernelArgMemMap (s.kernel k) argIndex with
  | none => rfl
  | some memInfo =>
    rw [hmem, Option.bind_some, Option.map_eq_none_iff] at h
    rw [Option.bind_some, Half.tracked, h]
    rfl

/-- An image argument is a target of its size, with the file that is opened for it. -/
theorem target_of_imageArg {argIndex : Nat} {arg : ImageArg}
    (h : imageArg config files s k argIndex = some arg) :
    (target s k .images argIndex).map (·.size) = some arg.size ∧
      arg.file = (openedFor config files s k .images argIndex).map (·.2) := by
  unfold imageArg at h
  unfold target
  obtain ⟨memInfo, hmem, h⟩ := Option.bind_eq_some_iff.mp h
  obtain ⟨info, hinfo, rfl⟩ := Option.map_eq_some_iff.mp h
  rw [hmem, Option.bind_some, Half.tracked, hinfo]
  exact ⟨rfl, rfl⟩

/-- **The session counts the room in the buffer right.** -/
theorem length_transferBuf (argIndex : Nat) :
    (transferBuf config files s k argIndex).length =
      transferBufSize config files s k .images argIndex := by
  induction argIndex with
  | zero => rfl
  | succ argIndex ih =>
    unfold transferBuf at ih ⊢
    rw [List.range_succ, List.filterMap_append, List.foldl_append, transferBufSize]
    cases harg : imageArg config files s k argIndex with
    | none =>
      rw [target_eq_none_of_imageArg harg]
      simpa [harg] using ih
    | some arg =>
      obtain ⟨hsize, hfile⟩ := target_of_imageArg harg
      obtain ⟨t, ht, hsize⟩ := Option.map_eq_some_iff.mp hsize
      simp only [List.filterMap_cons, harg, List.filterMap_nil, List.foldl_cons, List.foldl_nil, ht]
      cases hopened : openedFor config files s k .images argIndex with
      | none =>
        rw [hopened] at hfile
        rw [injectImage_of_none hfile]
        exact ih
      | some file =>
        rw [hopened] at hfile
        dsimp only
        split
        · next hmatch =>
          rw [(injectImage_of_matches ⟨file.2, hfile, hmatch.trans hsize⟩ _).1, ih, hsize]
        · next hmismatch =>
          rw [(injectImage_of_mismatches ⟨file.2, hfile, fun h => hmismatch (h.trans hsize.symm)⟩ _).1,
            ih]

/-- What it knows of what is written is the part that comes from the file. -/
theorem written_injectImage {arg : ImageArg} {bytes : Bytes} (hfile : arg.file = some bytes)
    (transferBuf : Bytes) :
    (injectImage transferBuf arg).2.map (·.take bytes.length) =
      Half.written arg.size transferBuf.length bytes .images := by
  by_cases hsize : bytes.length = arg.size
  · have hmatch : arg.Matches := ⟨bytes, hfile, hsize⟩
    rw [(injectImage_of_matches hmatch transferBuf).2, ImageArg.injected, hfile,
      Option.filter_some, if_pos (decide_eq_true hsize), Half.written, if_pos (.inl hsize), hsize]
    rfl
  · simp only [injectImage, hfile, ne_eq, Ne.symm hsize, not_false_eq_true, if_true, Half.written,
      hsize, false_or]
    split
    · have hlength : (bytes.take arg.size).length = min bytes.length arg.size := by
        rw [List.length_take, Nat.min_comm]
      rw [Option.map_some, List.take_take, readInto, List.take_left' hlength]
    · rfl

end CLIntercept.Dump.Memory
