import CLIntercept.Lib.Text
import CLIntercept.Replay.Capture

/-!
# What the script launches

`run.py` reads a directory and launches a kernel. Its dictionaries are functions here, from the
list of what was put into them, the last last. A failed lookup or conversion ends the script, and is
`none`. The files that a pattern matches come in any order.
-/

set_option autoImplicit false

namespace CLIntercept.Replay

open CLIntercept.Lib CLIntercept.Track

/-! ## Files -/

/-- The order in which `glob` lists files. -/
structure Listing where
  order : Directory → Directory
  perm : ∀ files, (order files).Perm files

/-- The path under which a file is listed. -/
def path (file : String × Content) : List Char := ("./" ++ file.1).toList

/-- `glob` of a pattern with one star. -/
def Listing.glob (listing : Listing) (dir : Directory) (before after : String) : Directory :=
  listing.order (dir.filter fun file => globMatches before.toList after.toList (path file))

/-- `open(name).read()`. -/
def readText (dir : Directory) (name : String) : Option (List Char) :=
  match dir.find? (·.1 = name) with
  | some (_, .text chars) => some chars
  | _ => none

/-- A file that is open, read as text or as bytes. No file is opened in the other way. -/
def Content.chars : Content → Option (List Char)
  | .text chars => some chars
  | .binary _ => none

def Content.bytes : Content → Option Bytes
  | .text _ => none
  | .binary bytes => some bytes

/-- What a loop over files puts into a dictionary. -/
def indexed {α : Type} (index : List Char → Option Nat) (value : Content → Option α)
    (files : Directory) : Option (List (Nat × α)) :=
  files.mapM fun file =>
    (index (path file)).bind fun idx => (value file.2).map fun x => (idx, x)

/-! ## Arguments that are launched with -/

/-- What an argument is set to: a piece of memory is known by the bytes that its indices share. -/
inductive ReplayedArg
  | bytes (value : Bytes)
  | localMemory (size : Nat)
  | buffer (storage contents : Bytes)
  | svm (storage contents : Bytes) (offset : Nat)
  | image (format : Nat × Nat) (shape : List Nat) (contents : Bytes)
  | sampler (values : SamplerValues)
  deriving DecidableEq, Repr

/-- What is launched after which calls of `set_arg`, and the regions of the images that are read
back. -/
structure Replayed where
  kernelName : String
  globalSize : List Nat
  localSize : Option (List Nat)
  globalOffset : List Nat
  args : Nat → List ReplayedArg
  regions : Nat → Option (List Nat)

section

variable (dec : Decimals)

/-- `int(re.findall(r'\d+', name)[0])`. -/
def indexOf (name : List Char) : Option Nat := dec.firstNumber name

/-- The same from `_Arg_` on. -/
def indexFromArg (name : List Char) : Option Nat := dec.firstNumber (fromFirst "_Arg_".toList name)

/-- `int(lines[line])`. -/
def lineNumber (text : List Char) (line : Nat) : Option Nat :=
  (lines text)[line]?.bind dec.wholeNumber

/-- The format and the shape of an image. Arrays are read as if they were not any. -/
def getImageMetadata (dir : Directory) (idx : Nat) : Option ((Nat × Nat) × List Nat) := do
  let text ← readText dir ("Image_MetaData_" ++ number 10 1 idx ++ ".txt")
  let imageType ← lineNumber dec text 8
  let shape ←
    if imageType = imageTypeCode .image1D then [0].mapM (lineNumber dec text)
    else if imageType = imageTypeCode .image2D then [0, 1].mapM (lineNumber dec text)
    else [0, 1, 2].mapM (lineNumber dec text)
  let order ← lineNumber dec text 7
  let dataType ← lineNumber dec text 6
  return ((order, dataType), shape)

/-- The normalization is looked up, and not used. -/
def samplerFromString (samplerDescr : List Char) : SamplerValues where
  normalized := false
  addressing :=
    if "CLAMP_TO_EDGE".toList <:+: samplerDescr then .addressClampToEdge
    else if "CLAMP".toList <:+: samplerDescr then .addressClamp
    else if "MIRRORED_REPEAT".toList <:+: samplerDescr then .addressMirroredRepeat
    else if "REPEAT".toList <:+: samplerDescr then .addressRepeat
    else .addressNone
  filter := if "LINEAR".toList <:+: samplerDescr then .filterLinear else .filterNearest

/-- What is read of a directory. -/
structure Inputs where
  arguments : List (Nat × Bytes)
  svmArgOffsets : List (Nat × Nat)
  buffers : List (Nat × Bytes)
  images : List (Nat × Bytes)
  localSizes : List (Nat × Nat)
  samplers : List (Nat × SamplerValues)

/-- Each loop over files. -/
def readInputs (listing : Listing) (dir : Directory) : Option Inputs := do
  let number ← readText dir "enqueueNumber.txt"
  let number ← (lines number).head?
  let padded := String.ofList (number.leftpad 4 '0')
  let arguments ← indexed (indexOf dec) Content.bytes (listing.glob dir "./Argument" ".bin")
  let svmArgOffsets ← indexed (indexOf dec) (fun file => file.chars.bind dec.wholeNumber)
    (listing.glob dir "./SVM_Arg_Offset" ".txt")
  let buffers ← indexed (indexFromArg dec) Content.bytes
    (listing.glob dir ("./Pre/Enqueue_" ++ padded) ".bin")
  let images ← indexed (indexFromArg dec) Content.bytes
    (listing.glob dir ("./Pre/Enqueue_" ++ padded) ".raw")
  let localSizes ← indexed (indexOf dec) (fun file => file.chars.bind dec.wholeNumber)
    (listing.glob dir "./Local" ".txt")
  let samplers ← indexed (indexOf dec)
    (fun file => file.chars.map fun text => samplerFromString (text.takeWhile (· ≠ '\n')))
    (listing.glob dir "./Sampler" ".txt")
  return { arguments, svmArgOffsets, buffers, images, localSizes, samplers }

namespace Inputs

variable (inp : Inputs)

/-- Every lookup and every `del` finds its entry. -/
def Complete (useSvm : Bool) : Bool :=
  inp.buffers.all (fun item => (dict inp.arguments item.1).isSome) &&
  inp.images.all (fun item =>
    (dict inp.arguments item.1).isSome && (dict inp.buffers item.1).isNone) &&
  inp.samplers.all (fun item => (dict inp.arguments item.1).isSome &&
    (dict inp.buffers item.1).isNone && (dict inp.images item.1).isNone) &&
  (!useSvm || inp.buffers.all fun item => (dict inp.svmArgOffsets item.1).isSome)

/-- SVM is asked for, or forced by an offset. -/
def usesSvm (useSvm : Bool) : Bool := useSvm || inp.svmArgOffsets.any (·.2 ≠ 0)

/-- The first buffer of those that have the same bytes as an argument. -/
def firstAlias (idx : Nat) : Option Nat :=
  (inp.buffers.map (·.1)).find? fun other => dict inp.arguments other = dict inp.arguments idx

/-- The piece of memory that a buffer's argument is set to: it is made of the first alias. -/
def memoryArg (useSvm : Bool) (idx : Nat) : Option ReplayedArg := do
  let _ ← dict inp.buffers idx
  let first ← inp.firstAlias idx
  let contents ← dict inp.buffers first
  let storage ← dict inp.arguments idx
  if useSvm then
    let offset ← dict inp.svmArgOffsets idx
    return .svm storage contents offset
  else return .buffer storage contents

/-- What an argument is set to, one call of `set_arg` after the other. -/
def setArgs (useSvm : Bool) (images : List (Nat × (Nat × Nat) × List Nat)) (idx : Nat) :
    List ReplayedArg :=
  (if (dict inp.buffers idx).isSome || (dict inp.images idx).isSome ||
      (dict inp.samplers idx).isSome then none
    else (dict inp.arguments idx).map .bytes).toList ++
  (inp.memoryArg useSvm idx).toList ++
  ((dict images idx).bind fun image => (dict inp.images idx).map fun contents =>
    .image image.1 image.2 contents).toList ++
  ((dict inp.localSizes idx).map .localMemory).toList ++
  ((dict inp.samplers idx).map .sampler).toList

end Inputs

/-- The numbers of a line. -/
def readSizes (text : List Char) (line : Nat) : Option (List Nat) :=
  (lines text)[line]?.bind fun sizes => (words sizes).mapM dec.wholeNumber

/-- **`replay`**: the shape of the last image is the region of them all. -/
def replay (listing : Listing) (useSvm : Bool) (dir : Directory) : Option Replayed := do
  let inp ← readInputs dec listing dir
  let useSvm := inp.usesSvm useSvm
  if inp.Complete useSvm then
    let images ← inp.images.mapM fun item =>
      (getImageMetadata dec dir item.1).map fun metadata => (item.1, metadata)
    let kernelName ← readText dir "kernelName.txt"
    let worksizes ← readText dir "worksizes.txt"
    let gws ← readSizes dec worksizes 0
    let lws ← readSizes dec worksizes 1
    let gwo ← readSizes dec worksizes 2
    return {
      kernelName := String.ofList kernelName
      globalSize := gws
      localSize := if lws = [0] ∨ lws = [0, 0] ∨ lws = [0, 0, 0] then none else some lws
      globalOffset := gwo
      args := inp.setArgs useSvm images
      regions := fun idx =>
        if (dict images idx).isSome then images.getLast?.map (·.2.2) else none }
  else none

end

end CLIntercept.Replay
