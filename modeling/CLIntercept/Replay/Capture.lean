import CLIntercept.Dump.Memory
import CLIntercept.Replay.Session

/-!
# What a capture writes

For a captured launch the layer writes a directory of files: the sizes, the kernel's name, and for
each argument the files that its entries call for, with the memory before the launch under `Pre`.
The program and its build options are written beside them and are left out here.
-/

set_option autoImplicit false

namespace CLIntercept.Replay

open CLIntercept.Lib CLIntercept.Track CLIntercept.Timing CLIntercept.Dump.Memory

/-! ## Files -/

/-- What is in a file. -/
inductive Content
  | text (chars : List Char)
  | binary (bytes : Bytes)
  deriving DecidableEq, Repr

/-- The files of a capture, by their paths in its directory. -/
abbrev Directory := List (String × Content)

/-- The values of `cl_mem_object_type`. -/
def imageTypeCode : ImageType → Nat
  | .unset => 0
  | .image1D => 0x10F4
  | .image1DArray => 0x10F5
  | .image2D => 0x10F1
  | .image2DArray => 0x10F3
  | .image3D => 0x10F2

/-! ## The launch -/

/-- What `clEnqueueNDRangeKernel` is called with, the name that the driver has for the kernel, those
that the layer has, and whether the driver lets the layer read the memory of an argument. -/
structure Launch where
  functionName : String
  names : KernelNames
  enqueueCounter : UInt64
  workDim : Nat
  globalOffset : Option (Fin workDim → Nat)
  globalSize : Option (Fin workDim → Nat)
  localSize : Option (Fin workDim → Nat)
  reads : Nat → Bool

def checkCaptureReplayEnqueueLimits (config : Config) (enqueueCounter : UInt64) : Bool :=
  config.captureReplayMinEnqueue.toUInt64 ≤ enqueueCounter &&
    enqueueCounter ≤ config.captureReplayMaxEnqueue.toUInt64

section

variable (kernel : Handle) (s : Session) (l : Launch)

/-- What is at an address, read as a buffer of this size or as an image. -/
def readMemory (live : Nat → Option Object) (h : Half) (t : Target) : Option Bytes :=
  match h, live t.handle with
  | .buffers, some (.buffer block) | .buffers, some (.allocation _ block) =>
    some (block.contents.take t.size)
  | .images, some (.image _ contents) => some contents
  | _, _ => none

/-- The layer as the functions that dump see it. -/
def launchSession : MemSession where
  objects := s.objects
  args := s.kernelArgs
  names := l.names
  enqueueCounter := l.enqueueCounter
  kernels := [kernel]

/-- The name of the kernel in all files. -/
def shortKernelName : String := getShortKernelName l.names kernel

/-- The file that `dumpBuffersForKernel` or `dumpImagesForKernel` writes for an argument. -/
def dumpedFile (h : Half) (argIndex : Nat) : Option (FileKey × Bytes) :=
  (fileKey (launchSession kernel s l) 0 h argIndex).bind fun key =>
    (target (launchSession kernel s l) 0 h argIndex).bind fun t =>
      if l.reads argIndex then (readMemory s.live h t).map (key, ·) else none

/-! ## The files of a launch -/

/-- Each with a blank behind it. -/
def printSizes (sizes : Option (Fin l.workDim → Nat)) : List Char :=
  (List.ofFn (sizes.getD fun _ => 0)).flatMap fun n => (number 10 1 n).toList ++ [' ']

/-- `worksizes.txt`: `NULL` is printed as zeros. -/
def printWorkSizes : List Char :=
  [printSizes l l.globalSize, printSizes l l.localSize, printSizes l l.globalOffset].flatMap
    (· ++ ['\n'])

/-- `dumpCaptureReplayKernelInfo` and the number of the enqueue. -/
def kernelInfoFiles : Directory :=
  [("enqueueNumber.txt", .text ((number 10 1 l.enqueueCounter.toNat).toList ++ ['\n'])),
    ("worksizes.txt", .text (printWorkSizes l)),
    ("kernelName.txt", .text (shortKernelName kernel l).toList)]

/-- A line for each number, and the type without one. -/
def printMetadata (info : SImageInfo) : List Char :=
  ([info.region.1, info.region.2.1, info.region.2.2, info.elementSize, info.rowPitch,
    info.slicePitch, info.format.2, info.format.1].flatMap
      fun n => (number 10 1 n).toList ++ ['\n']) ++
    (number 10 1 (imageTypeCode info.imageType)).toList

/-- A file with the index of its argument in its name. -/
def argFile (stem : String) (argIndex : Nat) (suffix : String) (content : Content) :
    String × Content :=
  (stem ++ number 10 1 argIndex ++ suffix, content)

def argumentFile (argIndex : Nat) (value : Bytes) : String × Content :=
  argFile "Argument" argIndex ".bin" (.binary value)

def localFile (argIndex size : Nat) : String × Content :=
  argFile "Local" argIndex ".txt" (.text (number 10 1 size).toList)

def memFile (argIndex : Nat) (memInfo : SMemInfo) : String × Content :=
  match s.objects.imageInfoMap memInfo.value with
  | some info => argFile "Image_MetaData_" argIndex ".txt" (.text (printMetadata info))
  | none =>
    argFile "SVM_Arg_Offset_" argIndex ".txt"
      (.text ((number 10 1 memInfo.offset).toList ++ ['\n']))

def samplerFile (argIndex : Nat) (value : String) : String × Content :=
  argFile "Sampler" argIndex ".txt" (.text value.toList)

/-- `dumpCaptureReplayKernelArguments`: the four maps, one after the other. -/
def kernelArgumentFiles : Directory :=
  (s.argIndices.filterMap fun i => (s.kernelArgs.kernelArgDataMap kernel i).map (argumentFile i)) ++
  (s.argIndices.filterMap fun i =>
    (s.kernelArgs.kernelArgLocalSizeMap kernel i).map (localFile i)) ++
  (s.argIndices.filterMap fun i => (s.kernelArgs.kernelArgMemMap kernel i).map (memFile s i)) ++
  (s.argIndices.filterMap fun i => (s.kernelArgs.kernelArgSamplerMap kernel i).map (samplerFile i))

def dumpedFiles (h : Half) : Directory :=
  s.argIndices.filterMap fun i =>
    (dumpedFile kernel s l h i).map fun file => ("Pre/" ++ file.1.name, .binary file.2)

/-- **The files of a captured launch.** -/
def capture : Directory :=
  kernelInfoFiles kernel l ++ kernelArgumentFiles kernel s ++ dumpedFiles kernel s l .buffers ++
    dumpedFiles kernel s l .images

end

end CLIntercept.Replay
