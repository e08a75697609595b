import CLIntercept.Dump.Source
import CLIntercept.Timing.KernelNames
import CLIntercept.Track.Allocations
import CLIntercept.Track.KernelArgs

/-!
# Dumping and injecting buffers and images

Before a kernel is enqueued the layer may write the memory of its arguments to files, and a later
run may look for these files and write them to the arguments. Both sides name a file by the enqueue
counter, the kernel, the argument index and the number that the memory was given when the layer
began to track it. Buffers, images and SVM and USM allocations take their numbers from one counter,
each only if the controls ask for its kind.

This module is the code of both sides, in a system of the calls that it depends on, and what is
asked of two runs of the same calls.
-/

set_option autoImplicit false

namespace CLIntercept.Dump.Memory

open CLIntercept.Lib CLIntercept.Track CLIntercept.Timing

/-! ## Names -/

/-- What a file is named by: the low half of the enqueue counter and, for an image, the region and
the bits of an element. -/
structure FileKey where
  enqueue : UInt32
  kernelName : String
  argIndex : Nat
  memAllocNumber : Nat
  shape : Option (Nat × Nat × Nat × Nat)
  deriving DecidableEq, Repr

/-- `Buffer_<number>.bin`, `Image_<number>_<width>x<height>x<depth>_<bits>bpp.raw`. -/
def shapeFields (memAllocNumber : Nat) : Option (Nat × Nat × Nat × Nat) → List String
  | none => ["Buffer", number 10 4 memAllocNumber ++ ".bin"]
  | some (width, height, depth, bits) =>
    ["Image", number 10 4 memAllocNumber,
      "x".intercalate ([width, height, depth].map (number 10 1)),
      number 10 1 bits ++ "bpp.raw"]

def FileKey.name (k : FileKey) : String :=
  "_".intercalate (["Enqueue", number 10 4 k.enqueue.toNat, "Kernel"] ++ [k.kernelName] ++
    (["Arg", number 10 1 k.argIndex] ++ shapeFields k.memAllocNumber k.shape))

/-- Where a copy of a file is put to be injected. -/
def FileKey.copy (k : FileKey) : String := "/Inject/" ++ k.name

/-- `DumpBufferHashes` and `DumpImageHashes`: the hash in the place of the bytes. -/
def hashLine (bytes : Bytes) : Bytes :=
  (number 16 1 (computeHash (some bytes)).toNat).toList.map
    (fun c => UInt8.ofNat c.toLower.toNat) ++ [10]

/-! ## The objects and what is bound -/

/-- What the layer numbers. -/
inductive MemKind where
  | buffer
  | image
  | allocation (kind : Allocations.Kind)
  deriving DecidableEq, Repr

/-- `ADD_BUFFER`, `ADD_IMAGE`, `ADD_SVM_ALLOCATION` and `ADD_USM_ALLOCATION`. -/
def MemKind.tracked (config : Config) : MemKind → Bool
  | buffer => config.tracksBuffers
  | image => config.tracksImages
  | allocation _ => config.tracksAllocations

/-- A creation by the application: what the driver answered, whether the queries that the layer
makes then succeeded, and whether the object lives. -/
structure Created where
  kind : MemKind
  handle : Handle
  queried : Bool
  live : Bool
  deriving DecidableEq, Repr

/-- The creation takes a number. -/
def Created.numbered (config : Config) (c : Created) : Bool :=
  c.kind.tracked config && c.handle ≠ null && c.queried

/-- The kind, and whether the driver created the object and answered the queries. -/
def Created.outcome (c : Created) : MemKind × Bool := (c.kind, c.handle ≠ null && c.queried)

/-- The layer's maps, the enqueue counter, what was created in its order, the kernels, the argument
indices that were ever set, and the object that the driver has bound to a kernel's argument. -/
structure MemSession where
  objects : Objects := {}
  args : KernelArgs := {}
  names : KernelNames := {}
  enqueueCounter : UInt64 := 0
  created : List Created := []
  kernels : List Handle := []
  argIndices : List Nat := []
  bound : Nat → Nat → Option Nat := fun _ _ => none

namespace MemSession

variable (s : MemSession)

def handle (object : Nat) : Handle := (s.created[object]?.map (·.handle)).getD null

def kernel (k : Nat) : Handle := s.kernels[k]?.getD null

def Live (object : Nat) : Prop := ∃ c, s.created[object]? = some c ∧ c.live = true

def LiveOf (kind : MemKind) (object : Nat) : Prop :=
  ∃ c, s.created[object]? = some c ∧ c.live = true ∧ c.kind = kind

/-- The creations before one that took a number. -/
def numberedBefore (config : Config) (object : Nat) : Nat :=
  (s.created.take object).countP (·.numbered config)

end MemSession

def kill (object : Nat) (created : List Created) : List Created :=
  created.modify object fun c => { c with live := false }

/-! ## Dumping and injecting before an enqueue -/

/-- The two pairs of functions. -/
inductive Half where
  | buffers
  | images
  deriving DecidableEq, Repr

/-- The size of what an argument is tracked as: a USM allocation, else an SVM allocation, else a
buffer. -/
def bufferSize (o : Objects) (value : Nat) : Option Nat :=
  (o.usmAllocInfoMap.get? value).or ((o.svmAllocInfoMap.get? value).or (o.bufferInfoMap value))

def imageShape (info : SImageInfo) : Nat × Nat × Nat × Nat :=
  (info.region.1, info.region.2.1, info.region.2.2, info.elementSize * 8 % sizeModulus)

def imageSize (info : SImageInfo) : Nat :=
  info.region.1 * info.region.2.1 * info.region.2.2 * info.elementSize % sizeModulus

/-- The memory that is dumped and injected for an argument. -/
structure Target where
  handle : Handle
  memAllocNumber : Nat
  shape : Option (Nat × Nat × Nat × Nat)
  size : Nat
  deriving DecidableEq, Repr

/-- `operator[]` of the number map: 0 where there is none. -/
def memAllocNumber (o : Objects) (value : Nat) : Nat := (o.memAllocNumberMap value).getD 0

def Half.tracked (o : Objects) (value : Nat) : Half → Option Target
  | buffers => (bufferSize o value).map fun size =>
    { handle := value, memAllocNumber := memAllocNumber o value, shape := none, size := size }
  | images => (o.imageInfoMap value).map fun info =>
    { handle := value, memAllocNumber := memAllocNumber o value, shape := some (imageShape info),
      size := imageSize info }

/-- What the driver answers: the handle of what is created, to the queries that follow, to the
reference count query of a release, whether it takes an argument, whether a capture for replay
begins, the memory that it reads of an argument, and whether it takes what is injected there. -/
structure MemAnswer where
  handle : Handle := null
  size : Option Nat := none
  image : Option ImageAnswers := none
  refCount : Nat := 0
  accepted : Bool := true
  captures : Bool := false
  contents : Half → Nat → Option Bytes := fun _ _ => none
  takes : Half → Nat → Bool := fun _ _ => true

section

variable (config : Config) (files : Files) (s : MemSession) (k : Nat)

def realKernelName : String :=
  ((s.names.programs.kernelInfoMap (s.kernel k)).getD {}).kernelName

/-- `checkDumpBufferEnqueueLimits` and `checkDumpBuffersForKernel`, and those for images. They look
at the long name of the kernel. -/
def Half.chosen : Half → Bool
  | buffers => config.dumpBuffersMinEnqueue.toUInt64 ≤ s.enqueueCounter &&
      s.enqueueCounter ≤ config.dumpBuffersMaxEnqueue.toUInt64 &&
      (config.dumpBuffersForKernel = "" || realKernelName s k = config.dumpBuffersForKernel)
  | images => config.dumpImagesMinEnqueue.toUInt64 ≤ s.enqueueCounter &&
      s.enqueueCounter ≤ config.dumpImagesMaxEnqueue.toUInt64 &&
      (config.dumpImagesForKernel = "" || realKernelName s k = config.dumpImagesForKernel)

def Half.dumps (config : Config) : Half → Bool
  | buffers => config.dumpBuffersBeforeEnqueue
  | images => config.dumpImagesBeforeEnqueue

def Half.dumpsAfter (config : Config) : Half → Bool
  | buffers => config.dumpBuffersAfterEnqueue
  | images => config.dumpImagesAfterEnqueue

def Half.injects (config : Config) : Half → Bool
  | buffers => config.injectBuffers
  | images => config.injectImages

def Half.hashes (config : Config) : Half → Bool
  | buffers => config.dumpBufferHashes
  | images => config.dumpImageHashes

variable (h : Half)

/-- What the layer finds for an argument of a kernel. -/
def target (argIndex : Nat) : Option Target :=
  (s.args.kernelArgMemMap (s.kernel k) argIndex).bind fun memInfo =>
    h.tracked s.objects memInfo.value

/-- The name of its file. -/
def fileKey (argIndex : Nat) : Option FileKey :=
  (target s k h argIndex).map fun t =>
    { enqueue := s.enqueueCounter.toUInt32, kernelName := getShortKernelName s.names (s.kernel k),
      argIndex := argIndex, memAllocNumber := t.memAllocNumber, shape := t.shape }

/-- The file that `dumpBuffersForKernel` or `dumpImagesForKernel` writes for an argument. -/
def dumpedFor (answer : MemAnswer) (argIndex : Nat) : Option (FileKey × Bytes) :=
  if h.dumps config && h.chosen config s k then
    (fileKey s k h argIndex).bind fun key =>
      (answer.contents h argIndex).map fun bytes =>
        (key, if h.hashes config then hashLine bytes else bytes)
  else none

/-- The file that `injectBuffersForKernel` or `injectImagesForKernel` opens for an argument. -/
def openedFor (argIndex : Nat) : Option (String × Bytes) :=
  if h.injects config then
    (fileKey s k h argIndex).bind fun key => (files key.copy).map (key.copy, ·)
  else none

/-- The size of `transferBuf` when the images of the first arguments are done. It grows for files of
the image's size only, and is not made smaller. -/
def transferBufSize : Nat → Nat
  | 0 => 0
  | argIndex + 1 =>
    match target s k h argIndex, openedFor config files s k h argIndex with
    | some t, some (_, bytes) =>
      if bytes.length = t.size then max (transferBufSize argIndex) t.size
      else transferBufSize argIndex
    | _, _ => transferBufSize argIndex

/-- What is written of a file. A buffer may be larger than the file. An image should be of the
file's size, but is written too where an earlier one has made room for it. -/
def Half.written (size transferBufSize : Nat) (bytes : Bytes) : Half → Option Bytes
  | buffers => if size < bytes.length then none else some bytes
  | images => if bytes.length = size ∨ size ≤ transferBufSize then some (bytes.take size) else none

/-- The memory that is written for an argument, and the bytes. -/
def writtenFor (answer : MemAnswer) (argIndex : Nat) : Option (Handle × Bytes) :=
  (target s k h argIndex).bind fun t =>
    (openedFor config files s k h argIndex).bind fun file =>
      if answer.takes h argIndex then
        (h.written t.size (transferBufSize config files s k h argIndex) file.2).map (t.handle, ·)
      else none

/-- Whether an enqueue goes through the arguments for one of its dumps, or to inject. -/
def Half.looks (answer : MemAnswer) : Bool :=
  (config.captureReplay && answer.captures) || h.injects config ||
    ((h.dumps config || h.dumpsAfter config) && h.chosen config s k)

/-- `operator[]` gives the number 0 to what is tracked and has none. -/
def touch (answer : MemAnswer) (o : Objects) : Objects :=
  if h.looks config s k answer then
    { o with
      memAllocNumberMap := fun value =>
        if (s.argIndices.any fun argIndex =>
            (s.args.kernelArgMemMap (s.kernel k) argIndex).map (·.value) = some value) &&
          (h.tracked o value).isSome then some (memAllocNumber o value)
        else o.memAllocNumberMap value }
  else o

end

/-! ## The application's calls -/

/-- What an argument is set to. Objects are named by the number of creations before their own. -/
inductive Argument where
  | object (object : Nat)
  | bytes (argValue : Bytes)
  | null (argSize : Nat)
  deriving DecidableEq, Repr

/-- A pointer into an allocation, or any other. -/
inductive PointerArgument where
  | into (object offset : Nat)
  | address (ptr : Nat)
  deriving DecidableEq, Repr

/-- The calls. Kernels are named like objects. -/
inductive MemCall where
  | createBuffer
  | createImage
  | allocate (kind : Allocations.Kind) (size : Nat)
  | clReleaseMemObject (object : Nat)
  | free (kind : Allocations.Kind) (object : Nat)
  | clEnqueueSVMFree (objects : List Nat)
  | clCreateKernel (kernelName : String)
  | clCloneKernel (kernel : Nat)
  | clReleaseKernel (kernel : Nat)
  | clSetKernelArg (kernel argIndex : Nat) (value : Argument)
  | setKernelArgPointer (kind : Allocations.Kind) (kernel argIndex : Nat) (value : PointerArgument)
  | clEnqueueNDRangeKernel (kernel : Nat)
  | enqueue
  deriving DecidableEq, Repr

section

variable (s : MemSession)

def Argument.argValue : Argument → ArgValue
  | .object k => .bytes (pointerBytes (s.handle k))
  | .bytes argValue => .bytes argValue
  | .null argSize => .null argSize

def Argument.bound : Argument → Option Nat
  | .object k => some k
  | _ => none

def PointerArgument.ptr : PointerArgument → Nat
  | .into k offset => s.handle k + offset
  | .address ptr => ptr

def PointerArgument.bound : PointerArgument → Option Nat
  | .into k _ => some k
  | .address _ => none

/-- A creation, after `objects` have been told of it. -/
def MemSession.create (kind : MemKind) (answer : MemAnswer) (queried : Bool) (objects : Objects) :
    MemSession :=
  { s with
    objects := objects
    created := s.created ++ [⟨kind, answer.handle, queried, answer.handle ≠ CLIntercept.null⟩] }

/-- A setter call. The driver may refuse the argument after the layer has recorded it. -/
def MemSession.bind (k argIndex : Nat) (object : Option Nat) (accepted : Bool) (args : KernelArgs) :
    MemSession :=
  { s with
    args := args
    argIndices := argIndex :: s.argIndices
    bound := if accepted then
        Function.update s.bound k (Function.update (s.bound k) argIndex object)
      else s.bound }

end

def memStep (demangle : String → String) (config : Config) (s : MemSession)
    (call : MemCall × MemAnswer) : MemSession :=
  let answer := call.2
  match call.1 with
  | .createBuffer =>
    s.create .buffer answer answer.size.isSome
      (if config.tracksBuffers then addBuffer answer.handle answer.size s.objects else s.objects)
  | .createImage =>
    s.create .image answer answer.image.isSome
      (if config.tracksImages then addImage answer.handle answer.image s.objects else s.objects)
  | .allocate kind size =>
    s.create (.allocation kind) answer true
      (Allocations.addAllocation config kind answer.handle size s.objects)
  | .clReleaseMemObject object =>
    { s with
      objects := if config.removesMemObjs && s.handle object ≠ null then
          checkRemoveMemObj (s.handle object) answer.refCount s.objects
        else s.objects
      created := if answer.refCount = 1 then kill object s.created else s.created }
  | .free kind object =>
    { s with
      objects := Allocations.removeAllocation config kind (s.handle object) s.objects
      created := kill object s.created }
  | .clEnqueueSVMFree objects =>
    { s with
      objects := Allocations.clEnqueueSVMFree (objects.map s.handle) s.objects
      created := if answer.accepted then
          objects.foldl (fun created object => kill object created) s.created
        else s.created
      enqueueCounter := s.enqueueCounter + 1 }
  | .clCreateKernel kernelName =>
    { s with
      names := if answer.handle ≠ null then
          registerKernel demangle config answer.handle null kernelName s.names
        else s.names
      kernels := s.kernels ++ [answer.handle] }
  | .clCloneKernel k =>
    { s with
      names := if answer.handle ≠ null then
          { s.names with
            programs := addKernelInfoClone answer.handle (s.kernel k) s.names.programs }
        else s.names
      kernels := s.kernels ++ [answer.handle]
      bound := Function.update s.bound s.kernels.length (s.bound k) }
  | .clReleaseKernel k =>
    { s with
      names := { s.names with
        programs := checkRemoveKernelInfo (s.kernel k) answer.refCount s.names.programs } }
  | .clSetKernelArg k argIndex value =>
    s.bind k argIndex value.bound answer.accepted
      (if config.setsKernelArg then
        setKernelArg (s.kernel k) argIndex (value.argValue s) s.objects s.args
      else s.args)
  | .setKernelArgPointer kind k argIndex value =>
    s.bind k argIndex value.bound answer.accepted
      (if config.setsKernelArgPointer then
        setKernelArgPointer (Allocations.allocInfoMap s.objects kind) (s.kernel k) argIndex
          (value.ptr s) s.args
      else s.args)
  | .clEnqueueNDRangeKernel k =>
    { s with
      objects := touch config s k .images answer (touch config s k .buffers answer s.objects)
      enqueueCounter := s.enqueueCounter + 1 }
  | .enqueue => { s with enqueueCounter := s.enqueueCounter + 1 }

/-- The driver gives no live object's handle or base away, and frees what it is asked to. The
application releases and frees what lives, each with the function that it is for, and enqueues
kernels with arguments that live. -/
def memLegal (s : MemSession) (call : MemCall × MemAnswer) : Prop :=
  match call.1 with
  | .createBuffer | .createImage | .allocate _ _ =>
    call.2.handle ≠ null → ∀ object, s.Live object → s.handle object ≠ call.2.handle
  | .clReleaseMemObject object => s.LiveOf .buffer object ∨ s.LiveOf .image object
  | .free kind object => s.LiveOf (.allocation kind) object
  | .clEnqueueSVMFree objects => ∀ object ∈ objects, s.LiveOf (.allocation .svm) object
  | .clEnqueueNDRangeKernel k => ∀ argIndex object, s.bound k argIndex = some object → s.Live object
  | _ => True

def memSystem (demangle : String → String) (config : Config) :
    System MemSession (MemCall × MemAnswer) where
  step := memStep demangle config
  legal := memLegal

/-! ## Two runs -/

section

variable (demangle : String → String) (config : Config) (files : Files)
  (run : List (MemCall × MemAnswer)) (h : Half) (i argIndex : Nat)

/-- Before a call of a run. -/
def memSessionAt : MemSession := (memSystem demangle config).exec {} (run.take i)

/-- Something about an enqueue of a kernel. -/
def atEnqueue {α : Type} (f : MemSession → Nat → MemAnswer → Option α) : Option α :=
  run[i]?.bind fun call =>
    match call.1 with
    | .clEnqueueNDRangeKernel k => f (memSessionAt demangle config run i) k call.2
    | _ => none

def kernelNameAt : Option String :=
  atEnqueue demangle config run i fun s k _ => some (getShortKernelName s.names (s.kernel k))

def targetAt : Option Target :=
  atEnqueue demangle config run i fun s k _ => target s k h argIndex

def keyAt : Option FileKey :=
  atEnqueue demangle config run i fun s k _ => fileKey s k h argIndex

def dumpedAt : Option (FileKey × Bytes) :=
  atEnqueue demangle config run i fun s k answer => dumpedFor config s k h answer argIndex

def openedAt : Option (String × Bytes) :=
  atEnqueue demangle config run i fun s k _ => openedFor config files s k h argIndex

def writtenAt : Option (Handle × Bytes) :=
  atEnqueue demangle config run i fun s k answer => writtenFor config files s k h answer argIndex

/-- The driver takes what is injected for an argument. -/
def takesAt : Option Bool :=
  atEnqueue demangle config run i fun _ _ answer => some (answer.takes h argIndex)

/-- The object that is bound to an argument. -/
def boundAt : Option Nat := atEnqueue demangle config run i fun s k _ => s.bound k argIndex

/-- **A file is injected there**: it is opened for one argument of one enqueue and for no other, and
its bytes are written to what is bound to it. -/
structure InjectedThere (file : FileKey × Bytes) : Prop where
  opened : openedAt demangle config files run h i argIndex = some (file.1.copy, file.2)
  only : ∀ j argIndex',
    (openedAt demangle config files run h j argIndex').map Prod.fst = some file.1.copy →
      j = i ∧ argIndex' = argIndex
  written : ∃ object, boundAt demangle config run i argIndex = some object ∧
    writtenAt demangle config files run h i argIndex =
      some ((memSessionAt demangle config run i).handle object, file.2)

/-- The number of what is recorded under a handle: how many creations took one before the creation
of what lives there. What lives there without a number has that of what was there before, if any. -/
def MemSession.numberOf (s : MemSession) (value : Nat) : Nat :=
  match s.created.findIdx? fun c => c.live && c.numbered config && c.handle = value with
  | some object => s.numberedBefore config object % uintModulus
  | none => memAllocNumber s.objects value

/-- An earlier argument has a file of its image's size, which is large enough for this one too. -/
def RoomMade (size : Nat) : Prop :=
  ∃ earlier < argIndex, ∃ t key bytes, targetAt demangle config run h i earlier = some t ∧
    keyAt demangle config run h i earlier = some key ∧ files key.copy = some bytes ∧
    bytes.length = t.size ∧ size ≤ t.size

/-- The file fits: a buffer may be larger, and so may an image if room was made for it. -/
def Fits (size : Nat) (bytes : Bytes) : Prop :=
  match h with
  | .buffers => bytes.length ≤ size
  | .images => bytes.length = size ∨
      bytes.length ≤ size ∧ RoomMade demangle config files run .images i argIndex size

end

section

variable (demangle : String → String) (config₁ config₂ : Config) (files : Files)
  (run₁ run₂ : List (MemCall × MemAnswer)) (h : Half) (argIndex : Nat)

/-- What a first run has recorded of an argument before an enqueue, and a second one before another:
the kernels have one short name, and the memory has one number and one shape. -/
def SameMemory (i j : Nat) : Prop :=
  kernelNameAt demangle config₂ run₂ j = kernelNameAt demangle config₁ run₁ i ∧
  ∃ t₁ t₂, targetAt demangle config₁ run₁ h i argIndex = some t₁ ∧
    targetAt demangle config₂ run₂ h j argIndex = some t₂ ∧
    (memSessionAt demangle config₂ run₂ j).numberOf config₂ t₂.handle =
      (memSessionAt demangle config₁ run₁ i).numberOf config₁ t₁.handle ∧
    t₂.shape = t₁.shape

/-- **What it takes**: the second run has recorded the same memory for the argument, and no other
enqueue with the same counter, modulo 2^32, has it; what is recorded is what is bound; and the file
fits and is taken. -/
structure FoundAgain (i : Nat) (bytes : Bytes) : Prop where
  same : SameMemory demangle config₁ config₂ run₁ run₂ h argIndex i i
  only : ∀ j ≠ i, (memSessionAt demangle config₂ run₂ j).enqueueCounter.toUInt32 =
      (memSessionAt demangle config₂ run₂ i).enqueueCounter.toUInt32 →
    ¬SameMemory demangle config₁ config₂ run₁ run₂ h argIndex i j
  bound : ∃ t object, targetAt demangle config₂ run₂ h i argIndex = some t ∧
    boundAt demangle config₂ run₂ i argIndex = some object ∧
    t.handle = (memSessionAt demangle config₂ run₂ i).handle object ∧
    takesAt demangle config₂ run₂ h i argIndex = some true ∧
    Fits demangle config₂ files run₂ h i argIndex t.size bytes

end

/-- The control that injects is the only one that dumps or injects. -/
def Half.InjectsOnly (config : Config) : Half → Prop
  | buffers => config.injectBuffers = true ∧
    { config with injectBuffers := false }.dumpsOrInjects = false
  | images => config.injectImages = true ∧
    { config with injectImages := false }.dumpsOrInjects = false

/-- **What is asked of two runs of the same calls**: whatever the first one wrote, the second one
injects there. -/
def InjectsWhereDumped (h : Half) : Prop :=
  ∀ (demangle : String → String) (config₁ config₂ : Config) (files : Files)
    (run₁ run₂ : List (MemCall × MemAnswer)) (i argIndex : Nat) (file : FileKey × Bytes),
    (memSystem demangle config₁).Legal {} run₁ → (memSystem demangle config₂).Legal {} run₂ →
    run₂.map Prod.fst = run₁.map Prod.fst → h.InjectsOnly config₂ →
    dumpedAt demangle config₁ run₁ h i argIndex = some file → files file.1.copy = some file.2 →
      InjectedThere demangle config₂ files run₂ h i argIndex file

end CLIntercept.Dump.Memory
