import CLIntercept.Config
import CLIntercept.Override.Work
import Mathlib.Data.Int.Bitwise

/-!
# The overrides

`ReadBuffer`, `WriteBuffer`, `CopyBuffer`, the three for images and `NDRangeBuiltinKernel` stand in
for one command of the driver each. The source threads an `errorCode` through guarded steps; here a
`Call` is what it has done so far and `andThen` is the guard. What the driver answers to each of its
calls is an argument, so that a call can meet any failure at any step.

The row and slice pitches of the images only go to the driver and are left out.
-/

set_option autoImplicit false

namespace CLIntercept.Override

open CLIntercept.Lib.CommandQueue (Entry Event WellFormed)

/-! ## The driver -/

/-- The calls of the driver that an override makes, each at most once. `enqueueOriginal` is the
launch of `clEnqueueNDRangeKernel` that is made when the override does not do it. -/
inductive DriverCall
  | getCommandQueueInfo
  | createBuffer
  | createImage2D
  | createImage3D
  | getImageFormat
  | getSrcType
  | getDstType
  | getSrcFormat
  | getDstFormat
  | setKernelArg (index : Nat)
  | enqueueNDRangeKernel
  | enqueueOriginal
  | enqueueMap
  | enqueueUnmapMemObject
  | finish
  deriving DecidableEq, Repr

/-- What the driver answers, and the memory object it makes where it makes one. -/
structure Driver where
  answer : DriverCall → Int
  memObject : Handle
  memObject_ne : memObject ≠ null

/-- A command that the layer has enqueued, with whether its event is written to `*event`. -/
structure Command where
  work : Work
  waitList : List Event := []
  event : Bool := false
  blocking : Bool := false
  deriving DecidableEq, Repr

/-! ## A call in progress -/

/-- What a call has done. `temporary` is `dstBuffer`, `srcBuffer`, `dstImage` or `srcImage`, and
`released` what it has given to `clReleaseMemObject`. `iterations` is argument 6 of the override
kernel, as far as it was set. -/
structure Call where
  errorCode : Int := clSuccess
  commands : List Command := []
  finished : Bool := false
  temporary : Handle := null
  released : List Handle := []
  iterations : Option Int := none

/-- `if( errorCode == CL_SUCCESS )`. -/
def Call.andThen (c : Call) (f : Call → Call) : Call :=
  if c.errorCode = clSuccess then f c else c

/-- `errorCode = e`. -/
def Call.setError (e : Int) (c : Call) : Call := { c with errorCode := e }

/-- A query. -/
def Call.query (d : Driver) (call : DriverCall) (c : Call) : Call :=
  c.setError (d.answer call)

/-- `clCreateBuffer` and its kind: `NULL` where it fails. -/
def Call.create (d : Driver) (call : DriverCall) (c : Call) : Call :=
  { c with
    errorCode := d.answer call
    temporary := if d.answer call = clSuccess then d.memObject else null }

/-- `clEnqueue…`. -/
def Call.enqueue (d : Driver) (call : DriverCall) (command : Command) (c : Call) : Call :=
  { c with
    errorCode := d.answer call
    commands := if d.answer call = clSuccess then c.commands ++ [command] else c.commands }

/-- `errorCode |= dispatch().clSetKernelArg( … )`, of the first `n` arguments. -/
def Call.setKernelArgs (d : Driver) (n : Nat) (c : Call) : Call :=
  { c with
    errorCode := (List.range n).foldl (fun e i => Int.lor e (d.answer (.setKernelArg i)))
      c.errorCode }

/-- Argument 6 of the override kernel is set. -/
def Call.setIterations (n : Int) (c : Call) : Call := { c with iterations := some n }

/-- `clFinish`. -/
def Call.finish (d : Driver) (c : Call) : Call :=
  { c with
    errorCode := d.answer .finish
    finished := decide (d.answer .finish = clSuccess) }

/-- `clReleaseMemObject`, which is called whatever the error code is. -/
def Call.release (c : Call) : Call := { c with released := c.released ++ [c.temporary] }

/-! ## What all entry points share -/

/-- The overrides that the layer has made, by context. -/
structure Layer where
  config : Config
  precompiledKernelOverridesMap : Handle → Bool
  builtinKernelOverridesMap : Handle → Option Handle

/-- The queue of a call and what is in it already, and the wait list and the event that the
application gives. It can only wait for what is there. -/
structure Enqueue where
  context : Handle
  inOrder : Bool
  earlier : List Entry
  eventWaitList : List Event
  event : Bool
  wellFormed : WellFormed (earlier ++ [{ waitList := eventWaitList }])

/-- The launch that carries the wait list and the event. -/
def Enqueue.launch (q : Enqueue) (work : Work) : Command :=
  { work, waitList := q.eventWaitList, event := q.event }

/-! ## Buffers -/

/-- `alignSize`. -/
def alignSize : Nat := 4096

/-- Which kernel copies. The branch for `UInt16`s is disabled by `false &&`. -/
def copyBufferElement (config : Config) (srcOffset dstOffset : Nat) : Element :=
  if config.forceByteBufferOverrides = false ∧ srcOffset % 16 = 0 ∧ dstOffset % 16 = 0 then .uint4s
  else if config.forceByteBufferOverrides = false ∧ srcOffset % 4 = 0 ∧ dstOffset % 4 = 0 then .uints
  else .bytes

/-- The launch of a copy: offsets are in elements, and the global size is the number of elements,
"round up if we don't have an even multiple". -/
def copyBufferLaunch (element : Element) (srcBuffer dstBuffer : Buffer)
    (srcOffset dstOffset bytesToCopy : Nat) : BufferLaunch :=
  { element
    pSrc := srcBuffer
    pDst := dstBuffer
    srcOffset := toUInt (srcOffset / element.size)
    dstOffset := toUInt (dstOffset / element.size)
    bytesToRead := toUInt bytesToCopy
    globalWorkSize := evenMultiple
      (bytesToCopy / element.size + if bytesToCopy % element.size = 0 then 0 else 1) }

def copyBufferHelper (L : Layer) (d : Driver) (q : Enqueue) (srcBuffer dstBuffer : Buffer)
    (srcOffset dstOffset bytesToCopy : Nat) (c : Call) : Call :=
  let element := copyBufferElement L.config srcOffset dstOffset
  let launch := copyBufferLaunch element srcBuffer dstBuffer srcOffset dstOffset bytesToCopy
  (c.setError (if L.precompiledKernelOverridesMap q.context then clSuccess else clInvalidValue))
    |>.andThen (·.setKernelArgs d 5)
    |>.andThen (·.enqueue d .enqueueNDRangeKernel (q.launch (.copyBuffer launch)))

/-- The temporary buffer starts at the page of the pointer and ends with the data. -/
def temporaryBuffer (ptr bytes : Nat) : Buffer := ⟨(ptr % alignSize + bytes) % sizeModulus⟩

def readBuffer (L : Layer) (d : Driver) (q : Enqueue) (srcBuffer : Buffer) (blockingRead : Bool)
    (srcOffset bytesToRead dstPtr : Nat) : Call :=
  let dstBuffer := temporaryBuffer dstPtr bytesToRead
  (({} : Call).query d .getCommandQueueInfo)
    |>.andThen (·.create d .createBuffer)
    |>.andThen (copyBufferHelper L d q srcBuffer dstBuffer srcOffset (dstPtr % alignSize)
      bytesToRead)
    |>.andThen (·.enqueue d .enqueueMap { work := .map, blocking := blockingRead })
    |>.andThen (·.enqueue d .enqueueUnmapMemObject { work := .unmap })
    |>.release

def writeBuffer (L : Layer) (d : Driver) (q : Enqueue) (dstBuffer : Buffer) (blockingWrite : Bool)
    (dstOffset bytesToWrite srcPtr : Nat) : Call :=
  let srcBuffer := temporaryBuffer srcPtr bytesToWrite
  (({} : Call).query d .getCommandQueueInfo)
    |>.andThen (·.create d .createBuffer)
    |>.andThen (copyBufferHelper L d q srcBuffer dstBuffer (srcPtr % alignSize) dstOffset
      bytesToWrite)
    |>.andThen (fun c => if blockingWrite then c.finish d else c)
    |>.release

def copyBuffer (L : Layer) (d : Driver) (q : Enqueue) (srcBuffer dstBuffer : Buffer)
    (srcOffset dstOffset bytesToCopy : Nat) : Call :=
  (({} : Call).query d .getCommandQueueInfo)
    |>.andThen (copyBufferHelper L d q srcBuffer dstBuffer srcOffset dstOffset bytesToCopy)

/-! ## Images -/

/-- "Image formats must match", and what else is checked of a copy. A later check overwrites the
error of an earlier one. -/
def checkImages (srcType dstType : MemObjectType) (srcFormat dstFormat : ImageFormat)
    (srcOrigin dstOrigin region : Size3) : Int :=
  let errorCode := if srcFormat = dstFormat then clSuccess else clImageFormatMismatch
  let errorCode := match srcType with
    | .image2D => if srcOrigin.z ≠ 0 ∨ region.z ≠ 1 then clInvalidValue else errorCode
    | .image3D => errorCode
    | .other => clInvalidOperation
  match dstType with
    | .image2D => if dstOrigin.z ≠ 0 ∨ region.z ≠ 1 then clInvalidValue else errorCode
    | .image3D => errorCode
    | .other => clInvalidOperation

/-- "Float", "Int" and "UInt" images. -/
def ChannelType.colour? : ChannelType → Option Colour
  | .unormInt8 | .unormInt16 | .snormInt8 | .snormInt16 | .halfFloat | .float => some .float
  | .signedInt8 | .signedInt16 | .signedInt32 => some .int
  | .unsignedInt8 | .unsignedInt16 | .unsignedInt32 => some .uint
  | .other _ => none

/-- The kernel of a copy. There is none but from 2D to 2D. -/
def copyImageKernel (srcFormat : ImageFormat) (srcType dstType : MemObjectType) :
    Except Int Colour :=
  match srcFormat.imageChannelDataType.colour? with
  | some colour =>
    if srcType = .image2D ∧ dstType = .image2D then .ok colour else .error clInvalidOperation
  | none => .error clInvalidImageFormatDescriptor

/-- The launch of a copy. The global size is the region, rounded up in dimension 0. -/
def copyImageLaunch (colour : Colour) (srcImage dstImage : Image)
    (srcOrigin dstOrigin region : Size3) : ImageLaunch :=
  { colour, srcImage, dstImage
    srcOrigin := srcOrigin.toUInt
    dstOrigin := dstOrigin.toUInt
    region := region.toUInt
    globalWorkSize := { region with x := evenMultiple region.x } }

/-- The type of the destination is asked of `srcImage`, as the source has it. -/
def copyImageHelper (L : Layer) (d : Driver) (q : Enqueue) (srcImage dstImage : Image)
    (srcOrigin dstOrigin region : Size3) (c : Call) : Call :=
  let srcType := srcImage.type
  let dstType := srcImage.type
  (c.setError (if L.precompiledKernelOverridesMap q.context then clSuccess else clInvalidValue))
    |>.andThen (·.query d .getSrcType)
    |>.andThen (·.query d .getDstType)
    |>.andThen (·.query d .getSrcFormat)
    |>.andThen (·.query d .getDstFormat)
    |>.andThen (·.setError
      (checkImages srcType dstType srcImage.format dstImage.format srcOrigin dstOrigin region))
    |>.andThen fun c => match copyImageKernel srcImage.format srcType dstType with
      | .error e => c.setError e
      | .ok colour =>
        (c.setKernelArgs d 11).andThen (·.enqueue d .enqueueNDRangeKernel
          (q.launch (.copyImage
            (copyImageLaunch colour srcImage dstImage srcOrigin dstOrigin region))))

/-- "If `region[2]` is 1, then a 2D image will suffice". -/
def temporaryImage (format : ImageFormat) (region : Size3) : Image :=
  { type := if region.z = 1 then .image2D else .image3D
    format
    width := region.x
    height := region.y }

/-- The call that creates it. -/
def createImage (region : Size3) : DriverCall :=
  if region.z = 1 then .createImage2D else .createImage3D

def readImage (L : Layer) (d : Driver) (q : Enqueue) (srcImage : Image) (blockingRead : Bool)
    (srcOrigin region : Option Size3) : Call :=
  match srcOrigin, region with
  | some srcOrigin, some region =>
    (({} : Call).query d .getCommandQueueInfo)
      |>.andThen (·.query d .getImageFormat)
      |>.andThen (·.create d (createImage region))
      |>.andThen (copyImageHelper L d q srcImage (temporaryImage srcImage.format region) srcOrigin
        Size3.zero region)
      |>.andThen (·.enqueue d .enqueueMap { work := .map, blocking := blockingRead })
      |>.andThen (·.enqueue d .enqueueUnmapMemObject { work := .unmap })
      |>.release
  | _, _ => (({} : Call).setError clInvalidValue).release

def writeImage (L : Layer) (d : Driver) (q : Enqueue) (dstImage : Image) (blockingWrite : Bool)
    (dstOrigin region : Option Size3) : Call :=
  match dstOrigin, region with
  | some dstOrigin, some region =>
    (({} : Call).query d .getCommandQueueInfo)
      |>.andThen (·.query d .getImageFormat)
      |>.andThen (·.create d (createImage region))
      |>.andThen (copyImageHelper L d q (temporaryImage dstImage.format region) dstImage Size3.zero
        dstOrigin region)
      |>.andThen (fun c => if blockingWrite then c.finish d else c)
      |>.release
  | _, _ => (({} : Call).setError clInvalidValue).release

/-- The origins and the region are read without a check. -/
def copyImage (L : Layer) (d : Driver) (q : Enqueue) (srcImage dstImage : Image)
    (srcOrigin dstOrigin region : Size3) : Call :=
  (({} : Call).query d .getCommandQueueInfo)
    |>.andThen (copyImageHelper L d q srcImage dstImage srcOrigin dstOrigin region)

/-! ## Built-in kernels -/

/-- `( n + BLOCK_SIZE - 1 ) / BLOCK_SIZE`. -/
def blocks (n : Nat) : Nat := (n + blockSize - 1) % sizeModulus / blockSize

/-- The launch that takes the place of one over `global`: one work-group for each column. -/
def columnRange (r : NDRange) (global : Size3) : NDRange :=
  { workDim := 2
    globalWorkOffset := r.globalWorkOffset
    globalWorkSize := some ⟨blocks global.x * blockSize, 1, 1⟩
    localWorkSize := some ⟨blockSize, 1, 1⟩ }

/-- The launch is preceded by setting argument 6, which stays set if the launch fails. -/
def launchColumns (d : Driver) (q : Enqueue) (r : NDRange) (global : Size3) (c : Call) : Call :=
  let iterations := toInt (blocks global.y)
  let launch : BlockLaunch := ⟨columnRange r global, some iterations⟩
  (c.query d (.setKernelArg 6))
    |>.andThen fun c => (c.setIterations iterations).enqueue d .enqueueNDRangeKernel
      (q.launch (.estimateBlocks launch))

def ndRangeBuiltinKernel (L : Layer) (d : Driver) (q : Enqueue) (kernel : Handle) (r : NDRange)
    (c : Call) : Call :=
  (c.query d .getCommandQueueInfo)
    |>.andThen fun c => match L.builtinKernelOverridesMap q.context with
      | none => c.setError clInvalidValue
      | some override =>
        if kernel = override then
          match r.globalWorkSize with
          | some global =>
            if r.workDim = 2 ∧ r.localWorkSize = none then launchColumns d q r global c else c
          | none => c
        else c.setError clInvalidValue

/-- What the driver does with the launch that the application asked for. -/
def originalWork (L : Layer) (q : Enqueue) (kernel : Handle) (r : NDRange)
    (iterations : Option Int) : Work :=
  if L.builtinKernelOverridesMap q.context = some kernel then .estimateBlocks ⟨r, iterations⟩
  else .ndRange r

/-- `if( retVal != CL_SUCCESS )`, what the application asked for. -/
def launchOriginal (L : Layer) (d : Driver) (q : Enqueue) (kernel : Handle) (r : NDRange)
    (c : Call) : Call :=
  if c.errorCode ≠ clSuccess then
    c.enqueue d .enqueueOriginal (q.launch (originalWork L q kernel r c.iterations))
  else c

/-- The part of the entry point that launches. `iterations` is what argument 6 of the kernel was set
to before. -/
def clEnqueueNDRangeKernel (L : Layer) (d : Driver) (q : Enqueue) (kernel : Handle) (r : NDRange)
    (iterations : Option Int) : Call :=
  let c : Call := { errorCode := clInvalidOperation, iterations }
  launchOriginal L d q kernel r
    (if L.config.overrideBuiltinKernels then ndRangeBuiltinKernel L d q kernel r c else c)

/-! ## Requests -/

/-- What the application asks for. -/
inductive Request
  | readBuffer (srcBuffer : Buffer) (blockingRead : Bool) (srcOffset bytesToRead dstPtr : Nat)
  | writeBuffer (dstBuffer : Buffer) (blockingWrite : Bool) (dstOffset bytesToWrite srcPtr : Nat)
  | copyBuffer (srcBuffer dstBuffer : Buffer) (srcOffset dstOffset bytesToCopy : Nat)
  | readImage (srcImage : Image) (blockingRead : Bool) (srcOrigin region : Option Size3)
  | writeImage (dstImage : Image) (blockingWrite : Bool) (dstOrigin region : Option Size3)
  | copyImage (srcImage dstImage : Image) (srcOrigin dstOrigin region : Size3)
  | ndRangeKernel (kernel : Handle) (r : NDRange) (iterations : Option Int)

/-- **The call** that serves a request. -/
def Request.call (L : Layer) (d : Driver) (q : Enqueue) : Request → Call
  | .readBuffer src blocking srcOffset bytes ptr =>
    Override.readBuffer L d q src blocking srcOffset bytes ptr
  | .writeBuffer dst blocking dstOffset bytes ptr =>
    Override.writeBuffer L d q dst blocking dstOffset bytes ptr
  | .copyBuffer src dst srcOffset dstOffset bytes =>
    Override.copyBuffer L d q src dst srcOffset dstOffset bytes
  | .readImage src blocking srcOrigin region =>
    Override.readImage L d q src blocking srcOrigin region
  | .writeImage dst blocking dstOrigin region =>
    Override.writeImage L d q dst blocking dstOrigin region
  | .copyImage src dst srcOrigin dstOrigin region =>
    Override.copyImage L d q src dst srcOrigin dstOrigin region
  | .ndRangeKernel kernel r iterations => clEnqueueNDRangeKernel L d q kernel r iterations

end CLIntercept.Override
