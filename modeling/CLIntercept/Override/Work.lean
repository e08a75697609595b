import CLIntercept.Api
import CLIntercept.Lib.CommandQueue
import Mathlib.Algebra.Ring.Int.Defs

/-!
# The kernels of the overrides

What one launch of `precompiled_kernels.cl` or `builtin_kernels.cl` does, work item by work item. A
`Move` is a smallest piece of an operation: a byte of a buffer, a texel of an image, a block of the
motion estimation. The values of the texels and of the motion vectors are not looked at, only which
ones are computed from which and where they go.

An access outside a buffer is undefined, so it moves nothing. Reads of an image are clamped to its
edge and writes outside it are dropped, as the sampler and the language have it.
-/

set_option autoImplicit false

namespace CLIntercept.Override

/-! ## Arithmetic of the kernels -/

/-- `(cl_uint)`. -/
def toUInt (n : Nat) : Nat := n % uintModulus

/-- `(int)`, of an unsigned number. -/
def toInt (n : Nat) : Int :=
  if toUInt n < 2 ^ 31 then toUInt n else (toUInt n : Int) - uintModulus

/-- The local size of the copies, in dimension 0. -/
def localWorkSize : Nat := 32

/-- "Make sure global_work_size is an even multiple of local_work_size". -/
def evenMultiple (globalWorkSize : Nat) : Nat :=
  if globalWorkSize % localWorkSize = 0 then globalWorkSize
  else (globalWorkSize + (localWorkSize - globalWorkSize % localWorkSize)) % sizeModulus

/-- `const size_t[3]`. -/
structure Size3 where
  x : Nat
  y : Nat
  z : Nat
  deriving DecidableEq, Repr

def Size3.zero : Size3 := ⟨0, 0, 0⟩

def Size3.add (a b : Size3) : Size3 := ⟨a.x + b.x, a.y + b.y, a.z + b.z⟩

/-- Each entry as `cl_uint`. -/
def Size3.toUInt (a : Size3) : Size3 := ⟨Override.toUInt a.x, Override.toUInt a.y, Override.toUInt a.z⟩

/-! ## Memory objects -/

/-- `CL_MEM_TYPE`. -/
inductive MemObjectType
  | image2D
  | image3D
  | other
  deriving DecidableEq, Repr

/-- `image_channel_data_type`. -/
inductive ChannelType
  | snormInt8
  | snormInt16
  | unormInt8
  | unormInt16
  | signedInt8
  | signedInt16
  | signedInt32
  | unsignedInt8
  | unsignedInt16
  | unsignedInt32
  | halfFloat
  | float
  | other (value : Nat)
  deriving DecidableEq, Repr

/-- `cl_image_format`. -/
structure ImageFormat where
  imageChannelOrder : Nat
  imageChannelDataType : ChannelType
  deriving DecidableEq, Repr

/-- An image, as its queries answer. -/
structure Image where
  type : MemObjectType
  format : ImageFormat
  width : Nat
  height : Nat
  deriving DecidableEq, Repr

/-- A buffer. -/
structure Buffer where
  size : Nat
  deriving DecidableEq, Repr

/-! ## Moves -/

/-- What `clEnqueueNDRangeKernel` is given. Of each array the first `workDim` entries count. -/
structure NDRange where
  workDim : Nat
  globalWorkOffset : Option Size3
  globalWorkSize : Option Size3
  localWorkSize : Option Size3
  deriving DecidableEq, Repr

/-- A piece of an operation. A `range` is the launch of a kernel of the application, as one piece. -/
inductive Move
  | byte (src dst : Nat)
  | texel (src dst : Size3)
  | block (x y : Int)
  | range (r : NDRange)
  deriving DecidableEq, Repr

/-! ## `CopyBufferBytes`, `CopyBufferUInts`, `CopyBufferUInt4s` -/

/-- The element of a buffer kernel. -/
inductive Element
  | bytes
  | uints
  | uint4s
  deriving DecidableEq, Repr

/-- Its `sizeof`. -/
def Element.size : Element → Nat
  | .bytes => 1
  | .uints => 4
  | .uint4s => 16

/-- A launch of a buffer kernel: its arguments and its global size. -/
structure BufferLaunch where
  element : Element
  pSrc : Buffer
  pDst : Buffer
  srcOffset : Nat
  dstOffset : Nat
  bytesToRead : Nat
  globalWorkSize : Nat
  deriving DecidableEq, Repr

/-- The first `n` bytes of an element, from `pSrc` to `pDst`. -/
def copyBytes (n pSrc pDst : Nat) : List Move :=
  (List.range n).map fun k => .byte (pSrc + k) (pDst + k)

/-- A work item copies an element, or what remains after the last one. In `CopyBufferBytes`, where
nothing remains, the second branch is not written. -/
def BufferLaunch.workItem (l : BufferLaunch) (globalId : Nat) : List Move :=
  let index := toUInt globalId
  let pSrc := toUInt (l.srcOffset + index) * l.element.size
  let pDst := toUInt (l.dstOffset + index) * l.element.size
  let lastIndex := l.bytesToRead / l.element.size
  if index < lastIndex then copyBytes l.element.size pSrc pDst
  else if index = lastIndex then copyBytes (l.bytesToRead % l.element.size) pSrc pDst
  else []

/-- The access is inside both buffers. -/
def BufferLaunch.Inside (l : BufferLaunch) : Move → Prop
  | .byte src dst => src < l.pSrc.size ∧ dst < l.pDst.size
  | _ => False

/-! ## `CopyImage2Dto2DFloat`, `CopyImage2Dto2DInt`, `CopyImage2Dto2DUInt` -/

/-- The colour that an image kernel reads and writes. -/
inductive Colour
  | float
  | int
  | uint
  deriving DecidableEq, Repr

/-- A launch of an image kernel. The depths are arguments that the kernels do not use. -/
structure ImageLaunch where
  colour : Colour
  srcImage : Image
  dstImage : Image
  srcOrigin : Size3
  dstOrigin : Size3
  region : Size3
  globalWorkSize : Size3
  deriving DecidableEq, Repr

/-- `CLK_ADDRESS_CLAMP_TO_EDGE`. -/
def clampToEdge (coord : Int) (size : Nat) : Nat := (max 0 (min coord (size - 1))).toNat

/-- A coordinate: `uint` addition, and then `(int2)`. -/
def coordinate (globalId origin : Nat) : Int := toInt (toUInt globalId + origin)

/-- The work item at `x`, `y`, if it writes. `CHECK_IMAGE_BOUNDS()` is empty: the region is not
looked at. Both images have to be what the kernel declares, `image2d_t`, and there has to be a
texel to read. -/
def ImageLaunch.workItem (l : ImageLaunch) (x y : Nat) : Option Move :=
  let srcX := coordinate x l.srcOrigin.x
  let srcY := coordinate y l.srcOrigin.y
  let dstX := coordinate x l.dstOrigin.x
  let dstY := coordinate y l.dstOrigin.y
  if l.srcImage.type = .image2D ∧ l.dstImage.type = .image2D ∧
      0 < l.srcImage.width ∧ 0 < l.srcImage.height ∧
      0 ≤ dstX ∧ dstX < l.dstImage.width ∧ 0 ≤ dstY ∧ dstY < l.dstImage.height then
    some (.texel
      ⟨clampToEdge srcX l.srcImage.width, clampToEdge srcY l.srcImage.height, 0⟩
      ⟨dstX.toNat, dstY.toNat, 0⟩)
  else none

/-! ## `block_motion_estimate_intel` -/

/-- `BLOCK_SIZE`, and the work-group size that the kernel requires. -/
def blockSize : Nat := 16

/-- A launch of the override kernel, with the value that its argument 6 has then. -/
structure BlockLaunch where
  range : NDRange
  iterations : Option Int
  deriving DecidableEq, Repr

/-- The local size is the required one, or left to the driver. -/
def BlockLaunch.RequiredSize (l : BlockLaunch) : Prop :=
  match l.range.localWorkSize with
  | none => True
  | some s => s.x = blockSize ∧ s.y = 1

/-- Each work-group estimates `iterations` blocks, one below the other: those of its column. In
dimension 1 a work-group has one work item, and all of them do the same. -/
def BlockLaunch.Estimates (l : BlockLaunch) (x y : Int) : Prop :=
  ∃ global iterations, l.range.workDim = 2 ∧ l.RequiredSize ∧
    l.range.globalWorkSize = some global ∧ l.iterations = some iterations ∧
    (∃ groupId, groupId < (global.x + blockSize - 1) / blockSize ∧ x = toInt groupId) ∧
    0 < global.y ∧ 0 ≤ y ∧ y < iterations

/-! ## Commands -/

/-- What the layer enqueues. -/
inductive Work
  | copyBuffer (l : BufferLaunch)
  | copyImage (l : ImageLaunch)
  | estimateBlocks (l : BlockLaunch)
  | ndRange (r : NDRange)
  | map
  | unmap
  deriving DecidableEq, Repr

/-- **What a command does** to its destination. -/
def Work.Performs : Work → Move → Prop
  | .copyBuffer l, m =>
    l.Inside m ∧ ∃ globalId < l.globalWorkSize, m ∈ l.workItem globalId
  | .copyImage l, m =>
    ∃ x < l.globalWorkSize.x, ∃ y < l.globalWorkSize.y, 0 < l.globalWorkSize.z ∧
      l.workItem x y = some m
  | .estimateBlocks l, m => ∃ x y, m = .block x y ∧ l.Estimates x y
  | .ndRange r, m => m = .range r
  | .map, _ => False
  | .unmap, _ => False

/-- The commands that do the operation, apart from those that bring its result to the host. -/
def Work.isLaunch : Work → Bool
  | .map | .unmap => false
  | _ => true

end CLIntercept.Override
