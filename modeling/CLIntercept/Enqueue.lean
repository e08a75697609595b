/-!
# Enqueue entry points

The functions of `dispatch.cpp` that take a number from the enqueue counter, and which of the
macros each of them has placed.
-/

set_option autoImplicit false

namespace CLIntercept

/-- The entry points with `INCREMENT_ENQUEUE_COUNTER`. -/
inductive EnqueueFunction where
  | clEnqueueReadBuffer
  | clEnqueueReadBufferRect
  | clEnqueueWriteBuffer
  | clEnqueueWriteBufferRect
  | clEnqueueFillBuffer
  | clEnqueueCopyBuffer
  | clEnqueueCopyBufferRect
  | clEnqueueReadImage
  | clEnqueueWriteImage
  | clEnqueueFillImage
  | clEnqueueCopyImage
  | clEnqueueCopyImageToBuffer
  | clEnqueueCopyBufferToImage
  | clEnqueueMapBuffer
  | clEnqueueMapImage
  | clEnqueueUnmapMemObject
  | clEnqueueMigrateMemObjects
  | clEnqueueNDRangeKernel
  | clEnqueueTask
  | clEnqueueNativeKernel
  | clEnqueueMarker
  | clEnqueueWaitForEvents
  | clEnqueueBarrier
  | clEnqueueMarkerWithWaitList
  | clEnqueueBarrierWithWaitList
  | clEnqueueWaitSemaphoresKHR
  | clEnqueueSignalSemaphoresKHR
  | clEnqueueAcquireGLObjects
  | clEnqueueReleaseGLObjects
  | clEnqueueSVMFree
  | clEnqueueSVMMemcpy
  | clEnqueueSVMMemFill
  | clEnqueueSVMMap
  | clEnqueueSVMUnmap
  | clEnqueueSVMMigrateMem
  | clEnqueueAcquireExternalMemObjectsKHR
  | clEnqueueReleaseExternalMemObjectsKHR
  | clEnqueueAcquireD3D10ObjectsKHR
  | clEnqueueReleaseD3D10ObjectsKHR
  | clEnqueueAcquireD3D11ObjectsKHR
  | clEnqueueReleaseD3D11ObjectsKHR
  | clEnqueueAcquireDX9MediaSurfacesKHR
  | clEnqueueReleaseDX9MediaSurfacesKHR
  | clEnqueueAcquireDX9ObjectsINTEL
  | clEnqueueReleaseDX9ObjectsINTEL
  | clEnqueueAcquireVA_APIMediaSurfacesINTEL
  | clEnqueueReleaseVA_APIMediaSurfacesINTEL
  | clEnqueueMemsetINTEL
  | clEnqueueMemFillINTEL
  | clEnqueueMemcpyINTEL
  | clEnqueueMigrateMemINTEL
  | clEnqueueMemAdviseINTEL
  | clEnqueueCommandBufferKHR
  deriving DecidableEq, Repr

namespace EnqueueFunction

/-- `__FUNCTION__`. -/
def name : EnqueueFunction → String
  | clEnqueueReadBuffer => "clEnqueueReadBuffer"
  | clEnqueueReadBufferRect => "clEnqueueReadBufferRect"
  | clEnqueueWriteBuffer => "clEnqueueWriteBuffer"
  | clEnqueueWriteBufferRect => "clEnqueueWriteBufferRect"
  | clEnqueueFillBuffer => "clEnqueueFillBuffer"
  | clEnqueueCopyBuffer => "clEnqueueCopyBuffer"
  | clEnqueueCopyBufferRect => "clEnqueueCopyBufferRect"
  | clEnqueueReadImage => "clEnqueueReadImage"
  | clEnqueueWriteImage => "clEnqueueWriteImage"
  | clEnqueueFillImage => "clEnqueueFillImage"
  | clEnqueueCopyImage => "clEnqueueCopyImage"
  | clEnqueueCopyImageToBuffer => "clEnqueueCopyImageToBuffer"
  | clEnqueueCopyBufferToImage => "clEnqueueCopyBufferToImage"
  | clEnqueueMapBuffer => "clEnqueueMapBuffer"
  | clEnqueueMapImage => "clEnqueueMapImage"
  | clEnqueueUnmapMemObject => "clEnqueueUnmapMemObject"
  | clEnqueueMigrateMemObjects => "clEnqueueMigrateMemObjects"
  | clEnqueueNDRangeKernel => "clEnqueueNDRangeKernel"
  | clEnqueueTask => "clEnqueueTask"
  | clEnqueueNativeKernel => "clEnqueueNativeKernel"
  | clEnqueueMarker => "clEnqueueMarker"
  | clEnqueueWaitForEvents => "clEnqueueWaitForEvents"
  | clEnqueueBarrier => "clEnqueueBarrier"
  | clEnqueueMarkerWithWaitList => "clEnqueueMarkerWithWaitList"
  | clEnqueueBarrierWithWaitList => "clEnqueueBarrierWithWaitList"
  | clEnqueueWaitSemaphoresKHR => "clEnqueueWaitSemaphoresKHR"
  | clEnqueueSignalSemaphoresKHR => "clEnqueueSignalSemaphoresKHR"
  | clEnqueueAcquireGLObjects => "clEnqueueAcquireGLObjects"
  | clEnqueueReleaseGLObjects => "clEnqueueReleaseGLObjects"
  | clEnqueueSVMFree => "clEnqueueSVMFree"
  | clEnqueueSVMMemcpy => "clEnqueueSVMMemcpy"
  | clEnqueueSVMMemFill => "clEnqueueSVMMemFill"
  | clEnqueueSVMMap => "clEnqueueSVMMap"
  | clEnqueueSVMUnmap => "clEnqueueSVMUnmap"
  | clEnqueueSVMMigrateMem => "clEnqueueSVMMigrateMem"
  | clEnqueueAcquireExternalMemObjectsKHR => "clEnqueueAcquireExternalMemObjectsKHR"
  | clEnqueueReleaseExternalMemObjectsKHR => "clEnqueueReleaseExternalMemObjectsKHR"
  | clEnqueueAcquireD3D10ObjectsKHR => "clEnqueueAcquireD3D10ObjectsKHR"
  | clEnqueueReleaseD3D10ObjectsKHR => "clEnqueueReleaseD3D10ObjectsKHR"
  | clEnqueueAcquireD3D11ObjectsKHR => "clEnqueueAcquireD3D11ObjectsKHR"
  | clEnqueueReleaseD3D11ObjectsKHR => "clEnqueueReleaseD3D11ObjectsKHR"
  | clEnqueueAcquireDX9MediaSurfacesKHR => "clEnqueueAcquireDX9MediaSurfacesKHR"
  | clEnqueueReleaseDX9MediaSurfacesKHR => "clEnqueueReleaseDX9MediaSurfacesKHR"
  | clEnqueueAcquireDX9ObjectsINTEL => "clEnqueueAcquireDX9ObjectsINTEL"
  | clEnqueueReleaseDX9ObjectsINTEL => "clEnqueueReleaseDX9ObjectsINTEL"
  | clEnqueueAcquireVA_APIMediaSurfacesINTEL => "clEnqueueAcquireVA_APIMediaSurfacesINTEL"
  | clEnqueueReleaseVA_APIMediaSurfacesINTEL => "clEnqueueReleaseVA_APIMediaSurfacesINTEL"
  | clEnqueueMemsetINTEL => "clEnqueueMemsetINTEL"
  | clEnqueueMemFillINTEL => "clEnqueueMemFillINTEL"
  | clEnqueueMemcpyINTEL => "clEnqueueMemcpyINTEL"
  | clEnqueueMigrateMemINTEL => "clEnqueueMigrateMemINTEL"
  | clEnqueueMemAdviseINTEL => "clEnqueueMemAdviseINTEL"
  | clEnqueueCommandBufferKHR => "clEnqueueCommandBufferKHR"

/-- `CHECK_AUBCAPTURE_START_KERNEL` in the place of `CHECK_AUBCAPTURE_START`. -/
def enqueuesKernel : EnqueueFunction → Bool
  | clEnqueueNDRangeKernel | clEnqueueTask => true
  | _ => false

/-- `CHECK_AUBCAPTURE_STOP`. -/
def checksAubCaptureStop : EnqueueFunction → Bool
  | clEnqueueMigrateMemObjects | clEnqueueSVMMigrateMem => false
  | _ => true

/-- `ADD_OBJECT_ALLOCATION_EVENT`: the functions that can return an event. -/
def returnsEvent : EnqueueFunction → Bool
  | clEnqueueWaitForEvents | clEnqueueBarrier => false
  | _ => true

/-- `DEVICE_PERFORMANCE_TIMING_START` and an `END`. -/
def timesDevice : EnqueueFunction → Bool
  | clEnqueueWaitForEvents | clEnqueueBarrier | clEnqueueMarkerWithWaitList
  | clEnqueueBarrierWithWaitList => false
  | _ => true

/-- The functions that return a pointer. Their error code is returned through another one. -/
def returnsPointer : EnqueueFunction → Bool
  | clEnqueueMapBuffer | clEnqueueMapImage => true
  | _ => false

/-- Every launch of a kernel has its stop. -/
theorem enqueuesKernel_of_no_stop {f : EnqueueFunction} (h : f.checksAubCaptureStop = false) :
    f.enqueuesKernel = false := by
  cases f <;> first | rfl | exact absurd h (by decide)

end EnqueueFunction

end CLIntercept
