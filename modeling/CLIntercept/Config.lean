import CLIntercept.Lib.CString

/-!
# Controls

The controls that the modelled functions read, each with its default, and the conditions on them
that stand before a macro of `intercept.h` does its work.
-/

set_option autoImplicit false

namespace CLIntercept

open CLIntercept.Lib

/-- `config()`, the controls that matter here, and whether the layer was built for Windows. -/
structure Config where
  windows : Bool := false
  appendBuildOptions : CString := .empty
  aubCapture : Bool := false
  aubCaptureIndividualEnqueues : Bool := false
  aubCaptureKDC : Bool := false
  aubCaptureKernelGWS : String := ""
  aubCaptureKernelLWS : String := ""
  aubCaptureKernelName : String := ""
  aubCaptureMaxEnqueue : UInt32 := 0xffffffff
  aubCaptureMinEnqueue : UInt32 := 0
  aubCaptureNumKernelEnqueuesCapture : UInt32 := 0xffffffff
  aubCaptureNumKernelEnqueuesSkip : UInt32 := 0
  aubCaptureUniqueKernels : Bool := false
  autoCreateSPIRV : Bool := false
  autoPartitionAllDevices : Bool := false
  autoPartitionAllSubDevices : Bool := false
  autoPartitionByAffinityDomain : Bool := true
  autoPartitionEqually : UInt32 := 1
  autoPartitionSingleSubDevice : Bool := false
  buildLogging : Bool := false
  captureReplay : Bool := false
  captureReplayKernelName : String := ""
  captureReplayMaxEnqueue : UInt32 := 0xffffffff
  captureReplayMinEnqueue : UInt32 := 0
  captureReplayNumKernelEnqueuesCapture : UInt32 := 0xffffffff
  captureReplayNumKernelEnqueuesSkip : UInt32 := 0
  captureReplayUniqueKernels : Bool := false
  chromePerformanceTiming : Bool := false
  contextCallbackLogging : Bool := false
  contextHintLevel : UInt32 := 0
  defaultQueuePriorityHint : UInt32 := 0
  defaultQueueThrottleHint : UInt32 := 0
  demangleKernelNames : Bool := false
  devicePerfCounterEventBasedSampling : Bool := false
  devicePerformanceTiming : Bool := false
  dumpBufferHashes : Bool := false
  dumpBuffersAfterCreate : Bool := false
  dumpBuffersAfterEnqueue : Bool := false
  dumpBuffersAfterMap : Bool := false
  dumpBuffersBeforeEnqueue : Bool := false
  dumpBuffersBeforeUnmap : Bool := false
  dumpBuffersForKernel : String := ""
  dumpBuffersMaxEnqueue : UInt32 := 0xffffffff
  dumpBuffersMinEnqueue : UInt32 := 0
  dumpCommandBuffers : Bool := false
  dumpImageHashes : Bool := false
  dumpImagesAfterEnqueue : Bool := false
  dumpImagesBeforeEnqueue : Bool := false
  dumpImagesForKernel : String := ""
  dumpImagesMaxEnqueue : UInt32 := 0xffffffff
  dumpImagesMinEnqueue : UInt32 := 0
  dumpInputProgramBinaries : Bool := false
  dumpKernelISABinaries : Bool := false
  dumpProgramBinaries : Bool := false
  dumpProgramBuildLogs : Bool := false
  dumpProgramSPIRV : Bool := false
  dumpProgramSource : Bool := false
  dumpProgramSourceScript : Bool := false
  emulateUnifiedSharedMemory : Bool := false
  forceByteBufferOverrides : Bool := false
  inOrderQueue : Bool := false
  injectBuffers : Bool := false
  injectImages : Bool := false
  injectProgramBinaries : Bool := false
  injectProgramSPIRV : Bool := false
  injectProgramSource : Bool := false
  ittPerformanceTiming : Bool := false
  kernelNameHashTracking : Bool := false
  leakChecking : Bool := false
  longKernelNameCutoff : UInt32 := 0xffffffff
  noErrors : Bool := false
  noProfilingQueue : Bool := false
  nullEnqueue : Bool := false
  omitProgramNumber : Bool := false
  overrideBuiltinKernels : Bool := false
  overrideCopyBuffer : Bool := false
  overrideCopyImage : Bool := false
  overrideReadBuffer : Bool := false
  overrideReadImage : Bool := false
  overrideWriteBuffer : Bool := false
  overrideWriteImage : Bool := false
  prependProgramSource : Bool := false
  relaxAllocationLimits : Bool := false
  simpleDumpProgramSource : Bool := false
  deriving DecidableEq, Repr

/-! ## What the macros of `intercept.h` look at -/

/-- `SAVE_PROGRAM_HASH` and `SAVE_PROGRAM_OPTIONS_HASH`. -/
def Config.savesProgramHash (c : Config) : Bool :=
  c.buildLogging || c.kernelNameHashTracking || c.dumpProgramSource || c.dumpInputProgramBinaries ||
    c.dumpProgramBinaries || c.dumpProgramSPIRV || c.dumpProgramBuildLogs ||
    c.dumpKernelISABinaries || c.injectProgramSource || c.autoCreateSPIRV ||
    c.aubCaptureUniqueKernels

/-- `DUMP_PROGRAM_OPTIONS`. -/
def Config.dumpsProgramOptions (c : Config) : Bool :=
  c.dumpProgramSource || c.dumpInputProgramBinaries || c.dumpProgramBinaries || c.dumpProgramSPIRV

/-- `INCREMENT_PROGRAM_COMPILE_COUNT`. -/
def Config.incrementsCompileCount (c : Config) : Bool :=
  c.buildLogging || c.kernelNameHashTracking || c.injectProgramSource ||
    c.dumpProgramSourceScript || c.dumpProgramSource || c.dumpProgramBinaries ||
    c.dumpProgramSPIRV || c.dumpProgramBuildLogs || c.dumpKernelISABinaries || c.autoCreateSPIRV ||
    c.aubCaptureUniqueKernels

/-- `CREATE_COMBINED_PROGRAM_STRING`. -/
def Config.combinesProgramString (c : Config) : Bool :=
  c.buildLogging || c.kernelNameHashTracking || c.simpleDumpProgramSource ||
    c.dumpProgramSourceScript || c.dumpProgramSource || c.dumpProgramBinaries ||
    c.dumpProgramSPIRV || c.dumpProgramBuildLogs || c.dumpKernelISABinaries ||
    c.injectProgramSource || c.injectProgramBinaries || c.prependProgramSource ||
    c.autoCreateSPIRV || c.aubCaptureUniqueKernels || c.captureReplay

/-- `COMPUTE_BINARY_HASH`. -/
def Config.computesBinaryHash (c : Config) : Bool :=
  c.buildLogging || c.kernelNameHashTracking || c.dumpInputProgramBinaries ||
    c.dumpProgramBinaries || c.dumpProgramBuildLogs || c.dumpKernelISABinaries ||
    c.injectProgramBinaries || c.aubCaptureUniqueKernels || c.captureReplay

/-- `COMPUTE_SPIRV_HASH`. -/
def Config.computesSPIRVHash (c : Config) : Bool :=
  c.buildLogging || c.kernelNameHashTracking || c.dumpProgramSPIRV || c.dumpProgramBuildLogs ||
    c.dumpKernelISABinaries || c.injectProgramBinaries || c.aubCaptureUniqueKernels ||
    c.captureReplay

/-- Some control that dumps or injects is set. -/
def Config.dumpsOrInjects (c : Config) : Bool :=
  c.dumpBufferHashes || c.dumpBuffersAfterCreate || c.dumpBuffersAfterEnqueue ||
    c.dumpBuffersAfterMap || c.dumpBuffersBeforeEnqueue || c.dumpBuffersBeforeUnmap ||
    c.dumpCommandBuffers || c.dumpImageHashes || c.dumpImagesAfterEnqueue ||
    c.dumpImagesBeforeEnqueue || c.dumpInputProgramBinaries || c.dumpKernelISABinaries ||
    c.dumpProgramBinaries || c.dumpProgramBuildLogs || c.dumpProgramSPIRV || c.dumpProgramSource ||
    c.dumpProgramSourceScript || c.injectBuffers || c.injectImages || c.injectProgramBinaries ||
    c.injectProgramSPIRV || c.injectProgramSource || c.simpleDumpProgramSource

/-- `ADD_BUFFER`. -/
def Config.tracksBuffers (c : Config) : Bool :=
  c.dumpBuffersAfterCreate || c.dumpBuffersAfterMap || c.dumpBuffersBeforeUnmap ||
    c.dumpBuffersBeforeEnqueue || c.dumpBuffersAfterEnqueue || c.injectBuffers || c.injectImages ||
    c.captureReplay

/-- `ADD_IMAGE`. Injecting is not looked at. -/
def Config.tracksImages (c : Config) : Bool :=
  c.dumpImagesBeforeEnqueue || c.dumpImagesAfterEnqueue || c.captureReplay

/-- `REMOVE_MEMOBJ`. -/
def Config.removesMemObjs (c : Config) : Bool :=
  c.dumpBuffersAfterCreate || c.dumpBuffersAfterMap || c.dumpBuffersBeforeUnmap ||
    c.dumpBuffersBeforeEnqueue || c.dumpBuffersAfterEnqueue || c.dumpImagesBeforeEnqueue ||
    c.dumpImagesAfterEnqueue || c.injectBuffers || c.injectImages || c.captureReplay

/-- `SET_KERNEL_ARG`. -/
def Config.setsKernelArg (c : Config) : Bool :=
  c.dumpBuffersBeforeEnqueue || c.dumpBuffersAfterEnqueue || c.dumpImagesBeforeEnqueue ||
    c.dumpImagesAfterEnqueue || c.injectBuffers || c.injectImages || c.captureReplay

/-- `SET_KERNEL_ARG_SVM_POINTER` and `SET_KERNEL_ARG_USM_POINTER`. Dumping images is not looked
at. -/
def Config.setsKernelArgPointer (c : Config) : Bool :=
  c.dumpBuffersBeforeEnqueue || c.dumpBuffersAfterEnqueue || c.injectBuffers || c.injectImages ||
    c.captureReplay

/-- `ADD_SVM_ALLOCATION`, `REMOVE_SVM_ALLOCATION` and the two for USM. -/
def Config.tracksAllocations (c : Config) : Bool :=
  c.dumpBuffersBeforeEnqueue || c.dumpBuffersAfterEnqueue || c.injectBuffers || c.injectImages ||
    c.captureReplay

/-- `ADD_QUEUE` and `REMOVE_QUEUE`. -/
def Config.tracksQueues (c : Config) : Bool :=
  c.chromePerformanceTiming || c.emulateUnifiedSharedMemory

/-- `DEVICE_PERFORMANCE_TIMING_START`, but for what may differ from one enqueue to the next. -/
def Config.timesEnqueues (c : Config) : Bool :=
  c.devicePerformanceTiming || c.ittPerformanceTiming || c.chromePerformanceTiming ||
    c.devicePerfCounterEventBasedSampling

/-- What `checkTimingEvents` looks at before it reads profiling data. -/
def Config.timesDevices (c : Config) : Bool :=
  c.devicePerformanceTiming || c.ittPerformanceTiming || c.chromePerformanceTiming

end CLIntercept
