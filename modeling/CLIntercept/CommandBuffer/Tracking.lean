import CLIntercept.Api
import CLIntercept.Config
import CLIntercept.CommandBuffer.Record
import CLIntercept.Lib.OrdMap
import CLIntercept.Lib.Run

/-!
# Tracking command buffers and their commands

The functions of `cl_khr_command_buffer` are extension functions, so a call finds the driver
through the platform of its command buffer or mutable command. The layer keeps that platform in two
maps, the commands of each command buffer in a third, and its recordings in a fourth.

The state is the four maps beside the driver's own objects. `Tracked` is what the maps are for, and
`Followed` the calls that keep it.
-/

set_option autoImplicit false

namespace CLIntercept.CommandBuffer

open CLIntercept.Lib

/-! ## The code -/

/-- What the layer knows of a mutable command. -/
structure SMutableCommandInfo where
  platform : Handle := null
  workDim : UInt32 := 0
  deriving DecidableEq, Repr

/-- The four maps. -/
structure Tracking where
  commandBufferInfoMap : OrdMap Handle Handle := OrdMap.empty
  commandBufferRecordMap : OrdMap Handle SCommandBufferRecord := OrdMap.empty
  mutableCommandInfoMap : OrdMap Handle SMutableCommandInfo := OrdMap.empty
  commandBufferMutableCommandsMap : OrdMap Handle (List Handle) := OrdMap.empty

namespace Tracking

/-- `getPlatform` of a command buffer. -/
def getPlatform (t : Tracking) (cmdbuf : Handle) : Handle :=
  (t.commandBufferInfoMap.get? cmdbuf).getD null

/-- `getPlatform` of a mutable command. -/
def getCommandPlatform (t : Tracking) (cmd : Handle) : Handle :=
  match t.mutableCommandInfoMap.get? cmd with
  | some info => info.platform
  | none => null

/-- `addCommandBufferInfo`, given the platform of the queue. -/
def addCommandBufferInfo (cmdbuf platform : Handle) (t : Tracking) : Tracking :=
  if cmdbuf ≠ null then
    { t with commandBufferInfoMap := t.commandBufferInfoMap.insert cmdbuf platform }
  else t

/-- The commands listed under a command buffer. -/
def commands (t : Tracking) (cmdbuf : Handle) : List Handle :=
  (t.commandBufferMutableCommandsMap.get? cmdbuf).getD []

def addMutableCommandInfo (cmd cmdbuf : Handle) (dim : UInt32) (t : Tracking) : Tracking :=
  if cmd ≠ null ∧ cmdbuf ≠ null then
    { t with
      mutableCommandInfoMap :=
        t.mutableCommandInfoMap.insert cmd { platform := t.getPlatform cmdbuf, workDim := dim }
      commandBufferMutableCommandsMap :=
        t.commandBufferMutableCommandsMap.insert cmdbuf (t.commands cmdbuf ++ [cmd]) }
  else t

/-- What `checkRemoveCommandBufferInfo` erases. -/
def removeCommandBufferInfo (cmdbuf : Handle) (t : Tracking) : Tracking :=
  { commandBufferInfoMap := t.commandBufferInfoMap.erase cmdbuf
    commandBufferRecordMap := t.commandBufferRecordMap.erase cmdbuf
    mutableCommandInfoMap := (t.commands cmdbuf).foldl OrdMap.erase t.mutableCommandInfoMap
    commandBufferMutableCommandsMap := t.commandBufferMutableCommandsMap.erase cmdbuf }

/-- `m_CommandBufferRecordMap[ cmdbuf ]`, which makes a recording if there is none. -/
def recording (t : Tracking) (cmdbuf : Handle) : SCommandBufferRecord :=
  (t.commandBufferRecordMap.get? cmdbuf).getD {}

def setRecording (cmdbuf : Handle) (r : SCommandBufferRecord) (t : Tracking) : Tracking :=
  { t with commandBufferRecordMap := t.commandBufferRecordMap.insert cmdbuf r }

end Tracking

/-- The functions that record a command. -/
inductive CommandFunction where
  | clCommandBarrierWithWaitListKHR
  | clCommandCopyBufferKHR
  | clCommandCopyBufferRectKHR
  | clCommandCopyBufferToImageKHR
  | clCommandCopyImageKHR
  | clCommandCopyImageToBufferKHR
  | clCommandFillBufferKHR
  | clCommandFillImageKHR
  | clCommandSVMMemcpyKHR
  | clCommandSVMMemFillKHR
  | clCommandNDRangeKernelKHR (workDim : UInt32) (recordTag : String)
  deriving DecidableEq, Repr

namespace CommandFunction

/-- `__FUNCTION__`. -/
def name : CommandFunction → String
  | clCommandBarrierWithWaitListKHR => "clCommandBarrierWithWaitListKHR"
  | clCommandCopyBufferKHR => "clCommandCopyBufferKHR"
  | clCommandCopyBufferRectKHR => "clCommandCopyBufferRectKHR"
  | clCommandCopyBufferToImageKHR => "clCommandCopyBufferToImageKHR"
  | clCommandCopyImageKHR => "clCommandCopyImageKHR"
  | clCommandCopyImageToBufferKHR => "clCommandCopyImageToBufferKHR"
  | clCommandFillBufferKHR => "clCommandFillBufferKHR"
  | clCommandFillImageKHR => "clCommandFillImageKHR"
  | clCommandSVMMemcpyKHR => "clCommandSVMMemcpyKHR"
  | clCommandSVMMemFillKHR => "clCommandSVMMemFillKHR"
  | clCommandNDRangeKernelKHR _ _ => "clCommandNDRangeKernelKHR"

/-- The work dimension of the command, 0 if it is not a kernel. -/
def workDim : CommandFunction → UInt32
  | clCommandNDRangeKernelKHR workDim _ => workDim
  | _ => 0

end CommandFunction

/-- A call of a function that creates a command buffer: the platform of the first queue, if it is
given queues; the platforms whose dispatch table has the function; and the driver's answer, a
command buffer of some platform. A creation knows whether the queue is in order, and a remap is
given a command buffer and returns its mutable commands with their work dimensions. -/
structure CreateCall where
  queue : Option Handle
  tables : Handle → Bool
  retVal : Handle
  platform : Handle
  isInOrder : Bool := true
  commandBuffer : Handle := null
  handlesRet : List (Handle × UInt32) := []

/-- A recording call: what `mutable_handle` points at after the driver's answer, if it is not
`NULL`, and what is recorded of the sync points. -/
structure CommandCall where
  function : CommandFunction
  commandBuffer : Handle
  tables : Handle → Bool
  retVal : Int
  mutableHandle : Option Handle
  waitList : List Nat := []
  syncPoint : Option Nat := none

/-- A call on a command buffer. -/
structure BufferCall where
  commandBuffer : Handle
  tables : Handle → Bool
  retVal : Int

/-- A release, with the platforms that have `clGetCommandBufferInfoKHR` and its answer. -/
structure ReleaseCall extends BufferCall where
  infoTables : Handle → Bool
  infoError : Int
  refCount : Nat

/-- The calls. -/
inductive TrackedCall where
  | clCreateCommandBufferKHR (c : CreateCall)
  | clRemapCommandBufferKHR (c : CreateCall)
  | command (c : CommandCall)
  | clFinalizeCommandBufferKHR (c : BufferCall)
  | clRetainCommandBufferKHR (c : BufferCall)
  | clReleaseCommandBufferKHR (c : ReleaseCall)

/-- `CHECK_ERROR` and the comparison after it. -/
def succeeds (config : Config) (retVal : Int) : Bool :=
  retVal = clSuccess || config.noErrors

/-- The recording macros, but for a creation: what they do if the call counts as a success. -/
def recordIf (config : Config) (retVal : Int) (cmdbuf : Handle) (f : Tracking → Tracking)
    (t : Tracking) : Tracking :=
  if succeeds config retVal && cmdbuf ≠ null && config.dumpCommandBuffers then f t else t

namespace Tracking

/-- `recordCommandBufferCreate`. -/
def recordCreate (config : Config) (c : CreateCall) (t : Tracking) : Tracking :=
  if c.retVal ≠ null && config.dumpCommandBuffers then
    t.setRecording c.retVal ((t.recording c.retVal).recordCreate c.isInOrder)
  else t

/-- `recordCommandBufferCommand` and `recordCommandBufferBarrier`. -/
def recordCommand (config : Config) (c : CommandCall) (t : Tracking) : Tracking :=
  recordIf config c.retVal c.commandBuffer (fun t =>
    let r := t.recording c.commandBuffer
    t.setRecording c.commandBuffer <|
      match c.function with
      | .clCommandBarrierWithWaitListKHR =>
        r.recordBarrier c.function.name c.waitList c.syncPoint
      | .clCommandNDRangeKernelKHR _ tag =>
        r.recordCommand c.function.name tag c.waitList c.syncPoint
      | _ => r.recordCommand c.function.name "" c.waitList c.syncPoint) t

/-- `recordCommandBufferFinalize`, and `dumpCommandBufferRecording`, which writes the recording to a
file and erases it. -/
def recordFinalize (config : Config) (c : BufferCall) (t : Tracking) : Tracking :=
  recordIf config c.retVal c.commandBuffer (fun t =>
    let t := t.setRecording c.commandBuffer (t.recording c.commandBuffer).recordFinalize
    { t with commandBufferRecordMap := t.commandBufferRecordMap.erase c.commandBuffer }) t

/-- `ADD_MUTABLE_COMMAND` and `ADD_MUTABLE_COMMAND_NDRANGE`. They do not look at the error code. -/
def addMutableCommand (c : CommandCall) (t : Tracking) : Tracking :=
  match c.mutableHandle with
  | some cmd =>
    if cmd ≠ null then
      match c.function with
      | .clCommandNDRangeKernelKHR workDim _ =>
        t.addMutableCommandInfo cmd c.commandBuffer workDim
      | _ => t.addMutableCommandInfo cmd c.commandBuffer 0
    else t
  | none => t

/-- `checkRemoveCommandBufferInfo`. The reference count is what it was before the release. -/
def checkRemoveCommandBufferInfo (c : ReleaseCall) (t : Tracking) : Tracking :=
  match t.commandBufferInfoMap.get? c.commandBuffer with
  | some platform =>
    if c.infoTables platform && c.infoError = clSuccess && c.refCount = 1 then
      t.removeCommandBufferInfo c.commandBuffer
    else t
  | none => t

/-- `dispatchX`: the platforms whose tables the call may use include the one it looks up. -/
def reaches (t : Tracking) : TrackedCall → Bool
  | .clCreateCommandBufferKHR c | .clRemapCommandBufferKHR c => c.tables (c.queue.getD null)
  | .command c => c.tables (t.getPlatform c.commandBuffer)
  | .clFinalizeCommandBufferKHR c | .clRetainCommandBufferKHR c =>
    c.tables (t.getPlatform c.commandBuffer)
  | .clReleaseCommandBufferKHR c => c.tables (t.getPlatform c.commandBuffer)

/-- What a call that reaches the driver does to the maps. -/
def apply (config : Config) (t : Tracking) : TrackedCall → Tracking
  | .clCreateCommandBufferKHR c =>
    (t.recordCreate config c).addCommandBufferInfo c.retVal (c.queue.getD null)
  | .clRemapCommandBufferKHR c => t.addCommandBufferInfo c.retVal (c.queue.getD null)
  | .command c => (t.recordCommand config c).addMutableCommand c
  | .clFinalizeCommandBufferKHR c => t.recordFinalize config c
  | .clRetainCommandBufferKHR _ => t
  | .clReleaseCommandBufferKHR c => t.checkRemoveCommandBufferInfo c

end Tracking

/-! ## The driver's objects -/

/-- A command buffer. It is being recorded from its creation until it is finalized; a remap copies it
as it is. -/
structure LiveBuffer where
  platform : Handle
  refCount : Nat := 1
  isRecording : Bool
  deriving DecidableEq, Repr

/-- A mutable command that the application has a handle of. -/
structure LiveCommand where
  commandBuffer : Handle
  workDim : UInt32
  deriving DecidableEq, Repr

structure Driver where
  buffers : Handle → Option LiveBuffer := fun _ => none
  commands : Handle → Option LiveCommand := fun _ => none

namespace Driver

def setBuffer (d : Driver) (cmdbuf : Handle) (b : LiveBuffer) : Driver :=
  { d with buffers := fun h => if h = cmdbuf then some b else d.buffers h }

def setCommand (d : Driver) (cmd : Handle) (k : LiveCommand) : Driver :=
  if cmd ≠ null then
    { d with commands := fun h => if h = cmd then some k else d.commands h }
  else d

/-- The last reference is gone: so are the commands. -/
def destroy (d : Driver) (cmdbuf : Handle) : Driver where
  buffers := fun h => if h = cmdbuf then none else d.buffers h
  commands := fun h => (d.commands h).filter fun k => k.commandBuffer ≠ cmdbuf

/-- The platform of a command buffer, if it is live. -/
def platformOf (d : Driver) (cmdbuf : Handle) : Option Handle :=
  (d.buffers cmdbuf).map (·.platform)

/-- The command buffer of a mutable command, if it is live. -/
def ownerOf (d : Driver) (cmd : Handle) : Option Handle :=
  (d.commands cmd).map (·.commandBuffer)

/-- What the layer should know of a mutable command. -/
def infoOf (d : Driver) (cmd : Handle) : Option SMutableCommandInfo :=
  (d.commands cmd).bind fun k => (d.platformOf k.commandBuffer).map fun platform =>
    { platform := platform, workDim := k.workDim }

/-- The command buffer is live and not yet finalized. -/
def IsRecording (d : Driver) (cmdbuf : Handle) : Prop :=
  ∃ b, d.buffers cmdbuf = some b ∧ b.isRecording = true

/-- A change of a command buffer, if there is one. -/
def modifyBuffer (d : Driver) (cmdbuf : Handle) (f : LiveBuffer → LiveBuffer) : Driver :=
  match d.buffers cmdbuf with
  | some b => d.setBuffer cmdbuf (f b)
  | none => d

/-- What the driver does in a call. -/
def apply (d : Driver) : TrackedCall → Driver
  | .clCreateCommandBufferKHR c =>
    if c.retVal ≠ null then
      d.setBuffer c.retVal { platform := c.platform, isRecording := true }
    else d
  | .clRemapCommandBufferKHR c =>
    if c.retVal ≠ null then
      c.handlesRet.foldl
        (fun d h => d.setCommand h.1 { commandBuffer := c.retVal, workDim := h.2 })
        (d.setBuffer c.retVal
          { platform := c.platform
            isRecording := (d.buffers c.commandBuffer).any (·.isRecording) })
    else d
  | .command c =>
    match c.mutableHandle with
    | some cmd =>
      if c.retVal = clSuccess then
        d.setCommand cmd { commandBuffer := c.commandBuffer, workDim := c.function.workDim }
      else d
    | none => d
  | .clFinalizeCommandBufferKHR c =>
    if c.retVal = clSuccess then
      d.modifyBuffer c.commandBuffer fun b => { b with isRecording := false }
    else d
  | .clRetainCommandBufferKHR c =>
    if c.retVal = clSuccess then
      d.modifyBuffer c.commandBuffer fun b => { b with refCount := b.refCount + 1 }
    else d
  | .clReleaseCommandBufferKHR c =>
    if c.retVal = clSuccess then
      match d.buffers c.commandBuffer with
      | some b =>
        if b.refCount = 1 then d.destroy c.commandBuffer
        else d.modifyBuffer c.commandBuffer fun b => { b with refCount := b.refCount - 1 }
      | none => d
    else d

/-- What the driver answers: the handles that it hands out are not in use, all queues of a command
buffer are of its platform, and a call succeeds only on an object. -/
def Answers (d : Driver) : TrackedCall → Prop
  | .clCreateCommandBufferKHR c =>
    c.retVal ≠ null → d.buffers c.retVal = none ∧ ∀ p, c.queue = some p → c.platform = p
  | .clRemapCommandBufferKHR c =>
    c.retVal ≠ null → d.buffers c.retVal = none ∧
      (∃ b, d.buffers c.commandBuffer = some b ∧ c.platform = c.queue.getD b.platform) ∧
      (c.handlesRet.map (·.1)).Nodup ∧ ∀ h ∈ c.handlesRet, d.commands h.1 = none
  | .command c =>
    c.retVal = clSuccess → (d.buffers c.commandBuffer).isSome ∧
      ∀ cmd, c.mutableHandle = some cmd → d.commands cmd = none
  | .clFinalizeCommandBufferKHR c | .clRetainCommandBufferKHR c =>
    c.retVal = clSuccess → (d.buffers c.commandBuffer).isSome
  | .clReleaseCommandBufferKHR c =>
    (c.retVal = clSuccess → (d.buffers c.commandBuffer).isSome) ∧
      ∀ b, d.buffers c.commandBuffer = some b → c.infoError = clSuccess → c.refCount = b.refCount

end Driver

/-! ## Runs -/

structure TrackedState where
  tracking : Tracking := {}
  driver : Driver := {}

/-- A call that finds no driver function changes nothing. -/
def trackedStep (config : Config) (s : TrackedState) (call : TrackedCall) : TrackedState :=
  if s.tracking.reaches call then
    { tracking := s.tracking.apply config call, driver := s.driver.apply call }
  else s

def trackedSystem (config : Config) : System TrackedState TrackedCall where
  step := trackedStep config
  legal s call := s.tracking.reaches call = true → s.driver.Answers call

/-- **The maps are exact**: the live command buffers with their platforms, the live mutable commands
with platform and work dimension, each listed once under its own command buffer, and the recordings
of what is being recorded. So every call finds the driver of its object's platform. -/
structure Tracked (config : Config) (s : TrackedState) : Prop where
  buffers : ∀ cmdbuf, s.tracking.commandBufferInfoMap.get? cmdbuf = s.driver.platformOf cmdbuf
  commands : ∀ cmd, s.tracking.mutableCommandInfoMap.get? cmd = s.driver.infoOf cmd
  listed : ∀ cmdbuf cmd, (s.tracking.commands cmdbuf).count cmd =
    if s.driver.ownerOf cmd = some cmdbuf then 1 else 0
  recordings : config.dumpCommandBuffers = true → ∀ cmdbuf,
    (s.tracking.commandBufferRecordMap.get? cmdbuf).isSome = true ↔ s.driver.IsRecording cmdbuf
  bufferPlatform : ∀ cmdbuf b, s.driver.buffers cmdbuf = some b →
    s.tracking.getPlatform cmdbuf = b.platform
  commandPlatform : ∀ cmd k b, s.driver.commands cmd = some k →
    s.driver.buffers k.commandBuffer = some b → s.tracking.getCommandPlatform cmd = b.platform

/-- The calls that the layer follows. -/
def Followed (config : Config) (s : TrackedState) (call : TrackedCall) : Prop :=
  s.tracking.reaches call = true →
    match call with
    | .clCreateCommandBufferKHR c => c.retVal = null ∨ c.platform = c.queue.getD null
    | .clRemapCommandBufferKHR c =>
      c.retVal = null ∨ (c.platform = c.queue.getD null ∧ ∀ h ∈ c.handlesRet, h.1 = null) ∧
        (config.dumpCommandBuffers = true → ¬s.driver.IsRecording c.commandBuffer)
    | .command c =>
      (c.retVal = clSuccess ∨ c.commandBuffer = null ∨
          ∀ cmd, c.mutableHandle = some cmd → cmd = null) ∧
        (config.dumpCommandBuffers = true → succeeds config c.retVal = true →
          c.commandBuffer ≠ null → s.driver.IsRecording c.commandBuffer)
    | .clFinalizeCommandBufferKHR c =>
      config.dumpCommandBuffers = true → config.noErrors = true → c.retVal ≠ clSuccess →
        ¬s.driver.IsRecording c.commandBuffer
    | .clRetainCommandBufferKHR _ => True
    | .clReleaseCommandBufferKHR c =>
      ∀ b, s.driver.buffers c.commandBuffer = some b → b.refCount = 1 →
        (c.infoTables b.platform = true ∧ c.infoError = clSuccess ↔ c.retVal = clSuccess)

/-! ## What the driver keeps -/

/-- No object is `NULL`, and a command is of a live command buffer. -/
structure Driver.Valid (d : Driver) : Prop where
  buffers_null : d.buffers null = none
  commands_null : d.commands null = none
  owner : ∀ cmd k, d.commands cmd = some k → (d.buffers k.commandBuffer).isSome

/-! ## What a call changes -/

namespace Driver

variable {d : Driver}

/-- A change of one command buffer leaves the others alone. -/
theorem buffers_setBuffer (cmdbuf h : Handle) (b : LiveBuffer) :
    (d.setBuffer cmdbuf b).buffers h = if h = cmdbuf then some b else d.buffers h := rfl

/-- A new command leaves the others alone. -/
theorem commands_setCommand {cmd : Handle} (hcmd : cmd ≠ null) (h : Handle) (k : LiveCommand) :
    (d.setCommand cmd k).commands h = if h = cmd then some k else d.commands h := by
  rw [setCommand, if_pos hcmd]

/-- `NULL` is no command. -/
theorem setCommand_null (k : LiveCommand) : d.setCommand null k = d := by
  rw [setCommand, if_neg (not_not_intro rfl)]

/-- A new command does not touch its command buffer. -/
theorem buffers_setCommand (cmd : Handle) (k : LiveCommand) :
    (d.setCommand cmd k).buffers = d.buffers := by
  unfold setCommand
  split <;> rfl

/-- No command buffer is lost when another is set. -/
theorem isSome_setBuffer (cmdbuf h : Handle) (b : LiveBuffer) (hh : (d.buffers h).isSome) :
    ((d.setBuffer cmdbuf b).buffers h).isSome := by
  rw [buffers_setBuffer]
  split
  · rfl
  · exact hh

/-- A command buffer that is not `NULL` may be set. -/
theorem Valid.setBuffer (hv : d.Valid) {cmdbuf : Handle} (hb : cmdbuf ≠ null) (b : LiveBuffer) :
    (d.setBuffer cmdbuf b).Valid where
  buffers_null := by
    rw [buffers_setBuffer, if_neg (Ne.symm hb)]
    exact hv.buffers_null
  commands_null := hv.commands_null
  owner cmd k hk := isSome_setBuffer _ _ _ (hv.owner cmd k hk)

/-- A command of a live command buffer may be set. -/
theorem Valid.setCommand (hv : d.Valid) (cmd : Handle) {k : LiveCommand}
    (hk : (d.buffers k.commandBuffer).isSome) : (d.setCommand cmd k).Valid := by
  by_cases hcmd : cmd = null
  · subst hcmd
    rw [setCommand_null]
    exact hv
  · refine ⟨?_, ?_, fun h k' hk' => ?_⟩
    · rw [buffers_setCommand]
      exact hv.buffers_null
    · rw [commands_setCommand hcmd, if_neg (Ne.symm hcmd)]
      exact hv.commands_null
    · rw [buffers_setCommand]
      rw [commands_setCommand hcmd] at hk'
      split at hk'
      · cases hk'
        exact hk
      · exact hv.owner h k' hk'

/-- References and recordings may change freely. -/
theorem Valid.modifyBuffer (hv : d.Valid) (cmdbuf : Handle) (f : LiveBuffer → LiveBuffer) :
    (d.modifyBuffer cmdbuf f).Valid := by
  unfold Driver.modifyBuffer
  split
  · next b hb =>
    refine hv.setBuffer (fun hnull => ?_) _
    rw [hnull, hv.buffers_null] at hb
    cases hb
  · exact hv

/-- What is left are the commands of other command buffers. -/
theorem commands_destroy (cmdbuf : Handle) {h : Handle} {k : LiveCommand} :
    (d.destroy cmdbuf).commands h = some k ↔ d.commands h = some k ∧ k.commandBuffer ≠ cmdbuf := by
  rw [destroy, Option.filter_eq_some_iff, decide_eq_true_eq]

/-- The commands that are left keep their command buffers. -/
theorem ownerOf_destroy (cmdbuf : Handle) {cmd h : Handle} :
    (d.destroy cmdbuf).ownerOf cmd = some h ↔ d.ownerOf cmd = some h ∧ h ≠ cmdbuf := by
  simp only [ownerOf, Option.map_eq_some_iff, commands_destroy]
  constructor
  · rintro ⟨k, ⟨hk, hne⟩, rfl⟩
    exact ⟨⟨k, hk, rfl⟩, hne⟩
  · rintro ⟨⟨k, hk, rfl⟩, hne⟩
    exact ⟨k, ⟨hk, hne⟩, rfl⟩

/-- The command buffers that are left keep their platforms. -/
theorem platformOf_destroy (cmdbuf h : Handle) :
    (d.destroy cmdbuf).platformOf h = if h = cmdbuf then none else d.platformOf h := by
  unfold platformOf destroy
  by_cases heq : h = cmdbuf <;> simp [heq]

/-- What is known of a command is forgotten with its command buffer. -/
theorem infoOf_destroy (cmdbuf cmd : Handle) :
    (d.destroy cmdbuf).infoOf cmd = if d.ownerOf cmd = some cmdbuf then none else d.infoOf cmd := by
  cases hk : d.commands cmd with
  | none =>
    have hgone : (d.destroy cmdbuf).commands cmd = none := by
      show (d.commands cmd).filter _ = none
      rw [hk, Option.filter_none]
    simp [infoOf, hk, hgone]
  | some k =>
    by_cases hcb : k.commandBuffer = cmdbuf
    · have hgone : (d.destroy cmdbuf).commands cmd = none := by
        simp [destroy, hk, hcb]
      simp [infoOf, ownerOf, hk, hgone, hcb]
    · have hkept := (commands_destroy cmdbuf).mpr ⟨hk, hcb⟩
      simp [infoOf, ownerOf, hk, hkept, hcb, platformOf_destroy]

/-- A command buffer is destroyed with its commands, so none is left without one. -/
theorem Valid.destroy (hv : d.Valid) (cmdbuf : Handle) : (d.destroy cmdbuf).Valid where
  buffers_null := by
    show (if null = cmdbuf then none else d.buffers null) = none
    rw [hv.buffers_null, ite_self]
  commands_null := by
    show (d.commands null).filter _ = none
    rw [hv.commands_null, Option.filter_none]
  owner cmd k hk := by
    obtain ⟨hk, hne⟩ := (commands_destroy cmdbuf).mp hk
    show (if k.commandBuffer = cmdbuf then none else d.buffers k.commandBuffer).isSome
    rw [if_neg hne]
    exact hv.owner cmd k hk

/-- The commands of a remap. -/
theorem Valid.setCommands (hv : d.Valid) {cmdbuf : Handle} (hb : (d.buffers cmdbuf).isSome)
    (hs : List (Handle × UInt32)) :
    (hs.foldl (fun d h => d.setCommand h.1 { commandBuffer := cmdbuf, workDim := h.2 })
      d).Valid := by
  induction hs generalizing d with
  | nil => exact hv
  | cons h hs ih =>
    refine ih (hv.setCommand h.1 hb) ?_
    rw [buffers_setCommand]
    exact hb

/-- **The driver stays valid in every call that it answers.** -/
theorem Valid.apply (hv : d.Valid) {call : TrackedCall} (ha : d.Answers call) :
    (d.apply call).Valid := by
  cases call with
  | clCreateCommandBufferKHR c =>
    simp only [Driver.apply]
    split
    · next hret => exact hv.setBuffer hret _
    · exact hv
  | clRemapCommandBufferKHR c =>
    simp only [Driver.apply]
    split
    · next hret =>
      refine (hv.setBuffer hret _).setCommands ?_ _
      rw [buffers_setBuffer, if_pos rfl]
      rfl
    · exact hv
  | command c =>
    simp only [Driver.apply]
    cases c.mutableHandle with
    | none => exact hv
    | some cmd =>
      by_cases hret : c.retVal = clSuccess
      · simp only [hret, if_true]
        exact hv.setCommand cmd (ha hret).1
      · simp only [hret, if_false]
        exact hv
  | clFinalizeCommandBufferKHR c =>
    simp only [Driver.apply]
    split
    · exact hv.modifyBuffer _ _
    · exact hv
  | clRetainCommandBufferKHR c =>
    simp only [Driver.apply]
    split
    · exact hv.modifyBuffer _ _
    · exact hv
  | clReleaseCommandBufferKHR c =>
    simp only [Driver.apply]
    split
    · split
      · split
        · exact hv.destroy _
        · exact hv.modifyBuffer _ _
      · exact hv
    · exact hv

/-- A change that leaves the platform leaves all platforms. -/
theorem platformOf_modifyBuffer (cmdbuf h : Handle) {f : LiveBuffer → LiveBuffer}
    (hf : ∀ b, (f b).platform = b.platform) :
    (d.modifyBuffer cmdbuf f).platformOf h = d.platformOf h := by
  unfold modifyBuffer platformOf
  split
  · next b hb =>
    rw [buffers_setBuffer]
    split
    · next heq => rw [heq, hb, Option.map_some, Option.map_some, hf]
    · rfl
  · rfl

/-- No command is changed with its command buffer. -/
theorem commands_modifyBuffer (cmdbuf : Handle) (f : LiveBuffer → LiveBuffer) :
    (d.modifyBuffer cmdbuf f).commands = d.commands := by
  unfold modifyBuffer
  split <;> rfl

/-- A change of the references does not end a recording. -/
theorem isRecording_modifyBuffer (cmdbuf h : Handle) {f : LiveBuffer → LiveBuffer}
    (hf : ∀ b, (f b).isRecording = b.isRecording) :
    (d.modifyBuffer cmdbuf f).IsRecording h ↔ d.IsRecording h := by
  unfold modifyBuffer IsRecording
  split
  · next b hb =>
    rw [buffers_setBuffer]
    split
    · next heq => simp [heq, hb, hf]
    · exact Iff.rfl
  · exact Iff.rfl

/-- The platforms and the commands say what is known of every command. -/
theorem infoOf_congr {d' : Driver} {cmd : Handle} (hc : d'.commands cmd = d.commands cmd)
    (hp : ∀ k, d.commands cmd = some k →
      d'.platformOf k.commandBuffer = d.platformOf k.commandBuffer) :
    d'.infoOf cmd = d.infoOf cmd := by
  unfold infoOf
  rw [hc]
  cases hk : d.commands cmd with
  | none => rfl
  | some k => rw [Option.bind_some, Option.bind_some, hp k hk]

end Driver

end CLIntercept.CommandBuffer
