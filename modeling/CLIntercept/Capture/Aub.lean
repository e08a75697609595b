import CLIntercept.Enqueue
import CLIntercept.Lib.Printf
import CLIntercept.Lib.Run
import CLIntercept.Track.Programs

/-!
# Aub capture

The layer starts an aub capture before an enqueue and stops it after one. Both are macros that every
enqueue entry point places itself: the first looks at the enqueue counter and, for kernels, at the
signature of the launch and two counters of kernels; the second stops outside the window of the
enqueue counter, and always where every kernel gets a capture of its own.

The state is the layer's, with the log of what was asked of the capture tool and of the driver. Two
entry points have no stop. `captureWindow_iff` says of every run that this is all that can keep a
capture running past the window.
-/

set_option autoImplicit false

namespace CLIntercept.Capture

open CLIntercept.Lib CLIntercept.Track

/-! ## The code -/

/-- What is asked of the capture tool, and the commands that reach the driver, each with the number
of its enqueue call in the run. -/
inductive AubEvent where
  | finish (queue : Handle)
  | start (fileName : String)
  | command (call : Nat)
  | stop
  deriving DecidableEq, Repr

/-- The members that aub capture reads and writes. The log is the last event first, and `calls`
counts the enqueue calls. -/
structure AubState where
  enqueueCounter : UInt64 := 0
  aubCaptureStarted : Bool := false
  aubCaptureKernelEnqueueSkipCounter : UInt32 := 0
  aubCaptureKernelEnqueueCaptureCounter : UInt32 := 0
  aubCaptureSet : List String := []
  log : List AubEvent := []
  calls : Nat := 0

/-- An enqueue call. The info and the short name are what the maps hold of the kernel at that time.
Only the calls that launch one look at the last five. -/
structure AubEnqueue where
  function : EnqueueFunction
  commandQueue : Handle
  kernel : Handle := null
  kernelInfo : SKernelInfo := {}
  shortKernelName : String := ""
  workDim : UInt32 := 0
  gws : Option (List UInt64) := none
  lws : Option (List UInt64) := none

/-- The sizes of a launch, `NULL` for none. -/
def sizeString (workDim : UInt32) : Option (List UInt64) → String
  | some sizes =>
    "x".intercalate ((sizes.take (min workDim.toNat 3)).map fun n => number 10 1 n.toNat)
  | none => "NULL"

def incrementEnqueueCounter (s : AubState) : UInt64 × AubState :=
  (s.enqueueCounter, { s with enqueueCounter := s.enqueueCounter + 1 })

def checkAubCaptureEnqueueLimits (config : Config) (enqueueCounter : UInt64) : Bool :=
  enqueueCounter ≥ config.aubCaptureMinEnqueue.toUInt64 &&
    enqueueCounter ≤ config.aubCaptureMaxEnqueue.toUInt64

/-- The key of `AubCaptureUniqueKernels`. -/
def signatureKey (config : Config) (kernelInfo : SKernelInfo) (workDim : UInt32)
    (gws lws : Option (List UInt64)) : String :=
  let hashString :=
    (if config.omitProgramNumber then "(" else "(" ++ number 10 4 kernelInfo.programNumber.toNat ++ "_")
      ++ number 16 8 kernelInfo.programHash.toUInt32.toNat ++ "_"
      ++ number 10 4 kernelInfo.compileCount.toNat ++ "_"
      ++ number 16 8 kernelInfo.optionsHash.toUInt32.toNat ++ ")"
  kernelInfo.kernelName ++ hashString
    ++ (if gws.isSome then " GWS[ " ++ sizeString workDim gws ++ " ]" else "")
    ++ " LWS[ " ++ sizeString workDim lws ++ " ]"

/-- A control for sizes: empty and `*` match all. -/
def sizeMatches (control : String) (workDim : UInt32) (sizes : Option (List UInt64)) : Bool :=
  control == "" || control == "*" || control == sizeString workDim sizes

def checkAubCaptureKernelSignature (config : Config) (kernelInfo : SKernelInfo) (workDim : UInt32)
    (gws lws : Option (List UInt64)) (s : AubState) : Bool × AubState :=
  if (config.aubCaptureKernelName == "" || kernelInfo.kernelName == config.aubCaptureKernelName) &&
      sizeMatches config.aubCaptureKernelGWS workDim gws &&
      sizeMatches config.aubCaptureKernelLWS workDim lws then
    if config.aubCaptureUniqueKernels then
      let key := signatureKey config kernelInfo workDim gws lws
      if key ∈ s.aubCaptureSet then (false, s)
      else (true, { s with aubCaptureSet := key :: s.aubCaptureSet })
    else (true, s)
  else (false, s)

/-- The name of the file, after the dump directory. -/
def aubFileName (config : Config) (functionName : String) (enqueueCounter : UInt64)
    (kernel : Handle) (shortKernelName : String) (workDim : UInt32)
    (gws lws : Option (List UInt64)) : String :=
  (if config.aubCaptureIndividualEnqueues then
    "AubCapture_Enqueue_" ++ number 10 8 enqueueCounter.toUInt32.toNat ++ "_" ++
      (if kernel ≠ null then
        "kernel_" ++ shortKernelName ++ "_G_" ++ sizeString workDim gws ++ "_L_"
          ++ sizeString workDim lws
      else functionName)
  else if config.aubCaptureMinEnqueue ≠ 0 || config.aubCaptureMaxEnqueue ≠ 0xffffffff then
    "AubCapture_Enqueue_" ++ number 10 8 config.aubCaptureMinEnqueue.toNat ++ "_to_"
      ++ number 10 8 config.aubCaptureMaxEnqueue.toNat
  else "AubCapture") ++ if config.windows && config.aubCaptureKDC then ".daf" else ".aub"

/-- The counters of kernels: whether this one is skipped. -/
def skipKernel (config : Config) (kernel : Handle) (s : AubState) : Bool × AubState :=
  if kernel ≠ null then
    if s.aubCaptureKernelEnqueueSkipCounter < config.aubCaptureNumKernelEnqueuesSkip then
      (true,
        { s with aubCaptureKernelEnqueueSkipCounter := s.aubCaptureKernelEnqueueSkipCounter + 1 })
    else
      (decide (s.aubCaptureKernelEnqueueCaptureCounter ≥ config.aubCaptureNumKernelEnqueuesCapture),
        { s with
          aubCaptureKernelEnqueueCaptureCounter := s.aubCaptureKernelEnqueueCaptureCounter + 1 })
  else (false, s)

def startAubCapture (config : Config) (functionName : String) (enqueueCounter : UInt64)
    (kernel : Handle) (shortKernelName : String) (workDim : UInt32)
    (gws lws : Option (List UInt64)) (commandQueue : Handle) (s : AubState) : AubState :=
  if s.aubCaptureStarted then s
  else
    let (skip, s) := skipKernel config kernel s
    if skip then s
    else
      let fileName := aubFileName config functionName enqueueCounter kernel shortKernelName workDim
        gws lws
      { s with
        log := .start fileName :: .finish commandQueue :: s.log
        aubCaptureStarted := true }

def stopAubCapture (commandQueue : Handle) (s : AubState) : AubState :=
  if s.aubCaptureStarted then
    let log := if commandQueue ≠ null then .finish commandQueue :: s.log else s.log
    { s with log := .stop :: log, aubCaptureStarted := false }
  else s

/-- `CHECK_AUBCAPTURE_START`. -/
def checkAubCaptureStart (config : Config) (functionName : String) (enqueueCounter : UInt64)
    (commandQueue : Handle) (s : AubState) : AubState :=
  if config.aubCapture && checkAubCaptureEnqueueLimits config enqueueCounter &&
      !config.aubCaptureIndividualEnqueues then
    startAubCapture config functionName enqueueCounter null "" 0 none none commandQueue s
  else s

/-- `CHECK_AUBCAPTURE_START_KERNEL`. -/
def checkAubCaptureStartKernel (config : Config) (functionName : String) (enqueueCounter : UInt64)
    (e : AubEnqueue) (s : AubState) : AubState :=
  if config.aubCapture && checkAubCaptureEnqueueLimits config enqueueCounter then
    let (isMatch, s) :=
      checkAubCaptureKernelSignature config e.kernelInfo e.workDim e.gws e.lws s
    if isMatch then
      startAubCapture config functionName enqueueCounter e.kernel e.shortKernelName e.workDim e.gws
        e.lws e.commandQueue s
    else s
  else s

/-- `CHECK_AUBCAPTURE_STOP`. -/
def checkAubCaptureStop (config : Config) (enqueueCounter : UInt64) (commandQueue : Handle)
    (s : AubState) : AubState :=
  if config.aubCapture && (config.aubCaptureIndividualEnqueues ||
      !checkAubCaptureEnqueueLimits config enqueueCounter) then
    stopAubCapture commandQueue s
  else s

/-- The start of an enqueue call, as its entry point has it. -/
def captureBefore (config : Config) (e : AubEnqueue) (enqueueCounter : UInt64) (s : AubState) :
    AubState :=
  if e.function.enqueuesKernel then
    checkAubCaptureStartKernel config e.function.name enqueueCounter e s
  else checkAubCaptureStart config e.function.name enqueueCounter e.commandQueue s

/-- What goes to the driver. -/
def sendCommand (config : Config) (s : AubState) : AubState :=
  if config.nullEnqueue then s else { s with log := .command s.calls :: s.log }

/-- The end of an enqueue call. -/
def captureAfter (config : Config) (e : AubEnqueue) (enqueueCounter : UInt64) (s : AubState) :
    AubState :=
  if e.function.checksAubCaptureStop then
    checkAubCaptureStop config enqueueCounter e.commandQueue s
  else s

/-- An enqueue call, as far as aub capture goes. -/
def enqueueCall (config : Config) (s : AubState) (e : AubEnqueue) : AubState :=
  let (enqueueCounter, s) := incrementEnqueueCounter s
  let s := captureBefore config e enqueueCounter s
  let s := sendCommand config s
  let s := captureAfter config e enqueueCounter s
  { s with calls := s.calls + 1 }

/-! ## Captures -/

/-- Whether a capture is running after these events, the last first. -/
def running : List AubEvent → Bool
  | [] => false
  | .start _ :: _ => true
  | .stop :: _ => false
  | .finish _ :: log | .command _ :: log => running log

/-- A start while a capture is running. -/
def StartedTwice : List AubEvent → Prop
  | [] => False
  | .start _ :: log => running log = true ∨ StartedTwice log
  | _ :: log => StartedTwice log

/-- The captures, the last first, each with the calls that the commands in it are of. -/
def captures : List AubEvent → List (List Nat)
  | [] => []
  | .start _ :: log => [] :: captures log
  | .command call :: log =>
    match running log, captures log with
    | true, calls :: rest => (call :: calls) :: rest
    | _, all => all
  | .finish _ :: log | .stop :: log => captures log

/-- No capture has commands of two calls. -/
def OneCallEach (log : List AubEvent) : Prop :=
  ∀ calls ∈ captures log, ∀ i ∈ calls, ∀ j ∈ calls, i = j

/-- A finish leaves a capture running, or not running. -/
@[simp] theorem running_finish (queue : Handle) (log : List AubEvent) :
    running (.finish queue :: log) = running log := rfl

/-- A command leaves a capture running, or not running. -/
@[simp] theorem running_command (call : Nat) (log : List AubEvent) :
    running (.command call :: log) = running log := rfl

/-- A capture runs after its start. -/
@[simp] theorem running_start (fileName : String) (log : List AubEvent) :
    running (.start fileName :: log) = true := rfl

/-- No capture runs after a stop. -/
@[simp] theorem running_stop (log : List AubEvent) : running (.stop :: log) = false := rfl

/-- A command outside of every capture. -/
theorem captures_command_of_not_running {log : List AubEvent} (call : Nat)
    (h : running log = false) : captures (.command call :: log) = captures log := by
  simp only [captures, h]

/-- The flag tells whether a capture is running. -/
def Consistent (s : AubState) : Prop := s.aubCaptureStarted = running s.log

/-! ## What one call can do -/

/-- What the start of a call may do to the log: nothing, or start a capture where none is running. -/
structure MayStart (s s' : AubState) : Prop where
  calls : s'.calls = s.calls
  log : (s'.aubCaptureStarted = s.aubCaptureStarted ∧ s'.log = s.log) ∨
    (s.aubCaptureStarted = false ∧ s'.aubCaptureStarted = true ∧
      ∃ fileName queue, s'.log = .start fileName :: .finish queue :: s.log)

/-- Nothing happened. -/
theorem MayStart.refl (s : AubState) : MayStart s s := ⟨rfl, .inl ⟨rfl, rfl⟩⟩

/-- A kernel that is skipped is counted, no more. -/
theorem skipKernel_frame (config : Config) (kernel : Handle) (s : AubState) :
    (skipKernel config kernel s).2.calls = s.calls ∧
      (skipKernel config kernel s).2.aubCaptureStarted = s.aubCaptureStarted ∧
      (skipKernel config kernel s).2.log = s.log := by
  unfold skipKernel
  split
  · split
    · exact ⟨rfl, rfl, rfl⟩
    · exact ⟨rfl, rfl, rfl⟩
  · exact ⟨rfl, rfl, rfl⟩

/-- The flag goes with the capture that may be started. -/
theorem MayStart.consistent {s s' : AubState} (h : MayStart s s') (hs : Consistent s) :
    Consistent s' := by
  obtain ⟨hstarted, hlog⟩ | ⟨_, hstarted, _, _, hlog⟩ := h.log
  · rw [Consistent, hstarted, hlog]
    exact hs
  · rw [Consistent, hstarted, hlog]
    rfl

/-- A capture is only started while none runs. -/
theorem MayStart.not_startedTwice {s s' : AubState} (h : MayStart s s') (hs : Consistent s)
    (hn : ¬ StartedTwice s.log) : ¬ StartedTwice s'.log := by
  obtain ⟨_, hlog⟩ | ⟨hstarted, _, _, _, hlog⟩ := h.log
  · rw [hlog]
    exact hn
  · rw [hlog]
    have hidle : running s.log = false := hs ▸ hstarted
    simp [StartedTwice, hidle, hn]

/-- **`startAubCapture` starts a capture or does nothing.** -/
theorem startAubCapture_mayStart (config : Config) (functionName : String) (enqueueCounter : UInt64)
    (kernel : Handle) (shortKernelName : String) (workDim : UInt32) (gws lws : Option (List UInt64))
    (commandQueue : Handle) (s : AubState) :
    MayStart s (startAubCapture config functionName enqueueCounter kernel shortKernelName workDim gws
      lws commandQueue s) := by
  obtain ⟨hcalls, hstarted, hlog⟩ := skipKernel_frame config kernel s
  unfold startAubCapture
  split
  · exact .refl s
  · next hnot =>
    simp only
    split
    · exact ⟨hcalls, .inl ⟨hstarted, hlog⟩⟩
    · exact ⟨hcalls, .inr ⟨by simpa using hnot, rfl, _, _, by rw [hlog]⟩⟩

/-- The check of a signature writes to its set alone. -/
theorem checkAubCaptureKernelSignature_frame (config : Config) (kernelInfo : SKernelInfo)
    (workDim : UInt32) (gws lws : Option (List UInt64)) (s : AubState) :
    ∃ set, (checkAubCaptureKernelSignature config kernelInfo workDim gws lws s).2 =
      { s with aubCaptureSet := set } := by
  unfold checkAubCaptureKernelSignature
  split
  · split
    · simp only
      split
      · exact ⟨_, rfl⟩
      · exact ⟨_, rfl⟩
    · exact ⟨_, rfl⟩
  · exact ⟨_, rfl⟩

/-- All that comes before the command may start a capture, at most. -/
theorem captureBefore_mayStart (config : Config) (e : AubEnqueue) (enqueueCounter : UInt64)
    (s : AubState) : MayStart s (captureBefore config e enqueueCounter s) := by
  unfold captureBefore checkAubCaptureStartKernel checkAubCaptureStart
  split
  · split
    · obtain ⟨set, hset⟩ :=
        checkAubCaptureKernelSignature_frame config e.kernelInfo e.workDim e.gws e.lws s
      simp only
      split
      · rw [hset]
        obtain ⟨hcalls, hlog⟩ := startAubCapture_mayStart config e.function.name enqueueCounter
          e.kernel e.shortKernelName e.workDim e.gws e.lws e.commandQueue
          { s with aubCaptureSet := set }
        exact ⟨hcalls, hlog⟩
      · rw [hset]
        exact ⟨rfl, .inl ⟨rfl, rfl⟩⟩
    · exact .refl s
  · split
    · exact startAubCapture_mayStart ..
    · exact .refl s

/-- Outside the window nothing is started. -/
theorem captureBefore_outside {config : Config} {enqueueCounter : UInt64} (e : AubEnqueue)
    (s : AubState) (h : checkAubCaptureEnqueueLimits config enqueueCounter = false) :
    captureBefore config e enqueueCounter s = s := by
  simp [captureBefore, checkAubCaptureStartKernel, checkAubCaptureStart, h]

/-- Where every kernel gets a capture of its own, other calls start none. -/
theorem captureBefore_individual {config : Config} (enqueueCounter : UInt64) {e : AubEnqueue}
    (s : AubState) (hi : config.aubCaptureIndividualEnqueues = true)
    (he : e.function.enqueuesKernel = false) : captureBefore config e enqueueCounter s = s := by
  simp [captureBefore, checkAubCaptureStart, hi, he]

/-- Whether the end of a call stops what is running. -/
def stopsAfter (config : Config) (e : AubEnqueue) (enqueueCounter : UInt64) : Bool :=
  e.function.checksAubCaptureStop && (config.aubCapture && (config.aubCaptureIndividualEnqueues ||
    !checkAubCaptureEnqueueLimits config enqueueCounter))

/-- What comes after it may stop one. -/
theorem captureAfter_eq (config : Config) (e : AubEnqueue) (enqueueCounter : UInt64)
    (s : AubState) : captureAfter config e enqueueCounter s =
      if stopsAfter config e enqueueCounter then stopAubCapture e.commandQueue s else s := by
  unfold captureAfter checkAubCaptureStop stopsAfter
  cases e.function.checksAubCaptureStop with
  | false => rfl
  | true => rfl

/-- A stop is no call. -/
@[simp] theorem stopAubCapture_calls (commandQueue : Handle) (s : AubState) :
    (stopAubCapture commandQueue s).calls = s.calls := by
  unfold stopAubCapture
  split <;> rfl

/-- A stop captures nothing. -/
theorem captures_stopAubCapture (commandQueue : Handle) (s : AubState) :
    captures (stopAubCapture commandQueue s).log = captures s.log := by
  unfold stopAubCapture
  split
  · simp only
    split <;> rfl
  · rfl

/-- A stop starts nothing. -/
theorem startedTwice_stopAubCapture (commandQueue : Handle) (s : AubState) :
    StartedTwice (stopAubCapture commandQueue s).log ↔ StartedTwice s.log := by
  unfold stopAubCapture
  split
  · simp only
    split <;> rfl
  · rfl

/-- **After a stop nothing runs**, if the flag was right. -/
theorem running_stopAubCapture (commandQueue : Handle) {s : AubState} (hs : Consistent s) :
    (stopAubCapture commandQueue s).aubCaptureStarted = false ∧
      running (stopAubCapture commandQueue s).log = false := by
  unfold stopAubCapture
  split
  · exact ⟨rfl, rfl⟩
  · next hnot =>
    have hidle : s.aubCaptureStarted = false := by simpa using hnot
    exact ⟨hidle, by rw [← hs, hidle]⟩

/-- A command is sent once, if at all. -/
theorem sendCommand_log (config : Config) (s : AubState) :
    (sendCommand config s).aubCaptureStarted = s.aubCaptureStarted ∧
      (sendCommand config s).calls = s.calls ∧
      ((sendCommand config s).log = s.log ∨ (sendCommand config s).log = .command s.calls :: s.log) := by
  unfold sendCommand
  split
  · exact ⟨rfl, rfl, .inl rfl⟩
  · exact ⟨rfl, rfl, .inr rfl⟩

/-! ## Runs -/

section

variable {config : Config} {s : AubState} {e : AubEnqueue}

/-- The call before its end. -/
def beforeStop (config : Config) (s : AubState) (e : AubEnqueue) : AubState :=
  sendCommand config (captureBefore config e s.enqueueCounter (incrementEnqueueCounter s).2)

/-- An enqueue is what comes before its stop, and the stop. -/
theorem enqueueCall_eq (config : Config) (s : AubState) (e : AubEnqueue) :
    enqueueCall config s e =
      let s' := if stopsAfter config e s.enqueueCounter then
        stopAubCapture e.commandQueue (beforeStop config s e) else beforeStop config s e
      { s' with calls := s'.calls + 1 } := by
  rw [← captureAfter_eq]
  rfl

/-- Before the stop a capture may start, and the command is sent. -/
theorem beforeStop_mayStart (config : Config) (s : AubState) (e : AubEnqueue) :
    ∃ s₁, MayStart s s₁ ∧ beforeStop config s e = sendCommand config s₁ := by
  have h := captureBefore_mayStart config e s.enqueueCounter (incrementEnqueueCounter s).2
  exact ⟨_, ⟨h.calls, h.log⟩, rfl⟩

/-- The flag stays right. -/
theorem beforeStop_consistent (hs : Consistent s) : Consistent (beforeStop config s e) := by
  obtain ⟨s₁, hmay, heq⟩ := beforeStop_mayStart config s e
  obtain ⟨hstarted, _, hlog | hlog⟩ := sendCommand_log config s₁
  · rw [heq, Consistent, hstarted, hlog]
    exact hmay.consistent hs
  · rw [heq, Consistent, hstarted, hlog]
    exact hmay.consistent hs

/-- No capture is started within another. -/
theorem beforeStop_not_startedTwice (hs : Consistent s) (hn : ¬ StartedTwice s.log) :
    ¬ StartedTwice (beforeStop config s e).log := by
  obtain ⟨s₁, hmay, heq⟩ := beforeStop_mayStart config s e
  have h := hmay.not_startedTwice hs hn
  obtain ⟨_, _, hlog | hlog⟩ := sendCommand_log config s₁
  · rw [heq, hlog]
    exact h
  · rw [heq, hlog]
    exact h

/-- A call that finds no capture running puts its own commands into captures and no others. -/
theorem beforeStop_oneCallEach (hidle : running s.log = false) (h : OneCallEach s.log) :
    OneCallEach (beforeStop config s e).log := by
  obtain ⟨s₁, hmay, heq⟩ := beforeStop_mayStart config s e
  obtain ⟨_, hlog₁⟩ | ⟨_, _, fileName, queue, hlog₁⟩ := hmay.log
  · have hcaptures : captures (beforeStop config s e).log = captures s.log := by
      obtain ⟨_, _, hlog | hlog⟩ := sendCommand_log config s₁
      · rw [heq, hlog, hlog₁]
      · rw [heq, hlog, hlog₁, captures_command_of_not_running _ hidle]
    rw [OneCallEach, hcaptures]
    exact h
  · have hcaptures : captures (beforeStop config s e).log = [] :: captures s.log ∨
        captures (beforeStop config s e).log = [s₁.calls] :: captures s.log := by
      obtain ⟨_, _, hlog | hlog⟩ := sendCommand_log config s₁
      · left
        rw [heq, hlog, hlog₁]
        rfl
      · right
        rw [heq, hlog, hlog₁]
        rfl
    intro calls hmem i hi j hj
    obtain hcaptures | hcaptures := hcaptures
    · rw [hcaptures, List.mem_cons] at hmem
      rcases hmem with rfl | hmem
      · exact absurd hi List.not_mem_nil
      · exact h calls hmem i hi j hj
    · rw [hcaptures, List.mem_cons] at hmem
      rcases hmem with rfl | hmem
      · rw [List.mem_singleton.mp hi, List.mem_singleton.mp hj]
      · exact h calls hmem i hi j hj

/-- What every call keeps. -/
theorem enqueueCall_inv (hs : Consistent s) (hn : ¬ StartedTwice s.log) :
    Consistent (enqueueCall config s e) ∧ ¬ StartedTwice (enqueueCall config s e).log := by
  have hs' : Consistent (beforeStop config s e) := beforeStop_consistent hs
  have hn' : ¬ StartedTwice (beforeStop config s e).log := beforeStop_not_startedTwice hs hn
  rw [enqueueCall_eq]
  simp only
  split
  · obtain ⟨hflag, hlog⟩ := running_stopAubCapture e.commandQueue hs'
    exact ⟨hflag.trans hlog.symm, (startedTwice_stopAubCapture _ _).not.mpr hn'⟩
  · exact ⟨hs', hn'⟩

/-- If no capture runs before it, a call keeps each capture to the commands of one call. -/
theorem enqueueCall_oneCallEach (hidle : running s.log = false) (h : OneCallEach s.log) :
    OneCallEach (enqueueCall config s e).log := by
  have h' : OneCallEach (beforeStop config s e).log := beforeStop_oneCallEach hidle h
  rw [enqueueCall_eq]
  simp only
  split
  · rw [OneCallEach, captures_stopAubCapture]
    exact h'
  · exact h'

/-- A call that stops leaves nothing running. -/
theorem running_enqueueCall_of_stops (hs : Consistent s)
    (hstop : stopsAfter config e s.enqueueCounter = true) :
    running (enqueueCall config s e).log = false := by
  rw [enqueueCall_eq, if_pos hstop]
  exact (running_stopAubCapture e.commandQueue (beforeStop_consistent hs)).2

/-- A call that neither starts nor stops leaves what is running. -/
theorem running_enqueueCall_of_idle
    (hstart : captureBefore config e s.enqueueCounter (incrementEnqueueCounter s).2 =
      (incrementEnqueueCounter s).2)
    (hstop : stopsAfter config e s.enqueueCounter = false) :
    running (enqueueCall config s e).log = running s.log := by
  rw [enqueueCall_eq, if_neg (by rw [hstop]; exact Bool.false_ne_true)]
  show running (beforeStop config s e).log = running s.log
  rw [beforeStop, hstart]
  obtain ⟨_, _, hlog | hlog⟩ := sendCommand_log config (incrementEnqueueCounter s).2
  · rw [hlog]
    rfl
  · rw [hlog]
    rfl

end

/-- Runs of enqueue calls. -/
def captureSystem (config : Config) : System AubState AubEnqueue where
  step := enqueueCall config
  legal _ _ := True

/-- What the log of a run should be like at any time. -/
structure CaptureWindow (config : Config) (s : AubState) : Prop where
  notStartedTwice : ¬ StartedTwice s.log
  individual : config.aubCaptureIndividualEnqueues = true →
    running s.log = false ∧ OneCallEach s.log

/-- Outside the window no capture is running when the call has returned. -/
def ClosesWindow (config : Config) (s : AubState) (e : AubEnqueue) : Prop :=
  checkAubCaptureEnqueueLimits config s.enqueueCounter = false →
    running (enqueueCall config s e).log = false

/-- The calls that close the window: all but one outside of it that finds a capture running and
whose entry point has no stop. -/
def HasStop (config : Config) (s : AubState) (e : AubEnqueue) : Prop :=
  e.function.checksAubCaptureStop = true ∨
    checkAubCaptureEnqueueLimits config s.enqueueCounter = true ∨ running s.log = false

section

variable {config : Config} {s : AubState} {e : AubEnqueue}

/-- With captures of their own for kernels, every call leaves none running. -/
theorem enqueueCall_captureWindow (h : config.aubCapture = true) (hs : Consistent s)
    (hp : CaptureWindow config s) : CaptureWindow config (enqueueCall config s e) := by
  refine ⟨(enqueueCall_inv hs hp.notStartedTwice).2, fun hi => ?_⟩
  obtain ⟨hidle, hcalls⟩ := hp.individual hi
  refine ⟨?_, enqueueCall_oneCallEach hidle hcalls⟩
  cases hstop : e.function.checksAubCaptureStop with
  | true => exact running_enqueueCall_of_stops hs (by simp [stopsAfter, hstop, h, hi])
  | false =>
    have hstart : captureBefore config e s.enqueueCounter (incrementEnqueueCounter s).2 =
        (incrementEnqueueCounter s).2 :=
      captureBefore_individual _ _ hi (EnqueueFunction.enqueuesKernel_of_no_stop hstop)
    rw [running_enqueueCall_of_idle hstart (by simp [stopsAfter, hstop])]
    exact hidle

/-- **A call closes its window if it has a stop that applies.** -/
theorem closesWindow_iff (h : config.aubCapture = true) (hs : Consistent s) :
    ClosesWindow config s e ↔ HasStop config s e := by
  unfold ClosesWindow HasStop
  cases hout : checkAubCaptureEnqueueLimits config s.enqueueCounter with
  | true => simp
  | false =>
    cases hstop : e.function.checksAubCaptureStop with
    | true =>
      have hnone : running (enqueueCall config s e).log = false :=
        running_enqueueCall_of_stops hs (by simp [stopsAfter, hstop, h, hout])
      simp [hnone]
    | false =>
      have hsame : running (enqueueCall config s e).log = running s.log :=
        running_enqueueCall_of_idle (captureBefore_outside e _ hout) (by simp [stopsAfter, hstop])
      simp [hsame]

end

/-- **The capture window**: a run never starts a capture twice, leaves none running where kernels
are captured one by one, and closes the window exactly when each of its calls does. -/
theorem captureWindow_iff (config : Config) (h : config.aubCapture = true) (es : List AubEnqueue) :
    (captureSystem config).Always (CaptureWindow config) {} es ∧
        (captureSystem config).Each (ClosesWindow config) {} es ↔
      (captureSystem config).Each (HasStop config) {} es := by
  refine System.always_and_each_iff_each (I := fun s => Consistent s ∧ ¬ StartedTwice s.log)
    (fun s e hinv _ => enqueueCall_inv hinv.1 hinv.2)
    (fun s e hinv hp _ => ?_) ⟨rfl, id⟩ ⟨id, fun _ => ⟨rfl, ?_⟩⟩
    (System.each_of_forall (fun _ _ => trivial) _ _)
  · show CaptureWindow config (enqueueCall config s e) ∧ ClosesWindow config s e ↔ HasStop config s e
    rw [closesWindow_iff h hinv.1]
    exact and_iff_right (enqueueCall_captureWindow h hinv.1 hp)
  · intro calls hcalls
    exact absurd hcalls List.not_mem_nil

/-- The first call alone is to be captured. -/
def firstCallOnly : Config where
  aubCapture := true
  aubCaptureMaxEnqueue := 0

theorem captureWindow_read_write :
    (captureSystem firstCallOnly).Each (HasStop firstCallOnly) {}
        [⟨.clEnqueueReadBuffer, 1, null, {}, "", 0, none, none⟩,
          ⟨.clEnqueueWriteBuffer, 1, null, {}, "", 0, none, none⟩] ∧
      (captureSystem firstCallOnly).Each (ClosesWindow firstCallOnly) {}
        [⟨.clEnqueueReadBuffer, 1, null, {}, "", 0, none, none⟩,
          ⟨.clEnqueueWriteBuffer, 1, null, {}, "", 0, none, none⟩] := by
  have hstop : (captureSystem firstCallOnly).Each (HasStop firstCallOnly) {}
      [⟨.clEnqueueReadBuffer, 1, null, {}, "", 0, none, none⟩,
        ⟨.clEnqueueWriteBuffer, 1, null, {}, "", 0, none, none⟩] :=
    ⟨.inl rfl, .inl rfl, trivial⟩
  exact ⟨hstop, ((captureWindow_iff firstCallOnly rfl _).mpr hstop).2⟩

/-- `clEnqueueMigrateMemObjects` after the window leaves the capture running. -/
theorem captureWindow_migrate :
    ¬ (captureSystem firstCallOnly).Each (ClosesWindow firstCallOnly) {}
      [⟨.clEnqueueReadBuffer, 1, null, {}, "", 0, none, none⟩,
        ⟨.clEnqueueMigrateMemObjects, 1, null, {}, "", 0, none, none⟩] := by
  intro h
  have hnone := h.2.1 (by decide)
  revert hnone
  decide

end CLIntercept.Capture
