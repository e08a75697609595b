import CLIntercept.Api
import CLIntercept.Lib.Printf

/-!
# The Chrome tracer

Calls and device timings become lines of a JSON file. With a buffer size they are kept as records
first, of eight kinds that share a union, and written when the buffer is full, at a flush and when
the tracer is destroyed; metadata is always written at once.

The lines that are formatted are the same for every buffer size (`lines_traceOf`). A line is formatted
into a buffer of fixed size and written from there with the length that it should have: what is in
the file of a line that does not fit is what lies behind the buffer (`sameLines_iff`).

Times are printed by `%.3f` as microseconds, a parameter here. Names end at their first NUL, so they
have none.
-/

set_option autoImplicit false

namespace CLIntercept.Trace

open CLIntercept.Lib

/-! ## Records -/

inductive RecordType where
  | CallLogging
  | CallLoggingTag
  | CallLoggingId
  | CallLoggingTagId
  | DeviceTiming
  | DeviceTimingPerKernel
  | DeviceTimingInStages
  | DeviceTimingInStagesPerKernel
  deriving DecidableEq, Repr

structure CallLoggingFields where
  threadId : UInt64 := 0
  startTime : UInt64 := 0
  delta : UInt64 := 0
  id : UInt64 := 0
  deriving DecidableEq, Repr

structure DeviceTimingFields where
  count : UInt32 := 0
  queueNumber : UInt32 := 0
  queuedTime : UInt64 := 0
  submitTime : UInt64 := 0
  startTime : UInt64 := 0
  endTime : UInt64 := 0
  id : UInt64 := 0
  deriving DecidableEq, Repr

/-- The union of a record, by the member that was written. -/
inductive RecordUnion where
  | callLogging (fields : CallLoggingFields)
  | deviceTiming (fields : DeviceTimingFields)
  deriving DecidableEq, Repr

structure Record where
  type : RecordType
  name : String
  tag : String := ""
  union : RecordUnion
  deriving DecidableEq, Repr

def Record.callLogging (r : Record) : CallLoggingFields :=
  match r.union with
  | .callLogging fields => fields
  | .deviceTiming _ => {}

def Record.deviceTiming (r : Record) : DeviceTimingFields :=
  match r.union with
  | .deviceTiming fields => fields
  | .callLogging _ => {}

/-! ## The file -/

/-- What is put into the file: a line of a call or a device timing, or other text. -/
inductive Piece where
  | line (text : String)
  | other (text : String)
  deriving DecidableEq, Repr

structure ChromeTracer where
  addFlowEvents : Bool
  processId : UInt64
  bufferSize : UInt32
  traceFile : List Piece := []
  recordBuffer : List Record := []

def ChromeTracer.put (t : ChromeTracer) (pieces : List Piece) : ChromeTracer :=
  { t with traceFile := t.traceFile ++ pieces }

/-- Pieces are put at the end of the file. -/
@[simp] theorem ChromeTracer.put_traceFile (t : ChromeTracer) (pieces : List Piece) :
    (t.put pieces).traceFile = t.traceFile ++ pieces := rfl

def decimal (n : Nat) : String := number 10 1 n

/-- The process, the track and the name of an event, after its phase. -/
def eventHead (phase : String) (processId : UInt64) (tid name : String) : String :=
  "\x7b\"ph\":\"" ++ phase ++ "\",\"pid\":" ++ decimal processId.toNat ++ ",\"tid\":" ++ tid
    ++ ",\"name\":\"" ++ name ++ "\""

def idArgs (id : UInt64) : String := ",\"args\":\x7b\"id\":" ++ decimal id.toNat ++ "\x7d"

def eventEnd : String := "\x7d,\n"

def quoted (text : String) : String := "\"" ++ text ++ "\""

/-- The colours and the suffixes of the three stages. -/
def colours : List String := ["thread_state_runnable", "cq_build_running", "thread_state_iowait"]

def suffixes : List String := ["(Queued)", "(Submitted)", "(Execution)"]

section

variable (us : UInt64 → String)

def timeSpan (startTime delta : UInt64) : String :=
  ",\"ts\":" ++ us startTime ++ ",\"dur\":" ++ us delta

/-- The start or the end of the flow from a call to its command. -/
def flowEvent (phase : String) (processId : UInt64) (tid : String) (startTime id : UInt64) :
    String :=
  eventHead phase processId tid "Command" ++ ",\"cat\":\"Commands\",\"ts\":" ++ us startTime
    ++ ",\"id\":" ++ decimal id.toNat ++ eventEnd

/-! ## The lines -/

section

variable (addFlowEvents : Bool) (processId : UInt64)

def writeCallLogging (name : String) (threadId startTime delta : UInt64) : List String :=
  [eventHead "X" processId (decimal threadId.toNat) name ++ timeSpan us startTime delta ++ eventEnd]

def writeCallLoggingTag (name tag : String) (threadId startTime delta : UInt64) : List String :=
  [eventHead "X" processId (decimal threadId.toNat) (name ++ "( " ++ tag ++ " )")
    ++ timeSpan us startTime delta ++ eventEnd]

def writeCallLoggingId (name : String) (threadId startTime delta id : UInt64) : List String :=
  (eventHead "X" processId (decimal threadId.toNat) name ++ timeSpan us startTime delta ++ idArgs id
    ++ eventEnd) ::
  if addFlowEvents then [flowEvent us "s" processId (decimal threadId.toNat) startTime id] else []

def writeCallLoggingTagId (name tag : String) (threadId startTime delta id : UInt64) :
    List String :=
  (eventHead "X" processId (decimal threadId.toNat) (name ++ "( " ++ tag ++ " )")
    ++ timeSpan us startTime delta ++ idArgs id ++ eventEnd) ::
  if addFlowEvents then [flowEvent us "s" processId (decimal threadId.toNat) startTime id] else []

def writeDeviceTiming (name : String) (queueNumber : UInt32) (startTime endTime id : UInt64) :
    List String :=
  (if addFlowEvents then
    [flowEvent us "f" processId (decimal queueNumber.toNat ++ ".1") startTime id]
  else []) ++
  [eventHead "X" processId (decimal queueNumber.toNat ++ ".1") name
    ++ timeSpan us startTime (endTime - startTime) ++ idArgs id ++ eventEnd]

def writeDeviceTimingPerKernel (name : String) (startTime endTime id : UInt64) : List String :=
  (if addFlowEvents then [flowEvent us "f" processId (quoted name) startTime id] else []) ++
  [eventHead "X" processId (quoted name) name ++ timeSpan us startTime (endTime - startTime)
    ++ idArgs id ++ eventEnd]

/-- The loop over the stages of a timing. There are no flow events for them. -/
def writeStages (tid name : String) (queuedTime submitTime startTime endTime id : UInt64) :
    List String :=
  let starts := [queuedTime, submitTime, startTime]
  let deltas := [submitTime - queuedTime, startTime - submitTime, endTime - startTime]
  ((starts.zip deltas).zip (suffixes.zip colours)).map fun ((start, delta), suffix, colour) =>
    eventHead "X" processId tid (name ++ " " ++ suffix) ++ timeSpan us start delta
      ++ ",\"cname\":\"" ++ colour ++ "\"" ++ idArgs id ++ eventEnd

def writeDeviceTimingInStages (name : String) (count queueNumber : UInt32)
    (queuedTime submitTime startTime endTime id : UInt64) : List String :=
  writeStages us processId (decimal count.toNat ++ "." ++ decimal queueNumber.toNat) name queuedTime
    submitTime startTime endTime id

def writeDeviceTimingInStagesPerKernel (name : String)
    (queuedTime submitTime startTime endTime id : UInt64) : List String :=
  writeStages us processId (quoted name) name queuedTime submitTime startTime endTime id

/-- The dispatch of `flushRecords` for one record. -/
def writeRecord (r : Record) : List String :=
  let c := r.callLogging
  let d := r.deviceTiming
  match r.type with
  | .CallLogging => writeCallLogging us processId r.name c.threadId c.startTime c.delta
  | .CallLoggingTag => writeCallLoggingTag us processId r.name r.tag c.threadId c.startTime c.delta
  | .CallLoggingId =>
    writeCallLoggingId us addFlowEvents processId r.name c.threadId c.startTime c.delta c.id
  | .CallLoggingTagId =>
    writeCallLoggingTagId us addFlowEvents processId r.name r.tag c.threadId c.startTime c.delta c.id
  | .DeviceTiming =>
    writeDeviceTiming us addFlowEvents processId r.name d.queueNumber d.startTime d.endTime d.id
  | .DeviceTimingPerKernel =>
    writeDeviceTimingPerKernel us addFlowEvents processId r.name d.startTime d.endTime d.id
  | .DeviceTimingInStages =>
    writeDeviceTimingInStages us processId r.name d.count d.queueNumber d.queuedTime d.submitTime
      d.startTime d.endTime d.id
  | .DeviceTimingInStagesPerKernel =>
    writeDeviceTimingInStagesPerKernel us processId r.name d.queuedTime d.submitTime d.startTime
      d.endTime d.id

end

/-! ## The tracer -/

/-- `m_TraceFile.write` of each line of a call or a device timing. -/
def ChromeTracer.writeLines (t : ChromeTracer) (lines : List String) : ChromeTracer :=
  t.put (lines.map .line)

/-- The loop over the records. -/
def writeRecords : List Record → ChromeTracer → ChromeTracer
  | [], t => t
  | r :: rest, t =>
    writeRecords rest (t.writeLines (writeRecord us t.addFlowEvents t.processId r))

def flushRecords (t : ChromeTracer) : ChromeTracer :=
  { writeRecords us t.recordBuffer t with recordBuffer := [] }

def checkFlushRecords (t : ChromeTracer) : ChromeTracer :=
  if t.recordBuffer.length ≥ t.bufferSize.toNat then flushRecords us t else t

/-- `m_RecordBuffer.emplace_back`, and the check. -/
def emplaceRecord (r : Record) (t : ChromeTracer) : ChromeTracer :=
  checkFlushRecords us { t with recordBuffer := t.recordBuffer ++ [r] }

def flush (t : ChromeTracer) : ChromeTracer :=
  if t.recordBuffer.length > 0 then flushRecords us t else t

/-- The public functions. The overloads of `addCallLogging` and of `addDeviceTiming` are called as
their records are. -/
inductive TracerCall where
  | addCallLogging (name : String) (threadId startTime delta : UInt64)
  | addCallLoggingTag (name tag : String) (threadId startTime delta : UInt64)
  | addCallLoggingId (name : String) (threadId startTime delta id : UInt64)
  | addCallLoggingTagId (name tag : String) (threadId startTime delta id : UInt64)
  | addDeviceTiming (name : String) (queueNumber : UInt32) (startTime endTime id : UInt64)
  | addDeviceTimingPerKernel (name : String) (startTime endTime id : UInt64)
  | addDeviceTimingInStages (name : String) (count queueNumber : UInt32)
      (queuedTime submitTime startTime endTime id : UInt64)
  | addDeviceTimingInStagesPerKernel (name : String)
      (queuedTime submitTime startTime endTime id : UInt64)
  | flush
  | addProcessMetadata (processName : String)
  | addThreadMetadata (threadId : UInt64) (threadNumber : UInt32)
  | addStartTimeMetadata (startTime : UInt64)
  | addQueueMetadata (queueNumber : UInt32) (queueName : String)
  deriving DecidableEq, Repr

def metadata (name : String) (t : ChromeTracer) (tid args : String) : Piece :=
  .other ("\x7b\"ph\":\"M\",\"name\":\"" ++ name ++ "\",\"pid\":" ++ decimal t.processId.toNat
    ++ ",\"tid\":" ++ tid ++ ",\"args\":\x7b" ++ args ++ "\x7d\x7d,\n")

def addCallLogging (name : String) (threadId startTime delta : UInt64) (t : ChromeTracer) :
    ChromeTracer :=
  if t.bufferSize = 0 then
    t.writeLines (writeCallLogging us t.processId name threadId startTime delta)
  else emplaceRecord us ⟨.CallLogging, name, "", .callLogging ⟨threadId, startTime, delta, 0⟩⟩ t

def addCallLoggingTag (name tag : String) (threadId startTime delta : UInt64) (t : ChromeTracer) :
    ChromeTracer :=
  if t.bufferSize = 0 then
    t.writeLines (writeCallLoggingTag us t.processId name tag threadId startTime delta)
  else emplaceRecord us ⟨.CallLoggingTag, name, tag, .callLogging ⟨threadId, startTime, delta, 0⟩⟩ t

def addCallLoggingId (name : String) (threadId startTime delta id : UInt64) (t : ChromeTracer) :
    ChromeTracer :=
  if t.bufferSize = 0 then
    t.writeLines (writeCallLoggingId us t.addFlowEvents t.processId name threadId startTime delta id)
  else emplaceRecord us ⟨.CallLoggingId, name, "", .callLogging ⟨threadId, startTime, delta, id⟩⟩ t

def addCallLoggingTagId (name tag : String) (threadId startTime delta id : UInt64)
    (t : ChromeTracer) : ChromeTracer :=
  if t.bufferSize = 0 then
    t.writeLines
      (writeCallLoggingTagId us t.addFlowEvents t.processId name tag threadId startTime delta id)
  else
    emplaceRecord us ⟨.CallLoggingTagId, name, tag, .callLogging ⟨threadId, startTime, delta, id⟩⟩ t

def addDeviceTiming (name : String) (queueNumber : UInt32) (startTime endTime id : UInt64)
    (t : ChromeTracer) : ChromeTracer :=
  if t.bufferSize = 0 then
    t.writeLines
      (writeDeviceTiming us t.addFlowEvents t.processId name queueNumber startTime endTime id)
  else
    emplaceRecord us ⟨.DeviceTiming, name, "", .deviceTiming
      { queueNumber := queueNumber, startTime := startTime, endTime := endTime, id := id }⟩ t

def addDeviceTimingPerKernel (name : String) (startTime endTime id : UInt64) (t : ChromeTracer) :
    ChromeTracer :=
  if t.bufferSize = 0 then
    t.writeLines
      (writeDeviceTimingPerKernel us t.addFlowEvents t.processId name startTime endTime id)
  else
    emplaceRecord us ⟨.DeviceTimingPerKernel, name, "", .deviceTiming
      { startTime := startTime, endTime := endTime, id := id }⟩ t

def addDeviceTimingInStages (name : String) (count queueNumber : UInt32)
    (queuedTime submitTime startTime endTime id : UInt64) (t : ChromeTracer) : ChromeTracer :=
  if t.bufferSize = 0 then
    t.writeLines (writeDeviceTimingInStages us t.processId name count queueNumber queuedTime
      submitTime startTime endTime id)
  else
    emplaceRecord us ⟨.DeviceTimingInStages, name, "", .deviceTiming
      ⟨count, queueNumber, queuedTime, submitTime, startTime, endTime, id⟩⟩ t

def addDeviceTimingInStagesPerKernel (name : String)
    (queuedTime submitTime startTime endTime id : UInt64) (t : ChromeTracer) : ChromeTracer :=
  if t.bufferSize = 0 then
    t.writeLines (writeDeviceTimingInStagesPerKernel us t.processId name queuedTime submitTime
      startTime endTime id)
  else
    emplaceRecord us ⟨.DeviceTimingInStagesPerKernel, name, "", .deviceTiming
      { queuedTime := queuedTime, submitTime := submitTime, startTime := startTime
        endTime := endTime, id := id }⟩ t

def tracerStep (t : ChromeTracer) : TracerCall → ChromeTracer
  | .addCallLogging name threadId startTime delta =>
    addCallLogging us name threadId startTime delta t
  | .addCallLoggingTag name tag threadId startTime delta =>
    addCallLoggingTag us name tag threadId startTime delta t
  | .addCallLoggingId name threadId startTime delta id =>
    addCallLoggingId us name threadId startTime delta id t
  | .addCallLoggingTagId name tag threadId startTime delta id =>
    addCallLoggingTagId us name tag threadId startTime delta id t
  | .addDeviceTiming name queueNumber startTime endTime id =>
    addDeviceTiming us name queueNumber startTime endTime id t
  | .addDeviceTimingPerKernel name startTime endTime id =>
    addDeviceTimingPerKernel us name startTime endTime id t
  | .addDeviceTimingInStages name count queueNumber queuedTime submitTime startTime endTime id =>
    addDeviceTimingInStages us name count queueNumber queuedTime submitTime startTime endTime id t
  | .addDeviceTimingInStagesPerKernel name queuedTime submitTime startTime endTime id =>
    addDeviceTimingInStagesPerKernel us name queuedTime submitTime startTime endTime id t
  | .flush => flush us t
  | .addProcessMetadata processName =>
    t.put [metadata "process_name" t "0" ("\"name\":\"" ++ processName ++ "\"")]
  | .addThreadMetadata threadId threadNumber =>
    t.put
      [metadata "thread_name" t (decimal threadId.toNat)
        ("\"name\":\"Host Thread " ++ decimal threadId.toNat ++ "\""),
      metadata "thread_sort_index" t (decimal threadId.toNat)
        ("\"sort_index\":\"" ++ decimal (threadNumber + 10000).toNat ++ "\"")]
  | .addStartTimeMetadata startTime =>
    t.put [metadata "clintercept_start_time" t "0" ("\"start_time\":" ++ decimal startTime.toNat)]
  | .addQueueMetadata queueNumber queueName =>
    t.put
      [metadata "thread_name" t (decimal queueNumber.toNat ++ ".1")
        ("\"name\":\"" ++ queueName ++ "\""),
      metadata "thread_sort_index" t (decimal queueNumber.toNat ++ ".1")
        ("\"sort_index\":\"" ++ decimal queueNumber.toNat ++ "\"")]

def init (processId : UInt64) (bufferSize : UInt32) (addFlowEvents : Bool) : ChromeTracer where
  addFlowEvents := addFlowEvents
  processId := processId
  bufferSize := bufferSize
  traceFile := [.other "[\n"]

/-- The destructor. -/
def destroy (t : ChromeTracer) : ChromeTracer :=
  (flush us t).put [.other ("\x7b\"ph\":\"M\",\"name\":\"clintercept_eof\",\"pid\":"
    ++ decimal t.processId.toNat ++ ",\"tid\":0\x7d\n]\n")]

/-- A whole trace. -/
def traceOf (processId : UInt64) (addFlowEvents : Bool) (bufferSize : UInt32)
    (calls : List TracerCall) : ChromeTracer :=
  destroy us (calls.foldl (tracerStep us) (init processId bufferSize addFlowEvents))

/-! ## The lines of a trace -/

/-- The lines of calls and device timings in a file. -/
def lines (pieces : List Piece) : List String :=
  pieces.filterMap fun
    | .line text => some text
    | .other _ => none

/-- The lines that a call is for. -/
def linesOf (addFlowEvents : Bool) (processId : UInt64) : TracerCall → List String
  | .addCallLogging name threadId startTime delta =>
    writeCallLogging us processId name threadId startTime delta
  | .addCallLoggingTag name tag threadId startTime delta =>
    writeCallLoggingTag us processId name tag threadId startTime delta
  | .addCallLoggingId name threadId startTime delta id =>
    writeCallLoggingId us addFlowEvents processId name threadId startTime delta id
  | .addCallLoggingTagId name tag threadId startTime delta id =>
    writeCallLoggingTagId us addFlowEvents processId name tag threadId startTime delta id
  | .addDeviceTiming name queueNumber startTime endTime id =>
    writeDeviceTiming us addFlowEvents processId name queueNumber startTime endTime id
  | .addDeviceTimingPerKernel name startTime endTime id =>
    writeDeviceTimingPerKernel us addFlowEvents processId name startTime endTime id
  | .addDeviceTimingInStages name count queueNumber queuedTime submitTime startTime endTime id =>
    writeDeviceTimingInStages us processId name count queueNumber queuedTime submitTime startTime
      endTime id
  | .addDeviceTimingInStagesPerKernel name queuedTime submitTime startTime endTime id =>
    writeDeviceTimingInStagesPerKernel us processId name queuedTime submitTime startTime endTime id
  | .flush | .addProcessMetadata _ | .addThreadMetadata _ _ | .addStartTimeMetadata _
  | .addQueueMetadata _ _ => []

/-- The lines of two parts, one behind the other. -/
@[simp] theorem lines_append (xs ys : List Piece) : lines (xs ++ ys) = lines xs ++ lines ys :=
  List.filterMap_append

@[simp] theorem lines_map_line (texts : List String) : lines (texts.map .line) = texts := by
  induction texts with
  | nil => rfl
  | cons text texts ih => exact congrArg (text :: ·) ih

/-- What is in the file, and what is still in the buffer. -/
def allLines (t : ChromeTracer) : List String :=
  lines t.traceFile ++ t.recordBuffer.flatMap (writeRecord us t.addFlowEvents t.processId)

/-- Without a buffer nothing is kept. -/
def Unbuffered (t : ChromeTracer) : Prop := t.bufferSize = 0 → t.recordBuffer = []

/-- A step that adds lines: they come after all that there are, and no setting changes. -/
structure Adds (t : ChromeTracer) (added : List String) (t' : ChromeTracer) : Prop where
  addFlowEvents : t'.addFlowEvents = t.addFlowEvents
  processId : t'.processId = t.processId
  bufferSize : t'.bufferSize = t.bufferSize
  unbuffered : Unbuffered t → Unbuffered t'
  lines : Unbuffered t → allLines us t' = allLines us t ++ added

section

variable {us} {t t' t'' : ChromeTracer} {ls ls' : List String}

/-- What two calls add. -/
theorem Adds.trans (h : Adds us t ls t') (h' : Adds us t' ls' t'') : Adds us t (ls ++ ls') t'' where
  addFlowEvents := h'.addFlowEvents.trans h.addFlowEvents
  processId := h'.processId.trans h.processId
  bufferSize := h'.bufferSize.trans h.bufferSize
  unbuffered hu := h'.unbuffered (h.unbuffered hu)
  lines hu := by rw [h'.lines (h.unbuffered hu), h.lines hu, List.append_assoc]

end

/-- The records of the buffer are written line by line. -/
theorem writeRecords_eq (records : List Record) (t : ChromeTracer) :
    writeRecords us records t =
      t.writeLines (records.flatMap (writeRecord us t.addFlowEvents t.processId)) := by
  induction records generalizing t with
  | nil => simp [writeRecords, ChromeTracer.writeLines, ChromeTracer.put]
  | cons r rest ih =>
    rw [writeRecords, ih]
    simp [ChromeTracer.writeLines, ChromeTracer.put]

/-- Writing out the buffer adds no line to those of the calls. -/
theorem flushRecords_adds (t : ChromeTracer) : Adds us t [] (flushRecords us t) := by
  unfold flushRecords
  rw [writeRecords_eq]
  refine ⟨rfl, rfl, rfl, fun _ _ => rfl, fun _ => ?_⟩
  simp [allLines, ChromeTracer.writeLines]

/-- A full flush adds no line either: the metadata are other pieces. -/
theorem flush_adds (t : ChromeTracer) : Adds us t [] (flush us t) := by
  unfold flush
  split
  · exact flushRecords_adds us t
  · exact ⟨rfl, rfl, rfl, id, fun _ => (List.append_nil _).symm⟩

/-- A flush leaves an empty buffer. -/
theorem flush_recordBuffer (t : ChromeTracer) : (flush us t).recordBuffer = [] := by
  unfold flush
  split
  · rfl
  · next h => exact List.length_eq_zero_iff.mp (Nat.eq_zero_of_not_pos h)

/-- Text that is no line. -/
theorem put_adds {t : ChromeTracer} {pieces : List Piece} (h : lines pieces = []) :
    Adds us t [] (t.put pieces) := by
  refine ⟨rfl, rfl, rfl, id, fun _ => ?_⟩
  simp [allLines, ChromeTracer.put, h]

/-- Every function that adds a record, with a buffer or without. -/
theorem record_adds (t : ChromeTracer) (r : Record) {ls : List String}
    (h : writeRecord us t.addFlowEvents t.processId r = ls) :
    Adds us t ls (if t.bufferSize = 0 then t.writeLines ls else emplaceRecord us r t) := by
  by_cases hz : t.bufferSize = 0
  · rw [if_pos hz]
    refine ⟨rfl, rfl, rfl, id, fun hu => ?_⟩
    simp [allLines, ChromeTracer.writeLines, ChromeTracer.put, hu hz]
  · rw [if_neg hz]
    have hkept : Adds us t ls { t with recordBuffer := t.recordBuffer ++ [r] } := by
      refine ⟨rfl, rfl, rfl, fun _ hz' => absurd hz' hz, fun _ => ?_⟩
      simp [allLines, h]
    unfold emplaceRecord checkFlushRecords
    split
    · have hflushed := hkept.trans (flushRecords_adds us _)
      rwa [List.append_nil] at hflushed
    · exact hkept

/-- **One call** adds its own lines, whatever the buffer. -/
theorem tracerStep_adds (t : ChromeTracer) (call : TracerCall) :
    Adds us t (linesOf us t.addFlowEvents t.processId call) (tracerStep us t call) := by
  cases call with
  | addCallLogging name threadId startTime delta => exact record_adds us t _ rfl
  | addCallLoggingTag name tag threadId startTime delta => exact record_adds us t _ rfl
  | addCallLoggingId name threadId startTime delta id => exact record_adds us t _ rfl
  | addCallLoggingTagId name tag threadId startTime delta id => exact record_adds us t _ rfl
  | addDeviceTiming name queueNumber startTime endTime id => exact record_adds us t _ rfl
  | addDeviceTimingPerKernel name startTime endTime id => exact record_adds us t _ rfl
  | addDeviceTimingInStages name count queueNumber queuedTime submitTime startTime endTime id =>
    exact record_adds us t _ rfl
  | addDeviceTimingInStagesPerKernel name queuedTime submitTime startTime endTime id =>
    exact record_adds us t _ rfl
  | flush => exact flush_adds us t
  | addProcessMetadata processName => exact put_adds us rfl
  | addThreadMetadata threadId threadNumber => exact put_adds us rfl
  | addStartTimeMetadata startTime => exact put_adds us rfl
  | addQueueMetadata queueNumber queueName => exact put_adds us rfl

/-- **The calls add their lines, buffered or written.** -/
theorem foldl_tracerStep_adds (calls : List TracerCall) (t : ChromeTracer) :
    Adds us t (calls.flatMap (linesOf us t.addFlowEvents t.processId))
      (calls.foldl (tracerStep us) t) := by
  induction calls generalizing t with
  | nil => exact ⟨rfl, rfl, rfl, id, fun _ => (List.append_nil _).symm⟩
  | cons call calls ih =>
    have hstep := tracerStep_adds us t call
    have hrest := ih (tracerStep us t call)
    rw [hstep.addFlowEvents, hstep.processId] at hrest
    exact hstep.trans hrest

/-- **A whole trace** has the lines of its calls in their order, for every buffer size. -/
theorem lines_traceOf (processId : UInt64) (addFlowEvents : Bool) (bufferSize : UInt32)
    (calls : List TracerCall) :
    lines (traceOf us processId addFlowEvents bufferSize calls).traceFile =
      calls.flatMap (linesOf us addFlowEvents processId) := by
  have hinit : Unbuffered (init processId bufferSize addFlowEvents) := fun _ => rfl
  have hall := ((foldl_tracerStep_adds us calls (init processId bufferSize addFlowEvents)).trans
    (flush_adds us _)).lines hinit
  have hempty := flush_recordBuffer us
    (calls.foldl (tracerStep us) (init processId bufferSize addFlowEvents))
  rw [allLines, hempty] at hall
  rw [traceOf, destroy, ChromeTracer.put_traceFile, lines_append]
  simpa [allLines, init, lines] using hall

end

/-! ## What is in the file stays -/

section

variable (us : UInt64 → String)

/-- Writing out the buffer keeps what is in the file. -/
theorem prefix_flushRecords (t : ChromeTracer) :
    t.traceFile <+: (flushRecords us t).traceFile := by
  unfold flushRecords
  rw [writeRecords_eq]
  exact List.prefix_append _ _

/-- A full flush keeps what is in the file. -/
theorem prefix_flush (t : ChromeTracer) : t.traceFile <+: (flush us t).traceFile := by
  unfold flush
  split
  · exact prefix_flushRecords us t
  · exact List.prefix_refl _

/-- Every function that adds a record, with a buffer or without. -/
theorem prefix_record (t : ChromeTracer) (r : Record) (ls : List String) :
    t.traceFile <+:
      (if t.bufferSize = 0 then t.writeLines ls else emplaceRecord us r t).traceFile := by
  split
  · exact List.prefix_append _ _
  · unfold emplaceRecord checkFlushRecords
    split
    · exact prefix_flushRecords us { t with recordBuffer := t.recordBuffer ++ [r] }
    · exact List.prefix_refl _

/-- Every call keeps what is in the file. -/
theorem prefix_tracerStep (t : ChromeTracer) (call : TracerCall) :
    t.traceFile <+: (tracerStep us t call).traceFile := by
  cases call with
  | addCallLogging name threadId startTime delta => exact prefix_record us t _ _
  | addCallLoggingTag name tag threadId startTime delta => exact prefix_record us t _ _
  | addCallLoggingId name threadId startTime delta id => exact prefix_record us t _ _
  | addCallLoggingTagId name tag threadId startTime delta id => exact prefix_record us t _ _
  | addDeviceTiming name queueNumber startTime endTime id => exact prefix_record us t _ _
  | addDeviceTimingPerKernel name startTime endTime id => exact prefix_record us t _ _
  | addDeviceTimingInStages name count queueNumber queuedTime submitTime startTime endTime id =>
    exact prefix_record us t _ _
  | addDeviceTimingInStagesPerKernel name queuedTime submitTime startTime endTime id =>
    exact prefix_record us t _ _
  | flush => exact prefix_flush us t
  | addProcessMetadata processName => exact List.prefix_append _ _
  | addThreadMetadata threadId threadNumber => exact List.prefix_append _ _
  | addStartTimeMetadata startTime => exact List.prefix_append _ _
  | addQueueMetadata queueNumber queueName => exact List.prefix_append _ _

/-- **Calls only add to the file**, and so does the destructor. -/
theorem prefix_destroy (calls : List TracerCall) (t : ChromeTracer) :
    t.traceFile <+: (destroy us (calls.foldl (tracerStep us) t)).traceFile := by
  induction calls generalizing t with
  | nil => exact (prefix_flush us t).trans (List.prefix_append _ _)
  | cons call calls ih => exact (prefix_tracerStep us t call).trans (ih (tracerStep us t call))

end

/-! ## The bytes of a line -/

/-- `CLI_STRING_BUFFER_SIZE`. -/
def stringBufferSize : Nat := 16 * 1024

/-- What `write` puts into the file of a line. It is told the length of the whole line; of one that
does not fit the string buffer has the beginning and a NUL, and memory behind it is written too. -/
def written (beyond : Bytes) (line : String) : Bytes :=
  let bytes := line.toUTF8.data.toList
  if bytes.length < stringBufferSize then bytes
  else bytes.take (stringBufferSize - 1) ++ 0 :: beyond.take (bytes.length - stringBufferSize)

/-- The lines of a file as they are in it. `beyond` is the memory behind the string buffer, at each
line. -/
def writtenLines (beyond : Nat → Bytes) (texts : List String) : List Bytes :=
  texts.mapIdx fun i line => written (beyond i) line

/-- What fits the buffer shows nothing of what lies behind it. -/
theorem written_of_fits (beyond beyond' : Bytes) {line : String}
    (h : line.utf8ByteSize ≤ stringBufferSize) : written beyond line = written beyond' line := by
  have hlen : line.toUTF8.data.toList.length ≤ stringBufferSize := h
  unfold written
  simp only
  split
  · rfl
  · rw [Nat.sub_eq_zero_of_le hlen, List.take_zero, List.take_zero]

/-- A line that is too long is written with what happens to lie behind the buffer. -/
theorem written_ne_of_long {line : String} (h : stringBufferSize < line.utf8ByteSize) :
    written [0] line ≠ written [1] line := by
  have hlen : stringBufferSize < line.toUTF8.data.toList.length := h
  have hbig : ¬ line.toUTF8.data.toList.length < stringBufferSize := Nat.not_lt.mpr hlen.le
  have hone : ∀ (b : UInt8) (n : Nat), 0 < n → [b].take n = [b] :=
    fun _ _ hn => List.take_of_length_le hn
  unfold written
  simp only
  rw [if_neg hbig, if_neg hbig, hone _ _ (Nat.sub_pos_of_lt hlen), hone _ _ (Nat.sub_pos_of_lt hlen)]
  intro heq
  have htail := List.append_cancel_left heq
  exact absurd htail (by decide)

/-- **Exactly the lines that fit are written whatever lies behind.** -/
theorem writtenLines_eq_iff (texts : List String) :
    (∀ beyond beyond', writtenLines beyond texts = writtenLines beyond' texts) ↔
      ∀ line ∈ texts, line.utf8ByteSize ≤ stringBufferSize := by
  constructor
  · intro h line hline
    by_contra hlong
    obtain ⟨i, hi, heq⟩ := List.getElem_of_mem hline
    have hat := congrArg (fun ls => ls[i]?) (h (fun _ => [0]) (fun _ => [1]))
    simp only [writtenLines, List.getElem?_mapIdx, List.getElem?_eq_getElem hi, Option.map_some,
      heq] at hat
    exact written_ne_of_long (Nat.lt_of_not_le hlong) (Option.some.inj hat)
  · intro h beyond beyond'
    refine List.ext_getElem? fun i => ?_
    simp only [writtenLines, List.getElem?_mapIdx]
    cases hi : texts[i]? with
    | none => simp only [Option.map_none]
    | some line =>
      have hsame := written_of_fits (beyond i) (beyond' i) (h line (List.mem_of_getElem? hi))
      simp only [Option.map_some, hsame]

/-- **Buffered and unbuffered traces**: the lines in the file are the same as without a buffer, in
every two executions, exactly when every line fits the string buffer. -/
theorem sameLines_iff (us : UInt64 → String) (processId : UInt64) (addFlowEvents : Bool)
    (bufferSize : UInt32) (calls : List TracerCall) :
    (∀ beyond beyond₀,
        writtenLines beyond (lines (traceOf us processId addFlowEvents bufferSize calls).traceFile) =
          writtenLines beyond₀ (lines (traceOf us processId addFlowEvents 0 calls).traceFile)) ↔
      ∀ call ∈ calls, ∀ line ∈ linesOf us addFlowEvents processId call,
        line.utf8ByteSize ≤ stringBufferSize := by
  rw [lines_traceOf, lines_traceOf, writtenLines_eq_iff]
  constructor
  · intro h call hcall line hline
    exact h line (List.mem_flatMap.mpr ⟨call, hcall, hline⟩)
  · intro h line hline
    obtain ⟨call, hcall, hmem⟩ := List.mem_flatMap.mp hline
    exact h call hcall line hmem

/-- A name of `n` letters. -/
def longName : Nat → String
  | 0 => ""
  | n + 1 => (longName n).push 'a'

theorem utf8ByteSize_longName (n : Nat) : (longName n).utf8ByteSize = n := by
  induction n with
  | zero => rfl
  | succ n ih =>
    rw [longName, String.utf8ByteSize_push, ih]
    rfl

/-- A name as long as the string buffer makes a line that does not fit. -/
theorem long_name_differs :
    ¬ ∀ beyond beyond₀,
      writtenLines beyond (lines (traceOf (fun _ => "0.000") 1 false 8
          [.addCallLogging (longName stringBufferSize) 0 0 0]).traceFile) =
        writtenLines beyond₀ (lines (traceOf (fun _ => "0.000") 1 false 0
          [.addCallLogging (longName stringBufferSize) 0 0 0]).traceFile) := by
  intro h
  rw [lines_traceOf, lines_traceOf, writtenLines_eq_iff] at h
  have hfits := h _ (List.mem_flatMap.mpr ⟨_, List.mem_singleton_self _, List.mem_singleton_self _⟩)
  unfold eventHead at hfits
  simp only [String.utf8ByteSize_append, utf8ByteSize_longName] at hfits
  have hhead : 0 < "\x7b\"ph\":\"".utf8ByteSize := by decide
  omega

end CLIntercept.Trace
