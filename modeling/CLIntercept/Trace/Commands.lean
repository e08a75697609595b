import CLIntercept.Config
import CLIntercept.Lib.Fields
import CLIntercept.Lib.Run
import CLIntercept.Timing.Events
import CLIntercept.Trace.Json
import Mathlib.Data.List.Chain

/-!
# Calls and commands in the trace

A call of the API is drawn on the row of its thread, a command on that of its queue, of its kernel or,
in stages, on a row of its own. The times of a command are the device's; they are moved so that it is
queued when the layer saw it queued, or where the device's clock, set off against the host's, says so
if that is less than a second later.

`trace_run` says what is in the file behind a whole run, beside its frame and its metadata: the bars
of each call and command, in their order, the bars of a command as long as the device says and one
behind the other. They are written as they were formatted if all of them fit the string buffer.
`tid_eq_iff` says which of them are on one row.
-/

set_option autoImplicit false

namespace CLIntercept.Trace

open CLIntercept.Lib CLIntercept.Timing

/-! ## The code -/

structure ChromeConfig extends Config where
  chromeCallLogging : Bool := false
  chromePerformanceTimingEstimateQueuedTime : Bool := false
  chromePerformanceTimingInStages : Bool := false
  chromePerformanceTimingPerKernel : Bool := false
  flushFiles : Bool := false

/-- What the profiling of a command says. -/
structure CommandTimes where
  commandQueued : UInt64
  commandSubmit : UInt64
  commandStart : UInt64
  commandEnd : UInt64
  deriving DecidableEq, Repr

/-- What is traced: a call when it returns, and a command when it is found complete. -/
inductive TraceAction where
  | call (functionName tag : String) (includeId : Bool) (enqueueCounter threadId : UInt64)
      (tickStart tickEnd : UInt64)
  | command (node : SEventListNode) (times : CommandTimes)
  deriving DecidableEq, Repr

/-- `m_ThreadNumberMap` by its threads, in the order of their numbers; `m_EventsChromeTraced`; and the
calls of the tracer. -/
structure TraceState where
  threads : List UInt64 := []
  eventsChromeTraced : UInt32 := 0
  calls : List TracerCall := []

section

variable (config : ChromeConfig)

def getThreadNumber (threadId : UInt64) (s : TraceState) : TraceState :=
  if threadId ∈ s.threads then s
  else
    { s with
      threads := s.threads ++ [threadId]
      calls := s.calls ++
        if config.chromeCallLogging then
          [.addThreadMetadata threadId (UInt32.ofNat s.threads.length)]
        else [] }

/-- Points in time are counts of nanoseconds. -/
def chromeCallLoggingExit (startTime : UInt64) (functionName tag : String) (includeId : Bool)
    (enqueueCounter threadId tickStart tickEnd : UInt64) (s : TraceState) : TraceState :=
  let s := getThreadNumber config threadId s
  let nsStart := tickStart - startTime
  let nsDelta := tickEnd - tickStart
  let call : TracerCall :=
    if tag ≠ "" && includeId then
      .addCallLoggingTagId functionName tag threadId nsStart nsDelta enqueueCounter
    else if tag ≠ "" then .addCallLoggingTag functionName tag threadId nsStart nsDelta
    else if includeId then .addCallLoggingId functionName threadId nsStart nsDelta enqueueCounter
    else .addCallLogging functionName threadId nsStart nsDelta
  { s with calls := s.calls ++ [call] ++ if config.flushFiles then [.flush] else [] }

def threshold : UInt64 := 1000000000

/-- When the command is shown to be queued. -/
def normalizedQueuedTime (startTime : UInt64) (useProfilingDelta : Bool) (profilingDelta : Int64)
    (queuedTime commandQueued : UInt64) : UInt64 :=
  let profilingQueuedTime := commandQueued + profilingDelta.toUInt64
  if useProfilingDelta && profilingQueuedTime ≥ queuedTime &&
      profilingQueuedTime - queuedTime < threshold then
    profilingQueuedTime - startTime
  else queuedTime - startTime

def chromeTraceEvent (startTime : UInt64) (node : SEventListNode) (times : CommandTimes)
    (s : TraceState) : TraceState :=
  let useProfilingDelta :=
    node.useProfilingDelta && !config.chromePerformanceTimingEstimateQueuedTime
  let nsQueued := normalizedQueuedTime startTime useProfilingDelta node.profilingDeltaNS
    node.queuedTime times.commandQueued
  let nsSubmit := times.commandSubmit - times.commandQueued + nsQueued
  let nsStart := times.commandStart - times.commandQueued + nsQueued
  let nsEnd := times.commandEnd - times.commandQueued + nsQueued
  let queueNumber := UInt32.ofNat node.queueNumber
  if config.chromePerformanceTimingInStages then
    let call : TracerCall :=
      if config.chromePerformanceTimingPerKernel then
        .addDeviceTimingInStagesPerKernel node.name nsQueued nsSubmit nsStart nsEnd
          node.enqueueCounter
      else
        .addDeviceTimingInStages node.name s.eventsChromeTraced queueNumber nsQueued nsSubmit nsStart
          nsEnd node.enqueueCounter
    { s with
      calls := s.calls ++ [call]
      eventsChromeTraced := s.eventsChromeTraced + 1 }
  else
    let call : TracerCall :=
      if config.chromePerformanceTimingPerKernel then
        .addDeviceTimingPerKernel node.name nsStart nsEnd node.enqueueCounter
      else .addDeviceTiming node.name queueNumber nsStart nsEnd node.enqueueCounter
    { s with calls := s.calls ++ [call] }

def traceStep (startTime : UInt64) (s : TraceState) : TraceAction → TraceState
  | .call functionName tag includeId enqueueCounter threadId tickStart tickEnd =>
    chromeCallLoggingExit config startTime functionName tag includeId enqueueCounter threadId tickStart
      tickEnd s
  | .command node times => chromeTraceEvent config startTime node times s

def traceSystem (startTime : UInt64) : System TraceState TraceAction where
  step := traceStep config startTime
  legal _ _ := True

end

/-! ## What is drawn -/

/-- A row of the timeline. -/
inductive TraceRow where
  | thread (threadId : UInt64)
  | queue (queueNumber : UInt32)
  | stages (count queueNumber : UInt32)
  | kernel (name : String)
  deriving DecidableEq, Repr

/-- `tid`. -/
def TraceRow.tid : TraceRow → String
  | .thread threadId => decimal threadId.toNat
  | .queue queueNumber => decimal queueNumber.toNat ++ ".1"
  | .stages count queueNumber => decimal count.toNat ++ "." ++ decimal queueNumber.toNat
  | .kernel name => quoted name

structure Bar where
  row : TraceRow
  name : String
  start : UInt64
  length : UInt64
  colour : Option String := none
  id : Option UInt64 := none
  deriving DecidableEq, Repr

/-- One end of the flow from a call to its command. -/
structure FlowEnd where
  phase : String
  row : TraceRow
  time : UInt64
  id : UInt64
  deriving DecidableEq, Repr

section

variable (us : UInt64 → String) (processId : UInt64)

def Bar.line (b : Bar) : String :=
  eventHead "X" processId b.row.tid b.name ++ timeSpan us b.start b.length ++
    (b.colour.map fun colour => ",\"cname\":\"" ++ colour ++ "\"").getD "" ++
    (b.id.map idArgs).getD "" ++ eventEnd

def FlowEnd.line (f : FlowEnd) : String := flowEvent us f.phase processId f.row.tid f.time f.id

end

section

variable (config : ChromeConfig) (startTime : UInt64)

/-- How much later than it was seen the command is shown queued. -/
def lateness (node : SEventListNode) (times : CommandTimes) : UInt64 :=
  let onDevice := times.commandQueued + node.profilingDeltaNS.toUInt64
  if (node.useProfilingDelta = true ∧ config.chromePerformanceTimingEstimateQueuedTime = false) ∧
      node.queuedTime ≤ onDevice ∧ onDevice - node.queuedTime < threshold then
    onDevice - node.queuedTime
  else 0

/-- Where a time of the device is on the timeline. -/
def shownAt (node : SEventListNode) (times : CommandTimes) (time : UInt64) : UInt64 :=
  time - times.commandQueued + (node.queuedTime - startTime + lateness config node times)

def commandRow (count : UInt32) (node : SEventListNode) : TraceRow :=
  if config.chromePerformanceTimingPerKernel then .kernel node.name
  else if config.chromePerformanceTimingInStages then .stages count (UInt32.ofNat node.queueNumber)
  else .queue (UInt32.ofNat node.queueNumber)

/-- The times between which the bars of a command lie. -/
def bounds (times : CommandTimes) : List UInt64 :=
  if config.chromePerformanceTimingInStages then
    [times.commandQueued, times.commandSubmit, times.commandStart, times.commandEnd]
  else [times.commandStart, times.commandEnd]

/-- A bar from each of the bounds to the next, on the timeline as it was on the device. -/
def commandBars (count : UInt32) (node : SEventListNode) (times : CommandTimes) : List Bar :=
  let marks := if config.chromePerformanceTimingInStages then
      (suffixes.zip colours).map fun mark => (node.name ++ " " ++ mark.1, some mark.2)
    else [(node.name, none)]
  ((bounds config times).zip ((bounds config times).tail.zip marks)).map fun (time, next, mark) =>
    { row := commandRow config count node
      name := mark.1
      start := shownAt config startTime node times time
      length := next - time
      colour := mark.2
      id := some node.enqueueCounter }

/-- The bars of an action; `count` numbers the commands that are traced in stages. -/
def barsOf (count : UInt32) : TraceAction → List Bar
  | .call functionName tag includeId enqueueCounter threadId tickStart tickEnd =>
    [{ row := .thread threadId
       name := if tag ≠ "" then functionName ++ "( " ++ tag ++ " )" else functionName
       start := tickStart - startTime
       length := tickEnd - tickStart
       id := if includeId then some enqueueCounter else none }]
  | .command node times => commandBars config startTime count node times

/-- The end of a flow at a command, in front of its bar; there is none for stages. -/
def flowsBefore (addFlowEvents : Bool) (count : UInt32) : TraceAction → List FlowEnd
  | .call _ _ _ _ _ _ _ => []
  | .command node times =>
    if addFlowEvents && !config.chromePerformanceTimingInStages then
      [⟨"f", commandRow config count node, shownAt config startTime node times times.commandStart,
        node.enqueueCounter⟩]
    else []

/-- The start of a flow at a call, behind its bar. -/
def flowsBehind (addFlowEvents : Bool) : TraceAction → List FlowEnd
  | .call _ _ includeId enqueueCounter threadId tickStart _ =>
    if addFlowEvents && includeId then
      [⟨"s", .thread threadId, tickStart - startTime, enqueueCounter⟩]
    else []
  | .command _ _ => []

def nextCount (count : UInt32) : TraceAction → UInt32
  | .call _ _ _ _ _ _ _ => count
  | .command _ _ => if config.chromePerformanceTimingInStages then count + 1 else count

/-- The commands are numbered from `count` on, if they are traced in stages. -/
def numbered : UInt32 → List TraceAction → List (UInt32 × TraceAction)
  | _, [] => []
  | count, a :: as => (count, a) :: numbered (nextCount config count a) as

/-- What is in the file for one action. -/
def drawnLines (us : UInt64 → String) (addFlowEvents : Bool) (processId : UInt64)
    (x : UInt32 × TraceAction) : List String :=
  (flowsBefore config startTime addFlowEvents x.1 x.2).map (FlowEnd.line us processId) ++
    (barsOf config startTime x.1 x.2).map (Bar.line us processId) ++
    (flowsBehind startTime addFlowEvents x.2).map (FlowEnd.line us processId)

end

/-! ## What a step adds to the file -/

section

variable (config : ChromeConfig) (startTime : UInt64)

/-- The queued time that is shown is the one that was seen, plus the lateness. -/
theorem normalizedQueuedTime_eq (node : SEventListNode) (times : CommandTimes) :
    normalizedQueuedTime startTime
        (node.useProfilingDelta && !config.chromePerformanceTimingEstimateQueuedTime)
        node.profilingDeltaNS node.queuedTime times.commandQueued =
      node.queuedTime - startTime + lateness config node times := by
  have hmove : ∀ a b c : UInt64, a - b = c - b + (a - c) := by
    intro a b c
    grind
  unfold normalizedQueuedTime lateness
  simp only [Bool.and_eq_true, Bool.not_eq_true', decide_eq_true_eq, ge_iff_le, and_assoc]
  split
  · exact hmove _ _ _
  · exact (UInt64.add_zero _).symm

/-- The queued time itself needs no moving. -/
theorem shownAt_commandQueued (node : SEventListNode) (times : CommandTimes) :
    shownAt config startTime node times times.commandQueued =
      node.queuedTime - startTime + lateness config node times := by
  rw [shownAt, UInt64.sub_self, UInt64.zero_add]

/-- Moved from where the queued time is. -/
theorem add_shownAt (node : SEventListNode) (times : CommandTimes) (time : UInt64) :
    time - times.commandQueued + shownAt config startTime node times times.commandQueued =
      shownAt config startTime node times time := by
  rw [shownAt_commandQueued, shownAt]

/-- What is between two times of the device is between them on the timeline. -/
theorem shownAt_sub (node : SEventListNode) (times : CommandTimes) (time next : UInt64) :
    shownAt config startTime node times next - shownAt config startTime node times time =
      next - time := by
  unfold shownAt
  grind

variable (us : UInt64 → String) (addFlowEvents : Bool) (processId : UInt64)

/-- The three stages on a row. -/
theorem writeStages_eq (row : TraceRow) (name : String)
    (queuedTime submitTime startTime endTime id : UInt64) :
    writeStages us processId row.tid name queuedTime submitTime startTime endTime id =
      ([{ row := row, name := name ++ " (Queued)", start := queuedTime,
          length := submitTime - queuedTime, colour := some "thread_state_runnable", id := some id },
        { row := row, name := name ++ " (Submitted)", start := submitTime,
          length := startTime - submitTime, colour := some "cq_build_running", id := some id },
        { row := row, name := name ++ " (Execution)", start := startTime,
          length := endTime - startTime, colour := some "thread_state_iowait", id := some id }] :
        List Bar).map (Bar.line us processId) := by
  have hblank : ∀ suffix : String, name ++ " " ++ suffix = name ++ (" " ++ suffix) :=
    fun suffix => String.append_assoc
  simp only [writeStages, suffixes, colours, List.zip_cons_cons, List.zip_nil_left, List.map_cons,
    List.map_nil, Bar.line, Option.map_some, Option.getD_some, hblank, String.append_assoc]
  rfl

/-- In stages a command is three bars. -/
theorem commandBars_stages (hstages : config.chromePerformanceTimingInStages = true) (count : UInt32)
    (node : SEventListNode) (times : CommandTimes) :
    (commandBars config startTime count node times).map (Bar.line us processId) =
      writeStages us processId (commandRow config count node).tid node.name
        (shownAt config startTime node times times.commandQueued)
        (shownAt config startTime node times times.commandSubmit)
        (shownAt config startTime node times times.commandStart)
        (shownAt config startTime node times times.commandEnd) node.enqueueCounter := by
  have hblank : ∀ suffix : String, node.name ++ " " ++ suffix = node.name ++ (" " ++ suffix) :=
    fun suffix => String.append_assoc
  rw [writeStages_eq]
  simp only [shownAt_sub, commandBars, bounds, hstages, if_true, suffixes, colours,
    List.zip_cons_cons, List.zip_nil_right, List.tail_cons, List.map_cons,
    List.map_nil, hblank]
  rfl

/-- Otherwise it is one. -/
theorem commandBars_plain (hstages : config.chromePerformanceTimingInStages = false) (count : UInt32)
    (node : SEventListNode) (times : CommandTimes) :
    (commandBars config startTime count node times).map (Bar.line us processId) =
      [eventHead "X" processId (commandRow config count node).tid node.name ++
        timeSpan us (shownAt config startTime node times times.commandStart)
          (shownAt config startTime node times times.commandEnd -
            shownAt config startTime node times times.commandStart) ++
        idArgs node.enqueueCounter ++ eventEnd] := by
  simp only [shownAt_sub, commandBars, bounds, hstages, Bool.false_eq_true, if_false,
    List.zip_cons_cons, List.zip_nil_right, List.tail_cons, List.map_cons,
    List.map_nil, Bar.line, Option.map_none, Option.map_some, Option.getD_none, Option.getD_some,
    String.append_empty]

/-- A command has the bars of its profiling. -/
theorem lines_command (s : TraceState) (node : SEventListNode) (times : CommandTimes) :
    (chromeTraceEvent config startTime node times s).calls.flatMap (linesOf us addFlowEvents processId) =
      s.calls.flatMap (linesOf us addFlowEvents processId) ++
        drawnLines config startTime us addFlowEvents processId
          (s.eventsChromeTraced, .command node times) := by
  have hqueued := (normalizedQueuedTime_eq config startTime node times).trans
    (shownAt_commandQueued config startTime node times).symm
  unfold chromeTraceEvent drawnLines barsOf flowsBefore flowsBehind
  simp only [hqueued, add_shownAt]
  cases hstages : config.chromePerformanceTimingInStages with
  | true =>
    simp only [if_true, Bool.not_true, Bool.and_false, Bool.false_eq_true, if_false, List.map_nil,
      List.nil_append, List.append_nil, List.flatMap_append, List.flatMap_singleton]
    rw [commandBars_stages config startTime us processId hstages, commandRow]
    cases config.chromePerformanceTimingPerKernel with
    | true => rfl
    | false => rw [hstages]; rfl
  | false =>
    simp only [Bool.false_eq_true, if_false, Bool.not_false, Bool.and_true, List.map_nil,
      List.append_nil, List.flatMap_append, List.flatMap_singleton]
    rw [commandBars_plain config startTime us processId hstages, commandRow]
    cases config.chromePerformanceTimingPerKernel with
    | true => cases addFlowEvents with
      | true => rfl
      | false => rfl
    | false =>
      rw [hstages]
      cases addFlowEvents with
      | true => rfl
      | false => rfl

/-- A call has one bar. -/
theorem lines_call (s : TraceState) (functionName tag : String) (includeId : Bool)
    (enqueueCounter threadId tickStart tickEnd : UInt64) :
    (chromeCallLoggingExit config startTime functionName tag includeId enqueueCounter threadId
        tickStart tickEnd s).calls.flatMap (linesOf us addFlowEvents processId) =
      s.calls.flatMap (linesOf us addFlowEvents processId) ++
        drawnLines config startTime us addFlowEvents processId (s.eventsChromeTraced,
          .call functionName tag includeId enqueueCounter threadId tickStart tickEnd) := by
  have hthread : (getThreadNumber config threadId s).calls.flatMap
      (linesOf us addFlowEvents processId) = s.calls.flatMap (linesOf us addFlowEvents processId) := by
    unfold getThreadNumber
    split
    · rfl
    · dsimp only
      rw [List.flatMap_append]
      split
      · exact List.append_nil _
      · exact List.append_nil _
  have hflush : (if config.flushFiles then [TracerCall.flush] else []).flatMap
      (linesOf us addFlowEvents processId) = [] := by
    split <;> rfl
  unfold chromeCallLoggingExit
  simp only [List.flatMap_append, hthread, hflush, List.append_nil, List.flatMap_singleton]
  congr 1
  unfold drawnLines flowsBefore barsOf flowsBehind
  simp only [List.map_nil, List.nil_append, List.map_cons]
  by_cases htag : tag = ""
  · cases includeId with
    | true =>
      cases addFlowEvents with
      | true => simp [htag, linesOf, writeCallLoggingId, Bar.line, FlowEnd.line, TraceRow.tid]
      | false => simp [htag, linesOf, writeCallLoggingId, Bar.line, TraceRow.tid]
    | false => simp [htag, linesOf, writeCallLogging, Bar.line, TraceRow.tid]
  · cases includeId with
    | true =>
      cases addFlowEvents with
      | true => simp [htag, linesOf, writeCallLoggingTagId, Bar.line, FlowEnd.line, TraceRow.tid]
      | false => simp [htag, linesOf, writeCallLoggingTagId, Bar.line, TraceRow.tid]
    | false => simp [htag, linesOf, writeCallLoggingTag, Bar.line, TraceRow.tid]

/-- **A step** adds what is drawn for it. -/
theorem lines_step (s : TraceState) (a : TraceAction) :
    (traceStep config startTime s a).calls.flatMap (linesOf us addFlowEvents processId) =
      s.calls.flatMap (linesOf us addFlowEvents processId) ++
        drawnLines config startTime us addFlowEvents processId (s.eventsChromeTraced, a) := by
  cases a with
  | call functionName tag includeId enqueueCounter threadId tickStart tickEnd =>
    exact lines_call config startTime us addFlowEvents processId s functionName tag includeId
      enqueueCounter threadId tickStart tickEnd
  | command node times => exact lines_command config startTime us addFlowEvents processId s node times

/-- The counter goes up with each command. -/
theorem eventsChromeTraced_step (s : TraceState) (a : TraceAction) :
    (traceStep config startTime s a).eventsChromeTraced = nextCount config s.eventsChromeTraced a := by
  cases a with
  | call functionName tag includeId enqueueCounter threadId tickStart tickEnd =>
    simp only [traceStep, chromeCallLoggingExit, getThreadNumber, nextCount]
    split <;> rfl
  | command node times =>
    simp only [traceStep, chromeTraceEvent, nextCount]
    split <;> rfl

/-- **A run** adds what is drawn for each of its actions. -/
theorem lines_exec (s : TraceState) (as : List TraceAction) :
    ((traceSystem config startTime).exec s as).calls.flatMap (linesOf us addFlowEvents processId) =
      s.calls.flatMap (linesOf us addFlowEvents processId) ++
        (numbered config s.eventsChromeTraced as).flatMap
          (drawnLines config startTime us addFlowEvents processId) := by
  induction as generalizing s with
  | nil => exact (List.append_nil _).symm
  | cons a as ih =>
    calc ((traceSystem config startTime).exec s (a :: as)).calls.flatMap
          (linesOf us addFlowEvents processId)
        = (traceStep config startTime s a).calls.flatMap (linesOf us addFlowEvents processId) ++
            (numbered config (traceStep config startTime s a).eventsChromeTraced as).flatMap
              (drawnLines config startTime us addFlowEvents processId) :=
          ih (traceStep config startTime s a)
      _ = _ := by
        rw [lines_step, eventsChromeTraced_step, numbered, List.flatMap_cons, List.append_assoc]

end

/-! ## The bars of a command -/

section

variable (config : ChromeConfig) (startTime : UInt64) (node : SEventListNode) (times : CommandTimes)

/-- The bars lie as the times of the device do. -/
structure DrawnToScale (bars : List Bar) : Prop where
  lengths : bars.map Bar.length =
    ((bounds config times).zip (bounds config times).tail).map fun (time, next) => next - time
  abut : bars.IsChain fun b next => next.start = b.start + b.length
  first : bars.head?.map Bar.start =
    (bounds config times).head?.map (shownAt config startTime node times)

/-- **The bars are drawn to scale.** -/
theorem commandBars_drawnToScale (count : UInt32) :
    DrawnToScale config startTime node times (commandBars config startTime count node times) := by
  have habut : ∀ time next : UInt64,
      shownAt config startTime node times next =
        shownAt config startTime node times time + (next - time) := by
    intro time next
    rw [← shownAt_sub config startTime node times time next]
    grind
  cases hstages : config.chromePerformanceTimingInStages with
  | true =>
    constructor
    · simp [commandBars, bounds, hstages, suffixes, colours]
    · simp [commandBars, bounds, hstages, suffixes, colours, ← habut]
    · simp [commandBars, bounds, hstages, suffixes, colours]
  | false =>
    constructor
    · simp [commandBars, bounds, hstages]
    · simp [commandBars, bounds, hstages]
    · simp [commandBars, bounds, hstages]

/-- What the clamp of the queued time adds stays under the threshold. -/
theorem lateness_lt : lateness config node times < threshold := by
  unfold lateness
  dsimp only
  split
  · next h => exact h.2.2
  · decide

end

/-! ## Rows -/

/-- What has a row to itself. -/
inductive Owner where
  | thread (threadId : UInt64)
  | queue (queueNumber : UInt32)
  | kernel (name : String)
  | command (i : Nat)
  deriving DecidableEq, Repr

/-- A number reads back. -/
theorem decimal_inj {m n : Nat} (h : decimal m = decimal n) : m = n :=
  number_inj (by decide) (by decide) h

theorem notMem_decimal (n : Nat) {c : Char} (hc : ∀ d : Fin 16, digitChar d ≠ c) :
    c ∉ (decimal n).toList :=
  notMem_number (by decide) (by decide) 1 n hc

/-- A name reads back from its quotes. -/
theorem quoted_inj {name name' : String} (h : quoted name = quoted name') : name = name' := by
  have hlist := congrArg String.toList h
  simp only [quoted, String.toList_append] at hlist
  exact String.toList_inj.mp (List.append_cancel_left (List.append_cancel_right hlist))

section

variable (config : ChromeConfig)

/-- What the `i`-th action is drawn for. -/
def ownerOf (i : Nat) : TraceAction → Owner
  | .call _ _ _ _ threadId _ _ => .thread threadId
  | .command node _ =>
    if config.chromePerformanceTimingPerKernel then .kernel node.name
    else if config.chromePerformanceTimingInStages then .command i
    else .queue (UInt32.ofNat node.queueNumber)

def rowOf (count : UInt32) : TraceAction → TraceRow
  | .call _ _ _ _ threadId _ _ => .thread threadId
  | .command node _ => commandRow config count node

/-- All bars of a command are in its row. -/
theorem row_of_mem_barsOf {startTime : UInt64} {count : UInt32} {a : TraceAction} {b : Bar}
    (h : b ∈ barsOf config startTime count a) : b.row = rowOf config count a := by
  cases a with
  | call functionName tag includeId enqueueCounter threadId tickStart tickEnd =>
    rw [List.mem_singleton.mp h]
    rfl
  | command node times =>
    obtain ⟨x, -, rfl⟩ := List.mem_map.mp h
    rfl

/-- Commands have no row of a thread. -/
theorem tid_thread_ne (threadId : UInt64) (count : UInt32) (node : SEventListNode) :
    (TraceRow.thread threadId).tid ≠ (commandRow config count node).tid := by
  have hno : ∀ {text : String} (c : Char), (∀ d : Fin 16, digitChar d ≠ c) → c ∈ text.toList →
      decimal threadId.toNat ≠ text :=
    fun c hc hmem h => notMem_decimal threadId.toNat hc (h ▸ hmem)
  unfold commandRow
  split
  · exact hno '"' (by decide) (by simp [TraceRow.tid, quoted])
  · split
    · exact hno '.' (by decide) (by simp [TraceRow.tid])
    · exact hno '.' (by decide) (by simp [TraceRow.tid])

/-- **A row is told by its id.** -/
theorem tid_commandRow_inj {count count' : UInt32} {node node' : SEventListNode}
    (h : (commandRow config count node).tid = (commandRow config count' node').tid) :
    commandRow config count node = commandRow config count' node' := by
  unfold commandRow at h ⊢
  split at h
  · next hkernel =>
    rw [if_pos hkernel, if_pos hkernel, quoted_inj h]
  · next hkernel =>
    rw [if_neg hkernel, if_neg hkernel]
    have hdot : ∀ n, '.' ∉ (decimal n).toList := fun n => notMem_decimal n (by decide)
    split at h
    · next hstages =>
      rw [if_pos hstages, if_pos hstages]
      have hlist := congrArg String.toList h
      simp only [TraceRow.tid, String.toList_append, List.append_assoc] at hlist
      obtain ⟨hcount, hqueue⟩ := append_cons_inj (hdot _) (hdot _) hlist
      rw [UInt32.toNat_inj.mp (decimal_inj (String.toList_inj.mp hcount)),
        UInt32.toNat_inj.mp (decimal_inj (String.toList_inj.mp hqueue))]
    · next hstages =>
      rw [if_neg hstages, if_neg hstages]
      have hlist := congrArg String.toList h
      simp only [TraceRow.tid, String.toList_append] at hlist
      obtain ⟨hqueue, -⟩ := append_cons_inj (hdot _) (hdot _) hlist
      rw [UInt32.toNat_inj.mp (decimal_inj (String.toList_inj.mp hqueue))]

/-- Rows of one trace are told apart by their `tid`. -/
theorem tid_rowOf_inj {count count' : UInt32} {a a' : TraceAction}
    (h : (rowOf config count a).tid = (rowOf config count' a').tid) :
    rowOf config count a = rowOf config count' a' := by
  cases a with
  | call functionName tag includeId enqueueCounter threadId tickStart tickEnd =>
    cases a' with
    | call functionName' tag' includeId' enqueueCounter' threadId' tickStart' tickEnd' =>
      exact congrArg TraceRow.thread (UInt64.toNat_inj.mp (decimal_inj h))
    | command node' times' => exact absurd h (tid_thread_ne config _ _ _)
  | command node times =>
    cases a' with
    | call functionName' tag' includeId' enqueueCounter' threadId' tickStart' tickEnd' =>
      exact absurd h.symm (tid_thread_ne config _ _ _)
    | command node' times' => exact tid_commandRow_inj config h

/-! ## The numbers of the commands -/

def TraceAction.isCommand : TraceAction → Bool
  | .call _ _ _ _ _ _ _ => false
  | .command _ _ => true

/-- Each action has the count of the actions before it. -/
theorem getElem?_numbered (count : UInt32) (as : List TraceAction) (i : Nat) :
    (numbered config count as)[i]? =
      as[i]?.map fun a => ((as.take i).foldl (nextCount config) count, a) := by
  induction as generalizing count i with
  | nil => rfl
  | cons a as ih =>
    cases i with
    | zero => rfl
    | succ i => exact ih (nextCount config count a) i

/-- In stages the count is that of the commands, in 32 bits. -/
theorem foldl_nextCount (hstages : config.chromePerformanceTimingInStages = true)
    (as : List TraceAction) (count : UInt32) :
    as.foldl (nextCount config) count = count + UInt32.ofNat (as.countP TraceAction.isCommand) := by
  induction as generalizing count with
  | nil => exact (UInt32.add_zero count).symm
  | cons a as ih =>
    rw [List.foldl_cons, ih]
    cases a with
    | call functionName tag includeId enqueueCounter threadId tickStart tickEnd => rfl
    | command node times =>
      rw [nextCount, if_pos hstages, List.countP_cons_of_pos rfl, UInt32.ofNat_add, UInt32.add_assoc,
        UInt32.add_comm 1]
      rfl

/-- A command has a number of its own, among all but too many. -/
theorem number_inj_of_length_le (hstages : config.chromePerformanceTimingInStages = true)
    {as : List TraceAction} (hlength : as.length ≤ 2 ^ 32) {i j : Nat} {node node' : SEventListNode}
    {times times' : CommandTimes} (hi : as[i]? = some (.command node times))
    (hj : as[j]? = some (.command node' times'))
    (h : (as.take i).foldl (nextCount config) 0 = (as.take j).foldl (nextCount config) 0) :
    i = j := by
  have hcounts : ∀ {k : Nat}, k < as.length →
      (as.take k).countP TraceAction.isCommand < 2 ^ 32 := by
    intro k hk
    have hle := List.countP_le_length (p := TraceAction.isCommand) (l := as.take k)
    rw [List.length_take] at hle
    omega
  have hlater : ∀ {k l : Nat} {node : SEventListNode} {times : CommandTimes},
      as[k]? = some (.command node times) → k < l →
      (as.take k).countP TraceAction.isCommand < (as.take l).countP TraceAction.isCommand := by
    intro k l node times hk hkl
    have hsub : List.Sublist (as.take (k + 1)) (as.take l) :=
      (List.take_prefix_take_left hkl).sublist
    have hone := hsub.countP_le (p := TraceAction.isCommand)
    rw [List.take_add_one, hk, List.countP_append] at hone
    exact Nat.lt_of_lt_of_le (Nat.lt_add_one _) hone
  have hi' := hcounts (List.getElem?_eq_some_iff.mp hi).1
  have hj' := hcounts (List.getElem?_eq_some_iff.mp hj).1
  rw [foldl_nextCount config hstages, foldl_nextCount config hstages, UInt32.zero_add,
    UInt32.zero_add] at h
  have hsame := congrArg UInt32.toNat h
  rw [UInt32.toNat_ofNat_of_lt' hi', UInt32.toNat_ofNat_of_lt' hj'] at hsame
  rcases Nat.lt_trichotomy i j with hlt | heq | hgt
  · exact absurd hsame (Nat.ne_of_lt (hlater hi hlt))
  · exact heq
  · exact absurd hsame.symm (Nat.ne_of_lt (hlater hj hgt))

/-- Commands are on no row of a thread. -/
theorem commandRow_ne_thread (count : UInt32) (node : SEventListNode) (threadId : UInt64) :
    commandRow config count node ≠ .thread threadId := by
  unfold commandRow
  split
  · exact TraceRow.noConfusion
  · split
    · exact TraceRow.noConfusion
    · exact TraceRow.noConfusion

/-- Commands are drawn for no thread. -/
theorem ownerOf_command_ne_thread (i : Nat) (node : SEventListNode) (times : CommandTimes)
    (threadId : UInt64) : ownerOf config i (.command node times) ≠ .thread threadId := by
  unfold ownerOf
  dsimp only
  split
  · exact Owner.noConfusion
  · split
    · exact Owner.noConfusion
    · exact Owner.noConfusion

/-- Rows are the same where what they are for is. -/
theorem rowOf_eq_iff {as : List TraceAction} (hlength : as.length ≤ 2 ^ 32) {i j : Nat}
    {a a' : TraceAction} (hi : as[i]? = some a) (hj : as[j]? = some a') :
    rowOf config ((as.take i).foldl (nextCount config) 0) a =
        rowOf config ((as.take j).foldl (nextCount config) 0) a' ↔
      ownerOf config i a = ownerOf config j a' := by
  cases a with
  | call functionName tag includeId enqueueCounter threadId tickStart tickEnd =>
    cases a' with
    | call functionName' tag' includeId' enqueueCounter' threadId' tickStart' tickEnd' =>
      simp only [rowOf, ownerOf, TraceRow.thread.injEq, Owner.thread.injEq]
    | command node' times' =>
      exact iff_of_false (commandRow_ne_thread config _ node' threadId).symm
        (ownerOf_command_ne_thread config j node' times' threadId).symm
  | command node times =>
    cases a' with
    | call functionName' tag' includeId' enqueueCounter' threadId' tickStart' tickEnd' =>
      exact iff_of_false (commandRow_ne_thread config _ node threadId')
        (ownerOf_command_ne_thread config i node times threadId')
    | command node' times' =>
      simp only [rowOf, ownerOf, commandRow]
      split
      · simp only [TraceRow.kernel.injEq, Owner.kernel.injEq]
      · split
        · next hstages =>
          rw [TraceRow.stages.injEq, Owner.command.injEq]
          constructor
          · intro h
            exact number_inj_of_length_le config hstages hlength hi hj h.1
          · rintro rfl
            cases hi.symm.trans hj
            exact ⟨rfl, rfl⟩
        · simp only [TraceRow.queue.injEq, Owner.queue.injEq]

/-- **Rows are told apart**: bars of two actions have one `tid` exactly when both are of one thread,
one queue or one kernel, and of one command when commands are drawn in stages. -/
theorem tid_eq_iff (startTime : UInt64) {as : List TraceAction} (hlength : as.length ≤ 2 ^ 32)
    {i j : Nat} {x y : UInt32 × TraceAction} (hx : (numbered config 0 as)[i]? = some x)
    (hy : (numbered config 0 as)[j]? = some y) {b b' : Bar}
    (hb : b ∈ barsOf config startTime x.1 x.2) (hb' : b' ∈ barsOf config startTime y.1 y.2) :
    b.row.tid = b'.row.tid ↔ ownerOf config i x.2 = ownerOf config j y.2 := by
  rw [getElem?_numbered] at hx hy
  obtain ⟨a, hi, rfl⟩ := Option.map_eq_some_iff.mp hx
  obtain ⟨a', hj, rfl⟩ := Option.map_eq_some_iff.mp hy
  rw [row_of_mem_barsOf config hb, row_of_mem_barsOf config hb',
    ← rowOf_eq_iff config hlength hi hj]
  constructor
  · exact tid_rowOf_inj config
  · exact congrArg TraceRow.tid

end

/-- One command after another of the same queue, in stages. -/
theorem tid_next_stages : (TraceRow.stages 0 7).tid ≠ (TraceRow.stages 1 7).tid := by
  let node : SEventListNode := ⟨1, 7, "k", 1, 10, false, 0, 2⟩
  let times : CommandTimes := ⟨1, 2, 3, 4⟩
  let as : List TraceAction := [.command node times, .command node times]
  have hlength : as.length ≤ 2 ^ 32 := Nat.le_of_ble_eq_true rfl
  intro h
  have howner := (tid_eq_iff { chromePerformanceTimingInStages := true } 0 hlength (i := 0) (j := 1)
    rfl rfl (List.mem_of_getElem? (i := 0) rfl) (List.mem_of_getElem? (i := 0) rfl)).mp h
  exact absurd (Owner.command.inj howner) Nat.zero_ne_one

/-! ## A run -/

section

variable (config : ChromeConfig) (startTime : UInt64)

/-- What is drawn of a run: for each action, in order. -/
def drawnOf (us : UInt64 → String) (addFlowEvents : Bool) (processId : UInt64)
    (as : List TraceAction) : List String :=
  (numbered config 0 as).flatMap (drawnLines config startTime us addFlowEvents processId)

/-- **What is in the file of a run**, whatever the buffer: what is drawn for each action, in order, and
byte for byte where all of it fits the string buffer. The bars of a command are drawn to scale, and
less than a second behind when it was seen to be queued. -/
theorem trace_run (us : UInt64 → String) (addFlowEvents : Bool) (processId : UInt64)
    (bufferSize : UInt32) (as : List TraceAction) :
    lines (traceOf us processId addFlowEvents bufferSize
        ((traceSystem config startTime).exec {} as).calls).traceFile =
      drawnOf config startTime us addFlowEvents processId as ∧
    ((∀ line ∈ drawnOf config startTime us addFlowEvents processId as,
        line.utf8ByteSize < stringBufferSize) →
      ∀ beyond, writtenLines beyond (lines (traceOf us processId addFlowEvents bufferSize
          ((traceSystem config startTime).exec {} as).calls).traceFile) =
        (drawnOf config startTime us addFlowEvents processId as).map utf8) ∧
    ∀ count node times,
      DrawnToScale config startTime node times (commandBars config startTime count node times) ∧
      shownAt config startTime node times times.commandQueued =
        node.queuedTime - startTime + lateness config node times ∧
      lateness config node times < threshold := by
  have hlines : lines (traceOf us processId addFlowEvents bufferSize
      ((traceSystem config startTime).exec {} as).calls).traceFile =
        drawnOf config startTime us addFlowEvents processId as := by
    rw [lines_traceOf, lines_exec]
    exact List.nil_append _
  refine ⟨hlines, fun hshort beyond => ?_, fun count node times => ?_⟩
  · rw [hlines]
    refine List.ext_getElem? fun i => ?_
    rw [writtenLines, List.getElem?_mapIdx, List.getElem?_map]
    cases hline : (drawnOf config startTime us addFlowEvents processId as)[i]? with
    | none => rfl
    | some line =>
      exact congrArg some (written_of_short _ (hshort line (List.mem_of_getElem? hline)))
  · exact ⟨commandBars_drawnToScale config startTime node times count,
      shownAt_commandQueued config startTime node times, lateness_lt config node times⟩

end

/-- A call with a tag, and its command on the row of the queue. -/
def enqueuedKernel : List TraceAction :=
  [.call "clEnqueueNDRangeKernel" "k" true 1 7 1000 2500,
    .command ⟨1, 7, "k", 1, 10, false, 0, 2⟩ ⟨1, 2, 3, 9⟩]

theorem trace_run_enqueuedKernel :
    writtenLines (fun _ => []) (lines (traceOf (microseconds UInt64.toNat) 1 true 8
        ((traceSystem {} 0).exec {} enqueuedKernel).calls).traceFile) =
      (drawnOf {} 0 (microseconds UInt64.toNat) true 1 enqueuedKernel).map utf8 :=
  (trace_run {} 0 (microseconds UInt64.toNat) true 1 8 enqueuedKernel).2.1 (by decide +kernel)
    fun _ => []

end CLIntercept.Trace
