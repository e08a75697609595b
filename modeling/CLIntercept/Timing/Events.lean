import CLIntercept.Api
import CLIntercept.Config
import CLIntercept.Lib.Run
import Mathlib.Data.List.Nodup
import Mathlib.Logic.Function.Basic

/-!
# The list of timing events

With device timing every enqueue puts its event on a list and takes a reference on it. From time to
time the list is gone through: what has completed is read, put into the statistics of its device and
name, released and erased.

An iterator of the list is the number of the call that added the node, so that an event handle may
come back. Beside the members stand the references that the driver has given, the calls of
`clReleaseEvent`, and for every node that was erased what the driver had answered. `timingEvents_iff` says
of every run exactly when the list holds the tool's references and nothing that has terminated: an
event that ends with an error stays on the list for good.
-/

set_option autoImplicit false

namespace CLIntercept.Timing

open CLIntercept.Lib

/-! ## The code -/

structure SEventListNode where
  device : Handle
  queueNumber : Nat
  name : String
  enqueueCounter : UInt64
  queuedTime : UInt64
  useProfilingDelta : Bool
  profilingDeltaNS : Int64
  event : Handle
  deriving DecidableEq, Repr

structure SDeviceTimingStats where
  numberOfCalls : UInt64 := 0
  minNS : UInt64 := 0xffffffffffffffff
  maxNS : UInt64 := 0
  totalNS : UInt64 := 0
  deriving DecidableEq, Repr

/-- What `addTimingEvent` is given, and the number of the queue. -/
structure AddRequest where
  functionName : String
  enqueueCounter : UInt64
  queuedTime : UInt64
  tag : String
  queueNumber : Nat
  event : Handle

/-- The readings behind the delta of a device with a host timer. -/
structure TimerReadings where
  interceptTimeStartNS : UInt64
  hostTimeNS : UInt64
  interceptTimeEndNS : UInt64
  deviceHostTimeDeltaNS : Int64

/-- What the driver answers to it. -/
structure AddAnswers where
  device : Handle
  retainCode : Int
  timers : Option TimerReadings := none

/-- What the driver answers of one event in `checkTimingEvents`, and the event's status as it is:
the query writes it only if it succeeds. -/
structure EventAnswers where
  infoCode : Int
  status : Int
  queuedCode : Int := clSuccess
  submitCode : Int := clSuccess
  startCode : Int := clSuccess
  endCode : Int := clSuccess
  commandStart : UInt64 := 0
  commandEnd : UInt64 := 0
  releaseCode : Int := clSuccess
  deriving DecidableEq, Repr

/-- A node of the list, under the number of the call that added it. -/
structure Entry where
  id : Nat
  node : SEventListNode
  deriving DecidableEq, Repr

/-- `m_EventList` and `m_DeviceTimingStatsMap`; and what happened: the calls of `addTimingEvent`, the
references of each of them that the tool holds, its releases, and the erased nodes with the answers
that were given of them. -/
structure TimingState where
  eventList : List Entry := []
  deviceTimingStatsMap : Handle → String → SDeviceTimingStats := fun _ _ => {}
  added : Nat := 0
  references : Nat → Nat := fun _ => 0
  releases : List Nat := []
  erased : List (Entry × EventAnswers) := []

def profilingDelta (t : TimerReadings) : Int64 :=
  ((t.interceptTimeEndNS - t.interceptTimeStartNS) / 2 +
    (t.interceptTimeStartNS - t.hostTimeNS)).toInt64 - t.deviceHostTimeDeltaNS

/-- A null event is logged and dropped. Nothing looks at what the driver says to the retain. -/
def addTimingEvent (r : AddRequest) (a : AddAnswers) (s : TimingState) : TimingState :=
  if r.event = null then { s with added := s.added + 1 }
  else
    let timers := if a.device ≠ null then a.timers else none
    let node : SEventListNode :=
      { device := a.device
        queueNumber := r.queueNumber
        name := if r.tag ≠ "" then r.tag else r.functionName
        enqueueCounter := r.enqueueCounter
        queuedTime := r.queuedTime
        useProfilingDelta := timers.isSome
        profilingDeltaNS := (timers.map profilingDelta).getD 0
        event := r.event }
    { s with
      eventList := s.eventList ++ [⟨s.added, node⟩]
      added := s.added + 1
      references :=
        if a.retainCode = clSuccess then Function.update s.references s.added 1 else s.references }

def SDeviceTimingStats.record (stats : SDeviceTimingStats) (delta : UInt64) :
    SDeviceTimingStats where
  numberOfCalls := stats.numberOfCalls + 1
  totalNS := stats.totalNS + delta
  minNS := min stats.minNS delta
  maxNS := max stats.maxNS delta

/-- The profiling data, if it is asked for and all four queries succeed: their codes are or-ed. -/
def profilingData (config : Config) (a : EventAnswers) : Option UInt64 :=
  if config.timesDevices &&
      [a.queuedCode, a.submitCode, a.startCode, a.endCode].all (· = clSuccess) then
    some (a.commandEnd - a.commandStart)
  else none

def recordTiming (config : Config) (node : SEventListNode) (a : EventAnswers) (s : TimingState) :
    TimingState :=
  match profilingData config a with
  | some delta =>
    let stats := s.deviceTimingStatsMap node.device
    { s with
      deviceTimingStatsMap := Function.update s.deviceTimingStatsMap node.device
        (Function.update stats node.name ((stats node.name).record delta)) }
  | none => s

def releaseEvent (id : Nat) (a : EventAnswers) (s : TimingState) : TimingState :=
  { s with
    releases := id :: s.releases
    references :=
      if a.releaseCode = clSuccess then
        Function.update s.references id (s.references id - 1)
      else s.references }

/-- `m_EventList.erase(current)`. -/
def eraseEntry (e : Entry) (a : EventAnswers) (s : TimingState) : TimingState :=
  { s with
    eventList := s.eventList.filter (·.id ≠ e.id)
    erased := (e, a) :: s.erased }

/-- The body of the loop. -/
def checkTimingEvent (config : Config) (e : Entry) (a : EventAnswers) (s : TimingState) :
    TimingState :=
  if a.infoCode = clSuccess then
    if a.status = clComplete then
      eraseEntry e a (releaseEvent e.id a (recordTiming config e.node a s))
    else s
  else if a.infoCode = clInvalidEvent then eraseEntry e a s
  else s

/-- The loop, from `current` on: `next` is saved before the body may erase. -/
def checkLoop (config : Config) (answers : Nat → EventAnswers) :
    List Entry → TimingState → TimingState
  | [], s => s
  | current :: next, s =>
    checkLoop config answers next (checkTimingEvent config current (answers current.id) s)

def checkTimingEvents (config : Config) (answers : Nat → EventAnswers) (s : TimingState) :
    TimingState :=
  checkLoop config answers s.eventList s

/-! ## What one answer does -/

/-- The driver reports that the command has run. -/
def Completed (a : EventAnswers) : Prop := a.infoCode = clSuccess ∧ a.status = clComplete

/-- The driver reports that there is no such event. -/
def Invalid (a : EventAnswers) : Prop := a.infoCode = clInvalidEvent

/-- The node is erased. -/
def Erases (a : EventAnswers) : Prop := Completed a ∨ Invalid a

instance (a : EventAnswers) : Decidable (Completed a) := inferInstanceAs (Decidable (_ ∧ _))

instance (a : EventAnswers) : Decidable (Invalid a) := inferInstanceAs (Decidable (_ = _))

instance (a : EventAnswers) : Decidable (Erases a) := inferInstanceAs (Decidable (_ ∨ _))

/-- An event that completed is not invalid. -/
theorem Completed.not_invalid {a : EventAnswers} (h : Completed a) : ¬ Invalid a := by
  intro hi
  rw [Invalid, h.1] at hi
  exact absurd hi (by decide)

section

variable (config : Config) (e : Entry) (a : EventAnswers) (s : TimingState)

/-- The three things that the body of the loop can do. -/
theorem checkTimingEvent_eq : checkTimingEvent config e a s =
    if Completed a then eraseEntry e a (releaseEvent e.id a (recordTiming config e.node a s))
    else if Invalid a then eraseEntry e a s
    else s := by
  unfold checkTimingEvent
  by_cases hi : a.infoCode = clSuccess
  · have hvalid : ¬ Invalid a := fun h => absurd (hi.symm.trans h) (by decide)
    by_cases hs : a.status = clComplete
    · rw [if_pos hi, if_pos hs, if_pos ⟨hi, hs⟩]
    · rw [if_pos hi, if_neg hs, if_neg fun h => hs h.2, if_neg hvalid]
  · have hnot : ¬ Completed a := fun h => hi h.1
    rw [if_neg hi, if_neg hnot]
    rfl

@[simp] theorem recordTiming_eventList : (recordTiming config e.node a s).eventList = s.eventList := by
  unfold recordTiming
  split <;> rfl

@[simp] theorem recordTiming_added : (recordTiming config e.node a s).added = s.added := by
  unfold recordTiming
  split <;> rfl

@[simp] theorem recordTiming_references :
    (recordTiming config e.node a s).references = s.references := by
  unfold recordTiming
  split <;> rfl

@[simp] theorem recordTiming_releases :
    (recordTiming config e.node a s).releases = s.releases := by
  unfold recordTiming
  split <;> rfl

@[simp] theorem recordTiming_erased : (recordTiming config e.node a s).erased = s.erased := by
  unfold recordTiming
  split <;> rfl

/-- A check adds no event. -/
theorem checkTimingEvent_added : (checkTimingEvent config e a s).added = s.added := by
  rw [checkTimingEvent_eq]
  split_ifs <;> simp [eraseEntry, releaseEvent]

/-- An event that is over is taken out of the list. -/
theorem checkTimingEvent_eventList : (checkTimingEvent config e a s).eventList =
    if Erases a then s.eventList.filter (·.id ≠ e.id) else s.eventList := by
  rw [checkTimingEvent_eq]
  by_cases hc : Completed a
  · simp [hc, Erases, eraseEntry, releaseEvent]
  · by_cases hi : Invalid a
    · simp [hc, hi, Erases, eraseEntry]
    · simp [hc, hi, Erases]

/-- What is taken out is noted, with the driver's answers. -/
theorem checkTimingEvent_erased : (checkTimingEvent config e a s).erased =
    if Erases a then (e, a) :: s.erased else s.erased := by
  rw [checkTimingEvent_eq]
  by_cases hc : Completed a
  · simp [hc, Erases, eraseEntry, releaseEvent]
  · by_cases hi : Invalid a
    · simp [hc, hi, Erases, eraseEntry]
    · simp [hc, hi, Erases]

/-- An event that completed is released. -/
theorem checkTimingEvent_releases : (checkTimingEvent config e a s).releases =
    if Completed a then e.id :: s.releases else s.releases := by
  rw [checkTimingEvent_eq]
  split_ifs <;> simp [eraseEntry, releaseEvent]

/-- The reference that the layer took is given back, if the driver agrees. -/
theorem checkTimingEvent_references : (checkTimingEvent config e a s).references =
    if Completed a ∧ a.releaseCode = clSuccess then
      Function.update s.references e.id (s.references e.id - 1)
    else s.references := by
  rw [checkTimingEvent_eq]
  by_cases hc : Completed a
  · by_cases hr : a.releaseCode = clSuccess
    · simp [hc, hr, eraseEntry, releaseEvent]
    · simp [hc, hr, eraseEntry, releaseEvent]
  · simp only [hc, false_and, if_false]
    split <;> rfl

/-- The times of what completed go into the statistics. -/
theorem checkTimingEvent_stats : (checkTimingEvent config e a s).deviceTimingStatsMap =
    if Completed a then (recordTiming config e.node a s).deviceTimingStatsMap
    else s.deviceTimingStatsMap := by
  rw [checkTimingEvent_eq]
  split_ifs <;> rfl

end

/-! ## What a whole check does -/

section

variable {config : Config} {answers : Nat → EventAnswers}

/-- The loop leaves the events that are not over. -/
theorem mem_eventList_checkLoop (es : List Entry) (s : TimingState) (e : Entry) :
    e ∈ (checkLoop config answers es s).eventList ↔
      e ∈ s.eventList ∧ ∀ e' ∈ es, e'.id = e.id → ¬ Erases (answers e.id) := by
  induction es generalizing s with
  | nil => simp [checkLoop]
  | cons d es ih =>
    rw [checkLoop, ih, checkTimingEvent_eventList, List.forall_mem_cons]
    by_cases hd : Erases (answers d.id)
    · rw [if_pos hd, List.mem_filter, and_assoc]
      refine and_congr_right fun _ => and_congr_left fun _ => ?_
      constructor
      · intro hne heq
        exact absurd heq.symm (by simpa using hne)
      · intro h
        have hne : e.id ≠ d.id := fun heq => h heq.symm (by rw [heq]; exact hd)
        simpa using hne
    · rw [if_neg hd]
      refine and_congr_right fun _ => ?_
      constructor
      · intro h
        exact ⟨fun heq => by rw [← heq]; exact hd, h⟩
      · intro h
        exact h.2

/-- The loop takes out the events that are over, with what the driver said of them. -/
theorem mem_erased_checkLoop (es : List Entry) (s : TimingState) (x : Entry × EventAnswers) :
    x ∈ (checkLoop config answers es s).erased ↔
      x ∈ s.erased ∨ (x.1 ∈ es ∧ x.2 = answers x.1.id ∧ Erases x.2) := by
  induction es generalizing s with
  | nil => simp [checkLoop]
  | cons d es ih =>
    rw [checkLoop, ih, checkTimingEvent_erased, List.mem_cons]
    have hhead : x = (d, answers d.id) ↔ x.1 = d ∧ x.2 = answers x.1.id := by
      constructor
      · rintro rfl
        exact ⟨rfl, rfl⟩
      · intro h
        exact Prod.ext h.1 (by rw [h.2, h.1])
    by_cases hd : Erases (answers d.id)
    · rw [if_pos hd, List.mem_cons, hhead]
      constructor
      · rintro ((⟨rfl, h⟩ | h) | ⟨h, h'⟩)
        · exact .inr ⟨.inl rfl, h, by rw [h]; exact hd⟩
        · exact .inl h
        · exact .inr ⟨.inr h, h'⟩
      · rintro (h | ⟨rfl | h, h', h''⟩)
        · exact .inl (.inr h)
        · exact .inl (.inl ⟨rfl, h'⟩)
        · exact .inr ⟨h, h', h''⟩
    · rw [if_neg hd]
      constructor
      · rintro (h | ⟨h, h'⟩)
        · exact .inl h
        · exact .inr ⟨.inr h, h'⟩
      · rintro (h | ⟨rfl | h, h', h''⟩)
        · exact .inl h
        · exact absurd (h' ▸ h'') hd
        · exact .inr ⟨h, h', h''⟩

/-- Each event that completed gives a reference back, if the driver takes it. -/
theorem references_checkLoop {es : List Entry} (hes : (es.map Entry.id).Nodup) (s : TimingState)
    (n : Nat) : (checkLoop config answers es s).references n =
      if n ∈ es.map Entry.id ∧ Completed (answers n) ∧ (answers n).releaseCode = clSuccess then
        s.references n - 1
      else s.references n := by
  induction es generalizing s with
  | nil => simp [checkLoop]
  | cons d es ih =>
    rw [List.map_cons, List.nodup_cons] at hes
    rw [checkLoop, ih hes.2, checkTimingEvent_references]
    by_cases hn : n = d.id
    · subst hn
      by_cases hc : Completed (answers d.id) ∧ (answers d.id).releaseCode = clSuccess
      · simp [hes.1, hc]
      · simp [hc]
    · by_cases hc : Completed (answers d.id) ∧ (answers d.id).releaseCode = clSuccess
      · simp [hn, hc]
      · simp [hn, hc]

end

/-! ## What is true of every run -/

/-- What an erased node has added to the statistics of a device and a name. -/
def contribution (config : Config) (device : Handle) (name : String) (x : Entry × EventAnswers) :
    Option UInt64 :=
  if Completed x.2 ∧ x.1.node.device = device ∧ x.1.node.name = name then profilingData config x.2
  else none

/-- The statistics of some durations, the last first. -/
def statsOf (deltas : List UInt64) : SDeviceTimingStats :=
  deltas.foldr (fun delta stats => stats.record delta) {}

/-- Each call adds one node, nodes are erased once, and what is in the statistics and what was
released are the nodes that were erased because they had completed. -/
structure Recorded (config : Config) (s : TimingState) : Prop where
  fresh : ∀ e ∈ s.eventList, e.id < s.added
  nodup : (s.eventList.map Entry.id).Nodup
  erasedFresh : ∀ x ∈ s.erased, x.1.id < s.added
  erasedOnce : (s.erased.map (·.1.id)).Nodup
  erasedGone : ∀ x ∈ s.erased, x.1.id ∉ s.eventList.map Entry.id
  releases : s.releases = (s.erased.filter (Completed ·.2)).map (·.1.id)
  stats : ∀ device name, s.deviceTimingStatsMap device name =
    statsOf (s.erased.filterMap (contribution config device name))

/-- A time is counted under its device and its name. -/
theorem recordTiming_stats (config : Config) (e : Entry) (a : EventAnswers) (s : TimingState)
    (device : Handle) (name : String) :
    (recordTiming config e.node a s).deviceTimingStatsMap device name =
      match profilingData config a with
      | some delta =>
        if e.node.device = device ∧ e.node.name = name then
          (s.deviceTimingStatsMap device name).record delta
        else s.deviceTimingStatsMap device name
      | none => s.deviceTimingStatsMap device name := by
  unfold recordTiming
  cases profilingData config a with
  | none => rfl
  | some delta =>
    simp only
    by_cases hd : e.node.device = device
    · subst hd
      by_cases hn : e.node.name = name
      · subst hn
        simp
      · simp [Function.update_of_ne (Ne.symm hn), hn]
    · simp [Function.update_of_ne (Ne.symm hd), hd]

section

variable {config : Config} {s : TimingState}

/-- One node of the list is gone through. -/
theorem Recorded.check {e : Entry} (h : Recorded config s) (he : e ∈ s.eventList)
    (a : EventAnswers) : Recorded config (checkTimingEvent config e a s) := by
  by_cases herase : Erases a
  · have hlist : (checkTimingEvent config e a s).eventList = s.eventList.filter (·.id ≠ e.id) := by
      rw [checkTimingEvent_eventList, if_pos herase]
    have herased : (checkTimingEvent config e a s).erased = (e, a) :: s.erased := by
      rw [checkTimingEvent_erased, if_pos herase]
    have hsub : ((s.eventList.filter (·.id ≠ e.id)).map Entry.id).Sublist
        (s.eventList.map Entry.id) := List.filter_sublist.map _
    have hid : e.id ∈ s.eventList.map Entry.id := List.mem_map_of_mem he
    refine ⟨?_, ?_, ?_, ?_, ?_, ?_, ?_⟩
    · intro e' he'
      rw [hlist] at he'
      rw [checkTimingEvent_added]
      exact h.fresh e' (List.mem_of_mem_filter he')
    · rw [hlist]
      exact h.nodup.sublist hsub
    · rw [herased, checkTimingEvent_added, List.forall_mem_cons]
      exact ⟨h.fresh e he, h.erasedFresh⟩
    · rw [herased, List.map_cons, List.nodup_cons]
      refine ⟨fun hmem => ?_, h.erasedOnce⟩
      obtain ⟨x, hx, heq⟩ := List.mem_map.mp hmem
      exact h.erasedGone x hx (by rw [heq]; exact hid)
    · rw [herased, hlist, List.forall_mem_cons]
      refine ⟨fun hmem => ?_, fun x hx hmem => h.erasedGone x hx (hsub.subset hmem)⟩
      obtain ⟨e', he', heq⟩ := List.mem_map.mp hmem
      exact absurd heq (by simpa using (List.mem_filter.mp he').2)
    · rw [herased, checkTimingEvent_releases, List.filter_cons, h.releases]
      by_cases hc : Completed a
      · simp [hc]
      · simp [hc]
    · intro device name
      rw [herased, checkTimingEvent_stats, List.filterMap_cons, contribution]
      by_cases hc : Completed a
      · rw [if_pos hc, recordTiming_stats]
        simp only [hc, true_and]
        cases profilingData config a with
        | none => simp [h.stats]
        | some delta =>
          by_cases hkey : e.node.device = device ∧ e.node.name = name
          · simp [hkey, h.stats, statsOf]
          · simp [hkey, h.stats]
      · simp [hc, h.stats]
  · have hsame : checkTimingEvent config e a s = s := by
      rw [checkTimingEvent_eq, if_neg fun hc => herase (.inl hc), if_neg fun hi => herase (.inr hi)]
    rw [hsame]
    exact h

/-- **A loop over the list keeps the statistics those of what was taken out.** -/
theorem Recorded.checkLoop {answers : Nat → EventAnswers} {es : List Entry}
    (h : Recorded config s) (hes : ∀ e ∈ es, e ∈ s.eventList) (hn : (es.map Entry.id).Nodup) :
    Recorded config (checkLoop config answers es s) := by
  induction es generalizing s with
  | nil => exact h
  | cons d es ih =>
    rw [List.forall_mem_cons] at hes
    rw [List.map_cons, List.nodup_cons] at hn
    refine ih (h.check hes.1 _) (fun e he => ?_) hn.2
    have hne : e.id ≠ d.id := fun heq => hn.1 (heq ▸ List.mem_map_of_mem he)
    rw [checkTimingEvent_eventList]
    split
    · exact List.mem_filter.mpr ⟨hes.2 e he, by simpa using hne⟩
    · exact hes.2 e he

/-- Adding an event keeps the statistics those of what was taken out. -/
theorem Recorded.add (h : Recorded config s) (r : AddRequest) (a : AddAnswers) :
    Recorded config (addTimingEvent r a s) := by
  unfold addTimingEvent
  split
  · exact ⟨fun e he => Nat.lt_succ_of_lt (h.fresh e he), h.nodup,
      fun x hx => Nat.lt_succ_of_lt (h.erasedFresh x hx), h.erasedOnce, h.erasedGone, h.releases,
      h.stats⟩
  · have hnew : s.added ∉ s.eventList.map Entry.id := by
      intro hmem
      obtain ⟨e, he, heq⟩ := List.mem_map.mp hmem
      exact absurd heq (Nat.ne_of_lt (h.fresh e he))
    refine ⟨?_, ?_, fun x hx => Nat.lt_succ_of_lt (h.erasedFresh x hx), h.erasedOnce, ?_, h.releases,
      h.stats⟩
    · intro e he
      rcases List.mem_append.mp he with he | he
      · exact Nat.lt_succ_of_lt (h.fresh e he)
      · rw [List.mem_singleton.mp he]
        exact Nat.lt_succ_self _
    · rw [List.map_append, List.nodup_append]
      refine ⟨h.nodup, List.nodup_singleton _, fun n hn m hm heq => ?_⟩
      have hm' : m = s.added := List.mem_singleton.mp hm
      exact hnew (by rw [← hm', ← heq]; exact hn)
    · intro x hx hmem
      rw [List.map_append, List.mem_append, List.map_singleton, List.mem_singleton] at hmem
      rcases hmem with hmem | hmem
      · exact h.erasedGone x hx hmem
      · exact absurd hmem (Nat.ne_of_lt (h.erasedFresh x hx))

end

/-! ## The references -/

/-- The nodes of the list are the events on which the tool holds one reference; of an event that
the driver has called invalid nothing is said. -/
def Held (s : TimingState) : Prop :=
  ∀ n, (∀ x ∈ s.erased, x.1.id = n → ¬ Invalid x.2) →
    s.references n = if n ∈ s.eventList.map Entry.id then 1 else 0

section

variable {config : Config} {s : TimingState}

/-- A call that adds a node keeps the references right exactly when the retain succeeds. -/
theorem held_addTimingEvent_iff (hr : Recorded config s) (hh : Held s) (r : AddRequest)
    (a : AddAnswers) :
    Held (addTimingEvent r a s) ↔ r.event = null ∨ a.retainCode = clSuccess := by
  have hnew : s.added ∉ s.eventList.map Entry.id := by
    intro hmem
    obtain ⟨e, he, heq⟩ := List.mem_map.mp hmem
    exact absurd heq (Nat.ne_of_lt (hr.fresh e he))
  have hvalid : ∀ x ∈ s.erased, x.1.id = s.added → ¬ Invalid x.2 := fun x hx heq =>
    absurd heq (Nat.ne_of_lt (hr.erasedFresh x hx))
  unfold addTimingEvent
  split
  · next hnull => exact iff_of_true hh (.inl hnull)
  · next hnull =>
    constructor
    · intro h
      right
      by_contra hfail
      have hone := h s.added hvalid
      rw [if_neg hfail, hh s.added hvalid, if_neg hnew, if_pos (by simp)] at hone
      exact absurd hone (by decide)
    · intro hok n hn
      rw [if_pos (hok.resolve_left hnull)]
      simp only [List.map_append, List.map_singleton, List.mem_append, List.mem_singleton]
      by_cases heq : n = s.added
      · subst heq
        simp
      · rw [Function.update_of_ne heq, hh n hn]
        simp [heq]

/-- After a check the list has what is not over. -/
theorem mem_ids_checkTimingEvents (answers : Nat → EventAnswers) (n : Nat) :
    n ∈ (checkTimingEvents config answers s).eventList.map Entry.id ↔
      n ∈ s.eventList.map Entry.id ∧ ¬ Erases (answers n) := by
  constructor
  · intro h
    obtain ⟨e, he, rfl⟩ := List.mem_map.mp h
    obtain ⟨hmem, hkept⟩ := (mem_eventList_checkLoop s.eventList s e).mp he
    exact ⟨List.mem_map_of_mem hmem, hkept e hmem rfl⟩
  · intro h
    obtain ⟨e, he, rfl⟩ := List.mem_map.mp h.1
    exact List.mem_map_of_mem ((mem_eventList_checkLoop s.eventList s e).mpr ⟨he, fun _ _ _ => h.2⟩)

/-- A check keeps the references right exactly when every release of it succeeds. -/
theorem held_checkTimingEvents_iff (hr : Recorded config s) (hh : Held s)
    (answers : Nat → EventAnswers) :
    Held (checkTimingEvents config answers s) ↔
      ∀ e ∈ s.eventList, Completed (answers e.id) → (answers e.id).releaseCode = clSuccess := by
  have herased : ∀ x, x ∈ (checkTimingEvents config answers s).erased ↔ _ :=
    mem_erased_checkLoop s.eventList s
  have hrefs : ∀ n, (checkTimingEvents config answers s).references n = _ :=
    references_checkLoop hr.nodup s
  constructor
  · intro h e he hc
    have hid : e.id ∈ s.eventList.map Entry.id := List.mem_map_of_mem he
    have hbefore : s.references e.id = 1 := by
      rw [hh e.id fun x hx heq => absurd (heq ▸ hid) (hr.erasedGone x hx), if_pos hid]
    have hafter : (checkTimingEvents config answers s).references e.id = 0 := by
      rw [h e.id, if_neg fun hmem => ((mem_ids_checkTimingEvents answers e.id).mp hmem).2 (.inl hc)]
      intro x hx heq
      rcases (herased x).mp hx with hx | ⟨_, hx, _⟩
      · exact absurd (heq ▸ hid) (hr.erasedGone x hx)
      · rw [hx, heq]
        exact hc.not_invalid
    by_contra hfail
    rw [hrefs e.id, if_neg fun hall => hfail hall.2.2, hbefore] at hafter
    exact absurd hafter (by decide)
  · intro hok n hn
    have hold : ∀ x ∈ s.erased, x.1.id = n → ¬ Invalid x.2 := fun x hx =>
      hn x ((herased x).mpr (.inl hx))
    by_cases hmem : n ∈ s.eventList.map Entry.id
    · obtain ⟨e, he, rfl⟩ := List.mem_map.mp hmem
      rw [hrefs, hh e.id hold, if_pos hmem]
      by_cases hc : Completed (answers e.id)
      · rw [if_pos ⟨hmem, hc, hok e he hc⟩,
          if_neg fun h => ((mem_ids_checkTimingEvents answers e.id).mp h).2 (.inl hc)]
      · have hkept : ¬ Erases (answers e.id) := by
          rintro (h | h)
          · exact hc h
          · exact hn (e, answers e.id) ((herased _).mpr (.inr ⟨he, rfl, .inr h⟩)) rfl h
        rw [if_neg fun h => hc h.2.1,
          if_pos ((mem_ids_checkTimingEvents answers e.id).mpr ⟨hmem, hkept⟩)]
    · rw [hrefs, if_neg fun h => hmem h.1, hh n hold, if_neg hmem,
        if_neg fun h => hmem ((mem_ids_checkTimingEvents answers n).mp h).1]

end

/-! ## Runs -/

inductive TimingAction where
  | addTimingEvent (r : AddRequest) (a : AddAnswers)
  | checkTimingEvents (answers : Nat → EventAnswers)

def timingSystem (config : Config) : System TimingState TimingAction where
  step
    | s, .addTimingEvent r a => addTimingEvent r a s
    | s, .checkTimingEvents answers => checkTimingEvents config answers s
  legal _ _ := True

/-- **The list is exact**: it holds the events on which the tool has a reference; an event is erased
once, and then it is not on the list; those that were erased as completed are the ones that were
released, once each, and the ones that are in the statistics, once each. -/
structure Exact (config : Config) (s : TimingState) : Prop where
  held : Held s
  erasedOnce : (s.erased.map (·.1.id)).Nodup
  erasedGone : ∀ x ∈ s.erased, x.1.id ∉ s.eventList.map Entry.id
  releasedOnce : s.releases.Nodup
  released : ∀ n, n ∈ s.releases ↔ ∃ x ∈ s.erased, x.1.id = n ∧ Completed x.2
  stats : ∀ device name, s.deviceTimingStatsMap device name =
    statsOf (s.erased.filterMap (contribution config device name))

/-- After a check no event that has terminated is on the list. -/
def LeavesNoneTerminated (config : Config) (s : TimingState) : TimingAction → Prop
  | .addTimingEvent _ _ => True
  | .checkTimingEvents answers =>
    ∀ e ∈ (checkTimingEvents config answers s).eventList, 0 < (answers e.id).status

/-- The driver retains an event that is added, releases one that has completed, and of one that has
terminated reports either that it has completed or that there is no such event. -/
def Cooperates (s : TimingState) : TimingAction → Prop
  | .addTimingEvent r a => r.event = null ∨ a.retainCode = clSuccess
  | .checkTimingEvents answers =>
    (∀ e ∈ s.eventList, Completed (answers e.id) → (answers e.id).releaseCode = clSuccess) ∧
      ∀ e ∈ s.eventList, (answers e.id).status ≤ 0 → Completed (answers e.id) ∨ Invalid (answers e.id)

section

variable {config : Config} {s : TimingState}

/-- **Every action keeps the statistics right.** -/
theorem recorded_step (a : TimingAction) (h : Recorded config s) :
    Recorded config ((timingSystem config).step s a) := by
  cases a with
  | addTimingEvent r a => exact h.add r a
  | checkTimingEvents answers => exact h.checkLoop (fun _ he => he) h.nodup

/-- The statistics are exact where every reference is given back once. -/
theorem Recorded.exact_iff_held (h : Recorded config s) : Exact config s ↔ Held s := by
  refine ⟨fun he => he.held, fun hh => ⟨hh, h.erasedOnce, h.erasedGone, ?_, fun n => ?_, h.stats⟩⟩
  · rw [h.releases]
    exact h.erasedOnce.sublist (List.filter_sublist.map _)
  · rw [h.releases, List.mem_map]
    constructor
    · rintro ⟨x, hx, rfl⟩
      obtain ⟨hmem, hc⟩ := List.mem_filter.mp hx
      exact ⟨x, hmem, rfl, by simpa using hc⟩
    · rintro ⟨x, hx, rfl, hc⟩
      exact ⟨x, List.mem_filter.mpr ⟨hx, by simpa using hc⟩, rfl⟩

/-- A check leaves no ended event in the list if each of them completed or is invalid. -/
theorem leavesNoneTerminated_iff (answers : Nat → EventAnswers) :
    LeavesNoneTerminated config s (.checkTimingEvents answers) ↔
      ∀ e ∈ s.eventList, (answers e.id).status ≤ 0 →
        Completed (answers e.id) ∨ Invalid (answers e.id) := by
  constructor
  · intro h e he hstatus
    by_contra hkept
    have hmem : e.id ∈ (checkTimingEvents config answers s).eventList.map Entry.id :=
      (mem_ids_checkTimingEvents answers e.id).mpr ⟨List.mem_map_of_mem he, hkept⟩
    obtain ⟨e', he', heq⟩ := List.mem_map.mp hmem
    have hpos := h e' he'
    rw [heq] at hpos
    exact absurd hpos (Int.not_lt.mpr hstatus)
  · intro h e he
    obtain ⟨hmem, hkept⟩ := (mem_eventList_checkLoop s.eventList s e).mp he
    by_contra hstatus
    exact hkept e hmem rfl (h e hmem (Int.not_lt.mp hstatus))

end

/-- **The timing event list**: a run keeps the list exact, and free of what has terminated, exactly
when the driver cooperates throughout. -/
theorem timingEvents_iff (config : Config) (as : List TimingAction) :
    (timingSystem config).Always (Exact config) {} as ∧
        (timingSystem config).Each (LeavesNoneTerminated config) {} as ↔
      (timingSystem config).Each Cooperates {} as := by
  have hinit : Recorded config {} :=
    ⟨by simp, by simp, by simp, by simp, by simp, by simp, fun _ _ => rfl⟩
  refine System.always_and_each_iff_each (I := Recorded config)
    (fun s a h _ => recorded_step a h) (fun s a h hp _ => ?_) hinit
    (hinit.exact_iff_held.mpr fun n _ => rfl) (System.each_of_forall (fun _ _ => trivial) _ _)
  rw [(recorded_step a h).exact_iff_held]
  cases a with
  | addTimingEvent r a =>
    show Held (addTimingEvent r a s) ∧ True ↔ _
    rw [and_true]
    exact held_addTimingEvent_iff h hp.held r a
  | checkTimingEvents answers =>
    rw [leavesNoneTerminated_iff]
    exact and_congr_left fun _ => held_checkTimingEvents_iff h hp.held answers

/-- An event that ends with an error stays on the list. -/
theorem aborted_event_stays :
    ¬ (timingSystem { devicePerformanceTiming := true }).Each
      (LeavesNoneTerminated { devicePerformanceTiming := true }) {}
      [.addTimingEvent ⟨"clEnqueueReadBuffer", 0, 0, "", 0, 7⟩ ⟨1, clSuccess, none⟩,
        .checkTimingEvents fun _ => { infoCode := clSuccess, status := -5 }] := by
  intro h
  have hpos := h.2.1 _ (List.mem_singleton_self _)
  revert hpos
  decide

end CLIntercept.Timing
