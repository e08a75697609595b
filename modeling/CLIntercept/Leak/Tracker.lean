import CLIntercept.Api
import CLIntercept.Lib.Printf

/-!
# The object tracker

For each type of object the layer counts allocations, retains and releases, and for pointers
allocations and frees; the report compares the counts. `possibleLeak_mem_iff` and
`unexpectedCounts_notMem` say what the comparisons print, whatever else the report has.

The counters are natural numbers: 2^64 calls are out of reach.
-/

set_option autoImplicit false

namespace CLIntercept.Leak

open CLIntercept.Lib

/-! ## The code -/

/-- The types with a tracker. -/
inductive ObjectType where
  | device
  | context
  | commandQueue
  | mem
  | sampler
  | program
  | kernel
  | event
  | semaphore
  | commandBuffer
  deriving DecidableEq, Repr

namespace ObjectType

/-- The trackers in the order of the report. -/
def all : List ObjectType :=
  [device, context, commandQueue, mem, sampler, program, kernel, event, semaphore, commandBuffer]

def label : ObjectType → String
  | device => "cl_device_id"
  | context => "cl_context"
  | commandQueue => "cl_command_queue"
  | mem => "cl_mem"
  | sampler => "cl_sampler"
  | program => "cl_program"
  | kernel => "cl_kernel"
  | event => "cl_event"
  | semaphore => "cl_semaphore_khr"
  | commandBuffer => "cl_command_buffer_khr"

/-- No type is left out of the report. -/
theorem mem_all (t : ObjectType) : t ∈ all := by
  cases t <;> decide

/-- No two types are reported under one label. -/
theorem label_injective {t t' : ObjectType} (h : t.label = t'.label) : t = t' := by
  revert h
  cases t <;> cases t' <;> decide

end ObjectType

structure CTracker where
  numAllocations : Nat := 0
  numRetains : Nat := 0
  numReleases : Nat := 0
  deriving DecidableEq, Repr

structure CPointerTracker where
  numAllocations : Nat := 0
  numFrees : Nat := 0
  deriving DecidableEq, Repr

structure CObjectTracker where
  trackers : ObjectType → CTracker := fun _ => {}
  pointers : CPointerTracker := {}

def CObjectTracker.modify (T : CObjectTracker) (t : ObjectType) (f : CTracker → CTracker) :
    CObjectTracker :=
  { T with trackers := fun t' => if t' = t then f (T.trackers t) else T.trackers t' }

def addAllocation (t : ObjectType) (obj : Handle) (T : CObjectTracker) : CObjectTracker :=
  if obj ≠ null then
    T.modify t fun tracker => { tracker with numAllocations := tracker.numAllocations + 1 }
  else T

def addRetain (t : ObjectType) (obj : Handle) (T : CObjectTracker) : CObjectTracker :=
  if obj ≠ null then
    T.modify t fun tracker => { tracker with numRetains := tracker.numRetains + 1 }
  else T

def addRelease (t : ObjectType) (obj : Handle) (T : CObjectTracker) : CObjectTracker :=
  if obj ≠ null then
    T.modify t fun tracker => { tracker with numReleases := tracker.numReleases + 1 }
  else T

def addPointerAllocation (ptr : Nat) (T : CObjectTracker) : CObjectTracker :=
  if ptr ≠ null then
    { T with pointers := { T.pointers with numAllocations := T.pointers.numAllocations + 1 } }
  else T

def addPointerFree (ptr : Nat) (T : CObjectTracker) : CObjectTracker :=
  if ptr ≠ null then
    { T with pointers := { T.pointers with numFrees := T.pointers.numFrees + 1 } }
  else T

def possibleLeak (label : String) : String := "Possible leak of type " ++ label ++ "!"

def unexpectedCounts (label : String) : String := "Unexpected counts for type " ++ label ++ "!"

def noLeaks (label : String) : String := "No " ++ label ++ " leaks detected."

/-- One line of the counts, with what is counted padded to the same length. -/
def countLine (what : String) (count : Nat) : String :=
  "    Number of " ++ what ++ number 10 1 count

/-- The lines for one type of objects. -/
def reportHelper (label : String) (tracker : CTracker) : List String :=
  let counts :=
    [countLine "Allocations: " tracker.numAllocations, countLine "Retains:     " tracker.numRetains,
      countLine "Releases:    " tracker.numReleases]
  if tracker.numReleases < tracker.numAllocations + tracker.numRetains then
    possibleLeak label :: counts
  else if tracker.numReleases > tracker.numAllocations + tracker.numRetains then
    unexpectedCounts label :: counts
  else if tracker.numAllocations ≠ 0 then [noLeaks label]
  else []

/-- The lines for pointers. -/
def reportPointers (label : String) (tracker : CPointerTracker) : List String :=
  let counts :=
    [countLine "Allocations: " tracker.numAllocations, countLine "Frees:       " tracker.numFrees]
  if tracker.numFrees < tracker.numAllocations then possibleLeak label :: counts
  else if tracker.numFrees > tracker.numAllocations then unexpectedCounts label :: counts
  else if tracker.numAllocations ≠ 0 then [noLeaks label]
  else []

def pointerLabel : String := "SVM/USM allocation"

def writeReport (T : CObjectTracker) : List String :=
  "" :: ObjectType.all.flatMap (fun t => reportHelper t.label (T.trackers t)) ++
    reportPointers pointerLabel T.pointers

/-! ## What is in the report -/

section

variable {label label' : String}

/-- A line begins as its first part does. -/
theorem head_append {s t : String} {c : Char} (h : s.toList.head? = some c) :
    (s ++ t).toList.head? = some c := by
  rw [String.toList_append, List.head?_append, h]
  rfl

/-- What stands between the same two texts. -/
theorem middle_inj {before after : String}
    (h : before ++ label ++ after = before ++ label' ++ after) : label = label' := by
  have hchars := congrArg String.toList h
  simp only [String.toList_append] at hchars
  exact String.toList_inj.mp (List.append_cancel_left (List.append_cancel_right hchars))

/-! The first letter of a line tells its kind. -/

/-- The lines are told apart by their first characters; one that names a leak begins with a `P`. -/
theorem possibleLeak_head (label : String) : (possibleLeak label).toList.head? = some 'P' :=
  head_append (head_append (by decide))

/-- The first character of a line about counts that cannot be. -/
theorem unexpectedCounts_head (label : String) :
    (unexpectedCounts label).toList.head? = some 'U' :=
  head_append (head_append (by decide))

/-- The first character of the line that all is well. -/
theorem noLeaks_head (label : String) : (noLeaks label).toList.head? = some 'N' :=
  head_append (head_append (by decide))

/-- The first character of the counts below a label. -/
theorem countLine_head (what : String) (count : Nat) :
    (countLine what count).toList.head? = some ' ' :=
  head_append (head_append (by decide))

/-- Lines with different first letters differ. -/
theorem ne_of_head {line line' : String} {c c' : Char} (h : line.toList.head? = some c)
    (h' : line'.toList.head? = some c') (hne : c ≠ c') : line ≠ line' := by
  rintro rfl
  exact hne (Option.some.inj (h.symm.trans h'))

/-- The empty line is none of them. -/
theorem ne_empty_of_head {line : String} {c : Char} (h : line.toList.head? = some c) :
    line ≠ "" := by
  rintro rfl
  cases h

/-- Both kinds of lines from what was made, what is gone and the lines with the counts. -/
def linesFor (label : String) (made gone numAllocations : Nat) (counts : List String) :
    List String :=
  if gone < made then possibleLeak label :: counts
  else if gone > made then unexpectedCounts label :: counts
  else if numAllocations ≠ 0 then [noLeaks label]
  else []

section

variable {counts : List String} (hcounts : ∀ line ∈ counts, line.toList.head? = some ' ')
include hcounts

/-- A leak is reported for the label where fewer went than were made. -/
theorem possibleLeak_mem_linesFor (made gone numAllocations : Nat) :
    possibleLeak label ∈ linesFor label' made gone numAllocations counts ↔
      label = label' ∧ gone < made := by
  have hline : possibleLeak label = possibleLeak label' ↔ label = label' :=
    ⟨middle_inj, fun h => by rw [h]⟩
  have hcount : possibleLeak label ∉ counts := fun hmem =>
    ne_of_head (possibleLeak_head _) (hcounts _ hmem) (by decide) rfl
  have hunexpected : possibleLeak label ≠ unexpectedCounts label' :=
    ne_of_head (possibleLeak_head _) (unexpectedCounts_head _) (by decide)
  have hnone : possibleLeak label ≠ noLeaks label' :=
    ne_of_head (possibleLeak_head _) (noLeaks_head _) (by decide)
  unfold linesFor
  split_ifs <;> simp_all

/-- Counts are unexpected where more went than were made. -/
theorem unexpectedCounts_mem_linesFor (made gone numAllocations : Nat) :
    unexpectedCounts label ∈ linesFor label' made gone numAllocations counts ↔
      label = label' ∧ gone > made := by
  have hline : unexpectedCounts label = unexpectedCounts label' ↔ label = label' :=
    ⟨middle_inj, fun h => by rw [h]⟩
  have hcount : unexpectedCounts label ∉ counts := fun hmem =>
    ne_of_head (unexpectedCounts_head _) (hcounts _ hmem) (by decide) rfl
  have hleak : unexpectedCounts label ≠ possibleLeak label' :=
    ne_of_head (unexpectedCounts_head _) (possibleLeak_head _) (by decide)
  have hnone : unexpectedCounts label ≠ noLeaks label' :=
    ne_of_head (unexpectedCounts_head _) (noLeaks_head _) (by decide)
  unfold linesFor
  split_ifs with hlt
  · simp only [List.mem_cons, hleak, hcount, or_self, false_iff]
    rintro ⟨-, hgt⟩
    exact Nat.lt_asymm hlt hgt
  all_goals simp_all

end

/-- The counts of a type are indented. -/
theorem head_of_mem_reportHelper_counts (tracker : CTracker) : ∀ line ∈
    [countLine "Allocations: " tracker.numAllocations, countLine "Retains:     " tracker.numRetains,
      countLine "Releases:    " tracker.numReleases], line.toList.head? = some ' ' := by
  simp [countLine_head]

/-- The counts of the pointers begin with a blank as well. -/
theorem head_of_mem_reportPointers_counts (tracker : CPointerTracker) : ∀ line ∈
    [countLine "Allocations: " tracker.numAllocations,
      countLine "Frees:       " tracker.numFrees], line.toList.head? = some ' ' := by
  simp [countLine_head]

/-- One type's part of the report has its own leaks only. -/
theorem possibleLeak_mem_reportHelper (tracker : CTracker) :
    possibleLeak label ∈ reportHelper label' tracker ↔
      label = label' ∧ tracker.numReleases < tracker.numAllocations + tracker.numRetains :=
  possibleLeak_mem_linesFor (head_of_mem_reportHelper_counts tracker) _ _ _

/-- A report warns of unexpected counts if its own tracker has them. -/
theorem unexpectedCounts_mem_reportHelper (tracker : CTracker) :
    unexpectedCounts label ∈ reportHelper label' tracker ↔
      label = label' ∧ tracker.numReleases > tracker.numAllocations + tracker.numRetains :=
  unexpectedCounts_mem_linesFor (head_of_mem_reportHelper_counts tracker) _ _ _

/-- The part of the pointers has their leaks only. -/
theorem possibleLeak_mem_reportPointers (tracker : CPointerTracker) :
    possibleLeak label ∈ reportPointers label' tracker ↔
      label = label' ∧ tracker.numFrees < tracker.numAllocations :=
  possibleLeak_mem_linesFor (head_of_mem_reportPointers_counts tracker) _ _ _

/-- The report of the pointers warns of unexpected counts if its tracker has them. -/
theorem unexpectedCounts_mem_reportPointers (tracker : CPointerTracker) :
    unexpectedCounts label ∈ reportPointers label' tracker ↔
      label = label' ∧ tracker.numFrees > tracker.numAllocations :=
  unexpectedCounts_mem_linesFor (head_of_mem_reportPointers_counts tracker) _ _ _

end

section

variable {T : CObjectTracker}

/-- Pointers are reported under a label of their own. -/
theorem pointerLabel_ne (t : ObjectType) : pointerLabel ≠ t.label := by
  cases t <;> decide

/-- Where a line of the report comes from. -/
theorem mem_writeReport_iff {line : String} :
    line ∈ writeReport T ↔ line = "" ∨ (∃ t : ObjectType, line ∈ reportHelper t.label (T.trackers t)) ∨
      line ∈ reportPointers pointerLabel T.pointers := by
  simp only [writeReport, List.cons_append, List.mem_cons, List.mem_append, List.mem_flatMap,
    ObjectType.mem_all, true_and]

/-- A leak of a type of objects is reported exactly when there were fewer releases. -/
theorem possibleLeak_mem_iff (t : ObjectType) :
    possibleLeak t.label ∈ writeReport T ↔
      (T.trackers t).numReleases < (T.trackers t).numAllocations + (T.trackers t).numRetains := by
  rw [mem_writeReport_iff, or_iff_right (ne_empty_of_head (possibleLeak_head _))]
  refine ⟨fun h => ?_, fun h => .inl ⟨t, (possibleLeak_mem_reportHelper _).mpr ⟨rfl, h⟩⟩⟩
  rcases h with ⟨t', h⟩ | h
  · obtain ⟨heq, hlt⟩ := (possibleLeak_mem_reportHelper _).mp h
    rw [ObjectType.label_injective heq]
    exact hlt
  · exact absurd ((possibleLeak_mem_reportPointers _).mp h).1.symm (pointerLabel_ne t)

/-- **The report names pointers as leaked if fewer were freed than allocated.** -/
theorem possibleLeak_pointers_mem_iff :
    possibleLeak pointerLabel ∈ writeReport T ↔ T.pointers.numFrees < T.pointers.numAllocations := by
  rw [mem_writeReport_iff, or_iff_right (ne_empty_of_head (possibleLeak_head _))]
  refine ⟨fun h => ?_, fun h => .inr ((possibleLeak_mem_reportPointers _).mpr ⟨rfl, h⟩)⟩
  rcases h with ⟨t, h⟩ | h
  · exact absurd ((possibleLeak_mem_reportHelper _).mp h).1 (pointerLabel_ne t)
  · exact ((possibleLeak_mem_reportPointers _).mp h).2

/-- Unexpected counts are reported of nothing if there are no more releases and frees than there
should be. -/
theorem unexpectedCounts_notMem
    (h : ∀ t, (T.trackers t).numReleases ≤ (T.trackers t).numAllocations + (T.trackers t).numRetains)
    (hp : T.pointers.numFrees ≤ T.pointers.numAllocations) (label : String) :
    unexpectedCounts label ∉ writeReport T := by
  intro hmem
  rcases mem_writeReport_iff.mp hmem with hempty | ⟨t, hmem⟩ | hmem
  · exact ne_empty_of_head (unexpectedCounts_head label) hempty
  · exact Nat.not_lt.mpr (h t) ((unexpectedCounts_mem_reportHelper _).mp hmem).2
  · exact Nat.not_lt.mpr hp ((unexpectedCounts_mem_reportPointers _).mp hmem).2

end

end CLIntercept.Leak
