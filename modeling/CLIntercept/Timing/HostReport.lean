import CLIntercept.Config
import CLIntercept.Lib.OrdMap
import CLIntercept.Lib.Printf
import Mathlib.Algebra.BigOperators.Group.Finset.Piecewise
import Mathlib.Algebra.BigOperators.Group.Multiset.Basic
import Mathlib.Data.Finset.Lattice.Fold
import Mathlib.Data.Finset.Sort
import Mathlib.Data.Multiset.Filter
import Mathlib.Data.String.Basic
import Mathlib.Data.UInt
import Mathlib.Order.Lattice.Nat

/-!
# The report of the host times

With `HostPerformanceTiming` every API call adds its time to the statistics of its function, or of
its function and tag, and the report has one row for each of these. The calls come from any threads,
and the map that they are kept in is not ordered. What the report says depends on neither: it is a
function of the multiset of the calls, `hostReport_run`.

The sums and the number of the calls are those of a `uint64_t`. The share of the total time, which
is computed in floating point, is a parameter.
-/

set_option autoImplicit false

namespace CLIntercept.Timing

open CLIntercept.Lib

/-! ## The code -/

structure HostConfig extends Config where
  hostPerformanceTiming : Bool := false

structure SHostTimingStats where
  numberOfCalls : UInt64 := 0
  minNS : UInt64 := 0xffffffffffffffff
  maxNS : UInt64 := 0
  totalNS : UInt64 := 0
  deriving DecidableEq, Repr

/-- What `updateHostTimingStats` is given: the points in time are nanoseconds. -/
structure HostCall where
  functionName : String
  tag : String
  start : Int64
  finish : Int64
  deriving DecidableEq, Repr

def HostCall.key (c : HostCall) : String :=
  if c.tag ≠ "" then c.functionName ++ "( " ++ c.tag ++ " )" else c.functionName

def HostCall.nsDelta (c : HostCall) : UInt64 := (c.finish - c.start).toUInt64

def SHostTimingStats.record (stats : SHostTimingStats) (nsDelta : UInt64) : SHostTimingStats where
  numberOfCalls := stats.numberOfCalls + 1
  totalNS := stats.totalNS + nsDelta
  minNS := min stats.minNS nsDelta
  maxNS := max stats.maxNS nsDelta

/-- `m_HostTimingStatsMap`. It is not ordered: what goes through it is given the order. -/
abbrev HostTimingStatsMap := OrdMap String SHostTimingStats

def updateHostTimingStats (m : HostTimingStatsMap) (c : HostCall) : HostTimingStatsMap :=
  m.insert c.key (((m.get? c.key).getD {}).record c.nsDelta)

/-- What the first loop of the report finds. -/
structure Collected where
  keys : List String := []
  totalTotalNS : UInt64 := 0
  longestName : Nat := 32

def collect (s : Collected) (entry : String × SHostTimingStats) : Collected :=
  if entry.1 ≠ "" then
    { keys := s.keys ++ [entry.1]
      totalTotalNS := s.totalTotalNS + entry.2.totalNS
      longestName := max entry.1.utf8ByteSize s.longestName }
  else s

/-- `std::right << std::setw(width)`. -/
def setw (width : Nat) (text : String) : String :=
  String.ofList (List.replicate (width - text.utf8ByteSize) ' ') ++ text

def decimalText (n : UInt64) : String := number 10 1 n.toNat

section

variable (config : HostConfig) (percent : UInt64 → UInt64 → String)

/-- A row. The number of calls is not 0 before `2 ^ 64` of them. -/
def tableRow (totalTotalNS : UInt64) (longestName : Nat) (entry : String × SHostTimingStats) :
    String :=
  setw longestName entry.1 ++ ", " ++ setw 6 (decimalText entry.2.numberOfCalls) ++ ", " ++
    setw 13 (decimalText entry.2.totalNS) ++ ", " ++
    setw 7 (percent entry.2.totalNS totalTotalNS) ++ "%, " ++
    setw 13 (decimalText (entry.2.totalNS / entry.2.numberOfCalls)) ++ ", " ++
    setw 13 (decimalText entry.2.minNS) ++ ", " ++ setw 13 (decimalText entry.2.maxNS) ++ "\n"

/-- What is written behind the title. -/
def tableText (totalTotalNS : UInt64) (longestName : Nat)
    (rows : List (String × SHostTimingStats)) : String :=
  "\nTotal Time (ns): " ++ decimalText totalTotalNS ++ "\n" ++
    "\n" ++ setw longestName "Function Name" ++ ", " ++ setw 6 "Calls" ++ ", " ++
    setw 13 "Time (ns)" ++ ", " ++ setw 8 "Time (%)" ++ ", " ++ setw 13 "Average (ns)" ++ ", " ++
    setw 13 "Min (ns)" ++ ", " ++ setw 13 "Max (ns)" ++ "\n" ++
    String.join (rows.map (tableRow percent totalTotalNS longestName))

/-- The part of `writeReport` with the host times. `iteration` is the map in the order in which it
is gone through. Each key is in the map that `at` is asked for. -/
def hostReport (iteration : List (String × SHostTimingStats)) (m : HostTimingStatsMap) : String :=
  if !config.hostPerformanceTiming || iteration.isEmpty then ""
  else
    let c := iteration.foldl collect {}
    "\nHost Performance Timing Results:\n" ++ tableText percent c.totalTotalNS c.longestName
      ((c.keys.mergeSort fun a b => decide (a ≤ b)).map fun name => (name, (m.get? name).getD {}))

end

/-! ## What the report should say -/

/-- The statistics of some times, in no order. -/
def statsOfTimes (times : Multiset UInt64) : SHostTimingStats where
  numberOfCalls := UInt64.ofNat times.card
  totalNS := times.sum
  minNS := UInt64.ofNat ((times.map UInt64.toNat).fold min (2 ^ 64 - 1))
  maxNS := UInt64.ofNat ((times.map UInt64.toNat).fold max 0)

section

variable (calls : Multiset HostCall)

/-- The times of a key. -/
def timesOf (key : String) : Multiset UInt64 :=
  (calls.filter (·.key = key)).map HostCall.nsDelta

/-- The calls that have a row. -/
def reportedCalls : Multiset HostCall := calls.filter (·.key ≠ "")

/-- **What the report of some calls should be**: a row of each key, in order. -/
def expectedReport (config : HostConfig) (percent : UInt64 → UInt64 → String) : String :=
  if config.hostPerformanceTiming = false ∨ calls = 0 then ""
  else
    let keys := ((reportedCalls calls).map HostCall.key).toFinset
    "\nHost Performance Timing Results:\n" ++
      tableText percent ((reportedCalls calls).map HostCall.nsDelta).sum
        (keys.sup String.utf8ByteSize ⊔ 32)
        (keys.sort.map fun key => (key, statsOfTimes (timesOf calls key)))

end

/-! ## One key -/

theorem fold_min_lt (times : Multiset UInt64) :
    (times.map UInt64.toNat).fold min (2 ^ 64 - 1) < 2 ^ 64 := by
  induction times using Multiset.induction_on with
  | empty => decide
  | cons time times ih =>
    rw [Multiset.map_cons, Multiset.fold_cons_left]
    exact (Nat.min_le_right _ _).trans_lt ih

theorem fold_max_lt (times : Multiset UInt64) :
    (times.map UInt64.toNat).fold max 0 < 2 ^ 64 := by
  induction times using Multiset.induction_on with
  | empty => decide
  | cons time times ih =>
    rw [Multiset.map_cons, Multiset.fold_cons_left]
    exact Nat.max_lt.mpr ⟨time.toNat_lt, ih⟩

/-- One time more. -/
theorem record_statsOfTimes (time : UInt64) (times : Multiset UInt64) :
    (statsOfTimes times).record time = statsOfTimes (time ::ₘ times) := by
  have hmin : min (statsOfTimes times).minNS time = (statsOfTimes (time ::ₘ times)).minNS := by
    apply UInt64.toNat_inj.mp
    rw [UInt64.toNat_min, statsOfTimes, statsOfTimes]
    dsimp only
    rw [UInt64.toNat_ofNat', UInt64.toNat_ofNat', Nat.mod_eq_of_lt (fold_min_lt _),
      Nat.mod_eq_of_lt (fold_min_lt _), Multiset.map_cons, Multiset.fold_cons_left, Nat.min_comm]
  have hmax : max (statsOfTimes times).maxNS time = (statsOfTimes (time ::ₘ times)).maxNS := by
    apply UInt64.toNat_inj.mp
    rw [UInt64.toNat_max, statsOfTimes, statsOfTimes]
    dsimp only
    rw [UInt64.toNat_ofNat', UInt64.toNat_ofNat', Nat.mod_eq_of_lt (fold_max_lt _),
      Nat.mod_eq_of_lt (fold_max_lt _), Multiset.map_cons, Multiset.fold_cons_left, Nat.max_comm]
  have hcalls : (statsOfTimes times).numberOfCalls + 1 =
      (statsOfTimes (time ::ₘ times)).numberOfCalls := by
    rw [statsOfTimes, statsOfTimes, Multiset.card_cons, UInt64.ofNat_add]
    rfl
  have htotal : (statsOfTimes times).totalNS + time = (statsOfTimes (time ::ₘ times)).totalNS := by
    rw [statsOfTimes, statsOfTimes, Multiset.sum_cons, UInt64.add_comm]
  rw [SHostTimingStats.record, hmin, hmax, hcalls, htotal]

theorem timesOf_cons (c : HostCall) (calls : Multiset HostCall) (key : String) :
    timesOf (c ::ₘ calls) key =
      if c.key = key then c.nsDelta ::ₘ timesOf calls key else timesOf calls key := by
  unfold timesOf
  split
  · rw [Multiset.filter_cons_of_pos _ ‹_›, Multiset.map_cons]
  · rw [Multiset.filter_cons_of_neg _ ‹_›]

/-- **The statistics of a key are those of its times.** -/
theorem get?_run (calls : List HostCall) (key : String) :
    (calls.foldl updateHostTimingStats OrdMap.empty).get? key =
      if timesOf calls key = 0 then none else some (statsOfTimes (timesOf calls key)) := by
  induction calls using List.reverseRecOn with
  | nil => rfl
  | append_singleton calls c ih =>
    have hcalls : ((calls ++ [c] : List HostCall) : Multiset HostCall) = c ::ₘ calls := by
      rw [← Multiset.coe_add, Multiset.coe_singleton, add_comm, Multiset.singleton_add]
    rw [List.foldl_concat, updateHostTimingStats, OrdMap.get?_insert, hcalls, timesOf_cons]
    by_cases hkey : c.key = key
    · subst hkey
      rw [if_pos rfl, if_pos rfl, if_neg (Multiset.cons_ne_zero), ih, ← record_statsOfTimes]
      split
      next hnone => rw [hnone]; rfl
      next => rfl
    · rw [if_neg (Ne.symm hkey), if_neg hkey, ih]

/-! ## The loop over the map -/

/-- What has a row. -/
def named (iteration : List (String × SHostTimingStats)) : List (String × SHostTimingStats) :=
  iteration.filter (·.1 ≠ "")

theorem foldl_collect (iteration : List (String × SHostTimingStats)) (s : Collected) :
    iteration.foldl collect s =
      { keys := s.keys ++ (named iteration).map (·.1)
        totalTotalNS := s.totalTotalNS + ((named iteration).map (·.2.totalNS)).sum
        longestName :=
          ((named iteration).map (·.1)).toFinset.sup String.utf8ByteSize ⊔ s.longestName } := by
  induction iteration generalizing s with
  | nil => simp [named]
  | cons entry iteration ih =>
    rw [List.foldl_cons, ih, collect]
    unfold named
    by_cases hname : entry.1 = ""
    · simp [hname]
    · rw [if_pos hname, List.filter_cons_of_pos (by simpa using hname)]
      simp only [List.append_assoc, List.singleton_append, List.map_cons, List.sum_cons,
        UInt64.add_assoc, List.toFinset_cons, Finset.sup_insert, Collected.mk.injEq, true_and]
      rw [← sup_assoc, sup_comm (Finset.sup _ _)]

section

variable {calls : List HostCall} {iteration : List (String × SHostTimingStats)}

/-- The order of the map does not matter: its entries are the keys with their statistics. -/
theorem mem_iteration (h : iteration.Perm (calls.foldl updateHostTimingStats OrdMap.empty).entries)
    {entry : String × SHostTimingStats} : entry ∈ iteration ↔
      timesOf calls entry.1 ≠ 0 ∧ entry.2 = statsOfTimes (timesOf calls entry.1) := by
  rw [h.mem_iff, ← Prod.eta entry, ← OrdMap.get?_eq_some_iff, get?_run]
  split
  next hnone => simp [hnone]
  next hsome => simp [hsome, eq_comm]

theorem timesOf_ne_zero_iff {calls : Multiset HostCall} {key : String} :
    timesOf calls key ≠ 0 ↔ ∃ c ∈ calls, c.key = key := by
  rw [ne_eq, timesOf, Multiset.map_eq_zero, Multiset.filter_eq_nil]
  simp

/-- The keys with a row are those of the calls. -/
theorem keys_named (h : iteration.Perm (calls.foldl updateHostTimingStats OrdMap.empty).entries) :
    ((named iteration).map (·.1)).toFinset =
      ((reportedCalls calls).map HostCall.key).toFinset := by
  ext key
  simp only [named, List.mem_toFinset, List.mem_map, List.mem_filter, mem_iteration h,
    reportedCalls, Multiset.mem_toFinset, Multiset.mem_map, Multiset.mem_filter,
    timesOf_ne_zero_iff, decide_eq_true_eq]
  constructor
  · rintro ⟨entry, ⟨⟨⟨c, hc, hkey⟩, -⟩, hname⟩, rfl⟩
    exact ⟨c, ⟨hc, hkey ▸ hname⟩, hkey⟩
  · rintro ⟨c, ⟨hc, hname⟩, rfl⟩
    exact ⟨(c.key, statsOfTimes (timesOf calls c.key)), ⟨⟨⟨c, hc, rfl⟩, rfl⟩, hname⟩, rfl⟩

theorem nodup_named (h : iteration.Perm (calls.foldl updateHostTimingStats OrdMap.empty).entries) :
    ((named iteration).map (·.1)).Nodup := by
  have hsorted := (calls.foldl updateHostTimingStats OrdMap.empty).sorted
  have hentries : ((calls.foldl updateHostTimingStats OrdMap.empty).entries.map (·.1)).Nodup :=
    List.pairwise_map.mpr (hsorted.imp ne_of_lt)
  exact ((h.map (·.1)).nodup_iff.mpr hentries).sublist (List.filter_sublist.map Prod.fst)

/-- The times of all keys are those of all calls. -/
theorem sum_timesOf (calls : Multiset HostCall) {keys : Finset String}
    (h : ∀ c ∈ calls, c.key ∈ keys) :
    ∑ key ∈ keys, (timesOf calls key).sum = (calls.map HostCall.nsDelta).sum := by
  induction calls using Multiset.induction_on with
  | empty => simp [timesOf]
  | cons c calls ih =>
    have hrest := ih fun d hd => h d (Multiset.mem_cons_of_mem hd)
    have hone : ∀ key, (timesOf (c ::ₘ calls) key).sum =
        (if c.key = key then c.nsDelta else 0) + (timesOf calls key).sum := fun key => by
      rw [timesOf_cons]
      split
      · rw [Multiset.sum_cons]
      · rw [zero_add]
    simp only [hone, Finset.sum_add_distrib, Finset.sum_ite_eq, h c (Multiset.mem_cons_self c _),
      if_true, hrest, Multiset.map_cons, Multiset.sum_cons]

theorem timesOf_reported (calls : Multiset HostCall) {key : String} (h : key ≠ "") :
    timesOf (reportedCalls calls) key = timesOf calls key := by
  rw [timesOf, timesOf, reportedCalls, Multiset.filter_filter]
  refine congrArg _ (Multiset.filter_congr fun c _ => ⟨fun hc => hc.1, fun hc => ⟨hc, hc ▸ h⟩⟩)

/-- The total that the loop finds is that of all calls with a row. -/
theorem sum_named (h : iteration.Perm (calls.foldl updateHostTimingStats OrdMap.empty).entries) :
    ((named iteration).map (·.2.totalNS)).sum =
      ((reportedCalls calls).map HostCall.nsDelta).sum := by
  have hrows : (named iteration).map (·.2.totalNS) =
      ((named iteration).map (·.1)).map fun key => (timesOf (reportedCalls calls) key).sum := by
    rw [List.map_map]
    refine List.map_congr_left fun entry hentry => ?_
    obtain ⟨hmem, hname⟩ := List.mem_filter.mp hentry
    rw [((mem_iteration h).mp hmem).2, Function.comp_apply,
      timesOf_reported _ (by simpa using hname)]
    rfl
  rw [hrows, ← List.sum_toFinset _ (nodup_named h), keys_named h]
  exact sum_timesOf _ fun c hc => Multiset.mem_toFinset.mpr (Multiset.mem_map_of_mem _ hc)

/-- Sorted keys are sorted in one way. -/
theorem mergeSort_named
    (h : iteration.Perm (calls.foldl updateHostTimingStats OrdMap.empty).entries) :
    ((named iteration).map (·.1)).mergeSort (fun a b => decide (a ≤ b)) =
      ((reportedCalls calls).map HostCall.key).toFinset.sort := by
  refine List.Perm.eq_of_pairwise' (r := (· ≤ ·)) ?_ (Finset.pairwise_sort _ _) ?_
  · refine (List.pairwise_mergeSort (fun a b c hab hbc => ?_) (fun a b => ?_) _).imp
      fun hab => of_decide_eq_true hab
    · exact decide_eq_true ((of_decide_eq_true hab).trans (of_decide_eq_true hbc))
    · simpa using le_total a b
  · refine (List.mergeSort_perm _ _).trans ?_
    rw [← keys_named h]
    exact ((Finset.sort_perm_toList _ _).trans (List.toFinset_toList (nodup_named h))).symm

/-- **The report of a run is a function of the multiset of its calls**, in whatever order they came
and the map is gone through: a row of each key, in order, with the number of its times and their
sum, least and greatest. -/
theorem hostReport_run (config : HostConfig) (percent : UInt64 → UInt64 → String)
    (h : iteration.Perm (calls.foldl updateHostTimingStats OrdMap.empty).entries) :
    hostReport config percent iteration (calls.foldl updateHostTimingStats OrdMap.empty) =
      expectedReport calls config percent := by
  have hempty : iteration = [] ↔ (calls : Multiset HostCall) = 0 := by
    constructor
    · rintro rfl
      refine Multiset.eq_zero_of_forall_notMem fun c hc => ?_
      have hentry : (c.key, statsOfTimes (timesOf calls c.key)) ∈ [] :=
        (mem_iteration h).mpr ⟨timesOf_ne_zero_iff.mpr ⟨c, hc, rfl⟩, rfl⟩
      exact List.not_mem_nil hentry
    · intro hcalls
      refine List.eq_nil_iff_forall_not_mem.mpr fun entry hentry => ?_
      obtain ⟨c, hc, -⟩ := timesOf_ne_zero_iff.mp ((mem_iteration h).mp hentry).1
      exact Multiset.notMem_zero c (hcalls ▸ hc)
  have hrows : ∀ key ∈ ((reportedCalls calls).map HostCall.key).toFinset.sort,
      ((calls.foldl updateHostTimingStats OrdMap.empty).get? key).getD {} =
        statsOfTimes (timesOf calls key) := by
    intro key hkey
    obtain ⟨c, hc, hckey⟩ := Multiset.mem_map.mp (Multiset.mem_toFinset.mp
      ((Finset.mem_sort _).mp hkey))
    have htimes := timesOf_ne_zero_iff.mpr ⟨c, Multiset.mem_of_mem_filter hc, hckey⟩
    rw [get?_run, if_neg htimes]
    rfl
  unfold hostReport expectedReport
  simp only [Bool.or_eq_true, Bool.not_eq_true', List.isEmpty_iff, hempty]
  split
  · rfl
  · rw [foldl_collect]
    dsimp only
    rw [List.nil_append, mergeSort_named h, sum_named h, keys_named h, UInt64.zero_add,
      List.map_congr_left fun key hkey => congrArg (Prod.mk key) (hrows key hkey)]

end

/-- Two functions and a tag, from one thread and then from another. -/
def threeCalls : List HostCall :=
  [⟨"clFinish", "", 0, 5⟩, ⟨"clEnqueueNDRangeKernel", "k", 2, 4⟩, ⟨"clFinish", "", 4, 7⟩]

/-- The map backwards. -/
theorem hostReport_threeCalls :
    hostReport { hostPerformanceTiming := true } (fun _ _ => "")
      (threeCalls.foldl updateHostTimingStats OrdMap.empty).entries.reverse
      (threeCalls.foldl updateHostTimingStats OrdMap.empty) =
    expectedReport threeCalls { hostPerformanceTiming := true } fun _ _ => "" :=
  hostReport_run _ _ (List.reverse_perm _)

-- "clFinish" took 5 and 3
example : statsOfTimes {5, 3} = ⟨2, 3, 5, 8⟩ := by decide

end CLIntercept.Timing
