import CLIntercept.Lib.Run

/-!
# Reports of the metrics stream

With time based sampling the driver fills a stream with reports. `getMDAPICountersFromStream` reads
them into one buffer, calculates metrics from the buffer once it holds sixteen reports or more, and
goes on until a read leaves it with fewer. What is left is kept for the next call.

A run is the calls of the application, each taken apart into its reads and calculations. What is
asked is that no report is lost, repeated or made up: what was passed on and what is still saved is
what the driver delivered, in its order. A read that fails leaves the count at the number that was
asked for, and the code adds it all the same; `savedReports_iff` has the rest.
-/

set_option autoImplicit false

namespace CLIntercept.Mdapi

open CLIntercept.Lib

/-! ## The driver -/

/-- The answer of `ReadIoStream`: `CC_OK` or `CC_READ_PENDING` with the reports that it delivers, or
another code. -/
inductive ReadAnswer (ρ : Type)
  | read (pending : Bool) (reports : List ρ)
  | failed (code : Nat)

variable {ρ : Type}

def ReadAnswer.delivered : ReadAnswer ρ → List ρ
  | read _ reports => reports
  | failed _ => []

/-- What it leaves in the count, which was the number asked for. -/
def ReadAnswer.count (reportsToRead : UInt32) : ReadAnswer ρ → UInt32
  | read _ reports => UInt32.ofNat reports.length
  | failed _ => reportsToRead

def ReadAnswer.Failed (answer : ReadAnswer ρ) : Prop := ∃ code, answer = .failed code

structure CalculateAnswer where
  ok : Bool := true
  outReportCount : UInt32 := 0
  deriving DecidableEq, Repr

/-! ## The helper -/

/-- What does not change: whether the helper can read, and the size of a report. -/
structure MetricSet where
  initialized : Bool := true
  concurrentGroup : Bool := true
  metricSet : Bool := true
  ioStream : Bool := true
  rawReportSize : UInt32
  bounded : rawReportSize.toNat * 256 < UInt32.size

/-- The helper reads from the stream at all. -/
def MetricSet.canRead (m : MetricSet) : Bool :=
  m.initialized && m.concurrentGroup && m.metricSet && m.ioStream

/-- `m_SavedReportData` in bytes, the report that is in each place of it, and `m_NumSavedReports`. -/
structure MDHelper (ρ : Type) where
  capacity : Nat := 0
  savedReportData : Nat → Option ρ := fun _ => none
  numSavedReports : UInt32 := 0

def cMaxNumReports : UInt32 := 256
def cMinNumReports : UInt32 := 16

/-- Reports that are copied to a place. -/
def writeReports (data : Nat → Option ρ) (start : Nat) (reports : List ρ) (i : Nat) : Option ρ :=
  if start ≤ i ∧ i < start + reports.length then reports[i - start]? else data i

namespace MDHelper

variable (m : MetricSet) (h : MDHelper ρ)

/-- The buffer is made large enough. -/
def reserve : MDHelper ρ :=
  if h.capacity < (m.rawReportSize * cMaxNumReports).toNat then
    { h with capacity := (m.rawReportSize * cMaxNumReports).toNat, numSavedReports := 0 }
  else h

def reportsToRead : UInt32 := cMaxNumReports - (h.reserve m).numSavedReports

/-- The first byte that is read to. -/
def nextReportData : Nat := (m.rawReportSize * (h.reserve m).numSavedReports).toNat

def saveReportsFromStream (answer : ReadAnswer ρ) : Bool × MDHelper ρ :=
  if m.canRead then
    let reserved := h.reserve m
    let saved : MDHelper ρ :=
      { reserved with
        savedReportData := writeReports reserved.savedReportData reserved.numSavedReports.toNat
          answer.delivered
        numSavedReports := reserved.numSavedReports + answer.count (h.reportsToRead m) }
    (cMinNumReports ≤ saved.numSavedReports, saved)
  else (false, h)

/-- The reports in the buffer. -/
def saved : List (Option ρ) := (List.range h.numSavedReports.toNat).map h.savedReportData

def resetSavedReports : MDHelper ρ := { h with numSavedReports := 0 }

end MDHelper

/-- What is passed to `CalculateMetrics`, in reports and in bytes, and the number of results that are
printed. -/
structure Batch (ρ : Type) where
  reports : List (Option ρ)
  reportSize : UInt32
  numResults : UInt32

def getMetricsFromSavedReports (m : MetricSet) (h : MDHelper ρ) (answer : CalculateAnswer) :
    Batch ρ where
  reports := h.saved
  reportSize := m.rawReportSize * h.numSavedReports
  numResults := if answer.ok then answer.outReportCount else 0

/-! ## Runs -/

/-- Where `getMDAPICountersFromStream` is. -/
inductive Phase where
  | idle
  | reading
  | calculating
  deriving DecidableEq, Repr

structure Sampling (ρ : Type) where
  helper : MDHelper ρ := {}
  phase : Phase := .idle
  delivered : List ρ := []
  batches : List (Batch ρ) := []

inductive Action (ρ : Type)
  | getMDAPICountersFromStream
  | saveReportsFromStream (answer : ReadAnswer ρ)
  | getMetricsFromSavedReports (answer : CalculateAnswer)

section

variable (m : MetricSet)

/-- A call begins; a read is followed by a calculation or ends the call; a calculation is followed by
the next read. -/
def Sampling.step (s : Sampling ρ) : Action ρ → Sampling ρ
  | .getMDAPICountersFromStream => { s with phase := .reading }
  | .saveReportsFromStream answer =>
    let (report, helper) := s.helper.saveReportsFromStream m answer
    { s with
      helper := helper
      phase := if report then .calculating else .idle
      delivered := if m.canRead then s.delivered ++ answer.delivered else s.delivered }
  | .getMetricsFromSavedReports answer =>
    { s with
      helper := s.helper.resetSavedReports
      phase := .reading
      batches := s.batches ++ [getMetricsFromSavedReports m s.helper answer] }

/-- The order of the loop, and a driver that delivers no more than it is asked for. -/
def Sampling.legal (s : Sampling ρ) : Action ρ → Prop
  | .getMDAPICountersFromStream => s.phase = .idle
  | .saveReportsFromStream answer =>
    s.phase = .reading ∧ answer.delivered.length ≤ (s.helper.reportsToRead m).toNat
  | .getMetricsFromSavedReports _ => s.phase = .calculating

def samplingSystem : System (Sampling ρ) (Action ρ) where
  step := Sampling.step m
  legal := Sampling.legal m

end

/-! ## What is asked of a run -/

section

variable (m : MetricSet)

/-- **No report is lost, repeated or made up**: what was passed on and what is saved is what was
delivered, and each batch is passed on with its size. -/
structure Kept (s : Sampling ρ) : Prop where
  bounded : s.helper.numSavedReports ≤ cMaxNumReports
  conserved : s.batches.flatMap (·.reports) ++ s.helper.saved = s.delivered.map some
  whole : ∀ batch ∈ s.batches,
    batch.reportSize.toNat = m.rawReportSize.toNat * batch.reports.length

/-- No read goes past the buffer. -/
def Inside (s : Sampling ρ) : Action ρ → Prop
  | .saveReportsFromStream _ =>
    s.helper.nextReportData m + m.rawReportSize.toNat * (s.helper.reportsToRead m).toNat ≤
      (s.helper.reserve m).capacity
  | _ => True

/-- A step of the loop, with the answers of the driver. -/
def Sampling.iteration (s : Sampling ρ) (answers : ReadAnswer ρ × CalculateAnswer) : Sampling ρ :=
  let read := s.step m (.saveReportsFromStream answers.1)
  if read.phase = .calculating then read.step m (.getMetricsFromSavedReports answers.2) else read

/-- The loop, up to a number of steps. -/
def Sampling.loop (s : Sampling ρ) (answers : Nat → ReadAnswer ρ × CalculateAnswer) :
    Nat → Sampling ρ
  | 0 => s
  | n + 1 =>
    let s' := Sampling.loop s answers n
    if s'.phase = .reading then s'.iteration m (answers n) else s'

/-- The loop ends. -/
def Ends (s : Sampling ρ) (answers : Nat → ReadAnswer ρ × CalculateAnswer) : Prop :=
  ∃ n, (s.loop m answers n).phase = .idle

/-- **A run serves the stream**: it keeps the reports, and where it ends within a call and the driver
delivers no further reports, the call returns. -/
structure Serves (run : List (Action ρ)) (further : Nat → ReadAnswer ρ × CalculateAnswer) :
    Prop where
  kept : (samplingSystem m).Always (Kept m) {} run
  inside : (samplingSystem m).Each (Inside m) {} run
  ends : ((samplingSystem m).exec {} run).phase = .reading →
    (∀ i, (further i).1.delivered = []) → Ends m ((samplingSystem m).exec {} run) further

/-- A read that does not fail, if there is one. -/
def Sound : Action ρ → Prop
  | .saveReportsFromStream answer => m.canRead = true → ¬ answer.Failed
  | _ => True

end

/-! ## The buffer -/

variable {m : MetricSet} {h : MDHelper ρ}

/-- Up to 256 reports fit into 32 bits of bytes. -/
theorem toNat_rawReportSize_mul {n : UInt32} (hn : n.toNat ≤ 256) :
    (m.rawReportSize * n).toNat = m.rawReportSize.toNat * n.toNat := by
  rw [UInt32.toNat_mul, Nat.mod_eq_of_lt]
  exact Nat.lt_of_le_of_lt (Nat.mul_le_mul_left _ hn) m.bounded

/-- What is asked of the helper between two steps: saved reports are in a buffer that is large
enough. -/
def MDHelper.Reserved (m : MetricSet) (h : MDHelper ρ) : Prop :=
  h.numSavedReports ≠ 0 → (m.rawReportSize * cMaxNumReports).toNat ≤ h.capacity

/-- Making room leaves the count of the reports. -/
theorem numSavedReports_reserve (hreserved : h.Reserved m) :
    (h.reserve m).numSavedReports = h.numSavedReports := by
  unfold MDHelper.reserve
  split
  · next hsmall =>
    by_cases hzero : h.numSavedReports = 0
    · exact hzero.symm
    · exact absurd (hreserved hzero) (Nat.not_le.mpr hsmall)
  · rfl

/-- Making room leaves the reports themselves. -/
theorem savedReportData_reserve : (h.reserve m).savedReportData = h.savedReportData := by
  unfold MDHelper.reserve
  split <;> rfl

/-- After `reserve` there is room for 256 reports. -/
theorem le_capacity_reserve :
    (m.rawReportSize * cMaxNumReports).toNat ≤ (h.reserve m).capacity := by
  unfold MDHelper.reserve
  split
  · exact Nat.le_refl _
  · next hlarge => exact Nat.le_of_not_lt hlarge

/-- The room that is left. -/
theorem toNat_reportsToRead (hreserved : h.Reserved m) (hbounded : h.numSavedReports.toNat ≤ 256) :
    (h.reportsToRead m).toNat = 256 - h.numSavedReports.toNat := by
  rw [MDHelper.reportsToRead, numSavedReports_reserve hreserved]
  exact UInt32.toNat_sub_of_le _ _ (UInt32.le_iff_toNat_le.mpr hbounded)

/-- The read stays in the buffer. -/
theorem inside_of_reserved (hreserved : h.Reserved m) (hbounded : h.numSavedReports.toNat ≤ 256) :
    h.nextReportData m + m.rawReportSize.toNat * (h.reportsToRead m).toNat ≤
      (h.reserve m).capacity := by
  have hcapacity : m.rawReportSize.toNat * 256 ≤ (h.reserve m).capacity :=
    toNat_rawReportSize_mul (m := m) (n := cMaxNumReports) (Nat.le_refl 256) ▸ le_capacity_reserve
  rw [MDHelper.nextReportData, numSavedReports_reserve hreserved, toNat_rawReportSize_mul hbounded,
    toNat_reportsToRead hreserved hbounded, ← Nat.mul_add, Nat.add_sub_cancel' hbounded]
  exact hcapacity

/-- Reports that are copied behind others. -/
theorem map_writeReports (data : Nat → Option ρ) (start : Nat) (reports : List ρ) :
    (List.range (start + reports.length)).map (writeReports data start reports) =
      (List.range start).map data ++ reports.map some := by
  rw [List.range_add, List.map_append, List.map_map]
  congr 1
  · refine List.map_congr_left fun i hi => if_neg fun hin => ?_
    exact absurd (List.mem_range.mp hi) (Nat.not_lt.mpr hin.1)
  · refine List.ext_getElem (by simp) fun i hi _ => ?_
    have hi' : i < reports.length := by simpa using hi
    simp [writeReports, hi']

/-! ## What a read does -/

/-- A read puts the reports behind those that are saved. -/
theorem saveReportsFromStream_eq (hcan : m.canRead = true) (hreserved : h.Reserved m)
    (answer : ReadAnswer ρ) : h.saveReportsFromStream m answer =
      let saved : MDHelper ρ :=
        { capacity := (h.reserve m).capacity
          savedReportData := writeReports h.savedReportData h.numSavedReports.toNat answer.delivered
          numSavedReports := h.numSavedReports + answer.count (h.reportsToRead m) }
      (decide (cMinNumReports ≤ saved.numSavedReports), saved) := by
  unfold MDHelper.saveReportsFromStream
  rw [if_pos hcan]
  simp only [numSavedReports_reserve hreserved, savedReportData_reserve]

/-- The count after a read: as many more as were delivered, and all places where it failed. -/
def ReadAnswer.filled (numSavedReports : Nat) : ReadAnswer ρ → Nat
  | read _ reports => numSavedReports + reports.length
  | failed _ => 256

/-- The count is that of the reports that are there. -/
theorem toNat_count (hreserved : h.Reserved m) (hbounded : h.numSavedReports.toNat ≤ 256)
    (answer : ReadAnswer ρ) (hasked : answer.delivered.length ≤ (h.reportsToRead m).toNat) :
    (h.numSavedReports + answer.count (h.reportsToRead m)).toNat =
      answer.filled h.numSavedReports.toNat := by
  have hread := toNat_reportsToRead hreserved hbounded
  rw [hread] at hasked
  rw [UInt32.toNat_add]
  cases answer with
  | read pending reports =>
    have hlength : reports.length ≤ 256 - h.numSavedReports.toNat := hasked
    show (_ + (UInt32.ofNat reports.length).toNat) % 2 ^ 32 = _ + reports.length
    rw [UInt32.toNat_ofNat']
    omega
  | failed code =>
    show (_ + (h.reportsToRead m).toNat) % 2 ^ 32 = 256
    rw [hread]
    omega

/-- What a read that does not fail leaves in the buffer. -/
theorem saved_read (hcan : m.canRead = true) (hreserved : h.Reserved m)
    (hbounded : h.numSavedReports.toNat ≤ 256) (pending : Bool) {reports : List ρ}
    (hasked : reports.length ≤ (h.reportsToRead m).toNat) :
    (h.saveReportsFromStream m (.read pending reports)).2.saved = h.saved ++ reports.map some := by
  have hcount := toNat_count hreserved hbounded (.read pending reports) hasked
  rw [saveReportsFromStream_eq hcan hreserved]
  show (List.range (h.numSavedReports + ReadAnswer.count _ _).toNat).map _ = _
  rw [hcount]
  exact map_writeReports h.savedReportData h.numSavedReports.toNat reports

/-! ## Invariants -/

/-- What every run keeps, whatever the driver answers. -/
structure Invariant (m : MetricSet) (s : Sampling ρ) : Prop where
  bounded : s.helper.numSavedReports.toNat ≤ 256
  few : s.phase ≠ .calculating → s.helper.numSavedReports.toNat < 16
  reserved : s.helper.Reserved m
  whole : ∀ batch ∈ s.batches,
    batch.reportSize.toNat = m.rawReportSize.toNat * batch.reports.length

theorem invariant_init : Invariant m ({} : Sampling ρ) where
  bounded := Nat.zero_le _
  few _ := Nat.zero_lt_succ _
  reserved hne := absurd rfl hne
  whole := List.forall_mem_nil _

/-- As many are saved as are counted. -/
theorem length_saved (h : MDHelper ρ) : h.saved.length = h.numSavedReports.toNat := by
  simp [MDHelper.saved]

variable {s : Sampling ρ}

/-- **Every legal action keeps the invariant.** -/
theorem Invariant.step (hinv : Invariant m s) {a : Action ρ} (hlegal : (samplingSystem m).legal s a) :
    Invariant m ((samplingSystem m).step s a) := by
  cases a with
  | getMDAPICountersFromStream =>
    have hidle : s.phase = .idle := hlegal
    have hne : s.phase ≠ .calculating := by rw [hidle]; exact Phase.noConfusion
    exact ⟨hinv.bounded, fun _ => hinv.few hne, hinv.reserved, hinv.whole⟩
  | saveReportsFromStream answer =>
    obtain ⟨hreading, hasked⟩ := hlegal
    cases hcan : m.canRead with
    | false =>
      have hsame : s.helper.saveReportsFromStream m answer = (false, s.helper) := by
        rw [MDHelper.saveReportsFromStream, hcan]
        rfl
      have hne : s.phase ≠ .calculating := by rw [hreading]; exact Phase.noConfusion
      simp only [samplingSystem, Sampling.step, hsame]
      exact ⟨hinv.bounded, fun _ => hinv.few hne, hinv.reserved, hinv.whole⟩
    | true =>
      have hcount := toNat_count hinv.reserved hinv.bounded answer hasked
      have hread := toNat_reportsToRead hinv.reserved hinv.bounded
      simp only [samplingSystem, Sampling.step, saveReportsFromStream_eq hcan hinv.reserved]
      refine ⟨?_, fun hphase => ?_, fun _ => le_capacity_reserve, hinv.whole⟩
      · rw [hcount]
        cases answer with
        | read pending reports =>
          have hlength : reports.length ≤ (s.helper.reportsToRead m).toNat := hasked
          have hnum := hinv.bounded
          show s.helper.numSavedReports.toNat + reports.length ≤ 256
          omega
        | failed code => exact Nat.le_refl _
      · refine Nat.lt_of_not_le fun hmany => hphase (if_pos (decide_eq_true ?_))
        exact UInt32.le_iff_toNat_le.mpr hmany
  | getMetricsFromSavedReports answer =>
    refine ⟨Nat.zero_le _, fun _ => Nat.zero_lt_succ _, fun hne => absurd rfl hne, ?_⟩
    intro batch hbatch
    rcases List.mem_append.mp hbatch with hmem | hmem
    · exact hinv.whole batch hmem
    · rw [List.mem_singleton.mp hmem]
      exact (toNat_rawReportSize_mul hinv.bounded).trans
        (congrArg _ (length_saved s.helper).symm)

/-! ## When the reports are kept -/

/-- What was delivered is in the batches or saved. -/
theorem Kept.of_conserved (hinv : Invariant m s)
    (h : s.batches.flatMap (·.reports) ++ s.helper.saved = s.delivered.map some) : Kept m s where
  bounded := UInt32.le_iff_toNat_le.mpr hinv.bounded
  conserved := h
  whole := hinv.whole

/-- A read keeps the reports unless it fails: then the buffer counts places that hold none. -/
theorem kept_save_iff (hcan : m.canRead = true) (hinv : Invariant m s) (hkept : Kept m s)
    {answer : ReadAnswer ρ}
    (hlegal : (samplingSystem m).legal s (.saveReportsFromStream answer)) :
    Kept m ((samplingSystem m).step s (.saveReportsFromStream answer)) ↔ ¬ answer.Failed := by
  have hnext := hinv.step hlegal
  obtain ⟨hreading, hasked⟩ := hlegal
  have hfew := hinv.few (by rw [hreading]; exact Phase.noConfusion)
  cases answer with
  | read pending reports =>
    have hsaved := saved_read hcan hinv.reserved hinv.bounded pending
      (show reports.length ≤ _ from hasked)
    refine iff_of_true (Kept.of_conserved hnext ?_) fun ⟨code, hcode⟩ => nomatch hcode
    simp only [samplingSystem, Sampling.step, hcan, if_true, List.map_append]
    rw [hsaved, ← List.append_assoc, hkept.conserved]
    rfl
  | failed code =>
    refine iff_of_false (fun h => ?_) fun h => h ⟨code, rfl⟩
    have hbefore := congrArg List.length hkept.conserved
    have hafter := congrArg List.length h.conserved
    have hcount := toNat_count hinv.reserved hinv.bounded (.failed code) hasked
    rw [List.length_append, length_saved] at hbefore hafter
    simp only [samplingSystem, Sampling.step, hcan, if_true,
      saveReportsFromStream_eq hcan hinv.reserved, hcount, ReadAnswer.delivered, List.append_nil,
      ReadAnswer.filled] at hafter
    omega

/-- **A step keeps the reports, within the memory for them, exactly if it is sound.** -/
theorem kept_step_iff (hinv : Invariant m s) (hkept : Kept m s) {a : Action ρ}
    (hlegal : (samplingSystem m).legal s a) :
    Kept m ((samplingSystem m).step s a) ∧ Inside m s a ↔ Sound m a := by
  have hnext := hinv.step hlegal
  cases a with
  | getMDAPICountersFromStream =>
    exact iff_of_true ⟨Kept.of_conserved hnext hkept.conserved, trivial⟩ trivial
  | saveReportsFromStream answer =>
    have hinside : Inside m s (.saveReportsFromStream answer) :=
      inside_of_reserved hinv.reserved hinv.bounded
    rw [and_iff_left hinside]
    cases hcan : m.canRead with
    | true =>
      rw [kept_save_iff hcan hinv hkept hlegal]
      exact ⟨fun h _ => h, fun h => h hcan⟩
    | false =>
      refine iff_of_true (Kept.of_conserved hnext ?_) fun htrue => ?_
      · simp only [samplingSystem, Sampling.step, MDHelper.saveReportsFromStream, hcan]
        exact hkept.conserved
      · rw [hcan] at htrue
        cases htrue
  | getMetricsFromSavedReports answer =>
    refine iff_of_true ⟨Kept.of_conserved hnext ?_, trivial⟩ trivial
    show (s.batches ++ [_]).flatMap _ ++ [] = _
    rw [List.append_nil, List.flatMap_append, List.flatMap_singleton]
    exact hkept.conserved

/-! ## When the loop ends -/

variable {answers : Nat → ReadAnswer ρ × CalculateAnswer}

/-- A stream may have nothing to deliver. -/
theorem legal_nothing (hreading : s.phase = .reading) (answer : ReadAnswer ρ)
    (hnothing : answer.delivered = []) :
    (samplingSystem m).legal s (.saveReportsFromStream answer) :=
  ⟨hreading, by rw [hnothing]; exact Nat.zero_le _⟩

/-- An iteration that is delivered nothing keeps the invariant. -/
theorem Invariant.iteration (hinv : Invariant m s) (hreading : s.phase = .reading)
    {answer : ReadAnswer ρ × CalculateAnswer} (hnothing : answer.1.delivered = []) :
    Invariant m (s.iteration m answer) := by
  have hread := hinv.step (legal_nothing hreading _ hnothing)
  unfold Sampling.iteration
  dsimp only
  split
  · next hphase => exact hread.step (a := .getMetricsFromSavedReports answer.2) hphase
  · exact hread

/-- A read that fails fills the buffer, and the loop goes on. -/
theorem phase_iteration_failed (hcan : m.canRead = true) (hinv : Invariant m s)
    (hreading : s.phase = .reading) {answer : ReadAnswer ρ × CalculateAnswer}
    (hfailed : answer.1.Failed) : (s.iteration m answer).phase = .reading := by
  obtain ⟨code, hcode⟩ := hfailed
  have hlegal := legal_nothing (m := m) hreading (.failed code) rfl
  have hcount := toNat_count hinv.reserved hinv.bounded (.failed code) hlegal.2
  have hphase : (s.step m (.saveReportsFromStream answer.1)).phase = .calculating := by
    rw [hcode, Sampling.step, saveReportsFromStream_eq hcan hinv.reserved]
    refine if_pos (decide_eq_true (UInt32.le_iff_toNat_le.mpr ?_))
    rw [hcount]
    exact Nat.le_of_ble_eq_true rfl
  unfold Sampling.iteration
  dsimp only
  rw [if_pos hphase]
  rfl

/-- A read of nothing that does not fail ends the loop. -/
theorem phase_iteration_read (hinv : Invariant m s) (hreading : s.phase = .reading)
    {answer : ReadAnswer ρ × CalculateAnswer} (hnothing : answer.1.delivered = [])
    (hsound : m.canRead = true → ¬ answer.1.Failed) : (s.iteration m answer).phase = .idle := by
  have hfew := hinv.few (by rw [hreading]; exact Phase.noConfusion)
  have hphase : (s.step m (.saveReportsFromStream answer.1)).phase = .idle := by
    cases hcan : m.canRead with
    | false =>
      rw [Sampling.step, MDHelper.saveReportsFromStream, hcan]
      rfl
    | true =>
      have hlegal := legal_nothing (m := m) hreading _ hnothing
      have hcount := toNat_count hinv.reserved hinv.bounded answer.1 hlegal.2
      have hfilled : answer.1.filled s.helper.numSavedReports.toNat =
          s.helper.numSavedReports.toNat := by
        cases hanswer : answer.1 with
        | read pending reports =>
          rw [hanswer] at hnothing
          have hempty : reports = [] := hnothing
          rw [hempty]
          rfl
        | failed code => exact absurd ⟨code, hanswer⟩ (hsound hcan)
      rw [Sampling.step, saveReportsFromStream_eq hcan hinv.reserved]
      refine if_neg fun h => ?_
      have hmany := UInt32.le_iff_toNat_le.mp (of_decide_eq_true h)
      rw [hcount, hfilled] at hmany
      exact absurd hfew (Nat.not_lt.mpr hmany)
  unfold Sampling.iteration
  dsimp only
  rw [if_neg (by rw [hphase]; exact Phase.noConfusion)]
  exact hphase

/-- The loop goes on as long as the reads fail. -/
theorem loop_cases (hinv : Invariant m s) (hreading : s.phase = .reading)
    (hnothing : ∀ i, (answers i).1.delivered = []) (n : Nat) :
    Invariant m (s.loop m answers n) ∧
      (((s.loop m answers n).phase = .reading ∧
          ∀ i < n, m.canRead = true ∧ (answers i).1.Failed) ∨
        (s.loop m answers n).phase = .idle) := by
  induction n with
  | zero => exact ⟨hinv, .inl ⟨hreading, fun i hi => absurd hi (Nat.not_lt_zero i)⟩⟩
  | succ n ih =>
    obtain ⟨hinv', hphase | hphase⟩ := ih
    · have hnext : s.loop m answers (n + 1) = (s.loop m answers n).iteration m (answers n) :=
        if_pos hphase.1
      rw [hnext]
      refine ⟨hinv'.iteration hphase.1 (hnothing n), ?_⟩
      by_cases hfailed : m.canRead = true ∧ (answers n).1.Failed
      · refine .inl ⟨phase_iteration_failed hfailed.1 hinv' hphase.1 hfailed.2, fun i hi => ?_⟩
        rcases Nat.lt_succ_iff_lt_or_eq.mp hi with hlt | rfl
        · exact hphase.2 i hlt
        · exact hfailed
      · exact .inr (phase_iteration_read hinv' hphase.1 (hnothing n)
          fun hcan h => hfailed ⟨hcan, h⟩)
    · have hnext : s.loop m answers (n + 1) = s.loop m answers n :=
        if_neg (by rw [hphase]; exact Phase.noConfusion)
      rw [hnext]
      exact ⟨hinv', .inr hphase⟩

/-- **Where nothing more is delivered the loop ends with a read that does not fail.** -/
theorem ends_iff (hinv : Invariant m s) (hreading : s.phase = .reading)
    (hnothing : ∀ i, (answers i).1.delivered = []) :
    Ends m s answers ↔ (m.canRead = true → ∃ i, ¬ (answers i).1.Failed) := by
  constructor
  · rintro ⟨n, hidle⟩ hcan
    refine Classical.byContradiction fun hnone => ?_
    have hfailed (i : Nat) : (answers i).1.Failed :=
      Classical.byContradiction fun h => hnone ⟨i, h⟩
    have hphase : (s.loop m answers n).phase = .reading := by
      clear hidle
      induction n with
      | zero => exact hreading
      | succ n ih =>
        have hnext : s.loop m answers (n + 1) = (s.loop m answers n).iteration m (answers n) :=
          if_pos ih
        rw [hnext]
        exact phase_iteration_failed hcan (loop_cases hinv hreading hnothing n).1 ih (hfailed n)
    exact Phase.noConfusion (hphase.symm.trans hidle)
  · intro h
    have hsound : ∃ i, ¬ (m.canRead = true ∧ (answers i).1.Failed) := by
      cases hcan : m.canRead with
      | false => exact ⟨0, fun h => Bool.false_ne_true h.1⟩
      | true =>
        obtain ⟨i, hi⟩ := h hcan
        exact ⟨i, fun h => hi h.2⟩
    obtain ⟨i, hi⟩ := hsound
    obtain ⟨-, ⟨-, hfailed⟩ | hidle⟩ := loop_cases (m := m) hinv hreading hnothing (i + 1)
    · exact absurd (hfailed i (Nat.lt_succ_self i)) hi
    · exact ⟨i + 1, hidle⟩

/-! ## When a run serves the stream -/

/-- **When a run serves the stream**: none of its reads fails, and where it ends within a call some
further read does not. -/
theorem savedReports_iff (m : MetricSet) {run : List (Action ρ)}
    (hlegal : (samplingSystem m).Legal {} run) (further : Nat → ReadAnswer ρ × CalculateAnswer) :
    Serves m run further ↔
      (samplingSystem m).Each (fun _ => Sound m) {} run ∧
        (((samplingSystem m).exec {} run).phase = .reading →
          (∀ i, (further i).1.delivered = []) → m.canRead = true →
            ∃ i, ¬ (further i).1.Failed) := by
  have hinit : Kept m ({} : Sampling ρ) :=
    Kept.of_conserved invariant_init rfl
  have hinv := System.exec_of_step (I := Invariant m)
    (fun s a hi hl => hi.step hl) invariant_init hlegal
  have hstep (s : Sampling ρ) (a : Action ρ) (hi : Invariant m s) (hp : Kept m s)
      (hl : (samplingSystem m).legal s a) :
      Kept m ((samplingSystem m).step s a) ∧ Inside m s a ↔ Sound m a := kept_step_iff hi hp hl
  have hkept : (samplingSystem m).Always (Kept m) {} run ∧ (samplingSystem m).Each (Inside m) {} run ↔
      (samplingSystem m).Each (fun _ => Sound m) {} run :=
    System.always_and_each_iff_each (fun s a hi hl => hi.step hl) hstep invariant_init hinit hlegal
  constructor
  · intro h
    exact ⟨hkept.mp ⟨h.kept, h.inside⟩, fun hreading hnothing =>
      (ends_iff hinv hreading hnothing).mp (h.ends hreading hnothing)⟩
  · rintro ⟨hsound, hends⟩
    obtain ⟨halways, hinside⟩ := hkept.mpr hsound
    exact ⟨halways, hinside, fun hreading hnothing =>
      (ends_iff hinv hreading hnothing).mpr (hends hreading hnothing)⟩

/-- Reports of 64 bytes. -/
def smallReports : MetricSet where
  rawReportSize := 64
  bounded := (Nat.ble_eq (x := 64 * 256 + 1) (y := UInt32.size)).mp rfl

/-- Twenty reports, a batch, and a read of three that ends the call. -/
def twoReads : List (Action Nat) :=
  [.getMDAPICountersFromStream, .saveReportsFromStream (.read false (List.range 20)),
    .getMetricsFromSavedReports { outReportCount := 20 },
    .saveReportsFromStream (.read true [20, 21, 22])]

def neverAgain (_ : Nat) : ReadAnswer Nat × CalculateAnswer := (.read true [], {})

theorem legal_twoReads : (samplingSystem smallReports).Legal {} twoReads :=
  ⟨rfl, ⟨rfl, by decide⟩, rfl, ⟨rfl, by decide⟩, trivial⟩

theorem serves_twoReads : Serves smallReports twoReads neverAgain :=
  (savedReports_iff smallReports legal_twoReads neverAgain).mpr
    ⟨⟨trivial, fun _ => nofun, trivial, fun _ => nofun, trivial⟩, fun hreading => nomatch hreading⟩

/-- The first read fails: the whole buffer is counted. -/
def failedRead : List (Action Nat) :=
  [.getMDAPICountersFromStream, .saveReportsFromStream (.failed 40)]

theorem failed_read_is_counted :
    (samplingSystem smallReports).Legal {} failedRead ∧
      ¬ Serves smallReports failedRead neverAgain := by
  refine ⟨⟨rfl, ⟨rfl, Nat.zero_le _⟩, trivial⟩, fun h => ?_⟩
  have hlength := congrArg List.length h.kept.last.conserved
  have hsaved : ((samplingSystem smallReports).exec {} failedRead).helper.saved.length = 256 := by
    rw [length_saved]
    rfl
  rw [List.length_append, hsaved] at hlength
  exact absurd hlength (Nat.ne_of_gt (Nat.lt_of_lt_of_le (by decide) (Nat.le_add_left 256 _)))

end CLIntercept.Mdapi
