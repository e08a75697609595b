import CLIntercept.Capture.Aub
import CLIntercept.Capture.Law
import CLIntercept.Replay.Capture

/-!
# Capturing each kernel once

Both ways to capture kernels may be told to skip some enqueues, to capture so many, and to capture
no kernel twice. Capture and replay counts the enqueue first and looks at its key then, so that an
enqueue that is not captured because its kernel was counts all the same. Aub capture puts the key
into its set first and counts then, so that a key may be in the set whose kernel is not captured.

`Lawful` is what is expected of both. `uniqueCaptures_iff` says for which enqueues they are as
expected, with counters of 32 bits.
-/

set_option autoImplicit false

namespace CLIntercept.Capture

open CLIntercept.Lib CLIntercept.Track

/-! ## Capture and replay -/

/-- The members that the checks of capture and replay read and write. -/
structure CaptureReplayState where
  enqueueCounter : UInt64 := 0
  captureReplayKernelEnqueueSkipCounter : UInt32 := 0
  captureReplayKernelEnqueueCaptureCounter : UInt32 := 0
  captureReplaySet : List String := []

/-- The key of `CaptureReplayUniqueKernels`. -/
def kernelKey (config : Config) (kernelInfo : SKernelInfo) : String :=
  kernelInfo.kernelName
    ++ (if config.omitProgramNumber then "("
      else "(" ++ number 10 4 kernelInfo.programNumber.toNat ++ "_")
    ++ number 16 8 kernelInfo.programHash.toUInt32.toNat ++ "_"
    ++ number 10 4 kernelInfo.compileCount.toNat ++ "_"
    ++ number 16 8 kernelInfo.optionsHash.toUInt32.toNat ++ ")"

def checkCaptureReplayForKernel (config : Config) (kernelInfo : SKernelInfo) : Bool :=
  config.captureReplayKernelName == "" || kernelInfo.kernelName == config.captureReplayKernelName

def checkCaptureReplayKernelSkips (config : Config) (kernelInfo : SKernelInfo)
    (s : CaptureReplayState) : Bool × CaptureReplayState :=
  let (skip, s) :=
    if s.captureReplayKernelEnqueueSkipCounter < config.captureReplayNumKernelEnqueuesSkip then
      (true,
        { s with
          captureReplayKernelEnqueueSkipCounter := s.captureReplayKernelEnqueueSkipCounter + 1 })
    else
      (decide (s.captureReplayKernelEnqueueCaptureCounter ≥
          config.captureReplayNumKernelEnqueuesCapture),
        { s with
          captureReplayKernelEnqueueCaptureCounter :=
            s.captureReplayKernelEnqueueCaptureCounter + 1 })
  if !skip && config.captureReplayUniqueKernels then
    let key := kernelKey config kernelInfo
    if key ∈ s.captureReplaySet then (false, s)
    else (true, { s with captureReplaySet := key :: s.captureReplaySet })
  else (!skip, s)

/-- The conditions of `CHECK_CAPTURE_REPLAY_START_KERNEL` before the last, where it is placed. -/
def replayConsiders (config : Config) (enqueueCounter : UInt64) (e : AubEnqueue) : Bool :=
  e.function == .clEnqueueNDRangeKernel && config.captureReplay &&
    Replay.checkCaptureReplayEnqueueLimits config enqueueCounter &&
    checkCaptureReplayForKernel config e.kernelInfo

/-- An enqueue call, as far as capture and replay goes, with the enqueues that were considered. -/
def replayCall (config : Config) (r : CaptureReplayState × List (AubEnqueue × Bool))
    (e : AubEnqueue) : CaptureReplayState × List (AubEnqueue × Bool) :=
  let (s, history) := r
  let enqueueCounter := s.enqueueCounter
  let s := { s with enqueueCounter := enqueueCounter + 1 }
  if replayConsiders config enqueueCounter e then
    let (captureReplay, s) := checkCaptureReplayKernelSkips config e.kernelInfo s
    (s, history ++ [(e, captureReplay)])
  else (s, history)

def replayRun (config : Config) (es : List AubEnqueue) :
    CaptureReplayState × List (AubEnqueue × Bool) :=
  es.foldl (replayCall config) ({}, [])

/-! ## Aub capture -/

/-- The conditions of `CHECK_AUBCAPTURE_START_KERNEL` without that of `AubCaptureUniqueKernels`,
where it is placed. -/
def aubConsiders (config : Config) (enqueueCounter : UInt64) (e : AubEnqueue) : Bool :=
  e.function.enqueuesKernel && config.aubCapture &&
    checkAubCaptureEnqueueLimits config enqueueCounter &&
    (config.aubCaptureKernelName == "" || e.kernelInfo.kernelName == config.aubCaptureKernelName) &&
    sizeMatches config.aubCaptureKernelGWS e.workDim e.gws &&
    sizeMatches config.aubCaptureKernelLWS e.workDim e.lws

/-- How often a capture was started. -/
def starts (log : List AubEvent) : Nat :=
  log.countP fun
    | .start _ => true
    | _ => false

/-- An enqueue call, with the enqueues that were considered: captured is what is started for. -/
def aubCall (config : Config) (r : AubState × List (AubEnqueue × Bool)) (e : AubEnqueue) :
    AubState × List (AubEnqueue × Bool) :=
  let s := enqueueCall config r.1 e
  if aubConsiders config r.1.enqueueCounter e then
    (s, r.2 ++ [(e, decide (starts r.1.log < starts s.log))])
  else (s, r.2)

def aubRun (config : Config) (es : List AubEnqueue) : AubState × List (AubEnqueue × Bool) :=
  es.foldl (aubCall config) ({}, [])

/-! ## Which enqueues are captured as expected -/

/-- The enqueues of a run that a control lets through, by the counter of each. -/
def considered (considers : UInt64 → AubEnqueue → Bool) (es : List AubEnqueue) : List AubEnqueue :=
  (es.zipIdx.filter fun p => considers (UInt64.ofNat p.2) p.1).map Prod.fst

/-- With one more enqueue there is one more to decide about, if it is considered. -/
theorem considered_concat (considers : UInt64 → AubEnqueue → Bool) (es : List AubEnqueue)
    (e : AubEnqueue) : considered considers (es ++ [e]) = considered considers es ++
      if considers (UInt64.ofNat es.length) e then [e] else [] := by
  rw [considered, List.zipIdx_append, List.filter_append, List.map_append]
  congr 1
  simp only [List.zipIdx_singleton, List.filter_cons, List.filter_nil, Nat.zero_add]
  split <;> rfl

/-! ## Runs of capture and replay -/

section

variable {config : Config}

/-- The state after this many considered enqueues. -/
structure ReplayCounters (config : Config) (n : Nat) (s : CaptureReplayState) : Prop where
  skip : s.captureReplayKernelEnqueueSkipCounter.toNat =
    min n config.captureReplayNumKernelEnqueuesSkip.toNat
  capture : s.captureReplayKernelEnqueueCaptureCounter =
    UInt32.ofNat (n - config.captureReplayNumKernelEnqueuesSkip.toNat)

/-- Whether the counters let the next enqueue through. -/
def ReplayOpen (config : Config) (n : Nat) : Prop :=
  config.captureReplayNumKernelEnqueuesSkip.toNat ≤ n ∧
    (n - config.captureReplayNumKernelEnqueuesSkip.toNat) % 2 ^ 32 <
      config.captureReplayNumKernelEnqueuesCapture.toNat

/-- What the check does with one more. -/
structure SkipsCheck (config : Config) (n : Nat) (key : String) (s : CaptureReplayState)
    (r : Bool × CaptureReplayState) : Prop where
  enqueueCounter : r.2.enqueueCounter = s.enqueueCounter
  counters : ReplayCounters config (n + 1) r.2
  captured : r.1 = true ↔ ReplayOpen config n ∧ key ∉ s.captureReplaySet
  set : r.2.captureReplaySet = if r.1 then key :: s.captureReplaySet else s.captureReplaySet

section

variable {n : Nat} {s : CaptureReplayState}

/-- The skip counter says whether the enqueues to be skipped are over. -/
theorem ReplayCounters.window_iff (h : ReplayCounters config n s) :
    s.captureReplayKernelEnqueueSkipCounter < config.captureReplayNumKernelEnqueuesSkip ↔
      n < config.captureReplayNumKernelEnqueuesSkip.toNat := by
  have hskip := h.skip
  rw [UInt32.lt_iff_toNat_lt]
  omega

/-- The skip counter counts an enqueue. -/
theorem ReplayCounters.skips (h : ReplayCounters config n s)
    (hn : n < config.captureReplayNumKernelEnqueuesSkip.toNat) :
    ReplayCounters config (n + 1) { s with
      captureReplayKernelEnqueueSkipCounter := s.captureReplayKernelEnqueueSkipCounter + 1 } := by
  have hskip := h.skip
  have hbound := config.captureReplayNumKernelEnqueuesSkip.toNat_lt
  have hnext : (s.captureReplayKernelEnqueueSkipCounter + 1).toNat = n + 1 := by
    rw [UInt32.toNat_add, hskip, UInt32.toNat_one, Nat.mod_eq_of_lt (by omega)]
    omega
  refine ⟨?_, ?_⟩
  · show (s.captureReplayKernelEnqueueSkipCounter + 1).toNat = _
    omega
  · show s.captureReplayKernelEnqueueCaptureCounter = _
    rw [h.capture]
    congr 1
    omega

/-- The capture counter counts an enqueue. -/
theorem ReplayCounters.counts (h : ReplayCounters config n s)
    (hn : config.captureReplayNumKernelEnqueuesSkip.toNat ≤ n) :
    ReplayCounters config (n + 1) { s with
      captureReplayKernelEnqueueCaptureCounter :=
        s.captureReplayKernelEnqueueCaptureCounter + 1 } := by
  have hskip := h.skip
  refine ⟨?_, ?_⟩
  · show s.captureReplayKernelEnqueueSkipCounter.toNat = _
    omega
  · show s.captureReplayKernelEnqueueCaptureCounter + 1 = _
    rw [h.capture, Nat.sub_add_comm hn, UInt32.ofNat_add]
    rfl

/-- The capture counter says whether there are more to be captured. -/
theorem ReplayCounters.open_iff (h : ReplayCounters config n s)
    (hn : config.captureReplayNumKernelEnqueuesSkip.toNat ≤ n) :
    ReplayOpen config n ↔ ¬ s.captureReplayKernelEnqueueCaptureCounter ≥
      config.captureReplayNumKernelEnqueuesCapture := by
  have hcount : s.captureReplayKernelEnqueueCaptureCounter.toNat =
      (n - config.captureReplayNumKernelEnqueuesSkip.toNat) % 2 ^ 32 := by
    rw [h.capture, UInt32.toNat_ofNat']
  rw [ReplayOpen, and_iff_right hn, ← hcount, ge_iff_le, UInt32.le_iff_toNat_le, Nat.not_le]

/-- **What the check decides, and how it counts.** -/
theorem checkCaptureReplayKernelSkips_spec (hunique : config.captureReplayUniqueKernels = true)
    (kernelInfo : SKernelInfo) (h : ReplayCounters config n s) :
    SkipsCheck config n (kernelKey config kernelInfo) s
      (checkCaptureReplayKernelSkips config kernelInfo s) := by
  by_cases hwindow : s.captureReplayKernelEnqueueSkipCounter <
      config.captureReplayNumKernelEnqueuesSkip
  · -- the skip counter counts this one
    have hn := h.window_iff.mp hwindow
    have heq : checkCaptureReplayKernelSkips config kernelInfo s = (false,
        { s with
          captureReplayKernelEnqueueSkipCounter :=
            s.captureReplayKernelEnqueueSkipCounter + 1 }) := by
      rw [checkCaptureReplayKernelSkips, if_pos hwindow]
      rfl
    rw [heq]
    exact ⟨rfl, h.skips hn, ⟨fun hfalse => absurd hfalse Bool.false_ne_true,
      fun hopen => absurd hopen.1.1 (Nat.not_le.mpr hn)⟩, rfl⟩
  · -- the capture counter counts this one, whatever its key is
    have hn := Nat.le_of_not_lt (h.window_iff.not.mp hwindow)
    have hnext := h.counts hn
    have hopen := h.open_iff hn
    unfold checkCaptureReplayKernelSkips
    rw [if_neg hwindow, hunique]
    by_cases hfull : s.captureReplayKernelEnqueueCaptureCounter ≥
        config.captureReplayNumKernelEnqueuesCapture
    · simp only [hfull, decide_true]
      exact ⟨rfl, hnext, by simp [hopen, hfull], rfl⟩
    · simp only [hfull, decide_false]
      by_cases hkey : kernelKey config kernelInfo ∈ s.captureReplaySet
      · simp only [hkey, if_true, Bool.not_false, Bool.and_self]
        exact ⟨rfl, hnext, ⟨fun hfalse => absurd hfalse Bool.false_ne_true,
          fun hopen' => absurd hkey hopen'.2⟩, rfl⟩
      · simp only [hkey, if_false, Bool.not_false, Bool.and_self, if_true]
        refine ⟨rfl, ⟨hnext.skip, hnext.capture⟩, ?_, rfl⟩
        exact ⟨fun _ => ⟨hopen.mpr hfull, hkey⟩, fun _ => rfl⟩

end

variable (config) in
/-- The key that capture and replay keeps of an enqueue. -/
def replayKey (e : AubEnqueue) : String := kernelKey config e.kernelInfo

/-- What holds after every run. -/
structure ReplayInv (config : Config) (es : List AubEnqueue)
    (r : CaptureReplayState × List (AubEnqueue × Bool)) : Prop where
  enqueueCounter : r.1.enqueueCounter = UInt64.ofNat es.length
  considered : r.2.map Prod.fst = considered (replayConsiders config) es
  counters : ReplayCounters config r.2.length r.1
  set : ∀ k, k ∈ r.1.captureReplaySet ↔ k ∈ capturedKeys (replayKey config) r.2
  picks : Picks (replayKey config) (ReplayOpen config) r.2

theorem replayRun_concat (config : Config) (es : List AubEnqueue) (e : AubEnqueue) :
    replayRun config (es ++ [e]) = replayCall config (replayRun config es) e :=
  List.foldl_append

/-- After every sequence of enqueues the set and the counters are those of the law. -/
theorem replayRun_inv (hunique : config.captureReplayUniqueKernels = true)
    (es : List AubEnqueue) : ReplayInv config es (replayRun config es) := by
  induction es using List.reverseRecOn with
  | nil =>
    refine ⟨rfl, rfl, ⟨(Nat.zero_min _).symm, ?_⟩, fun _ => Iff.rfl, ?_⟩
    · show (0 : UInt32) = UInt32.ofNat (0 - _)
      rw [Nat.zero_sub]
      rfl
    · intro before e captured hbefore
      exact absurd (List.prefix_nil.mp hbefore) (by simp)
  | append_singleton es e ih =>
    rw [replayRun_concat]
    generalize replayRun config es = r at ih
    obtain ⟨s, history⟩ := r
    obtain ⟨hcounter, hconsidered, hcounters, hset, hpicks⟩ := ih
    simp only at hcounter hconsidered hcounters hset hpicks
    have hnext : s.enqueueCounter + 1 = UInt64.ofNat (es ++ [e]).length := by
      rw [hcounter, List.length_append, UInt64.ofNat_add]
      rfl
    have hkeys := considered_concat (replayConsiders config) es e
    rw [← hcounter] at hkeys
    unfold replayCall
    simp only
    by_cases hpass : replayConsiders config s.enqueueCounter e = true
    · rw [if_pos hpass] at hkeys ⊢
      obtain ⟨henqueue, hcounters', hcaptured, hset'⟩ := checkCaptureReplayKernelSkips_spec hunique
        e.kernelInfo (n := history.length) (s := { s with enqueueCounter := s.enqueueCounter + 1 })
        ⟨hcounters.skip, hcounters.capture⟩
      generalize checkCaptureReplayKernelSkips config e.kernelInfo
        { s with enqueueCounter := s.enqueueCounter + 1 } = r at henqueue hcounters' hcaptured hset'
      obtain ⟨captured, s'⟩ := r
      simp only at henqueue hcounters' hcaptured hset' ⊢
      refine ⟨henqueue.trans hnext, ?_, ?_, ?_, ?_⟩
      · rw [List.map_append, hconsidered, hkeys]
        rfl
      · rw [List.length_append]
        exact hcounters'
      · intro k
        rw [hset']
        cases captured with
        | true =>
          rw [if_pos rfl, capturedKeys_concat_true, List.mem_cons, List.mem_append, hset,
            List.mem_singleton, or_comm]
          rfl
        | false =>
          rw [if_neg Bool.false_ne_true, capturedKeys_concat_false]
          exact hset k
      · refine hpicks.concat ?_
        rw [hcaptured, ← hset]
        rfl
    · rw [if_neg hpass] at hkeys ⊢
      rw [List.append_nil] at hkeys
      exact ⟨hnext, hconsidered.trans hkeys.symm, ⟨hcounters.skip, hcounters.capture⟩, hset, hpicks⟩

/-- **Capture and replay** captures as expected exactly when counting enqueues is counting keys. -/
theorem replay_lawful_iff (hunique : config.captureReplayUniqueKernels = true)
    (es : List AubEnqueue) :
    Lawful (replayKey config) config.captureReplayNumKernelEnqueuesSkip.toNat
        config.captureReplayNumKernelEnqueuesCapture.toNat (replayRun config es).1.captureReplaySet
        (replayRun config es).2 ↔
      CountsDistinct config.captureReplayNumKernelEnqueuesSkip.toNat
        config.captureReplayNumKernelEnqueuesCapture.toNat
        ((considered (replayConsiders config) es).map (replayKey config)) := by
  have hinv := replayRun_inv hunique es
  rw [lawful_iff_countsDistinct hinv.set hinv.picks, ← hinv.considered, List.map_map]
  rfl

end

/-! ## Runs of aub capture -/

/-- What the end of a call keeps. -/
structure SameKeys (s s' : AubState) : Prop where
  enqueueCounter : s'.enqueueCounter = s.enqueueCounter
  skip : s'.aubCaptureKernelEnqueueSkipCounter = s.aubCaptureKernelEnqueueSkipCounter
  capture : s'.aubCaptureKernelEnqueueCaptureCounter = s.aubCaptureKernelEnqueueCaptureCounter
  set : s'.aubCaptureSet = s.aubCaptureSet
  starts : starts s'.log = starts s.log

/-- One after the other, still the same keys. -/
theorem SameKeys.trans {s s' s'' : AubState} (h : SameKeys s s') (h' : SameKeys s' s'') :
    SameKeys s s'' :=
  ⟨h'.enqueueCounter.trans h.enqueueCounter, h'.skip.trans h.skip, h'.capture.trans h.capture,
    h'.set.trans h.set, h'.starts.trans h.starts⟩

/-- Only a start counts as one. -/
@[simp] theorem starts_start (fileName : String) (log : List AubEvent) :
    starts (.start fileName :: log) = starts log + 1 :=
  List.countP_cons_of_pos rfl

@[simp] theorem starts_finish (queue : Handle) (log : List AubEvent) :
    starts (.finish queue :: log) = starts log :=
  List.countP_cons_of_neg Bool.false_ne_true

@[simp] theorem starts_command (call : Nat) (log : List AubEvent) :
    starts (.command call :: log) = starts log :=
  List.countP_cons_of_neg Bool.false_ne_true

@[simp] theorem starts_stop (log : List AubEvent) : starts (.stop :: log) = starts log :=
  List.countP_cons_of_neg Bool.false_ne_true

/-- A command decides about no kernel. -/
theorem sendCommand_sameKeys (config : Config) (s : AubState) :
    SameKeys s (sendCommand config s) := by
  unfold sendCommand
  split
  · exact ⟨rfl, rfl, rfl, rfl, rfl⟩
  · exact ⟨rfl, rfl, rfl, rfl, starts_command _ _⟩

/-- A stop decides about no kernel. -/
theorem stopAubCapture_sameKeys (queue : Handle) (s : AubState) :
    SameKeys s (stopAubCapture queue s) := by
  unfold stopAubCapture
  split
  · refine ⟨rfl, rfl, rfl, rfl, ?_⟩
    simp only [starts_stop]
    split
    · exact starts_finish _ _
    · rfl
  · exact ⟨rfl, rfl, rfl, rfl, rfl⟩

section

variable {config : Config} {s : AubState} {e : AubEnqueue}

/-- What a call does to the set, the counters and the starts, its start does. -/
theorem enqueueCall_sameKeys (config : Config) (s : AubState) (e : AubEnqueue) :
    SameKeys (captureBefore config e s.enqueueCounter (incrementEnqueueCounter s).2)
      (enqueueCall config s e) := by
  have hsent := sendCommand_sameKeys config
    (captureBefore config e s.enqueueCounter (incrementEnqueueCounter s).2)
  have hstopped : SameKeys (beforeStop config s e) (enqueueCall config s e) := by
    rw [enqueueCall_eq]
    split
    · have hstop := stopAubCapture_sameKeys e.commandQueue (beforeStop config s e)
      exact ⟨hstop.enqueueCounter, hstop.skip, hstop.capture, hstop.set, hstop.starts⟩
    · exact ⟨rfl, rfl, rfl, rfl, rfl⟩
  exact hsent.trans hstopped

variable (config) in
/-- The key that aub capture keeps of an enqueue. -/
def aubKey (e : AubEnqueue) : String := signatureKey config e.kernelInfo e.workDim e.gws e.lws

/-- The controls that are asked for. -/
structure UniqueAub (config : Config) : Prop where
  aubCapture : config.aubCapture = true
  individual : config.aubCaptureIndividualEnqueues = true
  unique : config.aubCaptureUniqueKernels = true

/-- The start of a call, by what decides about it. -/
theorem captureBefore_eq (h : UniqueAub config) (enqueueCounter : UInt64) (e : AubEnqueue)
    (s : AubState) :
    captureBefore config e enqueueCounter s =
      if aubConsiders config enqueueCounter e then
        if aubKey config e ∈ s.aubCaptureSet then s
        else startAubCapture config e.function.name enqueueCounter e.kernel e.shortKernelName
          e.workDim e.gws e.lws e.commandQueue
          { s with aubCaptureSet := aubKey config e :: s.aubCaptureSet }
      else s := by
  by_cases hkernel : e.function.enqueuesKernel = true
  · unfold captureBefore checkAubCaptureStartKernel checkAubCaptureKernelSignature aubConsiders
      aubKey
    rw [if_pos hkernel, hkernel, h.aubCapture, h.unique]
    simp only [Bool.true_and, Bool.and_assoc]
    by_cases hlimits : checkAubCaptureEnqueueLimits config enqueueCounter = true
    · rw [if_pos hlimits, hlimits, Bool.true_and]
      split
      · simp only [if_true]
        split <;> rfl
      · rfl
    · rw [if_neg hlimits, Bool.eq_false_of_not_eq_true hlimits]
      rfl
  · rw [captureBefore_individual enqueueCounter s h.individual
      (Bool.eq_false_of_not_eq_true hkernel), if_neg]
    simp [aubConsiders, hkernel]

/-- Nothing happens for an enqueue that is not considered, or whose key is in the set. -/
theorem captureBefore_old (h : UniqueAub config) (enqueueCounter : UInt64)
    (hold : aubConsiders config enqueueCounter e = true → aubKey config e ∈ s.aubCaptureSet) :
    captureBefore config e enqueueCounter s = s := by
  rw [captureBefore_eq h]
  split
  · next hpass => exact if_pos (hold hpass)
  · rfl

/-- A new key comes into the set, and the counters decide whether a capture is started. -/
theorem captureBefore_new (h : UniqueAub config) (enqueueCounter : UInt64)
    (hidle : s.aubCaptureStarted = false) (hpass : aubConsiders config enqueueCounter e = true)
    (hnew : aubKey config e ∉ s.aubCaptureSet) :
    (captureBefore config e enqueueCounter s).aubCaptureSet = aubKey config e :: s.aubCaptureSet ∧
      (captureBefore config e enqueueCounter s).enqueueCounter = s.enqueueCounter ∧
      (captureBefore config e enqueueCounter s).aubCaptureKernelEnqueueSkipCounter =
        (skipKernel config e.kernel s).2.aubCaptureKernelEnqueueSkipCounter ∧
      (captureBefore config e enqueueCounter s).aubCaptureKernelEnqueueCaptureCounter =
        (skipKernel config e.kernel s).2.aubCaptureKernelEnqueueCaptureCounter ∧
      starts (captureBefore config e enqueueCounter s).log =
        starts s.log + if (skipKernel config e.kernel s).1 then 0 else 1 := by
  rw [captureBefore_eq h, if_pos hpass, if_neg hnew]
  unfold startAubCapture skipKernel
  by_cases hkernel : e.kernel ≠ null
  · by_cases hwindow :
        s.aubCaptureKernelEnqueueSkipCounter < config.aubCaptureNumKernelEnqueuesSkip
    · simp [hidle, hkernel, hwindow]
    · by_cases hfull :
          s.aubCaptureKernelEnqueueCaptureCounter ≥ config.aubCaptureNumKernelEnqueuesCapture
      · simp [hidle, hkernel, hwindow, hfull]
      · simp [hidle, hkernel, hwindow, hfull]
  · simp [hidle, hkernel]

end

section

variable {config : Config}

/-- An enqueue of a kernel: the counters look at no other. -/
def hasKernel (e : AubEnqueue) : Prop := e.kernel ≠ null

instance : DecidablePred hasKernel := fun e => inferInstanceAs (Decidable (e.kernel ≠ null))

/-- The skip count and the capture count of aub capture. -/
def aubSkip (config : Config) : Nat := config.aubCaptureNumKernelEnqueuesSkip.toNat

def aubCount (config : Config) : Nat := config.aubCaptureNumKernelEnqueuesCapture.toNat

/-- Once a key is lost the law cannot be kept; until then the counters count captures. -/
def Decided (config : Config) (s : AubState) (history : List (AubEnqueue × Bool)) : Prop :=
  Missed (aubKey config) hasKernel (aubSkip config) (aubCount config) s.aubCaptureSet history ∨
    (Complete (aubKey config) hasKernel (aubSkip config) s.aubCaptureSet history ∧
      s.aubCaptureKernelEnqueueSkipCounter = 0 ∧
      s.aubCaptureKernelEnqueueCaptureCounter.toNat ≤ (capturedKeys (aubKey config) history).length)

/-- What holds after every run. -/
structure AubInv (config : Config) (es : List AubEnqueue)
    (r : AubState × List (AubEnqueue × Bool)) : Prop where
  enqueueCounter : r.1.enqueueCounter = UInt64.ofNat es.length
  consistent : Consistent r.1
  window : CaptureWindow config r.1
  considered : r.2.map Prod.fst = considered (aubConsiders config) es
  seen : ∀ k, k ∈ r.1.aubCaptureSet ↔ k ∈ (r.2.map Prod.fst).map (aubKey config)
  once : (capturedKeys (aubKey config) r.2).Nodup
  inSet : ∀ k ∈ capturedKeys (aubKey config) r.2, k ∈ r.1.aubCaptureSet
  decided : Decided config r.1 r.2

theorem aubRun_concat (config : Config) (es : List AubEnqueue) (e : AubEnqueue) :
    aubRun config (es ++ [e]) = aubCall config (aubRun config es) e :=
  List.foldl_append

section

variable {s s' : AubState} {history : List (AubEnqueue × Bool)} {e : AubEnqueue}

/-- Nothing is decided while set and counters stay. -/
theorem Decided.same (h : Decided config s history) (hset : s'.aubCaptureSet = s.aubCaptureSet)
    (hskip : s'.aubCaptureKernelEnqueueSkipCounter = s.aubCaptureKernelEnqueueSkipCounter)
    (hcapture :
      s'.aubCaptureKernelEnqueueCaptureCounter = s.aubCaptureKernelEnqueueCaptureCounter) :
    Decided config s' history := by
  rw [Decided, hset, hskip, hcapture]
  exact h

/-- A kernel that was missed stays missed. -/
theorem Missed.concat {set set' : List String} {captured : Bool}
    (h : Missed (aubKey config) hasKernel (aubSkip config) (aubCount config) set history)
    (hset : ∀ k ∈ set, k ∈ set') (hnew : captured = true → aubKey config e ∉ set) :
    Missed (aubKey config) hasKernel (aubSkip config) (aubCount config) set'
      (history ++ [(e, captured)]) := by
  obtain ⟨⟨k, hk, hlost⟩, huncounted⟩ := h
  refine ⟨⟨k, hset k hk, ?_⟩, fun hcounted => huncounted ?_⟩
  · cases captured with
    | true =>
      rw [capturedKeys_concat_true, List.mem_append, List.mem_singleton]
      rintro (hmem | rfl)
      · exact hlost hmem
      · exact hnew rfl hk
    | false => rwa [capturedKeys_concat_false]
  · rw [List.map_append] at hcounted
    exact hcounted.init

/-- An enqueue whose key is in the set is not captured. -/
theorem Decided.old (h : Decided config s history)
    (hseen : ∀ k, k ∈ s.aubCaptureSet ↔ k ∈ (history.map Prod.fst).map (aubKey config))
    (hkey : aubKey config e ∈ s.aubCaptureSet) :
    Decided config s (history ++ [(e, false)]) := by
  rcases h with hmissed | ⟨hcomplete, hskip, hcapture⟩
  · exact .inl (hmissed.concat (fun _ hk => hk) fun hfalse => absurd hfalse Bool.false_ne_true)
  · refine .inr ⟨⟨?_, ?_, ?_⟩, hskip, ?_⟩
    · intro k
      rw [capturedKeys_concat_false]
      exact hcomplete.recorded k
    · refine hcomplete.takesNew.concat fun hnew => ?_
      exact absurd ((hcomplete.recorded _).mp hkey) hnew
    · rw [List.map_append]
      exact hcomplete.unskipped.imp_right fun hnone =>
        hnone.concat fun _ => (hseen _).mp hkey
    · rwa [capturedKeys_concat_false]

/-- A key that is put into the set and not captured is lost. -/
theorem missed_of_uncounted (hnew : aubKey config e ∉ s.aubCaptureSet)
    (hinSet : ∀ k ∈ capturedKeys (aubKey config) history, k ∈ s.aubCaptureSet)
    (huncounted : ¬ AllCounted (aubKey config) hasKernel (aubSkip config) (aubCount config)
      (history.map Prod.fst ++ [e])) :
    Missed (aubKey config) hasKernel (aubSkip config) (aubCount config)
      (aubKey config e :: s.aubCaptureSet) (history ++ [(e, false)]) := by
  refine ⟨⟨aubKey config e, List.mem_cons_self, ?_⟩, ?_⟩
  · rw [capturedKeys_concat_false]
    exact fun hmem => hnew (hinSet _ hmem)
  · rwa [List.map_append]

/-- With a new key more different ones have come than were captured. -/
theorem length_dedup_gt
    (hseen : ∀ k, k ∈ s.aubCaptureSet ↔ k ∈ (history.map Prod.fst).map (aubKey config))
    (honce : (capturedKeys (aubKey config) history).Nodup)
    (hinSet : ∀ k ∈ capturedKeys (aubKey config) history, k ∈ s.aubCaptureSet)
    (hnew : aubKey config e ∉ s.aubCaptureSet) :
    (capturedKeys (aubKey config) history).length <
      ((history.map Prod.fst ++ [e]).map (aubKey config)).dedup.length := by
  have hnodup : (aubKey config e :: capturedKeys (aubKey config) history).Nodup :=
    List.nodup_cons.mpr ⟨fun hmem => hnew (hinSet _ hmem), honce⟩
  refine Nat.lt_of_succ_le (hnodup.length_le_of_subset fun k hk => ?_)
  rw [List.mem_dedup, List.map_append, List.mem_append]
  rcases List.mem_cons.mp hk with rfl | hk
  · exact .inr (.head _)
  · exact .inl ((hseen k).mp (hinSet k hk))

/-- A key that is put into the set and captured. -/
theorem Complete.captured
    (h : Complete (aubKey config) hasKernel (aubSkip config) s.aubCaptureSet history)
    (hunskipped : aubSkip config = 0 ∨ ¬ hasKernel e) :
    Complete (aubKey config) hasKernel (aubSkip config) (aubKey config e :: s.aubCaptureSet)
      (history ++ [(e, true)]) := by
  refine ⟨fun k => ?_, h.takesNew.concat fun _ => rfl, ?_⟩
  · rw [capturedKeys_concat_true, List.mem_cons, List.mem_append, List.mem_singleton,
      h.recorded, or_comm]
  · rw [List.map_append]
    rcases hunskipped with hzero | hnone
    · exact .inl hzero
    · exact h.unskipped.imp_right fun hold => hold.concat fun hkernel => absurd hkernel hnone

/-- A new kernel is captured if it is its turn. -/
theorem Decided.new (h : Decided config s history)
    (hseen : ∀ k, k ∈ s.aubCaptureSet ↔ k ∈ (history.map Prod.fst).map (aubKey config))
    (honce : (capturedKeys (aubKey config) history).Nodup)
    (hinSet : ∀ k ∈ capturedKeys (aubKey config) history, k ∈ s.aubCaptureSet)
    (hnew : aubKey config e ∉ s.aubCaptureSet) :
    Decided config
      { (skipKernel config e.kernel s).2 with aubCaptureSet := aubKey config e :: s.aubCaptureSet }
      (history ++ [(e, !(skipKernel config e.kernel s).1)]) := by
  rcases h with hmissed | ⟨hcomplete, hskip, hcapture⟩
  · exact .inl (hmissed.concat (fun _ hk => List.mem_cons_of_mem _ hk) fun _ => hnew)
  · have hlength : (capturedKeys (aubKey config) (history ++ [(e, true)])).length =
        (capturedKeys (aubKey config) history).length + 1 := by
      rw [capturedKeys_concat_true, List.length_append, List.length_singleton]
    unfold skipKernel
    by_cases hkernel : e.kernel ≠ null
    · rw [if_pos hkernel]
      by_cases hzero : aubSkip config = 0
      · have hwindow : ¬ s.aubCaptureKernelEnqueueSkipCounter <
            config.aubCaptureNumKernelEnqueuesSkip := by
          rw [UInt32.lt_iff_toNat_lt]
          show ¬ _ < aubSkip config
          omega
        rw [if_neg hwindow]
        by_cases hfull : s.aubCaptureKernelEnqueueCaptureCounter ≥
            config.aubCaptureNumKernelEnqueuesCapture
        · -- all are captured that are to be captured
          have hcount : aubCount config ≤ (capturedKeys (aubKey config) history).length :=
            (UInt32.le_iff_toNat_le.mp hfull).trans hcapture
          simp only [hfull, decide_true, Bool.not_true]
          refine .inl (missed_of_uncounted hnew hinSet fun hcounted => ?_)
          have hmore := length_dedup_gt hseen honce hinSet hnew
          have hdistinct := hcounted.2
          omega
        · have hroom := UInt32.lt_iff_toNat_lt.mp (UInt32.not_le.mp hfull)
          have hbound := config.aubCaptureNumKernelEnqueuesCapture.toNat_lt
          simp only [hfull, decide_false, Bool.not_false]
          refine .inr ⟨hcomplete.captured (.inl hzero), hskip, ?_⟩
          show (s.aubCaptureKernelEnqueueCaptureCounter + 1).toNat ≤ _
          rw [hlength, UInt32.toNat_add, UInt32.toNat_one, Nat.mod_eq_of_lt (by omega)]
          omega
      · have hwindow : s.aubCaptureKernelEnqueueSkipCounter <
            config.aubCaptureNumKernelEnqueuesSkip := by
          rw [UInt32.lt_iff_toNat_lt, hskip]
          exact Nat.pos_of_ne_zero hzero
        rw [if_pos hwindow]
        refine .inl (missed_of_uncounted hnew hinSet fun hcounted => ?_)
        have hnone := hcounted.1.resolve_left hzero
        exact hnew ((hseen _).mpr (hnone _ _ List.prefix_rfl hkernel))
    · rw [if_neg hkernel]
      refine .inr ⟨hcomplete.captured (.inr hkernel), hskip, ?_⟩
      show s.aubCaptureKernelEnqueueCaptureCounter.toNat ≤
        (capturedKeys (aubKey config) (history ++ [(e, true)])).length
      omega

/-- What holds of the set and the counters. -/
structure KeysKept (config : Config) (s : AubState) (history : List (AubEnqueue × Bool)) :
    Prop where
  seen : ∀ k, k ∈ s.aubCaptureSet ↔ k ∈ (history.map Prod.fst).map (aubKey config)
  once : (capturedKeys (aubKey config) history).Nodup
  inSet : ∀ k ∈ capturedKeys (aubKey config) history, k ∈ s.aubCaptureSet
  decided : Decided config s history

/-- Before the first enqueue. -/
theorem KeysKept.init (config : Config) : KeysKept config {} [] := by
  refine ⟨fun _ => Iff.rfl, List.nodup_nil, fun _ hk => absurd hk List.not_mem_nil,
    .inr ⟨⟨fun _ => Iff.rfl, ?_, .inr ?_⟩, rfl, Nat.zero_le _⟩⟩
  · intro before e captured hbefore
    exact absurd (List.prefix_nil.mp hbefore) (by simp)
  · intro before e hbefore
    exact absurd (List.prefix_nil.mp hbefore) (by simp)

/-- The keys are kept while set and counters stay. -/
theorem KeysKept.same (h : KeysKept config s history) (hset : s'.aubCaptureSet = s.aubCaptureSet)
    (hskip : s'.aubCaptureKernelEnqueueSkipCounter = s.aubCaptureKernelEnqueueSkipCounter)
    (hcapture :
      s'.aubCaptureKernelEnqueueCaptureCounter = s.aubCaptureKernelEnqueueCaptureCounter) :
    KeysKept config s' history := by
  refine ⟨?_, h.once, ?_, h.decided.same hset hskip hcapture⟩
  · rw [hset]
    exact h.seen
  · rw [hset]
    exact h.inSet

/-- A key that is in the set. -/
theorem KeysKept.old (h : KeysKept config s history) (hkey : aubKey config e ∈ s.aubCaptureSet) :
    KeysKept config s (history ++ [(e, false)]) := by
  refine ⟨fun k => ?_, ?_, ?_, h.decided.old h.seen hkey⟩
  · rw [List.map_append, List.map_append, List.mem_append, ← h.seen]
    show k ∈ s.aubCaptureSet ↔ k ∈ s.aubCaptureSet ∨ k ∈ [aubKey config e]
    rw [List.mem_singleton, or_iff_left_of_imp fun heq => heq ▸ hkey]
  · rw [capturedKeys_concat_false]
    exact h.once
  · rw [capturedKeys_concat_false]
    exact h.inSet

/-- A key that is put into the set. -/
theorem KeysKept.new (h : KeysKept config s history) (hnew : aubKey config e ∉ s.aubCaptureSet) :
    KeysKept config
      { (skipKernel config e.kernel s).2 with aubCaptureSet := aubKey config e :: s.aubCaptureSet }
      (history ++ [(e, !(skipKernel config e.kernel s).1)]) := by
  have hdecided := h.decided.new h.seen h.once h.inSet hnew
  revert hdecided
  generalize (!(skipKernel config e.kernel s).1) = captured
  intro hdecided
  refine ⟨fun k => ?_, ?_, fun k hk => ?_, hdecided⟩
  · rw [List.map_append, List.map_append, List.mem_append, ← h.seen, List.mem_cons, or_comm]
    exact or_congr_right List.mem_singleton.symm
  · cases captured with
    | true =>
      rw [capturedKeys_concat_true, List.nodup_append_comm]
      exact List.nodup_cons.mpr ⟨fun hmem => hnew (h.inSet _ hmem), h.once⟩
    | false =>
      rw [capturedKeys_concat_false]
      exact h.once
  · rw [capturedKeys_append, List.mem_append] at hk
    rcases hk with hk | hk
    · exact List.mem_cons_of_mem _ (h.inSet k hk)
    · obtain ⟨o, ho, rfl⟩ := List.mem_map.mp hk
      rw [List.mem_singleton.mp (List.mem_of_mem_filter ho)]
      exact List.mem_cons_self

end

/-- An enqueue keeps what is known of the set and the counters. -/
theorem KeysKept.aubCall (h : UniqueAub config) {r : AubState × List (AubEnqueue × Bool)}
    (hkept : KeysKept config r.1 r.2) (hidle : r.1.aubCaptureStarted = false) (e : AubEnqueue) :
    KeysKept config (aubCall config r e).1 (aubCall config r e).2 ∧
      (aubCall config r e).1.enqueueCounter = r.1.enqueueCounter + 1 := by
  obtain ⟨s, history⟩ := r
  have hsame := enqueueCall_sameKeys config s e
  have hkept' : KeysKept config (incrementEnqueueCounter s).2 history := hkept.same rfl rfl rfl
  simp only [Capture.aubCall]
  by_cases hpass : aubConsiders config s.enqueueCounter e = true
  · rw [if_pos hpass]
    by_cases hkey : aubKey config e ∈ s.aubCaptureSet
    · rw [captureBefore_old (s := (incrementEnqueueCounter s).2) h s.enqueueCounter
        fun _ => hkey] at hsame
      have hnot : decide (starts s.log < starts (enqueueCall config s e).log) = false := by
        rw [hsame.starts]
        exact decide_eq_false (Nat.lt_irrefl _)
      rw [hnot]
      exact ⟨(hkept'.old hkey).same hsame.set hsame.skip hsame.capture, hsame.enqueueCounter⟩
    · obtain ⟨hset, henqueue, hskip, hcapture, hstarts⟩ := captureBefore_new
        (s := (incrementEnqueueCounter s).2) h s.enqueueCounter hidle hpass hkey
      have hcaptured : decide (starts s.log < starts (enqueueCall config s e).log) =
          !(skipKernel config e.kernel (incrementEnqueueCounter s).2).1 := by
        rw [hsame.starts, hstarts]
        cases (skipKernel config e.kernel (incrementEnqueueCounter s).2).1 with
        | true => exact decide_eq_false (Nat.lt_irrefl _)
        | false => exact decide_eq_true (Nat.lt_succ_self _)
      rw [hcaptured]
      exact ⟨(hkept'.new hkey).same (hsame.set.trans hset) (hsame.skip.trans hskip)
        (hsame.capture.trans hcapture), hsame.enqueueCounter.trans henqueue⟩
  · -- another control keeps the enqueue out
    rw [captureBefore_old (s := (incrementEnqueueCounter s).2) h s.enqueueCounter
      fun hpass' => absurd hpass' hpass] at hsame
    rw [if_neg hpass]
    exact ⟨hkept'.same hsame.set hsame.skip hsame.capture, hsame.enqueueCounter⟩

theorem fst_aubCall (config : Config) (r : AubState × List (AubEnqueue × Bool)) (e : AubEnqueue) :
    (aubCall config r e).1 = enqueueCall config r.1 e := by
  unfold aubCall
  split <;> rfl

/-- The history goes on with the enqueues that are considered. -/
theorem map_fst_aubCall (config : Config) (r : AubState × List (AubEnqueue × Bool))
    (e : AubEnqueue) : (aubCall config r e).2.map Prod.fst =
      r.2.map Prod.fst ++ if aubConsiders config r.1.enqueueCounter e then [e] else [] := by
  unfold aubCall
  simp only
  split
  · rw [List.map_append]
    rfl
  · rw [List.append_nil]

/-- **After every sequence of enqueues the set has the keys that were seen.** -/
theorem aubRun_inv (h : UniqueAub config) (es : List AubEnqueue) :
    AubInv config es (aubRun config es) := by
  induction es using List.reverseRecOn with
  | nil =>
    obtain ⟨hseen, honce, hinSet, hdecided⟩ := KeysKept.init config
    exact ⟨rfl, rfl, ⟨id, fun _ => ⟨rfl, fun _ hcalls => absurd hcalls List.not_mem_nil⟩⟩, rfl,
      hseen, honce, hinSet, hdecided⟩
  | append_singleton es e ih =>
    have hidle : (aubRun config es).1.aubCaptureStarted = false :=
      ih.consistent.trans (ih.window.individual h.individual).1
    obtain ⟨⟨hseen, honce, hinSet, hdecided⟩, hcounter⟩ := KeysKept.aubCall h
      ⟨ih.seen, ih.once, ih.inSet, ih.decided⟩ hidle e
    rw [aubRun_concat]
    refine ⟨?_, ?_, ?_, ?_, hseen, honce, hinSet, hdecided⟩
    · rw [hcounter, ih.enqueueCounter, List.length_append, UInt64.ofNat_add]
      rfl
    · rw [fst_aubCall]
      exact (enqueueCall_inv ih.consistent ih.window.notStartedTwice).1
    · rw [fst_aubCall]
      exact enqueueCall_captureWindow h.aubCapture ih.consistent ih.window
    · rw [map_fst_aubCall, ih.considered, considered_concat, ih.enqueueCounter]

/-- **Aub capture** captures as expected exactly when every key is counted. -/
theorem aub_lawful_iff (h : UniqueAub config) (es : List AubEnqueue) :
    Lawful (aubKey config) (aubSkip config) (aubCount config) (aubRun config es).1.aubCaptureSet
        (aubRun config es).2 ↔
      AllCounted (aubKey config) hasKernel (aubSkip config) (aubCount config)
        (considered (aubConsiders config) es) := by
  have hinv := aubRun_inv h es
  have hdecided := hinv.decided.imp_right fun hcomplete => hcomplete.1
  rw [lawful_iff_allCounted hinv.seen hinv.once hdecided, hinv.considered]

end

/-- **Unique kernels with skipped enqueues**: what each of the two ways captures, and what it keeps
of it, is as expected exactly for these enqueues. -/
theorem uniqueCaptures_iff (config : Config) (es : List AubEnqueue) :
    (config.captureReplayUniqueKernels = true →
      (Lawful (replayKey config) config.captureReplayNumKernelEnqueuesSkip.toNat
          config.captureReplayNumKernelEnqueuesCapture.toNat
          (replayRun config es).1.captureReplaySet (replayRun config es).2 ↔
        CountsDistinct config.captureReplayNumKernelEnqueuesSkip.toNat
          config.captureReplayNumKernelEnqueuesCapture.toNat
          ((considered (replayConsiders config) es).map (replayKey config)))) ∧
    (config.aubCapture = true → config.aubCaptureIndividualEnqueues = true →
      config.aubCaptureUniqueKernels = true →
      (Lawful (aubKey config) config.aubCaptureNumKernelEnqueuesSkip.toNat
          config.aubCaptureNumKernelEnqueuesCapture.toNat (aubRun config es).1.aubCaptureSet
          (aubRun config es).2 ↔
        AllCounted (aubKey config) hasKernel config.aubCaptureNumKernelEnqueuesSkip.toNat
          config.aubCaptureNumKernelEnqueuesCapture.toNat
          (considered (aubConsiders config) es))) :=
  ⟨fun hunique => replay_lawful_iff hunique es,
    fun haub hindividual hunique => aub_lawful_iff ⟨haub, hindividual, hunique⟩ es⟩

/-- Two unique kernels are to be captured and replayed, and one enqueue is to be skipped by aub
capture. -/
def twoUnique : Config where
  captureReplay := true
  captureReplayUniqueKernels := true
  captureReplayNumKernelEnqueuesCapture := 2
  aubCapture := true
  aubCaptureIndividualEnqueues := true
  aubCaptureUniqueKernels := true
  aubCaptureNumKernelEnqueuesSkip := 1

def noSkip : Config := { twoUnique with aubCaptureNumKernelEnqueuesSkip := 0 }

def launch (kernelName : String) : AubEnqueue where
  function := .clEnqueueNDRangeKernel
  commandQueue := 1
  kernel := 2
  kernelInfo := { kernelName := kernelName }

/-- Two kernels, one launch each, are captured for replay; and of one kernel that is launched twice
the first, where none is skipped. -/
theorem uniqueCaptures_twoUnique :
    Lawful (replayKey twoUnique) 0 2
        (replayRun twoUnique [launch "a", launch "b"]).1.captureReplaySet
        (replayRun twoUnique [launch "a", launch "b"]).2 ∧
      Lawful (aubKey noSkip) 0 0xffffffff (aubRun noSkip [launch "a", launch "a"]).1.aubCaptureSet
        (aubRun noSkip [launch "a", launch "a"]).2 := by
  constructor
  · refine ((uniqueCaptures_iff twoUnique _).1 rfl).mpr ?_
    exact countsDistinct_of_length_le (by decide : 2 ≤ 2 ^ 32) (Nat.le_refl 2)
  · refine ((uniqueCaptures_iff noSkip _).2 rfl rfl rfl).mpr ⟨.inl rfl, ?_⟩
    exact (List.dedup_sublist _).length_le.trans (by decide)

theorem replayKey_ne : replayKey twoUnique (launch "b") ≠ replayKey twoUnique (launch "a") := by
  intro h
  have hhead := congrArg (fun text => text.toList.head?) h
  simp [replayKey, kernelKey, launch] at hhead

/-- The second launch of the first kernel counts as a capture, and the kernel that aub capture skips
is in its set. -/
theorem unique_captures_lost :
    ¬ Lawful (replayKey twoUnique) 0 2
        (replayRun twoUnique [launch "a", launch "a", launch "b"]).1.captureReplaySet
        (replayRun twoUnique [launch "a", launch "a", launch "b"]).2 ∧
      ¬ Lawful (aubKey twoUnique) 1 0xffffffff (aubRun twoUnique [launch "a"]).1.aubCaptureSet
        (aubRun twoUnique [launch "a"]).2 := by
  constructor
  · intro hlaw
    have hcounts := (replay_lawful_iff rfl _).mp hlaw
    have hkeys : considered (replayConsiders twoUnique) [launch "a", launch "a", launch "b"] =
        [launch "a", launch "a", launch "b"] := rfl
    rw [hkeys] at hcounts
    -- the third launch, after two of one kernel
    have hthird : replayKey twoUnique (launch "b") ∉
        firsts 2 [replayKey twoUnique (launch "a"), replayKey twoUnique (launch "a")] →
          (2 % 2 ^ 32 < 2 ↔ (firsts 2
            [replayKey twoUnique (launch "a"), replayKey twoUnique (launch "a")]).length < 2) :=
      hcounts [replayKey twoUnique (launch "a"), replayKey twoUnique (launch "a")]
        (replayKey twoUnique (launch "b")) List.prefix_rfl (Nat.zero_le _)
    have hfirsts : firsts 2 [replayKey twoUnique (launch "a"), replayKey twoUnique (launch "a")] =
        [replayKey twoUnique (launch "a")] := by
      simp [firsts]
    rw [hfirsts, List.mem_singleton] at hthird
    exact absurd ((hthird replayKey_ne).mpr Nat.one_lt_two) (by decide)
  · intro hlaw
    have hcounted := (aub_lawful_iff ⟨rfl, rfl, rfl⟩ _).mp hlaw
    have hkeys : considered (aubConsiders twoUnique) [launch "a"] = [launch "a"] := rfl
    rw [hkeys] at hcounted
    rcases hcounted.1 with hzero | hnone
    · exact absurd hzero (by decide)
    · exact absurd (hnone [] (launch "a") List.prefix_rfl (by decide)) List.not_mem_nil

end CLIntercept.Capture
