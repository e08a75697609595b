import CLIntercept.Override.Copies

/-!
# When the overrides are transparent

The launch of the override kernel takes one work-group for each column of blocks, and counts the rows
in argument 6, which is set before it and stays set. `clEnqueueNDRangeKernel` makes the launch that
the application asked for if the override returns an error, and only then.

`call_transparent_iff` says, for every request, every queue and all that the driver may answer, exactly
when a call is transparent.
-/

set_option autoImplicit false

namespace CLIntercept.Override

open CLIntercept.Lib.CommandQueue (WellFormed)

/-! ## Launches of kernels -/

section

variable {L : Layer} {d : Driver} {q : Enqueue} {kernel : Handle} {r : NDRange}
  {iterations : Option Int} {c : Call}

/-- The override gets to look at the launch. -/
def Looks (L : Layer) (d : Driver) : Prop :=
  L.config.overrideBuiltinKernels = true ∧ d.answer .getCommandQueueInfo = clSuccess

instance (L : Layer) (d : Driver) : Decidable (Looks L d) := inferInstanceAs (Decidable (_ ∧ _))

/-- **The condition on a launch of a kernel**. Other kernels than the override are not touched. Of
the override kernel a launch in another shape must not get to the driver, nor to the override. In
this shape all depends on argument 6: if the layer sets it the numbers have to fit in an `int`, and
if not it must be right already. -/
def NdRangeKernelHolds (L : Layer) (d : Driver) (q : Enqueue) (kernel : Handle) (r : NDRange)
    (iterations : Option Int) : Prop :=
  L.builtinKernelOverridesMap q.context = some kernel →
    match r.blocks? with
    | some global =>
      if Looks L d ∧ d.answer (.setKernelArg 6) = clSuccess then
        d.answer .enqueueNDRangeKernel = clSuccess ∨ d.answer .enqueueOriginal = clSuccess →
          0 < global.x → 0 < global.y →
            blockCount global.x ≤ 2 ^ 31 ∧ blockCount global.y < 2 ^ 31
      else d.answer .enqueueOriginal = clSuccess → BlocksFit global iterations
    | none => ¬Looks L d ∧ d.answer .enqueueOriginal ≠ clSuccess

/-- Nothing happened yet but errors, and argument 6 may have been set. -/
structure Untouched (c : Call) : Prop where
  commands : c.commands = []
  finished : c.finished = false
  released : c.released = []
  temporary : c.temporary = null

/-- Setting an error touches nothing. -/
theorem Untouched.setError (h : Untouched c) (e : Int) : Untouched (c.setError e) :=
  ⟨h.commands, h.finished, h.released, h.temporary⟩

/-- A launch is all that such a call does. -/
theorem Untouched.enqueue_transparent_iff (h : Untouched c) {call : DriverCall} {work : Work}
    (hwork : work.isLaunch = true) :
    Transparent L q (.ndRangeKernel kernel r iterations) (c.enqueue d call (q.launch work)) ↔
      (d.answer call = clSuccess →
        Complete L q (.ndRangeKernel kernel r iterations) work) := by
  have htemp : (c.enqueue d call (q.launch work)).released.filter (· ≠ null) =
      [(c.enqueue d call (q.launch work)).temporary].filter (· ≠ null) := by
    simp [Call.enqueue, h.released, h.temporary]
  by_cases hcall : d.answer call = clSuccess
  · rw [imp_iff_right hcall]
    refine transparent_device_iff hcall ?_ hwork rfl (by simp [Request.blocking]) htemp
    simp [Call.enqueue, hcall, h.commands]
  · refine iff_of_true (transparent_of_failed hcall ?_ htemp) fun hyes => absurd hyes hcall
    simp [Call.enqueue, hcall, h.commands]

/-- A call that enqueued nothing and reports a success is not transparent. -/
theorem Untouched.not_transparent (h : Untouched c) (he : c.errorCode = clSuccess)
    (request : Request) : ¬Transparent L q request c := by
  intro htransparent
  obtain ⟨k, command, hk, _⟩ := htransparent.operation he
  simp [h.commands] at hk

/-! ### What is complete -/

/-- Kernels of the application are launched as they are. -/
theorem complete_other (h : L.builtinKernelOverridesMap q.context ≠ some kernel) :
    Complete L q (.ndRangeKernel kernel r iterations) (.ndRange r) := by
  intro m
  simp only [Work.Performs, Request.Intends, if_neg h]

/-- The kernel of the layer has to do all blocks of the range. -/
theorem complete_blocks_iff (h : L.builtinKernelOverridesMap q.context = some kernel)
    {global : Size3} (hblocks : r.blocks? = some global) {work : Work} :
    Complete L q (.ndRangeKernel kernel r iterations) work ↔
      ∀ m, work.Performs m ↔ blockRegion global m := by
  simp only [Complete, Request.Intends, if_pos h, hblocks]

/-- The override kernel does not do a launch in another shape. -/
theorem not_complete_blocks (h : L.builtinKernelOverridesMap q.context = some kernel)
    (hblocks : r.blocks? = none) (l : BlockLaunch) :
    ¬Complete L q (.ndRangeKernel kernel r iterations) (.estimateBlocks l) := by
  intro hcomplete
  have hintends := (hcomplete (.range r)).mpr (by simp [Request.Intends, h, hblocks])
  obtain ⟨x, y, hrange, _⟩ := hintends
  cases hrange

/-- The ranges that the layer launches by columns. -/
theorem blocks?_eq_some {global : Size3} (h : r.blocks? = some global) :
    r.workDim = 2 ∧ r.globalWorkSize = some global ∧ r.localWorkSize = none := by
  unfold NDRange.blocks? at h
  split at h
  next hshape => exact ⟨hshape.1, h, hshape.2⟩
  · cases h

/-! ### The override -/

/-- A kernel that is not the override is refused. -/
theorem ndRangeBuiltinKernel_other (h : L.builtinKernelOverridesMap q.context ≠ some kernel) :
    ∃ e, e ≠ clSuccess ∧ ndRangeBuiltinKernel L d q kernel r c = c.setError e := by
  unfold ndRangeBuiltinKernel
  by_cases hquery : d.answer .getCommandQueueInfo = clSuccess
  · rw [Call.andThen_eq hquery]
    refine ⟨clInvalidValue, by decide, ?_⟩
    cases hmap : L.builtinKernelOverridesMap q.context with
    | none => rfl
    | some override =>
      have hne : kernel ≠ override := fun heq => h (by rw [hmap, heq])
      simp only [if_neg hne]
      rfl
  · rw [Call.andThen_eq_self hquery]
    exact ⟨_, hquery, rfl⟩

/-- The override's own kernel is launched in columns, or not at all. -/
theorem ndRangeBuiltinKernel_override (h : L.builtinKernelOverridesMap q.context = some kernel)
    (hquery : d.answer .getCommandQueueInfo = clSuccess) :
    ndRangeBuiltinKernel L d q kernel r c =
      match r.blocks? with
      | some global => launchColumns d q r global (c.query d .getCommandQueueInfo)
      | none => c.query d .getCommandQueueInfo := by
  unfold ndRangeBuiltinKernel
  rw [Call.andThen_eq hquery, h]
  simp only [if_true]
  unfold NDRange.blocks?
  by_cases hshape : r.workDim = 2 ∧ r.localWorkSize = none
  · rw [if_pos hshape]
    cases r.globalWorkSize with
    | none => rfl
    | some global => exact if_pos hshape
  · rw [if_neg hshape]
    cases r.globalWorkSize with
    | none => rfl
    | some global => exact if_neg hshape

/-- With its last argument set, the columns are launched. -/
theorem launchColumns_of_set {global : Size3} (hset : d.answer (.setKernelArg 6) = clSuccess) :
    launchColumns d q r global c =
      ((c.query d (.setKernelArg 6)).setIterations (toInt (blocks global.y))).enqueue d
        .enqueueNDRangeKernel (q.launch (.estimateBlocks
          ⟨columnRange r global, some (toInt (blocks global.y))⟩)) := by
  unfold launchColumns
  exact Call.andThen_eq hset _

/-- Without it nothing is. -/
theorem launchColumns_of_not_set {global : Size3}
    (hset : d.answer (.setKernelArg 6) ≠ clSuccess) :
    launchColumns d q r global c = c.query d (.setKernelArg 6) := by
  unfold launchColumns
  exact Call.andThen_eq_self hset _

/-- After a success there is nothing more to launch. -/
theorem launchOriginal_of_success (he : c.errorCode = clSuccess) :
    launchOriginal L d q kernel r c = c :=
  if_neg (not_not.mpr he)

/-- After an error the application's own launch goes to the driver. -/
theorem launchOriginal_of_error (he : c.errorCode ≠ clSuccess) :
    launchOriginal L d q kernel r c =
      c.enqueue d .enqueueOriginal (q.launch (originalWork L q kernel r c.iterations)) :=
  if_pos he

/-- The launch of the application, where it is one of the override kernel. -/
theorem Untouched.original_transparent_iff (hc : Untouched c) (he : c.errorCode ≠ clSuccess)
    (h : L.builtinKernelOverridesMap q.context = some kernel) :
    Transparent L q (.ndRangeKernel kernel r iterations) (launchOriginal L d q kernel r c) ↔
      match r.blocks? with
      | some global => d.answer .enqueueOriginal = clSuccess → BlocksFit global c.iterations
      | none => d.answer .enqueueOriginal ≠ clSuccess := by
  have hwork : originalWork L q kernel r c.iterations = .estimateBlocks ⟨r, c.iterations⟩ :=
    if_pos h
  rw [launchOriginal_of_error he, hwork]
  refine (hc.enqueue_transparent_iff rfl).trans ?_
  cases hblocks : r.blocks? with
  | some global =>
    obtain ⟨hdim, hglobal, hlocal⟩ := blocks?_eq_some hblocks
    exact imp_congr_right fun _ => (complete_blocks_iff h hblocks).trans
      (originalRange_complete_iff hdim hglobal hlocal)
  | none => exact imp_congr_right fun _ => iff_false_intro (not_complete_blocks h hblocks _)

/-- The launch in columns, and the launch of the application if that fails. -/
theorem Untouched.columns_transparent_iff (hc : Untouched c)
    (h : L.builtinKernelOverridesMap q.context = some kernel) {global : Size3}
    (hblocks : r.blocks? = some global) (hset : d.answer (.setKernelArg 6) = clSuccess) :
    Transparent L q (.ndRangeKernel kernel r iterations)
        (launchOriginal L d q kernel r (launchColumns d q r global c)) ↔
      (d.answer .enqueueNDRangeKernel = clSuccess ∨ d.answer .enqueueOriginal = clSuccess →
        0 < global.x → 0 < global.y →
          blockCount global.x ≤ 2 ^ 31 ∧ blockCount global.y < 2 ^ 31) := by
  rw [launchColumns_of_set hset]
  have hset' : Untouched ((c.query d (.setKernelArg 6)).setIterations (toInt (blocks global.y))) :=
    ⟨hc.commands, hc.finished, hc.released, hc.temporary⟩
  by_cases hlaunch : d.answer .enqueueNDRangeKernel = clSuccess
  · rw [launchOriginal_of_success hlaunch, imp_iff_right (Or.inl hlaunch)]
    refine (hset'.enqueue_transparent_iff rfl).trans ((imp_iff_right hlaunch).trans ?_)
    exact (complete_blocks_iff h hblocks).trans columnRange_complete_iff
  · refine (Untouched.original_transparent_iff ?_ hlaunch h).trans ?_
    · refine ⟨?_, hc.finished, hc.released, hc.temporary⟩
      simp [Call.enqueue, hlaunch, hset'.commands]
    · rw [hblocks, or_iff_right hlaunch]
      simp only [BlocksFit, Call.enqueue, Call.setIterations, Option.some.injEq, toInt_blocks_iff]

/-- What the override has done when the launch of the application comes up. -/
def overridden (L : Layer) (d : Driver) (q : Enqueue) (kernel : Handle) (r : NDRange)
    (iterations : Option Int) : Call :=
  let c : Call := { errorCode := clInvalidOperation, iterations }
  if L.config.overrideBuiltinKernels then ndRangeBuiltinKernel L d q kernel r c else c

theorem clEnqueueNDRangeKernel_eq :
    clEnqueueNDRangeKernel L d q kernel r iterations =
      launchOriginal L d q kernel r (overridden L d q kernel r iterations) := rfl

/-- An override that fails leaves the call to the driver. -/
theorem overridden_of_fails (iterations : Option Int)
    (h : L.config.overrideBuiltinKernels = true → ∃ e, e ≠ clSuccess ∧
      ndRangeBuiltinKernel L d q kernel r { errorCode := clInvalidOperation, iterations } =
        Call.setError e { errorCode := clInvalidOperation, iterations }) :
    ∃ e, e ≠ clSuccess ∧ overridden L d q kernel r iterations =
      Call.setError e { errorCode := clInvalidOperation, iterations } := by
  by_cases hconfig : L.config.overrideBuiltinKernels = true
  · obtain ⟨e, he, heq⟩ := h hconfig
    exact ⟨e, he, (if_pos hconfig).trans heq⟩
  · exact ⟨clInvalidOperation, by decide, if_neg hconfig⟩

/-- **The entry point**, for the override's own kernel. -/
theorem ndRangeKernel_override_iff (h : L.builtinKernelOverridesMap q.context = some kernel) :
    Transparent L q (.ndRangeKernel kernel r iterations)
        (clEnqueueNDRangeKernel L d q kernel r iterations) ↔
      NdRangeKernelHolds L d q kernel r iterations := by
  rw [NdRangeKernelHolds, imp_iff_right h]
  have hstart : Untouched { errorCode := clInvalidOperation, iterations } := ⟨rfl, rfl, rfl, rfl⟩
  have hquery' := hstart.setError (d.answer .getCommandQueueInfo)
  by_cases hlooks : Looks L d
  · obtain ⟨hconfig, hquery⟩ := id hlooks
    have heq : overridden L d q kernel r iterations = _ :=
      (if_pos hconfig).trans (ndRangeBuiltinKernel_override h hquery)
    rw [clEnqueueNDRangeKernel_eq, heq]
    cases hblocks : r.blocks? with
    | none =>
      -- the override returns a success and has not done anything
      simp only
      rw [launchOriginal_of_success hquery]
      exact iff_of_false (hquery'.not_transparent hquery _) fun hno => hno.1 hlooks
    | some global =>
      simp only
      by_cases hset : d.answer (.setKernelArg 6) = clSuccess
      · rw [if_pos ⟨hlooks, hset⟩]
        exact hquery'.columns_transparent_iff h hblocks hset
      · rw [if_neg fun hboth => hset hboth.2, launchColumns_of_not_set hset]
        refine ((hquery'.setError _).original_transparent_iff hset h).trans ?_
        rw [hblocks]
        rfl
  · have hfails : L.config.overrideBuiltinKernels = true → ∃ e, e ≠ clSuccess ∧
        ndRangeBuiltinKernel L d q kernel r { errorCode := clInvalidOperation, iterations } =
          Call.setError e { errorCode := clInvalidOperation, iterations } := by
      intro hconfig
      have hquery : d.answer .getCommandQueueInfo ≠ clSuccess := fun hq => hlooks ⟨hconfig, hq⟩
      exact ⟨_, hquery, Call.andThen_eq_self hquery _⟩
    obtain ⟨e, he, heq⟩ := overridden_of_fails iterations hfails
    rw [clEnqueueNDRangeKernel_eq, heq]
    refine ((hstart.setError e).original_transparent_iff he h).trans ?_
    cases r.blocks? with
    | none => exact (and_iff_right hlooks).symm
    | some global =>
      simp only
      rw [if_neg fun hboth => hlooks hboth.1]
      rfl

/-- Of other kernels the launch of the application is made. -/
theorem ndRangeKernel_other (h : L.builtinKernelOverridesMap q.context ≠ some kernel) :
    Transparent L q (.ndRangeKernel kernel r iterations)
      (clEnqueueNDRangeKernel L d q kernel r iterations) := by
  obtain ⟨e, he, heq⟩ := overridden_of_fails iterations (d := d) (r := r)
    fun _ => ndRangeBuiltinKernel_other h
  have hstart : Untouched { errorCode := clInvalidOperation, iterations } := ⟨rfl, rfl, rfl, rfl⟩
  have hwork : originalWork L q kernel r iterations = .ndRange r := if_neg h
  rw [clEnqueueNDRangeKernel_eq, heq, launchOriginal_of_error he]
  refine ((hstart.setError e).enqueue_transparent_iff ?_).mpr fun _ => ?_
  · exact congrArg Work.isLaunch hwork
  · exact hwork ▸ complete_other h

/-- **Launches of kernels.** -/
theorem ndRangeKernel_transparent_iff :
    Transparent L q (.ndRangeKernel kernel r iterations)
        (clEnqueueNDRangeKernel L d q kernel r iterations) ↔
      NdRangeKernelHolds L d q kernel r iterations := by
  by_cases h : L.builtinKernelOverridesMap q.context = some kernel
  · exact ndRangeKernel_override_iff h
  · exact iff_of_true (ndRangeKernel_other h) fun hyes => absurd hyes h

end

/-! ## All requests -/

/-- **When a call is transparent**. -/
def HoldsWhen (L : Layer) (d : Driver) (q : Enqueue) : Request → Prop
  | .readBuffer src blocking srcOffset bytes ptr =>
    ReadBufferHolds L d q src blocking srcOffset bytes ptr
  | .writeBuffer dst blocking dstOffset bytes ptr =>
    WriteBufferHolds L d q dst blocking dstOffset bytes ptr
  | .copyBuffer src dst srcOffset dstOffset bytes =>
    CopyBufferHolds L d q src dst srcOffset dstOffset bytes
  | .readImage src blocking srcOrigin region => ReadImageHolds L d q src blocking srcOrigin region
  | .writeImage dst blocking dstOrigin region => WriteImageHolds L d q dst blocking dstOrigin region
  | .copyImage src dst srcOrigin dstOrigin region =>
    CopyImageHolds L d q src dst srcOrigin dstOrigin region
  | .ndRangeKernel kernel r iterations => NdRangeKernelHolds L d q kernel r iterations

/-- **Exactly when the overrides are transparent**, whatever the driver answers. -/
theorem call_transparent_iff (L : Layer) (d : Driver) (q : Enqueue) (r : Request) :
    Transparent L q r (r.call L d q) ↔ HoldsWhen L d q r := by
  cases r with
  | readBuffer => exact readBuffer_transparent_iff
  | writeBuffer => exact writeBuffer_transparent_iff
  | copyBuffer => exact copyBuffer_transparent_iff
  | readImage => exact readImage_transparent_iff
  | writeImage => exact writeImage_transparent_iff
  | copyImage => exact copyImage_transparent_iff
  | ndRangeKernel => exact ndRangeKernel_transparent_iff

/-! A read that does not block, alone in an in-order queue, with nothing that fails. -/

/-- Overrides for every context. -/
def overriding : Layer :=
  { config := {}
    precompiledKernelOverridesMap := fun _ => true
    builtinKernelOverridesMap := fun _ => none }

/-- A driver that takes every call. -/
def willing : Driver := { answer := fun _ => clSuccess, memObject := 1, memObject_ne := Nat.one_ne_zero }

/-- An in-order queue with nothing in it, and an event to be returned. -/
def emptyQueue : Enqueue :=
  { context := 1
    inOrder := true
    earlier := []
    eventWaitList := []
    event := true
    wellFormed := WellFormed.append (fun _ _ _ he => by simp at he) (by simp) }

/-- Its event is complete before the map has run, with the bytes not yet at the host. Without an event
and in an out-of-order queue, all commands can have run and the bytes never get there. -/
theorem event_before_map :
    ¬Transparent overriding emptyQueue (.readBuffer ⟨16⟩ false 0 16 4096)
      ((Request.readBuffer ⟨16⟩ false 0 16 4096).call overriding willing emptyQueue) ∧
    ¬Transparent overriding { emptyQueue with inOrder := false, event := false }
      (.readBuffer ⟨16⟩ false 0 16 4096)
      ((Request.readBuffer ⟨16⟩ false 0 16 4096).call overriding willing
        { emptyQueue with inOrder := false, event := false }) := by
  have hlaunches (q : Enqueue) : BufferLaunches overriding willing q := ⟨rfl, fun _ _ => rfl, rfl⟩
  constructor
  · intro h
    have hholds := readBuffer_transparent_iff.mp h ⟨rfl, rfl, hlaunches _⟩
    rw [ReadHolds, if_pos ⟨rfl, rfl⟩] at hholds
    exact Bool.noConfusion ((hholds.2 (by decide)).2 rfl)
  · intro h
    have hholds := readBuffer_transparent_iff.mp h ⟨rfl, rfl, hlaunches _⟩
    rw [ReadHolds, if_pos ⟨rfl, rfl⟩] at hholds
    exact Bool.noConfusion (hholds.2 (by decide)).1

end CLIntercept.Override
