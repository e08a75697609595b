import CLIntercept.Api
import CLIntercept.Config
import CLIntercept.Lib.Run
import Mathlib.Data.List.Count
import Mathlib.Logic.Function.Basic

/-!
# Command queues

For each context the layer keeps a list of its queues, to finish them all before a blocking free.
Creations push onto the list and the release of a last reference erases from it. What it erases is
the position that `std::find` answers, so a queue that is not there is undefined behaviour.

The driver's queues have a context and a reference count. `TracksQueues` says that the lists are the
live queues, once each. `tracksQueues_iff` says of every run exactly which calls keep it so: a
creation by one of the three entry points that push has to make a new queue, one by
`clCreatePerfCountersCommandQueueINTEL` must not, and the erasure and the last release have to go
together.
-/

set_option autoImplicit false

namespace CLIntercept.Track.Queues

open CLIntercept.Lib

/-! ## The layer -/

/-- `m_QueueNumber`, `m_QueueNumberMap` and `m_ContextQueuesMap`. -/
structure QueueMaps where
  queueNumber : Nat := 0
  queueNumberMap : Handle → Option Nat := fun _ => none
  contextQueuesMap : Handle → List Handle := fun _ => []

def addQueue (context queue : Handle) (q : QueueMaps) : QueueMaps :=
  if queue = null then q
  else
    { queueNumberMap :=
        Function.update q.queueNumberMap queue (some ((q.queueNumber + 1) % uintModulus))
      queueNumber := (q.queueNumber + 1) % uintModulus
      contextQueuesMap :=
        Function.update q.contextQueuesMap context (q.contextQueuesMap context ++ [queue]) }

/-- `refCount` and `context` are the answers to the queries, 0 and `none` where they fail. The
second result says whether `end()` is erased. -/
def checkRemoveQueue (queue : Handle) (refCount : Nat) (context : Option Handle) (q : QueueMaps) :
    QueueMaps × Bool :=
  if refCount = 1 then
    let q := { q with queueNumberMap := Function.update q.queueNumberMap queue none }
    match context with
    | some context =>
      if context = null then (q, false)
      else
        let queues := q.contextQueuesMap context
        ({ q with
            contextQueuesMap := Function.update q.contextQueuesMap context (queues.erase queue) },
          !queues.contains queue)
    | none => (q, false)
  else (q, false)

/-- The queues that `clFinish` is called on, and the last error. -/
def finishAll (context : Handle) (clFinish : Handle → Int) (q : QueueMaps) : List Handle × Int :=
  (q.contextQueuesMap context).foldl
    (fun r queue =>
      (r.1 ++ [queue], if clFinish queue ≠ clSuccess then clFinish queue else r.2))
    ([], clSuccess)

/-- The entry points that create queues. -/
inductive CreateCall
  | clCreateCommandQueue
  | clCreateCommandQueueWithProperties
  | clCreateCommandQueueWithPropertiesKHR
  | clCreatePerfCountersCommandQueueINTEL
  deriving DecidableEq, Repr

/-- The entry points with `ADD_QUEUE`. -/
def CreateCall.adds : CreateCall → Bool
  | .clCreateCommandQueue | .clCreateCommandQueueWithProperties
  | .clCreateCommandQueueWithPropertiesKHR => true
  | .clCreatePerfCountersCommandQueueINTEL => false

/-- `retVal` is the answer of the last driver call of those that it makes. -/
def CreateCall.apply (config : Config) (c : CreateCall) (context retVal : Handle) (q : QueueMaps) :
    QueueMaps :=
  if c.adds && retVal ≠ null && config.tracksQueues then addQueue context retVal q else q

/-- `REMOVE_QUEUE`, before the driver's release. -/
def clReleaseCommandQueue (config : Config) (queue : Handle) (refCount : Nat)
    (context : Option Handle) (q : QueueMaps) : QueueMaps × Bool :=
  if queue ≠ null && config.tracksQueues then checkRemoveQueue queue refCount context q
  else (q, false)

/-! ## Runs against a driver -/

/-- A live queue. -/
structure QueueObject where
  context : Handle
  refCount : Nat
  deriving DecidableEq, Repr

/-- The maps, whether `end()` was ever erased, and the live queues. -/
structure State where
  queues : QueueMaps := {}
  erasesEnd : Bool := false
  live : Handle → Option QueueObject := fun _ => none

/-- The calls. A release comes with the outcomes of its two queries and of the driver's release. -/
inductive Action
  | create (c : CreateCall) (context retVal : Handle)
  | retain (queue : Handle)
  | release (queue : Handle) (refCountOk contextOk success : Bool)
  deriving DecidableEq, Repr

/-- The answer to the reference count query. -/
def State.refCount (s : State) (queue : Handle) (ok : Bool) : Nat :=
  match s.live queue with
  | some o => if ok then o.refCount else 0
  | none => 0

/-- The answer to the context query. -/
def State.context (s : State) (queue : Handle) (ok : Bool) : Option Handle :=
  match s.live queue with
  | some o => if ok then some o.context else none
  | none => none

section

variable (config : Config)

/-- One call. The driver creates a queue or retains one that is there. Retains are the ones that
succeed. -/
def step (s : State) : Action → State
  | .create c context retVal =>
    { s with
      queues := c.apply config context retVal s.queues
      live := if retVal = null then s.live else
        Function.update s.live retVal (match s.live retVal with
          | some o => some { o with refCount := o.refCount + 1 }
          | none => some { context := context, refCount := 1 }) }
  | .retain queue =>
    { s with
      live := Function.update s.live queue
        ((s.live queue).map fun o => { o with refCount := o.refCount + 1 }) }
  | .release queue refCountOk contextOk success =>
    let r := clReleaseCommandQueue config queue (s.refCount queue refCountOk)
      (s.context queue contextOk) s.queues
    { queues := r.1
      erasesEnd := s.erasesEnd || r.2
      live := if success then
          Function.update s.live queue ((s.live queue).bind fun o =>
            if o.refCount ≤ 1 then none else some { o with refCount := o.refCount - 1 })
        else s.live }

/-- A queue that is there is handed out again in its own context, and contexts are not null. -/
def legal (s : State) : Action → Prop
  | .create _ context retVal =>
    retVal ≠ null → context ≠ null ∧ ∀ o, s.live retVal = some o → o.context = context
  | .retain _ | .release _ _ _ _ => True

def system : System State Action where
  step := step config
  legal := legal

end

/-- How often a queue belongs into the list of a context. -/
def State.held (s : State) (context queue : Handle) : Nat :=
  match s.live queue with
  | some o => if o.context = context then 1 else 0
  | none => 0

/-- **The property**: the list of each context has its live queues once and nothing else, erasing
has always found its element, and finishing a context finishes its live queues. -/
structure TracksQueues (s : State) : Prop where
  lists : ∀ context queue, (s.queues.contextQueuesMap context).count queue = s.held context queue
  found : s.erasesEnd = false
  finishes : ∀ context clFinish queue,
    (finishAll context clFinish s.queues).1.count queue = s.held context queue

/-- What the driver has, in any run. -/
def DriverInv (s : State) : Prop :=
  ∀ queue o, s.live queue = some o → queue ≠ null ∧ o.context ≠ null ∧ 1 ≤ o.refCount

/-! ## Finishing -/

theorem finishAll_eq (context : Handle) (clFinish : Handle → Int) (q : QueueMaps) :
    (finishAll context clFinish q).1 = q.contextQueuesMap context := by
  have hloop : ∀ (queues front : List Handle) (errorCode : Int),
      (queues.foldl (fun (r : List Handle × Int) queue =>
        (r.1 ++ [queue], if clFinish queue ≠ clSuccess then clFinish queue else r.2))
        (front, errorCode)).1 = front ++ queues := by
    intro queues
    induction queues with
    | nil => intro front errorCode; exact (List.append_nil front).symm
    | cons queue queues ih =>
      intro front errorCode
      rw [List.foldl_cons, ih, List.append_assoc]
      rfl
  exact hloop _ [] clSuccess

/-- The lists are what is finished. -/
theorem tracksQueues_iff_lists {s : State} :
    TracksQueues s ↔ (∀ context queue,
      (s.queues.contextQueuesMap context).count queue = s.held context queue) ∧
        s.erasesEnd = false := by
  refine ⟨fun h => ⟨h.lists, h.found⟩, fun h => ⟨h.1, h.2, fun context clFinish queue => ?_⟩⟩
  rw [finishAll_eq]
  exact h.1 context queue

/-! ## One step -/

/-- Where each live queue belongs after an update of one. -/
theorem held_update (s : State) (queue : Handle) (o : Option QueueObject) (queues : QueueMaps)
    (erasesEnd : Bool) (context queue' : Handle) :
    State.held { queues := queues, erasesEnd := erasesEnd
                 live := Function.update s.live queue o } context queue' =
      if queue' = queue then
        match o with
        | some o => if o.context = context then 1 else 0
        | none => 0
      else s.held context queue' := by
  unfold State.held
  by_cases h : queue' = queue
  · subst h
    simp
  · simp [h]

theorem DriverInv.update {s s' : State} (h : DriverInv s) {queue : Handle} {o : Option QueueObject}
    (hlive : s'.live = Function.update s.live queue o)
    (ho : ∀ o', o = some o' → queue ≠ null ∧ o'.context ≠ null ∧ 1 ≤ o'.refCount) :
    DriverInv s' := by
  intro queue' o' hq
  rw [hlive] at hq
  by_cases heq : queue' = queue
  · subst heq
    rw [Function.update_self] at hq
    exact ho o' hq
  · rw [Function.update_of_ne heq] at hq
    exact h queue' o' hq

theorem driverInv_step (config : Config) (s : State) (a : Action) (h : DriverInv s)
    (hl : legal s a) : DriverInv (step config s a) := by
  cases a with
  | create c context retVal =>
    by_cases hnull : retVal = null
    · have hlive : (step config s (.create c context retVal)).live = s.live := if_pos hnull
      exact fun queue o ho => h queue o (hlive ▸ ho)
    · refine h.update (if_neg hnull) fun o' ho' => ⟨hnull, ?_⟩
      cases hold : s.live retVal with
      | none =>
        rw [hold] at ho'
        cases ho'
        exact ⟨(hl hnull).1, Nat.le_refl 1⟩
      | some o =>
        rw [hold] at ho'
        cases ho'
        exact ⟨(h retVal o hold).2.1, Nat.le_add_left 1 _⟩
  | retain queue =>
    refine h.update rfl fun o' ho' => ?_
    obtain ⟨o, ho, rfl⟩ := Option.map_eq_some_iff.mp ho'
    exact ⟨(h queue o ho).1, (h queue o ho).2.1, Nat.le_add_left 1 _⟩
  | release queue refCountOk contextOk success =>
    cases success with
    | false => exact h
    | true =>
      refine h.update rfl fun o' ho' => ?_
      obtain ⟨o, ho, hrest⟩ := Option.bind_eq_some_iff.mp ho'
      split at hrest
      · exact nomatch hrest
      · next hcount =>
        cases hrest
        exact ⟨(h queue o ho).1, (h queue o ho).2.1,
          Nat.le_sub_one_of_lt (Nat.lt_of_not_le hcount)⟩

/-- The lists after a push. -/
theorem count_addQueue (context : Handle) {queue : Handle} (hne : queue ≠ null) (q : QueueMaps)
    (context' queue' : Handle) :
    ((addQueue context queue q).contextQueuesMap context').count queue' =
      (q.contextQueuesMap context').count queue' +
        if context' = context ∧ queue' = queue then 1 else 0 := by
  unfold addQueue
  rw [if_neg hne]
  by_cases hc : context' = context
  · subst hc
    by_cases hq : queue' = queue
    · simp [hq]
    · simp [hq, Ne.symm hq]
  · simp [hc]

/-- The driver after a creation or one more retain. -/
def added (s : State) (context queue : Handle) : Option QueueObject :=
  match s.live queue with
  | some o => some { o with refCount := o.refCount + 1 }
  | none => some { context := context, refCount := 1 }

/-- A push leaves each live queue in its list once exactly if the queue is new. -/
theorem lists_push_iff {s : State}
    (hlists : ∀ context queue, (s.queues.contextQueuesMap context).count queue =
      s.held context queue) {context queue : Handle}
    (hcontext : ∀ o, s.live queue = some o → o.context = context) (queues : QueueMaps)
    (erasesEnd : Bool) :
    (∀ context' queue', (s.queues.contextQueuesMap context').count queue' +
        (if context' = context ∧ queue' = queue then 1 else 0) =
      State.held { queues := queues, erasesEnd := erasesEnd
                   live := Function.update s.live queue (added s context queue) }
        context' queue') ↔ s.live queue = none := by
  simp only [held_update, hlists]
  constructor
  · intro h
    cases hlive : s.live queue with
    | none => rfl
    | some o =>
      have hnew := h context queue
      simp only [State.held, added, hlive, hcontext o hlive, if_true, and_self] at hnew
      omega
  · intro hnew context' queue'
    by_cases hq : queue' = queue
    · subst hq
      by_cases hc : context' = context <;>
        simp [State.held, added, hnew, hc, eq_comm (a := context)]
    · simp [hq]

/-- Without a push the queue has to be there already. -/
theorem lists_nopush_iff {s : State}
    (hlists : ∀ context queue, (s.queues.contextQueuesMap context).count queue =
      s.held context queue) (context queue : Handle) (queues : QueueMaps) (erasesEnd : Bool) :
    (∀ context' queue', (s.queues.contextQueuesMap context').count queue' =
      State.held { queues := queues, erasesEnd := erasesEnd
                   live := Function.update s.live queue (added s context queue) }
        context' queue') ↔ (s.live queue).isSome := by
  simp only [held_update, hlists]
  constructor
  · intro h
    cases hlive : s.live queue with
    | some o => rfl
    | none =>
      have hnew := h context queue
      simp [State.held, added, hlive] at hnew
  · intro hsome context' queue'
    obtain ⟨o, ho⟩ := Option.isSome_iff_exists.mp hsome
    by_cases hq : queue' = queue
    · subst hq
      simp [State.held, added, ho]
    · simp [hq]

/-- **A creation**: the entry points that push need a queue that is new, and the other one that is
there already. -/
theorem lists_create_iff {config : Config} (htracks : config.tracksQueues = true) {s : State}
    (h : TracksQueues s) (c : CreateCall) {context retVal : Handle}
    (hl : legal s (.create c context retVal)) :
    TracksQueues (step config s (.create c context retVal)) ↔
      (retVal ≠ null → if c.adds then s.live retVal = none else (s.live retVal).isSome) := by
  rw [tracksQueues_iff_lists]
  by_cases hnull : retVal = null
  · refine iff_of_true ?_ fun hne => absurd hnull hne
    simpa [step, CreateCall.apply, hnull, State.held] using And.intro h.lists h.found
  · simp only [step, CreateCall.apply, hnull, htracks, ne_eq, not_false_eq_true, decide_true,
      Bool.and_true, if_false, forall_const, h.found, and_true]
    cases hadds : c.adds with
    | true =>
      simp only [if_true, count_addQueue context hnull]
      exact lists_push_iff h.lists (hl hnull).2 _ _
    | false =>
      simp only [Bool.false_eq_true, if_false]
      exact lists_nopush_iff h.lists context retVal _ _

/-- The condition on a release: of a last reference, it is erased from its list, with both queries
answered, exactly if the driver releases it. -/
def ReleaseOk (s : State) (queue : Handle) (refCountOk contextOk success : Bool) : Prop :=
  ∀ o, s.live queue = some o → o.refCount = 1 →
    (success = true ↔ refCountOk = true ∧ contextOk = true)

/-- The lists after an erasure. -/
theorem count_checkRemoveQueue {context : Handle} (hne : context ≠ null) (queue : Handle)
    (q : QueueMaps) (context' queue' : Handle) :
    ((checkRemoveQueue queue 1 (some context) q).1.contextQueuesMap context').count queue' =
      (q.contextQueuesMap context').count queue' -
        if context' = context ∧ queue' = queue then 1 else 0 := by
  simp only [checkRemoveQueue, if_true, if_neg hne]
  by_cases hc : context' = context
  · subst hc
    rw [Function.update_self, List.count_erase]
    simp only [beq_iff_eq, true_and, eq_comm (a := queue)]
  · simp [hc]

/-- Only a count of 1 and the context take a queue out of its list. -/
theorem clRelease_kept (config : Config) (queue : Handle) {refCount : Nat}
    (context : Option Handle) (q : QueueMaps) (h : refCount = 1 → context = none) :
    (clReleaseCommandQueue config queue refCount context q).1.contextQueuesMap =
        q.contextQueuesMap ∧
      (clReleaseCommandQueue config queue refCount context q).2 = false := by
  unfold clReleaseCommandQueue checkRemoveQueue
  split
  · split
    · next hone => rw [h hone]; exact ⟨rfl, rfl⟩
    · exact ⟨rfl, rfl⟩
  · exact ⟨rfl, rfl⟩

/-- Releasing one of several references leaves the lists and the queue. -/
theorem lists_release_of_refCount_ne_one {config : Config} {s : State} (h : TracksQueues s)
    {queue : Handle} {o : QueueObject} (ho : s.live queue = some o) (hcount : 1 < o.refCount)
    (refCountOk contextOk success : Bool) :
    TracksQueues (step config s (.release queue refCountOk contextOk success)) := by
  have hne : s.refCount queue refCountOk ≠ 1 := by
    cases refCountOk <;> simp only [State.refCount, ho] <;> simp
    omega
  obtain ⟨hlists, hfound⟩ := clRelease_kept config queue (s.context queue contextOk) s.queues
    fun hone => absurd hone hne
  rw [tracksQueues_iff_lists]
  simp only [step, hlists, hfound, h.found, Bool.or_false, and_true]
  intro context queue'
  rw [h.lists context queue']
  cases success with
  | false => rfl
  | true =>
    simp only [if_true, held_update, ho, Option.bind_some, Nat.not_le.mpr hcount, if_false]
    split
    · next hq => simp [State.held, hq, ho]
    · rfl

/-- Of a last reference, with both queries answered, the queue is erased from its list. -/
theorem lists_release_erased_iff {config : Config} (htracks : config.tracksQueues = true)
    {s : State} (hd : DriverInv s) (h : TracksQueues s) {queue : Handle} {o : QueueObject}
    (hlive : s.live queue = some o) (hlast : o.refCount = 1) (success : Bool) :
    TracksQueues (step config s (.release queue true true success)) ↔ success = true := by
  obtain ⟨hqueue, hcontext, _⟩ := hd queue o hlive
  have hheld : ∀ context, s.held context queue = if o.context = context then 1 else 0 := by
    intro context
    simp only [State.held, hlive]
  have hmem : queue ∈ s.queues.contextQueuesMap o.context := by
    apply List.count_pos_iff.mp
    rw [h.lists, hheld, if_pos rfl]
    exact Nat.one_pos
  have hcall : clReleaseCommandQueue config queue (s.refCount queue true)
      (s.context queue true) s.queues =
        ((checkRemoveQueue queue 1 (some o.context) s.queues).1, false) := by
    simp [clReleaseCommandQueue, htracks, hqueue, State.refCount, State.context, hlive, hlast,
      checkRemoveQueue, hcontext, hmem]
  rw [tracksQueues_iff_lists]
  simp only [step, hcall, h.found, Bool.or_false, and_true]
  constructor
  · intro h'
    by_contra hfail
    have hafter := h' o.context queue
    rw [count_checkRemoveQueue hcontext, h.lists, if_neg hfail, hheld] at hafter
    simp [State.held, hlive] at hafter
  · intro hsuccess context queue'
    simp only [hsuccess, if_true, hlive, Option.bind_some, hlast, Nat.le_refl]
    rw [count_checkRemoveQueue hcontext, h.lists, held_update]
    by_cases hq : queue' = queue
    · subst hq
      by_cases hc : context = o.context
      · simp [hc, hheld]
      · simp [hc, hheld, Ne.symm hc]
    · simp [hq]

/-- Where a query fails, the queue stays in its list. -/
theorem lists_release_kept_iff {config : Config} {s : State} (h : TracksQueues s) {queue : Handle}
    {o : QueueObject} (hlive : s.live queue = some o) (hlast : o.refCount = 1)
    {refCountOk contextOk : Bool} (hfails : ¬ (refCountOk = true ∧ contextOk = true))
    (success : Bool) :
    TracksQueues (step config s (.release queue refCountOk contextOk success)) ↔
      ¬ success = true := by
  obtain ⟨hlists, hfound⟩ : (clReleaseCommandQueue config queue (s.refCount queue refCountOk)
      (s.context queue contextOk) s.queues).1.contextQueuesMap = s.queues.contextQueuesMap ∧
      (clReleaseCommandQueue config queue (s.refCount queue refCountOk)
        (s.context queue contextOk) s.queues).2 = false := by
    apply clRelease_kept
    intro hone
    cases refCountOk with
    | false => exact absurd hone (by simp [State.refCount, hlive])
    | true =>
      cases contextOk with
      | false => simp [State.context, hlive]
      | true => exact absurd ⟨rfl, rfl⟩ hfails
  rw [tracksQueues_iff_lists]
  simp only [step, hlists, hfound, h.found, Bool.or_false, and_true]
  constructor
  · intro h' hsuccess
    have hafter := h' o.context queue
    simp only [hsuccess, if_true, hlive, Option.bind_some, hlast, Nat.le_refl] at hafter
    rw [h.lists, held_update] at hafter
    simp [State.held, hlive] at hafter
  · intro hfail context queue'
    rw [if_neg hfail]
    exact h.lists context queue'

/-- **A release.** -/
theorem lists_release_iff {config : Config} (htracks : config.tracksQueues = true) {s : State}
    (hd : DriverInv s) (h : TracksQueues s) (queue : Handle)
    (refCountOk contextOk success : Bool) :
    TracksQueues (step config s (.release queue refCountOk contextOk success)) ↔
      ReleaseOk s queue refCountOk contextOk success := by
  cases hlive : s.live queue with
  | none =>
    have hsame : Function.update s.live queue none = s.live :=
      Function.update_eq_self_iff.mpr hlive.symm
    refine iff_of_true ?_ fun o ho => nomatch hlive.symm.trans ho
    have hlists := h.lists
    rw [tracksQueues_iff_lists]
    cases success <;>
      simpa [step, clReleaseCommandQueue, checkRemoveQueue, State.refCount, hlive, hsame, h.found,
        State.held] using hlists
  | some o =>
    by_cases hlast : o.refCount = 1
    · have hcond : ReleaseOk s queue refCountOk contextOk success ↔
          (success = true ↔ refCountOk = true ∧ contextOk = true) :=
        ⟨fun hok => hok o hlive hlast, fun hok o' ho' _ => hok⟩
      rw [hcond]
      by_cases hboth : refCountOk = true ∧ contextOk = true
      · obtain ⟨rfl, rfl⟩ := hboth
        rw [lists_release_erased_iff htracks hd h hlive hlast]
        simp only [and_self, iff_true]
      · rw [lists_release_kept_iff h hlive hlast hboth]
        simp only [hboth, iff_false]
    · have hmany : 1 < o.refCount := Nat.lt_of_le_of_ne (hd queue o hlive).2.2 (Ne.symm hlast)
      refine iff_of_true
        (lists_release_of_refCount_ne_one h hlive hmany refCountOk contextOk success) ?_
      intro o' ho' hone
      rw [hlive, Option.some.injEq] at ho'
      exact absurd (ho' ▸ hone) hlast

/-! ## Runs -/

/-- **The condition on a call.** An entry point that pushes makes a queue that is new, one that does
not hands out a queue that is there. The release of a last reference succeeds exactly if both
queries before it do. -/
def CallOk (s : State) : Action → Prop
  | .create c _ retVal =>
    retVal ≠ null → if c.adds then s.live retVal = none else (s.live retVal).isSome
  | .retain _ => True
  | .release queue refCountOk contextOk success => ReleaseOk s queue refCountOk contextOk success

/-- **Exactly when a call keeps the lists right.** -/
theorem tracksQueues_step_iff {config : Config} (htracks : config.tracksQueues = true) {s : State}
    (hd : DriverInv s) (h : TracksQueues s) (a : Action) (hl : legal s a) :
    TracksQueues (step config s a) ↔ CallOk s a := by
  cases a with
  | create c context retVal => exact lists_create_iff htracks h c hl
  | release queue refCountOk contextOk success =>
    exact lists_release_iff htracks hd h queue refCountOk contextOk success
  | retain queue =>
    refine iff_of_true (tracksQueues_iff_lists.mpr ⟨fun context queue' => ?_, h.found⟩) trivial
    rw [step, held_update]
    split
    · next hq =>
      rw [hq, h.lists context queue, State.held]
      cases s.live queue <;> rfl
    · exact h.lists context queue'

theorem tracksQueues_initial : TracksQueues {} :=
  tracksQueues_iff_lists.mpr ⟨fun _ _ => rfl, rfl⟩

/-- **Exactly when the lists are the live queues**: in runs in which every call meets its condition,
and in no others. -/
theorem tracksQueues_iff {config : Config} (htracks : config.tracksQueues = true)
    {run : List Action} (hlegal : (system config).Legal {} run) :
    (system config).Always TracksQueues {} run ↔ (system config).Each CallOk {} run :=
  System.always_iff_each (I := DriverInv) (driverInv_step config)
    (fun _ a hd h hl => tracksQueues_step_iff htracks hd h a hl)
    (fun _ _ h => nomatch h) tracksQueues_initial hlegal

/-- The controls of the runs here. -/
def chromeTiming : Config := { chromePerformanceTiming := true }

/-- A queue that is retained and released twice, and another one under its handle. -/
def reuse : List Action :=
  [.create .clCreateCommandQueue 1 16, .retain 16, .release 16 true true true,
    .release 16 true true true, .create .clCreateCommandQueueWithProperties 1 16]

theorem legal_reuse : (system chromeTiming).Legal {} reuse :=
  ⟨fun _ => ⟨Nat.one_ne_zero, fun _ h => (nomatch h)⟩, trivial, trivial, trivial,
    fun _ => ⟨Nat.one_ne_zero, fun _ h => (nomatch h)⟩, trivial⟩

theorem callOk_reuse : (system chromeTiming).Each CallOk {} reuse := by
  refine ⟨fun _ => rfl, trivial, fun o ho hone => ?_, fun _ _ _ => ?_, fun _ => rfl, trivial⟩
  · cases ho
    exact absurd hone (by decide)
  · exact iff_of_true rfl ⟨rfl, rfl⟩

theorem tracksQueues_reuse : (system chromeTiming).Always TracksQueues {} reuse :=
  (tracksQueues_iff rfl legal_reuse).mpr callOk_reuse

/-- A queue with performance counters. -/
def perfCounters : List Action :=
  [.create .clCreatePerfCountersCommandQueueINTEL 1 16, .release 16 true true true]

/-- **A queue with performance counters is not in its list**, and its last release erases `end()`. -/
theorem perfCounters_erasesEnd : (system chromeTiming).Legal {} perfCounters ∧
    ¬ (system chromeTiming).Always TracksQueues {} perfCounters ∧
    ((system chromeTiming).exec {} perfCounters).erasesEnd = true := by
  refine ⟨⟨fun _ => ⟨Nat.one_ne_zero, fun _ h => (nomatch h)⟩, trivial, trivial⟩, fun h => ?_,
    by decide⟩
  exact absurd h.last.found (by decide)

end CLIntercept.Track.Queues
