import CLIntercept.Callback.Substitution

/-!
# Event callbacks

With `EventCallbackLogging` the record of an event's callback belongs to the call: the driver calls a
registered callback once, and `eventCallbackCaller` frees the record after that. If the driver
refuses the registration `clSetEventCallback` frees it. The driver may call back before
`clSetEventCallback` has returned, so a thread that still has the pointer need not own the record
any more; who owns it is what `Holds` says.

`eventCallbacks_sound` is about every interleaving of threads that register with the driver:
callbacks reach the application as they would without the layer, no freed record is read, none is
freed twice, and once no thread is registering and no callback is awaited every record is freed.
They are in the log only if calls are logged, too (`CallLogging`).
-/

set_option autoImplicit false

namespace CLIntercept.Callback

open CLIntercept.Lib

/-- What the controls mean for event callbacks. `eventCallback` does nothing: a call is logged as any
other is, by `CALL_LOGGING_ENTER`. -/
def CallbackConfig.eventMode (config : CallbackConfig) : Mode where
  logging := config.eventCallbackLogging
  nullCallback := false
  logs := config.callLogging && !config.suppressLogging

/-! ## State -/

/-- `event` and `status`, as a callback gets them. -/
structure EventStatus where
  event : Handle
  status : Int
  deriving DecidableEq, Repr

/-- A thread inside `clSetEventCallback`: what the application asked for, `pfn_notify` and
`user_data` as the driver gets them, `pEventCallbackInfo`, and `retVal` once there is one. -/
structure Setting where
  event : Handle
  asked : Registration
  callback : Registered
  info : Option Nat
  retVal : Option Int := none
  deriving DecidableEq, Repr

/-- A callback that the driver has still to call. -/
structure Awaited where
  event : Handle
  asked : Registration
  callback : Registered
  deriving DecidableEq, Repr

/-- The records, the threads, the driver's callbacks and what was called. -/
structure EventState where
  heap : Heap Registration := {}
  threads : OrdMap Nat Setting := .empty
  awaited : OrdMap Nat Awaited := .empty
  calls : Calls EventStatus := {}

/-! ## Steps -/

/-- `EVENT_CALLBACK_OVERRIDE_CLEANUP`. -/
def eventCallbackOverrideCleanup (config : CallbackConfig) (retVal : Int) (info : Option Nat)
    (heap : Heap Registration) : Heap Registration :=
  if config.eventCallbackLogging ∧ retVal ≠ clSuccess then
    match info with
    | some info => heap.free info
    | none => heap
  else heap

/-- What is left of the records after a call: `eventCallbackCaller` frees its own. -/
def afterCall (callback : Registered) (heap : Heap Registration) : Heap Registration :=
  match callback with
  | .application _ => heap
  | .caller info => heap.free info

/-- Threads enter and leave `clSetEventCallback`; the driver answers them, under a number of its own
where it accepts, and calls what it has accepted. -/
inductive EventAction
  | enter (thread : Nat) (event : Handle) (asked : Registration)
  | driver (thread : Nat) (retVal : Int) (number : Nat)
  | leave (thread : Nat)
  | call (number : Nat) (status : Int)

def eventStep (config : CallbackConfig) (s : EventState) : EventAction → EventState
  | .enter thread event asked =>
    let i := install config.eventMode.logging (passed config.eventMode asked) s.heap
    { s with
      heap := i.heap
      threads := s.threads.insert thread
        { event, asked, callback := i.callback, info := i.info } }
  | .driver thread retVal number => match s.threads.get? thread with
    | none => s
    | some c => { s with
        threads := s.threads.insert thread { c with retVal := some retVal }
        awaited := if retVal = clSuccess then s.awaited.insert number ⟨c.event, c.asked, c.callback⟩
          else s.awaited }
  | .leave thread => match s.threads.get? thread with
    | none => s
    | some c => { s with
        heap := eventCallbackOverrideCleanup config (c.retVal.getD clSuccess) c.info s.heap
        threads := s.threads.erase thread }
  | .call number status => match s.awaited.get? number with
    | none => s
    | some w => { s with
        calls := s.calls.invoke config.eventMode s.heap w.asked w.callback ⟨w.event, status⟩
        heap := afterCall w.callback s.heap
        awaited := s.awaited.erase number }

/-- A thread is inside one call at a time, the driver answers it once, and numbers what it has
accepted apart. -/
def EventAction.Legal (s : EventState) : EventAction → Prop
  | .enter thread _ _ => s.threads.get? thread = none
  | .driver thread _ number => (s.threads.get? thread).any (·.retVal.isNone) ∧
      s.awaited.get? number = none
  | .leave thread => (s.threads.get? thread).any (·.retVal.isSome)
  | .call number _ => (s.awaited.get? number).isSome

instance decidableEventAction (s : EventState) (a : EventAction) : Decidable (a.Legal s) := by
  cases a <;> unfold EventAction.Legal <;> infer_instance

def eventSystem (config : CallbackConfig) : System EventState EventAction where
  step := eventStep config
  legal := EventAction.Legal

instance decidableEventSystem (config : CallbackConfig) (s : EventState) (a : EventAction) :
    Decidable ((eventSystem config).legal s a) :=
  inferInstanceAs (Decidable (a.Legal s))

/-! ## The invariant -/

/-- A thread owns its record until the driver has accepted it. -/
def Setting.owns (c : Setting) : Option Nat := if c.retVal = some clSuccess then none else c.info

/-- What is awaited owns the record that the driver has as user data. -/
def Awaited.owns (w : Awaited) : Option Nat :=
  match w.callback with
  | .application _ => none
  | .caller info => some info

/-- The records that threads and the driver own. -/
def EventState.held (s : EventState) : Multiset Nat :=
  s.threads.contents (fun c => (c.owns.toList : Multiset Nat)) +
    s.awaited.contents fun w => (w.owns.toList : Multiset Nat)

/-- What a run keeps of records. -/
structure EventsKept (config : CallbackConfig) (s : EventState) : Prop where
  owned : s.heap.Owned s.held
  thread : ∀ t c, s.threads.get? t = some c →
    Stands config.eventMode s.heap c.asked c.callback c.info
  awaited : ∀ n w, s.awaited.get? n = some w →
    Stands config.eventMode s.heap w.asked w.callback w.owns

/-- **What event callbacks come to**: they are told, records are freed once, and those that are left
are owned by a thread that is registering or by a callback that is awaited. -/
structure EventsSound (config : CallbackConfig) (s : EventState) : Prop where
  told : Told config.eventMode s.calls
  freedOnce : s.heap.freed.Nodup
  left : ∀ i, i < s.heap.next ∧ i ∉ s.heap.freed ↔
    (∃ t c, s.threads.get? t = some c ∧ c.retVal ≠ some clSuccess ∧ c.info = some i) ∨
      ∃ n w, s.awaited.get? n = some w ∧ w.callback = .caller i

section

variable {config : CallbackConfig} {s : EventState}

theorem Setting.owns_eq_some {c : Setting} {i : Nat} :
    c.owns = some i ↔ c.retVal ≠ some clSuccess ∧ c.info = some i := by
  unfold Setting.owns
  split
  · next h => simp [h]
  · next h => simp [h]

theorem Awaited.owns_eq_some {w : Awaited} {i : Nat} : w.owns = some i ↔ w.callback = .caller i := by
  unfold Awaited.owns
  cases w.callback with simp

theorem EventState.mem_held {i : Nat} : i ∈ s.held ↔
    (∃ t c, s.threads.get? t = some c ∧ c.retVal ≠ some clSuccess ∧ c.info = some i) ∨
      ∃ n w, s.awaited.get? n = some w ∧ w.callback = .caller i := by
  simp only [EventState.held, Multiset.mem_add, OrdMap.mem_contents, Multiset.mem_coe,
    Option.mem_toList, Setting.owns_eq_some, Awaited.owns_eq_some]

/-! ## What a step keeps -/

/-- A thread that begins has registered nothing yet. -/
theorem EventsKept.enter (h : EventsKept config s) {t : Nat} {event : Handle} {asked : Registration}
    (hnew : s.threads.get? t = none) :
    EventsKept config (eventStep config s (.enter t event asked)) := by
  refine ⟨?_, ?_, fun n w hget => (h.awaited n w hget).install _⟩
  · show Heap.Owned _ (EventState.held _)
    simp only [EventState.held, eventStep]
    rw [OrdMap.contents_insert_new hnew, add_assoc]
    exact owned_install h.owned _ _
  · intro t' c hget
    simp only [eventStep, OrdMap.get?_insert] at hget ⊢
    split at hget
    · obtain rfl := Option.some.inj hget
      exact stands_install asked s.heap
    · exact (h.thread t' c hget).install _

/-- What the driver gets has the record of the thread. -/
theorem owns_awaited {heap : Heap Registration} {asked : Registration} {callback : Registered}
    {info : Option Nat} (h : Stands config.eventMode heap asked callback info) (event : Handle) :
    Awaited.owns ⟨event, asked, callback⟩ = info := by
  unfold Stands at h
  split at h
  · obtain ⟨i, rfl, rfl, -⟩ := h
    rfl
  · obtain ⟨rfl, rfl⟩ := h
    rfl

/-- **What the driver accepts is its own from then on.** -/
theorem held_driver {t : Nat} {c : Setting} (hget : s.threads.get? t = some c)
    (hstands : Stands config.eventMode s.heap c.asked c.callback c.info) (hnone : c.retVal = none)
    {number : Nat} (hnew : s.awaited.get? number = none) (retVal : Int) :
    EventState.held { s with
      threads := s.threads.insert t { c with retVal := some retVal }
      awaited := if retVal = clSuccess then s.awaited.insert number ⟨c.event, c.asked, c.callback⟩
        else s.awaited } = s.held := by
  have hthread := OrdMap.contents_replace hget { c with retVal := some retVal }
    fun c => (c.owns.toList : Multiset Nat)
  have howns : c.owns = c.info := by simp [Setting.owns, hnone]
  simp only [EventState.held]
  by_cases hsuccess : retVal = clSuccess
  · have hnone' : Setting.owns { c with retVal := some retVal } = none := by
      simp [Setting.owns, hsuccess]
    rw [if_pos hsuccess, OrdMap.contents_insert_new hnew, owns_awaited hstands, ← add_assoc]
    rw [hnone', howns, Option.toList_none, Multiset.coe_nil, zero_add] at hthread
    rw [hthread]
  · have hsame : Setting.owns { c with retVal := some retVal } = c.owns := by
      simp [Setting.owns, hsuccess, hnone]
    rw [hsame, add_comm, add_right_inj] at hthread
    rw [if_neg hsuccess, hthread]

/-- A registration that the driver takes is awaited from then on. -/
theorem EventsKept.driver (h : EventsKept config s) {t : Nat} {retVal : Int} {number : Nat}
    {c : Setting} (hget : s.threads.get? t = some c) (hnone : c.retVal = none)
    (hnew : s.awaited.get? number = none) :
    EventsKept config (eventStep config s (.driver t retVal number)) := by
  have hstands := h.thread t c hget
  simp only [eventStep, hget]
  refine ⟨?_, ?_, ?_⟩
  · rw [held_driver hget hstands hnone hnew]
    exact h.owned
  · intro t' c' hthread
    rw [OrdMap.get?_insert] at hthread
    split at hthread
    · obtain rfl := Option.some.inj hthread
      exact hstands
    · exact h.thread t' c' hthread
  · intro n w hw
    split at hw
    · rw [OrdMap.get?_insert] at hw
      split at hw
      · obtain rfl := Option.some.inj hw
        rw [owns_awaited hstands]
        exact hstands
      · exact h.awaited n w hw
    · exact h.awaited n w hw

/-- **What a thread still owns is freed when it leaves.** -/
theorem EventsKept.leave (h : EventsKept config s) {t : Nat} {c : Setting} {retVal : Int}
    (hget : s.threads.get? t = some c) (hret : c.retVal = some retVal) :
    EventsKept config (eventStep config s (.leave t)) := by
  have howned := h.owned
  rw [EventState.held, OrdMap.contents_of_get? hget, add_assoc] at howned
  have hstands := h.thread t c hget
  have hheap : Heap.Owned (eventCallbackOverrideCleanup config retVal c.info s.heap)
        ((s.threads.erase t).contents (fun c => (c.owns.toList : Multiset Nat)) +
          s.awaited.contents fun w => (w.owns.toList : Multiset Nat)) ∧
      (eventCallbackOverrideCleanup config retVal c.info s.heap).made = s.heap.made := by
    unfold eventCallbackOverrideCleanup
    by_cases hsuccess : retVal = clSuccess
    · simpa [hsuccess, Setting.owns, hret] using howned
    · cases hinfo : c.info with
      | none => simpa [Setting.owns, hinfo] using howned
      | some i =>
        have hlog : config.eventCallbackLogging = true := by
          by_contra hlog
          exact Option.some_ne_none i (hinfo.symm.trans (hstands.info_eq_none hlog))
        have howns : c.owns = some i := by simp [Setting.owns, hret, hsuccess, hinfo]
        rw [howns] at howned
        rw [if_pos ⟨hlog, hsuccess⟩]
        exact ⟨howned.free, rfl⟩
  simp only [eventStep, hget, hret, Option.getD_some]
  refine ⟨hheap.1, fun t' c' hthread => ?_, fun n w hw => ?_⟩
  · have := h.thread t' c' (OrdMap.get?_of_erase hthread)
    unfold Stands at this ⊢
    rw [hheap.2]
    exact this
  · have := h.awaited n w hw
    unfold Stands at this ⊢
    rw [hheap.2]
    exact this

/-- **A callback frees its record**, and nobody else has it. -/
theorem EventsKept.call (h : EventsKept config s) {number : Nat} {status : Int} {w : Awaited}
    (hget : s.awaited.get? number = some w) :
    EventsKept config (eventStep config s (.call number status)) := by
  have howned := h.owned
  rw [EventState.held, OrdMap.contents_of_get? hget, add_left_comm] at howned
  simp only [eventStep, hget]
  cases hcallback : w.callback with
  | application r =>
    refine ⟨?_, h.thread, fun n w' hw => h.awaited n w' (OrdMap.get?_of_erase hw)⟩
    simpa [EventState.held, Awaited.owns, hcallback, afterCall] using howned
  | caller i =>
    refine ⟨?_, h.thread, fun n w' hw => h.awaited n w' (OrdMap.get?_of_erase hw)⟩
    have howns : w.owns = some i := Awaited.owns_eq_some.mpr hcallback
    rw [howns] at howned
    exact Heap.Owned.free howned

/-- **Every legal step keeps the records of the callbacks.** -/
theorem EventsKept.step (h : EventsKept config s) (a : EventAction) (hl : a.Legal s) :
    EventsKept config (eventStep config s a) := by
  cases a with
  | enter t event asked => exact h.enter hl
  | driver t retVal number =>
    obtain ⟨c, hget, hnone⟩ := (Option.any_eq_true _ _).mp hl.1
    exact h.driver hget (Option.isNone_iff_eq_none.mp hnone) hl.2
  | leave t =>
    obtain ⟨c, hget, hsome⟩ := (Option.any_eq_true _ _).mp hl
    obtain ⟨retVal, hret⟩ := Option.isSome_iff_exists.mp hsome
    exact h.leave hget hret
  | call number status =>
    obtain ⟨w, hget⟩ := Option.isSome_iff_exists.mp hl
    exact h.call hget

/-- What the application is told stays told. -/
theorem eventsTold_step (ht : Told config.eventMode s.calls) (h : EventsKept config s)
    (a : EventAction) (hl : a.Legal s) : Told config.eventMode (eventStep config s a).calls := by
  cases a with
  | enter t event asked => exact ht
  | driver t retVal number =>
    obtain ⟨c, hget, -⟩ := (Option.any_eq_true _ _).mp hl.1
    simp only [eventStep, hget]
    exact ht
  | leave t =>
    obtain ⟨c, hget, -⟩ := (Option.any_eq_true _ _).mp hl
    simp only [eventStep, hget]
    exact ht
  | call number status =>
    obtain ⟨w, hget⟩ := Option.isSome_iff_exists.mp hl
    simp only [eventStep, hget]
    refine ht.invoke (h.awaited number w hget) (fun i hi => h.owned.get? ?_) _
    exact EventState.mem_held.mpr (.inr ⟨number, w, hget, Awaited.owns_eq_some.mp hi⟩)

end

/-! ## Runs -/

/-- **Event callbacks are transparent, and each record is freed once**, in every interleaving of the
threads that register with the calls of the driver. -/
theorem eventCallbacks_sound (config : CallbackConfig) (as : List EventAction)
    (hl : (eventSystem config).Legal {} as) :
    (eventSystem config).Always (EventsSound config) {} as := by
  have hinit : EventsKept config {} :=
    ⟨Heap.owned_empty, fun _ _ h => absurd h (Option.some_ne_none _).symm,
      fun _ _ h => absurd h (Option.some_ne_none _).symm⟩
  have hrun : (eventSystem config).Always
      (fun s => EventsKept config s ∧ Told config.eventMode s.calls) {} as := by
    refine System.always_of_step (fun s a h ha => ?_) ⟨hinit, told_empty _⟩ hl
    exact ⟨h.1.step a ha, eventsTold_step h.2 h.1 a ha⟩
  exact hrun.mono fun s h =>
    ⟨h.2, h.1.owned.nodup_freed, fun _ => h.1.owned.mem_iff.symm.trans EventState.mem_held⟩

/-- The event of the first thread is complete already, so that its callback comes before the call
returns; the driver refuses the second. -/
def completeAlready : List EventAction :=
  [.enter 0 64 ⟨1, 10⟩, .enter 1 65 ⟨2, 20⟩, .driver 0 clSuccess 0, .call 0 0, .driver 1 (-58) 1,
    .leave 1, .leave 0]

theorem eventCallbacks_sound_completeAlready :
    EventsSound { callLogging := true, eventCallbackLogging := true }
      ((eventSystem { callLogging := true, eventCallbackLogging := true }).exec {}
        completeAlready) :=
  (eventCallbacks_sound _ completeAlready (by decide)).last

end CLIntercept.Callback
