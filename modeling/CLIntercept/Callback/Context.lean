import CLIntercept.Callback.Substitution

/-!
# Context callbacks

With `ContextCallbackLogging` the record of a context's callback stays in
`m_ContextCallbackInfoMap` under the context's handle. Nothing removes it when the context is
released; it is freed when a later context gets the same handle.

Several threads create contexts at the same time, so `clCreateContext` is three steps here: what
stands before the driver's call, the call, and what stands behind it. The driver raises a message
on any context that lives, and on one that it is just creating. It gives no handle twice while a
context has it, and an application releases no context that it was not given yet.

`contextCallbacks_sound` is about all runs of these steps: what reaches the application is exactly
what it would get without the layer, no record is read after it was freed, none is freed twice, and
those not freed are the ones in the map and those of creations under way. The log has every message
with `ContextCallbackLogging` unless `SuppressLogging` is set.
-/

set_option autoImplicit false

namespace CLIntercept.Callback

open CLIntercept.Lib

/-- What the controls mean for context callbacks. `contextCallback` hands its message to `log`. -/
def CallbackConfig.contextMode (config : CallbackConfig) : Mode where
  logging := config.contextCallbackLogging
  nullCallback := config.nullContextCallback
  logs := !config.suppressLogging

/-- The message of a context callback. -/
structure Message where
  errinfo : String
  privateInfo : Handle
  cb : Nat
  deriving DecidableEq, Repr

/-! ## State -/

/-- A thread inside `clCreateContext`: what the application asked for, `pfn_notify` and `user_data`
as the driver gets them, `pContextCallbackInfo`, and `retVal` once the driver has answered. -/
structure Creating where
  asked : Registration
  callback : Registered
  info : Option Nat
  retVal : Option Handle := none
  deriving DecidableEq, Repr

/-- A context of the driver. -/
structure DriverContext where
  asked : Registration
  callback : Registered
  deriving DecidableEq, Repr

/-- The records, the map, the threads, the driver's contexts and what was called. -/
structure ContextState where
  heap : Heap Registration := {}
  contextCallbackInfoMap : OrdMap Handle Nat := .empty
  threads : OrdMap Nat Creating := .empty
  contexts : OrdMap Handle DriverContext := .empty
  calls : Calls Message := {}

/-! ## The functions -/

/-- The calls of the driver's function: with new properties first, if there are any, and with the
application's own where that gave no context. -/
def createContext (newProperties : Bool) (first second : Handle) : Handle :=
  let retVal := if newProperties then first else null
  if retVal = null then second else retVal

/-- `contextCallbackOverrideInit` makes new properties under this condition. -/
def hasNewProperties (config : CallbackConfig) : Bool := config.contextHintLevel ≠ 0

/-- The driver raises a message. -/
def notify (config : CallbackConfig) (asked : Registration) (callback : Registered) (m : Message)
    (s : ContextState) : ContextState :=
  { s with calls := s.calls.invoke config.contextMode s.heap asked callback m }

/-- `contextCallbackOverrideCleanup`. -/
def contextCallbackOverrideCleanup (context : Handle) (info : Option Nat) (s : ContextState) :
    ContextState :=
  match info with
  | none => s
  | some info =>
    if context = null then { s with heap := s.heap.free info }
    else { s with
      heap := match s.contextCallbackInfoMap.get? context with
        | some old => s.heap.free old
        | none => s.heap
      contextCallbackInfoMap := s.contextCallbackInfoMap.insert context info }

/-! ## Steps -/

/-- Threads enter and leave `clCreateContext` or `clCreateContextFromType`; the driver answers them
(`first` and `second` are the contexts it would make), raises messages and destroys contexts. -/
inductive ContextAction
  | enter (thread : Nat) (asked : Registration)
  | driver (thread : Nat) (first second : Handle)
  | leave (thread : Nat)
  | raiseCreating (thread : Nat) (m : Message)
  | raise (context : Handle) (m : Message)
  | destroy (context : Handle)

def contextStep (config : CallbackConfig) (s : ContextState) : ContextAction → ContextState
  | .enter thread asked =>
    let i := install config.contextMode.logging (passed config.contextMode asked) s.heap
    { s with
      heap := i.heap
      threads := s.threads.insert thread { asked, callback := i.callback, info := i.info } }
  | .driver thread first second => match s.threads.get? thread with
    | none => s
    | some c =>
      let retVal := createContext (hasNewProperties config) first second
      { s with
        threads := s.threads.insert thread { c with retVal := some retVal }
        contexts := if retVal = null then s.contexts
          else s.contexts.insert retVal ⟨c.asked, c.callback⟩ }
  | .leave thread => match s.threads.get? thread with
    | none => s
    | some c => contextCallbackOverrideCleanup (c.retVal.getD null) c.info
        { s with threads := s.threads.erase thread }
  | .raiseCreating thread m => match s.threads.get? thread with
    | none => s
    | some c => notify config c.asked c.callback m s
  | .raise context m => match s.contexts.get? context with
    | none => s
    | some c => notify config c.asked c.callback m s
  | .destroy context => { s with contexts := s.contexts.erase context }

/-- What threads, the driver and the application promise: a thread is inside one call at a time, the
driver answers it once and gives no handle that a context has, and a context is destroyed only when
no thread has still to give it to the application. -/
def ContextAction.Legal (config : CallbackConfig) (s : ContextState) : ContextAction → Prop
  | .enter thread _ => s.threads.get? thread = none
  | .driver thread first second => (s.threads.get? thread).any (·.retVal.isNone) ∧
      s.contexts.get? (createContext (hasNewProperties config) first second) = none
  | .leave thread => (s.threads.get? thread).any (·.retVal.isSome)
  | .raiseCreating thread _ => (s.threads.get? thread).any (·.retVal.isNone)
  | .raise context _ => (s.contexts.get? context).isSome
  | .destroy context => ∀ e ∈ s.threads.entries, e.2.retVal ≠ some context

instance decidableContextAction (config : CallbackConfig) (s : ContextState) (a : ContextAction) :
    Decidable (a.Legal config s) := by
  cases a <;> unfold ContextAction.Legal <;> infer_instance

def contextSystem (config : CallbackConfig) : System ContextState ContextAction where
  step := contextStep config
  legal := ContextAction.Legal config

instance decidableContextSystem (config : CallbackConfig) (s : ContextState) (a : ContextAction) :
    Decidable ((contextSystem config).legal s a) :=
  inferInstanceAs (Decidable (a.Legal config s))

/-! ## The invariant -/

/-- The records that threads and the map hold. -/
def held (s : ContextState) : Multiset Nat :=
  s.contextCallbackInfoMap.contents (fun info => {info}) +
    s.threads.contents fun c => (c.info.toList : Multiset Nat)

/-- What a run keeps of records: every thread and every context has one of its own, unless
callbacks are not logged, and the context's is in the map or still with the thread. -/
structure Kept (config : CallbackConfig) (s : ContextState) : Prop where
  owned : s.heap.Owned (held s)
  thread : ∀ t c, s.threads.get? t = some c → Stands config.contextMode s.heap c.asked c.callback c.info
  context : ∀ x d, s.contexts.get? x = some d → ∃ info,
    Stands config.contextMode s.heap d.asked d.callback info ∧ ∀ i, info = some i →
      s.contextCallbackInfoMap.get? x = some i ∨
        ∃ t c, s.threads.get? t = some c ∧ c.retVal = some x ∧ c.info = some i
  created : ∀ t c x, s.threads.get? t = some c → c.retVal = some x → x ≠ null →
    ∃ d, s.contexts.get? x = some d ∧ d.callback = c.callback
  real : s.contexts.get? null = none

/-- **What context callbacks come to**: messages are told, records are freed once, and those that
are left are in the map or with a thread. -/
structure Sound (config : CallbackConfig) (s : ContextState) : Prop where
  told : Told config.contextMode s.calls
  freedOnce : s.heap.freed.Nodup
  left : ∀ i, i < s.heap.next ∧ i ∉ s.heap.freed ↔
    (∃ x, s.contextCallbackInfoMap.get? x = some i) ∨
      ∃ t c, s.threads.get? t = some c ∧ c.info = some i

section

variable {config : CallbackConfig} {s : ContextState}

/-- Held is what the map has, and what a thread is about to put into it. -/
theorem mem_held {i : Nat} : i ∈ held s ↔ (∃ x, s.contextCallbackInfoMap.get? x = some i) ∨
    ∃ t c, s.threads.get? t = some c ∧ c.info = some i := by
  simp only [held, Multiset.mem_add, OrdMap.mem_contents, Multiset.mem_singleton, Multiset.mem_coe,
    Option.mem_toList, eq_comm (a := i)]
  simp

/-! ## What a step keeps -/

/-- A record that a thread or the map has can be read. -/
theorem Kept.readable (h : Kept config s) {i : Nat} (hi : i ∈ held s) :
    s.heap.get? i = s.heap.made[i]? := h.owned.get? hi

/-- A thread that begins holds its own record. -/
theorem Kept.enter (h : Kept config s) {t : Nat} {asked : Registration}
    (hnew : s.threads.get? t = none) : Kept config (contextStep config s (.enter t asked)) := by
  refine ⟨?_, ?_, ?_, ?_, h.real⟩
  · show Heap.Owned _ (held _)
    simp only [held, contextStep]
    rw [OrdMap.contents_insert_new hnew, add_left_comm]
    exact owned_install h.owned _ _
  · intro t' c hget
    simp only [contextStep, OrdMap.get?_insert] at hget ⊢
    split at hget
    · obtain rfl := Option.some.inj hget
      exact stands_install asked s.heap
    · exact (h.thread t' c hget).install _
  · intro x d hget
    obtain ⟨info, hstands, hplace⟩ := h.context x d hget
    refine ⟨info, hstands.install _, fun i hi => (hplace i hi).imp_right ?_⟩
    rintro ⟨t', c, hthread, hrest⟩
    have hne : t' ≠ t := fun heq => Option.some_ne_none c (hthread.symm.trans (heq ▸ hnew))
    exact ⟨t', c, by simp [contextStep, OrdMap.get?_insert, hne, hthread], hrest⟩
  · intro t' c x hget hret hx
    simp only [contextStep, OrdMap.get?_insert] at hget ⊢
    split at hget
    · obtain rfl := Option.some.inj hget
      exact absurd hret (Option.some_ne_none x).symm
    · exact h.created t' c x hget hret hx

/-- The driver's answer changes nothing of what is held. -/
theorem held_answered {t : Nat} {c : Creating} (hget : s.threads.get? t = some c)
    (retVal : Option Handle) :
    (s.threads.insert t { c with retVal }).contents (fun c => (c.info.toList : Multiset Nat)) =
      s.threads.contents fun c => (c.info.toList : Multiset Nat) := by
  rw [OrdMap.contents_insert, OrdMap.contents_eq_erase s.threads t, hget]
  rfl

/-- The driver answers with a context that is not live. -/
theorem Kept.driver (h : Kept config s) {t : Nat} {first second : Handle} {c : Creating}
    (hget : s.threads.get? t = some c) (hnone : c.retVal = none)
    (hfresh : s.contexts.get? (createContext (hasNewProperties config) first second) = none) :
    Kept config (contextStep config s (.driver t first second)) := by
  generalize hret : createContext (hasNewProperties config) first second = retVal at hfresh
  have hstep : contextStep config s (.driver t first second) = { s with
      threads := s.threads.insert t { c with retVal := some retVal }
      contexts := if retVal = null then s.contexts
        else s.contexts.insert retVal ⟨c.asked, c.callback⟩ } := by
    simp only [contextStep, hget, hret]
  rw [hstep]
  -- The thread is the one that has the record of the new context.
  have hplace : ∀ {x i}, (s.contextCallbackInfoMap.get? x = some i ∨
      ∃ t' c', s.threads.get? t' = some c' ∧ c'.retVal = some x ∧ c'.info = some i) →
      s.contextCallbackInfoMap.get? x = some i ∨ ∃ t' c',
        (s.threads.insert t { c with retVal := some retVal }).get? t' = some c' ∧
          c'.retVal = some x ∧ c'.info = some i := by
    intro x i hold
    refine hold.imp_right ?_
    rintro ⟨t', c', hthread, hc', hi⟩
    have hne : t' ≠ t := by
      rintro rfl
      obtain rfl := Option.some.inj (hget.symm.trans hthread)
      exact Option.some_ne_none x (hc'.symm.trans hnone)
    exact ⟨t', c', by rw [OrdMap.get?_insert, if_neg hne, hthread], hc', hi⟩
  refine ⟨?_, ?_, ?_, ?_, ?_⟩
  · show Heap.Owned s.heap (held _)
    rw [held, held_answered hget]
    exact h.owned
  · intro t' c' hthread
    simp only [OrdMap.get?_insert] at hthread
    split at hthread
    · obtain rfl := Option.some.inj hthread
      exact h.thread t c hget
    · exact h.thread t' c' hthread
  · intro x d hx
    by_cases hnull : retVal = null
    · simp only [hnull, if_true] at hx
      obtain ⟨info, hstands, hold⟩ := h.context x d hx
      exact ⟨info, hstands, fun i hi => hplace (hold i hi)⟩
    · simp only [hnull, if_false, OrdMap.get?_insert] at hx
      split at hx
      · next heq =>
        obtain rfl := Option.some.inj hx
        refine ⟨c.info, h.thread t c hget, fun i hi => .inr
          ⟨t, { c with retVal := some retVal }, ?_, congrArg some heq.symm, hi⟩⟩
        rw [OrdMap.get?_insert, if_pos rfl]
      · obtain ⟨info, hstands, hold⟩ := h.context x d hx
        exact ⟨info, hstands, fun i hi => hplace (hold i hi)⟩
  · intro t' c' x hthread hc' hx
    by_cases hnull : retVal = null
    · simp only [hnull, if_true, OrdMap.get?_insert] at hthread ⊢
      split at hthread
      · obtain rfl := Option.some.inj hthread
        exact absurd (Option.some.inj hc').symm hx
      · exact h.created t' c' x hthread hc' hx
    · simp only [hnull, if_false, OrdMap.get?_insert] at hthread ⊢
      split at hthread
      · obtain rfl := Option.some.inj hthread
        exact ⟨⟨c.asked, c.callback⟩, if_pos (Option.some.inj hc').symm, rfl⟩
      · obtain ⟨d, hd, hcallback⟩ := h.created t' c' x hthread hc' hx
        have hne : x ≠ retVal := fun heq => Option.some_ne_none d (hd.symm.trans (heq ▸ hfresh))
        exact ⟨d, (if_neg hne).trans hd, hcallback⟩
  · by_cases hnull : retVal = null
    · simp only [hnull, if_true]
      exact h.real
    · simp only [hnull, if_false, OrdMap.get?_insert, Ne.symm hnull]
      exact h.real

/-- A thread that leaves hands over what it holds. -/
theorem held_leave {t : Nat} {c : Creating} (hget : s.threads.get? t = some c) :
    held s = s.contextCallbackInfoMap.contents (fun info => {info}) +
      ((s.threads.erase t).contents (fun c => (c.info.toList : Multiset Nat)) + c.info.toList) := by
  rw [held, OrdMap.contents_eq_erase s.threads t, hget]
  rfl

/-- A thread that has not left still has its record. -/
theorem still_placed {t : Nat} {c : Creating} {retVal x : Handle} {i : Nat}
    (hget : s.threads.get? t = some c) (hret : c.retVal = some retVal) (hx : x ≠ retVal)
    (hold : ∃ t' c', s.threads.get? t' = some c' ∧ c'.retVal = some x ∧ c'.info = some i) :
    ∃ t' c', (s.threads.erase t).get? t' = some c' ∧ c'.retVal = some x ∧ c'.info = some i := by
  obtain ⟨t', c', hthread, hc', hi⟩ := hold
  have hne : t' ≠ t := by
    rintro rfl
    obtain rfl := Option.some.inj (hget.symm.trans hthread)
    exact hx (Option.some.inj (hc'.symm.trans hret))
  exact ⟨t', c', by rw [OrdMap.get?_erase, if_neg hne, hthread], hc', hi⟩

/-- No record was made: callbacks are not logged, and no context has one. -/
theorem Kept.leave_unlogged (h : Kept config s) {t : Nat} {c : Creating}
    (hget : s.threads.get? t = some c) (hinfo : c.info = none) :
    Kept config { s with threads := s.threads.erase t } := by
  have hlog := (h.thread t c hget).not_logging hinfo
  refine ⟨?_, fun t' c' h' => h.thread t' c' (OrdMap.get?_of_erase h'), ?_,
    fun t' c' x h' => h.created t' c' x (OrdMap.get?_of_erase h'), h.real⟩
  · have howned := h.owned
    rw [held_leave hget] at howned
    simpa [hinfo, held] using howned
  · intro x d hx
    obtain ⟨info, hstands, -⟩ := h.context x d hx
    have hnone := hstands.info_eq_none hlog
    exact ⟨info, hstands, fun i hi => absurd (hi.symm.trans hnone) (Option.some_ne_none i)⟩

/-- The driver made no context: the record is freed. -/
theorem Kept.leave_failed (h : Kept config s) {t : Nat} {c : Creating} {i : Nat}
    (hget : s.threads.get? t = some c) (hret : c.retVal = some null) (hinfo : c.info = some i) :
    Kept config { s with threads := s.threads.erase t, heap := s.heap.free i } := by
  refine ⟨?_, fun t' c' h' => h.thread t' c' (OrdMap.get?_of_erase h'), ?_,
    fun t' c' x h' => h.created t' c' x (OrdMap.get?_of_erase h'), h.real⟩
  · refine Heap.Owned.free ?_
    have howned := h.owned
    rw [held_leave hget, hinfo, Option.toList_some, Multiset.coe_singleton, ← add_assoc, add_comm,
      Multiset.singleton_add] at howned
    exact howned
  · intro x d hx
    obtain ⟨info, hstands, hold⟩ := h.context x d hx
    have hx' : x ≠ null := by
      rintro rfl
      exact Option.some_ne_none d (hx.symm.trans h.real)
    exact ⟨info, hstands, fun j hj => (hold j hj).imp_right (still_placed hget hret hx')⟩

/-- The context that a thread has made has the record of the thread. -/
theorem Kept.info_eq (h : Kept config s) {t : Nat} {c : Creating} {x : Handle} {d : DriverContext}
    {info : Option Nat} (hget : s.threads.get? t = some c) (hret : c.retVal = some x)
    (hx : x ≠ null) (hd : s.contexts.get? x = some d)
    (hstands : Stands config.contextMode s.heap d.asked d.callback info) : info = c.info := by
  obtain ⟨d', hd', hcallback⟩ := h.created t c x hget hret hx
  obtain rfl := Option.some.inj (hd.symm.trans hd')
  exact hstands.info_eq (h.thread t c hget) hcallback

/-- The driver made a context: the record takes the place of one that an earlier context of this
handle has left. -/
theorem Kept.leave_stored (h : Kept config s) {t : Nat} {c : Creating} {retVal : Handle} {i : Nat}
    (hget : s.threads.get? t = some c) (hret : c.retVal = some retVal) (hnull : retVal ≠ null)
    (hinfo : c.info = some i) : Kept config { s with
      threads := s.threads.erase t
      heap := match s.contextCallbackInfoMap.get? retVal with
        | some old => s.heap.free old
        | none => s.heap
      contextCallbackInfoMap := s.contextCallbackInfoMap.insert retVal i } := by
  have hheap : ∀ {a callback info}, Stands config.contextMode s.heap a callback info →
      Stands config.contextMode (match s.contextCallbackInfoMap.get? retVal with
        | some old => s.heap.free old
        | none => s.heap) a callback info := by
    intro a callback info hstands
    cases s.contextCallbackInfoMap.get? retVal with exact hstands
  refine ⟨?_, fun t' c' h' => hheap (h.thread t' c' (OrdMap.get?_of_erase h')), ?_,
    fun t' c' x h' => h.created t' c' x (OrdMap.get?_of_erase h'), h.real⟩
  · have howned := h.owned
    rw [held_leave hget, hinfo, Option.toList_some, Multiset.coe_singleton,
      OrdMap.contents_eq_erase s.contextCallbackInfoMap retVal] at howned
    simp only [held]
    rw [OrdMap.contents_insert]
    cases hold : s.contextCallbackInfoMap.get? retVal with
    | none =>
      simp only [hold, Option.elim_none, add_zero] at howned ⊢
      rw [add_right_comm, add_assoc]
      exact howned
    | some old =>
      refine Heap.Owned.free ?_
      simp only [hold, Option.elim_some] at howned
      rw [← Multiset.singleton_add]
      convert howned using 1
      ac_rfl
  · intro x d hx
    obtain ⟨info, hstands, hold⟩ := h.context x d hx
    refine ⟨info, hheap hstands, fun j hj => ?_⟩
    rw [OrdMap.get?_insert]
    by_cases heq : x = retVal
    · subst heq
      have hij := (h.info_eq hget hret hnull hx hstands).symm.trans hj
      left
      rw [if_pos rfl, ← hinfo, hij]
    · rw [if_neg heq]
      exact (hold j hj).imp_right (still_placed hget hret heq)

/-- **What is behind the driver's call** keeps what is known of records. -/
theorem Kept.leave (h : Kept config s) {t : Nat} {c : Creating} {retVal : Handle}
    (hget : s.threads.get? t = some c) (hret : c.retVal = some retVal) :
    Kept config (contextStep config s (.leave t)) := by
  simp only [contextStep, hget, hret, Option.getD_some, contextCallbackOverrideCleanup]
  cases hinfo : c.info with
  | none => exact h.leave_unlogged hget hinfo
  | some i =>
    by_cases hnull : retVal = null
    · simp only [hnull, if_true]
      exact h.leave_failed hget (hnull ▸ hret) hinfo
    · simp only [hnull, if_false]
      exact h.leave_stored hget hret hnull hinfo

/-- A context that is destroyed leaves its record to the clean-up. -/
theorem Kept.destroy (h : Kept config s) {x : Handle}
    (hfree : ∀ t c, s.threads.get? t = some c → c.retVal ≠ some x) :
    Kept config (contextStep config s (.destroy x)) := by
  refine ⟨h.owned, h.thread, fun y d hy => h.context y d (OrdMap.get?_of_erase hy), ?_, ?_⟩
  · intro t c y hthread hc hy
    obtain ⟨d, hd, hcallback⟩ := h.created t c y hthread hc hy
    have hne : y ≠ x := by
      rintro rfl
      exact hfree t c hthread hc
    exact ⟨d, by simp [contextStep, OrdMap.get?_erase, hne, hd], hcallback⟩
  · show (s.contexts.erase x).get? null = none
    rw [OrdMap.get?_erase, h.real, ite_self]

/-- **Every step keeps what is known of records.** -/
theorem Kept.step (h : Kept config s) (a : ContextAction) (hl : a.Legal config s) :
    Kept config (contextStep config s a) := by
  cases a with
  | enter t asked => exact h.enter hl
  | driver t first second =>
    obtain ⟨c, hget, hnone⟩ := (Option.any_eq_true _ _).mp hl.1
    exact h.driver hget (Option.isNone_iff_eq_none.mp hnone) hl.2
  | leave t =>
    obtain ⟨c, hget, hsome⟩ := (Option.any_eq_true _ _).mp hl
    obtain ⟨retVal, hret⟩ := Option.isSome_iff_exists.mp hsome
    exact h.leave hget hret
  | raiseCreating t m =>
    obtain ⟨c, hget, -⟩ := (Option.any_eq_true _ _).mp hl
    simp only [contextStep, hget]
    exact ⟨h.owned, h.thread, h.context, h.created, h.real⟩
  | raise x m =>
    obtain ⟨d, hget⟩ := Option.isSome_iff_exists.mp hl
    simp only [contextStep, hget]
    exact ⟨h.owned, h.thread, h.context, h.created, h.real⟩
  | destroy x =>
    exact h.destroy fun t c hget => hl (t, c) (OrdMap.get?_eq_some_iff.mp hget)

theorem calls_cleanup (context : Handle) (info : Option Nat) (s : ContextState) :
    (contextCallbackOverrideCleanup context info s).calls = s.calls := by
  unfold contextCallbackOverrideCleanup
  cases info with
  | none => rfl
  | some i => by_cases hnull : context = null <;> simp only [hnull, if_true, if_false]

/-- **Every step tells what is raised in it.** -/
theorem told_step (ht : Told config.contextMode s.calls) (h : Kept config s) (a : ContextAction)
    (hl : a.Legal config s) : Told config.contextMode (contextStep config s a).calls := by
  cases a with
  | enter t asked => exact ht
  | driver t first second =>
    obtain ⟨c, hget, -⟩ := (Option.any_eq_true _ _).mp hl.1
    simp only [contextStep, hget]
    exact ht
  | leave t =>
    obtain ⟨c, hget, -⟩ := (Option.any_eq_true _ _).mp hl
    simp only [contextStep, hget]
    rw [calls_cleanup]
    exact ht
  | raiseCreating t m =>
    obtain ⟨c, hget, -⟩ := (Option.any_eq_true _ _).mp hl
    simp only [contextStep, hget]
    refine ht.invoke (h.thread t c hget) (fun i hi => h.readable ?_) m
    exact mem_held.mpr (.inr ⟨t, c, hget, hi⟩)
  | raise x m =>
    obtain ⟨d, hget⟩ := Option.isSome_iff_exists.mp hl
    simp only [contextStep, hget]
    obtain ⟨info, hstands, hplace⟩ := h.context x d hget
    refine ht.invoke hstands (fun i hi => h.readable (mem_held.mpr ?_)) m
    rcases hplace i hi with hmap | ⟨t, c, hthread, -, hc⟩
    · exact .inl ⟨x, hmap⟩
    · exact .inr ⟨t, c, hthread, hc⟩
  | destroy x => exact ht

/-- **Where the records are kept and the calls are told, the callbacks are sound.** -/
theorem Kept.sound (h : Kept config s) (ht : Told config.contextMode s.calls) :
    Sound config s where
  told := ht
  freedOnce := h.owned.nodup_freed
  left _ := h.owned.mem_iff.symm.trans mem_held

end

/-! ## Runs -/

theorem kept_init (config : CallbackConfig) : Kept config {} :=
  ⟨Heap.owned_empty, fun _ _ h => absurd h (Option.some_ne_none _).symm,
    fun _ _ h => absurd h (Option.some_ne_none _).symm,
    fun _ _ _ h => absurd h (Option.some_ne_none _).symm, rfl⟩

/-- **Context callbacks are transparent and leave no dangling record**, in every interleaving of
the threads that create contexts with what the driver does. -/
theorem contextCallbacks_sound (config : CallbackConfig) (as : List ContextAction)
    (hl : (contextSystem config).Legal {} as) :
    (contextSystem config).Always (Sound config) {} as := by
  have hrun : (contextSystem config).Always
      (fun s => Kept config s ∧ Told config.contextMode s.calls) {} as := by
    refine System.always_of_step (fun s a h ha => ?_) ⟨kept_init config, told_empty _⟩ hl
    exact ⟨h.1.step a ha, told_step h.2 h.1 a ha⟩
  exact hrun.mono fun s h => h.1.sound h.2

/-- Two threads create contexts, a message comes before the first has its own, and the handle of
that one is used again. -/
def handleReused : List ContextAction :=
  [.enter 0 ⟨1, 10⟩, .enter 1 ⟨0, 20⟩, .raiseCreating 0 ⟨"early", 0, 0⟩, .driver 0 0 64, .leave 0,
    .driver 1 0 65, .raise 64 ⟨"first", 0, 0⟩, .destroy 64, .leave 1, .enter 0 ⟨2, 30⟩,
    .driver 0 0 64, .leave 0, .raise 64 ⟨"second", 0, 0⟩, .raise 65 ⟨"third", 0, 0⟩]

theorem contextCallbacks_sound_handleReused :
    Sound { contextCallbackLogging := true }
      ((contextSystem { contextCallbackLogging := true }).exec {} handleReused) :=
  (contextCallbacks_sound _ handleReused (by decide)).last

end CLIntercept.Callback
