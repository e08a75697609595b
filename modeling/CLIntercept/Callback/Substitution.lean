import CLIntercept.Config
import CLIntercept.Api
import CLIntercept.Lib.Heap
import CLIntercept.Lib.Holdings
import CLIntercept.Lib.Run

/-!
# Callbacks that stand in for others

To log the callbacks of an application the layer registers one of its own. What the application
passed goes into a record, and the driver gets the record as user data. This module is what context
callbacks and event callbacks share: the record, what the driver has registered, and what a call of
it does. `Told` is what is wanted of all calls together, and `Told.invoke` says that a call keeps it
while its record can be read. When that is so is a matter of who frees the records, and different
for the two.
-/

set_option autoImplicit false

namespace CLIntercept.Callback

open CLIntercept.Lib

/-- The controls of callbacks, beside the others. -/
structure CallbackConfig extends Config where
  callLogging : Bool := false
  eventCallbackLogging : Bool := false
  nullContextCallback : Bool := false
  suppressLogging : Bool := false

/-- What the controls mean for one kind of callback: the layer's own stands in for it, it is never
called, and what the layer's own has to say gets into the log. -/
structure Mode where
  logging : Bool
  nullCallback : Bool
  logs : Bool

/-! ## Records -/

/-- `pfn_notify` and `user_data`: a function of the application, or `NULL`, and its argument. It is
also the record of them (`SContextCallbackInfo`, `SEventCallbackInfo`). -/
structure Registration where
  pfnNotify : Handle
  userData : Handle
  deriving DecidableEq, Repr

/-- The function pointer and user data that the driver has: the application's, or the layer's own
function with a record. -/
inductive Registered
  | application (r : Registration)
  | caller (info : Nat)
  deriving DecidableEq, Repr

/-- What is made for a registration: what the driver gets, and the record, if there is one. -/
structure Installed where
  callback : Registered
  info : Option Nat
  heap : Heap Registration

/-- Put the layer's own callback in the place of the application's, or leave that one. -/
def install (logging : Bool) (r : Registration) (heap : Heap Registration) : Installed :=
  if logging then ⟨.caller heap.next, some heap.next, heap.alloc r⟩
  else ⟨.application r, none, heap⟩

/-- `pfn_notify` and `user_data` before anything is put in their place. -/
def passed (mode : Mode) (r : Registration) : Registration :=
  if mode.nullCallback then { r with pfnNotify := null } else r

/-! ## Calls -/

section

variable {μ : Type*}

/-- What has been called, with arguments of type `μ`: `raised` is what the driver had to say and for
whom, `received` the calls that functions of the application got, `logged` what is in the log.
`fault` is set by a call that reads a freed record. -/
structure Calls (μ : Type*) where
  raised : List (Registration × μ) := []
  received : List (Registration × μ) := []
  logged : List μ := []
  fault : Bool := false

/-- The application's function, called. -/
def callApplication (r : Registration) (m : μ) : List (Registration × μ) :=
  if r.pfnNotify = null then [] else [(r, m)]

/-- The driver calls what it has for the registration `asked`: `contextCallbackCaller` and
`eventCallbackCaller`, where it is the layer's function. -/
def Calls.invoke (mode : Mode) (heap : Heap Registration) (asked : Registration)
    (callback : Registered) (m : μ) (calls : Calls μ) : Calls μ :=
  let calls := { calls with raised := calls.raised ++ [(asked, m)] }
  match callback with
  | .application r => { calls with received := calls.received ++ callApplication r m }
  | .caller info => match heap.get? info with
    | none => { calls with fault := true }
    | some r => { calls with
        logged := if mode.logs then calls.logged ++ [m] else calls.logged
        received := calls.received ++ callApplication r m }

/-- What the application is to get. -/
def Due (mode : Mode) (x : Registration × μ) : Bool := !mode.nullCallback && x.1.pfnNotify ≠ null

/-- **What callbacks come to**: no freed record is read, the application gets what the driver raises
for it, and where callbacks are logged the log has all of it, in order. -/
structure Told (mode : Mode) (calls : Calls μ) : Prop where
  noFault : calls.fault = false
  received : calls.received = calls.raised.filter (Due mode)
  logged : calls.logged = if mode.logging && mode.logs then calls.raised.map (·.2) else []

/-- What a registration has become: a record of it where callbacks are logged. -/
def Stands (mode : Mode) (heap : Heap Registration) (asked : Registration) (callback : Registered)
    (info : Option Nat) : Prop :=
  if mode.logging then
    ∃ i, callback = .caller i ∧ info = some i ∧ heap.made[i]? = some (passed mode asked)
  else callback = .application (passed mode asked) ∧ info = none

variable {mode : Mode} {heap : Heap Registration} {asked : Registration} {callback : Registered}
  {info : Option Nat}

/-- More records change nothing for the ones there are. -/
theorem Stands.alloc (h : Stands mode heap asked callback info) (r : Registration) :
    Stands mode (heap.alloc r) asked callback info := by
  unfold Stands at h ⊢
  split
  · next hlog =>
    rw [if_pos hlog] at h
    obtain ⟨i, hcallback, hinfo, hmade⟩ := h
    exact ⟨i, hcallback, hinfo, Heap.made_alloc hmade r⟩
  · next hlog =>
    rw [if_neg hlog] at h
    exact h

theorem Stands.install (h : Stands mode heap asked callback info) (r : Registration) :
    Stands mode (install mode.logging r heap).heap asked callback info := by
  unfold Callback.install
  split
  · exact h.alloc r
  · exact h

theorem stands_install (asked : Registration) (heap : Heap Registration) :
    let i := install mode.logging (passed mode asked) heap
    Stands mode i.heap asked i.callback i.info := by
  unfold install Stands
  split
  · exact ⟨heap.next, rfl, rfl, Heap.made_alloc_next heap _⟩
  · exact ⟨rfl, rfl⟩

theorem Stands.info_eq_none (h : Stands mode heap asked callback info)
    (hlog : ¬mode.logging = true) : info = none := by
  rw [Stands, if_neg hlog] at h
  exact h.2

/-- Where there is no record callbacks are not logged. -/
theorem Stands.not_logging (h : Stands mode heap asked callback info) (hinfo : info = none) :
    ¬mode.logging = true := by
  intro hlog
  rw [Stands, if_pos hlog] at h
  obtain ⟨i, -, hi, -⟩ := h
  exact Option.some_ne_none i (hi.symm.trans hinfo)

/-- A registration and what the driver has for it have one record. -/
theorem Stands.info_eq {asked' : Registration} {callback' : Registered} {info' : Option Nat}
    (h : Stands mode heap asked callback info) (h' : Stands mode heap asked' callback' info')
    (hcallback : callback = callback') : info = info' := by
  unfold Stands at h h'
  split at h
  · next hlog =>
    rw [if_pos hlog] at h'
    obtain ⟨i, hi, hinfo, -⟩ := h
    obtain ⟨j, hj, hinfo', -⟩ := h'
    rw [hinfo, hinfo', Registered.caller.inj (hi.symm.trans (hcallback.trans hj))]
  · next hlog =>
    rw [if_neg hlog] at h'
    rw [h.2, h'.2]

theorem callApplication_passed (r : Registration) (m : μ) :
    callApplication (passed mode r) m = [(r, m)].filter (Due mode) := by
  by_cases hnull : mode.nullCallback
  · simp [passed, callApplication, Due, hnull]
  · by_cases hpfn : r.pfnNotify = null
    · simp [passed, callApplication, Due, hnull, hpfn]
    · simp [passed, callApplication, Due, hnull, hpfn]

/-- Ownership moves with what is installed: the record is one more that is held. -/
theorem owned_install {held : Multiset Nat} (ho : heap.Owned held) (logging : Bool)
    (r : Registration) :
    (install logging r heap).heap.Owned ((install logging r heap).info.toList + held) := by
  unfold install
  split
  · exact ho.alloc r
  · exact (zero_add held).symm ▸ ho

theorem told_empty (mode : Mode) : Told mode ({} : Calls μ) := ⟨rfl, rfl, (ite_self _).symm⟩

/-- **A call is told**, while the record can be read. -/
theorem Told.invoke {calls : Calls μ} (h : Told mode calls)
    (hstands : Stands mode heap asked callback info)
    (hread : ∀ i, info = some i → heap.get? i = heap.made[i]?) (m : μ) :
    Told mode (calls.invoke mode heap asked callback m) := by
  have hdue : calls.received ++ callApplication (passed mode asked) m =
      (calls.raised ++ [(asked, m)]).filter (Due mode) := by
    rw [List.filter_append, h.received, callApplication_passed]
  have hlogged := h.logged
  unfold Stands at hstands
  split at hstands
  · next hlog =>
    obtain ⟨i, rfl, rfl, hmade⟩ := hstands
    have hget : heap.get? i = some (passed mode asked) := (hread i rfl).trans hmade
    rw [hlog, Bool.true_and] at hlogged
    refine ⟨?_, ?_, ?_⟩
    · simpa [Calls.invoke, hget] using h.noFault
    · simpa [Calls.invoke, hget] using hdue
    · cases hlogs : mode.logs with
      | false => simpa [Calls.invoke, hget, hlogs] using hlogged
      | true => simp [Calls.invoke, hget, hlog, hlogs, hlogged]
  · next hlog =>
    obtain ⟨rfl, -⟩ := hstands
    rw [Bool.eq_false_iff.mpr hlog, Bool.false_and] at hlogged
    refine ⟨h.noFault, hdue, hlogged.trans ?_⟩
    rw [Bool.eq_false_iff.mpr hlog, Bool.false_and]
    rfl

end

end CLIntercept.Callback
