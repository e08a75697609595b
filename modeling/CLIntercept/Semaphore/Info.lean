import CLIntercept.Device.Info
import CLIntercept.Semaphore.Protocol

/-!
# What a semaphore says of itself

`clGetSemaphoreInfoKHR` reads the semaphore as it is. By the calls so far its context is that of its
creation, its reference count that of a live object, and its payload is 1 if it is pending with an
event that has completed: `clGetSemaphoreInfo_run`. The status of an event is 0 before it is asked
for, and 0 is `CL_COMPLETE`, so an event that cannot be asked has completed.
-/

set_option autoImplicit false

namespace CLIntercept.Semaphore

open CLIntercept.Lib
open CLIntercept.Usm (Destination Answer writeParamToMemory)
open CLIntercept.Device.Info (uintBytes)

/-! ## The query -/

/-- `cl_semaphore_info_khr`. -/
inductive SemaphoreInfo where
  | context
  | referenceCount
  | properties
  | type
  | payload
  | other (name : Nat)
  deriving DecidableEq, Repr

def clSemaphoreTypeBinary : Nat := 1

/-- `statusOf` is what the driver answers of an event, `none` where it fails. -/
def payloadOf (statusOf : Handle → Option Int) (event : Handle) : Nat :=
  if event ≠ null then if (statusOf event).getD 0 = clComplete then 1 else 0 else 0

def clGetSemaphoreInfo (statusOf : Handle → Option Int) (semaphore : Handle)
    (paramName : SemaphoreInfo) (dest : Destination) (sems : Semaphores) : Answer :=
  if !isValid sems semaphore then ⟨clInvalidSemaphore, none, none⟩
  else match paramName with
    | .context =>
      writeParamToMemory dest (pointerBytes (((sems.get? semaphore).map (·.context)).getD null))
    | .referenceCount => writeParamToMemory dest (uintBytes (refCountOf sems semaphore).toNat)
    | .properties => ⟨clInvalidValue, none, none⟩
    | .type => writeParamToMemory dest (uintBytes clSemaphoreTypeBinary)
    | .payload =>
      writeParamToMemory dest (pointerBytes (payloadOf statusOf (eventOf sems semaphore)))
    | .other _ => ⟨clInvalidValue, none, none⟩

/-! ## What no call but one changes -/

/-- What is fixed of a semaphore, and its references. -/
def counted (sems : Semaphores) (semaphore : Handle) : Option (Handle × UInt32) :=
  (sems.get? semaphore).map fun s => (s.context, s.refCount)

/-- An event that is stored changes no count. -/
theorem counted_setEvent (sems : Semaphores) (semaphore semaphore' event : Handle) :
    counted (setEvent sems semaphore' event) semaphore = counted sems semaphore := by
  unfold counted setEvent
  rw [get?_modify]
  split
  next h => rw [h, Option.map_map]; rfl
  next => rfl

/-- The loop that releases the events changes no count. -/
theorem counted_releaseEvents (release : Nat → Int) (semaphore : Handle) (semaphores : List Handle) :
    ∀ (i : Nat) (sems : Semaphores),
      counted (releaseEvents release i semaphores sems).1 semaphore = counted sems semaphore := by
  induction semaphores with
  | nil => exact fun _ _ => rfl
  | cons semaphore' rest ih =>
    intro i sems
    rw [releaseEvents, ih, counted_setEvent]

/-- The loop that signals changes no count. -/
theorem counted_signalEvents (event : Handle) (retain : Nat → Int) (semaphore : Handle)
    (semaphores : List Handle) : ∀ (i : Nat) (sems : Semaphores),
      counted (signalEvents event retain i semaphores sems).1 semaphore = counted sems semaphore := by
  induction semaphores with
  | nil => exact fun _ _ => rfl
  | cons semaphore' rest ih =>
    intro i sems
    rw [signalEvents, ih, counted_setEvent]

/-- A wait changes no count. -/
theorem counted_wait (sems : Semaphores) (semaphore : Handle) (semaphores eventWaitList : List Handle)
    (answers : WaitAnswers) :
    counted (clEnqueueWaitSemaphores semaphores eventWaitList answers sems).sems semaphore =
      counted sems semaphore := by
  unfold clEnqueueWaitSemaphores
  split
  · rfl
  · split
    · rfl
    · exact counted_releaseEvents _ _ _ _ _

/-- A signal changes no count. -/
theorem counted_signal (sems : Semaphores) (semaphore : Handle)
    (semaphores eventWaitList : List Handle) (event : Option Handle) (answers : SignalAnswers) :
    counted (clEnqueueSignalSemaphores semaphores eventWaitList event answers sems).sems semaphore =
      counted sems semaphore := by
  unfold clEnqueueSignalSemaphores
  split
  · rfl
  · split
    · rfl
    · exact counted_signalEvents _ _ _ _ _ _

/-- A change of the count reaches one semaphore. -/
theorem counted_modify (sems : Semaphores) (semaphore semaphore' : Handle) (f : UInt32 → UInt32) :
    counted (modify sems semaphore' fun s => { s with refCount := f s.refCount }) semaphore =
      if semaphore = semaphore' then (counted sems semaphore).map fun c => (c.1, f c.2)
      else counted sems semaphore := by
  unfold counted
  rw [get?_modify]
  split
  next h => rw [h, Option.map_map, Option.map_map]; rfl
  next => rfl

/-- A semaphore that is left has the count that it had. -/
theorem counted_of_erase {sems : Semaphores} {semaphore semaphore' : Handle} {c : Handle × UInt32}
    (h : counted (sems.erase semaphore') semaphore = some c) : counted sems semaphore = some c := by
  obtain ⟨sem, hsem, hc⟩ := Option.map_eq_some_iff.mp h
  exact Option.map_eq_some_iff.mpr ⟨sem, OrdMap.get?_of_erase hsem, hc⟩

/-! ## References -/

/-- Whether an action asks to retain the semaphore, and whether one asks to release it. -/
def retained (semaphore : Handle) : Action → Nat
  | .retain semaphore' => if semaphore' = semaphore then 1 else 0
  | _ => 0

def released (semaphore : Handle) : Action → Nat
  | .release semaphore' => if semaphore' = semaphore then 1 else 0
  | _ => 0

/-- A semaphore that is there behind a call was there before it. -/
theorem counted_step {s : State} {a : Action} {semaphore : Handle} (hne : semaphore ≠ null)
    (hcreate : ∀ context, a ≠ .create context semaphore) {context : Handle} {n : UInt32}
    (h : counted (step s a).sems semaphore = some (context, n)) :
    ∃ m, counted s.sems semaphore = some (context, m) ∧
      n = m + UInt32.ofNat (retained semaphore a) - UInt32.ofNat (released semaphore a) := by
  have hsame : ∀ {m : UInt32}, m = m + UInt32.ofNat 0 - UInt32.ofNat 0 := by
    intro m
    simp
  have hlive : ∀ {c : Handle × UInt32}, counted s.sems semaphore = some c →
      isValid s.sems semaphore = true := by
    intro c hc
    obtain ⟨sem, hsem, -⟩ := Option.map_eq_some_iff.mp hc
    simp [isValid, hne, hsem]
  cases a with
  | create context' semaphore' =>
    refine ⟨n, ?_, hsame⟩
    have hother : semaphore ≠ semaphore' := fun he => hcreate context' (he ▸ rfl)
    simp only [step, Action.outcome, clCreateSemaphoreWithProperties, counted, OrdMap.get?_insert,
      if_neg hother] at h
    exact h
  | wait semaphores eventWaitList answers =>
    exact ⟨n, (counted_wait _ _ _ _ _).symm.trans h, hsame⟩
  | signal semaphores eventWaitList event answers =>
    exact ⟨n, (counted_signal _ _ _ _ _ _).symm.trans h, hsame⟩
  | retain semaphore' =>
    simp only [step, Action.outcome, clRetainSemaphore] at h
    split at h
    next hinvalid =>
      refine ⟨n, h, ?_⟩
      have hother : semaphore' ≠ semaphore := by
        rintro rfl
        simp [hlive h] at hinvalid
      simp [retained, released, hother]
    next hvalid =>
      rw [counted_modify _ _ _ (· + 1)] at h
      by_cases hs : semaphore = semaphore'
      · rw [if_pos hs] at h
        obtain ⟨⟨context', m⟩, hm, heq⟩ := Option.map_eq_some_iff.mp h
        obtain ⟨rfl, rfl⟩ := Prod.mk.inj heq
        refine ⟨m, hm, ?_⟩
        simp [retained, released, hs]
      · rw [if_neg hs] at h
        exact ⟨n, h, by simp [retained, released, Ne.symm hs]⟩
  | release semaphore' =>
    simp only [step, Action.outcome, clReleaseSemaphore] at h
    split at h
    next hinvalid =>
      refine ⟨n, h, ?_⟩
      have hother : semaphore' ≠ semaphore := by
        rintro rfl
        simp [hlive h] at hinvalid
      simp [retained, released, hother]
    next hvalid =>
      have hmodified : counted (modify s.sems semaphore' fun s => { s with refCount := s.refCount - 1 })
          semaphore = some (context, n) := by
        split at h
        · exact counted_of_erase h
        · exact h
      rw [counted_modify _ _ _ (· - 1)] at hmodified
      by_cases hs : semaphore = semaphore'
      · rw [if_pos hs] at hmodified
        obtain ⟨⟨context', m⟩, hm, heq⟩ := Option.map_eq_some_iff.mp hmodified
        obtain ⟨rfl, rfl⟩ := Prod.mk.inj heq
        exact ⟨m, hm, by simp [retained, released, hs]⟩
      · rw [if_neg hs] at hmodified
        exact ⟨n, hmodified, by simp [retained, released, Ne.symm hs]⟩

/-- How often a run asks. -/
def retains (semaphore : Handle) (as : List Action) : Nat := (as.map (retained semaphore)).sum

def releases (semaphore : Handle) (as : List Action) : Nat := (as.map (released semaphore)).sum

/-- A count is that of the retains and releases since the state before, where the semaphore is not
made anew. -/
theorem counted_run {s : State} {semaphore : Handle} (hne : semaphore ≠ null) {as : List Action}
    (hcreate : ∀ a ∈ as, ∀ context, a ≠ .create context semaphore) {context : Handle} {n : UInt32}
    (h : counted (system.exec s as).sems semaphore = some (context, n)) :
    ∃ m, counted s.sems semaphore = some (context, m) ∧
      n = m + UInt32.ofNat (retains semaphore as) - UInt32.ofNat (releases semaphore as) := by
  induction as generalizing s with
  | nil => exact ⟨n, h, by simp [retains, releases]⟩
  | cons a as ih =>
    obtain ⟨m', hm', hn⟩ := ih (fun b hb => hcreate b (List.mem_cons_of_mem a hb)) h
    obtain ⟨m, hm, hn'⟩ := counted_step hne (hcreate a List.mem_cons_self) hm'
    refine ⟨m, hm, ?_⟩
    have hretains : UInt32.ofNat (retains semaphore (a :: as)) =
        UInt32.ofNat (retained semaphore a) + UInt32.ofNat (retains semaphore as) := by
      rw [retains, List.map_cons, List.sum_cons, UInt32.ofNat_add]
      rfl
    have hreleases : UInt32.ofNat (releases semaphore (a :: as)) =
        UInt32.ofNat (released semaphore a) + UInt32.ofNat (releases semaphore as) := by
      rw [releases, List.map_cons, List.sum_cons, UInt32.ofNat_add]
      rfl
    rw [hn, hn', hretains, hreleases]
    grind

/-! ## What is answered -/

/-- The payload is one if the event is there and complete. -/
theorem payloadOf_eq (statusOf : Handle → Option Int) (event : Handle) :
    payloadOf statusOf event =
      if event ≠ null ∧ (statusOf event).getD 0 = clComplete then 1 else 0 := by
  unfold payloadOf
  by_cases hevent : event = null
  · simp [hevent]
  · simp [hevent]

open scoped Classical in
/-- **What is answered of a live semaphore is said by the calls since its creation.** -/
theorem clGetSemaphoreInfo_run {before after : List Action} {context semaphore : Handle}
    (hlegal : system.Legal {} (before ++ .create context semaphore :: after))
    (hcreate : ∀ a ∈ after, ∀ context', a ≠ .create context' semaphore)
    (hlive : isValid (system.exec {} (before ++ .create context semaphore :: after)).sems semaphore)
    (statusOf : Handle → Option Int) (paramName : SemaphoreInfo) (dest : Destination) :
    clGetSemaphoreInfo statusOf semaphore paramName dest
        (system.exec {} (before ++ .create context semaphore :: after)).sems =
      match paramName with
      | .context => writeParamToMemory dest (pointerBytes context)
      | .referenceCount =>
        writeParamToMemory dest (uintBytes (1 + UInt32.ofNat (retains semaphore after) -
          UInt32.ofNat (releases semaphore after)).toNat)
      | .type => writeParamToMemory dest (uintBytes clSemaphoreTypeBinary)
      | .payload =>
        writeParamToMemory dest (pointerBytes
          (if ∃ event, Pending (before ++ .create context semaphore :: after) semaphore event ∧
            (statusOf event).getD 0 = clComplete then 1 else 0))
      | .properties => ⟨clInvalidValue, none, none⟩
      | .other _ => ⟨clInvalidValue, none, none⟩ := by
  generalize hrun : before ++ Action.create context semaphore :: after = as at hlegal hlive ⊢
  -- Just behind its creation the semaphore has one reference.
  have hfresh : semaphore ≠ null ∧ counted (system.exec {} as).sems semaphore =
      some (context, 1 + UInt32.ofNat (retains semaphore after) -
        UInt32.ofNat (releases semaphore after)) := by
    rw [← hrun] at hlegal hlive ⊢
    obtain ⟨-, ⟨hne, -⟩, -⟩ := System.each_append.mp hlegal
    refine ⟨hne, ?_⟩
    rw [System.exec_append] at hlive ⊢
    obtain ⟨sem, hsem⟩ := Option.isSome_iff_exists.mp (isSome_of_isValid hlive)
    have hcounted : counted (system.exec (step (system.exec {} before) (.create context semaphore))
        after).sems semaphore = some (sem.context, sem.refCount) :=
      Option.map_eq_some_iff.mpr ⟨sem, hsem, rfl⟩
    obtain ⟨m, hm, hn⟩ := counted_run hne hcreate hcounted
    have hcreated : counted (step (system.exec {} before) (.create context semaphore)).sems semaphore =
        some (context, 1) := by
      simp [counted, step, Action.outcome, clCreateSemaphoreWithProperties, OrdMap.get?_insert]
    obtain ⟨hcontext, hone⟩ := Prod.mk.inj (Option.some.inj (hcreated.symm.trans hm))
    rw [← hone] at hn
    exact hcounted.trans (by rw [hn, hcontext])
  obtain ⟨sem, hsem, hfields⟩ := Option.map_eq_some_iff.mp hfresh.2
  obtain ⟨hcontext, hcount⟩ := Prod.mk.inj hfields
  unfold clGetSemaphoreInfo
  rw [hlive]
  simp only [Bool.not_true, Bool.false_eq_true, if_false]
  cases paramName with
  | context => simp only [hsem, Option.map_some, Option.getD_some, hcontext]
  | referenceCount => simp only [refCountOf, hsem, Option.map_some, Option.getD_some, hcount]
  | type => rfl
  | payload =>
    have hiff : (eventOf (system.exec {} as).sems semaphore ≠ null ∧
        (statusOf (eventOf (system.exec {} as).sems semaphore)).getD 0 = clComplete) ↔
        ∃ event, Pending as semaphore event ∧ (statusOf event).getD 0 = clComplete := by
      simp only [pending_iff hlegal]
      constructor
      · intro h
        exact ⟨_, ⟨rfl, h.1⟩, h.2⟩
      · rintro ⟨event, ⟨rfl, hevent⟩, hstatus⟩
        exact ⟨hevent, hstatus⟩
    dsimp only
    rw [payloadOf_eq, if_congr hiff rfl rfl]
  | properties => rfl
  | other name => rfl

/-- A semaphore that was retained and signaled, by an event that cannot be asked. -/
def retainedAndSignaled : List Action :=
  [.retain 64, .signal [64] [] none ⟨clSuccess, some 512, fun _ => clSuccess, clSuccess⟩]

theorem clGetSemaphoreInfo_retained :
    clGetSemaphoreInfo (fun _ => none) 64 .referenceCount ⟨4, true, false⟩
        (system.exec {} (.create 16 64 :: retainedAndSignaled)).sems =
      ⟨clSuccess, some [2, 0, 0, 0], none⟩ := by
  have hlegal : system.Legal {} ([] ++ .create 16 64 :: retainedAndSignaled) :=
    ⟨⟨by decide, rfl⟩, trivial, trivial, trivial⟩
  refine (clGetSemaphoreInfo_run hlegal ?_ rfl _ _ _).trans (by decide)
  simp [retainedAndSignaled]

end CLIntercept.Semaphore
