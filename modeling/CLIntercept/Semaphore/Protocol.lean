import CLIntercept.Lib.Pairing
import CLIntercept.Semaphore.Failure

/-!
# Signals and waits

What the emulation keeps of a semaphore is one event. By the calls alone a semaphore is pending if
it was signaled and, since then, neither waited for nor deleted. The entry points take exactly the
calls of this protocol (`marker_iff`): a wait where every semaphore is pending, a signal where none of
them is, and the marker of a wait stands behind the events of the signals that it is for. So signals
and waits of a semaphore alternate in every run, and each wait is behind its own signal.
-/

set_option autoImplicit false

namespace CLIntercept.Semaphore

open CLIntercept.Lib

/-! ## The protocol -/

/-- The wait list of the marker that a call enqueues, if it enqueues one. -/
def markerOf (o : Outcome) : Option (List Handle) :=
  o.calls.findSome? fun
    | .enqueueMarker waitList _ _ => some waitList
    | _ => none

/-- An event variable, read as an event. -/
def asEvent (event : Handle) : Option Handle := if event = null then none else some event

/-- What a call does to the semaphores: a signal with a marker gives each of its own the event that
is in the event variable then; a wait with a marker, or a release that deletes, takes it. -/
def pairing : Pairing (State × Action) Handle Handle where
  opens
    | (s, .signal semaphores eventWaitList event answers), semaphore =>
      if (markerOf (Action.outcome s.sems (.signal semaphores eventWaitList event answers))).isSome ∧
          semaphore ∈ semaphores then
        asEvent (answers.written.getD (event.getD null))
      else none
    | _, _ => none
  closes
    | (s, .wait semaphores eventWaitList answers), semaphore =>
      (markerOf (Action.outcome s.sems (.wait semaphores eventWaitList answers))).isSome &&
        decide (semaphore ∈ semaphores)
    | (s, .release semaphore'), semaphore =>
      semaphore = semaphore' && (((Action.outcome s.sems (.release semaphore')).sems).get? semaphore).isNone
    | _, _ => false
  opens_eq_none a semaphore h := by
    obtain ⟨s, a⟩ := a
    cases a with
    | signal semaphores eventWaitList event answers => exact Bool.noConfusion h
    | _ => rfl

/-- The run so far has signaled the semaphore with this event, and not taken it since. -/
def Pending (as : List Action) (semaphore event : Handle) : Prop :=
  pairing.Opened (system.trace {} as) semaphore event

/-- The run so far has taken whatever it signaled the semaphore with. -/
def Unsignaled (as : List Action) (semaphore : Handle) : Prop :=
  pairing.Shut (system.trace {} as) semaphore

/-! ## The event that is kept -/

/-- The event that a semaphore has, if it has one. -/
def State.held (s : State) (semaphore : Handle) : Option Handle := asEvent (eventOf s.sems semaphore)

theorem asEvent_null : asEvent null = none := rfl

theorem asEvent_eq_some_iff {event event' : Handle} :
    asEvent event = some event' ↔ event = event' ∧ event ≠ null := by
  unfold asEvent
  split
  next h => simp [h]
  next h => simp [h]

theorem asEvent_eq_none_iff {event : Handle} : asEvent event = none ↔ event = null := by
  unfold asEvent
  split
  next h => simp [h]
  next h => simp [h]

/-- A wait that its checks reject. -/
theorem wait_rejected {sems : Semaphores} {semaphores eventWaitList : List Handle}
    (hreject : semaphores = [] ∨ ∃ e, combinedWaitList sems eventWaitList semaphores = .error e)
    (answers : WaitAnswers) :
    ∃ e, clEnqueueWaitSemaphores semaphores eventWaitList answers sems = ⟨sems, [], e⟩ := by
  unfold clEnqueueWaitSemaphores
  split
  · exact ⟨_, rfl⟩
  · next hempty =>
    rcases hreject with rfl | ⟨e, he⟩
    · exact absurd rfl hempty
    · rw [he]
      exact ⟨e, rfl⟩

/-- What a wait does behind its checks. -/
theorem wait_accepted {sems : Semaphores} {semaphores eventWaitList combined : List Handle}
    (hne : semaphores ≠ []) (hcheck : combinedWaitList sems eventWaitList semaphores = .ok combined)
    (answers : WaitAnswers) :
    markerOf (clEnqueueWaitSemaphores semaphores eventWaitList answers sems) = some combined ∧
      ∀ semaphore, eventOf (clEnqueueWaitSemaphores semaphores eventWaitList answers sems).sems
        semaphore = if semaphore ∈ semaphores then null else eventOf sems semaphore := by
  have hlive := combinedWaitList_ok hcheck
  simp only [clEnqueueWaitSemaphores, List.isEmpty_iff, hne, if_false, hcheck]
  exact ⟨rfl, fun semaphore =>
    eventOf_releaseEvents _ _ _ _ _ fun s hs => (hlive s hs).1⟩

/-- A signal behind its checks enqueues a marker. -/
theorem markerOf_signal {sems : Semaphores} {semaphores : List Handle} (hne : semaphores ≠ [])
    (hcheck : checkUnsignaled sems semaphores = .ok ()) (eventWaitList : List Handle)
    (event : Option Handle) (answers : SignalAnswers) :
    markerOf (clEnqueueSignalSemaphores semaphores eventWaitList event answers sems) =
      some eventWaitList := by
  simp only [clEnqueueSignalSemaphores, List.isEmpty_iff, hne, if_false, hcheck]
  rfl

theorem eventOf_modify_refCount (sems : Semaphores) (semaphore semaphore' : Handle)
    (f : UInt32 → UInt32) :
    eventOf (modify sems semaphore fun s => { s with refCount := f s.refCount }) semaphore' =
      eventOf sems semaphore' := by
  unfold eventOf
  rw [get?_modify]
  split
  next h => rw [h, Option.map_map]; rfl
  next => rfl

/-- A release leaves the event of a semaphore that is there behind it. -/
theorem eventOf_release {sems : Semaphores} {semaphore semaphore' : Handle}
    (h : semaphore ≠ semaphore' ∨ ((clReleaseSemaphore semaphore' sems).sems.get? semaphore).isSome) :
    eventOf (clReleaseSemaphore semaphore' sems).sems semaphore = eventOf sems semaphore := by
  unfold clReleaseSemaphore at h ⊢
  split
  · rfl
  next hvalid =>
    rw [if_neg hvalid] at h
    dsimp only at h ⊢
    split
    next hzero =>
      rw [if_pos hzero] at h
      have hne : semaphore ≠ semaphore' := by
        rcases h with h | h
        · exact h
        · rintro rfl
          simp [OrdMap.get?_erase] at h
      have hevent := eventOf_modify_refCount sems semaphore' semaphore (· - 1)
      unfold eventOf at hevent ⊢
      rw [OrdMap.get?_erase, if_neg hne]
      exact hevent
    next => exact eventOf_modify_refCount _ _ _ (· - 1)

section

variable (s : State) (semaphore : Handle)

/-- The protocol, for one call and one semaphore. -/
def FollowsProtocol (a : Action) : Prop :=
  (step s a).held semaphore =
    if pairing.closes (s, a) semaphore then none
    else (s.held semaphore).or (pairing.opens (s, a) semaphore)

variable {s semaphore}

/-- A call that leaves the event alone may neither signal the semaphore nor take it. -/
theorem followsProtocol_of_same {a : Action}
    (hevent : eventOf (step s a).sems semaphore = eventOf s.sems semaphore)
    (hclose : pairing.closes (s, a) semaphore = false)
    (hopen : pairing.opens (s, a) semaphore = none) : FollowsProtocol s semaphore a := by
  rw [FollowsProtocol, hclose, hopen, State.held, hevent]
  simp [State.held]

/-- A creation leaves the other semaphores as they are, and the new one without an event. -/
theorem followsProtocol_create {context semaphore' : Handle}
    (hlegal : legal s (.create context semaphore')) :
    FollowsProtocol s semaphore (.create context semaphore') := by
  refine followsProtocol_of_same ?_ rfl rfl
  unfold eventOf step Action.outcome clCreateSemaphoreWithProperties
  rw [OrdMap.get?_insert]
  split
  next h => rw [h, hlegal.2]; rfl
  next => rfl

/-- A wait that goes through takes the event, one that fails leaves it. -/
theorem followsProtocol_wait (semaphores eventWaitList : List Handle) (answers : WaitAnswers) :
    FollowsProtocol s semaphore (.wait semaphores eventWaitList answers) := by
  by_cases hreject : semaphores = [] ∨
      ∃ e, combinedWaitList s.sems eventWaitList semaphores = .error e
  · obtain ⟨e, hwait⟩ := wait_rejected hreject answers
    refine followsProtocol_of_same ?_ ?_ rfl
    · simp only [step, Action.outcome, hwait]
    · simp only [pairing, Action.outcome, hwait]
      rfl
  · obtain ⟨hne, hcheck⟩ := not_or.mp hreject
    cases hok : combinedWaitList s.sems eventWaitList semaphores with
    | error e => exact absurd ⟨e, hok⟩ hcheck
    | ok combined =>
      obtain ⟨hmarker, hevents⟩ := wait_accepted hne hok answers
      simp only [FollowsProtocol, State.held, step, pairing, Action.outcome, hmarker, hevents,
        Option.isSome_some, Bool.true_and, decide_eq_true_eq, Option.or_none]
      split
      · exact asEvent_null
      · rfl

/-- A signal that goes through brings its event, one that fails leaves the semaphore. -/
theorem followsProtocol_signal (semaphores eventWaitList : List Handle) (event : Option Handle)
    (answers : SignalAnswers) :
    FollowsProtocol s semaphore (.signal semaphores eventWaitList event answers) := by
  by_cases hreject : semaphores = [] ∨ ∃ e, checkUnsignaled s.sems semaphores = .error e
  · obtain ⟨e, -, hsignal⟩ := signal_rejected hreject eventWaitList event answers
    refine followsProtocol_of_same ?_ rfl ?_
    · simp only [step, Action.outcome, hsignal]
    · simp only [pairing, Action.outcome, hsignal]
      exact if_neg fun h => Bool.false_ne_true h.1
  · obtain ⟨hne, hcheck⟩ := not_or.mp hreject
    cases hok : checkUnsignaled s.sems semaphores with
    | error e => exact absurd ⟨e, hok⟩ hcheck
    | ok _ =>
      have hmarker := markerOf_signal hne hok eventWaitList event answers
      obtain ⟨-, hevents, -⟩ := signal_accepted hne hok eventWaitList event answers
      simp only [FollowsProtocol, State.held, step, pairing, Action.outcome, hmarker, hevents,
        Option.isSome_some, true_and, Bool.false_eq_true, if_false]
      split
      next hmem =>
        -- a semaphore that is signaled had no event
        rw [(checkUnsignaled_ok hok semaphore hmem).2, asEvent_null, Option.none_or]
      next => rw [Option.or_none]

/-- A retain leaves the event. -/
theorem followsProtocol_retain (semaphore' : Handle) :
    FollowsProtocol s semaphore (.retain semaphore') := by
  refine followsProtocol_of_same ?_ rfl rfl
  simp only [step, Action.outcome, clRetainSemaphore]
  split
  · rfl
  · exact eventOf_modify_refCount _ _ _ (· + 1)

/-- A release leaves the events of the others. -/
theorem followsProtocol_release (semaphore' : Handle) :
    FollowsProtocol s semaphore (.release semaphore') := by
  have hclose : pairing.closes (s, .release semaphore') semaphore =
      (decide (semaphore = semaphore') &&
        ((clReleaseSemaphore semaphore' s.sems).sems.get? semaphore).isNone) := rfl
  cases hdeleted : pairing.closes (s, .release semaphore') semaphore with
  | true =>
    rw [FollowsProtocol, hdeleted, if_pos rfl]
    rw [hclose, Bool.and_eq_true] at hdeleted
    have hevent : eventOf (clReleaseSemaphore semaphore' s.sems).sems semaphore = null := by
      unfold eventOf
      rw [Option.isNone_iff_eq_none.mp hdeleted.2]
      rfl
    exact asEvent_eq_none_iff.mpr hevent
  | false =>
    refine followsProtocol_of_same (eventOf_release ?_) hdeleted rfl
    rw [hclose, Bool.and_eq_false_iff] at hdeleted
    exact hdeleted.imp of_decide_eq_false fun h => by simpa [Option.isSome_iff_ne_none] using h

end

/-- **One call of the protocol**, on the event that is kept. -/
theorem held_step (s : State) (a : Action) (semaphore : Handle) (hlegal : legal s a) :
    (step s a).held semaphore =
      if pairing.closes (s, a) semaphore then none
      else (s.held semaphore).or (pairing.opens (s, a) semaphore) := by
  cases a with
  | create context semaphore' => exact followsProtocol_create hlegal
  | wait semaphores eventWaitList answers =>
    exact followsProtocol_wait semaphores eventWaitList answers
  | signal semaphores eventWaitList event answers =>
    exact followsProtocol_signal semaphores eventWaitList event answers
  | retain semaphore' => exact followsProtocol_retain semaphore'
  | release semaphore' => exact followsProtocol_release semaphore'

/-! ## Runs -/

/-- What is kept of a semaphore is what the calls so far have left pending. -/
theorem held_run {as : List Action} (hlegal : system.Legal {} as) (semaphore : Handle) :
    (system.exec {} as).held semaphore = pairing.look (system.trace {} as) semaphore := by
  have hinit : ∀ semaphore, State.held {} semaphore = none := fun _ => rfl
  exact get_exec_eq_look hinit held_step hlegal semaphore

/-- **Pending is the event that the layer holds.** -/
theorem pending_iff {as : List Action} (hlegal : system.Legal {} as) {semaphore event : Handle} :
    Pending as semaphore event ↔
      eventOf (system.exec {} as).sems semaphore = event ∧ event ≠ null := by
  unfold Pending
  rw [← Pairing.look_eq_some_iff, ← held_run hlegal, State.held, asEvent_eq_some_iff]
  exact ⟨fun ⟨h, hne⟩ => ⟨h, h ▸ hne⟩, fun ⟨h, hne⟩ => ⟨h, h.symm ▸ hne⟩⟩

/-- **Unsignaled is a semaphore for which it holds none.** -/
theorem unsignaled_iff {as : List Action} (hlegal : system.Legal {} as) {semaphore : Handle} :
    Unsignaled as semaphore ↔ eventOf (system.exec {} as).sems semaphore = null := by
  unfold Unsignaled
  rw [← Pairing.look_eq_none_iff, ← held_run hlegal, State.held, asEvent_eq_none_iff]

/-- The wait list that a wait makes, and when it makes one. -/
theorem combinedWaitList_eq_ok_iff {sems : Semaphores} {semaphores : List Handle} :
    ∀ {waitList combined : List Handle}, combinedWaitList sems waitList semaphores = .ok combined ↔
      combined = waitList ++ semaphores.map (eventOf sems) ∧
        ∀ semaphore ∈ semaphores, isValid sems semaphore = true ∧ eventOf sems semaphore ≠ null := by
  induction semaphores with
  | nil =>
    intro waitList combined
    unfold combinedWaitList
    rw [Except.ok.injEq, List.map_nil, List.append_nil]
    exact ⟨fun h => ⟨h.symm, fun _ hmem => absurd hmem List.not_mem_nil⟩, fun h => h.1.symm⟩
  | cons semaphore rest ih =>
    intro waitList combined
    unfold combinedWaitList
    cases hvalid : isValid sems semaphore with
    | false => simp [hvalid]
    | true =>
      by_cases hevent : eventOf sems semaphore = null
      · simp [hevent]
      · simp [hevent, hvalid, ih]

/-- A signal is let through if all its semaphores are unsignaled. -/
theorem checkUnsignaled_eq_ok_iff {sems : Semaphores} {semaphores : List Handle} :
    checkUnsignaled sems semaphores = .ok () ↔
      ∀ semaphore ∈ semaphores, isValid sems semaphore = true ∧ eventOf sems semaphore = null := by
  induction semaphores with
  | nil => simp [checkUnsignaled]
  | cons semaphore rest ih =>
    unfold checkUnsignaled
    cases hvalid : isValid sems semaphore with
    | false => simp [hvalid]
    | true =>
      by_cases hevent : eventOf sems semaphore = null
      · simp [hevent, hvalid, ih]
      · simp [hevent]

theorem eq_map_of_forall₂ {α β : Type*} {R : α → β → Prop} {f : α → β} (h : ∀ a b, R a b → f a = b)
    {xs : List α} {ys : List β} (hall : List.Forall₂ R xs ys) : ys = xs.map f := by
  induction hall with
  | nil => rfl
  | cons hab _ ih => rw [List.map_cons, ih, h _ _ hab]

/-- **Exactly which calls the emulation takes, and what it has the driver wait for.** A wait gets its
marker where every semaphore is live and pending, behind the application's events and the events that
they are pending with; a signal where every semaphore is live and unsignaled. -/
theorem marker_iff {as : List Action} (hlegal : system.Legal {} as) (semaphores : List Handle)
    (eventWaitList waitList : List Handle) :
    (∀ answers, markerOf (Action.outcome (system.exec {} as).sems
        (.wait semaphores eventWaitList answers)) = some waitList ↔
      semaphores ≠ [] ∧ ∃ events, waitList = eventWaitList ++ events ∧
        List.Forall₂ (fun semaphore event => isValid (system.exec {} as).sems semaphore = true ∧
          Pending as semaphore event) semaphores events) ∧
    (∀ event answers, markerOf (Action.outcome (system.exec {} as).sems
        (.signal semaphores eventWaitList event answers)) = some waitList ↔
      semaphores ≠ [] ∧ waitList = eventWaitList ∧
        ∀ semaphore ∈ semaphores, isValid (system.exec {} as).sems semaphore = true ∧
          Unsignaled as semaphore) := by
  simp only [pending_iff hlegal, unsignaled_iff hlegal]
  generalize (system.exec {} as).sems = sems
  refine ⟨fun answers => ?_, fun event answers => ?_⟩
  · have hiff : (∃ events, waitList = eventWaitList ++ events ∧
        List.Forall₂ (fun semaphore event => isValid sems semaphore = true ∧
          eventOf sems semaphore = event ∧ event ≠ null) semaphores events) ↔
        combinedWaitList sems eventWaitList semaphores = .ok waitList := by
      rw [combinedWaitList_eq_ok_iff]
      constructor
      · intro ⟨events, hwaitList, hall⟩
        obtain rfl := eq_map_of_forall₂ (fun _ _ h => h.2.1) hall
        refine ⟨hwaitList, ?_⟩
        rw [List.forall₂_map_right_iff, List.forall₂_same] at hall
        exact fun semaphore hmem => ⟨(hall semaphore hmem).1, (hall semaphore hmem).2.2⟩
      · intro ⟨hwaitList, hall⟩
        refine ⟨_, hwaitList, ?_⟩
        rw [List.forall₂_map_right_iff, List.forall₂_same]
        exact fun semaphore hmem => ⟨(hall semaphore hmem).1, rfl, (hall semaphore hmem).2⟩
    rw [hiff]
    by_cases hreject : semaphores = [] ∨
        ∃ e, combinedWaitList sems eventWaitList semaphores = .error e
    · obtain ⟨e, hwait⟩ := wait_rejected hreject answers
      simp only [Action.outcome, hwait]
      refine iff_of_false (by simp [markerOf]) fun ⟨hne, hok⟩ => ?_
      rcases hreject with h | ⟨e, he⟩
      · exact hne h
      · exact absurd (he.symm.trans hok) (by simp)
    · obtain ⟨hne, hcheck⟩ := not_or.mp hreject
      cases hok : combinedWaitList sems eventWaitList semaphores with
      | error e => exact absurd ⟨e, hok⟩ hcheck
      | ok combined =>
        obtain ⟨hmarker, -⟩ := wait_accepted hne hok answers
        rw [Action.outcome, hmarker, Option.some.injEq, Except.ok.injEq]
        exact ⟨fun h => ⟨hne, h⟩, fun h => h.2⟩
  · rw [← checkUnsignaled_eq_ok_iff]
    by_cases hreject : semaphores = [] ∨ ∃ e, checkUnsignaled sems semaphores = .error e
    · obtain ⟨e, -, hsignal⟩ := signal_rejected hreject eventWaitList event answers
      simp only [Action.outcome, hsignal]
      refine iff_of_false (by simp [markerOf]) fun ⟨hne, _, hok⟩ => ?_
      rcases hreject with h | ⟨e, he⟩
      · exact hne h
      · exact absurd (he.symm.trans hok) (by simp)
    · obtain ⟨hne, hcheck⟩ := not_or.mp hreject
      cases hok : checkUnsignaled sems semaphores with
      | error e => exact absurd ⟨e, hok⟩ hcheck
      | ok _ =>
        rw [Action.outcome, markerOf_signal hne hok eventWaitList event answers, Option.some.injEq]
        exact ⟨fun h => ⟨hne, h.symm, rfl⟩, fun h => h.2.1.symm⟩

/-- A wait for a semaphore that was signaled, with an event of the application's. -/
theorem marker_signaled :
    markerOf (Action.outcome (system.exec {} signaled).sems (.wait [64] [9] ⟨0, fun _ => 0⟩)) =
      some [9, 200] := by
  have hlegal : system.Legal {} signaled := ⟨⟨by decide, rfl⟩, trivial, trivial⟩
  have hpending : Pending signaled 64 200 := (pending_iff hlegal).mpr ⟨rfl, by decide⟩
  refine ((marker_iff hlegal [64] [9] [9, 200]).1 _).mpr ⟨List.cons_ne_nil _ _, [200], rfl, ?_⟩
  exact List.Forall₂.cons ⟨rfl, hpending⟩ List.Forall₂.nil

end CLIntercept.Semaphore
