import CLIntercept.Semaphore.Ownership

/-!
# What a failed call leaves behind

A wait or a signal that fails must leave all events and all references as they were, and a signal
that succeeds must leave an event in each of its semaphores. Both checks come before anything is
done, but the loops behind the marker run whatever the marker answers: a wait whose marker fails
has given its events away, and a signal whose marker fails keeps whatever the event variable holds.
`failsAtomically_iff` says which runs are free of this.
-/

set_option autoImplicit false

namespace CLIntercept.Semaphore

open CLIntercept.Lib

/-- A call leaves the events, and takes and gives back no reference. -/
structure Untouched (sems : Semaphores) (o : Outcome) : Prop where
  events : ∀ semaphore, eventOf o.sems semaphore = eventOf sems semaphore
  references : ∀ event, event ≠ null → balance o.calls event = 0

/-- **What a wait and a signal must do.** -/
def FailsAtomically (s : State) : Action → Prop
  | .wait semaphores eventWaitList answers =>
    let o := clEnqueueWaitSemaphores semaphores eventWaitList answers s.sems
    o.retVal ≠ clSuccess → Untouched s.sems o
  | .signal semaphores eventWaitList event answers =>
    let o := clEnqueueSignalSemaphores semaphores eventWaitList event answers s.sems
    (o.retVal ≠ clSuccess → Untouched s.sems o) ∧
      (o.retVal = clSuccess → ∀ semaphore ∈ semaphores, eventOf o.sems semaphore ≠ null)
  | _ => True

/-- **The condition on a call.** Behind the checks, the marker of a wait succeeds, and the marker
of a signal leaves an event exactly if it succeeds. -/
def MarkerAnswers (s : State) : Action → Prop
  | .wait semaphores eventWaitList answers =>
    semaphores ≠ [] → (combinedWaitList s.sems eventWaitList semaphores).isOk →
      answers.marker = clSuccess
  | .signal semaphores _ event answers =>
    semaphores ≠ [] → (checkUnsignaled s.sems semaphores).isOk →
      (answers.marker = clSuccess ↔ answers.written.getD (event.getD null) ≠ null)
  | _ => True

/-! ## The events after the loops -/

theorem eventOf_releaseEvents (release : Nat → Int) (semaphore' : Handle) :
    ∀ (i : Nat) (semaphores : List Handle) (sems : Semaphores),
      (∀ semaphore ∈ semaphores, (sems.get? semaphore).isSome) →
      eventOf (releaseEvents release i semaphores sems).1 semaphore' =
        if semaphore' ∈ semaphores then null else eventOf sems semaphore' := by
  intro i semaphores
  induction semaphores generalizing i with
  | nil => simp [releaseEvents]
  | cons semaphore rest ih =>
    intro sems hlive
    have hhead := hlive semaphore List.mem_cons_self
    simp only [releaseEvents]
    rw [ih (i + 1) _ (isSome_rest hlive null), eventOf_setEvent hhead]
    by_cases hs : semaphore' = semaphore <;> by_cases hrest : semaphore' ∈ rest <;>
      simp [hs, hrest]

theorem eventOf_signalEvents (event : Handle) (retain : Nat → Int) (semaphore' : Handle) :
    ∀ (i : Nat) (semaphores : List Handle) (sems : Semaphores),
      (∀ semaphore ∈ semaphores, (sems.get? semaphore).isSome) →
      eventOf (signalEvents event retain i semaphores sems).1 semaphore' =
        if semaphore' ∈ semaphores then event else eventOf sems semaphore' := by
  intro i semaphores
  induction semaphores generalizing i with
  | nil => simp [signalEvents]
  | cons semaphore rest ih =>
    intro sems hlive
    have hhead := hlive semaphore List.mem_cons_self
    simp only [signalEvents]
    rw [ih (i + 1) _ (isSome_rest hlive event), eventOf_setEvent hhead]
    by_cases hs : semaphore' = semaphore <;> by_cases hrest : semaphore' ∈ rest <;>
      simp [hs, hrest]

/-! ## One call -/

theorem untouched_refl (sems : Semaphores) (retVal : Int) : Untouched sems ⟨sems, [], retVal⟩ :=
  ⟨fun _ => rfl, fun _ _ => rfl⟩

/-- A marker that succeeds excuses a wait; one that fails does not. -/
theorem failsAtomically_wait (s : State) (semaphores eventWaitList : List Handle)
    (answers : WaitAnswers) :
    FailsAtomically s (.wait semaphores eventWaitList answers) ↔
      MarkerAnswers s (.wait semaphores eventWaitList answers) := by
  simp only [FailsAtomically, MarkerAnswers]
  unfold clEnqueueWaitSemaphores
  split
  · next hempty =>
    exact iff_of_true (fun _ => untouched_refl s.sems _) fun hne =>
      absurd (List.isEmpty_iff.mp hempty) hne
  · next hne =>
    have hne : semaphores ≠ [] := fun h => hne (List.isEmpty_iff.mpr h)
    cases hwait : combinedWaitList s.sems eventWaitList semaphores with
    | error e => exact iff_of_true (fun _ => untouched_refl s.sems _) fun _ h => nomatch h
    | ok combined =>
      have hlive := combinedWaitList_ok hwait
      constructor
      · intro hatomic _ _
        by_contra hfail
        -- The first semaphore has lost its event.
        obtain ⟨semaphore, hmem⟩ := List.exists_mem_of_ne_nil semaphores hne
        have hsame := (hatomic hfail).events semaphore
        rw [eventOf_releaseEvents _ _ _ _ _ fun s hs => (hlive s hs).1, if_pos hmem] at hsame
        exact (hlive semaphore hmem).2 hsame.symm
      · intro hok hfail
        exact absurd (hok hne rfl) hfail

theorem checkUnsignaled_error {sems : Semaphores} {semaphores : List Handle} {e : Int}
    (h : checkUnsignaled sems semaphores = .error e) : e ≠ clSuccess := by
  induction semaphores with
  | nil => cases h
  | cons semaphore rest ih =>
    unfold checkUnsignaled at h
    split at h
    · cases h
      decide
    · split at h
      · cases h
        decide
      · exact ih h

/-- A signal that its checks reject. -/
theorem signal_rejected {sems : Semaphores} {semaphores : List Handle}
    (hreject : semaphores = [] ∨ ∃ e, checkUnsignaled sems semaphores = .error e)
    (eventWaitList : List Handle) (event : Option Handle) (answers : SignalAnswers) :
    ∃ e, e ≠ clSuccess ∧
      clEnqueueSignalSemaphores semaphores eventWaitList event answers sems = ⟨sems, [], e⟩ := by
  unfold clEnqueueSignalSemaphores
  split
  · exact ⟨_, by decide, rfl⟩
  · next hempty =>
    rcases hreject with rfl | ⟨e, he⟩
    · exact absurd rfl hempty
    · rw [he]
      exact ⟨e, checkUnsignaled_error he, rfl⟩

/-- What a signal does behind its checks: each of its semaphores gets what the event variable
holds, and only that event changes hands. -/
theorem signal_accepted {sems : Semaphores} {semaphores : List Handle} (hne : semaphores ≠ [])
    (hcheck : checkUnsignaled sems semaphores = .ok ()) (eventWaitList : List Handle)
    (event : Option Handle) (answers : SignalAnswers) :
    let current := answers.written.getD (event.getD null)
    let o := clEnqueueSignalSemaphores semaphores eventWaitList event answers sems
    o.retVal = answers.marker ∧
      (∀ semaphore, eventOf o.sems semaphore =
        if semaphore ∈ semaphores then current else eventOf sems semaphore) ∧
      ∀ event', event' ≠ null → event' ≠ current → balance o.calls event' = 0 := by
  have hlive := fun s hs => (checkUnsignaled_ok hcheck s hs).1
  simp only [clEnqueueSignalSemaphores, List.isEmpty_iff, hne, if_false, hcheck]
  generalize answers.written.getD (event.getD null) = current
  have hlocal := balance_localEvent eventWaitList event answers current rfl
  refine ⟨trivial, fun semaphore => eventOf_signalEvents _ _ _ _ _ _ hlive, fun event' he' hne' => ?_⟩
  have hmarker := hlocal event' he'
  rw [if_neg hne'] at hmarker
  rw [List.cons_append, balance_cons, balance_append, balance_signalEvents _ _ _ _ _ _ hlive,
    if_neg hne', Nat.cast_zero, zero_add]
  exact hmarker

theorem failsAtomically_signal (s : State) (semaphores eventWaitList : List Handle)
    (event : Option Handle) (answers : SignalAnswers) :
    FailsAtomically s (.signal semaphores eventWaitList event answers) ↔
      MarkerAnswers s (.signal semaphores eventWaitList event answers) := by
  by_cases hreject : semaphores = [] ∨ ∃ e, checkUnsignaled s.sems semaphores = .error e
  · obtain ⟨e, he, hsignal⟩ := signal_rejected hreject eventWaitList event answers
    simp only [FailsAtomically, MarkerAnswers, hsignal]
    refine iff_of_true ⟨fun _ => untouched_refl s.sems e, fun h => absurd h he⟩ fun hne hok => ?_
    rcases hreject with rfl | ⟨e', he'⟩
    · exact absurd rfl hne
    · rw [he'] at hok
      cases hok
  · obtain ⟨hne, hcheck⟩ := not_or.mp hreject
    cases hok : checkUnsignaled s.sems semaphores with
    | error e => exact absurd ⟨e, hok⟩ hcheck
    | ok _ =>
      have hchecked := checkUnsignaled_ok hok
      obtain ⟨hret, hevents, hbalance⟩ := signal_accepted hne hok eventWaitList event answers
      obtain ⟨semaphore, hmem⟩ := List.exists_mem_of_ne_nil semaphores hne
      simp only [FailsAtomically, MarkerAnswers, hok]
      rw [hret]
      constructor
      · rintro ⟨hatomic, hsignaled⟩ - -
        constructor
        · intro hsuccess hnull
          have hevent := hsignaled hsuccess semaphore hmem
          rw [hevents, if_pos hmem] at hevent
          exact hevent hnull
        · intro hevent
          by_contra hfail
          have hsame := (hatomic hfail).events semaphore
          rw [hevents, if_pos hmem, (hchecked semaphore hmem).2] at hsame
          exact hevent hsame
      · intro hanswers
        have hanswers := hanswers hne rfl
        refine ⟨fun hfail => ?_, fun hsuccess s' hs' => ?_⟩
        · have hnull := not_not.mp fun hevent => hfail (hanswers.mpr hevent)
          refine ⟨fun s' => ?_, fun event' he' => hbalance event' he' (by rw [hnull]; exact he')⟩
          rw [hevents]
          split
          · next hs' => rw [hnull, (hchecked s' hs').2]
          · rfl
        · rw [hevents, if_pos hs']
          exact hanswers.mp hsuccess

/-! ## Runs -/

/-- **Exactly when all calls of a run are atomic.** -/
theorem failsAtomically_iff (as : List Action) :
    system.Each FailsAtomically {} as ↔ system.Each MarkerAnswers {} as := by
  refine System.each_congr (S := system) (fun s a => ?_) {} as
  cases a with
  | create => exact .rfl
  | wait semaphores eventWaitList answers =>
    exact failsAtomically_wait s semaphores eventWaitList answers
  | signal semaphores eventWaitList event answers =>
    exact failsAtomically_signal s semaphores eventWaitList event answers
  | retain => exact .rfl
  | release => exact .rfl

/-- A signaled semaphore is waited for, and the marker of the wait fails. -/
def failedWait : List Action :=
  signaled ++ [.wait [64] [] ⟨clOutOfResources, fun _ => clSuccess⟩]

/-- The wait has taken the event. -/
theorem failed_wait_takes_event :
    system.Legal {} failedWait ∧ ¬ system.Each FailsAtomically {} failedWait := by
  refine ⟨⟨⟨by decide, rfl⟩, trivial, trivial, trivial⟩, fun h => ?_⟩
  obtain ⟨-, -, hatomic, -⟩ := h
  have hevent := (hatomic (by decide)).events 64
  exact absurd hevent (by decide)

end CLIntercept.Semaphore
