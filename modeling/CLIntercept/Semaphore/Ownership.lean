import CLIntercept.Semaphore.Emulation
import Mathlib.Data.Finset.Card
import Mathlib.Algebra.BigOperators.Group.List.Basic
import Mathlib.Algebra.Ring.Int.Defs

/-!
# Who owns the event references

The emulation holds references to events on behalf of semaphores. `balance` is what it took minus
what it released, and `holders` the number of live semaphores that hold an event: `Balanced` says
that they agree.

A setting of one semaphore's event moves one holder (`holders_setEvent`), and each loop is a
sequence of such settings with one call each. So the loop of a wait keeps the balance if the
release succeeds each time it meets a semaphore that still has its event (`balance_releaseEvents`),
and the loop of a signal takes a reference a round but makes a holder only of each DISTINCT
semaphore (`holders_signalEvents`). A release of the last reference to a semaphore makes no call,
so it must not have an event. `balanced_iff` puts the three conditions together for runs.
-/

set_option autoImplicit false

namespace CLIntercept.Semaphore

open CLIntercept.Lib

/-! ## References and holders -/

/-- What a call takes of an event: one reference, or minus one where it gives it back. A call that
fails takes nothing. -/
def DriverCall.taken (event : Handle) : DriverCall → Int
  | .enqueueMarker _ result received => if received = event ∧ result = clSuccess then 1 else 0
  | .retainEvent e result => if e = event ∧ result = clSuccess then 1 else 0
  | .releaseEvent e result => if e = event ∧ result = clSuccess then -1 else 0

/-- References taken minus references released. -/
def balance (calls : List DriverCall) (event : Handle) : Int :=
  (calls.map (·.taken event)).sum

/-- The number of live semaphores that hold an event. -/
def holders (sems : Semaphores) (event : Handle) : Nat := sems.count fun s => s.event = event

/-- **The property**: for every event, the references still held are those of the semaphores. -/
def Balanced (s : State) : Prop :=
  ∀ event, event ≠ null → balance s.calls event = holders s.sems event

@[simp] theorem balance_nil (event : Handle) : balance [] event = 0 := rfl

@[simp] theorem balance_cons (c : DriverCall) (calls : List DriverCall) (event : Handle) :
    balance (c :: calls) event = c.taken event + balance calls event := by
  simp [balance]

/-- The references of two sequences of calls add up. -/
@[simp] theorem balance_append (calls calls' : List DriverCall) (event : Handle) :
    balance (calls ++ calls') event = balance calls event + balance calls' event := by
  simp [balance]

/-! ## Writes to one semaphore -/

/-- A change reaches one semaphore. -/
theorem get?_modify (sems : Semaphores) (semaphore semaphore' : Nat)
    (f : CliSemaphore → CliSemaphore) :
    (modify sems semaphore f).get? semaphore' =
      if semaphore' = semaphore then (sems.get? semaphore).map f else sems.get? semaphore' := by
  unfold modify
  by_cases heq : semaphore' = semaphore
  · subst heq
    cases h : sems.get? semaphore' <;> simp [OrdMap.get?_insert, h]
  · cases sems.get? semaphore <;> simp [OrdMap.get?_insert, heq]

/-- A semaphore that is live holds the event that it is given. -/
theorem eventOf_setEvent {sems : Semaphores} {semaphore : Nat}
    (h : (sems.get? semaphore).isSome) (semaphore' event : Nat) :
    eventOf (setEvent sems semaphore event) semaphore' =
      if semaphore' = semaphore then event else eventOf sems semaphore' := by
  obtain ⟨s, hs⟩ := Option.isSome_iff_exists.mp h
  unfold eventOf setEvent
  rw [get?_modify]
  split <;> simp [hs]

/-- No semaphore comes or goes with it. -/
theorem isSome_modify (sems : Semaphores) (semaphore semaphore' : Nat)
    (f : CliSemaphore → CliSemaphore) :
    ((modify sems semaphore f).get? semaphore').isSome = (sems.get? semaphore').isSome := by
  rw [get?_modify]
  split
  · next h => rw [h, Option.isSome_map]
  · rfl

/-- A write to a semaphore moves it from the holders of its old event to those of its new one. -/
theorem holders_modify {sems : Semaphores} {semaphore : Nat} {s : CliSemaphore}
    (h : sems.get? semaphore = some s) (f : CliSemaphore → CliSemaphore) (event : Handle) :
    holders (modify sems semaphore f) event + (if s.event = event then 1 else 0) =
      holders sems event + (if (f s).event = event then 1 else 0) := by
  have hold : holders sems event = holders (sems.erase semaphore) event +
      (if s.event = event then 1 else 0) := by
    simpa [holders, h] using OrdMap.count_eq_erase sems semaphore fun s => s.event = event
  have hnew : holders (modify sems semaphore f) event = holders (sems.erase semaphore) event +
      (if (f s).event = event then 1 else 0) := by
    simpa [holders, modify, h] using
      OrdMap.count_insert sems semaphore (f s) fun s => s.event = event
  omega

/-- The new event has a holder more, the old one has one less. -/
theorem holders_setEvent {sems : Semaphores} {semaphore : Nat}
    (h : (sems.get? semaphore).isSome) (new event : Handle) :
    holders (setEvent sems semaphore new) event +
        (if eventOf sems semaphore = event then 1 else 0) =
      holders sems event + (if new = event then 1 else 0) := by
  obtain ⟨s, hs⟩ := Option.isSome_iff_exists.mp h
  simpa [eventOf, hs, setEvent] using holders_modify hs (fun s => { s with event := new }) event

/-! ## The loop of a wait -/

/-- How often the loop meets a semaphore that still holds the event and fails to release it. -/
def failures (release : Nat → Int) (event : Handle) : Nat → List Handle → Semaphores → Nat
  | _, [], _ => 0
  | i, semaphore :: rest, sems =>
    (if eventOf sems semaphore = event ∧ release i ≠ clSuccess then 1 else 0) +
      failures release event (i + 1) rest (setEvent sems semaphore null)

/-- A round leaves the semaphores of the rest where they are. -/
theorem isSome_rest {sems : Semaphores} {semaphore : Handle} {rest : List Handle}
    (hlive : ∀ s ∈ semaphore :: rest, (sems.get? s).isSome) (event : Handle) :
    ∀ s ∈ rest, ((setEvent sems semaphore event).get? s).isSome := by
  intro s hs
  rw [setEvent, isSome_modify]
  exact hlive s (List.mem_cons_of_mem _ hs)

/-- The loop gives back a reference for each holder it ends, but where the release fails. -/
theorem balance_releaseEvents (release : Nat → Int) {event : Handle} (he : event ≠ null) :
    ∀ (i : Nat) (semaphores : List Handle) (sems : Semaphores),
      (∀ semaphore ∈ semaphores, (sems.get? semaphore).isSome) →
      balance (releaseEvents release i semaphores sems).2 event + holders sems event =
        holders (releaseEvents release i semaphores sems).1 event +
          failures release event i semaphores sems := by
  intro i semaphores
  induction semaphores generalizing i with
  | nil => simp [releaseEvents, failures]
  | cons semaphore rest ih =>
    intro sems hlive
    have hhead := hlive semaphore (List.mem_cons_self ..)
    have ih := ih (i + 1) (setEvent sems semaphore null) (isSome_rest hlive null)
    have hset := holders_setEvent hhead null event
    simp only [releaseEvents, failures, balance_cons, DriverCall.taken]
    rw [if_neg he.symm] at hset
    by_cases hev : eventOf sems semaphore = event <;> by_cases hok : release i = clSuccess <;>
      simp only [hev, hok, if_true, if_false, false_and, not_true_eq_false,
        not_false_eq_true, and_self, and_false, ne_eq] at hset ⊢ <;> omega

/-- The release succeeds whenever the loop meets a semaphore for the first time. -/
def ReleasesSucceed (release : Nat → Int) (i : Nat) (semaphores : List Handle)
    (sems : Semaphores) : Prop :=
  ∀ j semaphore, semaphores[j]? = some semaphore → semaphore ∉ semaphores.take j →
    eventOf sems semaphore ≠ null → release (i + j) = clSuccess

/-- All events are given back if every release succeeds. -/
theorem failures_eq_zero_iff (release : Nat → Int) :
    ∀ (i : Nat) (semaphores : List Handle) (sems : Semaphores),
      (∀ semaphore ∈ semaphores, (sems.get? semaphore).isSome) →
      ((∀ event, event ≠ null → failures release event i semaphores sems = 0) ↔
        ReleasesSucceed release i semaphores sems) := by
  intro i semaphores
  induction semaphores generalizing i with
  | nil => simp [failures, ReleasesSucceed]
  | cons semaphore rest ih =>
    intro sems hlive
    have hhead := hlive semaphore (List.mem_cons_self ..)
    have ih := ih (i + 1) (setEvent sems semaphore null) (isSome_rest hlive null)
    have hsplit : (∀ event, event ≠ null →
        failures release event i (semaphore :: rest) sems = 0) ↔
        (eventOf sems semaphore ≠ null → release i = clSuccess) ∧
          ∀ event, event ≠ null →
            failures release event (i + 1) rest (setEvent sems semaphore null) = 0 := by
      simp only [failures, Nat.add_eq_zero_iff]
      constructor
      · refine fun h => ⟨fun hev => ?_, fun event he => (h event he).2⟩
        by_contra hfail
        simpa [hfail] using (h _ hev).1
      · refine fun h event he => ⟨if_neg fun hev => ?_, h.2 event he⟩
        exact hev.2 (h.1 (hev.1 ▸ he))
    rw [hsplit, ih]
    constructor
    · rintro ⟨hfirst, hrest⟩ j s hj hnew hev
      cases j with
      | zero =>
        obtain rfl : semaphore = s := by simpa using hj
        exact hfirst hev
      | succ j =>
        rw [List.take_succ_cons, List.mem_cons, not_or] at hnew
        have := hrest j s hj hnew.2 (by rwa [eventOf_setEvent hhead, if_neg hnew.1])
        rwa [Nat.add_right_comm, Nat.add_assoc] at this
    · refine fun h => ⟨fun hev => h 0 semaphore rfl List.not_mem_nil hev,
        fun j s hj hnew hev => ?_⟩
      rw [eventOf_setEvent hhead] at hev
      split at hev
      · exact absurd rfl hev
      · next hne =>
        have := h (j + 1) s hj (by simp [hne, hnew]) hev
        rwa [Nat.add_right_comm, Nat.add_assoc]

/-! ## The loop of a signal -/

/-- The semaphores of a list that do not hold the event yet. -/
def missing (event : Handle) (semaphores : List Handle) (sems : Semaphores) : List Handle :=
  semaphores.filter fun s => eventOf sems s ≠ event

/-- What the rest of the loop still meets is what it met before, without this semaphore. -/
theorem missing_setEvent {sems : Semaphores} {semaphore : Handle}
    (hlive : (sems.get? semaphore).isSome) (event : Handle) (rest : List Handle) :
    missing event rest (setEvent sems semaphore event) =
      (missing event rest sems).filter fun s => s ≠ semaphore := by
  unfold missing
  rw [List.filter_filter]
  refine List.filter_congr fun s _ => ?_
  rw [eventOf_setEvent hlive]
  by_cases hs : s = semaphore <;> simp [hs]

/-- A semaphore that holds the event is not met. -/
theorem missing_of_eq {sems : Semaphores} {semaphore event : Handle}
    (hev : eventOf sems semaphore = event) (rest : List Handle) :
    missing event (semaphore :: rest) sems =
      (missing event rest sems).filter fun s => s ≠ semaphore := by
  have hself : (missing event rest sems).filter (fun s => s ≠ semaphore) =
      missing event rest sems := by
    apply List.filter_eq_self.mpr
    intro s hs
    have hne := (List.mem_filter.mp hs).2
    simp only [decide_eq_true_eq] at hne ⊢
    exact fun heq => hne (heq ▸ hev)
  rw [hself]
  exact List.filter_cons_of_neg (by simpa using hev)

/-- One that does not is met once more than in the rest of the loop. -/
theorem card_missing_of_ne {sems : Semaphores} {semaphore event : Handle}
    (hev : eventOf sems semaphore ≠ event) (rest : List Handle) :
    (missing event (semaphore :: rest) sems).toFinset.card =
      ((missing event rest sems).filter fun s => s ≠ semaphore).toFinset.card + 1 := by
  have herase : ((missing event rest sems).filter fun s => s ≠ semaphore).toFinset =
      (missing event rest sems).toFinset.erase semaphore := by
    ext s
    simp [and_comm]
  have hcons : missing event (semaphore :: rest) sems = semaphore :: missing event rest sems :=
    List.filter_cons_of_pos (by simpa using hev)
  rw [hcons, List.toFinset_cons, herase,
    ← Finset.card_erase_add_one (Finset.mem_insert_self semaphore _), Finset.erase_insert_eq_erase]

/-- All of them are met where none holds an event. -/
theorem missing_of_unsignaled {sems : Semaphores} {semaphores : List Handle} {event : Handle}
    (h : ∀ s ∈ semaphores, eventOf sems s = null) (he : event ≠ null) :
    missing event semaphores sems = semaphores := by
  apply List.filter_eq_self.mpr
  intro s hs
  simpa [h s hs] using he.symm

/-- The loop makes a holder of every semaphore that does not hold the event yet, once. -/
theorem holders_signalEvents (event : Handle) (retain : Nat → Int) :
    ∀ (i : Nat) (semaphores : List Handle) (sems : Semaphores),
      (∀ semaphore ∈ semaphores, (sems.get? semaphore).isSome ∧
        (eventOf sems semaphore = null ∨ eventOf sems semaphore = event)) →
      ∀ event', event' ≠ null → holders (signalEvents event retain i semaphores sems).1 event' =
        holders sems event' +
          if event' = event then (missing event semaphores sems).toFinset.card else 0 := by
  intro i semaphores
  induction semaphores generalizing i with
  | nil => simp [signalEvents, missing]
  | cons semaphore rest ih =>
    intro sems hlive event' he'
    obtain ⟨hhead, hevent⟩ := hlive semaphore (List.mem_cons_self ..)
    have ih := ih (i + 1) (setEvent sems semaphore event)
      (fun s hs => by
        obtain ⟨hs, hse⟩ := hlive s (List.mem_cons_of_mem _ hs)
        refine ⟨by rwa [setEvent, isSome_modify], ?_⟩
        rw [eventOf_setEvent hhead]
        split
        · exact .inr rfl
        · exact hse) event' he'
    have hset := holders_setEvent hhead event event'
    rw [missing_setEvent hhead] at ih
    simp only [signalEvents, ih]
    by_cases hev : eventOf sems semaphore = event
    · rw [missing_of_eq hev]
      simp only [hev] at hset
      omega
    · have hnull : ¬ eventOf sems semaphore = event' := fun h => by
        rcases hevent with h0 | h0
        · exact he' (h ▸ h0)
        · exact hev h0
      rw [card_missing_of_ne hev]
      simp only [hnull, if_false] at hset
      by_cases hee : event' = event
      · simp only [hee, if_true] at hset ⊢
        omega
      · simp only [hee, Ne.symm hee, if_false] at hset ⊢
        omega

/-- The loop takes a reference in each round whose retain succeeds. -/
theorem balance_signalEvents (event : Handle) (retain : Nat → Int) (event' : Handle) :
    ∀ (i : Nat) (semaphores : List Handle) (sems : Semaphores),
      (∀ semaphore ∈ semaphores, (sems.get? semaphore).isSome) →
      balance (signalEvents event retain i semaphores sems).2 event' =
        if event' = event then
          ((List.range' i semaphores.length).countP fun j => retain j = clSuccess : Nat) else 0 := by
  intro i semaphores
  induction semaphores generalizing i with
  | nil => simp [signalEvents]
  | cons semaphore rest ih =>
    intro sems hlive
    have hhead := hlive semaphore (List.mem_cons_self ..)
    have ih := ih (i + 1) (setEvent sems semaphore event) (isSome_rest hlive event)
    simp only [signalEvents, balance_cons, ih, DriverCall.taken, eventOf_setEvent hhead, if_true,
      List.length_cons, List.range'_succ, List.countP_cons]
    by_cases hee : event' = event <;> by_cases hok : retain i = clSuccess <;>
      simp [hee, eq_comm (a := event), hok, Int.add_comm]

/-! ## The entry points -/

theorem isSome_of_isValid {sems : Semaphores} {semaphore : Handle} (h : isValid sems semaphore) :
    (sems.get? semaphore).isSome := (Bool.and_eq_true_iff.mp h).2

/-- A wait that goes through finds all semaphores signaled. -/
theorem combinedWaitList_ok {sems : Semaphores} {semaphores combined events : List Handle}
    (h : combinedWaitList sems combined semaphores = .ok events) :
    ∀ semaphore ∈ semaphores, (sems.get? semaphore).isSome ∧ eventOf sems semaphore ≠ null := by
  induction semaphores generalizing combined with
  | nil => exact fun s hs => absurd hs List.not_mem_nil
  | cons semaphore rest ih =>
    intro s hs
    unfold combinedWaitList at h
    split at h
    · exact nomatch h
    · next hvalid =>
      split at h
      · exact nomatch h
      · next hev =>
        rcases List.mem_cons.mp hs with rfl | hs
        · exact ⟨isSome_of_isValid (by simpa using hvalid), hev⟩
        · exact ih h s hs

/-- A signal that goes through finds none of them signaled. -/
theorem checkUnsignaled_ok {sems : Semaphores} {semaphores : List Handle}
    (h : checkUnsignaled sems semaphores = .ok ()) :
    ∀ semaphore ∈ semaphores, (sems.get? semaphore).isSome ∧ eventOf sems semaphore = null := by
  induction semaphores with
  | nil => exact fun s hs => absurd hs List.not_mem_nil
  | cons semaphore rest ih =>
    intro s hs
    unfold checkUnsignaled at h
    split at h
    · exact nomatch h
    · next hvalid =>
      split at h
      · exact nomatch h
      · next hev =>
        rcases List.mem_cons.mp hs with rfl | hs
        · exact ⟨isSome_of_isValid (by simpa using hvalid), not_not.mp hev⟩
        · exact ih h s hs

/-- The references that the driver grants a signal beyond the loop: the local event itself, until
it is released. -/
def localReferences (event : Option Handle) (answers : SignalAnswers) : Int :=
  if event.isNone then
    (if answers.marker = clSuccess then 1 else 0) - (if answers.release = clSuccess then 1 else 0)
  else 0

/-- **The condition on a call**, of what it meets and what the driver answers.
A wait that gets through its checks has its releases succeed. A signal that gets through, with an
event to store, has as many references granted to it as there are distinct semaphores. A release
that drops the last reference finds no event. -/
def CallOk (sems : Semaphores) : Action → Prop
  | .create _ _ => True
  | .wait semaphores eventWaitList answers =>
    (combinedWaitList sems eventWaitList semaphores).isOk →
      ReleasesSucceed answers.release 0 semaphores sems
  | .signal semaphores _ event answers =>
    semaphores ≠ [] → (checkUnsignaled sems semaphores).isOk →
      answers.written.getD (event.getD null) ≠ null →
        ((List.range semaphores.length).countP fun i => answers.retain i = clSuccess : Nat) +
          localReferences event answers = semaphores.toFinset.card
  | .retain _ => True
  | .release semaphore =>
    isValid sems semaphore → refCountOf sems semaphore = 1 → eventOf sems semaphore = null

/-- What a call changes of the balance, it changes of the holders. -/
def KeepsBalance (sems : Semaphores) (o : Outcome) : Prop :=
  ∀ event, event ≠ null → balance o.calls event + holders sems event = holders o.sems event

/-- A call that changes nothing keeps the balance. -/
theorem keepsBalance_refl (sems : Semaphores) (retVal : Int) :
    KeepsBalance sems ⟨sems, [], retVal⟩ := fun _ _ => by simp

/-- **A wait keeps the balance if its releases succeed.** -/
theorem keepsBalance_wait (sems : Semaphores) (semaphores eventWaitList : List Handle)
    (answers : WaitAnswers) :
    KeepsBalance sems (clEnqueueWaitSemaphores semaphores eventWaitList answers sems) ↔
      CallOk sems (.wait semaphores eventWaitList answers) := by
  simp only [CallOk]
  unfold clEnqueueWaitSemaphores
  split
  · next hempty =>
    rw [List.isEmpty_iff.mp hempty]
    exact iff_of_true (keepsBalance_refl sems _) fun _ _ _ h => nomatch h
  · cases hwait : combinedWaitList sems eventWaitList semaphores with
    | error e => exact iff_of_true (keepsBalance_refl sems _) fun h => nomatch h
    | ok combined =>
      have hlive := fun s hs => (combinedWaitList_ok hwait s hs).1
      rw [show (Except.ok combined : Except Int (List Handle)).isOk = true from rfl,
        forall_prop_of_true rfl, ← failures_eq_zero_iff _ _ _ _ hlive]
      refine forall_congr' fun event => forall_congr' fun he => ?_
      have hloop := balance_releaseEvents answers.release he 0 semaphores sems hlive
      simp only [balance_cons, DriverCall.taken, he.symm, false_and, if_false]
      omega

/-- What a signal takes and gives back outside its loop, through the local event. -/
theorem balance_localEvent (eventWaitList : List Handle) (event : Option Handle)
    (answers : SignalAnswers) (current : Handle) {localEvent : Handle}
    (hlocal : localEvent = if event.isNone then current else null) (event' : Handle)
    (he' : event' ≠ null) :
    (DriverCall.enqueueMarker eventWaitList answers.marker localEvent).taken event' +
        balance (if localEvent ≠ null then
          [DriverCall.releaseEvent localEvent answers.release] else []) event' =
      if event' = current then localReferences event answers else 0 := by
  cases event with
  | some held =>
    obtain rfl : localEvent = null := by simpa using hlocal
    simp [DriverCall.taken, he'.symm, localReferences]
  | none =>
    obtain rfl : localEvent = current := by simpa using hlocal
    by_cases hnull : localEvent = null
    · simp [hnull, he', DriverCall.taken, he'.symm]
    · by_cases hee : event' = localEvent
      · simp only [hnull, hee, ne_eq, not_false_eq_true, if_true, balance_cons, balance_nil,
          DriverCall.taken, true_and, localReferences, Option.isNone_none]
        split <;> split <;> rfl
      · simp [hnull, hee, Ne.symm hee, DriverCall.taken]

/-- **A signal keeps it if its retains do.** -/
theorem keepsBalance_signal (sems : Semaphores) (semaphores eventWaitList : List Handle)
    (event : Option Handle) (answers : SignalAnswers) :
    KeepsBalance sems (clEnqueueSignalSemaphores semaphores eventWaitList event answers sems) ↔
      CallOk sems (.signal semaphores eventWaitList event answers) := by
  simp only [CallOk]
  unfold clEnqueueSignalSemaphores
  split
  · next hempty =>
    exact iff_of_true (keepsBalance_refl sems _) fun h => absurd (List.isEmpty_iff.mp hempty) h
  · next hne =>
    have hne : semaphores ≠ [] := fun h => hne (List.isEmpty_iff.mpr h)
    cases hcheck : checkUnsignaled sems semaphores with
    | error e => exact iff_of_true (keepsBalance_refl sems _) fun _ h => nomatch h
    | ok _ =>
      have hchecked := checkUnsignaled_ok hcheck
      have hisOk : (Except.ok () : Except Int Unit).isOk := rfl
      dsimp only
      generalize answers.written.getD (event.getD null) = current
      have hlocal := balance_localEvent eventWaitList event answers current rfl
      have hholders := holders_signalEvents current answers.retain 0 semaphores sems
        fun s hs => ⟨(hchecked s hs).1, .inl (hchecked s hs).2⟩
      have hbalance := fun event' => balance_signalEvents current answers.retain event' 0
        semaphores sems fun s hs => (hchecked s hs).1
      have hall : current ≠ null → missing current semaphores sems = semaphores :=
        missing_of_unsignaled fun s hs => (hchecked s hs).2
      simp only [KeepsBalance, List.cons_append, balance_cons, balance_append, hbalance]
      constructor
      · intro hkeeps _ _ hc
        have h := hkeeps current hc
        have hl := hlocal current hc
        rw [hholders current hc, if_pos rfl, hall hc] at h
        rw [if_pos rfl] at h hl
        rw [← List.range_eq_range'] at h
        push_cast at h
        omega
      · intro hok event' he'
        have hl := hlocal event' he'
        rw [hholders event' he']
        by_cases hee : event' = current
        · have h := hok hne hisOk (hee ▸ he')
          rw [if_pos hee] at hl
          rw [if_pos hee, if_pos hee, hall (hee ▸ he'), ← List.range_eq_range']
          push_cast
          omega
        · rw [if_neg hee] at hl
          rw [if_neg hee, if_neg hee]
          push_cast
          omega

/-- A write that leaves the event alone leaves the holders alone. -/
theorem holders_modify_of_event_eq {sems : Semaphores} {semaphore : Nat}
    (h : (sems.get? semaphore).isSome) {f : CliSemaphore → CliSemaphore}
    (hf : ∀ s, (f s).event = s.event) (event : Handle) :
    holders (modify sems semaphore f) event = holders sems event := by
  obtain ⟨s, hs⟩ := Option.isSome_iff_exists.mp h
  have := holders_modify hs f event
  rw [hf] at this
  omega

/-- A new semaphore holds nothing. -/
theorem keepsBalance_create {sems : Semaphores} {semaphore : Nat}
    (hfresh : sems.get? semaphore = none) (context : Handle) :
    KeepsBalance sems (clCreateSemaphoreWithProperties context semaphore sems) := by
  intro event he
  have hnew := OrdMap.count_insert sems semaphore { context } fun s => s.event = event
  have hold := OrdMap.count_eq_erase sems semaphore fun s => s.event = event
  simp only [hfresh, Option.elim_none, he.symm, decide_false, Bool.false_eq_true, if_false] at hnew hold
  simp only [clCreateSemaphoreWithProperties, holders, balance_nil]
  omega

/-- A retain takes no event. -/
theorem keepsBalance_retain (sems : Semaphores) (semaphore : Handle) :
    KeepsBalance sems (clRetainSemaphore semaphore sems) := by
  unfold clRetainSemaphore
  split
  · exact keepsBalance_refl sems _
  · next hvalid =>
    intro event _
    have := holders_modify_of_event_eq (isSome_of_isValid (by simpa using hvalid))
      (f := fun s => { s with refCount := s.refCount + 1 }) (fun _ => rfl) event
    simp [this]

/-- **The last release keeps it if the driver takes the event back.** -/
theorem keepsBalance_release (sems : Semaphores) (semaphore : Handle) :
    KeepsBalance sems (clReleaseSemaphore semaphore sems) ↔ CallOk sems (.release semaphore) := by
  simp only [CallOk]
  unfold clReleaseSemaphore
  split
  · next hvalid => exact iff_of_true (keepsBalance_refl sems _) fun h => by simp [h] at hvalid
  · next hvalid =>
    have hvalid : isValid sems semaphore := by simpa using hvalid
    have hsome := isSome_of_isValid hvalid
    obtain ⟨s, hs⟩ := Option.isSome_iff_exists.mp hsome
    generalize hsems' : (modify sems semaphore fun s => { s with refCount := s.refCount - 1 }) =
      sems'
    have hget : sems'.get? semaphore = some { s with refCount := s.refCount - 1 } := by
      rw [← hsems', get?_modify, if_pos rfl, hs]
      rfl
    have hsame : ∀ event, holders sems' event = holders sems event := fun event =>
      hsems' ▸ holders_modify_of_event_eq hsome
        (f := fun s => { s with refCount := s.refCount - 1 }) (fun _ => rfl) event
    have hlast : s.refCount - 1 = 0 ↔ s.refCount = 1 :=
      ⟨fun h => by rw [← UInt32.sub_add_cancel s.refCount 1, h]; rfl, fun h => by rw [h]; rfl⟩
    simp only [refCountOf, eventOf, hget, hs, Option.map_some, Option.getD_some, hlast,
      forall_prop_of_true hvalid]
    split
    · next h1 =>
      have herase : ∀ event, holders sems event =
          holders (sems'.erase semaphore) event + (if s.event = event then 1 else 0) := fun event => by
        rw [← hsame]
        simpa [holders, hget] using OrdMap.count_eq_erase sems' semaphore fun s => s.event = event
      constructor
      · intro hkeeps _
        by_contra hev
        have h := hkeeps s.event hev
        rw [herase, if_pos rfl] at h
        simp at h
      · intro hev event he
        have : s.event ≠ event := fun h => he (h.symm.trans (hev h1))
        rw [herase, if_neg this]
        simp
    · next h1 => exact iff_of_true (fun event _ => by simp [hsame]) fun h => absurd h h1

/-- **Exactly when a call keeps the balance.** -/
theorem keepsBalance_iff {s : State} (a : Action) (hl : legal s a) :
    KeepsBalance s.sems (a.outcome s.sems) ↔ CallOk s.sems a := by
  cases a with
  | create context semaphore => exact iff_of_true (keepsBalance_create hl.2 context) trivial
  | wait semaphores eventWaitList answers => exact keepsBalance_wait ..
  | signal semaphores eventWaitList event answers => exact keepsBalance_signal ..
  | retain semaphore => exact iff_of_true (keepsBalance_retain s.sems semaphore) trivial
  | release semaphore => exact keepsBalance_release ..

/-- **Exactly when event references are balanced throughout a run.** From no semaphores, every
state of a run holds one reference for each semaphore with an event, and no other, exactly when
each call of the run meets the condition. -/
theorem balanced_iff (as : List Action) (hl : system.Legal {} as) :
    system.Always Balanced {} as ↔ system.Each (fun s a => CallOk s.sems a) {} as := by
  refine System.always_iff_each (I := fun _ => True) (fun _ _ _ _ => trivial)
    (fun s a _ hb hla => ?_) trivial (fun _ _ => rfl) hl
  rw [← keepsBalance_iff a hla]
  refine forall_congr' fun event => forall_congr' fun he => ?_
  have := hb event he
  simp only [system, step, balance_append]
  omega

/-- A semaphore is signaled with event 200, which the emulation keeps in its local variable. -/
def signaled : List Action :=
  [.create 1 64, .signal [64] [] none ⟨clSuccess, some 200, fun _ => clSuccess, clSuccess⟩]

def signaledAndWaited : List Action :=
  signaled ++ [.wait [64] [] ⟨clSuccess, fun _ => clSuccess⟩]

theorem balanced_signaledAndWaited : system.Always Balanced {} signaledAndWaited :=
  (balanced_iff signaledAndWaited ⟨⟨by decide, rfl⟩, trivial, trivial, trivial⟩).mpr
    ⟨trivial, fun _ _ _ => by decide, fun _ _ _ _ _ _ => rfl, trivial⟩

/-- A signaled semaphore that is deleted leaves its event reference behind. -/
theorem deleted_semaphore_leaks : ¬ Balanced (system.exec {} (signaled ++ [.release 64])) :=
  fun h => absurd (h 200 (by decide)) (by decide)

end CLIntercept.Semaphore
