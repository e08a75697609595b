import Mathlib.Data.List.Basic
import Mathlib.Data.List.Range

/-!
# Command queues

The orders in which a queue may run the commands that were put into it. A command waits for the
events of its wait list. In an in-order queue it also waits for every command before it; in an
out-of-order queue only for the barriers before it, and a barrier without a wait list waits for
every command before it.

`before_of_inOrder` is what an in-order queue promises. For an out-of-order queue the library gives
executions: commands whose wait lists point backwards can all run in turn (`execution_upTo`), a
command that waits for nothing can run ahead of those before it (`execution_skip`), and whatever has
run, the others can run as well (`Execution.exists_ended`).
-/

set_option autoImplicit false

namespace CLIntercept.Lib.CommandQueue

/-- What a command can wait for: another command of the queue, or an event from elsewhere. -/
inductive Event
  | command (i : Nat)
  | other (n : Nat)
  deriving DecidableEq, Repr

/-- A command in a queue, as far as order goes. -/
structure Entry where
  waitList : List Event := []
  barrier : Bool := false
  deriving DecidableEq, Repr

/-- What happens: an event from elsewhere completes, or a command runs to its end. -/
inductive Step
  | complete (n : Nat)
  | run (i : Nat)
  deriving DecidableEq, Repr

/-- The step that completes an event. -/
def Event.step : Event → Step
  | .command i => .run i
  | .other n => .complete n

/-- Command `i`, which is `e`, may run after `steps`. -/
structure Ready (inOrder : Bool) (entries : List Entry) (steps : List Step) (i : Nat) (e : Entry) :
    Prop where
  entry : entries[i]? = some e
  once : Step.run i ∉ steps
  waits : ∀ w ∈ e.waitList, w.step ∈ steps
  order : ∀ j d, j < i → entries[j]? = some d →
    inOrder = true ∨ d.barrier = true ∨ (e.barrier = true ∧ e.waitList = []) → Step.run j ∈ steps

/-- **The executions** of a queue, in any order that it allows. -/
inductive Execution (inOrder : Bool) (entries : List Entry) : List Step → Prop
  | nil : Execution inOrder entries []
  | complete {steps : List Step} (n : Nat) :
    Execution inOrder entries steps → Execution inOrder entries (steps ++ [.complete n])
  | run {steps : List Step} {i : Nat} {e : Entry} :
    Execution inOrder entries steps → Ready inOrder entries steps i e →
      Execution inOrder entries (steps ++ [.run i])

/-- Step `b` comes after step `a`. -/
def Before (a b : Step) (steps : List Step) : Prop :=
  ∃ pre post, steps = pre ++ a :: post ∧ b ∈ post

/-! ## What a queue promises -/

variable {inOrder : Bool} {entries : List Entry} {steps : List Step}

theorem Before.mem_right {a b : Step} (h : Before a b steps) : b ∈ steps := by
  obtain ⟨pre, post, rfl, hb⟩ := h
  simp [hb]

/-- A command that has run was ready when it did. -/
theorem Execution.ready {i : Nat} (h : Execution inOrder entries steps) (hi : .run i ∈ steps) :
    ∃ pre post e, steps = pre ++ .run i :: post ∧ Ready inOrder entries pre i e := by
  induction h with
  | nil => simp at hi
  | @complete steps n _ ih =>
    have hmem : .run i ∈ steps := by simpa using hi
    obtain ⟨pre, post, e, rfl, hready⟩ := ih hmem
    exact ⟨pre, post ++ [.complete n], e, by simp, hready⟩
  | @run steps k e _ hready ih =>
    rcases List.mem_append.mp hi with hmem | hlast
    · obtain ⟨pre, post, e', rfl, hready'⟩ := ih hmem
      exact ⟨pre, post ++ [.run k], e', by simp, hready'⟩
    · obtain rfl : i = k := by simpa using hlast
      exact ⟨steps, [], e, rfl, hready⟩

/-- **An in-order queue** runs a command after every command before it. -/
theorem before_of_inOrder {i j : Nat} (h : Execution true entries steps) (hji : j < i)
    (hi : .run i ∈ steps) : Before (.run j) (.run i) steps := by
  obtain ⟨pre, post, e, rfl, hready⟩ := h.ready hi
  have hlen : i < entries.length := (List.getElem?_eq_some_iff.mp hready.entry).1
  have hj : entries[j]? = some entries[j] := List.getElem?_eq_getElem (by omega)
  obtain ⟨before, between, rfl⟩ :=
    List.append_of_mem (hready.order j _ hji hj (Or.inl rfl))
  exact ⟨before, between ++ .run i :: post, by simp, by simp⟩

/-- A command runs once. -/
theorem Execution.count_run_le (h : Execution inOrder entries steps) (i : Nat) :
    steps.count (.run i) ≤ 1 := by
  induction h with
  | nil => exact Nat.zero_le 1
  | @complete steps n _ ih => simpa using ih
  | @run steps k e _ hready ih =>
    rw [List.count_append]
    by_cases hk : k = i
    · subst hk
      simp [List.count_eq_zero_of_not_mem hready.once]
    · simpa [hk] using ih

/-- What has not run yet runs behind what has. -/
theorem Execution.not_before {more : List Step} {i j : Nat}
    (h : Execution inOrder entries (steps ++ more)) (hi : .run i ∈ steps) (hj : .run j ∉ steps) :
    ¬Before (.run j) (.run i) (steps ++ more) := by
  rintro ⟨pre, post, heq, hpost⟩
  have hpre : .run i ∈ pre := by
    rcases List.append_eq_append_iff.mp heq with ⟨rest, hrest, -⟩ | ⟨rest, hrest, hsuffix⟩
    · exact hrest ▸ List.mem_append_left rest hi
    · cases rest with
      | nil => exact (hrest.trans (List.append_nil pre)) ▸ hi
      | cons step rest =>
        obtain ⟨rfl, -⟩ := List.cons.inj hsuffix
        exact absurd (hrest ▸ List.mem_append_right pre List.mem_cons_self) hj
  have honce := h.count_run_le i
  have hfirst := List.count_pos_iff.mpr hpre
  have hsecond := List.count_pos_iff.mpr (List.mem_cons_of_mem (.run j) hpost)
  rw [heq, List.count_append] at honce
  omega

/-! ## What a queue may do -/

/-- No command waits for itself or for a later one. -/
def WellFormed (entries : List Entry) : Prop :=
  ∀ i e j, entries[i]? = some e → Event.command j ∈ e.waitList → j < i

/-- Commands that wait for nothing can be added. -/
theorem WellFormed.append (h : WellFormed entries) {more : List Entry}
    (hmore : ∀ e ∈ more, e.waitList = []) : WellFormed (entries ++ more) := by
  intro i e j he hj
  rcases Nat.lt_or_ge i entries.length with hlt | hge
  · rw [List.getElem?_append_left hlt] at he
    exact h i e j he hj
  · rw [List.getElem?_append_right hge] at he
    rw [hmore e (List.mem_of_getElem? he)] at hj
    exact absurd hj List.not_mem_nil

/-- The event is from elsewhere: the number that completes it. -/
def Event.other? : Event → Option Nat
  | .command _ => none
  | .other n => some n

/-- Every event from elsewhere that some command waits for. -/
def others (entries : List Entry) : List Nat :=
  entries.flatMap fun e => e.waitList.filterMap Event.other?

/-- All events from elsewhere complete, and then the first `k` commands run in turn. -/
def upTo (entries : List Entry) (k : Nat) : List Step :=
  (others entries).map .complete ++ (List.range k).map .run

@[simp]
theorem run_mem_upTo {i k : Nat} : Step.run i ∈ upTo entries k ↔ i < k := by
  simp [upTo]

theorem complete_mem_upTo {i n k : Nat} {e : Entry} (he : entries[i]? = some e)
    (hn : Event.other n ∈ e.waitList) : Step.complete n ∈ upTo entries k := by
  have hother : n ∈ others entries :=
    List.mem_flatMap.mpr ⟨e, List.mem_of_getElem? he, List.mem_filterMap.mpr ⟨_, hn, rfl⟩⟩
  simp [upTo, hother]

theorem execution_completes (ns : List Nat) :
    Execution inOrder entries (ns.map .complete) := by
  induction ns using List.reverseRecOn with
  | nil => exact .nil
  | append_singleton ns n ih =>
    rw [List.map_append]
    exact .complete n ih

/-- **Commands can run in turn**, in every queue. -/
theorem execution_upTo (h : WellFormed entries) :
    ∀ k, k ≤ entries.length → Execution inOrder entries (upTo entries k)
  | 0, _ => by simpa [upTo] using execution_completes (others entries)
  | k + 1, hk => by
    have hentry : entries[k]? = some entries[k] := List.getElem?_eq_getElem hk
    have hready : Ready inOrder entries (upTo entries k) k entries[k] :=
      { entry := hentry
        once := by simp
        waits := by
          intro w hw
          cases w with
          | command j => exact run_mem_upTo.mpr (h k _ j hentry hw)
          | other n => exact complete_mem_upTo hentry hw
        order := fun j _ hj _ _ => run_mem_upTo.mpr hj }
    have hsteps : upTo entries (k + 1) = upTo entries k ++ [.run k] := by
      simp [upTo, List.range_succ]
    rw [hsteps]
    exact .run (execution_upTo h k (by omega)) hready

/-- **No execution is stuck**: whatever has run, all other commands can run as well. -/
theorem Execution.exists_ended (hwf : WellFormed entries)
    (h : Execution inOrder entries steps) :
    ∀ k, k ≤ entries.length → ∃ more, Execution inOrder entries (steps ++ more) ∧
      (∀ n ∈ others entries, .complete n ∈ steps ++ more) ∧ ∀ i < k, .run i ∈ steps ++ more
  | 0, _ => by
    refine ⟨(others entries).map .complete, ?_, fun n hn => ?_, fun i hi => ?_⟩
    · induction others entries using List.reverseRecOn with
      | nil => simpa using h
      | append_singleton ns n ih =>
        rw [List.map_append, ← List.append_assoc]
        exact .complete n ih
    · exact List.mem_append_right _ (List.mem_map_of_mem hn)
    · exact absurd hi (Nat.not_lt_zero i)
  | k + 1, hk => by
    obtain ⟨more, hexec, hothers, hall⟩ := Execution.exists_ended hwf h k (by omega)
    by_cases hran : .run k ∈ steps ++ more
    · refine ⟨more, hexec, hothers, fun i hi => ?_⟩
      rcases Nat.lt_succ_iff_lt_or_eq.mp hi with hlt | rfl
      · exact hall i hlt
      · exact hran
    · have hentry : entries[k]? = some entries[k] := List.getElem?_eq_getElem hk
      have hready : Ready inOrder entries (steps ++ more) k entries[k] :=
        { entry := hentry
          once := hran
          waits := by
            intro w hw
            cases w with
            | command j => exact hall j (hwf k _ j hentry hw)
            | other n =>
              exact hothers n (List.mem_flatMap.mpr
                ⟨_, List.mem_of_getElem? hentry, List.mem_filterMap.mpr ⟨_, hw, rfl⟩⟩)
          order := fun j _ hj _ _ => hall j hj }
      refine ⟨more ++ [.run k], ?_, fun n hn => ?_, fun i hi => ?_⟩
      · rw [← List.append_assoc]
        exact .run hexec hready
      · rw [← List.append_assoc]
        exact List.mem_append_left _ (hothers n hn)
      · rw [← List.append_assoc]
        rcases Nat.lt_succ_iff_lt_or_eq.mp hi with hlt | rfl
        · exact List.mem_append_left _ (hall i hlt)
        · exact List.mem_append_right _ List.mem_cons_self

/-- **A command can run ahead** of those before it, in an out-of-order queue, if it waits for
nothing and they are no barriers. -/
theorem execution_skip {i k : Nat} (h : WellFormed entries) (hk : k ≤ i) {e : Entry}
    (he : entries[i]? = some e) (hwaits : e.waitList = []) (hbarrier : e.barrier = false)
    (hskipped : ∀ j d, k ≤ j → j < i → entries[j]? = some d → d.barrier = false) :
    Execution false entries (upTo entries k ++ [.run i]) := by
  have hi : i < entries.length := (List.getElem?_eq_some_iff.mp he).1
  refine .run (execution_upTo h k (by omega)) (i := i) (e := e) ?_
  refine { entry := he, once := by simpa using hk, waits := by simp [hwaits], order := ?_ }
  rintro j d hji hd (hfalse | hd' | ⟨he', _⟩)
  · cases hfalse
  · rcases Nat.lt_or_ge j k with hjk | hjk
    · exact run_mem_upTo.mpr hjk
    · rw [hskipped j d hjk hji hd] at hd'
      cases hd'
  · rw [hbarrier] at he'
    cases he'

end CLIntercept.Lib.CommandQueue
