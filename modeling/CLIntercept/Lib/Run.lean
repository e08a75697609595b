/-!
# Runs of an open system

A system that is driven from outside: a state, a step for each action, and a `legal` predicate for
what its environment promises (an allocator's freshness, an owner that releases only what it
holds). A run is a list of actions from a state; `Always` says a property of every state it
passes through and `Each` says one of every step it takes.

The rule this library is for is `always_iff_each`. To know EXACTLY which runs keep a property it is
enough to know, for one step from a state that has the property, exactly when the next state has
it. Invariants that hold in every run may be assumed on the way. `Refines` says that a system takes
the steps of another one, which forgets some of its state.
-/

set_option autoImplicit false

namespace CLIntercept.Lib

universe u v u' v'

/-- **An open system**: what an action does, and which actions the environment may take. -/
structure System (σ : Type u) (α : Type v) where
  step : σ → α → σ
  legal : σ → α → Prop

variable {σ : Type u} {α : Type v} (S : System σ α)

namespace System

/-- The state after a run. -/
def exec (s : σ) (as : List α) : σ := as.foldl S.step s

/-- A property of every state of a run, the first and the last included. -/
def Always (P : σ → Prop) : σ → List α → Prop
  | s, [] => P s
  | s, a :: as => P s ∧ Always P (S.step s a) as

/-- A property of every step of a run: of the state it is taken in and the action. -/
def Each (Q : σ → α → Prop) : σ → List α → Prop
  | _, [] => True
  | s, a :: as => Q s a ∧ Each Q (S.step s a) as

/-- The environment keeps its promises throughout a run. -/
def Legal : σ → List α → Prop := S.Each S.legal

variable {S}

theorem Always.head {P : σ → Prop} {s : σ} : ∀ {as : List α}, S.Always P s as → P s
  | [], h => h
  | _ :: _, h => h.1

theorem Always.last {P : σ → Prop} {s : σ} {as : List α} (h : S.Always P s as) :
    P (S.exec s as) := by
  induction as generalizing s with
  | nil => exact h
  | cons a as ih => exact ih h.2

theorem Always.mono {P Q : σ → Prop} (hPQ : ∀ s, P s → Q s) {s : σ} {as : List α}
    (h : S.Always P s as) : S.Always Q s as := by
  induction as generalizing s with
  | nil => exact hPQ s h
  | cons a as ih => exact ⟨hPQ s h.1, ih h.2⟩

theorem exec_append (s : σ) (as bs : List α) : S.exec s (as ++ bs) = S.exec (S.exec s as) bs :=
  List.foldl_append

/-- Every state of a run is the last of one of its beginnings. -/
theorem always_iff_prefix {P : σ → Prop} {s : σ} {as : List α} :
    S.Always P s as ↔ ∀ pre, pre <+: as → P (S.exec s pre) := by
  induction as generalizing s with
  | nil =>
    constructor
    · intro h pre hpre
      rw [List.prefix_nil.mp hpre]
      exact h
    · intro h
      exact h [] List.prefix_rfl
  | cons a as ih =>
    constructor
    · intro h pre hpre
      cases pre with
      | nil => exact h.1
      | cons b pre =>
        obtain ⟨rfl, hrest⟩ := List.cons_prefix_cons.mp hpre
        exact ih.mp h.2 pre hrest
    · intro h
      refine ⟨h [] List.nil_prefix, ih.mpr fun pre hpre => ?_⟩
      exact h (a :: pre) (List.cons_prefix_cons.mpr ⟨rfl, hpre⟩)

/-- What is said of every step is said of each of them. -/
theorem Each.getElem {Q : σ → α → Prop} {s : σ} {as : List α} (h : S.Each Q s as) {i : Nat} {a : α}
    (ha : as[i]? = some a) : Q (S.exec s (as.take i)) a := by
  induction as generalizing s i with
  | nil => cases ha
  | cons b as ih =>
    cases i with
    | zero =>
      cases ha
      exact h.1
    | succ i => exact ih h.2 ha

theorem each_append {Q : σ → α → Prop} {s : σ} {as bs : List α} :
    S.Each Q s (as ++ bs) ↔ S.Each Q s as ∧ S.Each Q (S.exec s as) bs := by
  induction as generalizing s with
  | nil => exact ⟨fun h => ⟨trivial, h⟩, fun h => h.2⟩
  | cons a as ih =>
    show Q s a ∧ S.Each Q (S.step s a) (as ++ bs) ↔ (Q s a ∧ S.Each Q (S.step s a) as) ∧ _
    rw [ih, and_assoc]
    rfl

theorem each_of_mem {Q : σ → α → Prop} {as : List α} (h : ∀ a ∈ as, ∀ s, Q s a) (s : σ) :
    S.Each Q s as := by
  induction as generalizing s with
  | nil => trivial
  | cons a as ih =>
    exact ⟨h a List.mem_cons_self s, ih (fun b hb => h b (List.mem_cons_of_mem a hb)) (S.step s a)⟩

theorem each_of_forall {Q : σ → α → Prop} (h : ∀ s a, Q s a) (s : σ) (as : List α) :
    S.Each Q s as :=
  each_of_mem (fun a _ s => h s a) s

instance decidableEach {Q : σ → α → Prop} [∀ s a, Decidable (Q s a)] (s : σ) :
    ∀ as, Decidable (S.Each Q s as)
  | [] => isTrue trivial
  | a :: as => @instDecidableAnd _ _ _ (decidableEach (S.step s a) as)

instance [∀ s a, Decidable (S.legal s a)] (s : σ) (as : List α) : Decidable (S.Legal s as) :=
  decidableEach s as

theorem each_congr {Q Q' : σ → α → Prop} (h : ∀ s a, Q s a ↔ Q' s a) (s : σ) (as : List α) :
    S.Each Q s as ↔ S.Each Q' s as := by
  induction as generalizing s with
  | nil => exact .rfl
  | cons a as ih => exact and_congr (h s a) (ih (S.step s a))

/-- **Invariants**: kept by every legal step, so held in every state of a legal run. -/
theorem always_of_step {I : σ → Prop} (hstep : ∀ s a, I s → S.legal s a → I (S.step s a)) {s : σ}
    {as : List α} (hi : I s) (hl : S.Legal s as) : S.Always I s as := by
  induction as generalizing s with
  | nil => exact hi
  | cons a as ih =>
    have hnext := hstep s a hi hl.1
    exact ⟨hi, ih hnext hl.2⟩

/-- Invariants that are kept only by steps that meet a condition. -/
theorem always_of_each {I : σ → Prop} {Ok : σ → α → Prop}
    (hstep : ∀ s a, I s → S.legal s a → Ok s a → I (S.step s a)) {s : σ} {as : List α}
    (hi : I s) (hl : S.Legal s as) (hok : S.Each Ok s as) : S.Always I s as := by
  induction as generalizing s with
  | nil => exact hi
  | cons a as ih =>
    have hnext := hstep s a hi hl.1 hok.1
    exact ⟨hi, ih hnext hl.2 hok.2⟩

/-- The invariant of a legal run, at its end. -/
theorem exec_of_step {I : σ → Prop} (hstep : ∀ s a, I s → S.legal s a → I (S.step s a)) {s : σ}
    {as : List α} (hi : I s) (hl : S.Legal s as) : I (S.exec s as) :=
  (always_of_step hstep hi hl).last

/-- **Exactly when a run keeps a property.** If one step from a good state, under the invariant `I`
that every run has, gives a good state exactly when the step is `Ok`, then a run passes through
good states only exactly when each of its steps is `Ok`. -/
theorem always_iff_each {I P : σ → Prop} {Ok : σ → α → Prop}
    (hI : ∀ s a, I s → S.legal s a → I (S.step s a))
    (hP : ∀ s a, I s → P s → S.legal s a → (P (S.step s a) ↔ Ok s a)) {s : σ} {as : List α}
    (hi : I s) (hp : P s) (hl : S.Legal s as) : S.Always P s as ↔ S.Each Ok s as := by
  induction as generalizing s with
  | nil => exact ⟨fun _ => trivial, fun _ => hp⟩
  | cons a as ih =>
    have hnext := hI s a hi hl.1
    have hstep := hP s a hi hp hl.1
    constructor
    · intro h
      have hp' : P (S.step s a) := h.2.head
      exact ⟨hstep.mp hp', (ih hnext hp' hl.2).mp h.2⟩
    · intro h
      have hp' := hstep.mpr h.1
      exact ⟨hp, (ih hnext hp' hl.2).mpr h.2⟩

/-- The same rule for a property of states and a property of steps together. -/
theorem always_and_each_iff_each {I P : σ → Prop} {Q Ok : σ → α → Prop}
    (hI : ∀ s a, I s → S.legal s a → I (S.step s a))
    (hP : ∀ s a, I s → P s → S.legal s a → (P (S.step s a) ∧ Q s a ↔ Ok s a)) {s : σ}
    {as : List α} (hi : I s) (hp : P s) (hl : S.Legal s as) :
    S.Always P s as ∧ S.Each Q s as ↔ S.Each Ok s as := by
  induction as generalizing s with
  | nil => exact ⟨fun _ => trivial, fun _ => ⟨hp, trivial⟩⟩
  | cons a as ih =>
    have hnext := hI s a hi hl.1
    have hstep := hP s a hi hp hl.1
    constructor
    · intro h
      obtain ⟨⟨_, hstates⟩, hq, hsteps⟩ := h
      have hp' : P (S.step s a) := hstates.head
      exact ⟨hstep.mp ⟨hp', hq⟩, (ih hnext hp' hl.2).mp ⟨hstates, hsteps⟩⟩
    · intro h
      obtain ⟨hp', hq⟩ := hstep.mpr h.1
      obtain ⟨hstates, hsteps⟩ := (ih hnext hp' hl.2).mpr h.2
      exact ⟨⟨hp, hstates⟩, hq, hsteps⟩

/-! ## Refinement -/

section

variable {σ' : Type u'} {α' : Type v'} {T : System σ' α'}

/-- **Refinement**: a function on states and one on actions that take every legal step to a legal
step of another system, from states that have an invariant. -/
structure Refines (S : System σ α) (T : System σ' α') (f : σ → σ') (g : α → α') (I : σ → Prop) :
    Prop where
  inv : ∀ s a, I s → S.legal s a → I (S.step s a)
  legal : ∀ s a, I s → S.legal s a → T.legal (f s) (g a)
  step : ∀ s a, I s → S.legal s a → f (S.step s a) = T.step (f s) (g a)

end

end System

end CLIntercept.Lib
