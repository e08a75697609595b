import CLIntercept.Lib.Run
import Mathlib.Data.List.Induction

/-!
# What is open

Steps of a history open keys, each with a value, and close them; to open a key that is open already
changes nothing. So what a key holds when the steps are gone through one after the other, `look`, is
the value of the first step that opened it since it was last closed: `look_eq_some_iff`. What is said
of the history there, by `Shut` and `Opened`, goes through nothing.
-/

set_option autoImplicit false

namespace CLIntercept.Lib

variable {α κ ν : Type*}

/-- What a step opens, with which value, and what it closes; no key is opened and closed at once. -/
structure Pairing (α κ ν : Type*) where
  opens : α → κ → Option ν
  closes : α → κ → Bool
  opens_eq_none : ∀ a k, closes a k = true → opens a k = none

namespace Pairing

variable (P : Pairing α κ ν)

/-- Whatever opened the key, it was closed behind that. -/
def Shut (as : List α) (k : κ) : Prop :=
  ∀ before a after, as = before ++ a :: after → P.opens a k ≠ none →
    ∃ b ∈ after, P.closes b k = true

/-- The key was opened with this value while it was shut, and not closed since. -/
def Opened (as : List α) (k : κ) (v : ν) : Prop :=
  ∃ before a after, as = before ++ a :: after ∧ P.Shut before k ∧ P.opens a k = some v ∧
    ∀ b ∈ after, P.closes b k = false

theorem shut_nil (k : κ) : P.Shut [] k := by
  intro before a after h
  exact absurd h.symm (by simp)

theorem not_opened_nil (k : κ) (v : ν) : ¬P.Opened [] k v := by
  intro ⟨before, a, after, h, _⟩
  exact absurd h.symm (by simp)

/-- A list that ends with one step, taken apart at another. -/
theorem concat_eq_append_cons {as before after : List α} {a b : α}
    (h : as ++ [a] = before ++ b :: after) :
    (as = before ∧ a = b ∧ after = []) ∨
      ∃ after', after = after' ++ [a] ∧ as = before ++ b :: after' := by
  cases after using List.reverseRecOn with
  | nil =>
    obtain ⟨hbefore, hlast⟩ := List.append_inj' h rfl
    exact Or.inl ⟨hbefore, (List.cons.inj hlast).1, rfl⟩
  | append_singleton after' c =>
    rw [← List.cons_append, ← List.append_assoc] at h
    obtain ⟨hbefore, hlast⟩ := List.append_inj' h rfl
    exact Or.inr ⟨after', by rw [(List.cons.inj hlast).1], hbefore⟩

/-- A key is shut after one more action if that closes it, or leaves it shut. -/
theorem shut_concat (as : List α) (a : α) (k : κ) :
    P.Shut (as ++ [a]) k ↔
      P.closes a k = true ∨ P.Shut as k ∧ P.opens a k = none := by
  refine ⟨fun h => ?_, fun h before b after hsplit hopens => ?_⟩
  · cases hclose : P.closes a k with
    | true => exact Or.inl rfl
    | false =>
      refine Or.inr ⟨fun before b after hsplit hopens => ?_, ?_⟩
      · obtain ⟨c, hc, hcloses⟩ := h before b (after ++ [a]) (by simp [hsplit]) hopens
        rcases List.mem_append.mp hc with hc | hc
        · exact ⟨c, hc, hcloses⟩
        · rw [List.mem_singleton.mp hc, hclose] at hcloses
          exact Bool.noConfusion hcloses
      · apply Decidable.byContradiction
        intro hopens
        obtain ⟨c, hc, -⟩ := h as a [] rfl hopens
        exact List.not_mem_nil hc
  · rcases concat_eq_append_cons hsplit with ⟨rfl, rfl, rfl⟩ | ⟨after', rfl, hrest⟩
    · rcases h with h | h
      · exact absurd (P.opens_eq_none _ _ h) hopens
      · exact absurd h.2 hopens
    · rcases h with h | h
      · exact ⟨a, by simp, h⟩
      · obtain ⟨c, hc, hcloses⟩ := h.1 before b after' hrest hopens
        exact ⟨c, List.mem_append_left _ hc, hcloses⟩

/-- A value is open after one more action if that opens it, or leaves it open. -/
theorem opened_concat (as : List α) (a : α) (k : κ) (v : ν) :
    P.Opened (as ++ [a]) k v ↔
      P.closes a k = false ∧ (P.Opened as k v ∨ P.Shut as k ∧ P.opens a k = some v) := by
  refine ⟨fun h => ?_, fun ⟨hclose, h⟩ => ?_⟩
  · obtain ⟨before, b, after, hsplit, hshut, hopens, hrest⟩ := h
    rcases concat_eq_append_cons hsplit with ⟨rfl, rfl, rfl⟩ | ⟨after', rfl, has⟩
    · refine ⟨?_, Or.inr ⟨hshut, hopens⟩⟩
      cases hclose : P.closes a k with
      | false => rfl
      | true => exact absurd ((P.opens_eq_none _ _ hclose).symm.trans hopens) (by simp)
    · exact ⟨hrest a (by simp), Or.inl ⟨before, b, after', has, hshut, hopens,
        fun c hc => hrest c (List.mem_append_left _ hc)⟩⟩
  · rcases h with ⟨before, b, after, rfl, hshut, hopens, hrest⟩ | ⟨hshut, hopens⟩
    · refine ⟨before, b, after ++ [a], by simp, hshut, hopens, fun c hc => ?_⟩
      rcases List.mem_append.mp hc with hc | hc
      · exact hrest c hc
      · exact List.mem_singleton.mp hc ▸ hclose
    · exact ⟨as, a, [], rfl, hshut, hopens, fun c hc => absurd hc List.not_mem_nil⟩

/-- What the key holds, one step after the other. -/
def look (as : List α) (k : κ) : Option ν :=
  as.foldl (fun held a => if P.closes a k then none else held.or (P.opens a k)) none

theorem look_nil (k : κ) : P.look [] k = none := rfl

/-- Looking once more: what is closed is gone, and what was open stays. -/
theorem look_concat (as : List α) (a : α) (k : κ) :
    P.look (as ++ [a]) k = if P.closes a k then none else (P.look as k).or (P.opens a k) := by
  unfold look
  rw [List.foldl_append, List.foldl_cons, List.foldl_nil]

/-- **What a key holds is what is open.** -/
theorem look_open_or_shut (as : List α) (k : κ) :
    (∀ v, P.look as k = some v ↔ P.Opened as k v) ∧ (P.look as k = none ↔ P.Shut as k) := by
  induction as using List.reverseRecOn with
  | nil =>
    rw [look_nil]
    exact ⟨fun v => ⟨fun hv => absurd hv (by simp), fun hv => absurd hv (P.not_opened_nil k v)⟩,
      fun _ => P.shut_nil k, fun _ => rfl⟩
  | append_singleton as a ih =>
    obtain ⟨hsome, hnone⟩ := ih
    rw [look_concat, shut_concat]
    simp only [opened_concat, ← hsome, ← hnone]
    cases hclose : P.closes a k with
    | true => simp
    | false =>
      cases hlook : P.look as k with
      | none => simp
      | some v => simp

variable {P}

/-- **What is found is what was opened and not closed since.** -/
theorem look_eq_some_iff {as : List α} {k : κ} {v : ν} : P.look as k = some v ↔ P.Opened as k v :=
  (P.look_open_or_shut as k).1 v

/-- **Nothing is found under a key that is shut.** -/
theorem look_eq_none_iff {as : List α} {k : κ} : P.look as k = none ↔ P.Shut as k :=
  (P.look_open_or_shut as k).2

end Pairing

/-! ## Along a run -/

section

variable {σ : Type*} (S : System σ α)

/-- The steps of a run, each with the state that it is taken in. -/
def System.trace (s : σ) : List α → List (σ × α)
  | [] => []
  | a :: as => (s, a) :: System.trace (S.step s a) as

theorem System.trace_concat (s : σ) (as : List α) (a : α) :
    S.trace s (as ++ [a]) = S.trace s as ++ [(S.exec s as, a)] := by
  induction as generalizing s with
  | nil => rfl
  | cons b as ih =>
    rw [List.cons_append, System.trace, ih]
    rfl

variable {S} {P : Pairing (σ × α) κ ν} {get : σ → κ → Option ν} {s : σ}

/-- What a state keeps of the keys, if each of its steps changes it as it should. -/
theorem get_exec_eq_look (hinit : ∀ k, get s k = none)
    (hstep : ∀ t a k, S.legal t a →
      get (S.step t a) k = if P.closes (t, a) k then none else (get t k).or (P.opens (t, a) k))
    {as : List α} (hlegal : S.Legal s as) (k : κ) : get (S.exec s as) k = P.look (S.trace s as) k := by
  induction as using List.reverseRecOn with
  | nil => exact hinit k
  | append_singleton as a ih =>
    obtain ⟨hbefore, hlast⟩ := System.each_append.mp hlegal
    rw [System.trace_concat, Pairing.look_concat, ← ih hbefore, System.exec_append]
    exact hstep _ a k hlast.1

end

end CLIntercept.Lib
