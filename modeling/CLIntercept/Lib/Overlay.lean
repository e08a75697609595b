import CLIntercept.Lib.Pairing
import Mathlib.Logic.Function.Basic

/-!
# Tables that fill up as they are asked

One table is common to all owners. What a table does not have is asked for outside and kept, also
that there is no answer; an owner has a table of its own from its first question that the common one
could not answer. Its own table is all that it is asked from then on, so what only the common table
has is out of its reach.

`table_foldl` says what is in the tables behind a list of questions, by the questions alone, and
`lost_iff` which answers are lost when more questions come.
-/

set_option autoImplicit false

namespace CLIntercept.Lib

variable {π κ ν : Type*}

/-- A common table, and those of the owners that have one. -/
structure Overlay (π κ ν : Type*) where
  common : κ → Option ν
  own : π → Option (κ → Option ν)

namespace Overlay

def empty : Overlay π κ ν := ⟨fun _ => none, fun _ => none⟩

/-- The table that is asked. -/
def table (t : Overlay π κ ν) : Option π → κ → Option ν
  | none => t.common
  | some p => (t.own p).getD t.common

section

variable [DecidableEq π] [DecidableEq κ]

def put (t : Overlay π κ ν) (owner : Option π) (k : κ) (v : Option ν) : Overlay π κ ν :=
  match owner with
  | none => { t with common := Function.update t.common k v }
  | some p =>
    { t with
      own := Function.update t.own p
        (some (Function.update ((t.own p).getD fun _ => none) k v)) }

def ask (answer : Option π → κ → Option ν) (t : Overlay π κ ν) (q : Option π × κ) :
    Overlay π κ ν :=
  if (t.table q.1 q.2).isSome then t else t.put q.1 q.2 (answer q.1 q.2)

end

/-! ## What the questions say -/

section

variable (answer : Option π → κ → Option ν)

/-- The common table has no answer to this. -/
def Bare (qs : List (Option π × κ)) (k : κ) : Prop :=
  (none, k) ∈ qs → answer none k = none

/-- The owner was asked something that the common table had no answer to. -/
def Apart (qs : List (Option π × κ)) (p : π) : Prop :=
  ∃ before k after, qs = before ++ (some p, k) :: after ∧ Bare answer before k

/-- The owner was asked this when it had a table of its own, be it by this question. -/
def Kept (qs : List (Option π × κ)) (p : π) (k : κ) : Prop :=
  ∃ before after, qs = before ++ (some p, k) :: after ∧ Apart answer (before ++ [(some p, k)]) p

variable {answer}

theorem not_apart_nil (p : π) : ¬Apart answer [] p := by
  intro ⟨before, k, after, h, _⟩
  exact absurd h.symm (by simp)

theorem Apart.append {qs : List (Option π × κ)} {p : π} (h : Apart answer qs p)
    (qs' : List (Option π × κ)) : Apart answer (qs ++ qs') p := by
  obtain ⟨before, k, after, rfl, hbare⟩ := h
  exact ⟨before, k, after ++ qs', by simp, hbare⟩

theorem Kept.append {qs : List (Option π × κ)} {p : π} {k : κ} (h : Kept answer qs p k)
    (qs' : List (Option π × κ)) : Kept answer (qs ++ qs') p k := by
  obtain ⟨before, after, rfl, hapart⟩ := h
  exact ⟨before, after ++ qs', by simp, hapart⟩

theorem apart_concat (qs : List (Option π × κ)) (q : Option π × κ) (p : π) :
    Apart answer (qs ++ [q]) p ↔ Apart answer qs p ∨ q.1 = some p ∧ Bare answer qs q.2 := by
  constructor
  · rintro ⟨before, k, after, hsplit, hbare⟩
    rcases Pairing.concat_eq_append_cons hsplit with ⟨rfl, rfl, -⟩ | ⟨after', -, rfl⟩
    · exact Or.inr ⟨rfl, hbare⟩
    · exact Or.inl ⟨before, k, after', rfl, hbare⟩
  · rintro (h | ⟨howner, hbare⟩)
    · exact h.append [q]
    · exact ⟨qs, q.2, [], by rw [← howner], hbare⟩

theorem kept_concat (qs : List (Option π × κ)) (q : Option π × κ) (p : π) (k : κ) :
    Kept answer (qs ++ [q]) p k ↔
      Kept answer qs p k ∨ q = (some p, k) ∧ Apart answer (qs ++ [q]) p := by
  constructor
  · rintro ⟨before, after, hsplit, hapart⟩
    rcases Pairing.concat_eq_append_cons hsplit with ⟨rfl, rfl, -⟩ | ⟨after', -, rfl⟩
    · exact Or.inr ⟨rfl, hapart⟩
    · exact Or.inl ⟨before, after', rfl, hapart⟩
  · rintro (h | ⟨rfl, hapart⟩)
    · exact h.append [q]
    · exact ⟨qs, [], rfl, hapart⟩

/-- What is kept is in a table of the owner's. -/
theorem Kept.apart {qs : List (Option π × κ)} {p : π} {k : κ} (h : Kept answer qs p k) :
    Apart answer qs p := by
  obtain ⟨before, after, rfl, hapart⟩ := h
  simpa using hapart.append after

/-- If every question is of an owner, each is kept. -/
theorem kept_iff_mem {qs : List (Option π × κ)} (hnamed : ∀ q ∈ qs, q.1 ≠ none) (p : π) (k : κ) :
    Kept answer qs p k ↔ (some p, k) ∈ qs := by
  constructor
  · rintro ⟨before, after, rfl, -⟩
    simp
  · intro hmem
    obtain ⟨before, after, rfl⟩ := List.append_of_mem hmem
    refine ⟨before, after, rfl, before, k, [], rfl, fun hnone => ?_⟩
    exact absurd rfl (hnamed _ (List.mem_append_left _ hnone))

end

/-! ## What is in the tables -/

section

variable [DecidableEq π] [DecidableEq κ] {answer : Option π → κ → Option ν}

theorem common_ask (t : Overlay π κ ν) (owner : Option π) (k : κ) :
    (ask answer t (owner, k)).common =
      if owner = none then Function.update t.common k ((t.common k).or (answer none k))
      else t.common := by
  unfold ask
  cases owner with
  | some p => split <;> rfl
  | none =>
    rw [if_pos rfl]
    cases hk : t.common k with
    | some v =>
      rw [if_pos (by simp [table, hk]), Option.some_or, ← hk, Function.update_eq_self]
    | none => rw [if_neg (by simp [table, hk]), Option.none_or]; rfl

theorem own_ask_of_ne {t : Overlay π κ ν} {q : Option π × κ} {p : π} (h : q.1 ≠ some p) :
    (ask answer t q).own p = t.own p := by
  obtain ⟨owner, k⟩ := q
  unfold ask put
  split
  · rfl
  · cases owner with
    | none => rfl
    | some p' => exact Function.update_of_ne (fun he => h (congrArg some he.symm)) _ _

/-- A question of an owner, with a table of its own or without. -/
theorem own_ask_self (t : Overlay π κ ν) (p : π) (k : κ) :
    (ask answer t (some p, k)).own p =
      match t.own p with
      | some own => some (Function.update own k ((own k).or (answer (some p) k)))
      | none =>
        if t.common k = none then some (Function.update (fun _ => none) k (answer (some p) k))
        else none := by
  unfold ask
  cases hown : t.own p with
  | some own =>
    cases hk : own k with
    | some v =>
      rw [if_pos (by simp [table, hown, hk]), hown]
      dsimp only
      rw [hk, Option.some_or, ← hk, Function.update_eq_self]
    | none =>
      rw [if_neg (by simp [table, hown, hk])]
      simp [put, hown, hk]
  | none =>
    cases hk : t.common k with
    | some v => rw [if_pos (by simp [table, hown, hk]), hown]; rfl
    | none =>
      rw [if_neg (by simp [table, hown, hk])]
      simp [put, hown]

open scoped Classical in
/-- The common table has the answers of the questions that were nobody's. -/
theorem common_foldl (qs : List (Option π × κ)) :
    (qs.foldl (ask answer) empty).common =
      fun k => if (none, k) ∈ qs then answer none k else none := by
  induction qs using List.reverseRecOn with
  | nil => rfl
  | append_singleton qs q ih =>
    obtain ⟨owner, key⟩ := q
    rw [List.foldl_append, List.foldl_cons, List.foldl_nil, common_ask, ih]
    have hmem : ∀ k, (none, k) ∈ qs ++ [(owner, key)] ↔ (none, k) ∈ qs ∨ owner = none ∧ k = key := by
      intro k
      rw [List.mem_append, List.mem_singleton, Prod.mk.injEq, eq_comm (a := none)]
    funext k
    simp only [hmem]
    by_cases howner : owner = none
    · by_cases hk : k = key
      · subst hk
        by_cases hin : (none, k) ∈ qs
        · simp [howner, hin]
        · simp [howner, hin]
      · simp [howner, hk]
    · simp [howner]

theorem bare_iff_common {qs : List (Option π × κ)} {k : κ} :
    Bare answer qs k ↔ (qs.foldl (ask answer) empty).common k = none := by
  classical
  rw [common_foldl, Bare]
  dsimp only
  split
  · next hmem => exact ⟨fun h => h hmem, fun h _ => h⟩
  · next hmem => exact ⟨fun _ => rfl, fun _ h => absurd h hmem⟩

open scoped Classical in
/-- An owner that was set apart has the answers that were kept. -/
theorem own_foldl (qs : List (Option π × κ)) (p : π) :
    (qs.foldl (ask answer) empty).own p =
      if Apart answer qs p then
        some fun k => if Kept answer qs p k then answer (some p) k else none
      else none := by
  induction qs using List.reverseRecOn with
  | nil => rw [if_neg (not_apart_nil p)]; rfl
  | append_singleton qs q ih =>
    obtain ⟨owner, key⟩ := q
    rw [List.foldl_append, List.foldl_cons, List.foldl_nil]
    by_cases howner : owner = some p
    · subst howner
      have hapart : Apart answer (qs ++ [(some p, key)]) p ↔
          Apart answer qs p ∨ some p = some p ∧ Bare answer qs key :=
        apart_concat qs (some p, key) p
      have hkept : ∀ k, Kept answer (qs ++ [(some p, key)]) p k ↔
          Kept answer qs p k ∨ k = key ∧ Apart answer (qs ++ [(some p, key)]) p := by
        intro k
        rw [kept_concat, Prod.mk.injEq, eq_self, true_and, eq_comm (a := key)]
      rw [own_ask_self, ih]
      by_cases hwas : Apart answer qs p
      · have his := hwas.append [(some p, key)]
        simp only [hwas, his, if_true, hkept, and_true]
        refine congrArg some (funext fun k => ?_)
        by_cases hk : k = key
        · subst hk
          rw [Function.update_self, if_pos (Or.inr rfl)]
          split
          · exact Option.or_self
          · exact Option.none_or
        · rw [Function.update_of_ne hk]
          simp only [hk, or_false]
      · have hnone : ∀ k, ¬Kept answer qs p k := fun k h => hwas h.apart
        simp only [hwas, false_or, true_and, bare_iff_common] at hapart
        simp only [hwas, if_false, ← hapart, hkept, hnone, false_or]
        by_cases his : Apart answer (qs ++ [(some p, key)]) p
        · simp only [his, if_true, and_true]
          refine congrArg some (funext fun k => ?_)
          by_cases hk : k = key
          · subst hk
            rw [Function.update_self, if_pos rfl]
          · rw [Function.update_of_ne hk, if_neg hk]
        · simp only [his, if_false]
    · have hkept : ∀ k, Kept answer (qs ++ [(owner, key)]) p k ↔ Kept answer qs p k := by
        intro k
        rw [kept_concat]
        exact or_iff_left fun h => howner (Prod.mk.inj h.1).1
      have hapart : Apart answer (qs ++ [(owner, key)]) p ↔ Apart answer qs p := by
        rw [apart_concat]
        exact or_iff_left fun h => howner h.1
      rw [own_ask_of_ne howner, ih]
      simp only [hkept, hapart]

open scoped Classical in
/-- **What is in the table that an owner is asked.** -/
theorem table_foldl (qs : List (Option π × κ)) (p : π) (k : κ) :
    (qs.foldl (ask answer) empty).table (some p) k =
      if Apart answer qs p then (if Kept answer qs p k then answer (some p) k else none)
      else if (none, k) ∈ qs then answer none k else none := by
  rw [table, own_foldl, common_foldl]
  split
  · rfl
  · rfl

/-- The common table loses nothing. -/
theorem common_eq_none_of_append {qs qs' : List (Option π × κ)} {k : κ}
    (h : ((qs ++ qs').foldl (ask answer) empty).common k = none) :
    (qs.foldl (ask answer) empty).common k = none := by
  rw [← bare_iff_common] at h ⊢
  exact fun hmem => h (List.mem_append_left qs' hmem)

/-- What has no answer outside is in no table. -/
theorem table_foldl_eq_none {k : κ} (h : ∀ owner, answer owner k = none) (qs : List (Option π × κ))
    (owner : Option π) : (qs.foldl (ask answer) empty).table owner k = none := by
  classical
  cases owner with
  | none =>
    rw [table, common_foldl]
    simp only [h, ite_self]
  | some p =>
    rw [table_foldl]
    simp only [h, ite_self]

/-- **Which answers are lost**: those of the common table, to an owner that is set apart later, unless
it is asked again and there is an answer. -/
theorem lost_iff {qs : List (Option π × κ)} {p : π} {k : κ}
    (hsome : (qs.foldl (ask answer) empty).table (some p) k ≠ none) (qs' : List (Option π × κ)) :
    ((qs ++ qs').foldl (ask answer) empty).table (some p) k = none ↔
      ¬Apart answer qs p ∧ Apart answer (qs ++ qs') p ∧
        (Kept answer (qs ++ qs') p k → answer (some p) k = none) := by
  classical
  rw [table_foldl] at hsome ⊢
  by_cases hapart : Apart answer qs p
  · rw [if_pos hapart] at hsome
    rw [if_pos (hapart.append qs')]
    have hkept : Kept answer qs p k := by
      by_contra hout
      exact hsome (if_neg hout)
    rw [if_pos hkept] at hsome
    rw [if_pos (hkept.append qs')]
    exact iff_of_false hsome fun h => h.1 hapart
  · rw [if_neg hapart] at hsome
    have hmem : (none, k) ∈ qs := by
      by_contra hout
      exact hsome (if_neg hout)
    rw [if_pos hmem] at hsome
    by_cases hlater : Apart answer (qs ++ qs') p
    · rw [if_pos hlater]
      simp only [hapart, hlater, not_false_eq_true, true_and]
      split
      · next hkept => exact ⟨fun h _ => h, fun h => h hkept⟩
      · next hkept => exact ⟨fun _ h => absurd h hkept, fun _ => rfl⟩
    · rw [if_neg hlater, if_pos (List.mem_append_left qs' hmem)]
      exact iff_of_false hsome fun h => hlater h.2.1

end

end Overlay

end CLIntercept.Lib
