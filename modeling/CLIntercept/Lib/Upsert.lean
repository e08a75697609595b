import Mathlib.Data.List.Basic
import Mathlib.Data.List.Nodup

/-!
# Updating some keys of a list

A list of keys and values, and updates for some keys: the value of a key that is there is updated
where it stands, and a key that is missing is added at the end with the update of a default. On what
is looked up this is an update of a map, `lookup_upsert`; a list without repeated keys stays one,
and updates that change nothing the second time make the whole idempotent.
-/

set_option autoImplicit false

namespace CLIntercept.Lib

variable {α β : Type*} [DecidableEq α]

/-- What becomes of the value of a key. -/
structure KeyUpdate (α β : Type*) where
  key : α
  update : β → β

namespace KeyUpdate

/-- The update of a key, if it has one. -/
def of? (updates : List (KeyUpdate α β)) (key : α) : Option (KeyUpdate α β) :=
  updates.find? fun u => u.key = key

/-- A pair with its value updated. -/
def substitute (updates : List (KeyUpdate α β)) (pair : α × β) : α × β :=
  match of? updates pair.1 with
  | some u => (pair.1, u.update pair.2)
  | none => pair

/-- The updates of the keys that a list does not have. -/
def missing (updates : List (KeyUpdate α β)) (pairs : List (α × β)) : List (KeyUpdate α β) :=
  updates.filter fun u => u.key ∉ pairs.map Prod.fst

def upsert (updates : List (KeyUpdate α β)) (default : β) (pairs : List (α × β)) : List (α × β) :=
  pairs.map (substitute updates) ++
    (missing updates pairs).map fun u => (u.key, u.update default)

variable {updates : List (KeyUpdate α β)} {pairs : List (α × β)}

@[simp] theorem fst_substitute (pair : α × β) : (substitute updates pair).1 = pair.1 := by
  unfold substitute
  split <;> rfl

/-- A key with an update, where no key has two. -/
theorem of?_key (h : (updates.map key).Nodup) {u : KeyUpdate α β} (hu : u ∈ updates) :
    of? updates u.key = some u := by
  cases hfound : of? updates u.key with
  | none =>
    have hne := List.find?_eq_none.mp hfound u hu
    exact absurd (decide_eq_true rfl) hne
  | some v =>
    have hv : v ∈ updates := List.mem_of_find?_eq_some hfound
    have hkey : v.key = u.key := by simpa using List.find?_some hfound
    exact congrArg some (List.inj_on_of_nodup_map h hv hu hkey)

/-- The keys of the list, and then the missing ones. -/
theorem keys_upsert (default : β) :
    (upsert updates default pairs).map Prod.fst =
      pairs.map Prod.fst ++ (missing updates pairs).map key := by
  rw [upsert, List.map_append, List.map_map, List.map_map]
  congr 1
  exact List.map_congr_left fun pair _ => fst_substitute pair

theorem mem_keys_upsert {u : KeyUpdate α β} (hu : u ∈ updates) (default : β) :
    u.key ∈ (upsert updates default pairs).map Prod.fst := by
  rw [keys_upsert, List.mem_append]
  by_cases hmem : u.key ∈ pairs.map Prod.fst
  · exact .inl hmem
  · exact .inr (List.mem_map_of_mem (List.mem_filter.mpr ⟨hu, decide_eq_true hmem⟩))

/-- **No key is repeated.** -/
theorem nodup_keys_upsert (hpairs : (pairs.map Prod.fst).Nodup) (hupdates : (updates.map key).Nodup)
    (default : β) : ((upsert updates default pairs).map Prod.fst).Nodup := by
  rw [keys_upsert]
  refine hpairs.append (hupdates.sublist (List.filter_sublist.map key)) ?_
  intro k hk hmissing
  obtain ⟨u, hu, rfl⟩ := List.mem_map.mp hmissing
  exact of_decide_eq_true (List.mem_filter.mp hu).2 hk

theorem lookup_map_substitute (key : α) :
    (pairs.map (substitute updates)).lookup key =
      (pairs.lookup key).map ((of? updates key).elim id KeyUpdate.update) := by
  induction pairs with
  | nil => rfl
  | cons pair pairs ih =>
    rw [List.map_cons, List.lookup_cons, List.lookup_cons, fst_substitute]
    by_cases hkey : key = pair.1
    · subst hkey
      unfold substitute
      cases of? updates pair.1 <;> simp
    · rw [beq_eq_false_iff_ne.mpr hkey]
      exact ih

theorem lookup_missing (default : β) {key : α} (hkey : key ∉ pairs.map Prod.fst) :
    ((missing updates pairs).map fun u => (u.key, u.update default)).lookup key =
      (of? updates key).map fun u => u.update default := by
  unfold missing of?
  induction updates with
  | nil => rfl
  | cons u updates ih =>
    by_cases hu : u.key = key
    · subst hu
      simp [hkey]
    · have hne : ¬ key = u.key := fun h => hu h.symm
      rw [List.find?_cons_of_neg (by simpa using hu), List.filter_cons]
      split
      · rw [List.map_cons, List.lookup_cons, beq_eq_false_iff_ne.mpr hne]
        exact ih
      · exact ih

/-- **What is looked up**: the update of what the list had, or of the default; and without an update
what the list had. -/
theorem lookup_upsert (default : β) (key : α) :
    (upsert updates default pairs).lookup key =
      match of? updates key with
      | some u => some (u.update ((pairs.lookup key).getD default))
      | none => pairs.lookup key := by
  rw [upsert, List.lookup_append, lookup_map_substitute]
  cases hpair : pairs.lookup key with
  | some value => cases of? updates key <;> rfl
  | none =>
    have hkey : key ∉ pairs.map Prod.fst := by
      intro hmem
      obtain ⟨pair, hpairs, rfl⟩ := List.mem_map.mp hmem
      have hne := List.lookup_eq_none_iff.mp hpair pair hpairs
      exact absurd rfl (bne_iff_ne.mp hne)
    rw [lookup_missing default hkey]
    cases of? updates key <;> rfl

/-- A pair of a missing key is as its update leaves it. -/
theorem substitute_missing (hupdates : (updates.map key).Nodup)
    (hidem : ∀ u ∈ updates, ∀ value, u.update (u.update value) = u.update value)
    {u : KeyUpdate α β} (hu : u ∈ updates) (default : β) :
    substitute updates (u.key, u.update default) = (u.key, u.update default) := by
  rw [substitute, of?_key hupdates hu]
  exact congrArg (Prod.mk u.key) (hidem u hu default)

theorem substitute_substitute
    (hidem : ∀ u ∈ updates, ∀ value, u.update (u.update value) = u.update value) (pair : α × β) :
    substitute updates (substitute updates pair) = substitute updates pair := by
  unfold substitute
  cases hfound : of? updates pair.1 with
  | none => simp only [hfound]
  | some u =>
    simp only [hfound]
    exact congrArg (Prod.mk pair.1) (hidem u (List.mem_of_find?_eq_some hfound) pair.2)

/-- **Once is enough**, if it is for each key. -/
theorem upsert_upsert (hupdates : (updates.map key).Nodup)
    (hidem : ∀ u ∈ updates, ∀ value, u.update (u.update value) = u.update value) (default : β) :
    upsert updates default (upsert updates default pairs) = upsert updates default pairs := by
  have hnone : missing updates (upsert updates default pairs) = [] := by
    refine List.filter_eq_nil_iff.mpr fun u hu => ?_
    simpa using mem_keys_upsert hu default
  rw [upsert, hnone, List.map_nil, List.append_nil]
  conv_lhs => rw [upsert]
  rw [List.map_append, List.map_map, List.map_map, upsert]
  congr 1
  · exact List.map_congr_left fun pair _ => substitute_substitute hidem pair
  · refine List.map_congr_left fun u hu => ?_
    exact substitute_missing hupdates hidem (List.mem_filter.mp hu).1 default

end KeyUpdate

end CLIntercept.Lib
