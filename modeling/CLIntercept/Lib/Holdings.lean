import CLIntercept.Lib.OrdMap
import Mathlib.Algebra.BigOperators.Group.Multiset.Defs
import Mathlib.Algebra.Order.Group.Multiset

/-!
# What the entries of a map hold

Each entry of a map owns some resources, and resources are made and given back beside it. All is in
order when what was made is what was given back and what the map holds: `account_iff` says when a
change of one entry keeps it so, and `account_iff_of_sub` what that comes to where nothing is given back
but what the old entry had.
-/

set_option autoImplicit false

namespace CLIntercept.Lib

universe u v w

namespace OrdMap

variable {κ : Type u} {ν : Type v} {β : Type w} [LinearOrder κ]

/-- What all entries hold together. -/
def contents (m : OrdMap κ ν) (f : ν → Multiset β) : Multiset β := (m.entries.map fun e => f e.2).sum

@[simp] theorem contents_empty (f : ν → Multiset β) : (empty : OrdMap κ ν).contents f = 0 := rfl

@[simp] theorem erase_erase (m : OrdMap κ ν) (k : κ) : (m.erase k).erase k = m.erase k := by
  simp [erase, List.filter_filter]

/-- Storing a value adds what it holds to what the other keys hold. -/
theorem contents_insert (m : OrdMap κ ν) (k : κ) (x : ν) (f : ν → Multiset β) :
    (m.insert k x).contents f = (m.erase k).contents f + f x := by
  have hsplit : ∀ es : List (κ × ν), ((es.filter fun e => e.1 ≠ k).map fun e => f e.2).sum =
      ((es.filter fun e => e.1 < k).map fun e => f e.2).sum +
        ((es.filter fun e => k < e.1).map fun e => f e.2).sum := by
    intro es
    induction es with
    | nil => rfl
    | cons e es ih =>
      simp only [ne_eq, decide_not] at ih
      rcases lt_trichotomy e.1 k with h | h | h
      · simp [h, h.ne, h.le, ih, add_assoc]
      · simp [h, ih]
      · simp [h, h.ne', h.le, ih, add_left_comm]
  simp only [contents, insert, erase, List.map_append, List.sum_append, List.map_cons, List.sum_cons,
    hsplit]
  rw [add_assoc, add_comm (f x)]

/-- A key holds what its value does. -/
theorem contents_eq_erase (m : OrdMap κ ν) (k : κ) (f : ν → Multiset β) :
    m.contents f = (m.erase k).contents f + (m.get? k).elim 0 f := by
  suffices h : ∀ es : List (κ × ν), es.Pairwise (fun a b => a.1 < b.1) →
      (es.map fun e => f e.2).sum = ((es.filter fun e => e.1 ≠ k).map fun e => f e.2).sum +
        ((es.find? fun e => e.1 = k).map (·.2)).elim 0 f from
    h m.entries m.sorted
  intro es
  induction es with
  | nil => intro _; rfl
  | cons e es ih =>
    intro hsorted
    obtain ⟨hhead, htail⟩ := List.pairwise_cons.mp hsorted
    by_cases hk : e.1 = k
    · -- The key is not seen again.
      have hrest : (es.filter fun d => !decide (d.1 = k)) = es :=
        List.filter_eq_self.mpr fun d hd => by simpa using (hk ▸ hhead d hd).ne'
      simp [hk, hrest, add_comm]
    · have := ih htail
      simp only [ne_eq, decide_not] at this
      simp [hk, this, add_assoc]

/-- A new key. -/
theorem contents_insert_new {m : OrdMap κ ν} {k : κ} (h : m.get? k = none) (x : ν)
    (f : ν → Multiset β) : (m.insert k x).contents f = f x + m.contents f := by
  rw [contents_insert, contents_eq_erase m k, h, add_comm]
  exact congrArg (f x + ·) (add_zero _).symm

/-- A key that is there, and the others. -/
theorem contents_of_get? {m : OrdMap κ ν} {k : κ} {x : ν} (h : m.get? k = some x)
    (f : ν → Multiset β) : m.contents f = f x + (m.erase k).contents f := by
  rw [contents_eq_erase m k, h, add_comm]
  rfl

/-- Another value for a key that is there. -/
theorem contents_replace {m : OrdMap κ ν} {k : κ} {x : ν} (h : m.get? k = some x) (y : ν)
    (f : ν → Multiset β) : (m.insert k y).contents f + f x = f y + m.contents f := by
  rw [contents_insert, contents_of_get? h]
  ac_rfl

/-- Something is held if the value of some key has it. -/
theorem mem_contents {m : OrdMap κ ν} {f : ν → Multiset β} {b : β} :
    b ∈ m.contents f ↔ ∃ k x, m.get? k = some x ∧ b ∈ f x := by
  simp only [contents, get?_eq_some_iff]
  generalize m.entries = es
  induction es with
  | nil => simp
  | cons e es ih =>
    rw [List.map_cons, List.sum_cons, Multiset.mem_add, ih]
    constructor
    · rintro (hb | ⟨k, x, hmem, hb⟩)
      · exact ⟨e.1, e.2, List.mem_cons_self, hb⟩
      · exact ⟨k, x, List.mem_cons_of_mem _ hmem, hb⟩
    · rintro ⟨k, x, hmem, hb⟩
      rcases List.mem_cons.mp hmem with rfl | hmem
      · exact .inl hb
      · exact .inr ⟨k, x, hmem, hb⟩

end OrdMap

/-! ## Accounts -/

section

variable {β : Type w} {made given rest old new making giving : Multiset β}

/-- **When one entry is changed**: what is being made and what the entry had become what is being
given back and what it has. -/
theorem account_iff (h : made = given + (rest + old)) :
    made + making = given + giving + (rest + new) ↔ making + old = giving + new := by
  have hleft : made + making = (given + rest) + (making + old) := by
    rw [h]
    ac_rfl
  have hright : given + giving + (rest + new) = (given + rest) + (giving + new) := by ac_rfl
  rw [hleft, hright, add_right_inj]

/-- Giving back what the old entry had, and making what the new one has. -/
theorem account_iff_of_sub (hgiving : giving ≤ old) (hmaking : new ≤ making) :
    making + old = giving + new ↔ giving = old ∧ new = making := by
  constructor
  · intro h
    have hle : giving + new ≤ giving + making := add_le_add_right hmaking giving
    have hle' : giving + making ≤ making + old := by
      rw [add_comm making]
      exact add_le_add_left hgiving making
    have heq : giving + new = giving + making := le_antisymm hle (h ▸ hle')
    have hnew : new = making := add_left_cancel heq
    refine ⟨?_, hnew⟩
    rw [hnew, add_comm] at h
    exact (add_right_cancel h).symm
  · rintro ⟨rfl, rfl⟩
    exact add_comm ..

end

end CLIntercept.Lib
