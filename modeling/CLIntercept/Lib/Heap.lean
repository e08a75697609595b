import Mathlib.Data.Multiset.Range

/-!
# Records that are allocated and freed

A heap of records of one type. An allocation is named by its number, which no later allocation gets
again, so that a pointer to a freed record can be told from one to the record that has taken its
address. What was freed is kept in order, also where it should not have been: a record that is freed
twice is there twice.

Ownership is one equation. `Owned` says that what was freed and what is held are together what was
allocated, each once, and its rules say how allocating and freeing move a record from one side to
the other. That nothing is freed twice, that everything held can be read and that nothing is lost
follow from the equation, and no rule speaks of them.
-/

set_option autoImplicit false

namespace CLIntercept.Lib

universe u

/-- **A heap**: the records in the order of their allocation, and the frees. -/
structure Heap (α : Type u) where
  made : List α := []
  freed : List Nat := []

namespace Heap

variable {α : Type u}

/-- The number that the next record gets. -/
def next (h : Heap α) : Nat := h.made.length

/-- `new` -/
def alloc (h : Heap α) (x : α) : Heap α := { h with made := h.made ++ [x] }

/-- `delete` -/
def free (h : Heap α) (i : Nat) : Heap α := { h with freed := h.freed ++ [i] }

/-- What a pointer shows. There is nothing behind one that is freed. -/
def get? (h : Heap α) (i : Nat) : Option α := if i ∈ h.freed then none else h.made[i]?

@[simp] theorem next_alloc (h : Heap α) (x : α) : (h.alloc x).next = h.next + 1 := by
  simp [next, alloc]

@[simp] theorem next_free (h : Heap α) (i : Nat) : (h.free i).next = h.next := rfl

/-! ## Ownership -/

/-- **What was freed and what is held are what was allocated.** -/
def Owned (h : Heap α) (held : Multiset Nat) : Prop :=
  (h.freed : Multiset Nat) + held = Multiset.range h.next

variable {h : Heap α} {held : Multiset Nat}

theorem owned_empty : (({} : Heap α)).Owned 0 := rfl

/-- A new record is held. -/
theorem Owned.alloc (ho : h.Owned held) (x : α) : (h.alloc x).Owned (h.next ::ₘ held) := by
  unfold Owned at ho ⊢
  rw [next_alloc, Multiset.range_succ, Multiset.add_cons]
  exact congrArg (h.next ::ₘ ·) ho

/-- A record that is freed is held no more. -/
theorem Owned.free {i : Nat} (ho : h.Owned (i ::ₘ held)) : (h.free i).Owned held := by
  unfold Owned at ho ⊢
  have hfreed : ((h.free i).freed : Multiset Nat) = i ::ₘ (h.freed : Multiset Nat) :=
    Multiset.coe_eq_coe.mpr List.perm_append_comm
  rw [hfreed, Multiset.cons_add, ← Multiset.add_cons]
  exact ho

/-- Nothing is freed twice. -/
theorem Owned.nodup_freed (ho : h.Owned held) : h.freed.Nodup := by
  have hnodup : ((h.freed : Multiset Nat) + held).Nodup := ho ▸ Multiset.nodup_range h.next
  exact Multiset.coe_nodup.mp (Multiset.nodup_add.mp hnodup).1

theorem Owned.nodup (ho : h.Owned held) : held.Nodup := by
  have hnodup : ((h.freed : Multiset Nat) + held).Nodup := ho ▸ Multiset.nodup_range h.next
  exact (Multiset.nodup_add.mp hnodup).2.1

/-- **Held are the records that are allocated and not freed.** -/
theorem Owned.mem_iff (ho : h.Owned held) {i : Nat} : i ∈ held ↔ i < h.next ∧ i ∉ h.freed := by
  have hnodup : ((h.freed : Multiset Nat) + held).Nodup := ho ▸ Multiset.nodup_range h.next
  have hdisjoint := (Multiset.nodup_add.mp hnodup).2.2
  have hmem : i < h.next ↔ i ∈ h.freed ∨ i ∈ held := by
    rw [← Multiset.mem_range, ← ho, Multiset.mem_add, Multiset.mem_coe]
  constructor
  · intro hi
    refine ⟨hmem.mpr (.inr hi), fun hfreed => ?_⟩
    exact Multiset.disjoint_left.mp hdisjoint (Multiset.mem_coe.mpr hfreed) hi
  · intro hi
    exact (hmem.mp hi.1).resolve_left hi.2

/-- What is held can be read: it is what was stored there. -/
theorem Owned.get? (ho : h.Owned held) {i : Nat} (hi : i ∈ held) : h.get? i = h.made[i]? :=
  if_neg (ho.mem_iff.mp hi).2

theorem made_alloc {i : Nat} {y : α} (hi : h.made[i]? = some y) (x : α) :
    (h.alloc x).made[i]? = some y := by
  have hlt : i < h.made.length := (List.getElem?_eq_some_iff.mp hi).1
  exact (List.getElem?_append_left hlt).trans hi

theorem made_alloc_next (h : Heap α) (x : α) : (h.alloc x).made[h.next]? = some x := by
  simp [Heap.alloc, Heap.next]

end Heap

end CLIntercept.Lib
