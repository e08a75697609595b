import Mathlib.Data.Nat.Basic
import Mathlib.Order.Lattice
import Mathlib.Data.List.Pairwise

/-!
# Ordered maps with positions

A map kept as its entries in increasing key order, as a C++ `std::map` presents them: lookup,
insertion and erasure by key, and `lowerBound`, the POSITION of the first key that is not less than
the one asked for. Positions are numbers, and the position after the last entry is `fin`.

That the entries are sorted is a field, so every map has it and no operation needs it as a
precondition. `floor?` is what searches by position are usually for: the entry with the greatest
key not above a given one. `floor?_eq_of_lowerBound` is the search that finds it: the lower bound
itself where it has the key, else the position before it.
-/

set_option autoImplicit false

namespace CLIntercept.Lib

universe u v

/-- A map from keys to values: its entries, in strictly increasing key order. -/
structure OrdMap (κ : Type u) (ν : Type v) [LinearOrder κ] where
  entries : List (κ × ν)
  sorted : entries.Pairwise fun a b => a.1 < b.1

namespace OrdMap

variable {κ : Type u} {ν : Type v} [LinearOrder κ]

/-! ## The operations -/

/-- The map with no entry. -/
def empty : OrdMap κ ν := ⟨[], .nil⟩

/-- The value stored under a key. -/
def get? (m : OrdMap κ ν) (k : κ) : Option ν := (m.entries.find? fun e => e.1 = k).map (·.2)

/-- Store a value under a key: `m[k] = x`. -/
def insert (m : OrdMap κ ν) (k : κ) (x : ν) : OrdMap κ ν where
  entries := m.entries.filter (fun e => e.1 < k) ++ (k, x) :: m.entries.filter (fun e => k < e.1)
  sorted := by
    refine List.pairwise_append.mpr ⟨m.sorted.filter _, ?_, ?_⟩
    · refine List.pairwise_cons.mpr ⟨fun e he => ?_, m.sorted.filter _⟩
      simpa using (List.mem_filter.mp he).2
    · intro d hd e he
      have hdk : d.1 < k := by simpa using (List.mem_filter.mp hd).2
      rcases List.mem_cons.mp he with rfl | he
      · exact hdk
      · exact hdk.trans (by simpa using (List.mem_filter.mp he).2)

/-- Forget a key. -/
def erase (m : OrdMap κ ν) (k : κ) : OrdMap κ ν :=
  ⟨m.entries.filter fun e => e.1 ≠ k, m.sorted.filter _⟩

/-- The position after the last entry. -/
def fin (m : OrdMap κ ν) : Nat := m.entries.length

/-- The position of the first entry whose key is not less than `k`, or `fin`. -/
def lowerBound (m : OrdMap κ ν) (k : κ) : Nat := m.entries.findIdx fun e => k ≤ e.1

/-- The entry at a position. -/
def at? (m : OrdMap κ ν) (i : Nat) : Option (κ × ν) := m.entries[i]?

/-- The entry with the greatest key that is at most `k`. -/
def floor? (m : OrdMap κ ν) (k : κ) : Option (κ × ν) :=
  (m.entries.filter fun e => e.1 ≤ k).getLast?

/-! ## Lookup -/

/-- A sorted list has one entry for each key. -/
theorem eq_of_key_eq (m : OrdMap κ ν) {e e' : κ × ν} (h : e ∈ m.entries) (h' : e' ∈ m.entries)
    (hk : e.1 = e'.1) : e = e' := by
  obtain ⟨i, hi, rfl⟩ := List.getElem_of_mem h
  obtain ⟨j, hj, rfl⟩ := List.getElem_of_mem h'
  rcases lt_trichotomy i j with hij | rfl | hij
  · exact absurd hk (List.pairwise_iff_getElem.mp m.sorted i j hi hj hij).ne
  · rfl
  · exact absurd hk (List.pairwise_iff_getElem.mp m.sorted j i hj hi hij).ne'

/-- **Lookup reads the entries.** -/
theorem get?_eq_some_iff {m : OrdMap κ ν} {k : κ} {x : ν} :
    m.get? k = some x ↔ (k, x) ∈ m.entries := by
  unfold get?
  constructor
  · intro h
    obtain ⟨e, he, rfl⟩ := Option.map_eq_some_iff.mp h
    have hkey : e.1 = k := by simpa using List.find?_some he
    exact hkey ▸ List.mem_of_find?_eq_some he
  · intro h
    cases hf : m.entries.find? fun e => e.1 = k with
    | none => simpa using List.find?_eq_none.mp hf _ h
    | some e =>
      have hkey : e.1 = k := by simpa using List.find?_some hf
      rw [m.eq_of_key_eq (List.mem_of_find?_eq_some hf) h hkey]
      rfl

@[simp] theorem get?_empty (k : κ) : (empty : OrdMap κ ν).get? k = none := rfl

theorem mem_insert {m : OrdMap κ ν} {k : κ} {x : ν} {e : κ × ν} :
    e ∈ (m.insert k x).entries ↔ e = (k, x) ∨ (e ∈ m.entries ∧ e.1 ≠ k) := by
  simp only [insert, List.mem_append, List.mem_cons, List.mem_filter, decide_eq_true_eq]
  constructor
  · rintro (⟨he, hlt⟩ | rfl | ⟨he, hlt⟩)
    · exact .inr ⟨he, hlt.ne⟩
    · exact .inl rfl
    · exact .inr ⟨he, hlt.ne'⟩
  · rintro (rfl | ⟨he, hne⟩)
    · exact .inr (.inl rfl)
    · rcases lt_or_gt_of_ne hne with hlt | hlt
      · exact .inl ⟨he, hlt⟩
      · exact .inr (.inr ⟨he, hlt⟩)

theorem mem_erase {m : OrdMap κ ν} {k : κ} {e : κ × ν} :
    e ∈ (m.erase k).entries ↔ e ∈ m.entries ∧ e.1 ≠ k := by
  simp [erase, List.mem_filter]

theorem get?_insert (m : OrdMap κ ν) (k k' : κ) (x : ν) :
    (m.insert k x).get? k' = if k' = k then some x else m.get? k' := by
  ext y
  rw [get?_eq_some_iff, mem_insert]
  split
  · next h => simp [h, eq_comm]
  · next h => simp [h, get?_eq_some_iff]

theorem get?_erase (m : OrdMap κ ν) (k k' : κ) :
    (m.erase k).get? k' = if k' = k then none else m.get? k' := by
  ext y
  rw [get?_eq_some_iff, mem_erase]
  split
  · next h => simp [h]
  · next h => simp [h, get?_eq_some_iff]

/-- What is there after a key is forgotten was there before. -/
theorem get?_of_erase {m : OrdMap κ ν} {k k' : κ} {x : ν} (h : (m.erase k).get? k' = some x) :
    m.get? k' = some x := by
  rw [get?_erase] at h
  split at h
  · exact absurd h (Option.some_ne_none x).symm
  · exact h

/-- Several keys are erased one after the other. -/
theorem get?_foldl_erase (m : OrdMap κ ν) (ks : List κ) (k : κ) :
    (ks.foldl erase m).get? k = if k ∈ ks then none else m.get? k := by
  induction ks generalizing m with
  | nil => simp
  | cons k' ks ih =>
    rw [List.foldl_cons, ih, get?_erase]
    by_cases hmem : k ∈ ks
    · simp [hmem]
    · simp [hmem]

/-! ## Search by position -/

/-- `floor?` is the greatest entry not above the key. -/
theorem floor?_eq_some_iff {m : OrdMap κ ν} {k : κ} {e : κ × ν} :
    m.floor? k = some e ↔ e ∈ m.entries ∧ e.1 ≤ k ∧ ∀ d ∈ m.entries, d.1 ≤ k → d.1 ≤ e.1 := by
  have hsorted : (m.entries.filter fun e => e.1 ≤ k).Pairwise fun a b => a.1 < b.1 :=
    m.sorted.filter _
  have hmem : ∀ d, d ∈ (m.entries.filter fun e => e.1 ≤ k) ↔ d ∈ m.entries ∧ d.1 ≤ k := by
    simp [List.mem_filter]
  unfold floor?
  generalize (m.entries.filter fun e => e.1 ≤ k) = es at hsorted hmem
  have hlast : ∀ e, es.getLast? = some e → ∀ d ∈ es, d.1 ≤ e.1 := by
    intro e he d hd
    obtain ⟨front, rfl⟩ := List.getLast?_eq_some_iff.mp he
    rcases List.mem_append.mp hd with hd | hd
    · exact ((List.pairwise_append.mp hsorted).2.2 d hd e (List.mem_singleton_self e)).le
    · rw [List.mem_singleton.mp hd]
  constructor
  · intro he
    obtain ⟨hme, hle⟩ := (hmem e).mp (List.mem_of_getLast? he)
    exact ⟨hme, hle, fun d hd hdk => hlast e he d ((hmem d).mpr ⟨hd, hdk⟩)⟩
  · rintro ⟨hme, hle, hmax⟩
    have hin := (hmem e).mpr ⟨hme, hle⟩
    cases hl : es.getLast? with
    | none => exact absurd (List.getLast?_eq_none_iff.mp hl ▸ hin) List.not_mem_nil
    | some d =>
      obtain ⟨hmd, hdk⟩ := (hmem d).mp (List.mem_of_getLast? hl)
      rw [m.eq_of_key_eq hmd hme (le_antisymm (hmax d hmd hdk) (hlast d hl e hin))]

theorem floor?_eq_none_iff {m : OrdMap κ ν} {k : κ} :
    m.floor? k = none ↔ ∀ e ∈ m.entries, k < e.1 := by
  simp [floor?]

/-- Every position before the lower bound has a smaller key. -/
theorem lt_of_lt_lowerBound {m : OrdMap κ ν} {k : κ} {i : Nat} {e : κ × ν}
    (hi : i < m.lowerBound k) (he : m.at? i = some e) : e.1 < k := by
  obtain ⟨h, rfl⟩ := List.getElem?_eq_some_iff.mp he
  simpa using List.not_of_lt_findIdx hi

/-- The lower bound and what follows it have keys that are not smaller. -/
theorem le_of_lowerBound_le {m : OrdMap κ ν} {k : κ} {i : Nat} {e : κ × ν}
    (hi : m.lowerBound k ≤ i) (he : m.at? i = some e) : k ≤ e.1 := by
  obtain ⟨h, rfl⟩ := List.getElem?_eq_some_iff.mp he
  have hlb : m.lowerBound k < m.entries.length := hi.trans_lt h
  have hk : k ≤ (m.entries[m.lowerBound k]).1 :=
    of_decide_eq_true (List.findIdx_getElem (w := hlb))
  rcases hi.eq_or_lt with heq | hlt
  · simpa [heq] using hk
  · exact hk.trans (List.pairwise_iff_getElem.mp m.sorted _ _ hlb h hlt).le

/-- The entry before the lower bound is the greatest one below the key. -/
theorem floor?_eq_pred {m : OrdMap κ ν} {k : κ} (hk : ∀ e, m.at? (m.lowerBound k) = some e → e.1 ≠ k) :
    m.floor? k = if m.lowerBound k = 0 then none else m.at? (m.lowerBound k - 1) := by
  -- Nothing at or after the lower bound is at most `k`.
  have habove : ∀ i e, m.lowerBound k ≤ i → m.at? i = some e → k < e.1 := by
    intro i e hi he
    rcases Nat.eq_or_lt_of_le hi with heq | hlt
    · rw [← heq] at he
      exact lt_of_le_of_ne (le_of_lowerBound_le (Nat.le_refl _) he) (hk e he).symm
    · obtain ⟨h, rfl⟩ := List.getElem?_eq_some_iff.mp he
      have hlb := Nat.lt_trans hlt h
      exact (le_of_lowerBound_le (Nat.le_refl _) (List.getElem?_eq_getElem hlb)).trans_lt
        (List.pairwise_iff_getElem.mp m.sorted _ _ hlb h hlt)
  split
  · next h0 =>
    refine floor?_eq_none_iff.mpr fun e he => ?_
    obtain ⟨i, hi, rfl⟩ := List.getElem_of_mem he
    exact habove i _ (h0 ▸ Nat.zero_le i) (List.getElem?_eq_getElem hi)
  · next h0 =>
    have hlen : m.lowerBound k - 1 < m.entries.length := by
      have : m.lowerBound k ≤ m.entries.length := List.findIdx_le_length
      omega
    have hpred : m.at? (m.lowerBound k - 1) = some (m.entries[m.lowerBound k - 1]) :=
      List.getElem?_eq_getElem hlen
    rw [hpred, floor?_eq_some_iff]
    refine ⟨List.getElem_mem hlen, (lt_of_lt_lowerBound (by omega) hpred).le, fun d hd hdk => ?_⟩
    obtain ⟨i, hi, rfl⟩ := List.getElem_of_mem hd
    have hlt : i < m.lowerBound k := by
      by_contra hge
      exact absurd hdk (not_le.mpr (habove i _ (not_lt.mp hge) (List.getElem?_eq_getElem hi)))
    rcases Nat.eq_or_lt_of_le (Nat.le_sub_one_of_lt hlt) with heq | hlt'
    · simp [heq]
    · exact (List.pairwise_iff_getElem.mp m.sorted _ _ hi hlen hlt').le

/-- **The search by position**: the entry at the lower bound where it has the key, and the one
before it where it has not. -/
theorem floor?_eq_of_lowerBound (m : OrdMap κ ν) (k : κ) :
    m.floor? k = match m.at? (m.lowerBound k) with
      | some e => if e.1 = k then some e
        else if m.lowerBound k = 0 then none else m.at? (m.lowerBound k - 1)
      | none => if m.lowerBound k = 0 then none else m.at? (m.lowerBound k - 1) := by
  cases hat : m.at? (m.lowerBound k) with
  | none => exact floor?_eq_pred fun e he => absurd (hat ▸ he) nofun
  | some e =>
    by_cases hek : e.1 = k
    · simp only [hek, if_true]
      refine floor?_eq_some_iff.mpr ⟨List.mem_of_getElem? hat, hek.le, fun d _ hd => hd.trans hek.ge⟩
    · simp only [hek, if_false]
      exact floor?_eq_pred fun d hd => by rw [hat, Option.some.injEq] at hd; exact hd ▸ hek

/-! ## Counting values -/

/-- How many keys have a value with a property. -/
def count (m : OrdMap κ ν) (p : ν → Bool) : Nat := m.entries.countP fun e => p e.2

@[simp] theorem count_empty (p : ν → Bool) : (empty : OrdMap κ ν).count p = 0 := rfl

/-- Storing a value counts it, beside those of the other keys. -/
theorem count_insert (m : OrdMap κ ν) (k : κ) (x : ν) (p : ν → Bool) :
    (m.insert k x).count p = (m.erase k).count p + if p x then 1 else 0 := by
  have hsplit : ∀ es : List (κ × ν), (es.filter fun e => e.1 ≠ k).countP (fun e => p e.2) =
      (es.filter fun e => e.1 < k).countP (fun e => p e.2) +
        (es.filter fun e => k < e.1).countP (fun e => p e.2) := by
    intro es
    induction es with
    | nil => rfl
    | cons e es ih =>
      simp only [ne_eq, decide_not] at ih
      rcases lt_trichotomy e.1 k with h | h | h
      · simp [h, h.ne, h.le, List.countP_cons, ih, Nat.add_right_comm]
      · simp [h, ih]
      · simp [h, h.ne', h.le, List.countP_cons, ih, Nat.add_assoc]
  simp only [count, insert, erase, List.countP_append, List.countP_cons, hsplit]
  omega

/-- A key counts for its value. -/
theorem count_eq_erase (m : OrdMap κ ν) (k : κ) (p : ν → Bool) :
    m.count p = (m.erase k).count p + (m.get? k).elim 0 fun x => if p x then 1 else 0 := by
  suffices h : ∀ es : List (κ × ν), es.Pairwise (fun a b => a.1 < b.1) →
      es.countP (fun e => p e.2) = (es.filter fun e => e.1 ≠ k).countP (fun e => p e.2) +
        ((es.find? fun e => e.1 = k).map (·.2)).elim 0 fun x => if p x then 1 else 0 from
    h m.entries m.sorted
  intro es
  induction es with
  | nil => intro _; rfl
  | cons e es ih =>
    intro hsorted
    obtain ⟨hhead, htail⟩ := List.pairwise_cons.mp hsorted
    by_cases hk : e.1 = k
    · -- The key is not seen again.
      have hrest : (es.filter fun d => !decide (d.1 = k)) = es :=
        List.filter_eq_self.mpr fun d hd => by simpa using (hk ▸ hhead d hd).ne'
      simp [hk, hrest, List.countP_cons]
    · have := ih htail
      simp only [ne_eq, decide_not] at this
      simp [hk, List.countP_cons, this, Nat.add_right_comm]

end OrdMap

end CLIntercept.Lib
