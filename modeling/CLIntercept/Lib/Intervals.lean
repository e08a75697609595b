import CLIntercept.Lib.OrdMap

/-!
# Ordered maps of intervals

A map from the base of an interval to what is recorded of it, with a length for each record. When no
interval begins in another, the interval that holds a point is the one with the greatest base not
above it, if that one reaches so far: `filter_floor?_eq_some_iff`. Intervals that are disjoint may
still have an empty one that begins in another, and nothing else: `separate_iff`.

A search by position ends in one of three ways, `lowerBound_cases`, and the iterator that such a
search steps back is decremented with `prev?`, which has no answer at the first position.
-/

set_option autoImplicit false

namespace CLIntercept.Lib.OrdMap

universe u v

/-! ## Positions -/

section

variable {κ : Type u} {ν : Type v} [LinearOrder κ]

/-- `--iter`: there is nothing before the first position. -/
def prev? (_ : OrdMap κ ν) (i : Nat) : Option Nat := if i = 0 then none else some (i - 1)

theorem prev?_of_ne_zero (m : OrdMap κ ν) {i : Nat} (h : i ≠ 0) : m.prev? i = some (i - 1) :=
  if_neg h

/-- A position has an entry unless it is the end. -/
theorem lowerBound_eq_fin_iff {m : OrdMap κ ν} {k : κ} :
    m.lowerBound k = m.fin ↔ m.at? (m.lowerBound k) = none := by
  have hle : m.lowerBound k ≤ m.fin := List.findIdx_le_length
  rw [at?, List.getElem?_eq_none_iff]
  exact ⟨fun h => h.ge, fun h => Nat.le_antisymm hle h⟩

/-- The end is not the beginning of a map with entries. -/
theorem fin_ne_zero {m : OrdMap κ ν} (h : m.entries.isEmpty = false) : m.fin ≠ 0 := by
  intro h0
  rw [List.isEmpty_iff_length_eq_zero.mpr h0] at h
  cases h

/-- **How a search by position ends**: at the key, before all entries, or one step after the entry
that it is looking for. -/
theorem lowerBound_cases (m : OrdMap κ ν) (k : κ) :
    (∃ e, m.at? (m.lowerBound k) = some e ∧ e.1 = k ∧ m.floor? k = some e) ∨
    (m.lowerBound k = 0 ∧ (∀ e, m.at? (m.lowerBound k) = some e → k < e.1) ∧
      m.floor? k = none) ∨
    (m.lowerBound k ≠ 0 ∧ (∀ e, m.at? (m.lowerBound k) = some e → e.1 ≠ k) ∧
      ∃ e, m.at? (m.lowerBound k - 1) = some e ∧ m.floor? k = some e) := by
  by_cases hkey : ∃ e, m.at? (m.lowerBound k) = some e ∧ e.1 = k
  · obtain ⟨e, hat, hek⟩ := hkey
    refine .inl ⟨e, hat, hek, floor?_eq_some_iff.mpr ⟨List.mem_of_getElem? hat, hek.le, ?_⟩⟩
    exact fun d _ hd => hd.trans hek.ge
  have hne : ∀ e, m.at? (m.lowerBound k) = some e → e.1 ≠ k := fun e hat hek => hkey ⟨e, hat, hek⟩
  have hfloor := floor?_eq_pred hne
  by_cases h0 : m.lowerBound k = 0
  · rw [if_pos h0] at hfloor
    refine .inr (.inl ⟨h0, fun e hat => ?_, hfloor⟩)
    exact lt_of_le_of_ne (le_of_lowerBound_le (Nat.le_refl _) hat) (hne e hat).symm
  · rw [if_neg h0] at hfloor
    have hlen : m.lowerBound k - 1 < m.entries.length := by
      have : m.lowerBound k ≤ m.entries.length := List.findIdx_le_length
      omega
    have hat : m.at? (m.lowerBound k - 1) = some (m.entries[m.lowerBound k - 1]) :=
      List.getElem?_eq_getElem hlen
    exact .inr (.inr ⟨h0, hne, _, hat, hfloor.trans hat⟩)

end

/-! ## Intervals -/

section

variable {ν : Type v} (len : ν → Nat)

/-- An interval holds a point. -/
def Covers (e : Nat × ν) (p : Nat) : Prop := e.1 ≤ p ∧ p < e.1 + len e.2

instance (e : Nat × ν) (p : Nat) : Decidable (Covers len e p) :=
  inferInstanceAs (Decidable (_ ∧ _))

/-- No two intervals have a point in common. -/
def Disjoint (m : OrdMap Nat ν) : Prop :=
  ∀ a ∈ m.entries, ∀ b ∈ m.entries, a ≠ b → ∀ p, Covers len a p → ¬ Covers len b p

/-- No empty interval lies inside another. -/
def NoEmptyInside (m : OrdMap Nat ν) : Prop :=
  ∀ a ∈ m.entries, ∀ b ∈ m.entries, len b.2 = 0 → ¬ Covers len a b.1

instance (m : OrdMap Nat ν) : Decidable (m.NoEmptyInside len) :=
  inferInstanceAs (Decidable (∀ a ∈ m.entries, ∀ b ∈ m.entries, len b.2 = 0 → ¬ Covers len a b.1))

/-- No interval begins in another. -/
def Separate (m : OrdMap Nat ν) : Prop :=
  ∀ a ∈ m.entries, ∀ b ∈ m.entries, a.1 < b.1 → a.1 + len a.2 ≤ b.1

instance (m : OrdMap Nat ν) : Decidable (m.Separate len) :=
  inferInstanceAs (Decidable (∀ a ∈ m.entries, ∀ b ∈ m.entries, a.1 < b.1 → a.1 + len a.2 ≤ b.1))

variable {len} {m : OrdMap Nat ν}

/-- A point is in one of them at most. -/
theorem Separate.eq (h : m.Separate len) {a b : Nat × ν} (ha : a ∈ m.entries) (hb : b ∈ m.entries)
    {p : Nat} (hap : Covers len a p) (hbp : Covers len b p) : a = b := by
  rcases lt_trichotomy a.1 b.1 with hlt | heq | hlt
  · exact absurd (h a ha b hb hlt) (not_le.mpr (hbp.1.trans_lt hap.2))
  · exact m.eq_of_key_eq ha hb heq
  · exact absurd (h b hb a ha hlt) (not_le.mpr (hap.1.trans_lt hbp.2))

/-- An interval that begins in another either is empty or has its first point in common with it. -/
theorem separate_iff : m.Separate len ↔ m.Disjoint len ∧ m.NoEmptyInside len := by
  constructor
  · intro h
    refine ⟨fun a ha b hb hne p hap hbp => hne (h.eq ha hb hap hbp), fun a ha b hb hb0 hcovers => ?_⟩
    rcases hcovers.1.lt_or_eq with hlt | heq
    · exact absurd (h a ha b hb hlt) (not_le.mpr hcovers.2)
    · have hab := m.eq_of_key_eq ha hb heq
      have hlt := hcovers.2
      rw [hab, hb0] at hlt
      exact lt_irrefl _ hlt
  · rintro ⟨hdisjoint, hempty⟩ a ha b hb hlt
    by_contra hinside
    have hcovers : Covers len a b.1 := ⟨hlt.le, not_le.mp hinside⟩
    have hne : a ≠ b := fun heq => hlt.ne (congrArg Prod.fst heq)
    have hb0 : len b.2 ≠ 0 := fun h0 => hempty a ha b hb h0 hcovers
    refine hdisjoint a ha b hb hne b.1 hcovers ⟨le_refl _, ?_⟩
    exact Nat.lt_add_of_pos_right (Nat.pos_of_ne_zero hb0)

/-- **The greatest base not above a point, checked against the length, finds the interval that
holds it**, and finds none only where none does. -/
theorem filter_floor?_eq_some_iff (h : m.Separate len) {p : Nat} {e : Nat × ν} :
    (m.floor? p).filter (Covers len · p) = some e ↔ e ∈ m.entries ∧ Covers len e p := by
  rw [Option.filter_eq_some_iff, floor?_eq_some_iff, decide_eq_true_eq]
  constructor
  · rintro ⟨⟨he, -⟩, hcovers⟩
    exact ⟨he, hcovers⟩
  · rintro ⟨he, hcovers⟩
    refine ⟨⟨he, hcovers.1, fun d hd hdp => ?_⟩, hcovers⟩
    by_contra hlt
    -- an entry between the base and the point would begin in the interval
    exact absurd (h e he d hd (not_le.mp hlt)) (not_le.mpr (hdp.trans_lt hcovers.2))

theorem filter_floor?_eq_none_iff (h : m.Separate len) {p : Nat} :
    (m.floor? p).filter (Covers len · p) = none ↔ ∀ e ∈ m.entries, ¬Covers len e p := by
  rw [Option.eq_none_iff_forall_ne_some]
  constructor
  · intro hnone e he hcovers
    exact hnone e ((filter_floor?_eq_some_iff h).mpr ⟨he, hcovers⟩)
  · intro hnone e heq
    obtain ⟨he, hcovers⟩ := (filter_floor?_eq_some_iff h).mp heq
    exact hnone e he hcovers

end

end CLIntercept.Lib.OrdMap
