import Mathlib.Logic.Relation

/-!
# Transitive closures under renaming

A graph that is drawn with NAMES stands for the graph of the things named. The two have the same
paths as long as no name stands for two things; `transGen_named_iff` is that fact, stated of a
naming relation so that the things named may be fewer than the type holds.

`transGen_iff_of_between` is the other half of every argument about an emitted graph: a relation
squeezed between a relation and its transitive closure has that closure too.
-/

set_option autoImplicit false

namespace CLIntercept.Lib

open Relation

variable {α β : Type*}

/-- **A naming**: each thing has at most one name and each name stands for at most one thing. -/
structure Naming (N : α → β → Prop) : Prop where
  functional : ∀ {a x y}, N a x → N a y → x = y
  injective : ∀ {a b x}, N a x → N b x → a = b

/-- A path between names is a path between the things named. -/
theorem transGen_of_named {N : α → β → Prop} {r : α → α → Prop} {s : β → β → Prop}
    (hN : Naming N) (hs : ∀ x y, s x y → ∃ a b, N a x ∧ N b y ∧ r a b) {x y : β}
    (h : TransGen s x y) : ∃ a b, N a x ∧ N b y ∧ TransGen r a b := by
  induction h with
  | single he =>
    obtain ⟨a, b, ha, hb, hr⟩ := hs _ _ he
    exact ⟨a, b, ha, hb, .single hr⟩
  | tail _ he ih =>
    obtain ⟨a, b, ha, hb, hp⟩ := ih
    obtain ⟨b', c, hb', hc, hr⟩ := hs _ _ he
    cases hN.injective hb hb'
    exact ⟨a, c, ha, hc, hp.tail hr⟩

/-- A path between named things is a path between their names, when every edge's ends are named. -/
theorem named_of_transGen {N : α → β → Prop} {r : α → α → Prop} {s : β → β → Prop}
    (hN : Naming N) (hr : ∀ a b, r a b → ∃ x y, N a x ∧ N b y ∧ s x y) {a b : α}
    (h : TransGen r a b) : ∃ x y, N a x ∧ N b y ∧ TransGen s x y := by
  induction h with
  | single he =>
    obtain ⟨x, y, hx, hy, hs⟩ := hr _ _ he
    exact ⟨x, y, hx, hy, .single hs⟩
  | tail _ he ih =>
    obtain ⟨x, y, hx, hy, hp⟩ := ih
    obtain ⟨y', z, hy', hz, hs⟩ := hr _ _ he
    cases hN.functional hy hy'
    exact ⟨x, z, hx, hz, hp.tail hs⟩

/-- **Renaming keeps reachability.** -/
theorem transGen_named_iff {N : α → β → Prop} {r : α → α → Prop} {s : β → β → Prop}
    (hN : Naming N) (hs : ∀ x y, s x y → ∃ a b, N a x ∧ N b y ∧ r a b)
    (hr : ∀ a b, r a b → ∃ x y, N a x ∧ N b y ∧ s x y) {a b : α} {x y : β}
    (ha : N a x) (hb : N b y) : TransGen s x y ↔ TransGen r a b := by
  constructor
  · intro h
    obtain ⟨a', b', ha', hb', hp⟩ := transGen_of_named hN hs h
    cases hN.injective ha ha'
    cases hN.injective hb hb'
    exact hp
  · intro h
    obtain ⟨x', y', hx', hy', hp⟩ := named_of_transGen hN hr h
    cases hN.functional ha hx'
    cases hN.functional hb hy'
    exact hp

/-- A relation between a relation and its closure has the same closure. -/
theorem transGen_iff_of_between {r s : α → α → Prop} (hrs : ∀ a b, r a b → s a b)
    (hsr : ∀ a b, s a b → TransGen r a b) (a b : α) : TransGen r a b ↔ TransGen s a b :=
  ⟨TransGen.mono hrs a b, TransGen.closed hsr a b⟩

/-- The places of a list without duplicates name its entries. -/
theorem naming_getElem? {l : List β} (h : l.Nodup) :
    Naming (fun (i : Nat) (x : β) => l[i]? = some x) where
  functional := fun hx hy => Option.some.inj (hx.symm.trans hy)
  injective := fun {i j x} hi hj => by
    have hlt : i < l.length := (List.getElem?_eq_some_iff.mp hi).1
    exact (List.getElem?_inj hlt h).mp (hi.trans hj.symm)

/-- Along a relation that only ever goes up, reaching goes up. -/
theorem lt_of_transGen {r : Nat → Nat → Prop} (hr : ∀ a b, r a b → a < b) {a b : Nat}
    (h : TransGen r a b) : a < b := by
  induction h with
  | single he => exact hr _ _ he
  | tail _ he ih => exact Nat.lt_trans ih (hr _ _ he)

end CLIntercept.Lib
