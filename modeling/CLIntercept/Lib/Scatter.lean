import Mathlib.Logic.Function.Basic
import Mathlib.Logic.Nontrivial.Defs

/-!
# Stores in any order

Work that runs side by side stores values from one array in another: a store is a pair of the place
that is read and the place that is written, and the two arrays do not overlap. What is left depends
on the order only where two stores write one place.

`scatter_iff` is the rule of this library: stores leave the same as an assignment of the places,
whatever the arrays hold and in whatever order they are made, exactly if they are those of the
assignment.
-/

set_option autoImplicit false

namespace CLIntercept.Lib

universe u v w

variable {α : Type u} {β : Type v} {τ : Type w} [DecidableEq β]

/-- The stores of a list, one after the other. -/
def scatter (src : α → τ) (stores : List (α × β)) (dst : β → τ) : β → τ :=
  stores.foldl (fun dst store => Function.update dst store.2 (src store.1)) dst

/-- **What an assignment leaves**: each place has what its own one holds, and where it has none what
was there. -/
def assign (source : β → Option α) (src : α → τ) (dst : β → τ) (i : β) : τ :=
  ((source i).map src).getD (dst i)

theorem scatter_cons (src : α → τ) (store : α × β) (stores : List (α × β)) (dst : β → τ) :
    scatter src (store :: stores) dst =
      scatter src stores (Function.update dst store.2 (src store.1)) := rfl

theorem scatter_append (src : α → τ) (stores stores' : List (α × β)) (dst : β → τ) :
    scatter src (stores ++ stores') dst = scatter src stores' (scatter src stores dst) :=
  List.foldl_append

/-- **What stores leave at a place**: what was there, if none goes there, or what one of them
brings. -/
theorem scatter_cases (src : α → τ) (stores : List (α × β)) (dst : β → τ) (i : β) :
    ((∀ s, (s, i) ∉ stores) ∧ scatter src stores dst i = dst i) ∨
      ∃ s, (s, i) ∈ stores ∧ scatter src stores dst i = src s := by
  induction stores generalizing dst with
  | nil => exact .inl ⟨fun s => List.not_mem_nil, rfl⟩
  | cons store stores ih =>
    rw [scatter_cons]
    rcases ih (Function.update dst store.2 (src store.1)) with ⟨hnone, hkept⟩ | ⟨s, hs, hbrought⟩
    · -- no later store goes there, so what is left comes from this one or from before
      by_cases hi : store.2 = i
      · subst hi
        refine .inr ⟨store.1, List.mem_cons_self, ?_⟩
        rw [hkept, Function.update_self]
      · refine .inl ⟨fun s hs => ?_, ?_⟩
        · rcases List.mem_cons.mp hs with rfl | hs
          · exact hi rfl
          · exact hnone s hs
        · rw [hkept, Function.update_of_ne (Ne.symm hi)]
    · exact .inr ⟨s, List.mem_cons_of_mem store hs, hbrought⟩

/-- Stores that are those of an assignment leave what it leaves. -/
theorem scatter_eq_assign {source : β → Option α} {stores : List (α × β)}
    (h : ∀ s i, (s, i) ∈ stores ↔ source i = some s) (src : α → τ) (dst : β → τ) :
    scatter src stores dst = assign source src dst := by
  funext i
  unfold assign
  rcases scatter_cases src stores dst i with ⟨hnone, hkept⟩ | ⟨s, hs, hbrought⟩
  · have hsource : source i = none :=
      Option.eq_none_iff_forall_ne_some.mpr fun s hs => hnone s ((h s i).mpr hs)
    rw [hkept, hsource]
    rfl
  · rw [hbrought, (h s i).mp hs]
    rfl

/-- The last store of a list is not written over. -/
theorem scatter_concat (src : α → τ) (stores : List (α × β)) (s : α) (i : β) (dst : β → τ) :
    scatter src (stores ++ [(s, i)]) dst i = src s := by
  rw [scatter_append]
  exact Function.update_self ..

/-- **The last store of a place** says what is left there. -/
theorem scatter_eq_last (src : α → τ) (stores : List (α × β)) (dst : β → τ) (i : β) :
    scatter src stores dst i =
      ((stores.findRev? fun store => store.2 = i).map fun store => src store.1).getD (dst i) := by
  induction stores generalizing dst with
  | nil => rfl
  | cons store stores ih =>
    rw [scatter_cons, ih, List.findRev?]
    cases stores.findRev? fun store => store.2 = i with
    | some later => rfl
    | none =>
      by_cases hi : store.2 = i
      · simp [hi]
      · simp [hi, Function.update_of_ne (Ne.symm hi)]

section

variable [DecidableEq α]

/-- A source that holds one value at one place, and another elsewhere. -/
def mark (one zero : τ) (s a : α) : τ := if a = s then one else zero

theorem mark_eq_iff {one zero : τ} (h : zero ≠ one) (s a : α) : mark one zero s a = one ↔ a = s := by
  by_cases ha : a = s
  · simp [mark, ha]
  · simp [mark, ha, h]

variable [Nontrivial τ]

/-- Stores that leave what an assignment does have its stores among them. -/
theorem mem_of_scatter_eq {source : β → Option α} {stores : List (α × β)}
    (h : ∀ (src : α → τ) (dst : β → τ), scatter src stores dst = assign source src dst) {s : α}
    {i : β} (hs : source i = some s) : (s, i) ∈ stores := by
  obtain ⟨zero, one, hne⟩ := exists_pair_ne τ
  have hleft := congrFun (h (mark one zero s) fun _ => zero) i
  rw [assign, hs, Option.map_some, Option.getD_some, (mark_eq_iff hne s s).mpr rfl] at hleft
  rcases scatter_cases (mark one zero s) stores (fun _ => zero) i with ⟨-, hkept⟩ | ⟨a, ha, hbrought⟩
  · exact absurd (hkept.symm.trans hleft) hne
  · rwa [(mark_eq_iff hne s a).mp (hbrought.symm.trans hleft)] at ha

/-- A store that is made last has to be one of the assignment. -/
theorem source_of_scatter_concat {source : β → Option α} {stores : List (α × β)} {s : α} {i : β}
    (h : ∀ (src : α → τ) (dst : β → τ),
      scatter src (stores ++ [(s, i)]) dst = assign source src dst) : source i = some s := by
  obtain ⟨zero, one, hne⟩ := exists_pair_ne τ
  have hlast := congrFun (h (mark one zero s) fun _ => zero) i
  rw [scatter_concat, (mark_eq_iff hne s s).mpr rfl, assign] at hlast
  cases hsource : source i with
  | none =>
    rw [hsource] at hlast
    exact absurd hlast.symm hne
  | some a =>
    rw [hsource] at hlast
    rw [(mark_eq_iff hne s a).mp hlast.symm]

/-- **Exactly the stores of an assignment** leave what it leaves, for all that the two arrays hold
and in every order. -/
theorem scatter_iff (source : β → Option α) (stores : List (α × β)) :
    (∀ (src : α → τ) (dst : β → τ) (order : List (α × β)), order.Perm stores →
        scatter src order dst = assign source src dst) ↔
      ∀ s i, (s, i) ∈ stores ↔ source i = some s := by
  constructor
  · intro h s i
    refine ⟨fun hmem => ?_, mem_of_scatter_eq fun src dst => h src dst stores (.refl _)⟩
    obtain ⟨before, behind, rfl⟩ := List.append_of_mem hmem
    have hperm : (before ++ behind ++ [(s, i)]).Perm (before ++ (s, i) :: behind) := by
      rw [List.append_assoc]
      exact List.perm_append_singleton (s, i) behind |>.append_left before
    exact source_of_scatter_concat fun src dst => h src dst _ hperm
  · intro h src dst order horder
    exact scatter_eq_assign (fun s i => horder.mem_iff.trans (h s i)) src dst

end

end CLIntercept.Lib
