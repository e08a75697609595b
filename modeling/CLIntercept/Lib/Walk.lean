import Mathlib.Logic.Relation

/-!
# Walks along links

Each thing has at most one link to another: `f a = some b`. `Ends f a` says that the walk from `a`
comes to a thing without a link. Where some things get new links, to one and the same target, every
walk still ends exactly if the walk from the target meets none of them: `forall_ends_relink_iff`.
-/

set_option autoImplicit false

namespace CLIntercept.Lib

open Relation

variable {α : Type*}

/-- **The walk from a thing ends.** -/
inductive Ends (f : α → Option α) : α → Prop
  | stop {a : α} (h : f a = none) : Ends f a
  | step {a b : α} (h : f a = some b) (hb : Ends f b) : Ends f a

/-- A link. -/
def Link (f : α → Option α) (a b : α) : Prop := f a = some b

variable {f g : α → Option α} {a b : α}

theorem Ends.tail (h : Ends f a) (hab : f a = some b) : Ends f b := by
  cases h with
  | stop hnone => exact nomatch hnone.symm.trans hab
  | step hsome hb =>
    cases hsome.symm.trans hab
    exact hb

/-- Links that are taken away end no walk later. -/
theorem Ends.mono (hsub : ∀ x y, g x = some y → f x = some y) (h : Ends f a) : Ends g a := by
  induction h with
  | @stop x hnone =>
    refine .stop (Option.eq_none_iff_forall_ne_some.mpr fun y hy => ?_)
    exact nomatch hnone.symm.trans (hsub x y hy)
  | @step x y hsome _ ih =>
    cases hg : g x with
    | none => exact .stop hg
    | some z =>
      cases (hsub x z hg).symm.trans hsome
      exact .step hg ih

/-- Where a walk ends it does not come back. -/
theorem Ends.not_transGen (h : Ends f a) : ¬TransGen (Link f) a a := by
  induction h with
  | stop hnone =>
    intro hloop
    obtain ⟨b, hab, -⟩ := TransGen.head'_iff.mp hloop
    exact nomatch hnone.symm.trans hab
  | @step x y hsome _ ih =>
    intro hloop
    obtain ⟨z, hxz, hzx⟩ := TransGen.head'_iff.mp hloop
    cases (hsome.symm.trans hxz)
    -- from `y` the walk comes to `x` and from there to `y`
    exact ih (TransGen.tail' hzx hsome)

/-- Links that go down in some order come back nowhere. -/
theorem not_transGen_of_rank (rank : α → Nat) (h : ∀ a b, Link f a b → rank b < rank a) (a : α) :
    ¬TransGen (Link f) a a := by
  have hlt : ∀ b, TransGen (Link f) a b → rank b < rank a := by
    intro b hb
    induction hb with
    | single hab => exact h _ _ hab
    | tail _ hbc ih => exact Nat.lt_trans (h _ _ hbc) ih
  exact fun hloop => Nat.lt_irrefl _ (hlt a hloop)

/-- The links of `f`, and for the things of `new` the link to `target`. -/
def relink (f : α → Option α) (new : α → Prop) [DecidablePred new] (target : Option α) (a : α) :
    Option α :=
  if new a then target else f a

section

variable {new : α → Prop} [DecidablePred new]

/-- The walk from a thing that meets nothing new is the old one. -/
theorem Ends.relink_of_avoids {target : Option α} (h : Ends f a)
    (havoids : ∀ b, ReflTransGen (Link f) a b → ¬new b) : Ends (relink f new target) a := by
  induction h with
  | stop hnone => exact .stop ((if_neg (havoids _ .refl)).trans hnone)
  | step hsome _ ih =>
    refine .step ((if_neg (havoids _ .refl)).trans hsome) (ih fun b hb => ?_)
    exact havoids b (ReflTransGen.head hsome hb)

/-- A walk ends if the ones from the new target do. -/
theorem Ends.relink {target : Option α} (h : Ends f a)
    (htarget : ∀ t, target = some t → Ends (relink f new target) t) :
    Ends (Lib.relink f new target) a := by
  induction h with
  | @stop x hnone =>
    by_cases hx : new x
    · cases ht : target with
      | none => exact .stop (by rw [Lib.relink, if_pos hx])
      | some t => exact ht ▸ .step ((if_pos hx).trans ht) (htarget t ht)
    · exact .stop ((if_neg hx).trans hnone)
  | @step x y hsome _ ih =>
    by_cases hx : new x
    · cases ht : target with
      | none => exact .stop (by rw [Lib.relink, if_pos hx])
      | some t => exact ht ▸ .step ((if_pos hx).trans ht) (htarget t ht)
    · exact .step ((if_neg hx).trans hsome) ih

/-- A walk that meets something new on its way: the first such thing is met along old links only. -/
theorem exists_first_new (h : ReflTransGen (Link f) a b) (hb : new b) {target : Option α} :
    ∃ c, new c ∧ ReflTransGen (Link (relink f new target)) a c := by
  induction h using ReflTransGen.head_induction_on with
  | refl => exact ⟨b, hb, .refl⟩
  | @head x y hxy _ ih =>
    by_cases hx : new x
    · exact ⟨x, hx, .refl⟩
    · obtain ⟨c, hc, hyc⟩ := ih
      exact ⟨c, hc, ReflTransGen.head ((if_neg hx).trans hxy) hyc⟩

/-- **When every walk still ends** after some things were linked to a target: the walk from the
target meets none of them. -/
theorem forall_ends_relink_iff (h : ∀ a, Ends f a) {target : Option α} :
    (∀ a, Ends (relink f new target) a) ↔
      ∀ t, target = some t → ∀ b, ReflTransGen (Link f) t b → ¬new b := by
  constructor
  · rintro hends t rfl b hb hnew
    obtain ⟨c, hc, htc⟩ : ∃ c, new c ∧ ReflTransGen (Link (relink f new (some t))) t c :=
      exists_first_new hb hnew
    have hct : Link (relink f new (some t)) c t := if_pos hc
    exact (hends c).not_transGen (TransGen.head' hct htc)
  · intro havoids a
    exact (h a).relink fun t ht => (h t).relink_of_avoids (havoids t ht)

end

end CLIntercept.Lib
