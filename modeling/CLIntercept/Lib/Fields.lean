import CLIntercept.Lib.Tokens
import Mathlib.Data.List.Nodup

/-!
# Texts that are told apart

A text that is put together of parts says what the parts are if each of them ends where a character
stands that is not one of its own. So it is for parts between separators, for fields that may be left
out and are told by how their labels begin, and for a part in front of a bracket.
-/

set_option autoImplicit false

namespace CLIntercept.Lib

variable {α : Type*}

/-! ## Parts -/

section

variable {p : α → Bool} {part part' behind behind' : List α}

/-- A part that ends with the first character that is not its own. -/
theorem append_inj_of_head (hpart : ∀ c ∈ part, p c = true) (hpart' : ∀ c ∈ part', p c = true)
    (hhead : ∀ c, behind.head? = some c → p c = false)
    (hhead' : ∀ c, behind'.head? = some c → p c = false)
    (h : part ++ behind = part' ++ behind') : part = part' ∧ behind = behind' := by
  have hscan : part = part' := by
    calc part = (part ++ behind).takeWhile p := by
          rw [takeWhile_append_of_head hhead, List.takeWhile_eq_self_iff.mpr hpart]
      _ = (part' ++ behind').takeWhile p := by rw [h]
      _ = part' := by
          rw [takeWhile_append_of_head hhead', List.takeWhile_eq_self_iff.mpr hpart']
  exact ⟨hscan, List.append_cancel_left (hscan ▸ h)⟩

/-- A part in front of a character that is not in it. -/
theorem append_cons_inj [DecidableEq α] {stop : α} (hpart : stop ∉ part) (hpart' : stop ∉ part')
    (h : part ++ stop :: behind = part' ++ stop :: behind') : part = part' ∧ behind = behind' := by
  have hstop : ∀ rest : List α, ∀ c, (stop :: rest).head? = some c →
      decide (c ≠ stop) = false := fun rest c hc =>
    decide_eq_false fun hne => hne (Option.some.inj hc).symm
  obtain ⟨hparts, hrest⟩ := append_inj_of_head (p := fun c => decide (c ≠ stop))
    (fun c hc => decide_eq_true fun he => hpart (he ▸ hc))
    (fun c hc => decide_eq_true fun he => hpart' (he ▸ hc)) (hstop _) (hstop _) h
  exact ⟨hparts, (List.cons.inj hrest).2⟩

/-- A part behind a character that is not in what follows. -/
theorem append_cons_inj_right [DecidableEq α] {stop : α} (hbehind : stop ∉ behind)
    (hbehind' : stop ∉ behind') (h : part ++ stop :: behind = part' ++ stop :: behind') :
    part = part' ∧ behind = behind' := by
  have hreverse : behind.reverse ++ stop :: part.reverse =
      behind'.reverse ++ stop :: part'.reverse := by
    simpa only [List.reverse_append, List.reverse_cons, List.append_assoc, List.singleton_append]
      using congrArg List.reverse h
  obtain ⟨hb, hp⟩ := append_cons_inj (fun hc => hbehind (List.mem_reverse.mp hc))
    (fun hc => hbehind' (List.mem_reverse.mp hc)) hreverse
  exact ⟨List.reverse_injective hp, List.reverse_injective hb⟩

end

/-! ## Parts between separators -/

section

variable {p : α → Bool} {sep : List α}

theorem intercalate_eq_append_flatMap (x : List α) (xs : List (List α)) :
    sep.intercalate (x :: xs) = x ++ xs.flatMap (sep ++ ·) := by
  induction xs generalizing x with
  | nil => rw [List.intercalate_singleton, List.flatMap_nil, List.append_nil]
  | cons y ys ih =>
    rw [List.intercalate_cons_cons, ih, List.flatMap_cons, List.append_assoc, List.append_assoc]

theorem mem_or_of_mem_intercalate {xs : List (List α)} {c : α} (h : c ∈ sep.intercalate xs) :
    c ∈ sep ∨ ∃ x ∈ xs, c ∈ x := by
  cases xs with
  | nil => exact absurd h List.not_mem_nil
  | cons x xs =>
    rw [intercalate_eq_append_flatMap, List.mem_append, List.mem_flatMap] at h
    rcases h with h | ⟨y, hy, h⟩
    · exact Or.inr ⟨x, List.mem_cons_self, h⟩
    · exact (List.mem_append.mp h).imp_right fun h => ⟨y, List.mem_cons_of_mem x hy, h⟩

variable (hsep : ∀ c, sep.head? = some c → p c = false) (hne : sep ≠ [])
include hsep hne

theorem head?_flatMap (xs : List (List α)) :
    ∀ c, (xs.flatMap (sep ++ ·)).head? = some c → p c = false := by
  intro c hc
  cases xs with
  | nil => exact absurd hc (by simp)
  | cons x xs =>
    apply hsep c
    rwa [List.flatMap_cons, List.append_assoc, List.head?_append_of_ne_nil _ hne] at hc

theorem flatMap_inj {xs ys : List (List α)} (hx : ∀ x ∈ xs, ∀ c ∈ x, p c = true)
    (hy : ∀ y ∈ ys, ∀ c ∈ y, p c = true)
    (h : xs.flatMap (sep ++ ·) = ys.flatMap (sep ++ ·)) : xs = ys := by
  have hnil : ∀ (x : List α) (xs : List (List α)), (x :: xs).flatMap (sep ++ ·) ≠ [] := by
    intro x xs h
    rw [List.flatMap_cons, List.append_assoc] at h
    exact hne (List.append_eq_nil_iff.mp h).1
  induction xs generalizing ys with
  | nil =>
    cases ys with
    | nil => rfl
    | cons y ys => exact absurd h.symm (hnil y ys)
  | cons x xs ih =>
    cases ys with
    | nil => exact absurd h (hnil x xs)
    | cons y ys =>
      rw [List.flatMap_cons, List.flatMap_cons, List.append_assoc, List.append_assoc] at h
      obtain ⟨hxy, hrest⟩ := append_inj_of_head (hx x List.mem_cons_self) (hy y List.mem_cons_self)
        (head?_flatMap hsep hne xs) (head?_flatMap hsep hne ys) (List.append_cancel_left h)
      rw [hxy, ih (fun z hz => hx z (List.mem_cons_of_mem _ hz))
        (fun z hz => hy z (List.mem_cons_of_mem _ hz)) hrest]

/-- Texts that are not empty, between separators that begin with a character that is in none. -/
theorem separated_inj {xs ys : List (List α)} (hx : ∀ x ∈ xs, x ≠ [] ∧ ∀ c ∈ x, p c = true)
    (hy : ∀ y ∈ ys, y ≠ [] ∧ ∀ c ∈ y, p c = true) (h : sep.intercalate xs = sep.intercalate ys) :
    xs = ys := by
  have hnil : ∀ (x : List α) (xs : List (List α)), x ≠ [] → sep.intercalate (x :: xs) ≠ [] := by
    intro x xs hne h
    rw [intercalate_eq_append_flatMap] at h
    exact hne (List.append_eq_nil_iff.mp h).1
  cases xs with
  | nil =>
    cases ys with
    | nil => rfl
    | cons y ys => exact absurd h.symm (hnil y ys (hy y List.mem_cons_self).1)
  | cons x xs =>
    cases ys with
    | nil => exact absurd h (hnil x xs (hx x List.mem_cons_self).1)
    | cons y ys =>
      rw [intercalate_eq_append_flatMap, intercalate_eq_append_flatMap] at h
      obtain ⟨hxy, hrest⟩ := append_inj_of_head (hx x List.mem_cons_self).2
        (hy y List.mem_cons_self).2 (head?_flatMap hsep hne xs) (head?_flatMap hsep hne ys) h
      rw [hxy, flatMap_inj hsep hne (fun z hz => (hx z (List.mem_cons_of_mem _ hz)).2)
        (fun z hz => (hy z (List.mem_cons_of_mem _ hz)).2) hrest]

end

/-! ## Fields that may be left out -/

/-- Fields behind each other, each with a label in front of its value. -/
def labelled (blank : α) (fields : List (List α × Option (List α))) : List α :=
  fields.flatMap fun field => (field.2.map fun value => blank :: (field.1 ++ value)).getD []

section

variable {p : α → Bool} {blank : α} {width : Nat}

/-- What does not begin like a field of one of these labels. -/
def EndsLabels (blank : α) (width : Nat) (labels : List (List α)) (text : List α) : Prop :=
  text = [] ∨ ∃ rest, text = blank :: rest ∧ rest.take width ∉ labels.map (List.take width)

theorem EndsLabels.mono {labels labels' : List (List α)} {text : List α}
    (h : EndsLabels blank width labels text) (hl : labels' ⊆ labels) :
    EndsLabels blank width labels' text :=
  h.imp_right fun ⟨rest, htext, hrest⟩ =>
    ⟨rest, htext, fun hmem => hrest (List.map_subset _ hl hmem)⟩

theorem EndsLabels.head (hblank : p blank = false) {labels : List (List α)} {text : List α}
    (h : EndsLabels blank width labels text) : ∀ c, text.head? = some c → p c = false := by
  intro c hc
  rcases h with rfl | ⟨rest, rfl, -⟩
  · exact absurd hc (by simp)
  · exact Option.some.inj hc ▸ hblank

/-- Fields end what none of their labels begins. -/
theorem endsLabels_labelled {label : List α} {fields : List (List α × Option (List α))}
    {behind : List α} (hwidth : ∀ l ∈ fields.map Prod.fst, width ≤ l.length)
    (hlabel : label.take width ∉ (fields.map Prod.fst).map (List.take width))
    (hbehind : EndsLabels blank width [label] behind) :
    EndsLabels blank width [label] (labelled blank fields ++ behind) := by
  induction fields with
  | nil => exact hbehind
  | cons field fields ih =>
    obtain ⟨l, value⟩ := field
    rw [List.map_cons, List.map_cons, List.mem_cons, not_or] at hlabel
    have hrest := ih (fun l hl => hwidth l (List.mem_cons_of_mem _ hl)) hlabel.2
    cases value with
    | none => exact hrest
    | some value =>
      refine Or.inr ⟨l ++ value ++ (labelled blank fields ++ behind), ?_, ?_⟩
      · simp [labelled]
      · have hl : width ≤ l.length := hwidth l List.mem_cons_self
        rw [List.append_assoc, List.take_append_of_le_length hl, List.map_singleton,
          List.mem_singleton]
        exact fun h => hlabel.1 h.symm

theorem head?_labelled_append (hblank : p blank = false) {behind : List α}
    (hbehind : ∀ c, behind.head? = some c → p c = false)
    (fields : List (List α × Option (List α))) :
    ∀ c, (labelled blank fields ++ behind).head? = some c → p c = false := by
  induction fields with
  | nil => exact hbehind
  | cons field fields ih =>
    obtain ⟨label, value⟩ := field
    cases value with
    | none => exact ih
    | some value => exact fun c hc => Option.some.inj hc ▸ hblank

/-- What begins like a field does not. -/
theorem not_endsLabels {label : List α} (hwidth : width ≤ label.length) (text : List α) :
    ¬EndsLabels blank width [label] (blank :: (label ++ text)) := by
  intro h
  rcases h with h | ⟨rest, h, hrest⟩
  · exact List.cons_ne_nil _ _ h
  · rw [← (List.cons.inj h).2, List.take_append_of_le_length hwidth, List.map_singleton,
      List.mem_singleton] at hrest
    exact hrest rfl

/-- **Fields are told apart**, also those that are left out, and from what is behind them. -/
theorem labelled_inj (hblank : p blank = false) {fields fields' : List (List α × Option (List α))}
    {behind behind' : List α} (hlabels : fields.map Prod.fst = fields'.map Prod.fst)
    (hwidth : ∀ l ∈ fields.map Prod.fst, width ≤ l.length)
    (hnodup : ((fields.map Prod.fst).map (List.take width)).Nodup)
    (hvalues : ∀ field ∈ fields, ∀ value ∈ field.2, ∀ c ∈ value, p c = true)
    (hvalues' : ∀ field ∈ fields', ∀ value ∈ field.2, ∀ c ∈ value, p c = true)
    (hbehind : EndsLabels blank width (fields.map Prod.fst) behind)
    (hbehind' : EndsLabels blank width (fields.map Prod.fst) behind')
    (h : labelled blank fields ++ behind = labelled blank fields' ++ behind') :
    fields = fields' ∧ behind = behind' := by
  induction fields generalizing fields' with
  | nil =>
    rw [List.map_nil] at hlabels
    rw [List.map_eq_nil_iff.mp hlabels.symm] at h ⊢
    exact ⟨rfl, h⟩
  | cons field fields ih =>
    cases fields' with
    | nil => exact absurd hlabels (by simp)
    | cons field' fields' =>
      obtain ⟨label, value⟩ := field
      obtain ⟨label', value'⟩ := field'
      obtain ⟨rfl, hrest⟩ := List.cons.inj hlabels
      rw [List.map_cons, List.map_cons, List.nodup_cons] at hnodup
      have hlabel : width ≤ label.length := hwidth label List.mem_cons_self
      have hwidths : ∀ l ∈ fields.map Prod.fst, width ≤ l.length :=
        fun l hl => hwidth l (List.mem_cons_of_mem _ hl)
      have hends : EndsLabels blank width [label] (labelled blank fields ++ behind) :=
        endsLabels_labelled hwidths hnodup.1 (hbehind.mono (by simp))
      have hends' : EndsLabels blank width [label] (labelled blank fields' ++ behind') :=
        endsLabels_labelled (hrest ▸ hwidths) (hrest ▸ hnodup.1) (hbehind'.mono (by simp))
      have hsome : ∀ (value : List α) (fields : List (List α × Option (List α))) (behind : List α),
          labelled blank ((label, some value) :: fields) ++ behind =
            blank :: (label ++ (value ++ (labelled blank fields ++ behind))) := by
        intro value fields behind
        simp [labelled]
      have hfields := ih hrest hwidths hnodup.2
        (fun field hfield => hvalues field (List.mem_cons_of_mem _ hfield))
        (fun field hfield => hvalues' field (List.mem_cons_of_mem _ hfield))
        (hbehind.mono (List.subset_cons_self _ _)) (hbehind'.mono (List.subset_cons_self _ _))
      cases value with
      | none =>
        cases value' with
        | none =>
          obtain ⟨hf, hb⟩ := hfields h
          exact ⟨congrArg _ hf, hb⟩
        | some value' =>
          rw [hsome] at h
          exact absurd (h ▸ hends) (not_endsLabels hlabel _)
      | some value =>
        cases value' with
        | none =>
          rw [hsome] at h
          exact absurd (h ▸ hends') (not_endsLabels hlabel _)
        | some value' =>
          rw [hsome, hsome] at h
          obtain ⟨hvalue, htail⟩ := append_inj_of_head
            (hvalues _ List.mem_cons_self value rfl) (hvalues' _ List.mem_cons_self value' rfl)
            (hends.head hblank) (hends'.head hblank)
            (List.append_cancel_left (List.cons.inj h).2)
          obtain ⟨hf, hb⟩ := hfields htail
          exact ⟨by rw [hvalue, hf], hb⟩

end

end CLIntercept.Lib
