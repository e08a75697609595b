import CLIntercept.Replay.Script

/-!
# What the script makes of a sampler

The script looks for words in the string that the layer writes of a sampler. No word reaches over
what is between two properties, or between a name and a value, so that a word is found exactly where
a property with this value was given (`found_iff`). So from the string of one sampler another is made
(`samplerFromString_eq_iff`), which is the same sampler if it has an addressing mode that was given,
no normalized coordinates and no linear filter for mipmaps alone (`samplerMadeAs_self`).
-/

set_option autoImplicit false

namespace CLIntercept.Replay

open CLIntercept.Lib CLIntercept.Track

variable {float : FloatText} {properties : List SamplerProperty}

/-- The words that are looked for, and the properties that are written with them. -/
def samplerWords : List (String × List SamplerProperty) :=
  [("CLAMP_TO_EDGE", [.addressingMode .addressClampToEdge]),
    ("CLAMP", [.addressingMode .addressClampToEdge, .addressingMode .addressClamp]),
    ("MIRRORED_REPEAT", [.addressingMode .addressMirroredRepeat]),
    ("REPEAT", [.addressingMode .addressRepeat, .addressingMode .addressMirroredRepeat]),
    ("LINEAR", [.filterMode .filterLinear, .mipFilterMode .filterLinear])]

/-- A text without capitals has none of the words. -/
theorem not_infix_of_plain {row : String × List SamplerProperty} (hrow : row ∈ samplerWords)
    {text : List Char} (h : ∀ c ∈ text, c.isUpper = false) : ¬ row.1.toList <:+: text := by
  have table : ∀ row ∈ samplerWords, row.1.toList.any Char.isUpper = true := by decide
  obtain ⟨c, hc, hupper⟩ := List.any_eq_true.mp (table row hrow)
  intro hfound
  rw [h c (hfound.subset hc)] at hupper
  cases hupper

theorem not_infix_name {row : String × List SamplerProperty} (hrow : row ∈ samplerWords)
    (p : SamplerProperty) : ¬ row.1.toList <:+: p.name.toList := by
  have table : ∀ row ∈ samplerWords, ∀ name ∈ ["CL_SAMPLER_NORMALIZED_COORDS",
      "CL_SAMPLER_ADDRESSING_MODE", "CL_SAMPLER_FILTER_MODE", "CL_SAMPLER_MIP_FILTER_MODE",
      "CL_SAMPLER_LOD_MIN", "CL_SAMPLER_LOD_MAX"], ¬ row.1.toList <:+: name.toList := by decide
  have hname := table row hrow p.name
  cases p <;> exact hname (by simp [SamplerProperty.name])

/-- The values of the words are theirs only. -/
theorem infix_valueText_iff {row : String × List SamplerProperty} (hrow : row ∈ samplerWords)
    (p : SamplerProperty) : row.1.toList <:+: (p.valueText float).toList ↔ p ∈ row.2 := by
  have hplain : ∀ row ∈ samplerWords, ∀ x, .lodMin x ∉ row.2 ∧ .lodMax x ∉ row.2 := by
    intro row hrow x
    simp only [samplerWords, List.mem_cons, List.not_mem_nil, or_false] at hrow
    rcases hrow with rfl | rfl | rfl | rfl | rfl <;> simp
  cases p with
  | normalizedCoords value =>
    have table : ∀ row ∈ samplerWords, ∀ value : Bool, row.1.toList <:+:
        (if value then "CL_TRUE" else "CL_FALSE").toList ↔ .normalizedCoords value ∈ row.2 := by
      decide
    exact table row hrow value
  | addressingMode value =>
    have table : ∀ row ∈ samplerWords, row.1.toList <:+: value.name.toList ↔
        .addressingMode value ∈ row.2 := by
      cases value <;> decide
    exact table row hrow
  | filterMode value =>
    have table : ∀ row ∈ samplerWords, row.1.toList <:+: value.name.toList ↔
        .filterMode value ∈ row.2 := by
      cases value <;> decide
    exact table row hrow
  | mipFilterMode value =>
    have table : ∀ row ∈ samplerWords, row.1.toList <:+: value.name.toList ↔
        .mipFilterMode value ∈ row.2 := by
      cases value <;> decide
    exact table row hrow
  | lodMin value =>
    exact iff_of_false (not_infix_of_plain hrow fun c hc => (float.plain value c hc).1)
      (hplain row hrow value).1
  | lodMax value =>
    exact iff_of_false (not_infix_of_plain hrow fun c hc => (float.plain value c hc).1)
      (hplain row hrow value).2

/-- No word without separators reaches over them. -/
theorem infix_string_iff {word : List Char} (hword : word ≠ [])
    (h : ',' ∉ word ∧ ' ' ∉ word ∧ '=' ∉ word) :
    word <:+: (getSamplerPropertiesString float (some properties)).toList ↔
      ∃ p ∈ properties, word <:+: p.name.toList ∨ word <:+: (p.valueText float).toList := by
  have hcomma : ∀ c ∈ [',', ' '], c ∉ word := by simp [h]
  have hequals : ∀ c ∈ [' ', '=', ' '], c ∉ word := by simp [h]
  rw [getSamplerPropertiesString, String.toList_intercalate,
    show ", ".toList = [',', ' '] from rfl, infix_intercalate_iff hword (by simp) hcomma]
  simp only [List.map_map, List.mem_map, Function.comp_apply, exists_exists_and_eq_and]
  refine exists_congr fun p => and_congr_right fun _ => ?_
  rw [String.toList_append, String.toList_append, List.append_assoc,
    show " = ".toList = [' ', '=', ' '] from rfl,
    infix_append_append_iff hword (by simp) hequals]

/-- **A word is found where it was written.** -/
theorem found_iff {row : String × List SamplerProperty} (hrow : row ∈ samplerWords)
    (properties : SamplerProperties) :
    row.1.toList <:+: (getSamplerPropertiesString float properties).toList ↔
      ∃ p ∈ properties.getD [], p ∈ row.2 := by
  have hwords : ∀ row ∈ samplerWords, (row.1.toList ≠ [] ∧
      ',' ∉ row.1.toList ∧ ' ' ∉ row.1.toList ∧ '=' ∉ row.1.toList) ∧
      ¬ row.1.toList <:+: "NULL".toList := by
    decide
  obtain ⟨⟨hword, hseparators⟩, hnull⟩ := hwords row hrow
  cases properties with
  | none => exact iff_of_false hnull (by simp)
  | some properties =>
    rw [infix_string_iff hword hseparators]
    refine exists_congr fun p => and_congr_right fun _ => ?_
    rw [or_iff_right (not_infix_name hrow p), infix_valueText_iff hrow]

/-- Each of the words. -/
theorem words_found (float : FloatText) (properties : SamplerProperties) :
    let str := (getSamplerPropertiesString float properties).toList
    ("CLAMP_TO_EDGE".toList <:+: str ↔
        .addressingMode .addressClampToEdge ∈ properties.getD []) ∧
      ("CLAMP".toList <:+: str ↔ .addressingMode .addressClampToEdge ∈ properties.getD [] ∨
        .addressingMode .addressClamp ∈ properties.getD []) ∧
      ("MIRRORED_REPEAT".toList <:+: str ↔
        .addressingMode .addressMirroredRepeat ∈ properties.getD []) ∧
      ("REPEAT".toList <:+: str ↔ .addressingMode .addressRepeat ∈ properties.getD [] ∨
        .addressingMode .addressMirroredRepeat ∈ properties.getD []) ∧
      ("LINEAR".toList <:+: str ↔ .filterMode .filterLinear ∈ properties.getD [] ∨
        .mipFilterMode .filterLinear ∈ properties.getD []) := by
  have hfound : ∀ row ∈ samplerWords,
      row.1.toList <:+: (getSamplerPropertiesString float properties).toList ↔
        ∃ p ∈ properties.getD [], p ∈ row.2 := fun row hrow => found_iff hrow properties
  simpa only [samplerWords, List.mem_cons, List.not_mem_nil, or_false, forall_eq_or_imp,
    forall_eq, and_or_left, exists_or, exists_eq_right] using hfound

/-- The string is one line. -/
theorem takeWhile_string (properties : SamplerProperties) :
    (getSamplerPropertiesString float properties).toList.takeWhile (· ≠ '\n') =
      (getSamplerPropertiesString float properties).toList := by
  have hline : '\n' ∉ (getSamplerPropertiesString float properties).toList := by
    cases properties with
    | none => simp [getSamplerPropertiesString]
    | some properties =>
      rw [← List.singleton_infix_iff, infix_string_iff (by simp) (by simp)]
      simp only [List.singleton_infix_iff]
      rintro ⟨p, -, hp⟩
      cases p with
      | normalizedCoords value =>
        cases value <;> simp [SamplerProperty.name, SamplerProperty.valueText] at hp
      | addressingMode value =>
        cases value <;>
          simp [SamplerProperty.name, SamplerProperty.valueText, AddressingMode.name] at hp
      | filterMode value | mipFilterMode value =>
        cases value <;>
          simp [SamplerProperty.name, SamplerProperty.valueText, FilterMode.name] at hp
      | lodMin value | lodMax value =>
        have hplain : '\n' ∉ (float.text value).toList :=
          fun hmem => (float.plain value '\n' hmem).2 rfl
        simp [SamplerProperty.name, SamplerProperty.valueText, hplain] at hp
  rw [List.takeWhile_eq_self_iff]
  intro c hc
  have hne : c ≠ '\n' := fun heq => hline (heq ▸ hc)
  simpa using hne

/-- The sampler that is made from the string of one is another: it has no normalized coordinates, no
addressing mode where none was written, and the filter for mipmaps counts. -/
@[mk_iff]
structure SamplerMadeAs (recorded properties : SamplerProperties) : Prop where
  notNormalized : (samplerValues properties).normalized = false
  addressing : (samplerValues properties).addressing =
    ((recorded.getD []).findSome? (·.addressing?)).getD .addressNone
  filter : (samplerValues properties).filter = .filterLinear ↔
    .filterMode .filterLinear ∈ recorded.getD [] ∨ .mipFilterMode .filterLinear ∈ recorded.getD []

/-- The samplers that are made again from their own strings. -/
@[mk_iff]
structure SamplerKept (properties : SamplerProperties) : Prop where
  notNormalized : .normalizedCoords false ∈ properties.getD []
  addressing : ∃ mode, .addressingMode mode ∈ properties.getD []
  filter : .mipFilterMode .filterLinear ∈ properties.getD [] →
    .filterMode .filterLinear ∈ properties.getD []

/-! ## The values of properties -/

section

variable {properties : SamplerProperties}
variable (hnodup : ((properties.getD []).map (·.name)).Nodup)
include hnodup

/-- The value of a property that is given once. -/
theorem findSome?_eq_some_iff {α : Type} (value : SamplerProperty → Option α)
    (make : α → SamplerProperty) (hvalue : ∀ p x, value p = some x ↔ p = make x)
    (hname : ∀ x y, (make x).name = (make y).name) (hmake : Function.Injective make) (x : α) :
    (properties.getD []).findSome? value = some x ↔ make x ∈ properties.getD [] := by
  have hmem : ∀ y, (properties.getD []).findSome? value = some y → make y ∈ properties.getD [] := by
    intro y hy
    obtain ⟨p, hp, hpy⟩ := List.exists_of_findSome?_eq_some hy
    exact (hvalue p y).mp hpy ▸ hp
  refine ⟨hmem x, fun hx => ?_⟩
  cases hfound : (properties.getD []).findSome? value with
  | none =>
    have hnone := List.findSome?_eq_none_iff.mp hfound (make x) hx
    rw [(hvalue (make x) x).mpr rfl] at hnone
    cases hnone
  | some y =>
    have hsame := List.inj_on_of_nodup_map hnodup hx (hmem y hfound) (hname x y)
    rw [hmake hsame]

theorem normalized_eq_false_iff : (samplerValues properties).normalized = false ↔
    .normalizedCoords false ∈ properties.getD [] := by
  have hvalue := findSome?_eq_some_iff hnodup (·.normalized?) .normalizedCoords
    (fun p x => by cases p <;> simp [SamplerProperty.normalized?]) (fun _ _ => rfl)
    (fun _ _ h => SamplerProperty.normalizedCoords.inj h) false
  rw [← hvalue, samplerValues]
  cases (properties.getD []).findSome? (·.normalized?) <;> simp

theorem addressing_eq_some_iff (mode : AddressingMode) :
    (properties.getD []).findSome? (·.addressing?) = some mode ↔
      .addressingMode mode ∈ properties.getD [] :=
  findSome?_eq_some_iff hnodup (·.addressing?) .addressingMode
    (fun p x => by cases p <;> simp [SamplerProperty.addressing?]) (fun _ _ => rfl)
    (fun _ _ h => SamplerProperty.addressingMode.inj h) mode

/-- The addressing mode that is found is the one that was given. -/
theorem addressing_samplerFromString :
    (samplerFromString (getSamplerPropertiesString float properties).toList).addressing =
      ((properties.getD []).findSome? (·.addressing?)).getD .addressNone := by
  obtain ⟨hclampToEdge, hclamp, hmirrored, hrepeat, -⟩ := words_found float properties
  simp only [samplerFromString, hclampToEdge, hclamp, hmirrored, hrepeat,
    ← addressing_eq_some_iff hnodup]
  cases hmode : (properties.getD []).findSome? (·.addressing?) with
  | none => simp
  | some mode => cases mode <;> simp

variable (float) in
/-- **The samplers that the script makes from a string.** -/
theorem samplerFromString_eq_iff (given : SamplerProperties) :
    samplerFromString ((getSamplerPropertiesString float properties).toList.takeWhile (· ≠ '\n')) =
      samplerValues given ↔ SamplerMadeAs properties given := by
  obtain ⟨-, -, -, -, hlinear⟩ := words_found float properties
  have hfilter : (samplerFromString (getSamplerPropertiesString float properties).toList).filter =
      (samplerValues given).filter ↔ ((samplerValues given).filter = .filterLinear ↔
        .filterMode .filterLinear ∈ properties.getD [] ∨
          .mipFilterMode .filterLinear ∈ properties.getD []) := by
    simp only [samplerFromString, ← hlinear]
    cases (samplerValues given).filter <;> simp
  have hnormalized :
      (samplerFromString (getSamplerPropertiesString float properties).toList).normalized =
        (samplerValues given).normalized ↔ (samplerValues given).normalized = false := eq_comm
  rw [takeWhile_string, SamplerValues.ext_iff, hnormalized, addressing_samplerFromString hnodup,
    hfilter, samplerMadeAs_iff, eq_comm (b := (samplerValues given).addressing)]

/-- **The samplers that are made again from their own strings are those that are kept.** -/
theorem samplerMadeAs_self : SamplerMadeAs properties properties ↔ SamplerKept properties := by
  have hfilter := findSome?_eq_some_iff hnodup (·.filter?) .filterMode
    (fun p x => by cases p <;> simp [SamplerProperty.filter?]) (fun _ _ => rfl)
    (fun _ _ h => SamplerProperty.filterMode.inj h)
  rw [samplerMadeAs_iff, samplerKept_iff, normalized_eq_false_iff hnodup]
  simp only [← addressing_eq_some_iff hnodup, ← hfilter, samplerValues]
  refine and_congr_right fun _ => and_congr ?_ ?_
  · cases (properties.getD []).findSome? (·.addressing?) <;> simp
  · cases (properties.getD []).findSome? (·.filter?) with
    | none => simp
    | some mode => cases mode <;> simp

end

end CLIntercept.Replay
