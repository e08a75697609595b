import Mathlib.Data.Nat.Digits.Defs

/-!
# Numbers in file names

What `printf` makes of a number, `%04u` and `%08X` and the like: its digits, filled up with zeros to
a width that they may exceed. The text gives the number back whatever the width (`number_inj`), and
holds digits only, so that names which are joined by underscores are told apart by their fields
(`intercalate_inj`).
-/

set_option autoImplicit false

namespace CLIntercept.Lib

/-! ## Digits -/

/-- The digits up to `F`. -/
def digitChar (d : Nat) : Char :=
  if d < 10 then Char.ofNat (48 + d) else Char.ofNat (55 + d)

def digitValue (c : Char) : Nat :=
  if c.toNat < 58 then c.toNat - 48 else c.toNat - 55

theorem digitValue_digitChar {d : Nat} (h : d < 16) : digitValue (digitChar d) = d := by
  have table : ∀ i : Fin 16, digitValue (digitChar i) = i := by decide
  exact table ⟨d, h⟩

/-! ## Numbers -/

/-- A number in base `b`, at least `w` wide. The width 1 is that of `%u` and of `std::to_string`. -/
def number (b w n : Nat) : String :=
  String.ofList (((Nat.digits b n).map digitChar).reverse.leftpad w '0')

/-- The number that a text spells. -/
def numberValue (b : Nat) (cs : List Char) : Nat :=
  Nat.ofDigits b (cs.reverse.map digitValue)

variable {b : Nat}

theorem toList_number (w n : Nat) :
    (number b w n).toList = List.replicate (w - (Nat.digits b n).length) '0' ++
      ((Nat.digits b n).map digitChar).reverse := by
  simp [number, List.leftpad]

/-- Read back, whatever it was filled up to. -/
theorem numberValue_number (hb : 1 < b) (hb' : b ≤ 16) (w n : Nat) :
    numberValue b (number b w n).toList = n := by
  have hdigits : (Nat.digits b n).map (digitValue ∘ digitChar) = Nat.digits b n := by
    calc (Nat.digits b n).map (digitValue ∘ digitChar)
        = (Nat.digits b n).map id := List.map_congr_left fun d hd =>
          digitValue_digitChar (Nat.lt_of_lt_of_le (Nat.digits_lt_base hb hd) hb')
      _ = Nat.digits b n := List.map_id _
  have hzero : digitValue '0' = 0 := by decide
  rw [toList_number, numberValue, List.reverse_append, List.reverse_reverse, List.reverse_replicate,
    List.map_append, List.map_map, hdigits, List.map_replicate, hzero,
    Nat.ofDigits_append_replicate_zero, Nat.ofDigits_digits]

theorem number_inj (hb : 1 < b) (hb' : b ≤ 16) {w w' m n : Nat}
    (h : number b w m = number b w' n) : m = n := by
  rw [← numberValue_number hb hb' w m, h, numberValue_number hb hb']

/-- A text that goes on has no smaller value. -/
theorem numberValue_le_of_prefix (hb : 0 < b) {xs ys : List Char} (h : xs <+: ys) :
    numberValue b xs ≤ numberValue b ys := by
  obtain ⟨rest, rfl⟩ := h
  rw [numberValue, numberValue, List.reverse_append, List.map_append, Nat.ofDigits_append]
  exact (Nat.le_mul_of_pos_left _ (Nat.pow_pos hb)).trans (Nat.le_add_left _ _)

/-- The text is as wide as it has to be. -/
theorem le_length_number (w n : Nat) : w ≤ (number b w n).toList.length := by
  rw [toList_number, List.length_append, List.length_replicate, List.length_reverse,
    List.length_map]
  omega

/-- Filling up what was filled up. -/
theorem leftpad_number {w w' : Nat} (h : w' ≤ w) (n : Nat) :
    String.ofList ((number b w' n).toList.leftpad w '0') = number b w n := by
  apply String.toList_inj.mp
  rw [String.toList_ofList, List.leftpad, toList_number, toList_number, ← List.append_assoc,
    List.replicate_append_replicate, List.length_append, List.length_replicate,
    List.length_reverse, List.length_map]
  congr 2
  omega

/-- What is no digit is not in the text. -/
theorem notMem_number (hb : 1 < b) (hb' : b ≤ 16) (w n : Nat) {c : Char}
    (hc : ∀ d : Fin 16, digitChar d ≠ c) : c ∉ (number b w n).toList := by
  rw [toList_number, List.mem_append, List.mem_reverse, List.mem_map]
  intro h
  rcases h with h | ⟨d, hd, h⟩
  · exact hc 0 (List.eq_of_mem_replicate h).symm
  · exact hc ⟨d, Nat.lt_of_lt_of_le (Nat.digits_lt_base hb hd) hb'⟩ h

theorem underscore_notMem_number (hb : 1 < b) (hb' : b ≤ 16) (w n : Nat) :
    '_' ∉ (number b w n).toList :=
  notMem_number hb hb' w n (by decide)

/-! ## Fields -/

/-- Texts that are joined by a character are taken apart again. -/
theorem splitOn_joined {sep : String} {c : Char} (hsep : sep.toList = [c]) {xs : List String}
    (hx : ∀ x ∈ xs, c ∉ x.toList) (hx' : xs ≠ []) :
    (sep.intercalate xs).toList.splitOn c = xs.map String.toList := by
  rw [String.toList_intercalate, hsep]
  refine List.splitOn_intercalate c (fun l hl => ?_) (by simpa using hx')
  obtain ⟨x, hmem, rfl⟩ := List.mem_map.mp hl
  exact hx x hmem

theorem map_toList_inj {xs ys : List String} (h : xs.map String.toList = ys.map String.toList) :
    xs = ys :=
  (List.map_inj_right fun _ _ hst => String.toList_inj.mp hst).mp h

/-- Texts that are joined by a character are told apart by their fields. -/
theorem joined_inj {sep : String} {c : Char} (hsep : sep.toList = [c]) {xs ys : List String}
    (hx : ∀ x ∈ xs, c ∉ x.toList) (hy : ∀ y ∈ ys, c ∉ y.toList) (hx' : xs ≠ []) (hy' : ys ≠ [])
    (h : sep.intercalate xs = sep.intercalate ys) : xs = ys := by
  apply map_toList_inj
  rw [← splitOn_joined hsep hx hx', h, splitOn_joined hsep hy hy']

theorem intercalate_inj {xs ys : List String} (hx : ∀ x ∈ xs, '_' ∉ x.toList)
    (hy : ∀ y ∈ ys, '_' ∉ y.toList) (hx' : xs ≠ []) (hy' : ys ≠ [])
    (h : "_".intercalate xs = "_".intercalate ys) : xs = ys :=
  joined_inj rfl hx hy hx' hy' h

/-- One field may be any text, if it is known how many stand before and behind it. -/
theorem intercalate_middle_inj {before before' behind behind' : List String} {x x' : String}
    (h : "_".intercalate (before ++ [x] ++ behind) = "_".intercalate (before' ++ [x'] ++ behind'))
    (hbefore : ∀ s ∈ before, '_' ∉ s.toList) (hbefore' : ∀ s ∈ before', '_' ∉ s.toList)
    (hbehind : ∀ s ∈ behind, '_' ∉ s.toList) (hbehind' : ∀ s ∈ behind', '_' ∉ s.toList)
    (hne : before ≠ []) (hne' : behind ≠ []) (hlength : before.length = before'.length)
    (hlength' : behind.length = behind'.length) :
    before = before' ∧ x = x' ∧ behind = behind' := by
  have hsplit : ∀ {xs ys : List String} (y : String), (∀ s ∈ xs, '_' ∉ s.toList) →
      (∀ s ∈ ys, '_' ∉ s.toList) → xs ≠ [] → ys ≠ [] →
      ("_".intercalate (xs ++ [y] ++ ys)).toList.splitOn '_' =
        xs.map String.toList ++ (y.toList.splitOn '_' ++ ys.map String.toList) := by
    intro xs ys y hxs hys hxs' hys'
    have htext : ("_".intercalate (xs ++ [y] ++ ys)).toList =
        ("_".intercalate xs).toList ++ '_' :: (y.toList ++ '_' :: ("_".intercalate ys).toList) := by
      rw [String.intercalate_append_of_ne_nil (by simp) hys',
        String.intercalate_append_of_ne_nil hxs' (by simp), String.intercalate_singleton]
      simp
    rw [htext, List.splitOn_append_cons_self, List.splitOn_append_cons_self,
      splitOn_joined rfl hxs hxs', splitOn_joined rfl hys hys']
  have hlists := congrArg (fun text => text.toList.splitOn '_') h
  have hne₁ : before' ≠ [] := fun h => hne (List.length_eq_zero_iff.mp (hlength.trans (by simp [h])))
  have hne₂ : behind' ≠ [] := fun h =>
    hne' (List.length_eq_zero_iff.mp (hlength'.trans (by simp [h])))
  simp only [hsplit x hbefore hbehind hne hne', hsplit x' hbefore' hbehind' hne₁ hne₂] at hlists
  obtain ⟨h₁, h₂⟩ := List.append_inj hlists (by simpa using hlength)
  obtain ⟨h₃, h₄⟩ := List.append_inj' h₂ (by simpa using hlength')
  refine ⟨map_toList_inj h₁, ?_, map_toList_inj h₄⟩
  have hjoin := congrArg (fun parts => ['_'].intercalate parts) h₃
  simp only [List.intercalate_splitOn] at hjoin
  exact String.toList_inj.mp hjoin

end CLIntercept.Lib
