import CLIntercept.Lib.Printf
import Mathlib.Data.List.DropRight
import Mathlib.Data.List.Infix
import Mathlib.Data.List.TakeWhile

/-!
# Reading names and texts back

What a script does with the names of files and with short texts: patterns with one star, the part
from the first occurrence of a word, the first number in it, lines, words and whole numbers. Each
comes with what it makes of a text that was printed, for the numbers of `Lib.Printf`. A loop over
them ends with the first failure, and the dictionary that it fills keeps what was put in last.
-/

set_option autoImplicit false

namespace CLIntercept.Lib

/-! ## Decimal digits -/

/-- The characters that a script takes for decimal digits: those of ASCII, and any others. -/
structure Decimals where
  value : Char → Option Nat
  ascii : ∀ c : Char, c.toNat < 128 → value c = if c.isDigit then some (c.toNat - 48) else none

namespace Decimals

/-- ASCII and nothing else. -/
def plain : Decimals where
  value c := if c.isDigit then some (c.toNat - 48) else none
  ascii _ _ := rfl

variable (dec : Decimals)

/-- The number that digits spell. -/
def read (digits : List Char) : Nat :=
  Nat.ofDigits 10 (digits.reverse.map fun c => (dec.value c).getD 0)

def isDigit (c : Char) : Bool := (dec.value c).isSome

/-- The first number in a text: its first digit and those that follow it. -/
def firstNumber (text : List Char) : Option Nat :=
  let digits := (text.dropWhile fun c => !dec.isDigit c).takeWhile dec.isDigit
  if digits = [] then none else some (dec.read digits)

/-- A text that is a whole number, with blanks around it. -/
def wholeNumber (text : List Char) : Option Nat :=
  let digits := (text.dropWhile (· ∈ [' ', '\n'])).rdropWhile (· ∈ [' ', '\n'])
  if digits ≠ [] && digits.all dec.isDigit then some (dec.read digits) else none

variable {dec}

/-- A digit that is printed reads back. -/
theorem value_digitChar {d : Nat} (h : d < 10) : dec.value (digitChar d) = some d := by
  have table : ∀ i : Fin 10, (digitChar i).toNat < 128 ∧ (digitChar i).isDigit = true ∧
      (digitChar i).toNat - 48 = i := by decide
  obtain ⟨hascii, hdigit, hvalue⟩ := table ⟨d, h⟩
  rw [dec.ascii _ hascii, if_pos hdigit, hvalue]

/-- A printed number is made of digits. -/
theorem mem_number {w n : Nat} {c : Char} (h : c ∈ (number 10 w n).toList) :
    ∃ d, d < 10 ∧ c = digitChar d := by
  rw [toList_number, List.mem_append, List.mem_reverse, List.mem_map] at h
  rcases h with h | ⟨d, hd, rfl⟩
  · exact ⟨0, by decide, List.eq_of_mem_replicate h⟩
  · exact ⟨d, Nat.digits_lt_base (by decide) hd, rfl⟩

/-- The reader takes each of them for a digit. -/
theorem isDigit_of_mem_number {w n : Nat} {c : Char} (h : c ∈ (number 10 w n).toList) :
    dec.isDigit c = true := by
  obtain ⟨d, hd, rfl⟩ := mem_number h
  rw [isDigit, value_digitChar hd]
  rfl

/-- **A printed number reads back**, with or without zeros in front. -/
theorem read_number (w n : Nat) : dec.read (number 10 w n).toList = n := by
  have hvalues : (number 10 w n).toList.reverse.map (fun c => (dec.value c).getD 0) =
      (number 10 w n).toList.reverse.map digitValue := by
    apply List.map_congr_left
    intro c hc
    obtain ⟨d, hd, rfl⟩ := mem_number (List.mem_reverse.mp hc)
    rw [value_digitChar hd, digitValue_digitChar (by omega)]
    rfl
  have hread := numberValue_number (b := 10) (by decide) (by decide) w n
  rw [numberValue] at hread
  rw [read, hvalues, hread]

/-- A width of at least one prints something. -/
theorem number_ne_nil {w n : Nat} (hw : 0 < w) : (number 10 w n).toList ≠ [] := by
  intro h
  have hlength := le_length_number (b := 10) w n
  rw [h] at hlength
  exact absurd hlength (Nat.not_le.mpr hw)

/-- What is before the first digit does not matter. -/
theorem firstNumber_append_left {before : List Char} (h : ∀ c ∈ before, dec.isDigit c = false)
    (text : List Char) : dec.firstNumber (before ++ text) = dec.firstNumber text := by
  unfold firstNumber
  rw [List.dropWhile_append_of_pos fun c hc => by rw [h c hc]; rfl]

/-- **The first number is read back**, where no digit is before it or right behind it. -/
theorem firstNumber_number {before behind : List Char} {w : Nat} (hw : 0 < w) (n : Nat)
    (hbefore : ∀ c ∈ before, dec.isDigit c = false)
    (hbehind : ∀ c ∈ behind.head?, dec.isDigit c = false) :
    dec.firstNumber (before ++ ((number 10 w n).toList ++ behind)) = some n := by
  rw [firstNumber_append_left hbefore]
  have hdigits : ∀ c ∈ (number 10 w n).toList, dec.isDigit c = true :=
    fun c => isDigit_of_mem_number
  have hdrop : ((number 10 w n).toList ++ behind).dropWhile (fun c => !dec.isDigit c) =
      (number 10 w n).toList ++ behind := by
    cases htext : (number 10 w n).toList with
    | nil => exact absurd htext (number_ne_nil hw)
    | cons c cs =>
      rw [List.cons_append, List.dropWhile_cons_of_neg]
      simp [hdigits c (by rw [htext]; exact List.mem_cons_self)]
  have htake : behind.takeWhile dec.isDigit = [] := by
    cases behind with
    | nil => rfl
    | cons c cs => exact List.takeWhile_cons_of_neg (by simp [hbehind c rfl])
  unfold firstNumber
  rw [hdrop, List.takeWhile_append_of_pos hdigits, htake, List.append_nil]
  simp only
  rw [if_neg (number_ne_nil hw), read_number]

/-- A number that ends before the text does is not changed by what follows. -/
theorem firstNumber_append_right {text : List Char} {c : Char} {n : Nat}
    (hc : dec.isDigit c = false) (h : dec.firstNumber (text ++ [c]) = some n)
    (behind : List Char) : dec.firstNumber (text ++ c :: behind) = some n := by
  rw [← h]
  unfold firstNumber at h ⊢
  have hfound : ∃ x ∈ text, dec.isDigit x = true := by
    by_contra hnone
    have hall : ∀ x ∈ text, (!dec.isDigit x) = true := fun x hx => by
      cases hx' : dec.isDigit x with
      | true => exact absurd ⟨x, hx, hx'⟩ hnone
      | false => rfl
    rw [List.dropWhile_append_of_pos hall, List.dropWhile_cons_of_pos (by simp [hc])] at h
    simp at h
  clear h
  obtain ⟨x, hx, hdigit⟩ := hfound
  have hsplit : ∀ rest : List Char, (text ++ rest).dropWhile (fun c => !dec.isDigit c) =
      text.dropWhile (fun c => !dec.isDigit c) ++ rest := by
    intro rest
    rw [List.dropWhile_append, if_neg]
    rw [List.isEmpty_iff, List.dropWhile_eq_nil_iff]
    intro hall
    have hx' := hall x hx
    rw [hdigit] at hx'
    exact Bool.false_ne_true hx'
  have htake : ∀ (front rest : List Char),
      (front ++ c :: rest).takeWhile dec.isDigit = front.takeWhile dec.isDigit := by
    intro front rest
    rw [List.takeWhile_append]
    split
    · next hlength =>
      rw [List.takeWhile_cons_of_neg (by simp [hc]), List.append_nil]
      exact ((List.takeWhile_prefix _).eq_of_length hlength).symm
    · rfl
  rw [hsplit, hsplit, htake, htake]

/-- Where no number is found, there is no digit. -/
theorem isDigit_of_firstNumber {text : List Char} (h : dec.firstNumber text = none) :
    ∀ c ∈ text, dec.isDigit c = false := by
  unfold firstNumber at h
  simp only [ite_eq_left_iff, reduceCtorEq, imp_false, Decidable.not_not] at h
  cases hdrop : text.dropWhile (fun c => !dec.isDigit c) with
  | nil =>
    intro c hc
    simpa using List.dropWhile_eq_nil_iff.mp hdrop c hc
  | cons c cs =>
    have hc := List.head?_dropWhile_not (fun c => !dec.isDigit c) text
    rw [hdrop] at hc h
    rw [List.takeWhile_cons_of_pos (by simpa using hc)] at h
    cases h

/-- **A whole number is read back**, at the end of a text or of its line. -/
theorem wholeNumber_number {behind : List Char} {w : Nat} (hw : 0 < w) (n : Nat)
    (hbehind : ∀ c ∈ behind, c = '\n') :
    dec.wholeNumber ((number 10 w n).toList ++ behind) = some n := by
  have hdigit : ∀ c ∈ (number 10 w n).toList, decide (c ∈ [' ', '\n']) = false := by
    intro c hc
    obtain ⟨d, hd, rfl⟩ := mem_number hc
    have table : ∀ i : Fin 10, decide (digitChar i ∈ [' ', '\n']) = false := by decide
    exact table ⟨d, hd⟩
  have hleft : ((number 10 w n).toList ++ behind).dropWhile (· ∈ [' ', '\n']) =
      (number 10 w n).toList ++ behind := by
    cases htext : (number 10 w n).toList with
    | nil => exact absurd htext (number_ne_nil hw)
    | cons c cs =>
      rw [List.cons_append, List.dropWhile_cons_of_neg]
      exact Bool.not_eq_true _ ▸ hdigit c (by rw [htext]; exact List.mem_cons_self)
  have hright : ((number 10 w n).toList ++ behind).rdropWhile (· ∈ [' ', '\n']) =
      (number 10 w n).toList := by
    rw [List.rdropWhile, List.reverse_append,
      List.dropWhile_append_of_pos fun c hc => by simp [hbehind c (List.mem_reverse.mp hc)]]
    show List.rdropWhile _ _ = _
    rw [List.rdropWhile_eq_self_iff]
    intro hne
    exact Bool.not_eq_true _ ▸ hdigit _ (List.getLast_mem hne)
  unfold wholeNumber
  rw [hleft, hright]
  simp only
  rw [if_pos, read_number]
  simp only [Bool.and_eq_true, decide_eq_true_eq, List.all_eq_true]
  exact ⟨number_ne_nil hw, fun c => isDigit_of_mem_number⟩

end Decimals

/-! ## Occurrences of a word -/

/-- From the first occurrence of a word on. -/
def fromFirst? (word : List Char) : List Char → Option (List Char)
  | [] => if word = [] then some [] else none
  | c :: cs => if word.isPrefixOf (c :: cs) then some (c :: cs) else fromFirst? word cs

/-- The same as `text[text.find(word):]`: the last character where there is no occurrence. -/
def fromFirst (word text : List Char) : List Char :=
  (fromFirst? word text).getD (text.drop (text.length - 1))

/-- A word that occurs is found. -/
theorem fromFirst?_isSome {word text : List Char} (h : word <:+: text) :
    (fromFirst? word text).isSome := by
  induction text with
  | nil => simp [fromFirst?, List.infix_nil.mp h]
  | cons c cs ih =>
    unfold fromFirst?
    split
    · rfl
    · next hhere =>
      rw [List.isPrefixOf_iff_prefix] at hhere
      exact ih ((List.infix_cons_iff.mp h).resolve_left hhere)

/-- The first occurrence of a word behind `before` is there, and not earlier. -/
def FirstAt (word before : List Char) : Prop := ¬ word <:+: before ++ word.dropLast

/-- An occurrence at the very front. -/
theorem FirstAt.nil {word : List Char} (hword : word ≠ []) : FirstAt word [] := by
  intro h
  have hlength := h.length_le
  rw [List.nil_append, List.length_dropLast] at hlength
  have hpos := List.length_pos_iff.mpr hword
  omega

/-- Where a word occurs first, said in one text and in each that ends like it. -/
theorem FirstAt.of_suffix {word before before' : List Char} (h : FirstAt word before)
    (hsuffix : before' <:+ before) : FirstAt word before' := by
  intro hinside
  obtain ⟨front, rfl⟩ := hsuffix
  refine h (hinside.trans (List.IsSuffix.isInfix ?_))
  rw [List.append_assoc]
  exact List.suffix_append front _

/-- Nothing before the first occurrence has the word. -/
theorem FirstAt.notInfix {word before : List Char} (h : FirstAt word before) :
    ¬ word <:+: before :=
  fun hinside => h (hinside.trans List.infix_append_left)

/-- What is cut off in front of the first occurrence. -/
theorem fromFirst?_eq_some_iff {word : List Char} (hword : word ≠ []) {text found : List Char} :
    fromFirst? word text = some found ↔
      ∃ before, text = before ++ found ∧ word <+: found ∧ FirstAt word before := by
  constructor
  · intro h
    induction text with
    | nil =>
      rw [fromFirst?, if_neg hword] at h
      cases h
    | cons c cs ih =>
      unfold fromFirst? at h
      split at h
      · next hhere =>
        cases h
        exact ⟨[], rfl, List.isPrefixOf_iff_prefix.mp hhere, .nil hword⟩
      · next hhere =>
        obtain ⟨before, rfl, hfound, hfirst⟩ := ih h
        refine ⟨c :: before, rfl, hfound, fun hinside => ?_⟩
        rcases List.infix_cons_iff.mp hinside with hstart | hrest
        · -- It would begin the text itself.
          refine hhere (List.isPrefixOf_iff_prefix.mpr (hstart.trans ?_))
          exact List.prefix_append_right_inj (c :: before) |>.mpr
            ((List.dropLast_prefix word).trans hfound)
        · exact hfirst hrest
  · rintro ⟨before, rfl, hfound, hfirst⟩
    induction before with
    | nil =>
      cases found with
      | nil => exact absurd (List.prefix_nil.mp hfound) hword
      | cons c cs => rw [List.nil_append, fromFirst?, if_pos (List.isPrefixOf_iff_prefix.mpr hfound)]
    | cons c before ih =>
      have hhere : ¬ word.isPrefixOf (c :: (before ++ found)) = true := by
        intro hhere
        have hshort : word <+: (c :: before) ++ word.dropLast := by
          refine List.prefix_of_prefix_length_le (List.isPrefixOf_iff_prefix.mp hhere)
            ?_ ?_
          · exact List.prefix_append_right_inj (c :: before) |>.mpr
              ((List.dropLast_prefix word).trans hfound)
          · rw [List.length_append, List.length_cons, List.length_dropLast]
            omega
        exact hfirst hshort.isInfix
      rw [List.cons_append, fromFirst?, if_neg hhere]
      exact ih (hfirst.of_suffix (List.suffix_cons c before))

/-- What is not found does not occur. -/
theorem notInfix_of_fromFirst? {word text : List Char} (h : fromFirst? word text = none) :
    ¬ word <:+: text := by
  intro hinside
  have hsome := fromFirst?_isSome hinside
  rw [h] at hsome
  cases hsome

/-- What is found holds the word, and is no longer than the text. -/
theorem fromFirst?_length {word text found : List Char} (h : fromFirst? word text = some found) :
    word.length ≤ found.length ∧ found.length ≤ text.length := by
  induction text with
  | nil =>
    unfold fromFirst? at h
    split at h
    · next hword =>
      cases h
      simp [hword]
    · cases h
  | cons c cs ih =>
    unfold fromFirst? at h
    split at h
    · next hhere =>
      cases h
      exact ⟨(List.isPrefixOf_iff_prefix.mp hhere).length_le, Nat.le_refl _⟩
    · exact ⟨(ih h).1, Nat.le_succ_of_le (ih h).2⟩

/-- More text behind does not change where a word is found. -/
theorem fromFirst?_append {word text found : List Char} (h : fromFirst? word text = some found)
    (behind : List Char) : fromFirst? word (text ++ behind) = some (found ++ behind) := by
  induction text with
  | nil =>
    unfold fromFirst? at h
    split at h
    · next hword =>
      cases h
      subst hword
      cases behind <;> rfl
    · cases h
  | cons c cs ih =>
    unfold fromFirst? at h
    split at h
    · next hhere =>
      cases h
      have hthere : word.isPrefixOf (c :: (cs ++ behind)) = true :=
        List.isPrefixOf_iff_prefix.mpr
          ((List.isPrefixOf_iff_prefix.mp hhere).trans (List.prefix_append (c :: cs) behind))
      show fromFirst? word (c :: (cs ++ behind)) = _
      rw [fromFirst?, if_pos hthere]
      rfl
    · next hhere =>
      -- An occurrence that reached into `behind` would be longer than the one that was found.
      have hthere : ¬ word.isPrefixOf (c :: (cs ++ behind)) = true := fun hthere =>
        hhere (List.isPrefixOf_iff_prefix.mpr (List.prefix_of_prefix_length_le
          (List.isPrefixOf_iff_prefix.mp hthere) (List.prefix_append (c :: cs) behind)
          (Nat.le_succ_of_le ((fromFirst?_length h).1.trans (fromFirst?_length h).2))))
      show fromFirst? word (c :: (cs ++ behind)) = _
      rw [fromFirst?, if_neg hthere]
      exact ih h

/-- **The first occurrence in a text is the first one in anything that goes on from there.** -/
theorem fromFirst_append {word text : List Char} (h : word <:+: text) (behind : List Char) :
    fromFirst word (text ++ behind) = fromFirst word text ++ behind := by
  obtain ⟨found, hfound⟩ := Option.isSome_iff_exists.mp (fromFirst?_isSome h)
  rw [fromFirst, fromFirst, fromFirst?_append hfound, hfound]
  rfl

/-- What is found is the rest of the text. -/
theorem fromFirst?_suffix {word text found : List Char} (h : fromFirst? word text = some found) :
    found <:+ text := by
  induction text with
  | nil =>
    unfold fromFirst? at h
    split at h
    · cases h
      exact List.suffix_rfl
    · cases h
  | cons c cs ih =>
    unfold fromFirst? at h
    split at h
    · cases h
      exact List.suffix_rfl
    · exact (ih h).trans (List.suffix_cons c cs)

/-- A text that ends in a word does so from its first occurrence on. -/
theorem suffix_fromFirst {word text : List Char} (h : word <:+ text) :
    word <:+ fromFirst word text := by
  obtain ⟨found, hfound⟩ := Option.isSome_iff_exists.mp (fromFirst?_isSome h.isInfix)
  rw [fromFirst, hfound]
  exact List.suffix_of_suffix_length_le h (fromFirst?_suffix hfound) (fromFirst?_length hfound).1

/-- A word without a separator does not reach over it. -/
theorem infix_append_cons_iff {word : List Char} {c : Char} (hc : c ∉ word) (xs ys : List Char) :
    word <:+: xs ++ c :: ys ↔ word <:+: xs ∨ word <:+: ys := by
  constructor
  · rintro ⟨s, t, h⟩
    rcases List.append_eq_append_iff.mp h with ⟨rest, rfl, -⟩ | ⟨back, hback, hys⟩
    · exact .inl ⟨s, rest, rfl⟩
    cases back with
    | nil => exact .inl ⟨s, [], by simpa using hback⟩
    | cons d back =>
      obtain ⟨rfl, rfl⟩ := List.cons.inj hys
      rcases List.append_eq_append_iff.mp hback with ⟨front, -, rfl⟩ | ⟨front, -, hfront⟩
      · exact absurd (List.mem_append_right _ List.mem_cons_self) hc
      cases front with
      | nil =>
        have hmem : c ∈ [] ++ word := by
          rw [← hfront]
          exact List.mem_cons_self
        exact absurd hmem hc
      | cons e front =>
        obtain ⟨-, rfl⟩ := List.cons.inj hfront
        exact .inr ⟨front, t, rfl⟩
  · rintro (h | h)
    · exact h.trans List.infix_append_left
    · exact h.trans ((List.suffix_cons c ys).isInfix.trans List.infix_append_right)

/-- A word that shares no character with a separator lies on one side of it. -/
theorem infix_append_append_iff {word sep : List Char} (hword : word ≠ []) (hsep : sep ≠ [])
    (h : ∀ c ∈ sep, c ∉ word) (xs ys : List Char) :
    word <:+: xs ++ (sep ++ ys) ↔ word <:+: xs ∨ word <:+: ys := by
  induction sep generalizing xs with
  | nil => exact absurd rfl hsep
  | cons c sep ih =>
    rw [List.cons_append, infix_append_cons_iff (h c List.mem_cons_self)]
    refine or_congr_right ?_
    cases sep with
    | nil => rfl
    | cons d sep =>
      have hrest := ih (List.cons_ne_nil d sep) (fun e he => h e (List.mem_cons_of_mem c he)) []
      rwa [List.nil_append, List.infix_nil, or_iff_right hword] at hrest

/-- A separator that the word does not have hides what is in front of it. -/
theorem fromFirst_append_append {word sep xs ys : List Char} (hword : word ≠ []) (hsep : sep ≠ [])
    (h : ∀ c ∈ sep, c ∉ word) (hxs : ¬ word <:+: xs) (hys : word <:+: ys) :
    fromFirst word (xs ++ (sep ++ ys)) = fromFirst word ys := by
  obtain ⟨found, hfound⟩ := Option.isSome_iff_exists.mp (fromFirst?_isSome hys)
  obtain ⟨before, rfl, hstart, hfirst⟩ := (fromFirst?_eq_some_iff hword).mp hfound
  have hfirst' : FirstAt word (xs ++ (sep ++ before)) := by
    intro hinside
    rw [List.append_assoc, List.append_assoc, infix_append_append_iff hword hsep h] at hinside
    exact hinside.elim hxs hfirst
  have hwhole : fromFirst? word (xs ++ (sep ++ (before ++ found))) = some found :=
    (fromFirst?_eq_some_iff hword).mpr ⟨_, by simp only [List.append_assoc], hstart, hfirst'⟩
  rw [fromFirst, fromFirst, hfound, hwhole]
  rfl

/-- **A word that has nothing of the separator lies in one of the parts.** -/
theorem infix_intercalate_iff {word sep : List Char} (hword : word ≠ []) (hsep : sep ≠ [])
    (h : ∀ c ∈ sep, c ∉ word) (parts : List (List Char)) :
    word <:+: sep.intercalate parts ↔ ∃ part ∈ parts, word <:+: part := by
  induction parts with
  | nil => simp [hword]
  | cons part parts ih =>
    cases parts with
    | nil => simp
    | cons next parts =>
      rw [List.intercalate_cons_cons, List.append_assoc, infix_append_append_iff hword hsep h, ih]
      simp only [List.mem_cons, exists_eq_or_imp]

/-! ## Lines and words -/

/-- The lines of a text whose only line ends are those of printing. -/
def lines (text : List Char) : List (List Char) :=
  let parts := text.splitOn '\n'
  if parts.getLast? = some [] then parts.dropLast else parts

/-- The words of a text whose only blanks are spaces. -/
def words (text : List Char) : List (List Char) := (text.splitOn ' ').filter (· ≠ [])

/-- A blank ends a word. -/
theorem words_append_space (xs ys : List Char) :
    words (xs ++ ' ' :: ys) = words xs ++ words ys := by
  rw [words, List.splitOn_append_cons_self, List.filter_append]
  rfl

/-- A text without blanks is one word. -/
theorem words_of_notMem {xs : List Char} (h : ' ' ∉ xs) (hne : xs ≠ []) : words xs = [xs] := by
  rw [words, List.splitOn_eq_singleton h]
  simp [hne]

/-- The words of a text occur in it. -/
theorem infix_of_mem_words {word : List Char} {text : List Char} (h : word ∈ words text) :
    word <:+: text := by
  induction hlength : text.length using Nat.strong_induction_on generalizing text with
  | _ n ih =>
    subst hlength
    by_cases hspace : ' ' ∈ text
    · obtain ⟨xs, ys, rfl, hxs⟩ := List.eq_append_cons_of_mem hspace
      rw [words_append_space] at h
      rcases List.mem_append.mp h with h | h
      · exact (ih xs.length (by simp) h rfl).trans List.infix_append_left
      · exact (ih ys.length (by simp; omega) h rfl).trans
          ((List.suffix_cons ' ' ys).isInfix.trans List.infix_append_right)
    · by_cases hne : text = []
      · subst hne
        simp [words] at h
      · rw [words_of_notMem hspace hne] at h
        rw [List.mem_singleton.mp h]

/-- Texts that each end in a character are taken apart at it. -/
theorem splitOn_flatMap {c : Char} {parts : List (List Char)} (h : ∀ part ∈ parts, c ∉ part) :
    (parts.flatMap (· ++ [c])).splitOn c = parts ++ [[]] := by
  induction parts with
  | nil => rfl
  | cons part parts ih =>
    rw [List.flatMap_cons, List.append_assoc, List.singleton_append, List.splitOn_append_cons_self,
      List.splitOn_eq_singleton (h part List.mem_cons_self),
      ih fun part hpart => h part (List.mem_cons_of_mem _ hpart)]
    rfl

/-- Lines that are written, each with its end, read back. -/
theorem lines_flatMap {rows : List (List Char)} (h : ∀ row ∈ rows, '\n' ∉ row) :
    lines (rows.flatMap (· ++ ['\n'])) = rows := by
  unfold lines
  rw [splitOn_flatMap h]
  simp

/-- The last line may have no end. -/
theorem lines_flatMap_append {rows : List (List Char)} {last : List Char}
    (h : ∀ row ∈ rows, '\n' ∉ row) (hlast : '\n' ∉ last) (hne : last ≠ []) :
    lines (rows.flatMap (· ++ ['\n']) ++ last) = rows ++ [last] := by
  have hsplit : (rows.flatMap (· ++ ['\n']) ++ last).splitOn '\n' = rows ++ [last] := by
    induction rows with
    | nil => exact List.splitOn_eq_singleton hlast
    | cons row rows ih =>
      rw [List.flatMap_cons, List.append_assoc, List.append_assoc, List.singleton_append,
        List.splitOn_append_cons_self, List.splitOn_eq_singleton (h row List.mem_cons_self),
        ih fun row hrow => h row (List.mem_cons_of_mem _ hrow)]
      rfl
  unfold lines
  rw [hsplit]
  simp [hne]

/-- Words that are written, each with a blank behind, read back. -/
theorem words_flatMap {parts : List (List Char)} (h : ∀ part ∈ parts, ' ' ∉ part)
    (hne : ∀ part ∈ parts, part ≠ []) : words (parts.flatMap (· ++ [' '])) = parts := by
  unfold words
  rw [splitOn_flatMap h, List.filter_append, List.filter_eq_self.mpr fun part hpart => by
    simpa using hne part hpart]
  simp

/-! ## Patterns with one star -/

/-- `before*after` matches a name: the star stands for anything but a slash. -/
def globMatches (before after name : List Char) : Bool :=
  before.isPrefixOf name && after.isSuffixOf (name.drop before.length) &&
    !((name.drop before.length).take (name.length - before.length - after.length)).contains '/'

/-- What a star stands for has no separator of folders. -/
theorem globMatches_append (before after star : List Char) :
    globMatches before after (before ++ (star ++ after)) = !star.contains '/' := by
  have hbefore : before.isPrefixOf (before ++ (star ++ after)) = true :=
    List.isPrefixOf_iff_prefix.mpr (List.prefix_append before (star ++ after))
  have hafter : after.isSuffixOf (star ++ after) = true :=
    List.isSuffixOf_iff_suffix.mpr (List.suffix_append star after)
  have hlength : (before ++ (star ++ after)).length - before.length - after.length =
      star.length := by
    simp only [List.length_append]
    omega
  rw [globMatches, hlength, List.drop_left, hbefore, hafter, List.take_left]
  rfl

/-- A name that matches begins as the pattern does. -/
theorem isPrefix_of_globMatches {before after name : List Char}
    (h : globMatches before after name = true) : before <+: name := by
  simp only [globMatches, Bool.and_eq_true, List.isPrefixOf_iff_prefix] at h
  exact h.1.1

/-- A name that matches ends as the pattern does. -/
theorem isSuffix_of_globMatches {before after name : List Char}
    (h : globMatches before after name = true) : after <:+ name := by
  simp only [globMatches, Bool.and_eq_true, List.isSuffixOf_iff_suffix] at h
  exact h.1.2.trans (List.drop_suffix _ _)

/-! ## Replacing what matches -/

section

variable {matched : List Char → Option Nat} {new : List Char}

/-- Every match is replaced, the first one first, and what it covers is not looked at again. The
number is what is left of the last match. -/
def sub (matched : List Char → Option Nat) (new : List Char) : Nat → List Char → List Char
  | _, [] => []
  | n + 1, _ :: text => sub matched new n text
  | 0, c :: text =>
    match matched (c :: text) with
    | some n => new ++ sub matched new (n - 1) text
    | none => c :: sub matched new 0 text

/-- A character that is in no match, and not in what comes for it, is there as often as before. -/
theorem count_sub {c : Char} (hmatched : ∀ text n, matched text = some n → 0 < n ∧ c ∉ text.take n)
    (hnew : c ∉ new) (n : Nat) (text : List Char) :
    (sub matched new n text).count c = (text.drop n).count c := by
  induction text generalizing n with
  | nil => cases n <;> rfl
  | cons d text ih =>
    cases n with
    | succ n => exact ih n
    | zero =>
      cases hm : matched (d :: text) with
      | none =>
        have hsub : sub matched new 0 (d :: text) = d :: sub matched new 0 text := by
          rw [sub, hm]
        rw [hsub, List.drop_zero, List.count_cons, List.count_cons, ih 0, List.drop_zero]
      | some n =>
        obtain ⟨hpos, hcovered⟩ := hmatched _ n hm
        obtain ⟨n, rfl⟩ := Nat.exists_eq_succ_of_ne_zero (Nat.pos_iff_ne_zero.mp hpos)
        have hsub : sub matched new 0 (d :: text) = new ++ sub matched new n text := by
          rw [sub, hm]
          rfl
        have hsplit := congrArg (List.count c) (List.take_append_drop (n + 1) (d :: text))
        rw [List.count_append, List.count_eq_zero_of_not_mem hcovered, Nat.zero_add,
          List.drop_succ_cons] at hsplit
        rw [hsub, List.count_append, List.count_eq_zero_of_not_mem hnew, Nat.zero_add, ih n, hsplit,
          List.drop_zero]

end

/-! ## Loops that may fail -/

section

variable {α β : Type} {f : α → Option β}

/-- A loop over items that all succeed succeeds. -/
theorem mapM_isSome {xs : List α} (h : ∀ x ∈ xs, (f x).isSome) : (xs.mapM f).isSome := by
  induction xs with
  | nil => rfl
  | cons x xs ih =>
    obtain ⟨y, hy⟩ := Option.isSome_iff_exists.mp (h x List.mem_cons_self)
    obtain ⟨ys, hys⟩ := Option.isSome_iff_exists.mp (ih fun x' hx' =>
      h x' (List.mem_cons_of_mem x hx'))
    simp [List.mapM_cons, hy, hys]

/-- What the first item gave, and what the others gave. -/
theorem mapM_cons_eq_some {x : α} {xs : List α} {ys : List β} (h : (x :: xs).mapM f = some ys) :
    ∃ y ys', f x = some y ∧ xs.mapM f = some ys' ∧ ys = y :: ys' := by
  rw [List.mapM_cons] at h
  cases hx : f x with
  | none => simp [hx] at h
  | some y =>
    cases hxs : xs.mapM f with
    | none => simp [hx, hxs] at h
    | some ys' =>
      simp only [hx, hxs, Option.bind_eq_bind, Option.bind_some, Option.pure_def,
        Option.some.injEq] at h
      exact ⟨y, ys', rfl, rfl, h.symm⟩

/-- A loop that succeeds gives the values of its elements and no others. -/
theorem mem_mapM {xs : List α} {ys : List β} (h : xs.mapM f = some ys) (y : β) :
    y ∈ ys ↔ ∃ x ∈ xs, f x = some y := by
  induction xs generalizing ys with
  | nil =>
    cases h
    simp
  | cons x xs ih =>
    obtain ⟨y', ys', hx, hxs, rfl⟩ := mapM_cons_eq_some h
    simp [ih hxs, hx, eq_comm]

/-- In a loop that succeeds, every item did. -/
theorem isSome_of_mapM {xs : List α} {ys : List β} (h : xs.mapM f = some ys) {x : α}
    (hx : x ∈ xs) : (f x).isSome := by
  induction xs generalizing ys with
  | nil => cases hx
  | cons x' xs ih =>
    obtain ⟨y, ys', hy, hxs, rfl⟩ := mapM_cons_eq_some h
    rcases List.mem_cons.mp hx with rfl | hx
    · rw [hy]
      rfl
    · exact ih hxs hx

/-- The elements before and behind one stay there. -/
theorem mapM_append_cons_eq_some {before behind : List α} {x : α} {ys : List β}
    (h : (before ++ x :: behind).mapM f = some ys) : ∃ ys₁ y ys₂, before.mapM f = some ys₁ ∧
      f x = some y ∧ behind.mapM f = some ys₂ ∧ ys = ys₁ ++ y :: ys₂ := by
  induction before generalizing ys with
  | nil =>
    obtain ⟨y, ys', hy, hbehind, rfl⟩ := mapM_cons_eq_some h
    exact ⟨[], y, ys', rfl, hy, hbehind, rfl⟩
  | cons x' before ih =>
    obtain ⟨y', ys', hy', hrest, rfl⟩ := mapM_cons_eq_some h
    obtain ⟨ys₁, y, ys₂, hbefore, hy, hbehind, rfl⟩ := ih hrest
    exact ⟨y' :: ys₁, y, ys₂, by simp [List.mapM_cons, hy', hbefore], hy, hbehind, rfl⟩

/-- The last result is that of the last item. -/
theorem getLast?_mapM {xs : List α} {ys : List β} (h : xs.mapM f = some ys) :
    ys.getLast? = xs.getLast?.bind f := by
  induction xs generalizing ys with
  | nil =>
    cases h
    rfl
  | cons x xs ih =>
    obtain ⟨y, ys', hx, hxs, rfl⟩ := mapM_cons_eq_some h
    cases xs with
    | nil =>
      cases hxs
      simp [hx]
    | cons x' xs =>
      obtain ⟨y', ys'', -, -, rfl⟩ := mapM_cons_eq_some hxs
      rw [List.getLast?_cons_cons, List.getLast?_cons_cons, ih hxs]

/-- The results stand beside their items, one for one. -/
theorem forall₂_mapM {xs : List α} {ys : List β} (h : xs.mapM f = some ys) :
    List.Forall₂ (fun x y => f x = some y) xs ys := by
  induction xs generalizing ys with
  | nil =>
    cases h
    exact .nil
  | cons x xs ih =>
    obtain ⟨y, ys', hx, hxs, rfl⟩ := mapM_cons_eq_some h
    exact .cons hx (ih hxs)

/-- Every item on the left has its partner. -/
theorem exists_of_mem_forall₂ {R : α → β → Prop} {xs : List α} {ys : List β}
    (h : List.Forall₂ R xs ys) {x : α} (hx : x ∈ xs) : ∃ y ∈ ys, R x y := by
  induction h with
  | nil => cases hx
  | @cons _ y _ ys hxy _ ih =>
    rcases List.mem_cons.mp hx with rfl | hx
    · exact ⟨y, List.mem_cons_self, hxy⟩
    · obtain ⟨y', hy', hxy'⟩ := ih hx
      exact ⟨y', List.mem_cons_of_mem y hy', hxy'⟩

/-- What partners have in common is common to the lists. -/
theorem map_eq_of_forall₂ {γ : Type} {R : α → β → Prop} {xs : List α} {ys : List β}
    (h : List.Forall₂ R xs ys) (g : α → γ) (g' : β → γ) (hR : ∀ x y, R x y → g' y = g x) :
    ys.map g' = xs.map g := by
  induction h with
  | nil => rfl
  | cons hxy _ ih => rw [List.map_cons, List.map_cons, hR _ _ hxy, ih]

/-- A loop over items whose results are known. -/
theorem mapM_map_eq_some {γ : Type} {g : γ → α} {h : γ → β} {xs : List γ}
    (hf : ∀ x ∈ xs, f (g x) = some (h x)) : (xs.map g).mapM f = some (xs.map h) := by
  induction xs with
  | nil => rfl
  | cons x xs ih =>
    rw [List.map_cons, List.mapM_cons, hf x List.mem_cons_self,
      ih fun x' hx' => hf x' (List.mem_cons_of_mem x hx')]
    rfl

/-- Numbers that were printed are read back. -/
theorem mapM_wholeNumber {dec : Decimals} (ns : List Nat) :
    (ns.map fun n => (number 10 1 n).toList).mapM dec.wholeNumber = some ns := by
  have hread : ∀ n ∈ ns, dec.wholeNumber (number 10 1 n).toList = some (id n) := by
    intro n _
    rw [← List.append_nil (number 10 1 n).toList]
    exact Decimals.wholeNumber_number Nat.one_pos n nofun
  have h := mapM_map_eq_some hread
  rwa [List.map_id] at h

end

/-! ## Dictionaries -/

section

variable {α : Type} {items : List (Nat × α)} {idx : Nat}

/-- The entry of a dictionary that was set last. -/
def dict (items : List (Nat × α)) (idx : Nat) : Option α :=
  (items.reverse.find? (·.1 = idx)).map (·.2)

/-- What a dictionary holds was put into it. -/
theorem mem_of_dict {x : α} (h : dict items idx = some x) : (idx, x) ∈ items := by
  obtain ⟨item, hitem, rfl⟩ := Option.map_eq_some_iff.mp h
  have hkey : item.1 = idx := by simpa using List.find?_some hitem
  rw [← hkey]
  exact List.mem_reverse.mp (List.mem_of_find?_eq_some hitem)

/-- A key that was put in is found. -/
theorem dict_isSome_of_mem {x : α} (h : (idx, x) ∈ items) : (dict items idx).isSome := by
  rw [dict, Option.isSome_map, List.find?_isSome]
  exact ⟨(idx, x), List.mem_reverse.mpr h, by simp⟩

/-- A key is missing if nothing was put under it. -/
theorem dict_eq_none_iff : dict items idx = none ↔ ∀ x, (idx, x) ∉ items := by
  constructor
  · intro h x hx
    have hsome := dict_isSome_of_mem hx
    rw [h] at hsome
    cases hsome
  · intro h
    cases hd : dict items idx with
    | none => rfl
    | some x => exact absurd (mem_of_dict hd) (h x)

/-- The items of a function make the function. -/
theorem dict_eq {f : Nat → Option α} (h : ∀ i x, (i, x) ∈ items ↔ f i = some x) (i : Nat) :
    dict items i = f i := by
  cases hf : f i with
  | none =>
    refine dict_eq_none_iff.mpr fun x hx => ?_
    rw [h, hf] at hx
    cases hx
  | some x =>
    obtain ⟨y, hy⟩ := Option.isSome_iff_exists.mp (dict_isSome_of_mem ((h i x).mpr hf))
    have hfy := (h i y).mp (mem_of_dict hy)
    rw [hf] at hfy
    rw [hy, hfy]

/-- The keys of a dictionary are those of its items. -/
theorem dict_isSome_iff : (dict items idx).isSome ↔ idx ∈ items.map (·.1) := by
  rw [List.mem_map]
  constructor
  · intro h
    obtain ⟨x, hx⟩ := Option.isSome_iff_exists.mp h
    exact ⟨(idx, x), mem_of_dict hx, rfl⟩
  · rintro ⟨item, hitem, rfl⟩
    exact dict_isSome_of_mem hitem

/-- What is put in last stays. -/
theorem dict_append_cons {behind : List (Nat × α)} (before : List (Nat × α)) (x : α)
    (h : ∀ item ∈ behind, item.1 ≠ idx) : dict (before ++ (idx, x) :: behind) idx = some x := by
  have hbehind : behind.reverse.find? (·.1 = idx) = none := by simpa using h
  rw [dict, List.reverse_append, List.reverse_cons, List.append_assoc, List.find?_append, hbehind]
  simp

/-- Where a key has one value, the entry is that. -/
theorem dict_eq_some_iff (h : ∀ x y, (idx, x) ∈ items → (idx, y) ∈ items → x = y) {x : α} :
    dict items idx = some x ↔ (idx, x) ∈ items := by
  refine ⟨mem_of_dict, fun hx => ?_⟩
  obtain ⟨y, hy⟩ := Option.isSome_iff_exists.mp (dict_isSome_of_mem hx)
  rw [hy, h y x (mem_of_dict hy) hx]

/-- Where all items have one key, the last one stays. -/
theorem dict_of_forall_key (h : ∀ item ∈ items, item.1 = idx) :
    dict items idx = items.getLast?.map (·.2) := by
  induction items using List.reverseRecOn with
  | nil => rfl
  | append_singleton items item =>
    obtain rfl := h item (List.mem_append_right _ (List.mem_singleton_self item))
    rw [dict_append_cons items item.2 (List.forall_mem_nil _), List.getLast?_concat]
    rfl

end

/-! ## Bytes -/

/-- The bytes of a text in a file. -/
def utf8 (text : String) : List UInt8 := text.toUTF8.data.toList

/-- UTF-8 goes character by character. -/
theorem utf8_append (text text' : String) : utf8 (text ++ text') = utf8 text ++ utf8 text' := by
  show (text ++ text').toByteArray.data.toList = _
  rw [String.toByteArray_append, ByteArray.data_append, Array.toList_append]
  rfl

theorem utf8_eq (text : String) : utf8 text = text.toList.flatMap String.utf8EncodeChar := by
  show text.toByteArray.data.toList = _
  rw [← String.utf8Encode_toList, List.utf8Encode]
  simp

/-- Only the terminator has a zero byte in UTF-8. -/
theorem zero_notMem_utf8EncodeChar {c : Char} (h : c ≠ '\x00') : 0 ∉ String.utf8EncodeChar c := by
  have hval : c.val.toNat ≠ 0 := fun hz => h (Char.ext (UInt32.toNat_inj.mp hz))
  have hbyte : ∀ n : Nat, n < 256 → n ≠ 0 → (0 : UInt8) ≠ UInt8.ofNat n := by
    intro n hn hne heq
    have hnat := congrArg UInt8.toNat heq
    rw [UInt8.toNat_ofNat', Nat.mod_eq_of_lt hn] at hnat
    exact hne hnat.symm
  unfold String.utf8EncodeChar
  simp only
  split_ifs
  · rw [List.mem_singleton]
    exact hbyte _ (by omega) hval
  all_goals
    -- the bytes of a longer encoding are all marked
    simp only [List.mem_cons, List.not_mem_nil, or_false, not_or]
    repeat' apply And.intro
    all_goals exact hbyte _ (by omega) (by omega)

/-- A text without a NUL has no byte that is zero. -/
theorem zero_notMem_utf8 {text : String} (h : '\x00' ∉ text.toList) : 0 ∉ utf8 text := by
  rw [utf8_eq, List.mem_flatMap]
  intro ⟨c, hc, hzero⟩
  exact zero_notMem_utf8EncodeChar (fun heq => h (heq ▸ hc)) hzero

/-- Bytes that decode are those of the text. -/
theorem utf8_of_fromUTF8? {bytes : List UInt8} {text : String}
    (h : String.fromUTF8? ⟨bytes.toArray⟩ = some text) : utf8 text = bytes := by
  unfold String.fromUTF8? at h
  split at h
  · rw [← Option.some.inj h]
    rfl
  · cases h

/-- No character's bytes begin another's. -/
theorem utf8EncodeChar_append_inj {c d : Char} {xs ys : List UInt8}
    (h : String.utf8EncodeChar c ++ xs = String.utf8EncodeChar d ++ ys) : c = d ∧ xs = ys := by
  have hbytes := congrArg List.toByteArray h
  rw [List.toByteArray_append, List.toByteArray_append] at hbytes
  have hc := ByteArray.utf8DecodeChar?_utf8EncodeChar_append (b := xs.toByteArray) (c := c)
  rw [hbytes, ByteArray.utf8DecodeChar?_utf8EncodeChar_append] at hc
  obtain rfl := Option.some.inj hc
  exact ⟨rfl, List.append_cancel_left h⟩

/-- A text whose bytes begin like those of another begins like it. -/
theorem prefix_of_utf8 {text text' : String} {more : List UInt8}
    (h : utf8 text = utf8 text' ++ more) : text'.toList <+: text.toList := by
  rw [utf8_eq, utf8_eq] at h
  generalize text.toList = cs at h ⊢
  generalize text'.toList = cs' at h ⊢
  induction cs' generalizing cs with
  | nil => exact List.nil_prefix
  | cons c cs' ih =>
    rw [List.flatMap_cons, List.append_assoc] at h
    cases cs with
    | nil => exact absurd (List.append_eq_nil_iff.mp h.symm).1 String.utf8EncodeChar_ne_nil
    | cons d cs =>
      rw [List.flatMap_cons] at h
      obtain ⟨rfl, hrest⟩ := utf8EncodeChar_append_inj h
      exact List.cons_prefix_cons.mpr ⟨rfl, ih cs hrest⟩

end CLIntercept.Lib
