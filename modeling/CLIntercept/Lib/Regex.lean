import Mathlib.Data.List.Infix
import Mathlib.Data.List.TakeWhile

/-!
# Patterns of character classes

A pattern is a sequence of classes. Each stands for one character or for a run of them, and what a run
takes may be kept. A match begins at the front of the text and need not reach its end.

Runs are greedy: one takes what it can, and gives back one character after the other until the rest of
the pattern matches. So it takes a part if the rest matches behind it and behind no longer one, which
is `matchItems_many`; where the class tells the part from what follows, no longer one is left to try.
-/

set_option autoImplicit false

namespace CLIntercept.Lib

variable {α : Type*}

/-- A class of characters: one of them, or a run of at least so many. -/
inductive Item (α : Type*)
  | one (p : α → Bool)
  | many (least : Nat) (p : α → Bool) (kept : Bool)

/-- The lengths that a run tries, the longest first. -/
def runLengths (least : Nat) (p : α → Bool) (text : List α) : List Nat :=
  (List.range ((text.takeWhile p).length + 1)).reverse.filter (least ≤ ·)

/-- What the runs keep that take the front of a text. -/
def matchItems : List (Item α) → List α → Option (List (List α))
  | [], _ => some []
  | .one _ :: _, [] => none
  | .one p :: items, c :: text => if p c then matchItems items text else none
  | .many least p kept :: items, text => (runLengths least p text).findSome? fun n =>
    (matchItems items (text.drop n)).map fun parts => if kept then text.take n :: parts else parts

/-- A word, letter by letter. -/
def literal [DecidableEq α] (word : List α) : List (Item α) :=
  word.map fun c => .one (decide <| · = c)

/-! ## One character after the other -/

section

variable {p : α → Bool} {items : List (Item α)}

theorem matchItems_one {c : α} (h : p c = true) (text : List α) :
    matchItems (.one p :: items) (c :: text) = matchItems items text := if_pos h

theorem matchItems_one_of_not {c : α} (h : p c = false) (text : List α) :
    matchItems (.one p :: items) (c :: text) = none := if_neg (by rw [h]; exact Bool.false_ne_true)

theorem matchItems_literal [DecidableEq α] (word text : List α) :
    matchItems (literal word ++ items) (word ++ text) = matchItems items text := by
  induction word with
  | nil => rfl
  | cons c word ih =>
    rw [← ih]
    exact matchItems_one (p := fun x => decide (x = c)) (decide_eq_true rfl) _

/-- A text that matches a word begins with it. -/
theorem prefix_of_matchItems [DecidableEq α] {word text : List α}
    (h : matchItems (literal word ++ items) text ≠ none) : word <+: text := by
  induction word generalizing text with
  | nil => exact List.nil_prefix
  | cons c word ih =>
    cases text with
    | nil => exact absurd rfl h
    | cons d text =>
      by_cases hd : d = c
      · subst hd
        refine (List.prefix_cons_inj d).mpr (ih ?_)
        rw [literal, List.map_cons, List.cons_append, matchItems, if_pos (decide_eq_true rfl)] at h
        exact h
      · refine absurd (matchItems_one_of_not ?_ text) h
        exact decide_eq_false hd

end

/-! ## Runs -/

section

variable {least : Nat} {p : α → Bool} {kept : Bool} {items : List (Item α)}

/-- A descending range, cut at a length. -/
theorem reverse_range_split {n longest : Nat} (h : n ≤ longest) :
    (List.range (longest + 1)).reverse =
      ((List.range (longest - n)).map (n + 1 + ·)).reverse ++ n :: (List.range n).reverse := by
  have hsplit : longest + 1 = n + 1 + (longest - n) := by omega
  rw [hsplit, List.range_add, List.reverse_append, List.range_succ, List.reverse_concat]

/-- **A run takes a part** behind which the rest matches, if it does behind no longer one. -/
theorem matchItems_many {part behind : List α} {parts : List (List α)}
    (hpart : ∀ c ∈ part, p c = true) (hleast : least ≤ part.length)
    (hrest : matchItems items behind = some parts)
    (hlonger : ∀ n, 0 < n → n ≤ (behind.takeWhile p).length →
      matchItems items (behind.drop n) = none) :
    matchItems (.many least p kept :: items) (part ++ behind) =
      some (if kept then part :: parts else parts) := by
  have htake : ((part ++ behind).takeWhile p).length =
      part.length + (behind.takeWhile p).length := by
    rw [List.takeWhile_append_of_pos hpart, List.length_append]
  have hle : part.length ≤ part.length + (behind.takeWhile p).length := Nat.le_add_right _ _
  rw [matchItems, runLengths, htake, reverse_range_split hle, List.filter_append,
    List.findSome?_append, List.filter_cons_of_pos (by simpa using hleast), List.findSome?_cons,
    List.drop_left, List.take_left, hrest]
  -- every longer part has been given back
  have hnone : ((((List.range (part.length + (behind.takeWhile p).length - part.length)).map
      (part.length + 1 + ·)).reverse.filter (least ≤ ·)).findSome? fun n =>
        (matchItems items ((part ++ behind).drop n)).map fun parts =>
          if kept then (part ++ behind).take n :: parts else parts) = none := by
    refine List.findSome?_eq_none_iff.mpr fun n hn => ?_
    obtain ⟨i, hi, rfl⟩ := List.mem_map.mp (List.mem_reverse.mp (List.mem_of_mem_filter hn))
    have hmore := hlonger (1 + i) (by omega) (by have := List.mem_range.mp hi; omega)
    rw [Nat.add_assoc, List.drop_length_add_append, hmore]
    rfl
  rw [hnone]
  rfl

/-- What follows is not of the class, so a run has one way to go. -/
theorem matchItems_run {part behind : List α} {parts : List (List α)}
    (hpart : ∀ c ∈ part, p c = true) (hleast : least ≤ part.length)
    (hbehind : ∀ c, behind.head? = some c → p c = false)
    (hrest : matchItems items behind = some parts) :
    matchItems (.many least p kept :: items) (part ++ behind) =
      some (if kept then part :: parts else parts) := by
  refine matchItems_many hpart hleast hrest fun n hpos hle => ?_
  cases behind with
  | nil => exact absurd hle (Nat.not_le.mpr hpos)
  | cons c behind =>
    rw [List.takeWhile_cons_of_neg (by rw [hbehind c rfl]; exact Bool.false_ne_true)] at hle
    exact absurd hle (Nat.not_le.mpr hpos)

end

/-! ## Words between blanks -/

/-- A word is read within the word that is there, if what follows is in none. -/
theorem prefix_of_prefix_append {first word behind : List α}
    (hbehind : ∀ c, behind.head? = some c → c ∉ first) (h : first <+: word ++ behind) :
    first <+: word := by
  rcases List.prefix_or_prefix_of_prefix h (List.prefix_append word behind) with hword | ⟨more, rfl⟩
  · exact hword
  · cases more with
    | nil => rw [List.append_nil]
    | cons c more =>
      obtain ⟨rest, rfl⟩ := (List.prefix_append_right_inj word).mp h
      exact absurd (List.mem_append_right word List.mem_cons_self) (hbehind c rfl)

section

variable [DecidableEq α] {blank : α → Bool} {b : α} {first : List α} {items : List (Item α)}

/-- A blank and a word are nowhere in a text of other words. -/
theorem matchItems_drop_words {words : List (List α)} {tail : List α} (hfirst : b ∉ first)
    (hwords : ∀ word ∈ words, (∀ c ∈ word, blank c = false) ∧ ¬first <+: word)
    (hhead : ∀ c, tail.head? = some c → c ∉ first)
    (htail : ∀ n, matchItems (.one blank :: (literal first ++ items)) (tail.drop n) = none)
    (n : Nat) : matchItems (.one blank :: (literal first ++ items))
      ((words.flatMap (b :: ·) ++ tail).drop n) = none := by
  induction words generalizing n with
  | nil => exact htail n
  | cons word words ih =>
    obtain ⟨hclean, hother⟩ := hwords word List.mem_cons_self
    have hrest := ih fun w hw => hwords w (List.mem_cons_of_mem word hw)
    have hnext : ∀ c, (words.flatMap (b :: ·) ++ tail).head? = some c → c ∉ first := by
      cases words with
      | nil => exact hhead
      | cons w words => exact fun c hc => Option.some.inj hc ▸ hfirst
    rw [List.flatMap_cons, List.append_assoc, List.cons_append]
    cases n with
    | zero =>
      rw [List.drop_zero, matchItems]
      split
      · by_contra hmatch
        exact hother (prefix_of_prefix_append hnext (prefix_of_matchItems hmatch))
      · rfl
    | succ n =>
      rw [List.drop_succ_cons]
      rcases Nat.lt_or_ge n word.length with hlt | hge
      · rw [List.drop_append_of_le_length (Nat.le_of_lt hlt), List.drop_eq_getElem_cons hlt]
        exact matchItems_one_of_not (hclean _ (List.getElem_mem hlt)) _
      · rw [List.drop_append, List.drop_eq_nil_of_le hge, List.nil_append]
        exact hrest _

/-- Nor are they in the first of the words. -/
theorem matchItems_drop_first {words : List (List α)} {tail : List α} (hfirst : b ∉ first)
    (hclean : ∀ c ∈ first, blank c = false)
    (hwords : ∀ word ∈ words, (∀ c ∈ word, blank c = false) ∧ ¬first <+: word)
    (hhead : ∀ c, tail.head? = some c → c ∉ first)
    (htail : ∀ n, matchItems (.one blank :: (literal first ++ items)) (tail.drop n) = none)
    {n : Nat} (hpos : 0 < n) : matchItems (.one blank :: (literal first ++ items))
      ((b :: (first ++ (words.flatMap (b :: ·) ++ tail))).drop n) = none := by
  obtain ⟨n, rfl⟩ := Nat.exists_eq_add_of_lt hpos
  rw [Nat.zero_add, List.drop_succ_cons]
  rcases Nat.lt_or_ge n first.length with hlt | hge
  · rw [List.drop_append_of_le_length (Nat.le_of_lt hlt), List.drop_eq_getElem_cons hlt]
    exact matchItems_one_of_not (hclean _ (List.getElem_mem hlt)) _
  · rw [List.drop_append, List.drop_eq_nil_of_le hge, List.nil_append]
    exact matchItems_drop_words hfirst hwords hhead htail _

end

end CLIntercept.Lib
