import CLIntercept.Lib.Text
import Mathlib.Data.List.Forall2
import Mathlib.Data.Nat.Digits.Lemmas

/-!
# The grammar of JSON

Which texts are JSON values, and which are an array of given elements. The grammar is about lists of
characters and is no reader: a value may be spelled in several ways, with white space and escapes.

A writer that never makes a tree, and puts an object together from left to right, is followed by
`Opened`: an object that is not closed yet. One member after another may be added to it.
-/

set_option autoImplicit false

namespace CLIntercept.Lib.Json

/-! ## The grammar -/

def White (cs : List Char) : Prop := ∀ c ∈ cs, c ∈ [' ', '\t', '\n', '\r']

def Digits (cs : List Char) : Prop := cs ≠ [] ∧ ∀ c ∈ cs, c.isDigit = true

/-- A whole number has no zeros in front. -/
def Whole (cs : List Char) : Prop := Digits cs ∧ (cs.head? = some '0' → cs = ['0'])

def Fraction (cs : List Char) : Prop := cs = [] ∨ ∃ digits, Digits digits ∧ cs = '.' :: digits

def Exponent (cs : List Char) : Prop :=
  cs = [] ∨ ∃ e ∈ ['e', 'E'], ∃ sign ∈ [[], ['+'], ['-']], ∃ digits, Digits digits ∧
    cs = e :: (sign ++ digits)

def Number (cs : List Char) : Prop :=
  ∃ sign ∈ [[], ['-']], ∃ whole fraction exponent, Whole whole ∧ Fraction fraction ∧
    Exponent exponent ∧ cs = sign ++ whole ++ fraction ++ exponent

/-- A character that stands for itself in a string. -/
def unescaped (c : Char) : Bool := 0x20 ≤ c.toNat && c != '"' && c != '\\'

def isHexDigit (c : Char) : Bool :=
  c.isDigit || ('a' ≤ c && c ≤ 'f') || ('A' ≤ c && c ≤ 'F')

/-- What is between the quotes. -/
inductive Body : List Char → Prop where
  | nil : Body []
  | plain {c : Char} {cs : List Char} : unescaped c = true → Body cs → Body (c :: cs)
  | escape {c : Char} {cs : List Char} : c ∈ ['"', '\\', '/', 'b', 'f', 'n', 'r', 't'] →
      Body cs → Body ('\\' :: c :: cs)
  | unicode {hex cs : List Char} : hex.length = 4 → (∀ c ∈ hex, isHexDigit c = true) → Body cs →
      Body ('\\' :: 'u' :: (hex ++ cs))

def quote (body : List Char) : List Char := '"' :: (body ++ ['"'])

/-- The name of a member, and the colon behind it. -/
def Key (cs : List Char) : Prop :=
  ∃ before body behind, White before ∧ Body body ∧ White behind ∧
    cs = before ++ quote body ++ behind ++ [':']

/-- **A JSON value**, with white space around it. -/
inductive Value : List Char → Prop where
  | word {cs : List Char} : cs ∈ ["true".toList, "false".toList, "null".toList] → Value cs
  | number {cs : List Char} : Number cs → Value cs
  | string {body : List Char} : Body body → Value (quote body)
  | emptyArray {white : List Char} : White white → Value ('[' :: (white ++ [']']))
  | array {elements : List (List Char)} : elements ≠ [] → (∀ e ∈ elements, Value e) →
      Value ('[' :: ([','].intercalate elements ++ [']']))
  | emptyObject {white : List Char} : White white → Value ('\x7b' :: (white ++ ['\x7d']))
  | object {members : List (List Char × List Char)} : members ≠ [] → (∀ m ∈ members, Key m.1) →
      (∀ m ∈ members, Value m.2) →
      Value ('\x7b' :: ([','].intercalate (members.map fun m => m.1 ++ m.2) ++ ['\x7d']))
  | padded {before cs behind : List Char} : White before → Value cs → White behind →
      Value (before ++ cs ++ behind)

/-- An element with white space around it. -/
def Padded (element cell : List Char) : Prop :=
  ∃ before behind, White before ∧ White behind ∧ cell = before ++ element ++ behind

/-- **The text is an array** of these elements. -/
structure ArrayOf (elements : List (List Char)) (text : List Char) : Prop where
  ne_nil : elements ≠ []
  values : ∀ e ∈ elements, Value e
  spelled : ∃ before cells behind, White before ∧ List.Forall₂ Padded elements cells ∧
    White behind ∧ text = before ++ '[' :: ([','].intercalate cells ++ [']']) ++ behind

/-! ## Leaves -/

/-- No blanks at all. -/
theorem white_nil : White [] := fun _ h => absurd h List.not_mem_nil

/-- A whole number is a number. -/
theorem Whole.number {cs : List Char} (h : Whole cs) : Number cs :=
  ⟨[], by simp, cs, [], [], h, .inl rfl, .inl rfl, by simp⟩

/-- Digits behind a point may follow. -/
theorem number_fraction {whole digits : List Char} (h : Whole whole) (h' : Digits digits) :
    Number (whole ++ '.' :: digits) :=
  ⟨[], by simp, whole, '.' :: digits, [], h, .inr ⟨digits, h', rfl⟩, .inl rfl, by simp⟩

/-- Characters that need no escape stand for themselves. -/
theorem body_plain {cs : List Char} (h : ∀ c ∈ cs, unescaped c = true) : Body cs := by
  induction cs with
  | nil => exact .nil
  | cons c cs ih =>
    exact .plain (h c List.mem_cons_self) (ih fun d hd => h d (List.mem_cons_of_mem c hd))

/-- A plain name, quoted, with its colon. -/
theorem key_plain (name : List Char) (h : name.all unescaped = true) :
    Key (quote name ++ [':']) :=
  ⟨[], name, [], white_nil, body_plain (List.all_eq_true.mp h), white_nil, by simp⟩

/-- A decimal number that `Lib.Printf` prints, as wide as it is. -/
theorem digits_number {w n : Nat} (hw : 0 < w) : Digits (number 10 w n).toList := by
  refine ⟨Decimals.number_ne_nil hw, fun c hc => ?_⟩
  obtain ⟨d, hd, rfl⟩ := Decimals.mem_number hc
  have table : ∀ i : Fin 10, (digitChar i).isDigit = true := by decide
  exact table ⟨d, hd⟩

/-- A decimal is a whole number. -/
theorem whole_number (n : Nat) : Whole (number 10 1 n).toList := by
  refine ⟨digits_number Nat.one_pos, fun hhead => ?_⟩
  by_cases hn : n = 0
  · subst hn
    rw [toList_number, Nat.digits_zero]
    rfl
  · have hne : Nat.digits 10 n ≠ [] := Nat.digits_ne_nil_iff_ne_zero.mpr hn
    have hlength : 1 - (Nat.digits 10 n).length = 0 := by
      have := List.length_pos_iff.mpr hne
      omega
    rw [toList_number, hlength, List.replicate_zero, List.nil_append, List.head?_reverse,
      List.getLast?_map, List.getLast?_eq_getLast_of_ne_nil hne, Option.map_some,
      Option.some.injEq] at hhead
    have hlast := Nat.getLast_digit_ne_zero 10 hn
    have hlt : (Nat.digits 10 n).getLast hne < 10 :=
      Nat.digits_lt_base (by decide) (List.getLast_mem hne)
    have table : ∀ i : Fin 10, digitChar i = '0' → i = 0 := by decide
    have hzero := table ⟨_, hlt⟩ hhead
    exact absurd (congrArg Fin.val hzero) hlast

/-- The first text, and the others with the separator before each. -/
theorem intercalate_cons {c : Char} (x : List Char) (xs : List (List Char)) :
    [c].intercalate (x :: xs) = x ++ xs.flatMap (c :: ·) := by
  induction xs generalizing x with
  | nil => simp
  | cons y ys ih =>
    rw [List.intercalate_cons_cons, ih, List.flatMap_cons]
    simp

/-! ## Objects from left to right -/

/-- An object that is not closed yet. -/
def Opened (text : List Char) : Prop :=
  ∃ (m : List Char × List Char) (ms : List (List Char × List Char)),
    (∀ m' ∈ m :: ms, Key m'.1 ∧ Value m'.2) ∧
    text = '\x7b' :: (m.1 ++ m.2 ++ ms.flatMap fun m' => ',' :: (m'.1 ++ m'.2))

/-- The first member of an object. -/
theorem opened_member {key value : List Char} (hkey : Key key) (hvalue : Value value) :
    Opened ('\x7b' :: (key ++ value)) :=
  ⟨(key, value), [], by simpa using ⟨hkey, hvalue⟩, by simp⟩

/-- One more. -/
theorem Opened.member {text key value : List Char} (h : Opened text) (hkey : Key key)
    (hvalue : Value value) : Opened (text ++ ',' :: (key ++ value)) := by
  obtain ⟨m, ms, hmembers, rfl⟩ := h
  refine ⟨m, ms ++ [(key, value)], ?_, by simp⟩
  intro m' hm
  rw [← List.cons_append] at hm
  rcases List.mem_append.mp hm with hm | hm
  · exact hmembers m' hm
  · rw [List.mem_singleton.mp hm]
    exact ⟨hkey, hvalue⟩

/-- **An object that is closed is a value.** -/
theorem Opened.close {text : List Char} (h : Opened text) : Value (text ++ ['\x7d']) := by
  obtain ⟨m, ms, hmembers, rfl⟩ := h
  have hobject := @Value.object (m :: ms) (by simp) (fun m' hm => (hmembers m' hm).1)
    fun m' hm => (hmembers m' hm).2
  rwa [List.map_cons, intercalate_cons, List.flatMap_map] at hobject

/-! ## Arrays by lines -/

/-- **An array with a line for each element**: the last one has no comma. -/
theorem arrayOf_lines {rows : List (List Char)} {last : List Char} (h : ∀ r ∈ rows, Value r)
    (hlast : Value last) :
    ArrayOf (rows ++ [last])
      ('[' :: '\n' :: (rows.flatMap (· ++ [',', '\n']) ++ (last ++ ['\n', ']', '\n']))) := by
  have hnewline : White ['\n'] := by
    intro c hc
    rw [List.mem_singleton.mp hc]
    decide
  have hcells : List.Forall₂ Padded (rows ++ [last])
      (rows.map ('\n' :: ·) ++ ['\n' :: (last ++ ['\n'])]) := by
    refine List.rel_append ?_ (.cons ⟨['\n'], ['\n'], hnewline, hnewline, rfl⟩ .nil)
    exact List.forall₂_map_right_iff.mpr
      (List.forall₂_same.mpr fun e _ => ⟨['\n'], [], hnewline, white_nil, by simp⟩)
  refine ⟨by simp, ?_, [], _, ['\n'], white_nil, hcells, hnewline, ?_⟩
  · intro e he
    rcases List.mem_append.mp he with he | he
    · exact h e he
    · rw [List.mem_singleton.mp he]
      exact hlast
  · -- the newline behind a comma is the white space before the next element
    clear h hlast hcells
    cases rows with
    | nil => simp
    | cons r rows =>
      rw [List.map_cons, List.cons_append, intercalate_cons, List.flatMap_append, List.flatMap_map]
      induction rows generalizing r with
      | nil => simp
      | cons r' rows ih => simpa using ih r'

/-! ## No NUL -/

theorem White.noNul {cs : List Char} (h : White cs) : '\x00' ∉ cs :=
  fun hc => absurd (h _ hc) (by decide)

theorem Digits.noNul {cs : List Char} (h : Digits cs) : '\x00' ∉ cs :=
  fun hc => absurd (h.2 _ hc) (by decide)

/-- No number has a terminator in it. -/
theorem Number.noNul {cs : List Char} (h : Number cs) : '\x00' ∉ cs := by
  obtain ⟨sign, hsign, whole, fraction, exponent, hwhole, hfraction, hexponent, rfl⟩ := h
  have hsign' : '\x00' ∉ sign := by
    simp only [List.mem_cons, List.not_mem_nil, or_false] at hsign
    rcases hsign with rfl | rfl <;> decide
  have hfraction' : '\x00' ∉ fraction := by
    rcases hfraction with rfl | ⟨digits, hdigits, rfl⟩
    · exact List.not_mem_nil
    · simp [hdigits.noNul]
  have hexponent' : '\x00' ∉ exponent := by
    rcases hexponent with rfl | ⟨e, he, sign', hs, digits, hdigits, rfl⟩
    · exact List.not_mem_nil
    · simp only [List.mem_cons, List.not_mem_nil, or_false] at he hs
      rcases he with rfl | rfl <;> rcases hs with rfl | rfl | rfl <;> simp [hdigits.noNul]
  simp [hsign', hwhole.1.noNul, hfraction', hexponent']

/-- No string has one, escaped or not. -/
theorem Body.noNul {cs : List Char} (h : Body cs) : '\x00' ∉ cs := by
  induction h with
  | nil => exact List.not_mem_nil
  | @plain c cs hc _ ih =>
    have hne : '\x00' ≠ c := fun heq => absurd (heq ▸ hc) (by decide)
    simp [hne, ih]
  | @escape c cs hc _ ih =>
    have hne : '\x00' ≠ c := fun heq => absurd (heq ▸ hc) (by decide)
    simp [hne, ih]
  | @unicode hex cs _ hhex _ ih =>
    have hne : '\x00' ∉ hex := fun hmem => absurd (hhex _ hmem) (by decide)
    simp [hne, ih]

theorem quote_noNul {body : List Char} (h : Body body) : '\x00' ∉ quote body := by
  simp [quote, h.noNul]

/-- The name of a member has no terminator in it. -/
theorem Key.noNul {cs : List Char} (h : Key cs) : '\x00' ∉ cs := by
  obtain ⟨before, body, behind, hbefore, hbody, hbehind, rfl⟩ := h
  simp [hbefore.noNul, quote_noNul hbody, hbehind.noNul]

/-- Values with commas between them have no terminator. -/
theorem intercalate_noNul {texts : List (List Char)} (h : ∀ t ∈ texts, '\x00' ∉ t) :
    '\x00' ∉ [','].intercalate texts := by
  cases texts with
  | nil => exact List.not_mem_nil
  | cons t ts =>
    rw [intercalate_cons, List.mem_append, List.mem_flatMap]
    rintro (hmem | ⟨t', ht', hmem⟩)
    · exact h t List.mem_cons_self hmem
    · rcases List.mem_cons.mp hmem with heq | hmem
      · exact absurd heq (by decide)
      · exact h t' (List.mem_cons_of_mem t ht') hmem

/-- **A value has no NUL in it.** -/
theorem Value.noNul {cs : List Char} (h : Value cs) : '\x00' ∉ cs := by
  induction h with
  | @word cs hcs =>
    simp only [List.mem_cons, List.not_mem_nil, or_false] at hcs
    rcases hcs with rfl | rfl | rfl <;> decide
  | number h => exact h.noNul
  | string h => exact quote_noNul h
  | emptyArray h => simp [h.noNul]
  | array _ _ ih => simp [intercalate_noNul ih]
  | emptyObject h => simp [h.noNul]
  | object _ hkeys _ ih =>
    have hmembers := intercalate_noNul fun t ht => by
      obtain ⟨m, hm, rfl⟩ := List.mem_map.mp ht
      exact fun hmem => (List.mem_append.mp hmem).elim (hkeys m hm).noNul (ih m hm)
    simp [hmembers]
  | padded hbefore _ hbehind ih => simp [hbefore.noNul, ih, hbehind.noNul]

/-! ## How often a character is in an array -/

section

variable {c : Char}

/-- Blanks count for no other character. -/
theorem White.count {cs : List Char} (h : White cs) (hc : c ∉ [' ', '\t', '\n', '\r']) :
    cs.count c = 0 :=
  List.count_eq_zero_of_not_mem fun hmem => hc (h c hmem)

/-- A character other than the comma is counted element by element. -/
theorem count_intercalate (hc : c ≠ ',') (texts : List (List Char)) :
    ([','].intercalate texts).count c = (texts.map (List.count c)).sum := by
  cases texts with
  | nil => rfl
  | cons t ts =>
    have hrest : (ts.flatMap (',' :: ·)).count c = (ts.map (List.count c)).sum := by
      induction ts with
      | nil => rfl
      | cons t' ts ih =>
        rw [List.flatMap_cons, List.count_append, ih, List.count_cons_of_ne hc.symm, List.map_cons,
          List.sum_cons]
    rw [intercalate_cons, List.count_append, hrest, List.map_cons, List.sum_cons]

/-- **A character that is in no separator** is in the array as often as in its elements. -/
theorem ArrayOf.count {elements : List (List Char)} {text : List Char} (h : ArrayOf elements text)
    (hc : c ∉ [' ', '\t', '\n', '\r', '[', ',', ']']) :
    text.count c = (elements.map (List.count c)).sum := by
  obtain ⟨before, cells, behind, hbefore, hcells, hbehind, rfl⟩ := h.spelled
  simp only [List.mem_cons, List.not_mem_nil, or_false, not_or] at hc
  obtain ⟨hspace, htab, hnewline, hreturn, hopen, hcomma, hclose⟩ := hc
  have hwhite : c ∉ [' ', '\t', '\n', '\r'] := by
    simp [hspace, htab, hnewline, hreturn]
  have hsame : cells.map (List.count c) = elements.map (List.count c) := by
    refine map_eq_of_forall₂ hcells _ _ fun element cell hpadded => ?_
    obtain ⟨before, behind, hbefore, hbehind, rfl⟩ := hpadded
    rw [List.count_append, List.count_append, hbefore.count hwhite, hbehind.count hwhite,
      Nat.zero_add, Nat.add_zero]
  rw [List.count_append, List.count_append, hbefore.count hwhite, hbehind.count hwhite,
    List.count_cons_of_ne (Ne.symm hopen), List.count_append, count_intercalate hcomma,
    List.count_cons_of_ne (Ne.symm hclose), List.count_nil, hsame, Nat.zero_add, Nat.add_zero]

end

/-- Blanks around a value belong to it. -/
theorem Padded.value {element cell : List Char} (h : Padded element cell) (h' : Value element) :
    Value cell := by
  obtain ⟨before, behind, hbefore, hbehind, rfl⟩ := h
  exact .padded hbefore h' hbehind

/-- **Elements between brackets are a value.** -/
theorem ArrayOf.value {elements : List (List Char)} {text : List Char} (h : ArrayOf elements text) :
    Value text := by
  obtain ⟨before, cells, behind, hbefore, hcells, hbehind, rfl⟩ := h.spelled
  have hvalues : ∀ cell ∈ cells, Value cell := by
    have helements := h.values
    clear h
    induction hcells with
    | nil => exact fun _ hcell => absurd hcell List.not_mem_nil
    | @cons e cell elements cells hpadded _ ih =>
      obtain ⟨he, hrest⟩ := List.forall_mem_cons.mp helements
      exact List.forall_mem_cons.mpr ⟨hpadded.value he, ih hrest⟩
  refine .padded hbefore (.array (fun hnil => ?_) hvalues) hbehind
  rw [hnil] at hcells
  exact h.ne_nil (List.forall₂_nil_right_iff.mp hcells)

end CLIntercept.Lib.Json
