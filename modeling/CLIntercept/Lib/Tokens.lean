import Mathlib.Data.List.Basic
import Mathlib.Data.List.TakeWhile

/-!
# Tokens of a text

A scanner that skips the characters in front of a token and then takes those up to the next one that
stops it. What stops a token is skipped in front of the next, so the scanner gets on. Its tokens are
what is left of the pieces between the stops when what is skipped is taken from their fronts, without
the empty ones: `tokens_eq_pieces`.

A token is followed by a stop or by the end, so a scan that no stop passes reads the same of the token
as of the text: `takeWhile_append_of_head` and `dropWhile_append_of_head`.
-/

set_option autoImplicit false

namespace CLIntercept.Lib

variable {α : Type*}

/-! ## Scans of a part -/

section

variable {p : α → Bool} {part behind : List α}

/-- What stands behind a stop changes nothing of what is before it. -/
theorem takeWhile_append_of_head (h : ∀ c, behind.head? = some c → p c = false) :
    (part ++ behind).takeWhile p = part.takeWhile p := by
  rw [List.takeWhile_append]
  split
  next hall =>
    have hpart : part.takeWhile p = part :=
      (List.takeWhile_prefix p).eq_of_length hall
    cases behind with
    | nil => rw [List.takeWhile_nil, List.append_nil, hpart]
    | cons c cs => rw [List.takeWhile_cons, h c rfl, hpart]; simp
  next => rfl

/-- What stands behind a stop stays when the part before it is dropped. -/
theorem dropWhile_append_of_head (h : ∀ c, behind.head? = some c → p c = false) :
    (part ++ behind).dropWhile p = part.dropWhile p ++ behind := by
  rw [List.dropWhile_append]
  split
  next hempty =>
    rw [List.isEmpty_iff.mp hempty]
    cases behind with
    | nil => rfl
    | cons c cs => rw [List.dropWhile_cons, h c rfl]; simp
  next => rfl

/-- Scans that tell the same characters of a text apart. -/
theorem scan_congr {q : α → Bool} {text : List α} (h : ∀ c ∈ text, p c = q c) :
    text.takeWhile p = text.takeWhile q ∧ text.dropWhile p = text.dropWhile q := by
  induction text with
  | nil => exact ⟨rfl, rfl⟩
  | cons c cs ih =>
    obtain ⟨htake, hdrop⟩ := ih fun d hd => h d (List.mem_cons_of_mem c hd)
    simp only [List.takeWhile_cons, List.dropWhile_cons, h c List.mem_cons_self, htake, hdrop,
      and_self]

end

/-! ## Tokens -/

/-- How a text is taken apart. -/
structure Separators (α : Type*) where
  skip : α → Bool
  stop : α → Bool
  skip_of_stop : ∀ c, stop c = true → skip c = true

namespace Separators

variable (sep : Separators α)

/-- The token that a text begins with. -/
def token (text : List α) : List α := text.takeWhile fun c => !sep.stop c

/-- What is behind it. -/
def behind (text : List α) : List α := text.dropWhile fun c => !sep.stop c

variable {sep}

/-- A text is its first token and what is behind. -/
theorem token_append_behind (text : List α) : sep.token text ++ sep.behind text = text :=
  List.takeWhile_append_dropWhile

/-- A token has no stop in it. -/
theorem stop_of_mem_token {text : List α} {c : α} (h : c ∈ sep.token text) : sep.stop c = false := by
  have := List.mem_takeWhile_imp h
  simpa using this

/-- What is behind a token begins with what stops it. -/
theorem stop_of_head_behind {text : List α} {c : α} (h : (sep.behind text).head? = some c) :
    sep.stop c = true := by
  have hnot := List.head?_dropWhile_not (fun c => !sep.stop c) text
  simp only [behind] at h
  rw [h] at hnot
  simpa using hnot

/-- The character that a scan has come to is not one to be skipped. -/
theorem skip_of_dropWhile {text cs : List α} {c : α} (h : text.dropWhile sep.skip = c :: cs) :
    sep.skip c = false := by
  have hnot := List.head?_dropWhile_not sep.skip text
  rw [h] at hnot
  simpa using hnot

theorem stop_of_skip {c : α} (h : sep.skip c = false) : sep.stop c = false := by
  cases hstop : sep.stop c with
  | false => rfl
  | true => rw [sep.skip_of_stop c hstop] at h; cases h

/-- The scanner gets on. -/
theorem length_behind_lt {text cs : List α} {c : α} (h : text.dropWhile sep.skip = c :: cs) :
    (sep.behind (c :: cs)).length < text.length := by
  have hstop := stop_of_skip (skip_of_dropWhile h)
  have hle : (c :: cs).length ≤ text.length := h ▸ List.length_dropWhile_le sep.skip text
  rw [behind, List.dropWhile_cons, hstop]
  have hlt : (cs.dropWhile fun c => !sep.stop c).length ≤ cs.length :=
    List.length_dropWhile_le _ cs
  simp only [Bool.not_false, if_true]
  simp only [List.length_cons] at hle
  omega

variable (sep) in
/-- **The tokens of a text**, as the scanner finds them. -/
def tokens (text : List α) : List (List α) :=
  match _h : text.dropWhile sep.skip with
  | [] => []
  | c :: cs => sep.token (c :: cs) :: tokens (sep.behind (c :: cs))
  termination_by text.length
  decreasing_by exact length_behind_lt ‹_›

/-- A text of separators has no tokens. -/
theorem tokens_of_nil {text : List α} (h : text.dropWhile sep.skip = []) : sep.tokens text = [] := by
  rw [tokens]
  split
  next => rfl
  next hcons => rw [h] at hcons; cases hcons

/-- The first token, and those of the rest. -/
theorem tokens_of_cons {text cs : List α} {c : α} (h : text.dropWhile sep.skip = c :: cs) :
    sep.tokens text = sep.token (c :: cs) :: sep.tokens (sep.behind (c :: cs)) := by
  rw [tokens]
  split
  next hnil => rw [h] at hnil; cases hnil
  next hcons =>
    rw [h] at hcons
    injection hcons with hc hcs
    rw [hc, hcs]

/-! ## Pieces -/

variable (sep) in
/-- The pieces between the stops, without what is skipped in front of them and without the empty
ones. -/
def pieces (text : List α) : List (List α) :=
  ((text.splitOnP sep.stop).map (·.dropWhile sep.skip)).filter (!·.isEmpty)

theorem pieces_nil : sep.pieces [] = [] := rfl

theorem pieces_cons_of_stop {c : α} (h : sep.stop c = true) (cs : List α) :
    sep.pieces (c :: cs) = sep.pieces cs := by
  rw [pieces, List.splitOnP_cons_eq_if_modifyHead, if_pos h]
  simp [pieces]

/-- What is skipped makes no piece. -/
theorem pieces_cons_of_skip {c : α} (h : sep.skip c = true) (cs : List α) :
    sep.pieces (c :: cs) = sep.pieces cs := by
  by_cases hstop : sep.stop c = true
  · exact pieces_cons_of_stop hstop cs
  · rw [pieces, pieces, List.splitOnP_cons_eq_if_modifyHead, if_neg hstop]
    obtain ⟨piece, pieces', hsplit⟩ := List.exists_cons_of_ne_nil (List.splitOnP_ne_nil sep.stop cs)
    rw [hsplit]
    simp [List.modifyHead, h]

/-- Separators in front make no piece. -/
theorem pieces_dropWhile (text : List α) : sep.pieces (text.dropWhile sep.skip) = sep.pieces text := by
  induction text with
  | nil => rfl
  | cons c cs ih =>
    by_cases h : sep.skip c = true
    · rw [List.dropWhile_cons, if_pos h, ih, pieces_cons_of_skip h]
    · rw [List.dropWhile_cons, if_neg h]

/-- The first piece of a text that begins with one. -/
theorem pieces_cons {c : α} (h : sep.skip c = false) (cs : List α) :
    sep.pieces (c :: cs) = sep.token (c :: cs) :: sep.pieces (sep.behind (c :: cs)) := by
  have hstop := stop_of_skip h
  have htoken : ∃ ds, sep.token (c :: cs) = c :: ds := by
    rw [token, List.takeWhile_cons, hstop]
    exact ⟨_, rfl⟩
  obtain ⟨ds, hds⟩ := htoken
  have hclean : ∀ x ∈ sep.token (c :: cs), sep.stop x = false := fun x hx => stop_of_mem_token hx
  have hkept : (sep.token (c :: cs)).dropWhile sep.skip = sep.token (c :: cs) := by
    rw [hds, List.dropWhile_cons, h]
    rfl
  have hsplit : sep.pieces (c :: cs) =
      sep.pieces (sep.token (c :: cs) ++ sep.behind (c :: cs)) := by rw [token_append_behind]
  rw [hsplit]
  cases hbehind : sep.behind (c :: cs) with
  | nil =>
    rw [pieces_nil, pieces, List.append_nil, List.splitOnP_eq_singleton hclean, List.map_cons, hkept]
    simp [hds]
  | cons x xs =>
    have hx : sep.stop x = true := stop_of_head_behind (by rw [hbehind]; rfl)
    rw [pieces_cons_of_stop hx, pieces,
      List.splitOnP_append_cons_of_forall_mem hclean x hx, List.map_cons, hkept]
    simp [pieces, hds]

/-- **The scanner finds the pieces.** -/
theorem tokens_eq_pieces (text : List α) : sep.tokens text = sep.pieces text := by
  induction hlength : text.length using Nat.strong_induction_on generalizing text with
  | _ n ih =>
    subst hlength
    cases hdrop : text.dropWhile sep.skip with
    | nil => rw [tokens_of_nil hdrop, ← pieces_dropWhile, hdrop, pieces_nil]
    | cons c cs =>
      rw [tokens_of_cons hdrop, ← pieces_dropWhile, hdrop, pieces_cons (skip_of_dropWhile hdrop),
        ih _ (length_behind_lt hdrop) _ rfl]

end Separators

end CLIntercept.Lib
