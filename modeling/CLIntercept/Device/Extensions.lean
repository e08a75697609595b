import CLIntercept.Lib.Text

/-!
# Device extensions

`checkDeviceForExtension` looks for a name among the extensions of a device with a loop of `strstr`.
It takes an occurrence for an extension if it begins where the search began or behind a space, and
ends at a space or at the end. After another occurrence the search goes on behind it, in the middle
of a token: what is left of the token is then searched as if it were one of its own.

So a token is taken for the name if it is the name, or if its leftmost occurrences of the name are
followed by one more that ends it (`Doubled`). No token is passed over, as the name has no space.
-/

set_option autoImplicit false

namespace CLIntercept.Device

open CLIntercept.Lib

/-! ## The search -/

/-- `c_str`. -/
def cStr (str : List Char) : List Char := str.takeWhile (· ≠ '\x00')

/-- `strstr`: what is in front of the first occurrence, and what begins there. -/
def strstr (start extensionName : List Char) : Option (List Char × List Char) :=
  (fromFirst? extensionName start).map fun found =>
    (start.take (start.length - found.length), found)

/-- The loop, for a number of rounds. `none` if these do not suffice. -/
def searchExtension (extensionName : List Char) : Nat → List Char → Option Bool
  | 0, _ => none
  | rounds + 1, start =>
    match strstr start extensionName with
    | none => some false
    | some (before, found) =>
      let terminator := found.drop extensionName.length
      if (before = [] || before.getLast? = some ' ') &&
          (terminator.head? = some ' ' || terminator = []) then
        some true
      else searchExtension extensionName rounds terminator

/-- `deviceExtensions` is what the device answers, `none` if it fails. A name that is `NULL` or has a
space is an assertion, and no extension. -/
def checkDeviceForExtension (extensionName : Option (List Char))
    (deviceExtensions : Option (List Char)) : Option Bool :=
  match extensionName with
  | none => some false
  | some extensionName =>
    if ' ' ∈ extensionName then some false
    else match deviceExtensions with
      | none => some false
      | some str => searchExtension extensionName ((cStr str).length + 1) (cStr str)

/-! ## The tokens that are taken for the name -/

section

variable (name : List Char)

/-- A token is cut at the leftmost occurrences of the name, one behind the other, and ends in one
more that directly follows the last of them. -/
def Doubled (token : List Char) : Prop :=
  ∃ pieces : List (List Char), pieces ≠ [] ∧ (∀ piece ∈ pieces, FirstAt name piece) ∧
    token = pieces.flatMap (· ++ name) ++ name

/-- A token is taken for the name. -/
def TakenFor (token : List Char) : Prop := token = name ∨ Doubled name token

/-- A token of a text is taken for the name. -/
def Found (text : List Char) : Prop := ∃ token ∈ words text, TakenFor name token

end

variable {name : List Char}

/-- Behind an occurrence the rest of a token counts as one. -/
theorem takenFor_append {before rest : List Char} (hname : name ≠ []) (hfirst : FirstAt name before)
    (hmore : ¬ (before = [] ∧ rest = [])) :
    TakenFor name (before ++ (name ++ rest)) ↔ TakenFor name rest := by
  have hfound : ∀ piece behind, FirstAt name piece →
      fromFirst? name (piece ++ (name ++ behind)) = some (name ++ behind) := fun piece behind h =>
    (fromFirst?_eq_some_iff hname).mpr ⟨piece, rfl, List.prefix_append name behind, h⟩
  constructor
  · rintro (h | ⟨pieces, hne, hpieces, htoken⟩)
    · have hlength := congrArg List.length h
      simp only [List.length_append] at hlength
      exact absurd ⟨List.length_eq_zero_iff.mp (by omega), List.length_eq_zero_iff.mp (by omega)⟩
        hmore
    · cases pieces with
      | nil => exact absurd rfl hne
      | cons piece pieces =>
        rw [List.flatMap_cons, List.append_assoc, List.append_assoc] at htoken
        have hsame := congrArg (fromFirst? name) htoken
        rw [hfound before rest hfirst,
          hfound piece _ (hpieces piece List.mem_cons_self)] at hsame
        have hrest := List.append_cancel_left (Option.some.inj hsame)
        cases pieces with
        | nil => exact .inl hrest
        | cons next pieces =>
          exact .inr ⟨next :: pieces, nofun,
            fun p hp => hpieces p (List.mem_cons_of_mem _ hp), hrest⟩
  · rintro (rfl | ⟨pieces, -, hpieces, rfl⟩)
    · exact .inr ⟨[before], nofun, fun p hp => List.mem_singleton.mp hp ▸ hfirst, by simp⟩
    · refine .inr ⟨before :: pieces, nofun, fun p hp => ?_, by simp⟩
      rcases List.mem_cons.mp hp with rfl | hp
      · exact hfirst
      · exact hpieces p hp

theorem TakenFor.contains {token : List Char} (h : TakenFor name token) : name <:+: token := by
  rcases h with rfl | ⟨pieces, -, -, rfl⟩
  · exact List.infix_rfl
  · exact (List.suffix_append _ name).isInfix

/-! ## Tokens of a text -/

theorem found_append_space (xs ys : List Char) :
    Found name (xs ++ ' ' :: ys) ↔ Found name xs ∨ Found name ys := by
  simp only [Found, words_append_space, List.mem_append, or_and_right, exists_or]

theorem found_of_notMem (hname : name ≠ []) {xs : List Char} (h : ' ' ∉ xs) :
    Found name xs ↔ TakenFor name xs := by
  by_cases hne : xs = []
  · subst hne
    refine iff_of_false ?_ fun htaken => hname (List.infix_nil.mp htaken.contains)
    rintro ⟨token, htoken, -⟩
    simp [words] at htoken
  · rw [Found, words_of_notMem h hne]
    simp

theorem Found.contains {text : List Char} (h : Found name text) : name <:+: text := by
  obtain ⟨token, htoken, htaken⟩ := h
  exact htaken.contains.trans (infix_of_mem_words htoken)

/-- What is in front of the last space of `before` does not matter. -/
theorem found_lastToken {before : List Char} (hfirst : FirstAt name before) : ∃ part : List Char,
    ' ' ∉ part ∧ FirstAt name part ∧
      ((before = [] ∨ before.getLast? = some ' ') ↔ part = []) ∧
      ∀ behind, Found name (before ++ behind) ↔ Found name (part ++ behind) := by
  by_cases hspace : ' ' ∈ before
  · obtain ⟨part, front, hreverse, hpart⟩ := List.eq_append_cons_of_mem (List.mem_reverse.mpr hspace)
    obtain rfl : before = front.reverse ++ ' ' :: part.reverse := by
      rw [← List.reverse_reverse before, hreverse]
      simp
    refine ⟨part.reverse, by simpa using hpart,
      hfirst.of_suffix ((List.suffix_cons ' ' _).trans (List.suffix_append _ _)), ?_, fun behind => ?_⟩
    · cases part with
      | nil => simp
      | cons c part =>
        have hc : c ≠ ' ' := fun hc => hpart (hc ▸ List.mem_cons_self)
        rw [List.reverse_cons, ← List.cons_append, ← List.append_assoc, List.getLast?_concat]
        simp [hc]
    · rw [List.append_assoc, List.cons_append, found_append_space]
      refine or_iff_right fun hfound => ?_
      exact hfirst.notInfix (hfound.contains.trans List.infix_append_left)
  · refine ⟨before, hspace, hfirst, or_iff_left fun hlast => ?_, fun _ => .rfl⟩
    exact hspace (List.mem_of_getLast? hlast)

/-- Nor does what is behind the first space of `rest`. -/
theorem found_firstToken (hname : name ≠ []) (rest : List Char) : ∃ (part : List Char) (later : Prop),
    ' ' ∉ part ∧ ((rest.head? = some ' ' ∨ rest = []) ↔ part = []) ∧
      ∀ front, ' ' ∉ front → (Found name (front ++ rest) ↔ TakenFor name (front ++ part) ∨ later) := by
  by_cases hspace : ' ' ∈ rest
  · obtain ⟨part, tail, rfl, hpart⟩ := List.eq_append_cons_of_mem hspace
    refine ⟨part, Found name tail, hpart, ?_, fun front hfront => ?_⟩
    · cases part with
      | nil => simp
      | cons c part =>
        have hc : c ≠ ' ' := fun hc => hpart (hc ▸ List.mem_cons_self)
        simp [hc]
    · rw [← List.append_assoc, found_append_space, found_of_notMem hname (by simp [hfront, hpart])]
  · refine ⟨rest, False, hspace, or_iff_right fun hhead => ?_, fun front hfront => ?_⟩
    · exact hspace (List.mem_of_head? hhead)
    · rw [found_of_notMem hname (by simp [hfront, hspace]), or_false]

/-! ## What the search returns -/

/-- The search in one text: its first occurrence of the name, or what is behind it. -/
theorem found_split (hname : name ≠ []) (hspace : ' ' ∉ name) {before rest : List Char}
    (hfirst : FirstAt name before) :
    Found name (before ++ (name ++ rest)) ↔
      ((before = [] ∨ before.getLast? = some ' ') ∧ (rest.head? = some ' ' ∨ rest = [])) ∨
        Found name rest := by
  obtain ⟨front, hfront, hfirst', hbefore, hsame⟩ := found_lastToken hfirst
  obtain ⟨back, later, -, hrest, hlater⟩ := found_firstToken hname rest
  have hwhole := hlater (front ++ name) (by simp [hfront, hspace])
  have hbehind := hlater [] List.not_mem_nil
  rw [hsame, ← List.append_assoc, hwhole, hbefore, hrest, List.append_assoc, List.nil_append] at *
  by_cases hmore : front = [] ∧ back = []
  · obtain ⟨rfl, rfl⟩ := hmore
    exact iff_of_true (.inl (.inl (by simp))) (.inl ⟨rfl, rfl⟩)
  · rw [takenFor_append hname hfirst' hmore, hbehind]
    exact (or_iff_right hmore).symm

theorem strstr_eq_some {start before found : List Char} (hname : name ≠ [])
    (h : strstr start name = some (before, found)) :
    start = before ++ (name ++ found.drop name.length) ∧ FirstAt name before := by
  obtain ⟨found', hfound, hpair⟩ := Option.map_eq_some_iff.mp h
  obtain ⟨before', rfl, ⟨rest, rfl⟩, hfirst⟩ := (fromFirst?_eq_some_iff hname).mp hfound
  have hlength : (before' ++ (name ++ rest)).length - (name ++ rest).length = before'.length := by
    rw [List.length_append, Nat.add_sub_cancel]
  rw [hlength, List.take_left] at hpair
  cases hpair
  exact ⟨by rw [List.drop_left], hfirst⟩

/-- **The search finds what is taken for the name**, and ends. -/
theorem searchExtension_eq (hname : name ≠ []) (hspace : ' ' ∉ name) (rounds : Nat) :
    ∀ start : List Char, start.length < rounds → ∃ supported,
      searchExtension name rounds start = some supported ∧ (supported = true ↔ Found name start) := by
  induction rounds with
  | zero => exact fun _ h => absurd h (Nat.not_lt_zero _)
  | succ rounds ih =>
    intro start hrounds
    unfold searchExtension
    cases hstrstr : strstr start name with
    | none =>
      have hnone := notInfix_of_fromFirst? (Option.map_eq_none_iff.mp hstrstr)
      exact ⟨false, rfl, iff_of_false Bool.false_ne_true fun h => hnone h.contains⟩
    | some result =>
      obtain ⟨before, found⟩ := result
      obtain ⟨hstart, hfirst⟩ := strstr_eq_some hname hstrstr
      have hsplit := @found_split _ hname hspace _ (found.drop name.length) hfirst
      rw [← hstart] at hsplit
      dsimp only
      split
      · next haccept =>
        simp only [Bool.and_eq_true, Bool.or_eq_true, decide_eq_true_eq] at haccept
        exact ⟨true, rfl, iff_of_true rfl (hsplit.mpr (.inl haccept))⟩
      · next haccept =>
        simp only [Bool.and_eq_true, Bool.or_eq_true, decide_eq_true_eq] at haccept
        have hshorter : (found.drop name.length).length < rounds := by
          have hlength := congrArg List.length hstart
          have hpos := List.length_pos_iff.mpr hname
          simp only [List.length_append] at hlength
          omega
        obtain ⟨supported, hresult, hiff⟩ := ih _ hshorter
        exact ⟨supported, hresult, hiff.trans ((or_iff_right haccept).symm.trans hsplit.symm)⟩

/-! ## What the search is to report -/

/-- **What the check must do**: return, and return whether the name is a token. -/
def ReportsToken (name str : List Char) : Prop :=
  ∃ supported, checkDeviceForExtension (some name) (some str) = some supported ∧
    (supported = true ↔ name ∈ words (cStr str))

/-- **When the check reports the tokens**: the name is one, or no token is doubled. -/
theorem reportsToken_iff (hname : name ≠ []) (hspace : ' ' ∉ name) (str : List Char) :
    ReportsToken name str ↔
      name ∈ words (cStr str) ∨ ∀ token ∈ words (cStr str), ¬ Doubled name token := by
  obtain ⟨supported, hresult, hfound⟩ :=
    searchExtension_eq hname hspace ((cStr str).length + 1) (cStr str) (Nat.lt_succ_self _)
  have hcheck : checkDeviceForExtension (some name) (some str) = some supported := by
    rw [← hresult, checkDeviceForExtension, if_neg hspace]
  have hreports : ReportsToken name str ↔ (Found name (cStr str) ↔ name ∈ words (cStr str)) := by
    rw [← hfound]
    constructor
    · rintro ⟨supported', hsame, hiff⟩
      rw [hcheck] at hsame
      cases hsame
      exact hiff
    · exact fun hiff => ⟨supported, hcheck, hiff⟩
  rw [hreports]
  by_cases htoken : name ∈ words (cStr str)
  · exact iff_of_true (iff_of_true ⟨name, htoken, .inl rfl⟩ htoken) (.inl htoken)
  · rw [iff_false_right htoken, or_iff_right htoken]
    constructor
    · intro hnone token hmem hdoubled
      exact hnone ⟨token, hmem, .inr hdoubled⟩
    · rintro hnone ⟨token, hmem, rfl | hdoubled⟩
      · exact htoken hmem
      · exact hnone token hmem hdoubled

/-- An extension that follows a longer one. -/
theorem reportsToken_fp16 : ReportsToken "cl_khr_fp16".toList "cl_khr_fp16x cl_khr_fp16".toList :=
  (reportsToken_iff (by decide) (by decide) _).mpr (.inl (by decide))

/-- A name that is written twice in one token is reported. -/
theorem doubled_is_reported :
    ¬ ReportsToken "cl_khr_fp16".toList "cl_khr_fp16cl_khr_fp16".toList := by
  rintro ⟨supported, hresult, hiff⟩
  have htrue : checkDeviceForExtension (some "cl_khr_fp16".toList)
      (some "cl_khr_fp16cl_khr_fp16".toList) = some true := by decide
  have htoken := hiff.mp (Option.some.inj (hresult.symm.trans htrue))
  exact absurd htoken (by decide)

end CLIntercept.Device
