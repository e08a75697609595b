import CLIntercept.Api
import CLIntercept.Lib.CString
import CLIntercept.Lib.Tokens
import Mathlib.Algebra.Order.Ring.Int

/-!
# Names with versions

With `Emulate_cl_khr_extended_versioning` the layer makes arrays of `cl_name_version_khr` from the
strings that a device answers. Each of the three functions goes through its string twice, once to
count and once to fill the caller's array. What they have in common is `Parser`: what separates the
tokens, and what the second pass does at a token. Its law `entry_behind` is that the second pass leaves
a token where the first does, which is why the two agree.

A string is its characters up to the `NUL`; `NULL` is read as the empty one. The array is what is
written to it, in order.
-/

set_option autoImplicit false

namespace CLIntercept.Device.NameVersions

open CLIntercept.Lib

/-! ## Characters -/

/-- `isspace`, in the "C" locale. -/
def isspace (c : UInt8) : Bool := c == 32 || (9 ≤ c && c ≤ 13)

/-- `isdigit`. -/
def isdigit (c : UInt8) : Bool := 48 ≤ c && c ≤ 57

def semicolon : UInt8 := 59
def underscore : UInt8 := 95
def dot : UInt8 := 46

/-! ## Entries -/

/-- `CL_NAME_VERSION_MAX_NAME_SIZE_KHR`. -/
def maxNameSize : Nat := 64

/-- `cl_name_version_khr`. -/
structure NameVersion where
  version : Nat
  name : Bytes
  deriving DecidableEq, Repr

/-- `sizeof(cl_name_version_khr)`. -/
def nameVersionSize : Nat := 4 + maxNameSize

/-- `CL_MAKE_VERSION_KHR`. -/
def makeVersion (major minor patch : Nat) : Nat :=
  (major &&& (2 ^ 10 - 1)) <<< (10 + 12) ||| (minor &&& (2 ^ 10 - 1)) <<< 12 |||
    (patch &&& (2 ^ 12 - 1))

/-- The loop that copies a name, up to `stop`: what is in the field then, and where the string is. -/
def nameLoop (stop : UInt8 → Bool) : Nat → Bytes → Bytes → Bytes × Bytes
  | _, name, [] => (name, [])
  | nameSize, name, c :: str =>
    if stop c then (name, c :: str)
    else
      nameLoop stop (nameSize + 1) (if nameSize < maxNameSize then name.set nameSize c else name) str

/-- The field is cleared before the loop and terminated after it. -/
def readName (stop : UInt8 → Bool) (str : Bytes) : Bytes × Bytes :=
  let (name, str) := nameLoop stop 0 (List.replicate maxNameSize 0) str
  (name.set (maxNameSize - 1) 0, str)

/-- `while( isdigit(str[0]) )`, in a `cl_uint`. -/
def digitLoop : Nat → Bytes → Nat × Bytes
  | n, [] => (n, [])
  | n, c :: str =>
    if isdigit c then digitLoop ((n * 10 % uintModulus + (c.toNat - 48)) % uintModulus) str
    else (n, c :: str)

/-- `if( str[0] == '.' ) str++`. -/
def skipDot : Bytes → Bytes
  | [] => []
  | c :: str => if c = dot then str else c :: str

/-- What is read behind the name of an IL. -/
def readVersion (str : Bytes) : Nat × Bytes :=
  match str with
  | [] => (makeVersion 0 0 0, [])
  | c :: rest =>
    if c = underscore then
      let (major, str) := digitLoop 0 rest
      let str := skipDot str
      let (minor, str) := digitLoop 0 str
      let str := skipDot str
      let (patch, str) := digitLoop 0 str
      (makeVersion major minor patch, str)
    else (makeVersion 0 0 0, c :: rest)

/-! ## The three functions -/

/-- What the second pass does at a token: the entry that it writes, and where the string is then. -/
structure Parser where
  sep : Separators UInt8
  entry : Bytes → NameVersion × Bytes
  entry_behind : ∀ str, (entry str).2 = sep.behind str

/-- The first pass. -/
def countTokens (sep : Separators UInt8) (str : Bytes) : Nat :=
  match _h : str.dropWhile sep.skip with
  | [] => 0
  | c :: cs => countTokens sep (sep.behind (c :: cs)) + 1
  termination_by str.length
  decreasing_by exact Separators.length_behind_lt ‹_›

/-- The second pass. -/
def Parser.fill (P : Parser) (str : Bytes) : List NameVersion :=
  match _h : str.dropWhile P.sep.skip with
  | [] => []
  | c :: cs => (P.entry (c :: cs)).1 :: P.fill (P.entry (c :: cs)).2
  termination_by str.length
  decreasing_by
    rw [P.entry_behind]
    exact Separators.length_behind_lt ‹_›

/-- `numTokens * sizeof(cl_name_version_khr)`: `numTokens` is an `int`, the product a `size_t`. -/
def arraySize (numTokens : Nat) : Nat :=
  (Int.bmod numTokens uintModulus * nameVersionSize % sizeModulus).toNat

/-- What a call returns, what it writes to the array and what to `*param_value_size_ret`. -/
structure Result where
  errorCode : Int
  written : List NameVersion
  sizeRet : Option Nat
  deriving DecidableEq, Repr

/-- `ptr` and `sizeRet` are whether the two pointers are not `NULL`. -/
def Parser.parse (P : Parser) (originalStr : CString) (ptr : Bool) (paramValueSize : Nat)
    (sizeRet : Bool) : Result :=
  let size := arraySize (countTokens P.sep originalStr.chars)
  let (errorCode, written) :=
    if ptr then
      if paramValueSize < size then (clInvalidValue, []) else (clSuccess, P.fill originalStr.chars)
    else (clSuccess, [])
  ⟨errorCode, written, if sizeRet then some size else none⟩

/-! ## Scans -/

/-- What has been copied to a field, if it is so long. -/
def filled (copied : Bytes) : Bytes :=
  copied.take maxNameSize ++ List.replicate (maxNameSize - copied.length) 0

/-- A name as the field holds it. -/
def cutName (name : Bytes) : Bytes :=
  name.take (maxNameSize - 1) ++ List.replicate (maxNameSize - (name.take (maxNameSize - 1)).length) 0

/-- A character more is copied while there is room. -/
theorem filled_append_one (copied : Bytes) (c : UInt8) :
    (if copied.length < maxNameSize then (filled copied).set copied.length c else filled copied) =
      filled (copied ++ [c]) := by
  unfold filled
  split
  next h =>
    have htake : copied.take maxNameSize = copied := List.take_of_length_le (Nat.le_of_lt h)
    have hrest : maxNameSize - copied.length = maxNameSize - (copied ++ [c]).length + 1 := by
      rw [List.length_append, List.length_singleton]
      omega
    have htake' : (copied ++ [c]).take maxNameSize = copied ++ [c] :=
      List.take_of_length_le (by rw [List.length_append, List.length_singleton]; omega)
    rw [htake, htake', hrest, List.replicate_succ, List.set_append_right _ _ (Nat.le_refl _),
      Nat.sub_self, List.set_cons_zero, List.append_assoc]
    rfl
  next h =>
    have hge : maxNameSize ≤ copied.length := Nat.le_of_not_lt h
    rw [List.take_append_of_le_length hge, Nat.sub_eq_zero_of_le hge, Nat.sub_eq_zero_of_le]
    rw [List.length_append]
    omega

/-- The loop copies the name and stops behind it. -/
theorem nameLoop_eq (stop : UInt8 → Bool) (copied str : Bytes) :
    nameLoop stop copied.length (filled copied) str =
      (filled (copied ++ str.takeWhile (!stop ·)), str.dropWhile (!stop ·)) := by
  induction str generalizing copied with
  | nil => simp [nameLoop]
  | cons c str ih =>
    rw [nameLoop, List.takeWhile_cons, List.dropWhile_cons]
    by_cases h : stop c = true
    · simp [h]
    · have hcopied := ih (copied ++ [c])
      rw [List.length_append, List.length_singleton] at hcopied
      rw [if_neg h, filled_append_one, hcopied]
      simp [h]

/-- The last byte of a name is its terminator. -/
theorem set_filled (name : Bytes) : (filled name).set (maxNameSize - 1) 0 = cutName name := by
  unfold filled cutName
  rcases Nat.lt_or_ge name.length maxNameSize with hlt | hge
  · have htake : name.take maxNameSize = name := List.take_of_length_le (Nat.le_of_lt hlt)
    have htake' : name.take (maxNameSize - 1) = name := List.take_of_length_le (by omega)
    rw [htake, htake', List.set_append_right _ _ (by omega), List.set_replicate_self]
  · have hlength : (name.take maxNameSize).length = maxNameSize := List.length_take_of_le hge
    have hlength' : (name.take (maxNameSize - 1)).length = maxNameSize - 1 :=
      List.length_take_of_le (Nat.le_trans (Nat.sub_le _ _) hge)
    have hdrop : (name.take maxNameSize).drop (maxNameSize - 1 + 1) = [] :=
      List.drop_eq_nil_of_le (Nat.le_of_eq hlength)
    rw [Nat.sub_eq_zero_of_le hge, hlength', List.replicate_zero, List.append_nil,
      List.set_eq_take_append_cons_drop, hlength, if_pos (by decide), hdrop, List.take_take]
    rfl

/-- **A name is read up to where it stops, and cut to the field.** -/
theorem readName_eq (stop : UInt8 → Bool) (str : Bytes) :
    readName stop str = (cutName (str.takeWhile (!stop ·)), str.dropWhile (!stop ·)) := by
  have hloop := nameLoop_eq stop [] str
  rw [List.nil_append] at hloop
  have hzero : filled [] = List.replicate maxNameSize 0 := rfl
  rw [List.length_nil, hzero] at hloop
  rw [readName, hloop]
  dsimp only
  rw [set_filled]

/-- The field is full, and ends in a `NUL`. -/
theorem cutName_terminated (name : Bytes) :
    (cutName name).length = maxNameSize ∧ (cutName name)[maxNameSize - 1]? = some 0 := by
  have hle : (name.take (maxNameSize - 1)).length ≤ maxNameSize - 1 := by
    rw [List.length_take]
    exact Nat.min_le_left _ _
  unfold cutName
  generalize name.take (maxNameSize - 1) = cut at hle
  unfold maxNameSize at *
  constructor
  · rw [List.length_append, List.length_replicate]
    omega
  · rw [List.getElem?_append_right hle, List.getElem?_replicate, if_pos (by omega)]

/-! ## Versions -/

/-- One digit more. -/
def addDigit (n : Nat) (c : UInt8) : Nat := n * 10 + (c.toNat - 48)

/-- The number that digits spell. -/
def decimal (digits : Bytes) : Nat := digits.foldl addDigit 0

/-- The numbers `major.minor.patch` at the beginning of a text. What is missing is 0. -/
def versionNumbers (text : Bytes) : Nat × Nat × Nat :=
  let rest := skipDot (text.dropWhile isdigit)
  let rest' := skipDot (rest.dropWhile isdigit)
  (decimal (text.takeWhile isdigit), decimal (rest.takeWhile isdigit),
    decimal (rest'.takeWhile isdigit))

/-- Three numbers in the fields of a version, each as far as its field holds it. -/
def packed (version : Nat × Nat × Nat) : Nat :=
  version.1 % 2 ^ 10 * 2 ^ 22 + version.2.1 % 2 ^ 10 * 2 ^ 12 + version.2.2 % 2 ^ 12

/-- **The version of an IL**: the numbers behind the first underscore. -/
def ilVersion (token : Bytes) : Nat :=
  match token.dropWhile (· != underscore) with
  | [] => packed (0, 0, 0)
  | _ :: text => packed (versionNumbers text)

/-- The last digits of a number, in a `cl_uint`, do not depend on the first ones. -/
theorem foldl_addDigit_mod (digits : Bytes) (n : Nat) :
    digits.foldl addDigit (n % uintModulus) % uintModulus =
      digits.foldl addDigit n % uintModulus := by
  induction digits generalizing n with
  | nil => exact Nat.mod_mod n uintModulus
  | cons c digits ih =>
    have hdigit : addDigit (n % uintModulus) c % uintModulus = addDigit n c % uintModulus := by
      unfold addDigit
      rw [Nat.add_mod, Nat.mod_mul_mod, ← Nat.add_mod]
    rw [List.foldl_cons, List.foldl_cons, ← ih, hdigit, ih]

/-- The loop reads digits from the left, in 32 bits. -/
theorem digitLoop_eq (n : Nat) (str : Bytes) (h : n < uintModulus) :
    digitLoop n str =
      ((str.takeWhile isdigit).foldl addDigit n % uintModulus, str.dropWhile isdigit) := by
  induction str generalizing n with
  | nil => simp [digitLoop, Nat.mod_eq_of_lt h]
  | cons c str ih =>
    rw [digitLoop, List.takeWhile_cons, List.dropWhile_cons]
    by_cases hc : isdigit c = true
    · have hstep : (n * 10 % uintModulus + (c.toNat - 48)) % uintModulus =
          addDigit n c % uintModulus := Nat.mod_add_mod ..
      rw [if_pos hc, if_pos hc, if_pos hc, hstep, ih _ (Nat.mod_lt _ (by decide)),
        foldl_addDigit_mod, List.foldl_cons]
    · rw [if_neg hc, if_neg hc, if_neg hc, List.foldl_nil, Nat.mod_eq_of_lt h]

/-- The fields do not overlap. -/
theorem makeVersion_eq (major minor patch : Nat) :
    makeVersion major minor patch = packed (major, minor, patch) := by
  unfold makeVersion packed
  simp only [Nat.and_two_pow_sub_one_eq_mod]
  have hminor : (minor % 2 ^ 10) <<< 12 < 2 ^ (10 + 12) := by
    rw [Nat.shiftLeft_eq]
    omega
  have hshift : (major % 2 ^ 10) <<< (10 + 12) + (minor % 2 ^ 10) <<< 12 =
      (major % 2 ^ 10 * 2 ^ 10 + minor % 2 ^ 10) <<< 12 := by
    simp only [Nat.shiftLeft_eq]
    omega
  have hpatch : patch % 2 ^ 12 < 2 ^ 12 := Nat.mod_lt _ (by decide)
  rw [← Nat.shiftLeft_add_eq_or_of_lt hminor, hshift, ← Nat.shiftLeft_add_eq_or_of_lt hpatch,
    Nat.shiftLeft_eq]
  omega

/-- A field holds the last bits of a number, which a `cl_uint` has. -/
theorem packed_mod (major minor patch : Nat) :
    packed (major % uintModulus, minor % uintModulus, patch % uintModulus) =
      packed (major, minor, patch) := by
  unfold packed uintModulus
  simp only
  omega

/-- From zero it reads a decimal. -/
theorem digitLoop_zero (str : Bytes) :
    digitLoop 0 str = (decimal (str.takeWhile isdigit) % uintModulus, str.dropWhile isdigit) :=
  digitLoop_eq 0 str (by decide)

/-- **What is read behind a name are the numbers behind an underscore.** -/
theorem readVersion_fst (str : Bytes) :
    (readVersion str).1 = match str with
      | [] => packed (0, 0, 0)
      | c :: text => if c = underscore then packed (versionNumbers text) else packed (0, 0, 0) := by
  cases str with
  | nil => exact makeVersion_eq 0 0 0
  | cons c text =>
    rw [readVersion]
    by_cases hc : c = underscore
    · simp only [hc, if_true, digitLoop_zero]
      rw [makeVersion_eq, packed_mod]
      rfl
    · simp only [hc, if_false]
      exact makeVersion_eq 0 0 0

/-! ## Scans of a token -/

/-- What is behind a token: a space, or the end. -/
def Behind (tail : Bytes) : Prop := ∀ c, tail.head? = some c → isspace c = true

/-- The six blanks of the C library. -/
theorem isspace_iff {c : UInt8} : isspace c = true ↔ c.toNat = 32 ∨ 9 ≤ c.toNat ∧ c.toNat ≤ 13 := by
  simp [isspace, UInt8.le_iff_toNat_le, ← UInt8.toNat_inj]

/-- A blank is no digit. -/
theorem isdigit_of_isspace {c : UInt8} (h : isspace c = true) : isdigit c = false := by
  have hspace := isspace_iff.mp h
  have hbelow : ¬(48 : UInt8) ≤ c := by
    rw [UInt8.le_iff_toNat_le]
    show ¬48 ≤ c.toNat
    omega
  rw [isdigit, decide_eq_false hbelow, Bool.false_and]

/-- A blank is neither the point nor the underscore of a version. -/
theorem ne_of_isspace {c : UInt8} (h : isspace c = true) : c ≠ dot ∧ c ≠ underscore := by
  constructor <;> rintro rfl <;> exact absurd h (by decide)

section

variable {tail : Bytes}

/-- A number ends where the blank is. -/
theorem digitLoop_append (h : Behind tail) (str : Bytes) :
    digitLoop 0 (str ++ tail) = ((digitLoop 0 str).1, (digitLoop 0 str).2 ++ tail) := by
  have hdigit : ∀ c, tail.head? = some c → isdigit c = false := fun c hc =>
    isdigit_of_isspace (h c hc)
  rw [digitLoop_zero, digitLoop_zero, takeWhile_append_of_head hdigit,
    dropWhile_append_of_head hdigit]

/-- A point is skipped in front of a blank as at the end. -/
theorem skipDot_append (h : Behind tail) (str : Bytes) : skipDot (str ++ tail) = skipDot str ++ tail := by
  cases str with
  | nil =>
    cases tail with
    | nil => rfl
    | cons c cs => exact if_neg (ne_of_isspace (h c rfl)).1
  | cons c cs =>
    rw [List.cons_append, skipDot, skipDot]
    split <;> rfl

/-- A version is read without what is behind it. -/
theorem readVersion_append (h : Behind tail) (str : Bytes) :
    readVersion (str ++ tail) = ((readVersion str).1, (readVersion str).2 ++ tail) := by
  cases str with
  | nil =>
    cases tail with
    | nil => rfl
    | cons c cs => simp only [List.nil_append, readVersion, (ne_of_isspace (h c rfl)).2, if_false]
  | cons c cs =>
    rw [List.cons_append, readVersion, readVersion]
    split
    next => simp only [digitLoop_append h, skipDot_append h]
    next => rfl

end

/-- A point is skipped, no more. -/
theorem skipDot_suffix (str : Bytes) : skipDot str <:+ str := by
  cases str with
  | nil => exact List.suffix_rfl
  | cons c cs =>
    rw [skipDot]
    split
    · exact List.suffix_cons c cs
    · exact List.suffix_rfl

/-- What is left of a text behind its digits. -/
theorem digitLoop_suffix (str : Bytes) : (digitLoop 0 str).2 <:+ str := by
  rw [digitLoop_zero]
  exact List.dropWhile_suffix isdigit

/-- What is left behind a version. -/
theorem readVersion_suffix (str : Bytes) : (readVersion str).2 <:+ str := by
  cases str with
  | nil => exact List.suffix_rfl
  | cons c cs =>
    rw [readVersion]
    split
    next =>
      refine (digitLoop_suffix _).trans ((skipDot_suffix _).trans ?_)
      refine (digitLoop_suffix _).trans ((skipDot_suffix _).trans ?_)
      exact (digitLoop_suffix _).trans (List.suffix_cons c cs)
    next => exact List.suffix_rfl

/-! ## The parsers -/

/-- White space. -/
def spaces : Separators UInt8 := ⟨isspace, isspace, fun _ h => h⟩

/-- "Skip any preceding spaces or semicolons", and "Find the next semicolon". -/
def semicolons : Separators UInt8 where
  skip c := isspace c || c == semicolon
  stop c := c == semicolon
  skip_of_stop _ h := by rw [h, Bool.or_true]

def extensionEntry (str : Bytes) : NameVersion × Bytes :=
  let (name, str) := readName isspace str
  (⟨0, name⟩, str)

/-- "find the next space, underscore, or end of string", the version, and "find the next space or end
of string". -/
def ilEntry (str : Bytes) : NameVersion × Bytes :=
  let (name, str) := readName (fun c => c == underscore || isspace c) str
  let (version, str) := readVersion str
  (⟨version, name⟩, str.dropWhile fun c => !isspace c)

def builtInKernelEntry (str : Bytes) : NameVersion × Bytes :=
  let (name, str) := readName (· == semicolon) str
  (⟨0, name⟩, str)

/-- An entry is a token, cut to its array. -/
theorem extensionEntry_eq (str : Bytes) :
    extensionEntry str = (⟨0, cutName (spaces.token str)⟩, spaces.behind str) := by
  rw [extensionEntry, readName_eq]
  rfl

/-- For kernels the tokens stand between semicolons. -/
theorem builtInKernelEntry_eq (str : Bytes) :
    builtInKernelEntry str = (⟨0, cutName (semicolons.token str)⟩, semicolons.behind str) := by
  rw [builtInKernelEntry, readName_eq]
  rfl

/-- The entry of an IL: the name in front of the first underscore, and the version behind it. -/
def ilNameVersion (token : Bytes) : NameVersion :=
  ⟨ilVersion token, cutName (token.takeWhile (· != underscore))⟩

/-- The version of a token is what is read from its first underscore on. -/
theorem readVersion_token (token : Bytes) :
    (readVersion (token.dropWhile (· != underscore))).1 = ilVersion token := by
  rw [readVersion_fst, ilVersion]
  have hhead := List.head?_dropWhile_not (· != underscore) token
  cases hdrop : token.dropWhile (· != underscore) with
  | nil => rfl
  | cons c text =>
    rw [hdrop] at hhead
    have hc : c = underscore := by simpa using hhead
    exact if_pos hc

-- "SPIR-V_1.2"
example : ilVersion [83, 80, 73, 82, 45, 86, 95, 49, 46, 50] = 2 ^ 22 + 2 * 2 ^ 12 := by decide

/-- **The second pass reads an IL to the end of its token**, and nothing behind it. -/
theorem ilEntry_eq (str : Bytes) :
    ilEntry str = (ilNameVersion (spaces.token str), spaces.behind str) := by
  have hstr : spaces.token str ++ spaces.behind str = str := Separators.token_append_behind str
  have hbehind : Behind (spaces.behind str) := fun c hc => Separators.stop_of_head_behind hc
  have hclean : ∀ c ∈ spaces.token str, isspace c = false := fun c hc =>
    Separators.stop_of_mem_token hc
  generalize spaces.token str = token at *
  generalize spaces.behind str = tail at *
  subst hstr
  -- within the token only an underscore ends the name
  have hstop : ∀ c ∈ token, (!(c == underscore || isspace c)) = (c != underscore) := by
    intro c hc
    rw [hclean c hc, Bool.or_false]
    rfl
  have hhead : ∀ c, tail.head? = some c → (!(c == underscore || isspace c)) = false := by
    intro c hc
    rw [hbehind c hc, Bool.or_true]
    rfl
  have hspace : ∀ c, tail.head? = some c → (!isspace c) = false := by
    intro c hc
    rw [hbehind c hc]
    rfl
  have hrest : ∀ c ∈ (readVersion (token.dropWhile (· != underscore))).2, (!isspace c) = true := by
    intro c hc
    have hmem := (List.dropWhile_suffix _).mem ((readVersion_suffix _).mem hc)
    rw [hclean c hmem]
    rfl
  obtain ⟨htake, hdrop⟩ := scan_congr hstop
  rw [ilEntry, readName_eq, takeWhile_append_of_head hhead, dropWhile_append_of_head hhead, htake,
    hdrop]
  dsimp only
  rw [readVersion_append hbehind, readVersion_token]
  dsimp only
  rw [dropWhile_append_of_head hspace, List.dropWhile_eq_nil_iff.mpr hrest, List.nil_append]
  rfl

def extensionParser : Parser where
  sep := spaces
  entry := extensionEntry
  entry_behind str := by rw [extensionEntry_eq]

def ilParser : Parser where
  sep := spaces
  entry := ilEntry
  entry_behind str := by rw [ilEntry_eq]

def builtInKernelParser : Parser where
  sep := semicolons
  entry := builtInKernelEntry
  entry_behind str := by rw [builtInKernelEntry_eq]

def parseExtensionString : CString → Bool → Nat → Bool → Result := extensionParser.parse

def parseILString : CString → Bool → Nat → Bool → Result := ilParser.parse

def parseBuiltInKernelsString : CString → Bool → Nat → Bool → Result := builtInKernelParser.parse

/-! ## Both passes -/

/-- **The first pass counts the tokens.** -/
theorem countTokens_eq (sep : Separators UInt8) (str : Bytes) :
    countTokens sep str = (sep.tokens str).length := by
  induction hlength : str.length using Nat.strong_induction_on generalizing str with
  | _ n ih =>
    subst hlength
    rw [countTokens]
    split
    next hdrop => rw [Separators.tokens_of_nil hdrop, List.length_nil]
    next c cs hdrop =>
      rw [Separators.tokens_of_cons hdrop, List.length_cons,
        ih _ (Separators.length_behind_lt hdrop) _ rfl]

/-- **The second pass writes one entry for each token.** -/
theorem Parser.fill_eq (P : Parser) {entry : Bytes → NameVersion}
    (hentry : ∀ str, (P.entry str).1 = entry (P.sep.token str)) (str : Bytes) :
    P.fill str = (P.sep.tokens str).map entry := by
  induction hlength : str.length using Nat.strong_induction_on generalizing str with
  | _ n ih =>
    subst hlength
    rw [Parser.fill]
    split
    next hdrop => rw [Separators.tokens_of_nil hdrop, List.map_nil]
    next c cs hdrop =>
      rw [Separators.tokens_of_cons hdrop, List.map_cons, hentry, P.entry_behind,
        ih _ (Separators.length_behind_lt hdrop) _ rfl]

/-- The size is the right one exactly if the `int` has not overflown. -/
theorem arraySize_eq_iff (numTokens : Nat) :
    arraySize numTokens = numTokens * nameVersionSize ↔ numTokens < 2 ^ 31 := by
  have hlo : -(2 ^ 31) ≤ Int.bmod numTokens uintModulus := Int.le_bmod (by decide)
  have hhi : Int.bmod numTokens uintModulus < 2 ^ 31 := Int.bmod_lt (by decide)
  unfold arraySize
  by_cases h : numTokens < 2 ^ 31
  · have hcount : Int.bmod numTokens uintModulus = numTokens := by
      apply Int.bmod_eq_of_le <;> unfold uintModulus <;> omega
    refine iff_of_true ?_ h
    rw [hcount, ← Int.natCast_mul, Int.emod_eq_of_lt (Int.natCast_nonneg _), Int.toNat_natCast]
    unfold sizeModulus nameVersionSize maxNameSize
    omega
  · refine iff_of_false (fun heq => ?_) h
    generalize Int.bmod numTokens uintModulus = count at *
    -- the count is too small, or negative: then 68 would have to divide 2 ^ 64
    have hsize : count * nameVersionSize % sizeModulus =
        if 0 ≤ count then count * 68 else count * 68 + 2 ^ 64 := by
      unfold nameVersionSize maxNameSize sizeModulus
      split
      · exact Int.emod_eq_of_lt (by omega) (by omega)
      · rw [← Int.add_emod_right]
        exact Int.emod_eq_of_lt (by omega) (by omega)
    rw [hsize] at heq
    unfold nameVersionSize maxNameSize at heq
    split at heq <;> omega

/-! ## What the three report -/

/-- The three kinds of strings. -/
inductive Listing
  | extensions
  | ils
  | builtInKernels
  deriving DecidableEq, Repr

def Listing.parse : Listing → CString → Bool → Nat → Bool → Result
  | .extensions => parseExtensionString
  | .ils => parseILString
  | .builtInKernels => parseBuiltInKernelsString

/-- **The tokens of a string**: the runs without white space; of built-in kernels, what is between
semicolons, without leading white space. -/
def Listing.tokens : Listing → Bytes → List Bytes
  | .extensions, text | .ils, text => (text.splitOnP isspace).filter (!·.isEmpty)
  | .builtInKernels, text =>
    ((text.splitOnP (· == semicolon)).map (·.dropWhile isspace)).filter (!·.isEmpty)

/-- **The entry of a token**. Only those of ILs have versions. -/
def Listing.entry : Listing → Bytes → NameVersion
  | .extensions, token | .builtInKernels, token => ⟨0, cutName token⟩
  | .ils, token => ilNameVersion token

/-- **The property** of a string with these entries, whatever a call is given: what it returns, what it
writes to the array and to `*param_value_size_ret`. -/
structure Reports (entries : List NameVersion) (parse : Bool → Nat → Bool → Result) : Prop where
  sizeRet : ∀ ptr size, (parse ptr size true).sizeRet = some (entries.length * nameVersionSize)
  noSizeRet : ∀ ptr size, (parse ptr size false).sizeRet = none
  written : ∀ size sizeRet, entries.length * nameVersionSize ≤ size →
    (parse true size sizeRet).errorCode = clSuccess ∧ (parse true size sizeRet).written = entries
  refused : ∀ size sizeRet, size < entries.length * nameVersionSize →
    (parse true size sizeRet).errorCode = clInvalidValue ∧ (parse true size sizeRet).written = []
  queried : ∀ size sizeRet,
    (parse false size sizeRet).errorCode = clSuccess ∧ (parse false size sizeRet).written = []
  terminated : ∀ e ∈ entries, e.name.length = maxNameSize ∧ e.name[maxNameSize - 1]? = some 0

/-- Between the stops there are none. -/
theorem not_stop_of_mem_splitOnP {stop : UInt8 → Bool} {text piece : Bytes}
    (h : piece ∈ text.splitOnP stop) : ∀ c ∈ piece, stop c = false := by
  induction text generalizing piece with
  | nil =>
    rw [List.splitOnP_nil] at h
    rw [List.mem_singleton.mp h]
    exact fun c hc => absurd hc List.not_mem_nil
  | cons x text ih =>
    rw [List.splitOnP_cons_eq_if_modifyHead] at h
    obtain ⟨first, pieces, hsplit⟩ := List.exists_cons_of_ne_nil (List.splitOnP_ne_nil stop text)
    rw [hsplit] at ih h
    by_cases hx : stop x = true
    · rw [if_pos hx] at h
      rcases List.mem_cons.mp h with rfl | h
      · exact fun c hc => absurd hc List.not_mem_nil
      · exact ih h
    · rw [if_neg hx, List.modifyHead_cons] at h
      rcases List.mem_cons.mp h with rfl | h
      · intro c hc
        rcases List.mem_cons.mp hc with rfl | hc
        · simpa using hx
        · exact ih List.mem_cons_self c hc
      · exact ih (List.mem_cons_of_mem first h)

/-- Extensions are what stands between blanks. -/
theorem tokens_spaces (text : Bytes) :
    spaces.tokens text = (text.splitOnP isspace).filter (!·.isEmpty) := by
  have hsame : (text.splitOnP isspace).map (·.dropWhile isspace) =
      (text.splitOnP isspace).map id := by
    refine List.map_congr_left fun piece hpiece => ?_
    refine List.dropWhile_eq_self_iff.mpr fun hpos => ?_
    rw [not_stop_of_mem_splitOnP hpiece _ (List.getElem_mem hpos)]
    exact Bool.false_ne_true
  rw [List.map_id] at hsame
  rw [Separators.tokens_eq_pieces, Separators.pieces]
  show ((text.splitOnP isspace).map (·.dropWhile isspace)).filter _ = _
  rw [hsame]

/-- Kernels are what stands between semicolons, without blanks in front. -/
theorem tokens_semicolons (text : Bytes) :
    semicolons.tokens text =
      ((text.splitOnP (· == semicolon)).map (·.dropWhile isspace)).filter (!·.isEmpty) := by
  rw [Separators.tokens_eq_pieces, Separators.pieces]
  refine congrArg _ (List.map_congr_left fun piece hpiece => ?_)
  refine (scan_congr fun c hc => ?_).2
  have hno : (c == semicolon) = false := not_stop_of_mem_splitOnP hpiece c hc
  show (isspace c || c == semicolon) = isspace c
  rw [hno, Bool.or_false]

/-- What a parser makes of a string, by its tokens. -/
theorem Parser.parse_eq (P : Parser) {entry : Bytes → NameVersion}
    (hentry : ∀ str, (P.entry str).1 = entry (P.sep.token str)) (str : CString) (ptr : Bool)
    (size : Nat) (sizeRet : Bool) :
    P.parse str ptr size sizeRet =
      let entries := (P.sep.tokens str.chars).map entry
      let needed := arraySize entries.length
      { errorCode := if ptr ∧ size < needed then clInvalidValue else clSuccess
        written := if ptr ∧ ¬size < needed then entries else []
        sizeRet := if sizeRet then some needed else none } := by
  unfold Parser.parse
  rw [countTokens_eq, P.fill_eq hentry]
  dsimp only
  rw [List.length_map]
  cases ptr with
  | false => simp
  | true =>
    by_cases h : size < arraySize (P.sep.tokens str.chars).length
    · simp [h]
    · simp [h]

/-- **When a parser reports what it should**: if its count has not overflown. -/
theorem Parser.reports_iff_lt (P : Parser) {entry : Bytes → NameVersion}
    (hentry : ∀ str, (P.entry str).1 = entry (P.sep.token str))
    (hterminated : ∀ token, (entry token).name.length = maxNameSize ∧
      (entry token).name[maxNameSize - 1]? = some 0) (str : CString) :
    Reports ((P.sep.tokens str.chars).map entry) (P.parse str) ↔
      (P.sep.tokens str.chars).length < 2 ^ 31 := by
  have hlength : ((P.sep.tokens str.chars).map entry).length = (P.sep.tokens str.chars).length :=
    List.length_map ..
  rw [← hlength, ← arraySize_eq_iff]
  have hparse := P.parse_eq hentry str
  dsimp only at hparse
  generalize hentries : (P.sep.tokens str.chars).map entry = entries at *
  constructor
  · intro h
    have hsize := h.sizeRet false 0
    rw [hparse] at hsize
    simpa using hsize
  · intro hsize
    rw [hsize] at hparse
    constructor
    · intro ptr size
      rw [hparse]
      rfl
    · intro ptr size
      rw [hparse]
      rfl
    · intro size sizeRet hle
      rw [hparse]
      simp [Nat.not_lt.mpr hle]
    · intro size sizeRet hlt
      rw [hparse]
      simp [hlt]
    · intro size sizeRet
      rw [hparse]
      simp
    · intro e he
      rw [← hentries] at he
      obtain ⟨token, _, rfl⟩ := List.mem_map.mp he
      exact hterminated token

/-- **The three functions report exactly the tokens of their string**, as long as their number is an
`int`. -/
theorem reportsTokens_iff (listing : Listing) (str : CString) :
    Reports ((listing.tokens str.chars).map listing.entry) (listing.parse str) ↔
      (listing.tokens str.chars).length < 2 ^ 31 := by
  cases listing with
  | extensions =>
    have h := @Parser.reports_iff_lt extensionParser (Listing.entry .extensions)
      (fun str => congrArg Prod.fst (extensionEntry_eq str)) cutName_terminated str
    simp only [extensionParser, tokens_spaces] at h
    exact h
  | ils =>
    have h := @Parser.reports_iff_lt ilParser (Listing.entry .ils)
      (fun str => congrArg Prod.fst (ilEntry_eq str)) (fun _ => cutName_terminated _) str
    simp only [ilParser, tokens_spaces] at h
    exact h
  | builtInKernels =>
    have h := @Parser.reports_iff_lt builtInKernelParser (Listing.entry .builtInKernels)
      (fun str => congrArg Prod.fst (builtInKernelEntry_eq str)) cutName_terminated str
    simp only [builtInKernelParser, tokens_semicolons] at h
    exact h

/-- `n` extensions with the name "a". -/
def manyTokens : Nat → Bytes
  | 0 => []
  | n + 1 => 97 :: 32 :: manyTokens n

/-- As many tokens as one likes. -/
theorem tokens_manyTokens (n : Nat) :
    (Listing.tokens .extensions (manyTokens n)).length = n := by
  induction n with
  | zero => rfl
  | succ n ih =>
    have hname : ∀ c ∈ ([97] : Bytes), isspace c = false :=
      List.forall_mem_singleton.mpr (by decide)
    have hspace : isspace 32 = true := by decide
    have hsplit : (manyTokens (n + 1)).splitOnP isspace =
        [97] :: (manyTokens n).splitOnP isspace :=
      List.splitOnP_append_cons_of_forall_mem hname 32 hspace (manyTokens n)
    rw [Listing.tokens, hsplit, List.filter_cons, if_pos (by decide), List.length_cons]
    exact congrArg (· + 1) ih

theorem zero_notMem_manyTokens (n : Nat) : 0 ∉ manyTokens n := by
  induction n with
  | zero => exact List.not_mem_nil
  | succ n ih =>
    intro h
    rcases List.mem_cons.mp h with h | h
    · exact absurd h (by decide)
    · rcases List.mem_cons.mp h with h | h
      · exact absurd h (by decide)
      · exact ih h

/-- With 2^31 extensions the count overflows, and the size that is reported is not that of so many
entries. -/
theorem manyTokens_overflow :
    ¬Reports ((Listing.tokens .extensions (manyTokens (2 ^ 31))).map (Listing.entry .extensions))
      (Listing.parse .extensions ⟨manyTokens (2 ^ 31), zero_notMem_manyTokens _⟩) := by
  intro h
  have hcount : countTokens spaces (manyTokens (2 ^ 31)) = 2 ^ 31 := by
    rw [countTokens_eq, tokens_spaces]
    exact tokens_manyTokens (2 ^ 31)
  have hsize : some (arraySize (countTokens spaces (manyTokens (2 ^ 31)))) = _ := h.sizeRet false 0
  rw [hcount, List.length_map, tokens_manyTokens, Option.some_inj, arraySize_eq_iff] at hsize
  exact Nat.lt_irrefl _ hsize

end CLIntercept.Device.NameVersions
