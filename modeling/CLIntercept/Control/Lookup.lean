import CLIntercept.Api
import CLIntercept.Lib.CString
import CLIntercept.Lib.LineReader
import CLIntercept.Lib.Text
import Mathlib.Data.List.DropRight

/-!
# Where a control comes from

`GetControl` on Linux: an environment variable, a file in the home directory, a file of the system.
One slot serves them all, of 32 bits or of 256 characters, and what kind a control is of is told from
its size. The variable is read by `atoi` and a file by a stream.

A number that needs more than 32 bits is not what the control becomes, nor is a text with a NUL what
is left of it; and of a file that can be opened but not read to its end, as a directory is, the loop
never sees the end. `looksUp_iff` says when none of this happens.

The standard leaves open what `atoi` gives for a number that is no `int`; it is a parameter here.
-/

set_option autoImplicit false

namespace CLIntercept.Control

open CLIntercept.Lib

/-! ## Numbers -/

def isSpace (c : UInt8) : Bool := c = 0x20 || (0x09 ≤ c && c ≤ 0x0D)

def isDigit (c : UInt8) : Bool := 0x30 ≤ c && c ≤ 0x39

def magnitude (digits : Bytes) : Nat := digits.foldl (fun n c => 10 * n + (c.toNat - 0x30)) 0

/-- The sign of a number, and what is behind it. -/
def sign : Bytes → Bool × Bytes
  | 0x2D :: text => (true, text)
  | 0x2B :: text => (false, text)
  | text => (false, text)

/-- The number that a text begins with, behind white space. -/
def leading (text : Bytes) : Bool × Nat :=
  let signed := sign (text.dropWhile isSpace)
  (signed.1, magnitude (signed.2.takeWhile isDigit))

/-- `atoi`, as an `unsigned int`. -/
def atoi (beyond : Int → UInt32) (text : Bytes) : UInt32 :=
  let number : Int := if (leading text).1 then -(leading text).2 else (leading text).2
  if -2 ^ 31 ≤ number ∧ number < 2 ^ 31 then UInt32.ofInt number else beyond number

/-- `>>` into an `unsigned int`. A text that is no number leaves the zero that was there, or stores
one. -/
def extract (text : Bytes) : UInt32 :=
  if 2 ^ 32 ≤ (leading text).2 then 0xffffffff
  else if (leading text).1 then -UInt32.ofNat (leading text).2
  else UInt32.ofNat (leading text).2

/-! ## Lines -/

def newline : UInt8 := 0x0A

def equalsSign : UInt8 := 0x3D

/-- The white space of `trim`. -/
def isBlank (c : UInt8) : Bool := c = 0x20 || c = 0x09

def trim (str : Bytes) : Bytes := (str.dropWhile isBlank).rdropWhile isBlank

def isComment (s : Bytes) : Bool :=
  (utf8 ";").isPrefixOf s || (utf8 "#").isPrefixOf s || (utf8 "//").isPrefixOf s

/-- The text that a line of a file has for a control. -/
def lineValue (controlName s : Bytes) : Option Bytes :=
  if s.length = 0 then none
  else if isComment s then none
  else
    match s.dropWhile (· ≠ equalsSign) with
    | [] => none
    | _ :: behind =>
      if trim (s.takeWhile (· ≠ equalsSign)) = controlName then some (trim behind) else none

/-! ## Sources -/

/-- What is stored in the slot of a control. -/
inductive Stored where
  | number (value : UInt32)
  | chars (text : Bytes)
  deriving DecidableEq, Repr

/-- A file that can be opened: what is read of it, and whether that ends in a failure. -/
structure File where
  content : Bytes
  fails : Bool
  deriving DecidableEq, Repr

structure Environment where
  getenv : Bytes → Option CString
  file : Bytes → Option File

/-- The value of a variable, if the slot can take it. -/
def storeVariable (beyond : Int → UInt32) (size : Nat) (envVal : CString) : Option Stored :=
  if size = 4 then some (.number (atoi beyond envVal.chars))
  else if envVal.chars.length < size then some (.chars envVal.chars)
  else none

/-- The value of a line, if the slot can take it. `strcpy` ends at a NUL. -/
def storeLine (size : Nat) (value : Bytes) : Option Stored :=
  if size = 4 then some (.number (extract value))
  else if value.length < size then some (.chars (cText value))
  else none

/-- The loop over a file, for a time. -/
def getControlFromFile (time : Nat) (file : Option File) (controlName : Bytes) (size : Nat) :
    Option (Option Stored) :=
  match file with
  | none => some none
  | some file =>
    search newline (fun s => (lineValue controlName s).bind (storeLine size)) time
      { rest := file.content, fails := file.fails }

def envName (name : Bytes) : Bytes := utf8 "CLI_" ++ name

/-- The file in the home directory, if there is one. -/
def Environment.homeFile (e : Environment) : Option File :=
  (e.getenv (utf8 "HOME")).bind fun home =>
    e.file (home.chars ++ utf8 "/" ++ utf8 "clintercept.conf")

def Environment.systemFile (e : Environment) : Option File :=
  e.file (utf8 "/etc/OpenCL" ++ utf8 "/" ++ utf8 "clintercept.conf")

/-- `Services::GetControl`. -/
def servicesGetControl (beyond : Int → UInt32) (time : Nat) (e : Environment) (name : Bytes)
    (size : Nat) : Option (Option Stored) :=
  match (e.getenv (envName name)).bind (storeVariable beyond size) with
  | some stored => some (some stored)
  | none =>
    (getControlFromFile time e.homeFile name size).bind fun found =>
      match found with
      | some stored => some (some stored)
      | none => getControlFromFile time e.systemFile name size

/-! ## Controls -/

/-- The types of controls: `cl_uint` and `uint32_t`, `int`, `size_t` and `uint64_t`. -/
inductive ControlType where
  | bool
  | uint
  | int
  | ulong
  | string
  deriving DecidableEq, Repr

abbrev ControlType.Value : ControlType → Type
  | .bool => Bool
  | .uint => UInt32
  | .int => Int32
  | .ulong => UInt64
  | .string => Bytes

/-- The size of `readValue`. -/
def ControlType.size : ControlType → Nat
  | .string => 256
  | _ => 4

def Stored.readValue : Stored → UInt32
  | .number value => value
  | .chars _ => 0

def Stored.readChars : Stored → Bytes
  | .chars text => text
  | .number _ => []

/-- The assignment from `readValue`. -/
def ControlType.assign : (t : ControlType) → Stored → t.Value
  | .bool, stored => decide (stored.readValue ≠ 0)
  | .uint, stored => stored.readValue
  | .int, stored => stored.readValue.toInt32
  | .ulong, stored => stored.readValue.toUInt64
  | .string, stored => stored.readChars

/-- `GetControl`, and what is in the control behind it. -/
def getControl (beyond : Int → UInt32) (time : Nat) (e : Environment) (t : ControlType)
    (name : Bytes) (value : t.Value) : Option t.Value :=
  (servicesGetControl beyond time e name t.size).map fun found => (found.map t.assign).getD value

/-! ## What is asked of it -/

/-- A text is a decimal number, with a sign or without. -/
def Writes (text : Bytes) (n : Int) : Prop :=
  ∃ digits, digits ≠ [] ∧ (∀ c ∈ digits, isDigit c = true) ∧
    (text = digits ∧ n = magnitude digits ∨ text = 0x2B :: digits ∧ n = magnitude digits ∨
      text = 0x2D :: digits ∧ n = -(magnitude digits : Int))

/-- The value that is written in a text, of a number in the range of the type or of a string that the
slot has room for. -/
def Spells : (t : ControlType) → Bytes → t.Value → Prop
  | .bool, text, value => Writes text (Bool.toNat value)
  | .uint, text, value => Writes text (value : UInt32).toNat
  | .int, text, value => Writes text (value : Int32).toInt
  | .ulong, text, value => Writes text (value : UInt64).toNat
  | .string, text, value => text = value ∧ text.length ≤ 255

/-- A line sets a control: it is no comment, and the name is in front of the first equals sign. -/
def Sets (name s text : Bytes) : Prop :=
  isComment s = false ∧ ∃ before behind, s = before ++ equalsSign :: behind ∧
    equalsSign ∉ before ∧ trim before = name ∧ trim behind = text

/-- The first line of a file that sets a control. -/
def File.FirstSets (file : File) (name text : Bytes) : Prop :=
  ∃ before s behind, file.content.splitOn newline = before ++ s :: behind ∧
    (∀ s' ∈ before, ∀ text', ¬Sets name s' text') ∧ Sets name s text

inductive Source where
  | environment
  | file
  deriving DecidableEq, Repr

/-- The slot of a type has room for a text. -/
def ControlType.Takes (t : ControlType) (text : Bytes) : Prop := t = .string → text.length < 256

/-- The variable is not set, or to more than the slot has room for. -/
def LeftToFiles (e : Environment) (t : ControlType) (name : Bytes) : Prop :=
  ∀ envVal, e.getenv (envName name) = some envVal → ¬t.Takes envVal.chars

/-- **The first source that sets a control**, in the order of the documentation, and its text. -/
inductive Offers (e : Environment) (t : ControlType) (name : Bytes) : Source → Bytes → Prop
  | environment {envVal : CString} : e.getenv (envName name) = some envVal →
      t.Takes envVal.chars → Offers e t name .environment envVal.chars
  | home {file : File} {text : Bytes} : LeftToFiles e t name → e.homeFile = some file →
      file.FirstSets name text → Offers e t name .file text
  | system {file : File} {text : Bytes} : LeftToFiles e t name →
      (∀ file', e.homeFile = some file' → ∀ text', ¬file'.FirstSets name text') →
      e.systemFile = some file → file.FirstSets name text → Offers e t name .file text

/-- **A control is looked up**: there is an end, and then the control has what is written in the
first source that sets it, or what it had if there is none. -/
def LooksUp (beyond : Int → UInt32) (e : Environment) (t : ControlType) (name : Bytes)
    (value : t.Value) : Prop :=
  ∃ found, (∃ time, getControl beyond time e t name value = some found) ∧
    ((∀ source text, ¬Offers e t name source text) → found = value) ∧
    ∀ source text written, Offers e t name source text → Spells t text written → found = written

/-! ## When it is -/

/-- A line of the file sets the control to what its slot has room for. -/
def File.Stores (file : File) (t : ControlType) (name : Bytes) : Prop :=
  ∃ s ∈ file.content.splitOn newline, ∃ text, Sets name s text ∧ t.Takes text

/-- A file that can be read to its end, or to a line that is stored. -/
def Readable (file : Option File) (t : ControlType) (name : Bytes) : Prop :=
  ∀ f, file = some f → f.fails = true → f.Stores t name

/-- What is read before the lookup is over can be read. -/
def Ends (e : Environment) (t : ControlType) (name : Bytes) : Prop :=
  LeftToFiles e t name →
    Readable e.homeFile t name ∧
      ((∀ f, e.homeFile = some f → ¬f.Stores t name) → Readable e.systemFile t name)

/-- A number is below the values of `unsigned int`, and what a variable has is an `int`, or `atoi`
gives it nevertheless. -/
def Fits (beyond : Int → UInt32) : ControlType → Source → Bytes → Prop
  | .uint, .environment, text => ∀ n : UInt32, Writes text n.toNat →
      n.toNat < 2 ^ 31 ∨ beyond n.toNat = n
  | .ulong, .environment, text => ∀ n : UInt64, Writes text n.toNat →
      n.toNat < 2 ^ 31 ∨ n.toNat < 2 ^ 32 ∧ beyond n.toNat = UInt32.ofNat n.toNat
  | .ulong, .file, text => ∀ n : UInt64, Writes text n.toNat → n.toNat < 2 ^ 32
  | .string, .file, text => text.length ≤ 255 → 0 ∉ text
  | _, _, _ => True

/-! ## Numbers that are written -/

section

variable {text : Bytes} {n : Int}

/-- The ten digits of ASCII. -/
theorem isDigit_iff {c : UInt8} : isDigit c = true ↔ 48 ≤ c.toNat ∧ c.toNat ≤ 57 := by
  simp [isDigit, UInt8.le_iff_toNat_le]

/-- The six blanks of the C library. -/
theorem isSpace_iff {c : UInt8} : isSpace c = true ↔ c.toNat = 32 ∨ 9 ≤ c.toNat ∧ c.toNat ≤ 13 := by
  simp [isSpace, UInt8.le_iff_toNat_le, ← UInt8.toNat_inj]

/-- A text that begins with a digit or a sign has no white space in front. -/
theorem dropWhile_isSpace {c : UInt8} (h : isDigit c = true ∨ c = 0x2B ∨ c = 0x2D) :
    (c :: text).dropWhile isSpace = c :: text := by
  refine List.dropWhile_cons_of_neg fun hspace => ?_
  rw [isSpace_iff] at hspace
  rcases h with hdigit | rfl | rfl
  · rw [isDigit_iff] at hdigit
    omega
  · simp at hspace
  · simp at hspace

/-- A digit has no sign in front of it. -/
theorem sign_of_isDigit {c : UInt8} (h : isDigit c = true) :
    sign (c :: text) = (false, c :: text) := by
  rw [isDigit_iff] at h
  unfold sign
  split
  · next heq =>
    injection heq with hc
    rw [hc] at h
    simp at h
  · next heq =>
    injection heq with hc
    rw [hc] at h
    simp at h
  · rfl

/-- **A number is read whole.** -/
theorem leading_of_writes (h : Writes text n) :
    n = if (leading text).1 then -((leading text).2 : Int) else (leading text).2 := by
  obtain ⟨digits, hne, hdigits, htext⟩ := h
  obtain ⟨c, cs, rfl⟩ := List.exists_cons_of_ne_nil hne
  have hc := hdigits c List.mem_cons_self
  have hall : (c :: cs).takeWhile isDigit = c :: cs := List.takeWhile_eq_self_iff.mpr hdigits
  rcases htext with ⟨rfl, rfl⟩ | ⟨rfl, rfl⟩ | ⟨rfl, rfl⟩
  · have hleading : leading (c :: cs) = (false, magnitude (c :: cs)) := by
      rw [leading, dropWhile_isSpace (.inl hc), sign_of_isDigit hc, hall]
    rw [hleading]
    rfl
  · have hleading : leading (0x2B :: c :: cs) = (false, magnitude (c :: cs)) := by
      rw [leading, dropWhile_isSpace (.inr (.inl rfl)), sign, hall]
    rw [hleading]
    rfl
  · have hleading : leading (0x2D :: c :: cs) = (true, magnitude (c :: cs)) := by
      rw [leading, dropWhile_isSpace (.inr (.inr rfl)), sign, hall]
    rw [hleading]
    rfl

/-- A text is one number. -/
theorem Writes.unique {n' : Int} (h : Writes text n) (h' : Writes text n') : n = n' :=
  (leading_of_writes h).trans (leading_of_writes h').symm

/-- `atoi` reads the number that is written, if an `int` can hold it. -/
theorem atoi_of_writes (beyond : Int → UInt32) (h : Writes text n) :
    atoi beyond text = if -2 ^ 31 ≤ n ∧ n < 2 ^ 31 then UInt32.ofInt n else beyond n := by
  unfold atoi
  rw [← leading_of_writes h]

theorem ofInt_natCast {m : Nat} (h : m < 2 ^ 32) : UInt32.ofInt (m : Int) = UInt32.ofNat m := by
  rw [UInt32.ofInt]
  congr 1
  omega

/-- A stream reads it if 32 bits can, and gives the largest value if they cannot. -/
theorem extract_of_writes (h : Writes text n) :
    extract text = if n.natAbs < 2 ^ 32 then UInt32.ofInt n else 0xffffffff := by
  have hn := leading_of_writes h
  unfold extract
  cases hsign : (leading text).1 with
  | false =>
    rw [hsign, if_neg Bool.false_ne_true] at hn
    rw [hn, Int.natAbs_natCast, if_neg Bool.false_ne_true]
    by_cases hm : (leading text).2 < 2 ^ 32
    · rw [if_neg (Nat.not_le.mpr hm), if_pos hm, ofInt_natCast hm]
    · rw [if_pos (Nat.not_lt.mp hm), if_neg hm]
  | true =>
    rw [hsign, if_pos rfl] at hn
    rw [hn, Int.natAbs_neg, Int.natAbs_natCast, if_pos rfl]
    by_cases hm : (leading text).2 < 2 ^ 32
    · rw [if_neg (Nat.not_le.mpr hm), if_pos hm, UInt32.ofInt_neg, ofInt_natCast hm]
    · rw [if_pos (Nat.not_lt.mp hm), if_neg hm]

end

theorem ofInt_toNat (value : UInt32) : UInt32.ofInt value.toNat = value := by
  rw [ofInt_natCast value.toNat_lt, UInt32.ofNat_toNat]

/-- An `int` survives the slot. -/
theorem toInt32_ofInt (value : Int32) : (UInt32.ofInt value.toInt).toInt32 = value := by
  have hmod : value.toInt % 2 ^ 32 = value.toUInt32.toNat := by
    have hlt := value.toUInt32.toNat_lt
    have hint : value.toInt = value.toUInt32.toBitVec.toInt := rfl
    have hnat : value.toUInt32.toBitVec.toNat = value.toUInt32.toNat := rfl
    rw [hint, BitVec.toInt_eq_toNat_cond, hnat]
    split <;> omega
  rw [UInt32.ofInt, hmod, Int.toNat_natCast, UInt32.ofNat_toNat, Int32.toInt32_toUInt32]

/-- Of 64 bits what has no more than 32 does. -/
theorem toUInt64_ofInt_iff (value : UInt64) :
    (UInt32.ofInt value.toNat).toUInt64 = value ↔ value.toNat < 2 ^ 32 := by
  rw [← UInt64.toNat_inj, UInt32.toNat_toUInt64]
  have hmod : (UInt32.ofInt value.toNat).toNat = value.toNat % 2 ^ 32 := by
    rw [UInt32.ofInt, UInt32.toNat_ofNat']
    omega
  omega

/-- Four bytes of a wider number. -/
theorem toUInt64_eq_iff (slot : UInt32) (value : UInt64) :
    slot.toUInt64 = value ↔ value.toNat < 2 ^ 32 ∧ slot = UInt32.ofNat value.toNat := by
  rw [← UInt64.toNat_inj, ← UInt32.toNat_inj, UInt32.toNat_toUInt64, UInt32.toNat_ofNat']
  have hlt := slot.toNat_lt
  omega

/-! ## Values that are stored -/

/-- What a slot that takes a variable has then. -/
def variableStored (beyond : Int → UInt32) (t : ControlType) (text : Bytes) : Stored :=
  if t.size = 4 then .number (atoi beyond text) else .chars text

/-- What a slot that takes the value of a line has then. -/
def lineStored (t : ControlType) (text : Bytes) : Stored :=
  if t.size = 4 then .number (extract text) else .chars (cText text)

section

variable {t : ControlType} {text : Bytes}

/-- A text that spells a value is taken. -/
theorem takes_of_spells {written : t.Value} (h : Spells t text written) : t.Takes text := by
  rintro rfl
  exact Nat.lt_succ_of_le h.2

/-- A control of four bytes takes every text; a string takes what fits its buffer. -/
theorem size_of_takes (h : t.Takes text) : t.size = 4 ∨ t.size ≠ 4 ∧ text.length < t.size := by
  cases t with
  | string => exact .inr ⟨by decide, h rfl⟩
  | bool => exact .inl rfl
  | uint => exact .inl rfl
  | int => exact .inl rfl
  | ulong => exact .inl rfl

/-- What is refused is too long for a string. -/
theorem size_of_not_takes (h : ¬t.Takes text) : t.size ≠ 4 ∧ ¬text.length < t.size := by
  obtain ⟨rfl, hlong⟩ := Classical.not_imp.mp h
  exact ⟨by decide, hlong⟩

/-- What a variable of the environment stores. -/
theorem storeVariable_of_takes (beyond : Int → UInt32) {envVal : CString}
    (h : t.Takes envVal.chars) :
    storeVariable beyond t.size envVal = some (variableStored beyond t envVal.chars) := by
  unfold storeVariable variableStored
  rcases size_of_takes h with hsize | ⟨hsize, hlength⟩
  · rw [if_pos hsize, if_pos hsize]
  · rw [if_neg hsize, if_pos hlength, if_neg hsize]

theorem storeVariable_of_not_takes (beyond : Int → UInt32) {envVal : CString}
    (h : ¬t.Takes envVal.chars) : storeVariable beyond t.size envVal = none := by
  obtain ⟨hsize, hlength⟩ := size_of_not_takes h
  rw [storeVariable, if_neg hsize, if_neg hlength]

/-- What a line of a file stores. -/
theorem storeLine_of_takes (h : t.Takes text) :
    storeLine t.size text = some (lineStored t text) := by
  unfold storeLine lineStored
  rcases size_of_takes h with hsize | ⟨hsize, hlength⟩
  · rw [if_pos hsize, if_pos hsize]
  · rw [if_neg hsize, if_pos hlength, if_neg hsize]

theorem storeLine_of_not_takes (h : ¬t.Takes text) : storeLine t.size text = none := by
  obtain ⟨hsize, hlength⟩ := size_of_not_takes h
  rw [storeLine, if_neg hsize, if_neg hlength]

end

/-! ## When the value is what is written -/

section

variable {text : Bytes}

/-- **A variable** leaves in a control what is written exactly if it fits. -/
theorem variable_exact_iff (beyond : Int → UInt32) (t : ControlType) :
    (∀ written, Spells t text written → t.assign (variableStored beyond t text) = written) ↔
      Fits beyond t .environment text := by
  cases t with
  | bool =>
    refine iff_of_true (fun written hwritten => ?_) trivial
    have hatoi := atoi_of_writes beyond hwritten
    have hassign : ControlType.bool.assign (variableStored beyond .bool text) =
        decide (atoi beyond text ≠ 0) := rfl
    rw [hassign, hatoi]
    cases written <;> rfl
  | uint =>
    refine forall_congr' fun written => imp_congr_right fun hwritten => ?_
    have hatoi := atoi_of_writes beyond hwritten
    have hassign : ControlType.uint.assign (variableStored beyond .uint text) =
        atoi beyond text := rfl
    rw [hassign, hatoi]
    by_cases hn : UInt32.toNat written < 2 ^ 31
    · rw [if_pos ⟨by omega, by omega⟩, ofInt_toNat]
      exact iff_of_true rfl (.inl hn)
    · rw [if_neg (by omega), or_iff_right hn]
  | int =>
    refine iff_of_true (fun written hwritten => ?_) trivial
    have hatoi := atoi_of_writes beyond hwritten
    have hassign : ControlType.int.assign (variableStored beyond .int text) =
        (atoi beyond text).toInt32 := rfl
    rw [hassign, hatoi, if_pos ⟨Int32.le_toInt written, Int32.toInt_lt written⟩, toInt32_ofInt]
  | ulong =>
    refine forall_congr' fun written => imp_congr_right fun hwritten => ?_
    have hatoi := atoi_of_writes beyond hwritten
    have hassign : ControlType.ulong.assign (variableStored beyond .ulong text) =
        (atoi beyond text).toUInt64 := rfl
    rw [hassign, hatoi]
    by_cases hn : UInt64.toNat written < 2 ^ 31
    · rw [if_pos ⟨by omega, by omega⟩, toUInt64_ofInt_iff]
      exact iff_of_true (by omega) (.inl hn)
    · rw [if_neg (by omega), or_iff_right hn, toUInt64_eq_iff]
  | string => exact iff_of_true (fun written hwritten => hwritten.1) trivial

/-- **A line** leaves in a control what is written exactly if it fits. -/
theorem line_exact_iff (beyond : Int → UInt32) (t : ControlType) :
    (∀ written, Spells t text written → t.assign (lineStored t text) = written) ↔
      Fits beyond t .file text := by
  cases t with
  | bool =>
    refine iff_of_true (fun written hwritten => ?_) trivial
    have hextract := extract_of_writes hwritten
    have hassign : ControlType.bool.assign (lineStored .bool text) =
        decide (extract text ≠ 0) := rfl
    rw [hassign, hextract]
    cases written <;> rfl
  | uint =>
    refine iff_of_true (fun written hwritten => ?_) trivial
    have hextract := extract_of_writes hwritten
    have hassign : ControlType.uint.assign (lineStored .uint text) = extract text := rfl
    rw [hassign, hextract, Int.natAbs_natCast, if_pos (UInt32.toNat_lt written), ofInt_toNat]
  | int =>
    refine iff_of_true (fun written hwritten => ?_) trivial
    have hextract := extract_of_writes hwritten
    have hassign : ControlType.int.assign (lineStored .int text) = (extract text).toInt32 := rfl
    have hlow := Int32.le_toInt written
    have hhigh := Int32.toInt_lt written
    rw [hassign, hextract, if_pos (by omega), toInt32_ofInt]
  | ulong =>
    refine forall_congr' fun written => imp_congr_right fun hwritten => ?_
    have hextract := extract_of_writes hwritten
    have hassign : ControlType.ulong.assign (lineStored .ulong text) =
        (extract text).toUInt64 := rfl
    rw [hassign, hextract, Int.natAbs_natCast]
    by_cases hn : UInt64.toNat written < 2 ^ 32
    · rw [if_pos hn, toUInt64_ofInt_iff]
    · rw [if_neg hn, toUInt64_eq_iff]
      exact iff_of_false (fun h => hn h.1) hn
  | string =>
    have hassign : ControlType.string.assign (lineStored .string text) = cText text := rfl
    rw [hassign]
    constructor
    · intro h hlength
      exact cText_eq_iff.mp (h text ⟨rfl, hlength⟩)
    · rintro h written ⟨rfl, hlength⟩
      exact cText_of_notMem (h hlength)

end

/-! ## Lines that set a control -/

/-- A line sets a control if it has its name, an equals sign and a text. -/
theorem lineValue_eq_some_iff {name s text : Bytes} :
    lineValue name s = some text ↔ Sets name s text := by
  unfold lineValue Sets
  by_cases hmem : equalsSign ∈ s
  · obtain ⟨before, behind, rfl, hbefore⟩ := List.eq_append_cons_of_mem hmem
    have hlength : (before ++ equalsSign :: behind).length ≠ 0 := by simp
    rw [if_neg hlength, dropWhile_ne_append hbefore, takeWhile_ne_append hbefore]
    constructor
    · intro h
      split at h
      · cases h
      · next hcomment =>
        simp only [Option.ite_none_right_eq_some, Option.some_inj] at h
        exact ⟨Bool.eq_false_iff.mpr hcomment, before, behind, rfl, hbefore, h⟩
    · rintro ⟨hcomment, before', behind', heq, hbefore', hname, htext⟩
      have htake : (before' ++ equalsSign :: behind').takeWhile (· ≠ equalsSign) = before' :=
        takeWhile_ne_append hbefore'
      have hdrop : (before' ++ equalsSign :: behind').dropWhile (· ≠ equalsSign) =
          equalsSign :: behind' := dropWhile_ne_append hbefore'
      rw [← heq, takeWhile_ne_append hbefore] at htake
      rw [← heq, dropWhile_ne_append hbefore] at hdrop
      injection hdrop with _ hbehind
      rw [hcomment, if_neg Bool.false_ne_true, htake, hbehind]
      exact (if_pos hname).trans (congrArg some htext)
  · have hdrop : s.dropWhile (· ≠ equalsSign) = [] := dropWhile_ne_of_notMem hmem
    refine iff_of_false ?_ ?_
    · rw [hdrop]
      split
      · nofun
      · split <;> nofun
    · rintro ⟨-, before, behind, rfl, -⟩
      exact hmem (by simp)

/-- What the loop looks for: a line that sets the control to what its slot has room for. -/
def look (t : ControlType) (name s : Bytes) : Option Stored :=
  (lineValue name s).bind (storeLine t.size)

/-- What the loop over a file comes to. -/
def fileResult (t : ControlType) (name : Bytes) : Option File → Option (Option Stored)
  | none => some none
  | some file => searchResult newline (look t name) file.content file.fails

section

variable {t : ControlType} {name : Bytes}

/-- A line that sets nothing it can store is passed over. -/
theorem look_eq_none {s : Bytes} (h : ∀ text, Sets name s text → ¬t.Takes text) :
    look t name s = none := by
  cases hvalue : lineValue name s with
  | none => rw [look, hvalue, Option.bind_none]
  | some text =>
    have htoo := h text (lineValue_eq_some_iff.mp hvalue)
    rw [look, hvalue, Option.bind_some, storeLine_of_not_takes htoo]

/-- A line that sets the control to what can be stored ends the search. -/
theorem look_of_sets {s text : Bytes} (h : Sets name s text) (htakes : t.Takes text) :
    look t name s = some (lineStored t text) := by
  rw [look, lineValue_eq_some_iff.mpr h, Option.bind_some, storeLine_of_takes htakes]

/-- Reading a file, for as long as it takes. -/
theorem getControlFromFile_approximates (t : ControlType) (name : Bytes) (file : Option File) :
    Approximates (fun time => getControlFromFile time file name t.size)
      (fileResult t name file) := by
  cases file with
  | none => exact approximates_const (some none)
  | some file => exact search_approximates file.content file.fails []

/-- No line of the file stores the control. -/
theorem findSome?_look_eq_none_iff {file : File} :
    (file.content.splitOn newline).findSome? (look t name) = none ↔ ¬file.Stores t name := by
  rw [List.findSome?_eq_none_iff]
  constructor
  · rintro h ⟨s, hs, text, hsets, htakes⟩
    have hnone := h s hs
    rw [look_of_sets hsets htakes] at hnone
    cases hnone
  · intro h s hs
    exact look_eq_none fun text hsets htakes => h ⟨s, hs, text, hsets, htakes⟩

/-- A file that fails has to store the control before it does. -/
theorem readable_some_iff {file : File} :
    Readable (some file) t name ↔ (file.fails = true → file.Stores t name) := by
  constructor
  · intro h
    exact h file rfl
  · intro h f hf
    rw [← Option.some.inj hf]
    exact h

/-- **The loop over a file ends** exactly if the file is readable. -/
theorem fileResult_eq_none_iff {file : Option File} :
    fileResult t name file = none ↔ ¬Readable file t name := by
  cases file with
  | none =>
    have hreadable : Readable none t name := fun f hf => absurd hf.symm (Option.some_ne_none f)
    exact iff_of_false (Option.some_ne_none _) (not_not_intro hreadable)
  | some file =>
    rw [readable_some_iff, fileResult, searchResult]
    by_cases hstores : file.Stores t name
    · cases hfound : (file.content.splitOn newline).findSome? (look t name) with
      | none => exact absurd hstores (findSome?_look_eq_none_iff.mp hfound)
      | some stored => exact iff_of_false (Option.some_ne_none _) (not_not_intro fun _ => hstores)
    · rw [findSome?_look_eq_none_iff.mpr hstores]
      cases file.fails with
      | true => exact iff_of_true rfl fun h => hstores (h rfl)
      | false =>
        refine iff_of_false (Option.some_ne_none _) (not_not_intro fun h => ?_)
        cases h

/-- The first line that sets the control is the one that is stored, if there is room. -/
theorem fileResult_of_firstSets {file : File} {text : Bytes} (h : file.FirstSets name text)
    (htakes : t.Takes text) : fileResult t name (some file) = some (some (lineStored t text)) := by
  obtain ⟨before, s, behind, hlines, hbefore, hsets⟩ := h
  have hnone : before.findSome? (look t name) = none :=
    List.findSome?_eq_none_iff.mpr fun s' hs' =>
      look_eq_none fun text' hsets' => absurd hsets' (hbefore s' hs' text')
  have hfound : (file.content.splitOn newline).findSome? (look t name) =
      some (lineStored t text) := by
    rw [hlines, List.findSome?_append, hnone, Option.none_or, List.findSome?_cons,
      look_of_sets hsets htakes]
  rw [fileResult, searchResult, hfound]

/-- What is stored is on a line that sets the control, and there is a first one. -/
theorem exists_firstSets {file : File} (h : file.Stores t name) :
    ∃ text, file.FirstSets name text := by
  obtain ⟨s, hs, text, hsets, -⟩ := h
  cases hfirst : (file.content.splitOn newline).findSome? (lineValue name) with
  | none =>
    have hnone := List.findSome?_eq_none_iff.mp hfirst s hs
    rw [lineValue_eq_some_iff.mpr hsets] at hnone
    cases hnone
  | some text' =>
    obtain ⟨before, s', behind, hlines, hvalue, hbefore⟩ := List.findSome?_eq_some_iff.mp hfirst
    refine ⟨text', before, s', behind, hlines, fun s'' hs'' text'' hsets'' => ?_,
      lineValue_eq_some_iff.mp hvalue⟩
    have hnone := hbefore s'' hs''
    rw [lineValue_eq_some_iff.mpr hsets''] at hnone
    cases hnone

/-- If nothing is stored by a file the loop over it finds nothing. -/
theorem fileResult_of_not_stores {file : Option File} (h : ∀ f, file = some f → ¬f.Stores t name)
    {found : Option Stored} (hresult : fileResult t name file = some found) : found = none := by
  cases file with
  | none => exact (Option.some.inj hresult).symm
  | some file =>
    rw [fileResult, searchResult, findSome?_look_eq_none_iff.mpr (h file rfl)] at hresult
    simp only [Option.ite_none_left_eq_some] at hresult
    exact (Option.some.inj hresult.2).symm

/-- A file that stores the control has a result, failing or not. -/
theorem fileResult_of_stores {file : File} (h : file.Stores t name) :
    ∃ stored, fileResult t name (some file) = some (some stored) := by
  cases hfound : (file.content.splitOn newline).findSome? (look t name) with
  | none => exact absurd h (findSome?_look_eq_none_iff.mp hfound)
  | some stored => exact ⟨stored, by rw [fileResult, searchResult, hfound]⟩

end

/-! ## The whole lookup -/

/-- What `Services::GetControl` comes to. -/
def servicesResult (beyond : Int → UInt32) (e : Environment) (name : Bytes) (t : ControlType) :
    Option (Option Stored) :=
  match (e.getenv (envName name)).bind (storeVariable beyond t.size) with
  | some stored => some (some stored)
  | none =>
    (fileResult t name e.homeFile).bind fun found =>
      match found with
      | some stored => some (some stored)
      | none => fileResult t name e.systemFile

section

variable {beyond : Int → UInt32} {e : Environment} {name : Bytes} {t : ControlType}

/-- The whole search, for as long as it takes. -/
theorem servicesGetControl_approximates :
    Approximates (fun time => servicesGetControl beyond time e name t.size)
      (servicesResult beyond e name t) := by
  unfold servicesGetControl servicesResult
  cases (e.getenv (envName name)).bind (storeVariable beyond t.size) with
  | some stored => exact approximates_const (some (some stored))
  | none =>
    refine (getControlFromFile_approximates t name e.homeFile).bind fun found => ?_
    cases found with
    | some stored => exact approximates_const (some (some stored))
    | none => exact getControlFromFile_approximates t name e.systemFile

/-- **A variable of the environment comes first.** -/
theorem servicesResult_of_variable {envVal : CString} (h : e.getenv (envName name) = some envVal)
    (htakes : t.Takes envVal.chars) :
    servicesResult beyond e name t = some (some (variableStored beyond t envVal.chars)) := by
  rw [servicesResult, h, Option.bind_some, storeVariable_of_takes beyond htakes]

/-- If the files are not asked, the environment has an answer. -/
theorem exists_of_not_leftToFiles (h : ¬LeftToFiles e t name) :
    ∃ envVal, e.getenv (envName name) = some envVal ∧ t.Takes envVal.chars := by
  by_contra hnone
  exact h fun envVal hgetenv htakes => hnone ⟨envVal, hgetenv, htakes⟩

/-- **The file of the user comes before that of the system.** -/
theorem servicesResult_of_files (h : LeftToFiles e t name) :
    servicesResult beyond e name t = (fileResult t name e.homeFile).bind fun found =>
      match found with
      | some stored => some (some stored)
      | none => fileResult t name e.systemFile := by
  have hnone : (e.getenv (envName name)).bind (storeVariable beyond t.size) = none := by
    cases hvariable : e.getenv (envName name) with
    | none => rfl
    | some envVal => exact storeVariable_of_not_takes beyond (h envVal hvariable)
  rw [servicesResult, hnone]

/-- **The lookup ends** exactly if what is read before it is over can be read. -/
theorem servicesResult_eq_none_iff : servicesResult beyond e name t = none ↔ ¬Ends e t name := by
  by_cases hvariable : LeftToFiles e t name
  · rw [servicesResult_of_files hvariable, Ends, imp_iff_right hvariable]
    cases hhome : fileResult t name e.homeFile with
    | none =>
      have hunreadable := fileResult_eq_none_iff.mp hhome
      exact iff_of_true rfl fun h => hunreadable h.1
    | some found =>
      have hreadable : Readable e.homeFile t name := by
        by_contra hunreadable
        rw [fileResult_eq_none_iff.mpr hunreadable] at hhome
        cases hhome
      rw [and_iff_right hreadable, Option.bind_some]
      cases found with
      | some stored =>
        refine iff_of_false nofun (not_not_intro fun hnothing => ?_)
        cases fileResult_of_not_stores hnothing hhome
      | none =>
        have hnothing : ∀ f, e.homeFile = some f → ¬f.Stores t name := by
          intro f hf hstores
          obtain ⟨stored, hstored⟩ := fileResult_of_stores hstores
          rw [hf, hstored] at hhome
          cases hhome
        rw [imp_iff_right hnothing]
        exact fileResult_eq_none_iff
  · obtain ⟨envVal, hgetenv, htakes⟩ := exists_of_not_leftToFiles hvariable
    rw [servicesResult_of_variable hgetenv htakes]
    exact iff_of_false nofun (not_not_intro fun h => absurd h hvariable)

/-- What a source leaves in the slot. -/
def stored (beyond : Int → UInt32) (t : ControlType) (text : Bytes) : Source → Stored
  | .environment => variableStored beyond t text
  | .file => lineStored t text

/-- Where neither the variable nor the home directory has anything the system has the say. -/
theorem servicesResult_of_system (hleft : LeftToFiles e t name)
    (hhome : ∀ f, e.homeFile = some f → ¬f.Stores t name) {found : Option Stored}
    (hresult : servicesResult beyond e name t = some found) :
    fileResult t name e.systemFile = some found := by
  rw [servicesResult_of_files hleft] at hresult
  obtain ⟨nothing, hnothing, hsystem⟩ := Option.bind_eq_some_iff.mp hresult
  rw [fileResult_of_not_stores hhome hnothing] at hsystem
  exact hsystem

/-- A file without a first line for the control stores nothing. -/
theorem not_stores_of_not_firstSets {file : File} (h : ∀ text, ¬file.FirstSets name text) :
    ¬file.Stores t name := by
  intro hstores
  obtain ⟨text, hfirst⟩ := exists_firstSets hstores
  exact h text hfirst

/-- **The first source that sets the control** is the one that is stored, if there is room. -/
theorem servicesResult_of_offers {source : Source} {text : Bytes} {found : Option Stored}
    (hoffers : Offers e t name source text) (htakes : t.Takes text)
    (hresult : servicesResult beyond e name t = some found) :
    found = some (stored beyond t text source) := by
  cases hoffers with
  | environment hgetenv =>
    rw [servicesResult_of_variable hgetenv htakes] at hresult
    exact (Option.some.inj hresult).symm
  | home hleft hfile hfirst =>
    rw [servicesResult_of_files hleft, hfile, fileResult_of_firstSets hfirst htakes] at hresult
    exact (Option.some.inj hresult).symm
  | system hleft hhome hfile hfirst =>
    have hsystem := servicesResult_of_system hleft
      (fun f hf => not_stores_of_not_firstSets (hhome f hf)) hresult
    rw [hfile, fileResult_of_firstSets hfirst htakes] at hsystem
    exact (Option.some.inj hsystem).symm

/-- If no source sets the control nothing is stored. -/
theorem servicesResult_of_not_offers {found : Option Stored}
    (hnone : ∀ source text, ¬Offers e t name source text)
    (hresult : servicesResult beyond e name t = some found) : found = none := by
  have hleft : LeftToFiles e t name := fun envVal hgetenv htakes =>
    hnone .environment envVal.chars (.environment hgetenv htakes)
  have hhome (f : File) (hf : e.homeFile = some f) (text : Bytes) : ¬f.FirstSets name text :=
    fun hfirst => hnone .file text (.home hleft hf hfirst)
  have hsystem := servicesResult_of_system hleft
    (fun f hf => not_stores_of_not_firstSets (hhome f hf)) hresult
  refine fileResult_of_not_stores (fun f hf => not_stores_of_not_firstSets fun text hfirst => ?_)
    hsystem
  exact hnone .file text (.system hleft hhome hf hfirst)

/-- Where a text is stored as it is spelled. -/
theorem exact_iff (source : Source) (text : Bytes) :
    (∀ written, Spells t text written → t.assign (stored beyond t text source) = written) ↔
      Fits beyond t source text := by
  cases source with
  | environment => exact variable_exact_iff beyond t
  | file => exact line_exact_iff beyond t

/-- What a control has once the search is done. -/
theorem getControl_iff (value found : t.Value) :
    (∃ time, getControl beyond time e t name value = some found) ↔
      (servicesResult beyond e name t).map (fun o => (o.map t.assign).getD value) = some found :=
  (servicesGetControl_approximates.map _).exists_iff found

/-- What a control has once it is looked up comes from what the lookup comes to. -/
theorem LooksUp.result {value : t.Value} (h : LooksUp beyond e t name value) :
    ∃ result, servicesResult beyond e name t = some result ∧
      ∀ source text written, Offers e t name source text → Spells t text written →
        (result.map t.assign).getD value = written := by
  obtain ⟨found, hfound, -, hwritten⟩ := h
  obtain ⟨result, hresult, rfl⟩ := Option.map_eq_some_iff.mp ((getControl_iff value found).mp hfound)
  exact ⟨result, hresult, hwritten⟩

/-- A control that is looked up has its search at an end. -/
theorem LooksUp.ends {value : t.Value} (h : LooksUp beyond e t name value) : Ends e t name := by
  obtain ⟨result, hresult, -⟩ := h.result
  by_contra hends
  rw [servicesResult_eq_none_iff.mpr hends] at hresult
  cases hresult

/-- Every text that it was offered fits. -/
theorem LooksUp.fits {value : t.Value} (h : LooksUp beyond e t name value) {source : Source}
    {text : Bytes} (hoffers : Offers e t name source text) : Fits beyond t source text := by
  obtain ⟨result, hresult, hwritten⟩ := h.result
  refine (exact_iff source text).mp fun written hspells => ?_
  have hstored := servicesResult_of_offers hoffers (takes_of_spells hspells) hresult
  have heq := hwritten source text written hoffers hspells
  rwa [hstored] at heq

/-- What ends and fits is looked up. -/
theorem Ends.looksUp (hends : Ends e t name)
    (hfits : ∀ source text, Offers e t name source text → Fits beyond t source text)
    (value : t.Value) : LooksUp beyond e t name value := by
  obtain ⟨result, hresult⟩ := Option.ne_none_iff_exists'.mp fun hnone =>
    servicesResult_eq_none_iff.mp hnone hends
  refine ⟨(result.map t.assign).getD value, ?_, ?_, ?_⟩
  · refine (getControl_iff value _).mpr ?_
    rw [hresult, Option.map_some]
  · intro hnone
    rw [servicesResult_of_not_offers hnone hresult]
    rfl
  · intro source text written hoffers hspells
    rw [servicesResult_of_offers hoffers (takes_of_spells hspells) hresult]
    exact (exact_iff source text).mpr (hfits source text hoffers) written hspells

end

/-- **When a control is looked up**: what is read before the lookup is over can be read to its end,
and what is written in the first source that sets the control fits. -/
theorem looksUp_iff (beyond : Int → UInt32) (e : Environment) (t : ControlType) (name : Bytes)
    (value : t.Value) :
    LooksUp beyond e t name value ↔
      Ends e t name ∧ ∀ source text, Offers e t name source text → Fits beyond t source text :=
  ⟨fun h => ⟨h.ends, fun _ _ => h.fits⟩, fun h => h.1.looksUp h.2 value⟩

/-- A file in the home directory, and nothing else. -/
def atHome (file : File) : Environment where
  getenv name := if name = utf8 "HOME" then some ⟨utf8 "/root", by decide⟩ else none
  file path := if path = utf8 "/root/clintercept.conf" then some file else none

theorem homeFile_atHome (file : File) : (atHome file).homeFile = some file := rfl

/-- The environment says nothing here, so the files are asked. -/
theorem leftToFiles_atHome (file : File) (t : ControlType) :
    LeftToFiles (atHome file) t (utf8 "ExitOnEnqueueCount") := by
  intro envVal h
  cases h

def largeCount : File := ⟨utf8 "ExitOnEnqueueCount=5000000000", false⟩

/-- A directory can be opened and not be read. -/
def directory : File := ⟨[], true⟩

/-- The count is cut to 32 bits; and in a directory there is no line to be found and no end. -/
theorem large_count_is_cut :
    ¬LooksUp UInt32.ofInt (atHome largeCount) .ulong (utf8 "ExitOnEnqueueCount") 0 ∧
      ¬LooksUp UInt32.ofInt (atHome directory) .ulong (utf8 "ExitOnEnqueueCount") 0 := by
  constructor
  · intro h
    have hsets : Sets (utf8 "ExitOnEnqueueCount") (utf8 "ExitOnEnqueueCount=5000000000")
        (utf8 "5000000000") := lineValue_eq_some_iff.mp (by decide)
    have hlines : largeCount.content.splitOn newline =
        [] ++ [utf8 "ExitOnEnqueueCount=5000000000"] :=
      List.splitOn_eq_singleton (by decide)
    have hfirst : largeCount.FirstSets (utf8 "ExitOnEnqueueCount") (utf8 "5000000000") :=
      ⟨[], _, [], hlines, fun _ h => absurd h List.not_mem_nil, hsets⟩
    have hwrites : Writes (utf8 "5000000000") (UInt64.toNat 5000000000) :=
      ⟨utf8 "5000000000", by decide, List.all_eq_true.mp (by decide), .inl ⟨rfl, by decide⟩⟩
    have hfits := h.fits (.home (leftToFiles_atHome _ _) (homeFile_atHome _) hfirst)
    exact absurd (hfits _ hwrites) (by decide)
  · intro h
    obtain ⟨s, hs, text, ⟨-, before, behind, rfl, -⟩, -⟩ :=
      (h.ends (leftToFiles_atHome _ _)).1 directory (homeFile_atHome _) rfl
    have hempty := List.mem_singleton.mp hs
    simp at hempty

end CLIntercept.Control
