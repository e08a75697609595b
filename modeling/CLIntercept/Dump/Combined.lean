import CLIntercept.Api
import Mathlib.Data.List.TakeWhile

/-!
# The combined source of a program

`combineProgramStrings` makes one string of the strings that a program is created from. Two loops
compute the length of each, the first to allocate and the second to copy, and a third replaces the
NULs that are left in between by spaces. What is made of a program is then a C string: it ends with
its first NUL.

The third loop does not run for a program of one string, whose NULs may be embedded as well if its
length is given. `combines_iff` says when no text is lost, and that then no two programs with
different text are made the same.
-/

set_option autoImplicit false

namespace CLIntercept.Dump.Combined

/-! ## Strings -/

/-- `strlen`. -/
def strlen (memory : Bytes) : Nat := (memory.takeWhile (· ≠ 0)).length

/-- A string and its length, zero for one that ends with its first NUL. `memory` is what lies from
its pointer on. A `NULL` array of lengths is one of zeros. -/
structure SourceString where
  memory : Bytes
  length : Nat
  readable : if length = 0 then 0 ∈ memory else length ≤ memory.length

namespace SourceString

variable (string : SourceString)

/-- The length that both loops compute. -/
def sourceLength : Nat := if string.length = 0 then strlen string.memory else string.length

/-- The source bytes. -/
def bytes : Bytes := string.memory.take string.sourceLength

end SourceString

/-- What a program is created from. -/
structure SourceProgram where
  strings : List SourceString
  count : strings ≠ []

/-- All bytes of a program. -/
def SourceProgram.text (p : SourceProgram) : Bytes := p.strings.flatMap (·.bytes)

/-! ## The function -/

/-- A NUL is replaced by a space. -/
def spaced (byte : UInt8) : UInt8 := if byte = 0 then 0x20 else byte

/-- What is made of a program: the size of the allocation, each `memcpy` with its offset and length,
and the characters. -/
structure CombinedString where
  allocSize : Nat
  copies : List (Nat × Nat)
  chars : Bytes

/-- The second loop: `pDst` is an offset. -/
def copyStrings : Nat → List SourceString → List (Nat × Nat)
  | _, [] => []
  | pDst, string :: strings =>
    if string.sourceLength ≠ 0 then
      (pDst, string.sourceLength) :: copyStrings (pDst + string.sourceLength) strings
    else copyStrings pDst strings

/-- The third loop, up to one character before the end. -/
def replaceNuls (chars : Bytes) (pDst : Nat) : Bytes :=
  (chars.take (pDst - 1)).map spaced ++ chars.drop (pDst - 1)

def combineProgramStrings (strings : List SourceString) : CombinedString :=
  let pDst := (strings.map (·.sourceLength)).sum
  let chars := strings.flatMap (·.bytes) ++ [0]
  { allocSize := (pDst + 1) % sizeModulus
    copies := copyStrings 0 strings
    chars := if strings.length > 1 then replaceNuls chars pDst else chars }

/-- The C string, up to its first NUL. -/
def CombinedString.cString (c : CombinedString) : Bytes := c.chars.takeWhile (· ≠ 0)

namespace SourceProgram

variable (p q : SourceProgram)

def combined : Bytes := (combineProgramStrings p.strings).cString

/-- **No write leaves the buffer**, and the terminating zero is in it. -/
structure Fits : Prop where
  copies : ∀ copy ∈ (combineProgramStrings p.strings).copies,
    copy.1 + copy.2 ≤ (combineProgramStrings p.strings).allocSize
  terminated : p.text.length < (combineProgramStrings p.strings).allocSize

/-- **All text is there**, in order, with spaces for NULs. What is left out is NULs at the end. -/
def KeepsText : Prop :=
  ∃ n, p.combined = (p.text.take n).map spaced ∧ ∀ byte ∈ p.text.drop n, byte = 0

/-- One of two programs has a byte where the other has neither this byte, nor a NUL for it. -/
def HasOwnByte : Prop :=
  ∃ (i : Nat) (byte : UInt8), byte ≠ 0 ∧ p.text[i]? = some byte ∧ q.text[i]?.map spaced ≠ some byte

/-- Two programs differ in a byte that is no NUL. -/
def Differ : Prop := HasOwnByte p q ∨ HasOwnByte q p

/-- The condition on a program: its size does not overflow, and if it is one string then no text
stands behind a NUL of it. -/
structure Combinable : Prop where
  size : p.text.length + 1 < sizeModulus
  single : p.strings.length = 1 → ∀ byte ∈ p.text.dropWhile (· ≠ 0), byte = 0

end SourceProgram

/-! ## Lengths -/

/-- A string ends within its memory. -/
theorem strlen_le (memory : Bytes) : strlen memory ≤ memory.length :=
  (List.takeWhile_sublist _).length_le

/-- A string has as many bytes as it is taken to have. -/
theorem SourceString.length_bytes (string : SourceString) :
    string.bytes.length = string.sourceLength := by
  rw [SourceString.bytes, List.length_take, Nat.min_eq_left]
  unfold SourceString.sourceLength
  split
  · exact strlen_le string.memory
  · next hlength =>
    have hreadable := string.readable
    rwa [if_neg hlength] at hreadable

/-- All strings together. -/
theorem sum_sourceLength (strings : List SourceString) :
    (strings.map (·.sourceLength)).sum = (strings.flatMap (·.bytes)).length := by
  rw [List.length_flatMap]
  congr 1
  exact List.map_congr_left fun string _ => string.length_bytes.symm

/-- The copies stay below where the loop ends. -/
theorem copyStrings_le {strings : List SourceString} {pDst : Nat} {copy : Nat × Nat}
    (h : copy ∈ copyStrings pDst strings) :
    copy.1 + copy.2 ≤ pDst + (strings.map (·.sourceLength)).sum := by
  induction strings generalizing pDst with
  | nil => cases h
  | cons string strings ih =>
    unfold copyStrings at h
    rw [List.map_cons, List.sum_cons]
    split at h
    · rcases List.mem_cons.mp h with rfl | h
      · dsimp only
        omega
      · have hrest := ih h
        omega
    · have hrest := ih h
      omega

variable {p q : SourceProgram}

/-- The buffer is large enough unless its size wraps around. -/
theorem fits_iff_size : p.Fits ↔ p.text.length + 1 < sizeModulus := by
  have halloc : (combineProgramStrings p.strings).allocSize = (p.text.length + 1) % sizeModulus := by
    rw [combineProgramStrings, sum_sourceLength]
    rfl
  constructor
  · intro h
    have hterminated := h.terminated
    rw [halloc] at hterminated
    unfold sizeModulus at *
    omega
  · intro h
    rw [Nat.mod_eq_of_lt h] at halloc
    refine ⟨fun copy hcopy => ?_, by rw [halloc]; exact Nat.lt_succ_self _⟩
    have hle := copyStrings_le hcopy
    rw [sum_sourceLength, Nat.zero_add] at hle
    rw [halloc]
    exact hle.trans (Nat.le_succ _)

/-! ## What is left of the text -/

/-- With blanks for zeros there is no zero left. -/
theorem spaced_ne_zero (byte : UInt8) : spaced byte ≠ 0 := by
  unfold spaced
  split
  · decide
  · next h => exact h

theorem spaced_of_ne {byte : UInt8} (h : byte ≠ 0) : spaced byte = byte := if_neg h

theorem takeWhile_append_zero {front : Bytes} (h : ∀ byte ∈ front, byte ≠ 0) (behind : Bytes) :
    (front ++ 0 :: behind).takeWhile (· ≠ 0) = front := by
  rw [List.takeWhile_append_of_pos fun byte hbyte => by simpa using h byte hbyte,
    List.takeWhile_cons_of_neg (by decide), List.append_nil]

/-- Of several strings only a NUL at the very end is dropped. -/
theorem keepsText_of_several (h : 1 < p.strings.length) : p.KeepsText := by
  have hcombined : p.combined = (replaceNuls (p.text ++ [0]) p.text.length).takeWhile (· ≠ 0) := by
    rw [SourceProgram.combined, CombinedString.cString, combineProgramStrings]
    dsimp only
    rw [if_pos h, sum_sourceLength]
    rfl
  have hspaced : ∀ front : Bytes, ∀ byte ∈ front.map spaced, byte ≠ 0 := by
    intro front byte hbyte
    obtain ⟨byte', -, rfl⟩ := List.mem_map.mp hbyte
    exact spaced_ne_zero byte'
  unfold SourceProgram.KeepsText
  rw [hcombined]
  rcases List.eq_nil_or_concat p.text with hnil | ⟨front, last, htext⟩
  · rw [hnil]
    exact ⟨0, rfl, nofun⟩
  · rw [List.concat_eq_append] at htext
    have hreplaced : replaceNuls (p.text ++ [0]) p.text.length =
        front.map spaced ++ (last :: [0]) := by
      rw [replaceNuls, htext, List.length_append, List.length_singleton, Nat.add_sub_cancel,
        List.append_assoc, List.take_left, List.drop_left]
      rfl
    rw [hreplaced]
    by_cases hlast : last = 0
    · refine ⟨front.length, ?_, ?_⟩
      · rw [hlast, takeWhile_append_zero (hspaced front), htext, List.take_left]
      · rw [htext, List.drop_left, hlast]
        simp
    · refine ⟨front.length + 1, ?_, ?_⟩
      · have hwhole : front.map spaced ++ [last, 0] = p.text.map spaced ++ [0] := by
          rw [htext, List.map_append, List.append_assoc, List.map_singleton, spaced_of_ne hlast]
          rfl
        rw [hwhole, takeWhile_append_zero (hspaced p.text), List.take_of_length_le (by simp [htext])]
      · rw [htext, List.drop_of_length_le (by simp)]
        exact nofun

theorem takeWhile_append_nul (text : Bytes) :
    (text ++ [0]).takeWhile (· ≠ 0) = text.takeWhile (· ≠ 0) := by
  induction text with
  | nil => rfl
  | cons byte text ih =>
    rw [List.cons_append, List.takeWhile_cons, List.takeWhile_cons, ih]

theorem map_spaced_takeWhile (text : Bytes) :
    (text.takeWhile (· ≠ 0)).map spaced = text.takeWhile (· ≠ 0) := by
  have hsame : ∀ byte ∈ text.takeWhile (· ≠ 0), spaced byte = id byte := by
    intro byte hbyte
    have hne := List.mem_takeWhile_imp hbyte
    exact spaced_of_ne (by simpa using hne)
  calc (text.takeWhile (· ≠ 0)).map spaced
      = (text.takeWhile (· ≠ 0)).map id := List.map_congr_left hsame
    _ = text.takeWhile (· ≠ 0) := List.map_id _

theorem take_drop_length_takeWhile (text : Bytes) :
    text.take (text.takeWhile (· ≠ 0)).length = text.takeWhile (· ≠ 0) ∧
      text.drop (text.takeWhile (· ≠ 0)).length = text.dropWhile (· ≠ 0) := by
  have hsplit := List.takeWhile_append_dropWhile (p := (· ≠ 0)) (l := text)
  generalize text.takeWhile (· ≠ 0) = front at hsplit ⊢
  generalize text.dropWhile (· ≠ 0) = behind at hsplit ⊢
  subst hsplit
  exact ⟨List.take_left, List.drop_left⟩

/-- One string ends with its first NUL. -/
theorem keepsText_of_single (h : p.strings.length = 1) :
    p.KeepsText ↔ ∀ byte ∈ p.text.dropWhile (· ≠ 0), byte = 0 := by
  have hcombined : p.combined = p.text.takeWhile (· ≠ 0) := by
    rw [SourceProgram.combined, CombinedString.cString, combineProgramStrings]
    dsimp only
    rw [if_neg (by omega)]
    exact takeWhile_append_nul p.text
  obtain ⟨htake, hdrop⟩ := take_drop_length_takeWhile p.text
  unfold SourceProgram.KeepsText
  rw [hcombined, ← hdrop]
  constructor
  · rintro ⟨n, hn, hzeros⟩ byte hbyte
    have hlength := congrArg List.length hn
    rw [List.length_map, List.length_take] at hlength
    rw [hlength] at hbyte
    rcases Nat.le_total n p.text.length with hle | hle
    · rw [Nat.min_eq_left hle] at hbyte
      exact hzeros byte hbyte
    · rw [Nat.min_eq_right hle, List.drop_length] at hbyte
      cases hbyte
  · intro hzeros
    exact ⟨_, by rw [htake, map_spaced_takeWhile], hzeros⟩

/-- **A text is kept if a single string has nothing but zeros behind its first one.** -/
theorem keepsText_iff : p.KeepsText ↔
    (p.strings.length = 1 → ∀ byte ∈ p.text.dropWhile (· ≠ 0), byte = 0) := by
  by_cases h : p.strings.length = 1
  · rw [keepsText_of_single h]
    exact ⟨fun hkeeps _ => hkeeps, fun hkeeps => hkeeps h⟩
  · have hpos := List.length_pos_iff.mpr p.count
    exact iff_of_true (keepsText_of_several (by omega)) fun h' => absurd h' h

/-- A program that keeps its text keeps each byte where it is, and has no other. -/
theorem getElem?_combined (h : p.KeepsText) {i : Nat} {byte : UInt8} (hbyte : byte ≠ 0) :
    (p.text[i]? = some byte → p.combined[i]? = some byte) ∧
      (p.combined[i]? = some byte → p.text[i]?.map spaced = some byte) := by
  obtain ⟨n, hn, hzeros⟩ := h
  rw [hn, List.getElem?_map, List.getElem?_take]
  constructor
  · intro hget
    have hlt : i < n := by
      by_contra hge
      refine hbyte (hzeros byte (List.mem_of_getElem? (i := i - n) ?_))
      rw [List.getElem?_drop, Nat.add_sub_cancel' (Nat.le_of_not_lt hge)]
      exact hget
    rw [if_pos hlt, hget, Option.map_some, spaced_of_ne hbyte]
  · split
    · exact id
    · exact nofun

/-- Where both texts are kept, a byte of one program that the other lacks shows in what is combined.
-/
theorem combined_ne_of_hasOwnByte (hp : p.KeepsText) (hq : q.KeepsText) (h : p.HasOwnByte q) :
    p.combined ≠ q.combined := by
  obtain ⟨i, byte, hbyte, hget, hown⟩ := h
  intro heq
  have hcombined := (getElem?_combined hp hbyte).1 hget
  rw [heq] at hcombined
  exact hown ((getElem?_combined hq hbyte).2 hcombined)

/-- **What the combination of two programs must do.** -/
structure Combines (p q : SourceProgram) : Prop where
  fits : p.Fits ∧ q.Fits
  keepsText : p.KeepsText ∧ q.KeepsText
  distinct : p.Differ q → p.combined ≠ q.combined

/-- **When programs are combined right.** -/
theorem combines_iff (p q : SourceProgram) : Combines p q ↔ p.Combinable ∧ q.Combinable := by
  constructor
  · intro h
    exact ⟨⟨fits_iff_size.mp h.fits.1, keepsText_iff.mp h.keepsText.1⟩,
      ⟨fits_iff_size.mp h.fits.2, keepsText_iff.mp h.keepsText.2⟩⟩
  · rintro ⟨hp, hq⟩
    have hkeeps : p.KeepsText ∧ q.KeepsText :=
      ⟨keepsText_iff.mpr hp.single, keepsText_iff.mpr hq.single⟩
    refine ⟨⟨fits_iff_size.mpr hp.size, fits_iff_size.mpr hq.size⟩, hkeeps, ?_⟩
    rintro (hown | hown)
    · exact combined_ne_of_hasOwnByte hkeeps.1 hkeeps.2 hown
    · exact (combined_ne_of_hasOwnByte hkeeps.2 hkeeps.1 hown).symm

/-- A program of one string with its length given: `a`, a NUL and another character. -/
def embeddedNul (last : UInt8) : SourceProgram :=
  ⟨[⟨[0x61, 0, last], 3, by simp⟩], List.cons_ne_nil _ _⟩

/-- What stands behind the NUL is lost, and two programs are made the same. -/
theorem text_is_lost : ¬ Combines (embeddedNul 0x62) (embeddedNul 0x63) := by
  intro h
  refine h.distinct (.inl ⟨2, 0x62, by decide, by decide, by decide⟩) ?_
  decide

end CLIntercept.Dump.Combined
