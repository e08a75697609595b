import Mathlib.Data.List.TakeWhile

/-!
# Strings that end in a `NUL`

The bytes in front of a `NUL`, and allocations that such strings are built in. A store may go beyond the
allocation: what lies in the memory from its beginning on is kept apart from its size, and
`CBuffer.Terminated` says that nothing was stored behind it and that the string in it ends.
-/

set_option autoImplicit false

namespace CLIntercept.Lib

/-- A string that ends in a `NUL`: what is in front of it. -/
structure CString where
  chars : List UInt8
  noNul : 0 ∉ chars
  deriving DecidableEq, Repr

/-- The empty string. -/
def CString.empty : CString := ⟨[], List.not_mem_nil⟩

/-- The string that begins somewhere in memory. -/
def cText (memory : List UInt8) : List UInt8 := memory.takeWhile (· ≠ 0)

/-- The text of a C string has no `NUL` in it. -/
theorem zero_notMem_cText (memory : List UInt8) : 0 ∉ cText memory := by
  intro h
  have hne := List.mem_takeWhile_imp h
  simp at hne

/-- Without a `NUL` all of it is text. -/
theorem cText_of_notMem {text : List UInt8} (h : 0 ∉ text) : cText text = text := by
  refine List.takeWhile_eq_self_iff.mpr fun c hc => ?_
  exact decide_eq_true fun h0 => h (h0 ▸ hc)

/-- What follows the `NUL` is not looked at. -/
theorem cText_append_zero {text : List UInt8} (h : 0 ∉ text) (rest : List UInt8) :
    cText (text ++ 0 :: rest) = text := by
  have hall : ∀ c ∈ text, decide (c ≠ 0) = true := fun c hc => decide_eq_true fun h0 => h (h0 ▸ hc)
  rw [cText, List.takeWhile_append_of_pos hall, List.takeWhile_cons_of_neg (by simp),
    List.append_nil]

/-- The `NUL` that ends the memory adds nothing to the string. -/
theorem cText_concat_zero (memory : List UInt8) : cText (memory ++ [0]) = cText memory := by
  by_cases h : 0 ∈ memory
  · obtain ⟨front, rest, rfl, hfront⟩ := List.eq_append_cons_of_mem h
    rw [List.append_assoc, List.cons_append, cText_append_zero hfront, cText_append_zero hfront]
  · rw [cText_append_zero h, cText_of_notMem h]

theorem cText_eq_iff {memory : List UInt8} : cText memory = memory ↔ 0 ∉ memory :=
  ⟨fun h => h ▸ zero_notMem_cText memory, cText_of_notMem⟩

/-! ## Allocations -/

/-- `new char[size]`, and what is in the memory from its beginning on. -/
structure CBuffer where
  size : Nat
  bytes : List UInt8
  deriving DecidableEq, Repr

namespace CBuffer

/-- Set to zero. -/
def zeros (size : Nat) : CBuffer := ⟨size, List.replicate size 0⟩

/-- The string in the allocation. -/
def text (b : CBuffer) : List UInt8 := cText b.bytes

/-- `strcat`: the string and its `NUL` are stored behind the string that is there. -/
def strcat (b : CBuffer) (str : List UInt8) : CBuffer where
  size := b.size
  bytes := b.text ++ str ++ 0 :: b.bytes.drop (b.text.length + str.length + 1)

/-- **The string ends within the allocation**, and nothing is stored behind it. -/
structure Terminated (b : CBuffer) : Prop where
  inside : b.bytes.length = b.size
  ends : 0 ∈ b.bytes

/-- A buffer of zeros is terminated, if it has a byte. -/
theorem terminated_zeros {size : Nat} (h : 0 < size) : (zeros size).Terminated where
  inside := List.length_replicate
  ends := List.mem_replicate.mpr ⟨Nat.ne_of_gt h, rfl⟩

@[simp] theorem text_zeros (size : Nat) : (zeros size).text = [] := by
  cases size <;> rfl

/-- `strcat` puts a text behind the other. -/
theorem text_strcat (b : CBuffer) {str : List UInt8} (h : 0 ∉ str) :
    (b.strcat str).text = b.text ++ str := by
  refine cText_append_zero ?_ _
  rw [List.mem_append, not_or]
  exact ⟨zero_notMem_cText _, h⟩

@[simp] theorem size_strcat (b : CBuffer) (str : List UInt8) : (b.strcat str).size = b.size := rfl

/-- There is room for both strings and the `NUL`. -/
theorem Terminated.strcat {b : CBuffer} (h : b.Terminated) {str : List UInt8}
    (hroom : b.text.length + str.length < b.size) : (b.strcat str).Terminated where
  inside := by
    have hlength := h.inside
    simp only [CBuffer.strcat, List.length_append, List.length_cons, List.length_drop]
    omega
  ends := by simp [CBuffer.strcat]

end CBuffer

end CLIntercept.Lib
