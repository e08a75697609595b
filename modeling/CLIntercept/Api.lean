import Mathlib.Algebra.Ring.Nat

/-!
# The OpenCL API as the layer sees it

Pointers are addresses and `NULL` is 0; a handle is a pointer that nobody computes with. Error codes
are the `cl_int` values of the headers. Memory that the application passes with a size is its bytes,
read least significant byte first.
-/

set_option autoImplicit false

namespace CLIntercept

/-- An API handle: its address, 0 for `NULL`. -/
abbrev Handle := Nat

/-- `NULL`. -/
def null : Nat := 0

/-! ## Error codes -/

def clSuccess : Int := 0
def clOutOfResources : Int := -5
def clImageFormatMismatch : Int := -9
def clInvalidValue : Int := -30
def clInvalidMemObject : Int := -38
def clInvalidImageFormatDescriptor : Int := -39
def clInvalidEvent : Int := -58
def clInvalidOperation : Int := -59
def clInvalidProperty : Int := -64
def clInvalidSemaphore : Int := -1142

/-- The execution status of a command that has run. Errors are negative. -/
def clComplete : Int := 0

/-! ## Memory -/

/-- Bytes that the application passes. -/
abbrev Bytes := List UInt8

/-- The number that bytes spell, least significant byte first. -/
def Bytes.toNat : Bytes → Nat
  | [] => 0
  | b :: bs => b.toNat + 256 * Bytes.toNat bs

/-- `sizeof(void*)`, and of every handle. -/
def pointerSize : Nat := 8

/-- The first `n` pointers of an array. -/
def Bytes.pointers : Nat → Bytes → List Nat
  | 0, _ => []
  | n + 1, bs => Bytes.toNat (bs.take pointerSize) :: Bytes.pointers n (bs.drop pointerSize)

/-- The bytes of a pointer. -/
def pointerBytes (p : Nat) : Bytes :=
  (List.range pointerSize).map fun i => UInt8.ofNat (p / 256 ^ i)

/-- `unsigned int` wraps here. -/
def uintModulus : Nat := 2 ^ 32

/-- `size_t` wraps here. -/
def sizeModulus : Nat := 2 ^ 64

end CLIntercept
