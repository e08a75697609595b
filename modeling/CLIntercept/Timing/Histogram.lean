import CLIntercept.Timing.Events
import Mathlib.Data.Nat.Bitwise

/-!
# The histogram of device times

A duration is counted in one of `cNumBins` bins, found by its leading zeroes, and the report prints
a bound for each bin: `< 2 ^ b` nanoseconds, and `>= 2 ^ b` for the last. The leading zeroes are
counted in one of four ways, depending on the compiler; all four agree.

The clamp of the bin takes durations below the bound of the last bin into it. `fallsInBin_iff` says
which durations these are.
-/

set_option autoImplicit false

namespace CLIntercept.Timing

open CLIntercept.Lib

/-! ## Leading zeroes -/

/-- The branches of the preprocessor. -/
inductive ClzBranch
  | bitops
  | bitScanReverse
  | builtinClz
  | loop
  deriving DecidableEq, Repr

/-- `__builtin_clz`, for what is not zero. -/
def builtinClz (value : UInt32) : Nat := value.toBitVec.clz.toNat

/-- `_BitScanReverse`: the index of the highest bit that is set. -/
def bitScanReverse (value : UInt32) : Nat := 31 - value.toBitVec.clz.toNat

/-- The rounds of the portable loop. -/
def countRounds (value : UInt64) : Nat → UInt64 → Nat → Nat
  | 0, _, count => count
  | rounds + 1, mask, count =>
    if value &&& mask = 0 then countRounds value rounds (mask >>> 1) (count + 1) else count

def countLeadingZeroes (branch : ClzBranch) (value : UInt64) : Nat :=
  match branch with
  | .bitops => value.toBitVec.clz.toNat
  | .bitScanReverse =>
    if value = 0 then 64
    else if value < (1 : UInt64) <<< 32 then 63 - bitScanReverse value.toUInt32
    else 31 - bitScanReverse (value >>> 32).toUInt32
  | .builtinClz =>
    if value = 0 then 64
    else if value < (1 : UInt64) <<< 32 then 32 + builtinClz value.toUInt32
    else builtinClz (value >>> 32).toUInt32
  | .loop => if value = 0 then 64 else countRounds value 64 ((1 : UInt64) <<< 63) 0

/-- What a number of leading zeroes says of a value. -/
structure LeadingZeroes (width value count : Nat) : Prop where
  lt : count < width
  le_value : 2 ^ (width - 1 - count) ≤ value
  value_lt : value < 2 ^ (width - count)

theorem leadingZeroes_clz {w : Nat} {x : BitVec w} (hx : x ≠ 0) :
    LeadingZeroes w x.toNat x.clz.toNat := by
  have hlt : x.clz.toNat < w := by
    have h := BitVec.lt_def.mp (BitVec.clz_lt_iff_ne_zero.mpr hx)
    rwa [BitVec.natCast_eq_ofNat, BitVec.toNat_ofNat, Nat.mod_eq_of_lt Nat.lt_two_pow_self] at h
  exact ⟨hlt, BitVec.two_pow_sub_clz_le_toNat_of_ne_zero (by omega) hx,
    BitVec.toNat_lt_two_pow_sub_clz⟩

theorem leadingZeroes_builtinClz (value : UInt32) (h : value.toNat ≠ 0) :
    LeadingZeroes 32 value.toNat (builtinClz value) :=
  leadingZeroes_clz fun hzero => h (congrArg BitVec.toNat hzero)

theorem leadingZeroes_low {value : UInt64} (h : value.toNat ≠ 0) (hlow : value.toNat < 2 ^ 32) :
    LeadingZeroes 64 value.toNat (32 + builtinClz value.toUInt32) := by
  have hhalf : value.toUInt32.toNat = value.toNat := by
    rw [UInt64.toNat_toUInt32, Nat.mod_eq_of_lt hlow]
  obtain ⟨hcount, hle, hlt⟩ := leadingZeroes_builtinClz value.toUInt32 (by rwa [hhalf])
  rw [hhalf] at hle hlt
  refine ⟨by omega, ?_, ?_⟩
  · rwa [show 64 - 1 - (32 + builtinClz value.toUInt32) = 32 - 1 - builtinClz value.toUInt32 by omega]
  · rwa [show 64 - (32 + builtinClz value.toUInt32) = 32 - builtinClz value.toUInt32 by omega]

theorem toNat_high (value : UInt64) :
    (value >>> 32).toUInt32.toNat = value.toNat / 2 ^ 32 := by
  have hvalue := value.toNat_lt
  rw [UInt64.toNat_toUInt32, UInt64.toNat_shiftRight, Nat.shiftRight_eq_div_pow]
  exact Nat.mod_eq_of_lt (Nat.div_lt_of_lt_mul hvalue)

theorem leadingZeroes_high {value : UInt64} (hhigh : 2 ^ 32 ≤ value.toNat) :
    LeadingZeroes 64 value.toNat (builtinClz (value >>> 32).toUInt32) := by
  obtain ⟨hcount, hle, hlt⟩ := leadingZeroes_builtinClz (value >>> 32).toUInt32
    (by rw [toNat_high]; omega)
  rw [toNat_high] at hle hlt
  generalize builtinClz (value >>> 32).toUInt32 = count at hcount hle hlt
  refine ⟨by omega, ?_, ?_⟩
  · rw [show 64 - 1 - count = 32 - 1 - count + 32 by omega, Nat.pow_add]
    exact (Nat.le_div_iff_mul_le (by decide)).mp hle
  · rw [show 64 - count = 32 - count + 32 by omega, Nat.pow_add]
    exact (Nat.div_lt_iff_lt_mul (by decide)).mp hlt

/-- The mask of a round finds the highest bit that is left. -/
theorem and_eq_zero_iff_lt {value mask : UInt64} {bit : Nat} (hmask : mask.toNat = 2 ^ bit)
    (hlt : value.toNat < 2 ^ (bit + 1)) : value &&& mask = 0 ↔ value.toNat < 2 ^ bit := by
  have hquotient : value.toNat / 2 ^ bit < 2 := by
    rw [Nat.div_lt_iff_lt_mul (Nat.two_pow_pos bit), Nat.mul_comm, ← Nat.pow_succ]
    exact hlt
  rw [← UInt64.toNat_inj, UInt64.toNat_and, hmask, Nat.and_two_pow, UInt64.toNat_zero,
    Nat.mul_eq_zero, or_iff_left (Nat.two_pow_pos bit).ne', Bool.toNat_eq_zero,
    Nat.testBit_eq_decide_div_mod_eq, Nat.mod_eq_of_lt hquotient, decide_eq_false_iff_not,
    ← Nat.div_eq_zero_iff_lt (Nat.two_pow_pos bit)]
  generalize value.toNat / 2 ^ bit = quotient at hquotient
  omega

/-- The loop, by what is known of the value in each round. -/
theorem leadingZeroes_countRounds {value : UInt64} (hvalue : value.toNat ≠ 0) (rounds : Nat) :
    ∀ mask : UInt64, mask.toNat = 2 ^ (rounds - 1) → rounds ≤ 64 → value.toNat < 2 ^ rounds →
      LeadingZeroes 64 value.toNat (countRounds value rounds mask (64 - rounds)) := by
  induction rounds with
  | zero =>
    intro mask _ _ hlt
    omega
  | succ rounds ih =>
    intro mask hmask hrounds hlt
    rw [Nat.add_sub_cancel] at hmask
    have hand : value &&& mask = 0 ↔ value.toNat < 2 ^ rounds := and_eq_zero_iff_lt hmask hlt
    unfold countRounds
    split
    · next hzero =>
      have hlt' := hand.mp hzero
      have hpos : rounds ≠ 0 := fun hrounds => by
        rw [hrounds] at hlt'
        omega
      have hmask' : (mask >>> 1).toNat = 2 ^ (rounds - 1) := by
        obtain ⟨rounds, rfl⟩ := Nat.exists_eq_succ_of_ne_zero hpos
        rw [UInt64.toNat_shiftRight, hmask, Nat.shiftRight_eq_div_pow]
        exact Nat.mul_div_cancel _ (by decide)
      have hrest := ih (mask >>> 1) hmask' (by omega) hlt'
      rwa [show 64 - rounds = 64 - (rounds + 1) + 1 by omega] at hrest
    · next hone =>
      have hle := Nat.le_of_not_lt fun hlt' => hone (hand.mpr hlt')
      refine ⟨by omega, ?_, ?_⟩
      · rwa [show 64 - 1 - (64 - (rounds + 1)) = rounds by omega]
      · rwa [show 64 - (64 - (rounds + 1)) = rounds + 1 by omega]

/-- **All branches count the leading zeroes.** -/
theorem leadingZeroes_countLeadingZeroes (branch : ClzBranch) {value : UInt64} (h : value ≠ 0) :
    LeadingZeroes 64 value.toNat (countLeadingZeroes branch value) := by
  have hne : value.toNat ≠ 0 := fun hzero => h (UInt64.toNat_inj.mp hzero)
  have hlow : value < (1 : UInt64) <<< 32 ↔ value.toNat < 2 ^ 32 := .rfl
  -- The index of the highest bit and the leading zeroes are two ways to say the same.
  have hscan : ∀ x : UInt32, x.toNat ≠ 0 →
      63 - bitScanReverse x = 32 + builtinClz x ∧ 31 - bitScanReverse x = builtinClz x := by
    intro x hx
    have hlt := (leadingZeroes_builtinClz x hx).lt
    show 63 - (31 - builtinClz x) = 32 + builtinClz x ∧ 31 - (31 - builtinClz x) = builtinClz x
    omega
  cases branch with
  | bitops => exact leadingZeroes_clz fun hzero => h (UInt64.toBitVec_inj.mp hzero)
  | bitScanReverse =>
    simp only [countLeadingZeroes, if_neg h, hlow]
    split
    · next hlt =>
      rw [(hscan value.toUInt32 (by rwa [UInt64.toNat_toUInt32, Nat.mod_eq_of_lt hlt])).1]
      exact leadingZeroes_low hne hlt
    · next hge =>
      rw [(hscan (value >>> 32).toUInt32 (by rw [toNat_high]; omega)).2]
      exact leadingZeroes_high (Nat.le_of_not_lt hge)
  | builtinClz =>
    simp only [countLeadingZeroes, if_neg h, hlow]
    split
    · next hlt => exact leadingZeroes_low hne hlt
    · next hge => exact leadingZeroes_high (Nat.le_of_not_lt hge)
  | loop =>
    simp only [countLeadingZeroes, if_neg h]
    exact leadingZeroes_countRounds hne 64 _ rfl (Nat.le_refl 64) value.toNat_lt

/-! ## Bins -/

def cNumBins : Nat := 30

/-- The bin of a duration. -/
def timingBin (branch : ClzBranch) (delta : UInt64) : Nat :=
  let count := countLeadingZeroes branch delta
  if count = 64 then 0
  else if count ≤ 64 - cNumBins then cNumBins - 1
  else 64 - count

/-- What is printed of a bin: `<` or `>=`, and a number of nanoseconds. -/
inductive PrintedBound
  | less (ns : UInt64)
  | greaterEqual (ns : UInt64)
  deriving DecidableEq, Repr

def printedBound (bin : Nat) : PrintedBound :=
  let ns := (1 : UInt64) <<< bin.toUInt64
  if bin = cNumBins - 1 then .greaterEqual ns else .less ns

/-- A bound is true of a duration, and is the least power of two that is. -/
def PrintedBound.TightFor (delta : UInt64) : PrintedBound → Prop
  | .less ns => delta < ns ∧ ns / 2 ≤ delta
  | .greaterEqual ns => ns ≤ delta

/-- **What the histogram must do with a duration**: its bin is there, and is the one bin with a
bound that holds. -/
structure FallsInBin (branch : ClzBranch) (delta : UInt64) : Prop where
  inRange : timingBin branch delta < cNumBins
  bound : (printedBound (timingBin branch delta)).TightFor delta
  unique : ∀ bin, bin < cNumBins → (printedBound bin).TightFor delta →
    bin = timingBin branch delta

theorem toNat_ns {bin : Nat} (h : bin < cNumBins) :
    ((1 : UInt64) <<< bin.toUInt64).toNat = 2 ^ bin := by
  have table : ∀ b : Fin cNumBins, ((1 : UInt64) <<< b.val.toUInt64).toNat = 2 ^ b.val := by decide
  exact table ⟨bin, h⟩

/-- A bound in powers of two. -/
theorem tightFor_iff {bin : Nat} (h : bin < cNumBins) {delta : UInt64} :
    (printedBound bin).TightFor delta ↔
      if bin = cNumBins - 1 then 2 ^ bin ≤ delta.toNat
      else delta.toNat < 2 ^ bin ∧ 2 ^ bin / 2 ≤ delta.toNat := by
  unfold printedBound
  dsimp only
  split
  · rw [PrintedBound.TightFor, UInt64.le_iff_toNat_le, toNat_ns h]
  · rw [PrintedBound.TightFor, UInt64.lt_iff_toNat_lt, UInt64.le_iff_toNat_le, UInt64.toNat_div,
      toNat_ns h]
    rfl

theorem timingBin_zero (branch : ClzBranch) : timingBin branch 0 = 0 := by
  cases branch <;> rfl

/-- A duration's bin is the number of its bits, but for the clamp. -/
theorem timingBin_eq_min (branch : ClzBranch) {delta : UInt64} (h : delta ≠ 0) : ∃ bits,
    timingBin branch delta = min bits (cNumBins - 1) ∧ bits ≠ 0 ∧
      2 ^ (bits - 1) ≤ delta.toNat ∧ delta.toNat < 2 ^ bits := by
  obtain ⟨hlt, hle, hlt'⟩ := leadingZeroes_countLeadingZeroes branch h
  refine ⟨64 - countLeadingZeroes branch delta, ?_, by omega, ?_, hlt'⟩
  · unfold timingBin cNumBins
    dsimp only
    split
    · omega
    · split <;> omega
  · rwa [Nat.sub_right_comm]

theorem timingBin_lt (branch : ClzBranch) (delta : UInt64) : timingBin branch delta < cNumBins := by
  by_cases h : delta = 0
  · rw [h, timingBin_zero]
    decide
  · obtain ⟨bits, hbin, -⟩ := timingBin_eq_min branch h
    rw [hbin, cNumBins]
    omega

/-- The counts of a device. -/
structure SDeviceTimingHistogram where
  bins : Fin cNumBins → UInt32 := fun _ => 0

/-- `histogram.Bins[bin]++`, with the bin in range. -/
def SDeviceTimingHistogram.record (branch : ClzBranch) (histogram : SDeviceTimingHistogram)
    (delta : UInt64) : SDeviceTimingHistogram where
  bins :=
    let bin : Fin cNumBins := ⟨timingBin branch delta, timingBin_lt branch delta⟩
    Function.update histogram.bins bin (histogram.bins bin + 1)

/-- **A bin counts its durations**, up to the width of the counter. -/
theorem bins_foldl_record (branch : ClzBranch) (deltas : List UInt64)
    (histogram : SDeviceTimingHistogram) (bin : Fin cNumBins) :
    (deltas.foldl (·.record branch) histogram).bins bin = histogram.bins bin +
      UInt32.ofNat (deltas.countP fun delta => timingBin branch delta = bin) := by
  induction deltas generalizing histogram with
  | nil => simp
  | cons delta deltas ih =>
    rw [List.foldl_cons, ih, List.countP_cons, SDeviceTimingHistogram.record]
    by_cases hbin : timingBin branch delta = bin
    · obtain rfl : bin = ⟨timingBin branch delta, timingBin_lt branch delta⟩ := Fin.ext hbin.symm
      simp only [Function.update_self, decide_true, if_true, UInt32.ofNat_add]
      rw [UInt32.add_assoc, UInt32.add_comm 1]
      rfl
    · have hne : bin ≠ ⟨timingBin branch delta, timingBin_lt branch delta⟩ :=
        fun heq => hbin (congrArg Fin.val heq).symm
      simp [hbin, Function.update_of_ne hne]

/-- Bounds of different bins do not hold together. -/
theorem tightFor_unique {bin bin' : Nat} (h : bin < cNumBins) (h' : bin' < cNumBins)
    {delta : UInt64} (hbound : (printedBound bin).TightFor delta)
    (hbound' : (printedBound bin').TightFor delta) : bin ≤ bin' := by
  rw [tightFor_iff h] at hbound
  rw [tightFor_iff h'] at hbound'
  by_contra hlt
  -- The later bin's bound begins where that of the earlier one ends.
  have hle : 2 ^ bin / 2 ≤ delta.toNat := by
    split at hbound
    · exact (Nat.div_le_self _ _).trans hbound
    · exact hbound.2
  rw [if_neg (by omega)] at hbound'
  obtain ⟨bin, rfl⟩ := Nat.exists_eq_succ_of_ne_zero (show bin ≠ 0 by omega)
  rw [Nat.pow_succ, Nat.mul_div_cancel _ (by decide)] at hle
  have hpow := (Nat.pow_lt_pow_iff_right (by decide)).mp (hle.trans_lt hbound'.1)
  omega

/-- **Which durations are counted right**: all but those between the last two powers of two. -/
theorem fallsInBin_iff (branch : ClzBranch) (delta : UInt64) :
    FallsInBin branch delta ↔ delta.toNat < 2 ^ 28 ∨ 2 ^ 29 ≤ delta.toNat := by
  have hin := timingBin_lt branch delta
  have hfalls : FallsInBin branch delta ↔ (printedBound (timingBin branch delta)).TightFor delta :=
    ⟨FallsInBin.bound, fun hbound => ⟨hin, hbound, fun bin hbin hbound' =>
      Nat.le_antisymm (tightFor_unique hbin hin hbound' hbound)
        (tightFor_unique hin hbin hbound hbound')⟩⟩
  rw [hfalls, tightFor_iff hin]
  by_cases h : delta = 0
  · rw [h, timingBin_zero]
    decide
  · obtain ⟨bits, hbin, hbits, hle, hlt⟩ := timingBin_eq_min branch h
    have hpow : ∀ k, 2 ^ k ≤ delta.toNat ↔ k < bits := fun k =>
      ⟨fun hk => (Nat.pow_lt_pow_iff_right (by decide)).mp (hk.trans_lt hlt), fun hk =>
        (Nat.pow_le_pow_right (by decide) (Nat.le_sub_one_of_lt hk)).trans hle⟩
    have hlow : delta.toNat < 2 ^ 28 ↔ ¬ 28 < bits := by rw [← hpow, Nat.not_le]
    rw [hbin, hlow, hpow 29]
    by_cases hlast : cNumBins - 1 ≤ bits
    · -- The last bin begins one power of two above the least duration in it.
      rw [Nat.min_eq_right hlast, if_pos rfl, hpow]
      unfold cNumBins at hlast ⊢
      omega
    · rw [Nat.min_eq_left (by omega), if_neg (by omega)]
      unfold cNumBins at hlast
      obtain ⟨bits, rfl⟩ := Nat.exists_eq_succ_of_ne_zero hbits
      refine iff_of_true ⟨hlt, ?_⟩ (by omega)
      rwa [Nat.pow_succ, Nat.mul_div_cancel _ (by decide)]

/-- A duration of `2 ^ 28` nanoseconds is reported as one of at least `2 ^ 29`. -/
theorem reported_too_long : timingBin .builtinClz ((1 : UInt64) <<< 28) = 29 ∧
    printedBound 29 = .greaterEqual 536870912 ∧ ¬ FallsInBin .builtinClz ((1 : UInt64) <<< 28) := by
  refine ⟨by decide, by decide, fun h => ?_⟩
  have hbound : (536870912 : UInt64) ≤ (1 : UInt64) <<< 28 := h.bound
  exact absurd hbound (by decide)

end CLIntercept.Timing
