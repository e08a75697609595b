import CLIntercept.Lib.Scatter
import CLIntercept.Override.Requests

/-!
# What a copy of a buffer leaves

The byte level under `Override.Coverage`: a launch stores bytes, and this module compares the
contents of the destination with those that `clEnqueueCopyBuffer` leaves. The work items of a launch
run side by side, so nothing is said of the order of their stores: the results are about every order.
The two buffers are distinct.
-/

set_option autoImplicit false

namespace CLIntercept.Override

open CLIntercept.Lib

/-- The bytes of a buffer. What is past its end is not looked at. -/
abbrev Contents := Nat → UInt8

/-- The stores of all work items. -/
def BufferLaunch.moves (l : BufferLaunch) : List Move :=
  (List.range l.globalWorkSize).flatMap l.workItem

/-- One store: `pDst[ 0 ] = pSrc[ 0 ]`, byte by byte. -/
def BufferLaunch.store (l : BufferLaunch) (src dst : Contents) : Move → Contents
  | .byte s d =>
    if s < l.pSrc.size ∧ d < l.pDst.size then fun i => if i = d then src s else dst i else dst
  | _ => dst

/-- The stores in some order. -/
def BufferLaunch.run (l : BufferLaunch) (src : Contents) (order : List Move) (dst : Contents) :
    Contents :=
  order.foldl (l.store src) dst

/-- **What `clEnqueueCopyBuffer` leaves** in the destination. -/
def copied (srcOffset dstOffset bytes : Nat) (src dst : Contents) : Contents := fun i =>
  if dstOffset ≤ i ∧ i < dstOffset + bytes then src (srcOffset + (i - dstOffset)) else dst i

/-- **The helper stands in for `clEnqueueCopyBuffer`**: it enqueues one launch, and whatever the
buffers hold and in whatever order the work items run, the destination is left as it should be. -/
def CopiesBuffer (L : Layer) (d : Driver) (q : Enqueue) (srcBuffer dstBuffer : Buffer)
    (srcOffset dstOffset bytesToCopy : Nat) : Prop :=
  ∃ launch : BufferLaunch,
    (copyBufferHelper L d q srcBuffer dstBuffer srcOffset dstOffset bytesToCopy {}).commands =
      [q.launch (.copyBuffer launch)] ∧
    ∀ (src dst : Contents) (order : List Move), order.Perm launch.moves →
      launch.run src order dst = copied srcOffset dstOffset bytesToCopy src dst

/-- The size of a region, and the elements that it ends in, can be counted in a `cl_uint`. -/
def Counted (element : Element) (srcOffset dstOffset bytes : Nat) : Prop :=
  0 < bytes → bytes < uintModulus ∧
    (srcOffset + bytes - 1) / element.size < uintModulus ∧
    (dstOffset + bytes - 1) / element.size < uintModulus

section

variable {l : BufferLaunch} {element : Element} {srcBuffer dstBuffer : Buffer}
  {srcOffset dstOffset bytes : Nat}

theorem counted_iff_fits (hsrc : srcOffset + bytes ≤ srcBuffer.size)
    (hdst : dstOffset + bytes ≤ dstBuffer.size) :
    Counted element srcOffset dstOffset bytes ↔
      BufferFits element srcBuffer dstBuffer srcOffset dstOffset bytes := by
  refine imp_congr_right fun _ => ?_
  constructor
  · rintro ⟨hbytes, hs, hd⟩
    exact ⟨hbytes, hsrc, hdst, hs, hd⟩
  · rintro ⟨hbytes, _, _, hs, hd⟩
    exact ⟨hbytes, hs, hd⟩

/-- What a launch performs are its stores that are inside the buffers. -/
theorem performs_iff_mem_moves {m : Move} :
    (Work.copyBuffer l).Performs m ↔ l.Inside m ∧ m ∈ l.moves := by
  simp only [Work.Performs, BufferLaunch.moves, List.mem_flatMap, List.mem_range]

/-- The bytes that a move reads and writes, if it is inside. -/
def BufferLaunch.byteEnds (l : BufferLaunch) : Move → Option (Nat × Nat)
  | .byte s d => if s < l.pSrc.size ∧ d < l.pDst.size then some (s, d) else none
  | _ => none

theorem BufferLaunch.byteEnds_eq_some_iff {m : Move} {s d : Nat} :
    l.byteEnds m = some (s, d) ↔ m = .byte s d ∧ l.Inside m := by
  cases m with
  | byte s' d' =>
    simp only [byteEnds, Inside, Option.ite_none_right_eq_some, Option.some_inj, Prod.mk.injEq,
      Move.byte.injEq]
    exact and_comm
  | texel => simp [byteEnds]
  | block => simp [byteEnds]
  | range => simp [byteEnds]

/-- **A run is a list of stores.** -/
theorem BufferLaunch.run_eq_scatter (src dst : Contents) (order : List Move) :
    l.run src order dst = scatter src (order.filterMap l.byteEnds) dst := by
  induction order generalizing dst with
  | nil => rfl
  | cons m order ih =>
    have hrun : l.run src (m :: order) dst = l.run src order (l.store src dst m) := rfl
    have hstore : l.store src dst m =
        ((l.byteEnds m).map fun e => Function.update dst e.2 (src e.1)).getD dst := by
      cases m with
      | byte s d =>
        by_cases hin : s < l.pSrc.size ∧ d < l.pDst.size
        · rw [store, byteEnds, if_pos hin, if_pos hin]
          funext i
          exact (Function.update_apply dst d (src s) i).symm
        · rw [store, byteEnds, if_neg hin, if_neg hin]
          rfl
      | texel => rfl
      | block => rfl
      | range => rfl
    rw [hrun, ih, hstore, List.filterMap_cons]
    cases l.byteEnds m <;> rfl

/-- The byte of the source that a byte of the destination is copied from. -/
def byteSource (srcOffset dstOffset bytes i : Nat) : Option Nat :=
  if dstOffset ≤ i ∧ i < dstOffset + bytes then some (srcOffset + (i - dstOffset)) else none

theorem copied_eq_assign (src dst : Contents) :
    copied srcOffset dstOffset bytes src dst =
      assign (byteSource srcOffset dstOffset bytes) src dst := by
  funext i
  unfold copied assign byteSource
  split <;> rfl

theorem byteSource_eq_some_iff {s i : Nat} : byteSource srcOffset dstOffset bytes i = some s ↔
    byteRegion srcOffset dstOffset bytes (.byte s i) := by
  unfold byteSource byteRegion
  constructor
  · intro h
    split at h
    · next hin =>
      rw [← Option.some.inj h]
      exact ⟨i - dstOffset, Nat.sub_lt_left_of_lt_add hin.1 hin.2,
        by rw [Nat.add_sub_cancel' hin.1]⟩
    · cases h
  · rintro ⟨j, hj, heq⟩
    injection heq with hs hi
    rw [if_pos (by omega), hs, hi, Nat.add_sub_cancel_left]

/-- The stores of a launch are what it performs. -/
theorem mem_byteEnds_iff {order : List Move} (horder : order.Perm l.moves) {s i : Nat} :
    (s, i) ∈ order.filterMap l.byteEnds ↔ (Work.copyBuffer l).Performs (.byte s i) := by
  rw [List.mem_filterMap, performs_iff_mem_moves]
  constructor
  · rintro ⟨m, hm, hends⟩
    obtain ⟨rfl, hin⟩ := BufferLaunch.byteEnds_eq_some_iff.mp hends
    exact ⟨hin, horder.mem_iff.mp hm⟩
  · rintro ⟨hin, hm⟩
    exact ⟨_, horder.mem_iff.mpr hm, BufferLaunch.byteEnds_eq_some_iff.mpr ⟨rfl, hin⟩⟩

/-- A launch that performs exactly the moves of the region leaves what it should. -/
theorem run_eq_copied
    (h : ∀ m, (Work.copyBuffer l).Performs m ↔ byteRegion srcOffset dstOffset bytes m)
    (src dst : Contents) {order : List Move} (horder : order.Perm l.moves) :
    l.run src order dst = copied srcOffset dstOffset bytes src dst := by
  rw [BufferLaunch.run_eq_scatter, copied_eq_assign]
  exact scatter_eq_assign
    (fun s i => (mem_byteEnds_iff horder).trans ((h _).trans byteSource_eq_some_iff.symm)) src dst

/-- A launch that leaves what it should performs the moves of the region. -/
theorem performs_of_run_eq_copied
    (h : ∀ src dst : Contents, l.run src l.moves dst = copied srcOffset dstOffset bytes src dst)
    {m : Move} (hm : byteRegion srcOffset dstOffset bytes m) : (Work.copyBuffer l).Performs m := by
  have hnontrivial : Nontrivial UInt8 := ⟨0, 1, by decide⟩
  obtain ⟨j, hj, rfl⟩ := hm
  have hstores (src dst : Contents) : scatter src (l.moves.filterMap l.byteEnds) dst =
      assign (byteSource srcOffset dstOffset bytes) src dst := by
    rw [← BufferLaunch.run_eq_scatter, ← copied_eq_assign]
    exact h src dst
  exact (mem_byteEnds_iff (.refl _)).mp
    (mem_of_scatter_eq hstores (byteSource_eq_some_iff.mpr ⟨j, hj, rfl⟩))

end

section

variable {L : Layer} {d : Driver} {q : Enqueue} {srcBuffer dstBuffer : Buffer}
  {srcOffset dstOffset bytesToCopy : Nat}

/-- The one launch that the helper enqueues. -/
theorem copyBufferHelper_commands (hlaunches : BufferLaunches L d q) :
    (copyBufferHelper L d q srcBuffer dstBuffer srcOffset dstOffset bytesToCopy {}).commands =
      [q.launch (.copyBuffer (copyBufferLaunch (copyBufferElement L.config srcOffset dstOffset)
        srcBuffer dstBuffer srcOffset dstOffset bytesToCopy))] := by
  have hprepared : Prepared True ({} : Call) := ⟨iff_of_true rfl trivial, rfl, rfl, rfl⟩
  have hlaunched := hprepared.copyBufferHelper (L := L) (d := d) (q := q) srcBuffer dstBuffer
    srcOffset dstOffset bytesToCopy
  rw [Call.andThen_eq rfl] at hlaunched
  exact (hlaunched.taken ⟨trivial, hlaunches⟩).2

/-- What is copied as it should be can be counted. -/
theorem CopiesBuffer.counted (hlaunches : BufferLaunches L d q)
    (hsrc : srcOffset + bytesToCopy ≤ srcBuffer.size)
    (hdst : dstOffset + bytesToCopy ≤ dstBuffer.size)
    (h : CopiesBuffer L d q srcBuffer dstBuffer srcOffset dstOffset bytesToCopy) :
    Counted (copyBufferElement L.config srcOffset dstOffset) srcOffset dstOffset bytesToCopy := by
  obtain ⟨launch, hcommands, hruns⟩ := h
  rw [copyBufferHelper_commands hlaunches] at hcommands
  injection hcommands with hlaunch
  injection hlaunch with hwork
  injection hwork with hlaunch
  subst hlaunch
  have hdvd := copyBufferElement_dvd L.config srcOffset dstOffset
  refine (counted_iff_fits hsrc hdst).mpr (bufferFits_of_complete hdvd.1 fun m hm => ?_)
  exact performs_of_run_eq_copied (fun src dst => hruns src dst _ (.refl _)) hm

/-- **Every path of the helper equals `clEnqueueCopyBuffer`, exactly as far as a `cl_uint` counts**:
for a region inside both buffers, whichever kernel is chosen. -/
theorem copiesBuffer_iff (hlaunches : BufferLaunches L d q)
    (hsrc : srcOffset + bytesToCopy ≤ srcBuffer.size)
    (hdst : dstOffset + bytesToCopy ≤ dstBuffer.size) :
    CopiesBuffer L d q srcBuffer dstBuffer srcOffset dstOffset bytesToCopy ↔
      Counted (copyBufferElement L.config srcOffset dstOffset) srcOffset dstOffset
        bytesToCopy := by
  constructor
  · exact CopiesBuffer.counted hlaunches hsrc hdst
  · intro hcounted
    have hdvd := copyBufferElement_dvd L.config srcOffset dstOffset
    have hfits := (counted_iff_fits hsrc hdst).mp hcounted
    refine ⟨_, copyBufferHelper_commands hlaunches, fun src dst order horder => ?_⟩
    exact run_eq_copied ((copyBuffer_complete_iff hdvd.1 hdvd.2).mpr hfits) src dst horder

/-- 37 bytes with `CopyBufferUInt4s`: two elements and five bytes. -/
theorem copiesBuffer_tail : CopiesBuffer overriding willing emptyQueue ⟨128⟩ ⟨128⟩ 16 48 37 :=
  (copiesBuffer_iff ⟨rfl, fun _ _ => rfl, rfl⟩ (by decide) (by decide)).mpr
    fun _ => ⟨by decide, by decide, by decide⟩

/-- `(cl_uint)( bytesToCopy )` is 0 for 4 GiB, and nothing is copied. -/
theorem copiesBuffer_cut :
    ¬CopiesBuffer overriding willing emptyQueue ⟨2 ^ 32⟩ ⟨2 ^ 32⟩ 0 0 (2 ^ 32) := by
  intro h
  have hcounted := h.counted ⟨rfl, fun _ _ => rfl, rfl⟩ (by decide) (by decide)
  exact absurd (hcounted (by decide)).1 (by decide)

end

end CLIntercept.Override
