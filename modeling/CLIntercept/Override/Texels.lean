import CLIntercept.Lib.Scatter
import CLIntercept.Override.Requests

/-!
# What a copy of an image leaves

The texels under `Override.Coverage`: a launch of `CopyImageHelper` reads and writes texels, and this
module compares the destination with what `clEnqueueCopyImage` leaves. The two images are distinct,
and a texel that is written in its own format is what was read.

There are kernels for two-dimensional images only, and they do not look at the width of the region:
what a work item behind it writes is wrong unless it is outside the image. The type of the
destination is asked of the source, so that a three-dimensional one is not refused.
-/

set_option autoImplicit false

namespace CLIntercept.Override

open CLIntercept.Lib

/-! ## Texels -/

/-- The four channels of a texel. -/
structure Texel where
  r : UInt32
  g : UInt32
  b : UInt32
  a : UInt32
  deriving DecidableEq, Repr

/-- What an image holds. What is outside it is not looked at. -/
abbrev Texels := Size3 → Texel

/-- The places of a move of a texel. -/
def Move.texelEnds : Move → Option (Size3 × Size3)
  | .texel src dst => some (src, dst)
  | _ => none

/-- What the work items of a launch read and write. -/
def ImageLaunch.texelStores (l : ImageLaunch) : List (Size3 × Size3) :=
  (List.range l.globalWorkSize.x).flatMap fun x =>
    (List.range l.globalWorkSize.y).flatMap fun y =>
      (List.range l.globalWorkSize.z).filterMap fun _ => (l.workItem x y).bind Move.texelEnds

/-- The place of the source that a place of the destination is copied from. -/
def texelSource (srcOrigin dstOrigin region i : Size3) : Option Size3 :=
  if (dstOrigin.x ≤ i.x ∧ i.x < dstOrigin.x + region.x) ∧
      (dstOrigin.y ≤ i.y ∧ i.y < dstOrigin.y + region.y) ∧
      (dstOrigin.z ≤ i.z ∧ i.z < dstOrigin.z + region.z) then
    some ⟨srcOrigin.x + (i.x - dstOrigin.x), srcOrigin.y + (i.y - dstOrigin.y),
      srcOrigin.z + (i.z - dstOrigin.z)⟩
  else none

/-- **What `clEnqueueCopyImage` leaves** in the destination. -/
def copiedImage (srcOrigin dstOrigin region : Size3) (src dst : Texels) : Texels :=
  assign (texelSource srcOrigin dstOrigin region) src dst

/-- **The helper stands in for `clEnqueueCopyImage`.** If it succeeds it has enqueued one launch, and
whatever the images hold and in whatever order the work items run, the destination is left as it
should be. Formats that differ, and images that are not both two-dimensional, it refuses. -/
structure CopiesImage (L : Layer) (d : Driver) (q : Enqueue) (srcImage dstImage : Image)
    (srcOrigin dstOrigin region : Size3) : Prop where
  copied :
    (copyImageHelper L d q srcImage dstImage srcOrigin dstOrigin region {}).errorCode = clSuccess →
      ∃ launch : ImageLaunch,
        (copyImageHelper L d q srcImage dstImage srcOrigin dstOrigin region {}).commands =
          [q.launch (.copyImage launch)] ∧
        ∀ (src dst : Texels) (order : List (Size3 × Size3)), order.Perm launch.texelStores →
          scatter src order dst = copiedImage srcOrigin dstOrigin region src dst
  refused :
    srcImage.format ≠ dstImage.format ∨
        ¬(srcImage.type = .image2D ∧ dstImage.type = .image2D) →
      (copyImageHelper L d q srcImage dstImage srcOrigin dstOrigin region {}).errorCode ≠
          clSuccess ∧
        (copyImageHelper L d q srcImage dstImage srcOrigin dstOrigin region {}).commands = []

/-- The region is inside an image. Of the third dimension nothing is asked. -/
def Image.Has (image : Image) (origin region : Size3) : Prop :=
  origin.x + region.x ≤ image.width ∧ origin.y + region.y ≤ image.height

/-- The destination is two-dimensional, the region ends where an `int` reaches, and behind its width
nothing is written. -/
def TexelsFit (dstImage : Image) (srcOrigin dstOrigin region : Size3) : Prop :=
  dstImage.type = .image2D ∧ (0 < region.x → 0 < region.y →
    srcOrigin.x + region.x ≤ 2 ^ 31 ∧ srcOrigin.y + region.y ≤ 2 ^ 31 ∧
    dstOrigin.x + region.x ≤ 2 ^ 31 ∧ dstOrigin.y + region.y ≤ 2 ^ 31 ∧
    (region.x % localWorkSize = 0 ∨ dstOrigin.x + region.x = reach dstImage.width))

section

variable {srcImage dstImage : Image} {srcOrigin dstOrigin region : Size3}

/-- What the stores of a launch are is what it performs. -/
theorem mem_texelStores_iff (l : ImageLaunch) (src dst : Size3) :
    (src, dst) ∈ l.texelStores ↔ (Work.copyImage l).Performs (.texel src dst) := by
  have hends (m : Move) : m.texelEnds = some (src, dst) ↔ m = .texel src dst := by
    cases m <;> simp [Move.texelEnds]
  simp only [ImageLaunch.texelStores, List.mem_flatMap, List.mem_filterMap, List.mem_range,
    Option.bind_eq_some_iff, hends, Work.Performs]
  constructor
  · rintro ⟨x, hx, y, hy, z, hz, m, hitem, rfl⟩
    exact ⟨x, hx, y, hy, Nat.zero_lt_of_lt hz, hitem⟩
  · rintro ⟨x, hx, y, hy, hz, hitem⟩
    exact ⟨x, hx, y, hy, 0, hz, _, hitem, rfl⟩

/-- A launch performs nothing but moves of texels. -/
theorem texel_of_performs {l : ImageLaunch} {m : Move} (h : (Work.copyImage l).Performs m) :
    ∃ src dst, m = .texel src dst := by
  obtain ⟨x, -, y, -, -, hitem⟩ := h
  obtain ⟨-, -, src, dst, rfl, -⟩ := texel_of_workItem hitem
  exact ⟨src, dst, rfl⟩

theorem texelSource_eq_some_iff (src dst : Size3) :
    texelSource srcOrigin dstOrigin region dst = some src ↔
      texelRegion srcOrigin dstOrigin region (.texel src dst) := by
  unfold texelSource texelRegion
  constructor
  · intro h
    split at h
    · next hin =>
      obtain ⟨⟨hx, hx'⟩, ⟨hy, hy'⟩, hz, hz'⟩ := hin
      rw [← Option.some.inj h]
      refine ⟨⟨dst.x - dstOrigin.x, dst.y - dstOrigin.y, dst.z - dstOrigin.z⟩,
        Nat.sub_lt_left_of_lt_add hx hx', Nat.sub_lt_left_of_lt_add hy hy',
        Nat.sub_lt_left_of_lt_add hz hz', ?_⟩
      rw [Size3.add, Size3.add, Nat.add_sub_cancel' hx, Nat.add_sub_cancel' hy,
        Nat.add_sub_cancel' hz]
    · cases h
  · rintro ⟨p, hx, hy, hz, hmove⟩
    injection hmove with hsrc hdst
    subst hsrc hdst
    refine (if_pos ⟨⟨Nat.le_add_right _ _, Nat.add_lt_add_left hx _⟩,
      ⟨Nat.le_add_right _ _, Nat.add_lt_add_left hy _⟩,
      Nat.le_add_right _ _, Nat.add_lt_add_left hz _⟩).trans ?_
    simp [Size3.add]

/-- **A launch leaves what it should exactly if it performs the region.** -/
theorem launch_copies_iff (l : ImageLaunch) :
    (∀ (src dst : Texels) (order : List (Size3 × Size3)), order.Perm l.texelStores →
        scatter src order dst = copiedImage srcOrigin dstOrigin region src dst) ↔
      ∀ m, (Work.copyImage l).Performs m ↔ texelRegion srcOrigin dstOrigin region m := by
  have hnontrivial : Nontrivial Texel :=
    ⟨⟨0, 0, 0, 0⟩, ⟨1, 0, 0, 0⟩, fun h => by injection h with hr; exact absurd hr (by decide)⟩
  refine (scatter_iff (texelSource srcOrigin dstOrigin region) l.texelStores).trans ?_
  constructor
  · intro h m
    constructor
    · intro hm
      obtain ⟨src, dst, rfl⟩ := texel_of_performs hm
      exact (texelSource_eq_some_iff src dst).mp
        ((h src dst).mp ((mem_texelStores_iff l src dst).mpr hm))
    · rintro ⟨p, hx, hy, hz, rfl⟩
      exact (mem_texelStores_iff l _ _).mp ((h _ _).mpr
        ((texelSource_eq_some_iff _ _).mpr ⟨p, hx, hy, hz, rfl⟩))
  · intro h src dst
    rw [mem_texelStores_iff, h, texelSource_eq_some_iff]

end

/-! ## When the helper copies an image -/

section

variable {L : Layer} {d : Driver} {q : Enqueue} {srcImage dstImage : Image}
  {srcOrigin dstOrigin region : Size3}

/-- What is launched has a two-dimensional source, and one format. -/
theorem ImageLaunches.source
    (h : ImageLaunches L d q srcImage dstImage srcOrigin dstOrigin region) :
    srcImage.type = .image2D ∧ srcImage.format = dstImage.format := by
  obtain ⟨-, -, -, -, -, hchecks, ⟨colour, hkernel⟩, -⟩ := h
  have htype : srcImage.type = .image2D := by
    unfold copyImageKernel at hkernel
    split at hkernel
    · split at hkernel
      · next htypes => exact htypes.1
      · cases hkernel
    · cases hkernel
  refine ⟨htype, ?_⟩
  by_contra hformat
  rw [htype] at hchecks
  simp only [checkImages, if_neg hformat] at hchecks
  split at hchecks
  · cases hchecks
  · split at hchecks <;> cases hchecks

/-- Inside both images, what fits is what an `int` reaches. -/
theorem imageFits_iff_texelsFit (hsrc : srcImage.Has srcOrigin region)
    (hdst : dstImage.Has dstOrigin region) (hsrcType : srcImage.type = .image2D)
    (hdstType : dstImage.type = .image2D) :
    ImageFits srcImage dstImage srcOrigin dstOrigin region ↔
      TexelsFit dstImage srcOrigin dstOrigin region := by
  refine Iff.trans ?_ (and_iff_right hdstType).symm
  unfold ImageFits
  refine imp_congr_right fun _ => imp_congr_right fun _ => ?_
  rw [and_iff_right hsrcType, and_iff_right hdstType]
  unfold reach
  simp only [Nat.le_min, and_iff_right hsrc.1, and_iff_right hsrc.2, and_iff_right hdst.1,
    and_iff_right hdst.2]

variable (L d q srcImage dstImage srcOrigin dstOrigin region) in
/-- The one launch that the helper enqueues, or none. -/
theorem copyImageHelper_launched :
    Launched (ImageLaunches L d q srcImage dstImage srcOrigin dstOrigin region) q
      (.copyImage (copyImageLaunch (colourOf srcImage) srcImage dstImage srcOrigin dstOrigin region))
      (copyImageHelper L d q srcImage dstImage srcOrigin dstOrigin region {}) := by
  have hprepared : Prepared True ({} : Call) := ⟨iff_of_true rfl trivial, rfl, rfl, rfl⟩
  have hlaunched := hprepared.copyImageHelper (L := L) (d := d) (q := q) srcImage dstImage srcOrigin
    dstOrigin region
  rw [Call.andThen_eq rfl] at hlaunched
  exact hlaunched.congr (and_iff_right trivial)

/-- What is launched copies the image exactly if it fits. -/
theorem ImageLaunches.copies_iff
    (hlaunches : ImageLaunches L d q srcImage dstImage srcOrigin dstOrigin region)
    (hsrc : srcImage.Has srcOrigin region) (hdst : dstImage.Has dstOrigin region) :
    CopiesImage L d q srcImage dstImage srcOrigin dstOrigin region ↔
      TexelsFit dstImage srcOrigin dstOrigin region := by
  obtain ⟨herror, hcommands⟩ :=
    (copyImageHelper_launched L d q srcImage dstImage srcOrigin dstOrigin region).taken hlaunches
  obtain ⟨hsrcType, hformat⟩ := hlaunches.source
  obtain ⟨hdepth, hsrcZ, hdstZ⟩ := hlaunches.depth
  constructor
  · intro h
    have hdstType : dstImage.type = .image2D := by
      by_contra hother
      exact (h.refused (.inr fun hboth => hother hboth.2)).1 herror
    obtain ⟨launch, hlaunch, hcopies⟩ := h.copied herror
    rw [hcommands] at hlaunch
    injection hlaunch with hcommand
    injection hcommand with hwork
    injection hwork with hwork
    subst hwork
    rw [← imageFits_iff_texelsFit hsrc hdst hsrcType hdstType]
    exact (copyImage_complete_iff hdepth hsrcZ hdstZ).mp ((launch_copies_iff _).mp hcopies)
  · intro hfits
    refine ⟨fun _ => ⟨_, hcommands, (launch_copies_iff _).mpr ?_⟩, ?_⟩
    · exact (copyImage_complete_iff hdepth hsrcZ hdstZ).mpr
        ((imageFits_iff_texelsFit hsrc hdst hsrcType hfits.1).mpr hfits)
    · rintro (hformat' | hother)
      · exact absurd hformat hformat'
      · exact absurd ⟨hsrcType, hfits.1⟩ hother

/-- **When the helper equals `clEnqueueCopyImage`**, for a region inside both images: it launches
nothing, or what it launches fits. -/
theorem copiesImage_iff (hsrc : srcImage.Has srcOrigin region)
    (hdst : dstImage.Has dstOrigin region) :
    CopiesImage L d q srcImage dstImage srcOrigin dstOrigin region ↔
      (ImageLaunches L d q srcImage dstImage srcOrigin dstOrigin region →
        TexelsFit dstImage srcOrigin dstOrigin region) := by
  by_cases hlaunches : ImageLaunches L d q srcImage dstImage srcOrigin dstOrigin region
  · rw [imp_iff_right hlaunches]
    exact hlaunches.copies_iff hsrc hdst
  · obtain ⟨herror, hcommands⟩ :=
      (copyImageHelper_launched L d q srcImage dstImage srcOrigin dstOrigin region).failed hlaunches
    exact iff_of_true ⟨fun h => absurd h herror, fun _ => ⟨herror, hcommands⟩⟩
      fun h => absurd h hlaunches

/-- An image of bytes. -/
def grey (type : MemObjectType) (width height : Nat) : Image :=
  ⟨type, ⟨0x10B0, .unormInt8⟩, width, height⟩

theorem imageLaunches_grey (type : MemObjectType) (region : Size3) (hdepth : region.z = 1) :
    ImageLaunches overriding willing emptyQueue (grey .image2D 64 4) (grey type 64 4) Size3.zero
      Size3.zero region := by
  refine ⟨rfl, rfl, rfl, rfl, rfl, ?_, ⟨.float, rfl⟩, fun _ _ => rfl, rfl⟩
  simp [checkImages, hdepth, Size3.zero, grey]

/-- A region of 32 times 2 texels is copied. -/
theorem copiesImage_tile :
    CopiesImage overriding willing emptyQueue (grey .image2D 64 4) (grey .image2D 64 4) Size3.zero
      Size3.zero ⟨32, 2, 1⟩ :=
  (copiesImage_iff ⟨by decide, by decide⟩ ⟨by decide, by decide⟩).mpr fun _ =>
    ⟨rfl, fun _ _ => by decide⟩

/-- For one texel 32 are written; and a three-dimensional destination is taken for a two-dimensional
one. -/
theorem one_texel_writes_a_row :
    ¬CopiesImage overriding willing emptyQueue (grey .image2D 64 4) (grey .image2D 64 4) Size3.zero
        Size3.zero ⟨1, 1, 1⟩ ∧
      ¬CopiesImage overriding willing emptyQueue (grey .image2D 64 4) (grey .image3D 64 4)
        Size3.zero Size3.zero ⟨32, 2, 1⟩ := by
  constructor
  · rw [(imageLaunches_grey .image2D ⟨1, 1, 1⟩ rfl).copies_iff ⟨by decide, by decide⟩
      ⟨by decide, by decide⟩]
    intro hfits
    exact absurd (hfits.2 (by decide) (by decide)).2.2.2.2 (by decide)
  · rw [(imageLaunches_grey .image3D ⟨32, 2, 1⟩ rfl).copies_iff ⟨by decide, by decide⟩
      ⟨by decide, by decide⟩]
    intro hfits
    cases hfits.1

end

end CLIntercept.Override
