import CLIntercept.Override.Calls
import Mathlib.Data.Nat.ModEq

/-!
# What the launches cover

An operation is complete if the launch performs exactly the moves that were requested. For each kind
of launch this module says when that is so. The arguments of the kernels are `cl_uint`s and
coordinates are `int`s, so a region has to end where these reach; the kernels for images do not look
at the region, so its width has to be a multiple of the local size, or end with the image.
-/

set_option autoImplicit false

namespace CLIntercept.Override

/-! ## Numbers -/

theorem toUInt_lt (n : Nat) : toUInt n < uintModulus :=
  Nat.mod_lt n (by decide)

theorem toUInt_eq {n : Nat} (h : n < uintModulus) : toUInt n = n := Nat.mod_eq_of_lt h

theorem toInt_lt (n : Nat) : toInt n < 2 ^ 31 := by
  have h := toUInt_lt n
  unfold toInt
  unfold uintModulus at *
  split <;> omega

theorem toInt_eq {n : Nat} (h : n < 2 ^ 31) : toInt n = n := by
  have hn : toUInt n = n := toUInt_eq (by unfold uintModulus; omega)
  simp only [toInt, hn, h, if_true]

/-- Past what an `int` holds, and not far past it, it is negative. -/
theorem toInt_neg {n : Nat} (h : 2 ^ 31 ≤ n) (h' : n < uintModulus) : toInt n < 0 := by
  unfold toInt
  rw [toUInt_eq h', if_neg (by omega)]
  omega

/-- Rounding up loses no work item, unless it overflows. -/
theorem le_evenMultiple {n : Nat} (h : n + localWorkSize ≤ sizeModulus) : n ≤ evenMultiple n := by
  unfold evenMultiple
  unfold localWorkSize at *
  split
  · exact Nat.le_refl n
  next hn =>
    rcases Nat.lt_or_ge (n + (32 - n % 32)) sizeModulus with hlt | hge
    · rw [Nat.mod_eq_of_lt hlt]
      omega
    · omega

/-- Rounding up adds less than a work group. -/
theorem evenMultiple_le (n : Nat) : evenMultiple n ≤ n + localWorkSize := by
  unfold evenMultiple
  split
  · omega
  · exact Nat.le_trans (Nat.mod_le _ _) (by omega)

/-! ## Buffers -/

section

variable {element : Element} {srcBuffer dstBuffer : Buffer} {srcOffset dstOffset bytes : Nat}

theorem Element.size_pos (element : Element) : 0 < element.size := by
  cases element <;> decide

/-- The moves of a region of bytes. -/
def byteRegion (srcOffset dstOffset bytes : Nat) (m : Move) : Prop :=
  ∃ j < bytes, m = .byte (srcOffset + j) (dstOffset + j)

/-- **When a buffer copy is complete**: the region is in both buffers, and its size and the elements
that it lies in can be counted in a `cl_uint`. -/
def BufferFits (element : Element) (srcBuffer dstBuffer : Buffer)
    (srcOffset dstOffset bytes : Nat) : Prop :=
  0 < bytes → bytes < uintModulus ∧
    srcOffset + bytes ≤ srcBuffer.size ∧ dstOffset + bytes ≤ dstBuffer.size ∧
    (srcOffset + bytes - 1) / element.size < uintModulus ∧
    (dstOffset + bytes - 1) / element.size < uintModulus

/-- Byte `i` behind an argument, as the kernel computes its address. -/
def address (size offset i : Nat) : Nat := toUInt (toUInt (offset / size) + i / size) * size + i % size

/-- An element's number fits into an unsigned integer of the device. -/
theorem address_div_lt {size : Nat} (hsize : 0 < size) (offset i : Nat) :
    address size offset i / size < uintModulus := by
  unfold address
  rw [Nat.mul_comm, Nat.mul_add_div hsize, Nat.div_eq_of_lt (Nat.mod_lt i hsize), Nat.add_zero]
  exact toUInt_lt _

/-- An aligned offset does not move bytes within their elements. -/
theorem add_mod_of_dvd {size offset : Nat} (hdvd : size ∣ offset) (i : Nat) :
    (offset + i) % size = i % size := by
  obtain ⟨a, rfl⟩ := hdvd
  rw [Nat.mul_add_mod]

/-- An address that can be counted is the right one. -/
theorem address_eq {size offset i : Nat} (hdvd : size ∣ offset)
    (h : (offset + i) / size < uintModulus) : address size offset i = offset + i := by
  have hdiv : (offset + i) / size = offset / size + i / size := Nat.add_div_of_dvd_right hdvd
  rw [hdiv] at h
  have hq : toUInt (toUInt (offset / size) + i / size) = (offset + i) / size := by
    have hle : offset / size < uintModulus := Nat.lt_of_le_of_lt (Nat.le_add_right _ _) h
    rw [toUInt_eq hle, toUInt_eq h, hdiv]
  rw [address, hq, ← add_mod_of_dvd hdvd i]
  exact Nat.div_add_mod' _ _

/-- Two bytes whose numbers fit in a `cl_uint` have different addresses. -/
theorem address_inj {size offset i j : Nat} (hsize : 0 < size) (hdvd : size ∣ offset)
    (hi : i < uintModulus) (hj : j < uintModulus) (h : address size offset i = offset + j) :
    i = j := by
  have hmod : i % size = j % size := by
    have := congrArg (· % size) h
    simpa only [address, Nat.mul_add_mod', Nat.mod_mod, add_mod_of_dvd hdvd] using this
  have hdiv : toUInt (toUInt (offset / size) + i / size) = offset / size + j / size := by
    have := congrArg (· / size) h
    simp only [address] at this
    rw [Nat.mul_comm, Nat.mul_add_div hsize, Nat.div_eq_of_lt (Nat.mod_lt i hsize), Nat.add_zero,
      Nat.add_div_of_dvd_right hdvd] at this
    exact this
  have hi' : i / size < uintModulus := Nat.lt_of_le_of_lt (Nat.div_le_self i size) hi
  have hj' : j / size < uintModulus := Nat.lt_of_le_of_lt (Nat.div_le_self j size) hj
  have hquot : i / size = j / size := by
    generalize i / size = a, j / size = b, offset / size = o at hdiv hi' hj'
    unfold toUInt uintModulus at *
    omega
  rw [← Nat.div_add_mod i size, ← Nat.div_add_mod j size, hquot, hmod]

/-- Byte `k` of the element `index`. -/
theorem element_byte (index : Nat) {size k : Nat} (hk : k < size) :
    (index * size + k) / size = index ∧ (index * size + k) % size = k := by
  have hsize : 0 < size := Nat.zero_lt_of_lt hk
  constructor
  · rw [Nat.mul_comm, Nat.mul_add_div hsize, Nat.div_eq_of_lt hk, Nat.add_zero]
  · rw [Nat.mul_comm, Nat.mul_add_mod, Nat.mod_eq_of_lt hk]

/-- A work item moves the bytes of its element that are in the region. -/
theorem BufferLaunch.mem_workItem_iff {l : BufferLaunch} {globalId : Nat} {m : Move} :
    m ∈ l.workItem globalId ↔ ∃ i < l.bytesToRead, i / l.element.size = toUInt globalId ∧
      m = .byte (toUInt (l.srcOffset + i / l.element.size) * l.element.size + i % l.element.size)
        (toUInt (l.dstOffset + i / l.element.size) * l.element.size + i % l.element.size) := by
  have hsize := l.element.size_pos
  generalize hg : l.element.size = g at *
  generalize hx : toUInt globalId = index
  have hwhole := Nat.div_add_mod' l.bytesToRead g
  have hrest := Nat.mod_lt l.bytesToRead hsize
  simp only [BufferLaunch.workItem, copyBytes, hg, hx]
  constructor
  · intro hm
    split at hm
    next hlt =>
      obtain ⟨k, hk, rfl⟩ := List.mem_map.mp hm
      have hk := List.mem_range.mp hk
      obtain ⟨hdiv, hmod⟩ := element_byte index hk
      have hle : (index + 1) * g ≤ l.bytesToRead / g * g := Nat.mul_le_mul_right g hlt
      rw [Nat.add_one_mul] at hle
      refine ⟨index * g + k, by omega, hdiv, ?_⟩
      rw [hdiv, hmod]
    next hge =>
      split at hm
      next heq =>
        obtain ⟨k, hk, rfl⟩ := List.mem_map.mp hm
        have hk := List.mem_range.mp hk
        obtain ⟨hdiv, hmod⟩ := element_byte index (Nat.lt_trans hk hrest)
        refine ⟨index * g + k, by rw [heq]; omega, hdiv, ?_⟩
        rw [hdiv, hmod]
      · exact absurd hm List.not_mem_nil
  · intro h
    obtain ⟨i, hi, rfl, rfl⟩ := h
    have hi' := Nat.div_add_mod' i g
    have hk := Nat.mod_lt i hsize
    split
    · exact List.mem_map.mpr ⟨i % g, List.mem_range.mpr hk, rfl⟩
    next hge =>
      have hle : i / g ≤ l.bytesToRead / g := Nat.div_le_div_right (Nat.le_of_lt hi)
      have heq : i / g = l.bytesToRead / g := by omega
      rw [if_pos heq]
      refine List.mem_map.mpr ⟨i % g, List.mem_range.mpr ?_, rfl⟩
      rw [heq] at hi'
      omega

/-- What a copy performs, byte by byte of the size that the kernel is given. -/
theorem byte_of_performs {m : Move}
    (h : (Work.copyBuffer (copyBufferLaunch element srcBuffer dstBuffer srcOffset dstOffset
      bytes)).Performs m) :
    ∃ i < toUInt bytes, m = .byte (address element.size srcOffset i)
      (address element.size dstOffset i) ∧
      address element.size srcOffset i < srcBuffer.size ∧
      address element.size dstOffset i < dstBuffer.size := by
  obtain ⟨hinside, globalId, _, hm⟩ := h
  obtain ⟨i, hi, _, rfl⟩ := BufferLaunch.mem_workItem_iff.mp hm
  exact ⟨i, hi, rfl, hinside⟩

/-- There are enough work items for it. -/
theorem performs_byte (element : Element) (srcBuffer dstBuffer : Buffer)
    (srcOffset dstOffset : Nat) {i : Nat} (hbytes : bytes < uintModulus) (hi : i < bytes)
    (hsrc : address element.size srcOffset i < srcBuffer.size)
    (hdst : address element.size dstOffset i < dstBuffer.size) :
    (Work.copyBuffer (copyBufferLaunch element srcBuffer dstBuffer srcOffset dstOffset
      bytes)).Performs (.byte (address element.size srcOffset i)
        (address element.size dstOffset i)) := by
  have hsize := element.size_pos
  have hindex : i / element.size ≤ i := Nat.div_le_self i element.size
  have hcount : i / element.size < bytes / element.size +
      if bytes % element.size = 0 then 0 else 1 := by
    have hi' := Nat.div_add_mod' i element.size
    have hb' := Nat.div_add_mod' bytes element.size
    have hle : i / element.size ≤ bytes / element.size := Nat.div_le_div_right (Nat.le_of_lt hi)
    split
    next hzero =>
      rw [hzero] at hb'
      rw [Nat.add_zero]
      refine Nat.lt_of_le_of_ne hle fun heq => ?_
      rw [heq] at hi'
      omega
    next => omega
  have htotal : bytes / element.size ≤ bytes := Nat.div_le_self bytes element.size
  have hglobal : bytes / element.size + (if bytes % element.size = 0 then 0 else 1) ≤
      evenMultiple (bytes / element.size + if bytes % element.size = 0 then 0 else 1) := by
    apply le_evenMultiple
    unfold uintModulus at hbytes
    unfold localWorkSize sizeModulus
    split <;> omega
  refine ⟨⟨hsrc, hdst⟩, i / element.size, ?_, BufferLaunch.mem_workItem_iff.mpr ⟨i, ?_, ?_, rfl⟩⟩
  · exact Nat.lt_of_lt_of_le hcount hglobal
  · simpa only [copyBufferLaunch, toUInt_eq hbytes] using hi
  · exact (toUInt_eq (Nat.lt_of_le_of_lt hindex (Nat.lt_trans hi hbytes))).symm

/-- What is covered fits: the last byte is in both buffers and has an address, and there are no more
bytes than the kernel is told. -/
theorem bufferFits_of_complete (hsrc : element.size ∣ srcOffset)
    (h : ∀ m, byteRegion srcOffset dstOffset bytes m →
      (Work.copyBuffer (copyBufferLaunch element srcBuffer dstBuffer srcOffset dstOffset
        bytes)).Performs m) :
    BufferFits element srcBuffer dstBuffer srcOffset dstOffset bytes := by
  intro hpos
  have hsize := element.size_pos
  have hbytes : bytes < uintModulus := by
    by_contra hge
    -- the kernel is given fewer bytes, so one with a number that it can count is not copied
    have hlt := toUInt_lt bytes
    obtain ⟨i, hi, heq, _, _⟩ := byte_of_performs (h _ ⟨toUInt bytes, by omega, rfl⟩)
    simp only [Move.byte.injEq] at heq
    have := address_inj hsize hsrc (by omega) hlt heq.1.symm
    omega
  obtain ⟨i, _, heq, hins, hind⟩ := byte_of_performs (h _ ⟨bytes - 1, by omega, rfl⟩)
  simp only [Move.byte.injEq] at heq
  have hsrc' := address_div_lt hsize srcOffset i
  have hdst' := address_div_lt hsize dstOffset i
  rw [← heq.1] at hsrc' hins
  rw [← heq.2] at hdst' hind
  rw [Nat.add_sub_assoc hpos, Nat.add_sub_assoc hpos]
  exact ⟨hbytes, by omega, by omega, hsrc', hdst'⟩

/-- In a region that fits, every byte has the right address on both sides. -/
theorem BufferFits.address_eq (h : BufferFits element srcBuffer dstBuffer srcOffset dstOffset bytes)
    (hsrc : element.size ∣ srcOffset) (hdst : element.size ∣ dstOffset) {j : Nat} (hj : j < bytes) :
    address element.size srcOffset j = srcOffset + j ∧
      address element.size dstOffset j = dstOffset + j := by
  obtain ⟨_, _, _, hsrc', hdst'⟩ := h (by omega)
  have hsize := element.size_pos
  constructor
  · refine Override.address_eq hsrc ?_
    exact Nat.lt_of_le_of_lt (Nat.div_le_div_right (by omega)) hsrc'
  · refine Override.address_eq hdst ?_
    exact Nat.lt_of_le_of_lt (Nat.div_le_div_right (by omega)) hdst'

/-- **Copies of buffers are complete exactly if they fit**. -/
theorem copyBuffer_complete_iff (hsrc : element.size ∣ srcOffset)
    (hdst : element.size ∣ dstOffset) :
    (∀ m, (Work.copyBuffer (copyBufferLaunch element srcBuffer dstBuffer srcOffset dstOffset
      bytes)).Performs m ↔ byteRegion srcOffset dstOffset bytes m) ↔
      BufferFits element srcBuffer dstBuffer srcOffset dstOffset bytes := by
  constructor
  · intro h
    exact bufferFits_of_complete hsrc fun m => (h m).mpr
  · intro h m
    constructor
    · intro hm
      obtain ⟨i, hi, rfl, _, _⟩ := byte_of_performs hm
      have hi : i < bytes := Nat.lt_of_lt_of_le hi (Nat.mod_le _ _)
      obtain ⟨hsrc', hdst'⟩ := h.address_eq hsrc hdst hi
      rw [hsrc', hdst']
      exact ⟨i, hi, rfl⟩
    · intro hm
      obtain ⟨j, hj, rfl⟩ := hm
      obtain ⟨hbytes, hins, hind, _, _⟩ := h (by omega)
      obtain ⟨hsrc', hdst'⟩ := h.address_eq hsrc hdst hj
      have hperforms := performs_byte element srcBuffer dstBuffer srcOffset dstOffset hbytes hj
        (by omega) (by omega)
      rwa [hsrc', hdst'] at hperforms

/-- The kernel is chosen so that the offsets are whole elements. -/
theorem copyBufferElement_dvd (config : Config) (srcOffset dstOffset : Nat) :
    (copyBufferElement config srcOffset dstOffset).size ∣ srcOffset ∧
      (copyBufferElement config srcOffset dstOffset).size ∣ dstOffset := by
  unfold copyBufferElement
  split
  next h => exact ⟨Nat.dvd_of_mod_eq_zero h.2.1, Nat.dvd_of_mod_eq_zero h.2.2⟩
  next =>
    split
    next h => exact ⟨Nat.dvd_of_mod_eq_zero h.2.1, Nat.dvd_of_mod_eq_zero h.2.2⟩
    next => exact ⟨Nat.one_dvd _, Nat.one_dvd _⟩

end

/-! ## Images -/

section

variable {colour : Colour} {srcImage dstImage : Image} {srcOrigin dstOrigin region : Size3}

/-- The moves of a region of texels. -/
def texelRegion (srcOrigin dstOrigin region : Size3) (m : Move) : Prop :=
  ∃ p : Size3, p.x < region.x ∧ p.y < region.y ∧ p.z < region.z ∧
    m = .texel (srcOrigin.add p) (dstOrigin.add p)

/-- How far an `int` reaches into an image. -/
def reach (size : Nat) : Nat := min size (2 ^ 31)

/-- **When an image copy is complete**, of a region that is one texel deep: it is in both images,
which are what the kernel declares, and the work items past its width have nothing to write. -/
def ImageFits (srcImage dstImage : Image) (srcOrigin dstOrigin region : Size3) : Prop :=
  0 < region.x → 0 < region.y →
    srcImage.type = .image2D ∧ dstImage.type = .image2D ∧
    srcOrigin.x + region.x ≤ reach srcImage.width ∧
    srcOrigin.y + region.y ≤ reach srcImage.height ∧
    dstOrigin.x + region.x ≤ reach dstImage.width ∧
    dstOrigin.y + region.y ≤ reach dstImage.height ∧
    (region.x % localWorkSize = 0 ∨ dstOrigin.x + region.x = reach dstImage.width)

/-- A coordinate is the sum, while an `int` can hold it. -/
theorem coordinate_eq (globalId origin : Nat) (h : globalId + origin < 2 ^ 31) :
    coordinate globalId (toUInt origin) = (origin + globalId : Nat) := by
  have hid : globalId < uintModulus := by unfold uintModulus; omega
  have horigin : origin < uintModulus := by unfold uintModulus; omega
  rw [coordinate, toUInt_eq hid, toUInt_eq horigin, toInt_eq h, Nat.add_comm]

theorem coordinate_lt (globalId origin : Nat) : coordinate globalId origin < 2 ^ 31 := toInt_lt _

/-- Inside, clamping changes nothing. -/
theorem clampToEdge_eq {n size : Nat} (h : n < size) : clampToEdge n size = n := by
  unfold clampToEdge
  omega

/-- What is read is in the image and in reach. -/
theorem clampToEdge_lt_reach {size : Nat} (hsize : 0 < size) (globalId origin : Nat) :
    clampToEdge (coordinate globalId origin) size < reach size := by
  have h := coordinate_lt globalId origin
  unfold clampToEdge reach
  omega

/-- What a work item writes is in reach, too. -/
theorem texel_of_workItem {l : ImageLaunch} {x y : Nat} {m : Move} (h : l.workItem x y = some m) :
    l.srcImage.type = .image2D ∧ l.dstImage.type = .image2D ∧
    ∃ src dst : Size3, m = .texel src dst ∧
      src.x < reach l.srcImage.width ∧ src.y < reach l.srcImage.height ∧
      dst.x < reach l.dstImage.width ∧ dst.y < reach l.dstImage.height := by
  simp only [ImageLaunch.workItem] at h
  split at h
  next hc =>
    obtain ⟨hsrc, hdst, hw, hh, hx, hx', hy, hy'⟩ := hc
    cases h
    have hltx := coordinate_lt x l.dstOrigin.x
    have hlty := coordinate_lt y l.dstOrigin.y
    refine ⟨hsrc, hdst, _, _, rfl, clampToEdge_lt_reach hw _ _, clampToEdge_lt_reach hh _ _, ?_, ?_⟩
    · simp only [reach]
      omega
    · simp only [reach]
      omega
  · cases h

/-- A work item whose coordinates are in the destination writes there, whatever it reads. -/
theorem workItem_writes (colour : Colour) (srcOrigin region : Size3) {x y : Nat}
    (hsrc : srcImage.type = .image2D) (hdst : dstImage.type = .image2D)
    (hw : 0 < srcImage.width) (hh : 0 < srcImage.height)
    (hdx : dstOrigin.x + x < reach dstImage.width)
    (hdy : dstOrigin.y + y < reach dstImage.height) :
    (copyImageLaunch colour srcImage dstImage srcOrigin dstOrigin region).workItem x y =
      some (.texel
        ⟨clampToEdge (coordinate x (toUInt srcOrigin.x)) srcImage.width,
          clampToEdge (coordinate y (toUInt srcOrigin.y)) srcImage.height, 0⟩
        ⟨dstOrigin.x + x, dstOrigin.y + y, 0⟩) := by
  unfold reach at *
  have hdx' := coordinate_eq x dstOrigin.x (by omega)
  have hdy' := coordinate_eq y dstOrigin.y (by omega)
  simp only [ImageLaunch.workItem, copyImageLaunch, Size3.toUInt, hdx', hdy']
  rw [if_pos ⟨hsrc, hdst, hw, hh, by omega, by omega, by omega, by omega⟩, Int.toNat_natCast,
    Int.toNat_natCast]

/-- A work item whose coordinates are in both images copies its texel. -/
theorem workItem_eq {x y : Nat} (hsrc : srcImage.type = .image2D) (hdst : dstImage.type = .image2D)
    (hsx : srcOrigin.x + x < reach srcImage.width) (hsy : srcOrigin.y + y < reach srcImage.height)
    (hdx : dstOrigin.x + x < reach dstImage.width)
    (hdy : dstOrigin.y + y < reach dstImage.height) :
    (copyImageLaunch colour srcImage dstImage srcOrigin dstOrigin region).workItem x y =
      some (.texel ⟨srcOrigin.x + x, srcOrigin.y + y, 0⟩
        ⟨dstOrigin.x + x, dstOrigin.y + y, 0⟩) := by
  have hsx' : srcOrigin.x + x < srcImage.width ∧ srcOrigin.x + x < 2 ^ 31 := Nat.lt_min.mp hsx
  have hsy' : srcOrigin.y + y < srcImage.height ∧ srcOrigin.y + y < 2 ^ 31 := Nat.lt_min.mp hsy
  rw [workItem_writes colour srcOrigin region hsrc hdst (by omega) (by omega) hdx hdy,
    coordinate_eq x _ (by omega),
    coordinate_eq y _ (by omega), clampToEdge_eq hsx'.1, clampToEdge_eq hsy'.1]

/-- A work item past an edge that the region ends at writes nothing. -/
theorem workItem_past {x y : Nat} (hend : dstOrigin.x + region.x = reach dstImage.width)
    (hx : region.x ≤ x) (hx' : x ≤ region.x + localWorkSize) :
    (copyImageLaunch colour srcImage dstImage srcOrigin dstOrigin region).workItem x y = none := by
  have hid : x < uintModulus := by
    unfold reach at hend
    unfold localWorkSize at hx'
    unfold uintModulus
    omega
  have horigin : dstOrigin.x < uintModulus := by
    unfold reach at hend
    unfold uintModulus
    omega
  have hcoord : coordinate x (toUInt dstOrigin.x) = toInt (x + dstOrigin.x) := by
    rw [coordinate, toUInt_eq hid, toUInt_eq horigin]
  simp only [ImageLaunch.workItem, copyImageLaunch, Size3.toUInt, hcoord]
  refine if_neg ?_
  rintro ⟨_, _, _, _, hpos, hlt, _, _⟩
  unfold localWorkSize at hx'
  unfold reach at hend
  rcases Nat.lt_or_ge (x + dstOrigin.x) (2 ^ 31) with hsmall | hlarge
  · rw [toInt_eq hsmall] at hlt
    omega
  · have := toInt_neg hlarge (by unfold uintModulus; omega)
    omega

/-- A region that is one texel deep, in the first plane of both images. -/
theorem texelRegion_iff (hdepth : region.z = 1) (hsrc : srcOrigin.z = 0) (hdst : dstOrigin.z = 0)
    {m : Move} :
    texelRegion srcOrigin dstOrigin region m ↔
      ∃ x < region.x, ∃ y < region.y, m = .texel ⟨srcOrigin.x + x, srcOrigin.y + y, 0⟩
        ⟨dstOrigin.x + x, dstOrigin.y + y, 0⟩ := by
  constructor
  · intro h
    obtain ⟨⟨x, y, z⟩, hx, hy, hz, rfl⟩ := h
    obtain rfl : z = 0 := by simp only at hz; omega
    refine ⟨x, hx, y, hy, ?_⟩
    simp only [Size3.add, hsrc, hdst, Nat.add_zero]
  · intro h
    obtain ⟨x, hx, y, hy, rfl⟩ := h
    refine ⟨⟨x, y, 0⟩, hx, hy, by simp only; omega, ?_⟩
    simp only [Size3.add, hsrc, hdst, Nat.add_zero]

/-- What is covered exactly fits: the last texel is in reach of both images, and the work item right
after the region has nothing to write. -/
theorem imageFits_of_complete (hdepth : region.z = 1)
    (h : ∀ m, (Work.copyImage (copyImageLaunch colour srcImage dstImage srcOrigin dstOrigin
      region)).Performs m ↔ ∃ x < region.x, ∃ y < region.y,
        m = .texel ⟨srcOrigin.x + x, srcOrigin.y + y, 0⟩
          ⟨dstOrigin.x + x, dstOrigin.y + y, 0⟩) :
    ImageFits srcImage dstImage srcOrigin dstOrigin region := by
  intro hx hy
  obtain ⟨x, _, y, _, _, hitem⟩ :=
    (h _).mpr ⟨region.x - 1, by omega, region.y - 1, by omega, rfl⟩
  obtain ⟨htsrc, htdst, src, dst, heq, hsx, hsy, hdx, hdy⟩ := texel_of_workItem hitem
  simp only [Move.texel.injEq] at heq
  obtain ⟨rfl, rfl⟩ := heq
  simp only [copyImageLaunch] at htsrc htdst hsx hsy hdx hdy
  refine ⟨htsrc, htdst, by omega, by omega, by omega, by omega, ?_⟩
  by_contra hneither
  push Not at hneither
  obtain ⟨hmod, hne⟩ := hneither
  have hinto : dstOrigin.x + region.x < reach dstImage.width := by omega
  have hglobal : region.x < evenMultiple region.x := by
    unfold reach at hinto
    unfold evenMultiple localWorkSize at *
    rw [if_neg hmod, Nat.mod_eq_of_lt (by unfold sizeModulus; omega)]
    omega
  have hextra := workItem_writes colour srcOrigin region (x := region.x) (y := 0) htsrc htdst
    (Nat.zero_lt_of_lt (Nat.lt_min.mp hsx).1) (Nat.zero_lt_of_lt (Nat.lt_min.mp hsy).1) hinto
    (by omega)
  obtain ⟨x, hx, y, _, heq⟩ :=
    (h _).mp ⟨region.x, hglobal, 0, hy, by simp only [copyImageLaunch]; omega, hextra⟩
  simp only [Move.texel.injEq, Size3.mk.injEq] at heq
  omega

/-- A work item of a region that fits writes only inside it. -/
theorem ImageFits.lt_of_workItem (h : ImageFits srcImage dstImage srcOrigin dstOrigin region)
    {x y : Nat} {m : Move} (hx : x < evenMultiple region.x) (hy : y < region.y)
    (hitem : (copyImageLaunch colour srcImage dstImage srcOrigin dstOrigin region).workItem x y =
      some m) : x < region.x := by
  have hpos : 0 < region.x := by
    refine Nat.pos_of_ne_zero fun hzero => ?_
    rw [hzero] at hx
    exact Nat.not_lt_zero x hx
  obtain ⟨_, _, _, _, _, _, hwidth⟩ := h hpos (by omega)
  rcases hwidth with hmod | hend
  · rwa [evenMultiple, if_pos hmod] at hx
  · by_contra hge
    have hle : x ≤ region.x + localWorkSize :=
      Nat.le_trans (Nat.le_of_lt hx) (evenMultiple_le _)
    rw [workItem_past hend (by omega) hle] at hitem
    cases hitem

/-- **Copies of images are complete exactly if they fit**. -/
theorem copyImage_complete_iff (hdepth : region.z = 1) (hsrc : srcOrigin.z = 0)
    (hdst : dstOrigin.z = 0) :
    (∀ m, (Work.copyImage (copyImageLaunch colour srcImage dstImage srcOrigin dstOrigin
      region)).Performs m ↔ texelRegion srcOrigin dstOrigin region m) ↔
      ImageFits srcImage dstImage srcOrigin dstOrigin region := by
  simp only [texelRegion_iff hdepth hsrc hdst]
  constructor
  · exact imageFits_of_complete hdepth
  · intro h m
    constructor
    · intro hm
      obtain ⟨x, hx, y, hy, _, hitem⟩ := hm
      have hxlt : x < region.x := h.lt_of_workItem hx hy hitem
      simp only [copyImageLaunch] at hy
      obtain ⟨hsrc', hdst', hsx, hsy, hdx, hdy, _⟩ := h (by omega) (by omega)
      rw [workItem_eq hsrc' hdst' (by omega) (by omega) (by omega) (by omega)] at hitem
      cases hitem
      exact ⟨x, hxlt, y, hy, rfl⟩
    · intro hm
      obtain ⟨x, hx, y, hy, rfl⟩ := hm
      obtain ⟨hsrc', hdst', hsx, hsy, hdx, hdy, _⟩ := h (by omega) (by omega)
      have hglobal : region.x ≤ evenMultiple region.x := by
        unfold reach at hsx
        exact le_evenMultiple (by unfold localWorkSize sizeModulus; omega)
      refine ⟨x, Nat.lt_of_lt_of_le hx hglobal, y, hy, by simp only [copyImageLaunch]; omega, ?_⟩
      exact workItem_eq hsrc' hdst' (by omega) (by omega) (by omega) (by omega)

end

/-! ## Blocks -/

section

variable {l : BlockLaunch} {global : Size3}

/-- How many blocks cover `n` pixels. -/
def blockCount (n : Nat) : Nat := (n + blockSize - 1) / blockSize

/-- The blocks of an image of the size `global`. -/
def blockRegion (global : Size3) (m : Move) : Prop :=
  ∃ x < blockCount global.x, ∃ y < blockCount global.y, m = .block x y

/-- **When a launch estimates all blocks**, from the value that argument 6 has: column numbers fit
in an `int`, and each work-group does as many blocks as there are rows. -/
def BlocksFit (global : Size3) (iterations : Option Int) : Prop :=
  0 < global.x → 0 < global.y →
    blockCount global.x ≤ 2 ^ 31 ∧ iterations = some (blockCount global.y : Int)

theorem blockCount_pos {n : Nat} (h : 0 < n) : 0 < blockCount n := by
  unfold blockCount blockSize
  omega

/-- A block has a texel in it. -/
theorem pos_of_lt_blockCount {n i : Nat} (h : i < blockCount n) : 0 < n := by
  unfold blockCount blockSize at h
  omega

/-- What a launch of the right shape performs. -/
theorem performs_block_iff {range : Size3} (hdim : l.range.workDim = 2) (hsize : l.RequiredSize)
    (hrange : l.range.globalWorkSize = some range) {x y : Int} :
    (Work.estimateBlocks l).Performs (.block x y) ↔
      ∃ iterations, l.iterations = some iterations ∧
        (∃ groupId, groupId < blockCount range.x ∧ x = toInt groupId) ∧
        0 < range.y ∧ 0 ≤ y ∧ y < iterations := by
  constructor
  · intro h
    obtain ⟨x', y', heq, range', iterations, _, _, hrange', hit, hx, hy⟩ := h
    cases heq
    rw [hrange] at hrange'
    cases hrange'
    exact ⟨iterations, hit, hx, hy⟩
  · intro h
    obtain ⟨iterations, hit, hx, hy⟩ := h
    exact ⟨x, y, rfl, range, iterations, hdim, hsize, hrange, hit, hx, hy⟩

/-- What is covered exactly fits: the last block has a column number, and no row is done below it. -/
theorem blocksFit_of_complete {range : Size3} (hdim : l.range.workDim = 2) (hsize : l.RequiredSize)
    (hrange : l.range.globalWorkSize = some range)
    (hcolumns : blockCount global.x ≤ 2 ^ 31 → blockCount range.x = blockCount global.x)
    (hrows : 0 < global.y → 0 < range.y)
    (h : ∀ m, (Work.estimateBlocks l).Performs m ↔ blockRegion global m) :
    BlocksFit global l.iterations := by
  intro hx hy
  have hcx := blockCount_pos hx
  have hcy := blockCount_pos hy
  have hlast := (h _).mpr ⟨blockCount global.x - 1, by omega, blockCount global.y - 1, by omega, rfl⟩
  obtain ⟨iterations, hit, ⟨groupId, _, hgroup⟩, _, _, hlt⟩ :=
    (performs_block_iff hdim hsize hrange).mp hlast
  have hreach := toInt_lt groupId
  have hwidth : blockCount global.x ≤ 2 ^ 31 := by omega
  refine ⟨hwidth, ?_⟩
  rw [hit]
  by_contra hne
  -- one iteration more does a block below the last row
  have hbelow : (Work.estimateBlocks l).Performs (.block (0 : Nat) (blockCount global.y)) := by
    refine (performs_block_iff hdim hsize hrange).mpr
      ⟨iterations, hit, ⟨0, ?_, rfl⟩, hrows hy, by omega, ?_⟩
    · rw [hcolumns hwidth]
      exact hcx
    · rw [Option.some.injEq] at hne
      omega
  obtain ⟨x, _, y, hy', heq⟩ := (h _).mp hbelow
  simp only [Move.block.injEq] at heq
  omega

/-- A launch over `range` that has as many work-groups in dimension 0 as there are columns. -/
theorem estimateBlocks_complete_iff {range : Size3} (hdim : l.range.workDim = 2)
    (hsize : l.RequiredSize) (hrange : l.range.globalWorkSize = some range)
    (hcolumns : blockCount global.x ≤ 2 ^ 31 → blockCount range.x = blockCount global.x)
    (hrows : 0 < global.y → 0 < range.y)
    (hempty : global.y = 0 → range.y = 0 ∨ l.iterations = some 0) :
    (∀ m, (Work.estimateBlocks l).Performs m ↔ blockRegion global m) ↔
      BlocksFit global l.iterations := by
  constructor
  · exact blocksFit_of_complete hdim hsize hrange hcolumns hrows
  · intro h m
    constructor
    · intro hm
      obtain ⟨x, y, rfl, _⟩ := id hm
      obtain ⟨iterations, hit, ⟨groupId, hgroup, rfl⟩, hpos, hy0, hylt⟩ :=
        (performs_block_iff hdim hsize hrange).mp hm
      have hgx : 0 < global.x := by
        refine Nat.pos_of_ne_zero fun hzero => ?_
        rw [hcolumns (by rw [hzero]; decide), hzero] at hgroup
        exact Nat.not_lt_zero _ hgroup
      have hgy : 0 < global.y := by
        refine Nat.pos_of_ne_zero fun hzero => ?_
        rcases hempty hzero with hrange0 | hit0
        · omega
        · rw [hit0] at hit
          cases hit
          omega
      obtain ⟨hwidth, hit'⟩ := h hgx hgy
      rw [hit] at hit'
      rw [hcolumns hwidth] at hgroup
      simp only [Option.some.injEq] at hit'
      refine ⟨groupId, hgroup, y.toNat, by omega, ?_⟩
      rw [toInt_eq (by omega), Int.toNat_of_nonneg hy0]
    · intro hm
      obtain ⟨x, hx, y, hy, rfl⟩ := hm
      have hgx : 0 < global.x := pos_of_lt_blockCount hx
      have hgy : 0 < global.y := pos_of_lt_blockCount hy
      obtain ⟨hwidth, hit⟩ := h hgx hgy
      refine (performs_block_iff hdim hsize hrange).mpr
        ⟨_, hit, ⟨x, ?_, ?_⟩, hrows hgy, by omega, by omega⟩
      · rw [hcolumns hwidth]
        exact hx
      · rw [toInt_eq (by omega)]

/-- The number of blocks fits into an `int`. -/
theorem blocks_eq {n : Nat} (h : blockCount n ≤ 2 ^ 31) : blocks n = blockCount n := by
  unfold blocks
  unfold blockCount blockSize at *
  rw [Nat.mod_eq_of_lt (by unfold sizeModulus; omega)]

/-- The number of rows, as the layer sets it, is right if an `int` can hold it. -/
theorem toInt_blocks_iff {n : Nat} :
    toInt (blocks n) = blockCount n ↔ blockCount n < 2 ^ 31 := by
  constructor
  · intro h
    have := toInt_lt (blocks n)
    omega
  · intro h
    rw [blocks_eq (Nat.le_of_lt h), toInt_eq h]

/-- **The override's launch** is complete exactly if an `int` can count columns and rows. -/
theorem columnRange_complete_iff {r : NDRange} :
    (∀ m, (Work.estimateBlocks ⟨columnRange r global, some (toInt (blocks global.y))⟩).Performs m ↔
      blockRegion global m) ↔
      (0 < global.x → 0 < global.y →
        blockCount global.x ≤ 2 ^ 31 ∧ blockCount global.y < 2 ^ 31) := by
  have hcount : ∀ n, blockCount (n * blockSize) = n := by
    intro n
    unfold blockCount blockSize
    omega
  have hsize : BlockLaunch.RequiredSize
      ⟨columnRange r global, some (toInt (blocks global.y))⟩ := ⟨rfl, rfl⟩
  rw [estimateBlocks_complete_iff rfl hsize rfl]
  · simp only [BlocksFit, Option.some.injEq, toInt_blocks_iff]
  · intro hwidth
    simp only [hcount, blocks_eq hwidth]
  · exact fun _ => Nat.zero_lt_one
  · intro hzero
    rw [hzero]
    exact Or.inr rfl

/-- **The application's launch** of the override kernel is complete exactly if argument 6 happens to
be the number of rows. -/
theorem originalRange_complete_iff {r : NDRange} {iterations : Option Int} (hdim : r.workDim = 2)
    (hglobal : r.globalWorkSize = some global) (hlocal : r.localWorkSize = none) :
    (∀ m, (Work.estimateBlocks ⟨r, iterations⟩).Performs m ↔ blockRegion global m) ↔
      BlocksFit global iterations := by
  refine estimateBlocks_complete_iff hdim ?_ hglobal (fun _ => rfl) id Or.inl
  simp only [BlockLaunch.RequiredSize, hlocal]

end

end CLIntercept.Override
