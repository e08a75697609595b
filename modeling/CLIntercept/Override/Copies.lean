import CLIntercept.Override.Steps
import CLIntercept.Override.Transparency

/-!
# When the copies are transparent

Each of the six overrides for buffers and images prepares and launches, and then goes on in one of
three ways (a map and an unmap, a finish, nothing), which are treated once each. What is left of the
condition of a request is that of its steps, whether the region fits, and for a read the order of the
launch and the map.
-/

set_option autoImplicit false

namespace CLIntercept.Override

/-! ## After the launch -/

section

variable {L : Layer} {d : Driver} {q : Enqueue} {r : Request} {c : Call} {work : Work} {ok : Prop}

/-- What a read still needs after its launch. If the map or the unmap fails, there must be no event;
and if not, the map must not overtake the launch, nor the launch alone be what the application waits
for. -/
def ReadHolds (d : Driver) (q : Enqueue) (blocking : Bool) (complete nonempty : Prop) : Prop :=
  if d.answer .enqueueMap = clSuccess ∧ d.answer .enqueueUnmapMemObject = clSuccess then
    complete ∧ (nonempty → q.inOrder = true ∧ (blocking = false → q.event = false))
  else q.event = false

/-- What a write still needs: if the finish fails, there must be no event. -/
def WriteHolds (d : Driver) (q : Enqueue) (blocking : Bool) (complete : Prop) : Prop :=
  if blocking = true ∧ d.answer .finish ≠ clSuccess then q.event = false else complete

/-- A read through a temporary: the launch fills it, and the map at the end brings the bytes to the
host. -/
theorem Launched.transparent_read_iff (h : Launched ok q work c) (hwork : work.isLaunch = true)
    (hhost : r.toHost = true) :
    Transparent L q r ((c.andThen
        (·.enqueue d .enqueueMap { work := .map, blocking := r.blocking })).andThen
        (·.enqueue d .enqueueUnmapMemObject { work := .unmap })).release ↔
      (ok → ReadHolds d q r.blocking (Complete L q r work) (∃ m, r.Intends L q m)) := by
  by_cases hok : ok
  · obtain ⟨he, hc⟩ := h.taken hok
    rw [imp_iff_right hok, ReadHolds, Call.andThen_eq he]
    by_cases hmap : d.answer .enqueueMap = clSuccess
    · have hmap' : (c.enqueue d .enqueueMap { work := .map, blocking := r.blocking }).errorCode =
          clSuccess := hmap
      rw [Call.andThen_eq hmap']
      by_cases hunmap : d.answer .enqueueUnmapMemObject = clSuccess
      · rw [if_pos ⟨hmap, hunmap⟩]
        refine transparent_host_iff hunmap ?_ hwork hhost ?_
        · simp [Call.enqueue, Call.release, hmap, hunmap, hc, readCommands]
        · simp [Call.enqueue, Call.release, h.released]
      · rw [if_neg fun hboth => hunmap hboth.2]
        refine transparent_error_iff work [{ work := .map, blocking := r.blocking }] hunmap ?_ (by simp) ?_
        · simp [Call.enqueue, Call.release, hmap, hunmap, hc]
        · simp [Call.enqueue, Call.release, h.released]
    · have hmap' : (c.enqueue d .enqueueMap { work := .map, blocking := r.blocking }).errorCode ≠
          clSuccess := hmap
      rw [Call.andThen_eq_self hmap', if_neg fun hboth => hmap hboth.1]
      refine transparent_error_iff work [] hmap ?_ (by simp) ?_
      · simp [Call.enqueue, Call.release, hmap, hc]
      · simp [Call.enqueue, Call.release, h.released]
  · obtain ⟨he, hc⟩ := h.failed hok
    rw [Call.andThen_eq_self he, Call.andThen_eq_self he]
    exact iff_of_true (transparent_of_failed he hc (by simp [Call.release, h.released]))
      fun hyes => absurd hyes hok

/-- A write through a temporary, which is released once the launch is enqueued. -/
theorem Launched.transparent_write_iff (h : Launched ok q work c) (hwork : work.isLaunch = true)
    (hhost : r.toHost = false) :
    Transparent L q r (c.andThen fun c => if r.blocking then c.finish d else c).release ↔
      (ok → WriteHolds d q r.blocking (Complete L q r work)) := by
  by_cases hok : ok
  · obtain ⟨he, hc⟩ := h.taken hok
    rw [imp_iff_right hok, WriteHolds, Call.andThen_eq he]
    cases hb : r.blocking with
    | false =>
      rw [if_neg Bool.false_ne_true, if_neg fun h => Bool.false_ne_true h.1]
      exact transparent_device_iff he hc hwork hhost (by simp [hb])
        (by simp [Call.release, h.released])
    | true =>
      rw [if_pos rfl]
      have htemp : ((c.finish d).release.released.filter (· ≠ null)) =
          [(c.finish d).release.temporary].filter (· ≠ null) := by
        simp [Call.finish, Call.release, h.released]
      by_cases hfinish : d.answer .finish = clSuccess
      · rw [if_neg fun h => h.2 hfinish]
        refine transparent_device_iff hfinish hc hwork hhost (fun _ => ?_) htemp
        simp [Call.finish, Call.release, hfinish]
      · rw [if_pos ⟨rfl, hfinish⟩]
        exact transparent_error_iff work [] hfinish hc (by simp) htemp
  · obtain ⟨he, hc⟩ := h.failed hok
    rw [Call.andThen_eq_self he]
    exact iff_of_true (transparent_of_failed he hc (by simp [Call.release, h.released]))
      fun hyes => absurd hyes hok

/-- A copy between two objects of the application needs no temporary, and stands or falls with what
its launch moves. -/
theorem Launched.transparent_iff (h : Launched ok q work c) (hwork : work.isLaunch = true)
    (hhost : r.toHost = false) (hblocking : r.blocking = false) (htemp : c.temporary = null) :
    Transparent L q r c ↔ (ok → Complete L q r work) := by
  have hfilter : c.released.filter (· ≠ null) = [c.temporary].filter (· ≠ null) := by
    simp [h.released, htemp]
  by_cases hok : ok
  · obtain ⟨he, hc⟩ := h.taken hok
    rw [imp_iff_right hok]
    exact transparent_device_iff he hc hwork hhost (by simp [hblocking]) hfilter
  · obtain ⟨he, hc⟩ := h.failed hok
    exact iff_of_true (transparent_of_failed he hc hfilter) fun hyes => absurd hyes hok

end

/-! ## The copies -/

section

variable (L : Layer) (d : Driver) (q : Enqueue)

/-- The copy of a buffer is launched. -/
def BufferLaunches : Prop :=
  L.precompiledKernelOverridesMap q.context = true ∧ d.SetsKernelArgs 5 ∧
    d.answer .enqueueNDRangeKernel = clSuccess

/-- The copy of an image is launched: it passes the checks, and there is a kernel for it. -/
def ImageLaunches (srcImage dstImage : Image) (srcOrigin dstOrigin region : Size3) : Prop :=
  L.precompiledKernelOverridesMap q.context = true ∧
    d.answer .getSrcType = clSuccess ∧ d.answer .getDstType = clSuccess ∧
    d.answer .getSrcFormat = clSuccess ∧ d.answer .getDstFormat = clSuccess ∧
    checkImages srcImage.type srcImage.type srcImage.format dstImage.format srcOrigin dstOrigin
      region = clSuccess ∧
    (∃ colour, copyImageKernel srcImage.format srcImage.type srcImage.type = .ok colour) ∧
    d.SetsKernelArgs 11 ∧ d.answer .enqueueNDRangeKernel = clSuccess

variable {L d q} {c : Call} {ok : Prop} {srcImage dstImage : Image}
  {srcOrigin dstOrigin region : Size3}

/-- The error code of the search for a kernel. -/
theorem overrides_eq_success {found : Bool} :
    (if found then clSuccess else clInvalidValue) = clSuccess ↔ found = true := by
  cases found <;> decide

/-- The helper launches one kernel over both buffers, where their checks and the driver let it. -/
theorem Prepared.copyBufferHelper (h : Prepared ok c) (srcBuffer dstBuffer : Buffer)
    (srcOffset dstOffset bytes : Nat) :
    Launched (ok ∧ BufferLaunches L d q) q
      (.copyBuffer (copyBufferLaunch (copyBufferElement L.config srcOffset dstOffset) srcBuffer
        dstBuffer srcOffset dstOffset bytes))
      (c.andThen (copyBufferHelper L d q srcBuffer dstBuffer srcOffset dstOffset bytes)) := by
  unfold Override.copyBufferHelper
  rw [Call.andThen_assoc, Call.andThen_assoc]
  refine (((h.setError _).setKernelArgs 5).launch .enqueueNDRangeKernel _).congr ?_
  simp only [BufferLaunches, overrides_eq_success, and_assoc]

/-- The helper is given its temporary and makes none. -/
theorem copyBufferHelper_temporary (c : Call) (srcBuffer dstBuffer : Buffer)
    (srcOffset dstOffset bytes : Nat) :
    (copyBufferHelper L d q srcBuffer dstBuffer srcOffset dstOffset bytes c).temporary =
      c.temporary := by
  unfold Override.copyBufferHelper
  rw [Call.temporary_andThen, Call.temporary_andThen]
  · rfl
  all_goals exact fun _ => rfl

/-- The colour of the kernel, where there is one. -/
def colourOf (srcImage : Image) : Colour :=
  ((copyImageKernel srcImage.format srcImage.type srcImage.type).toOption).getD .float

/-- No kernel is chosen without an error. -/
theorem copyImageKernel_error {srcFormat : ImageFormat} {srcType dstType : MemObjectType} {e : Int}
    (h : copyImageKernel srcFormat srcType dstType = .error e) : e ≠ clSuccess := by
  unfold copyImageKernel at h
  split at h
  · split at h
    · cases h
    · cases h
      decide
  · cases h
    decide

/-- The helper for images launches one kernel over both, where checks and driver let it. -/
theorem Prepared.copyImageHelper (h : Prepared ok c) (srcImage dstImage : Image)
    (srcOrigin dstOrigin region : Size3) :
    Launched (ok ∧ ImageLaunches L d q srcImage dstImage srcOrigin dstOrigin region) q
      (.copyImage (copyImageLaunch (colourOf srcImage) srcImage dstImage srcOrigin dstOrigin region))
      (c.andThen (copyImageHelper L d q srcImage dstImage srcOrigin dstOrigin region)) := by
  unfold Override.copyImageHelper
  simp only
  rw [Call.andThen_assoc, Call.andThen_assoc, Call.andThen_assoc, Call.andThen_assoc,
    Call.andThen_assoc, Call.andThen_assoc]
  have hchecked := (((((h.setError (if L.precompiledKernelOverridesMap q.context then clSuccess else
    clInvalidValue)).query (d := d) .getSrcType).query (d := d) .getDstType).query (d := d)
    .getSrcFormat).query (d := d) .getDstFormat).setError (checkImages srcImage.type srcImage.type
      srcImage.format dstImage.format srcOrigin dstOrigin region)
  cases hkernel : copyImageKernel srcImage.format srcImage.type srcImage.type with
  | error e =>
    refine (hchecked.fail (copyImageKernel_error hkernel) _).congr (iff_of_false id ?_)
    rintro ⟨_, _, _, _, _, _, _, ⟨colour, hcolour⟩, _⟩
    rw [hkernel] at hcolour
    cases hcolour
  | ok colour =>
    have hcolour : colourOf srcImage = colour := by simp [colourOf, hkernel, Except.toOption]
    rw [hcolour]
    simp only
    rw [Call.andThen_assoc]
    refine ((hchecked.setKernelArgs 11).launch .enqueueNDRangeKernel _).congr ?_
    simp only [ImageLaunches, overrides_eq_success, hkernel, Except.ok.injEq, exists_eq', true_and,
      and_assoc]

/-- The helper for images makes no temporary either. -/
theorem copyImageHelper_temporary (c : Call) (srcImage dstImage : Image)
    (srcOrigin dstOrigin region : Size3) :
    (copyImageHelper L d q srcImage dstImage srcOrigin dstOrigin region c).temporary =
      c.temporary := by
  unfold Override.copyImageHelper
  simp only
  rw [Call.temporary_andThen, Call.temporary_andThen, Call.temporary_andThen,
    Call.temporary_andThen, Call.temporary_andThen, Call.temporary_andThen]
  · rfl
  iterate 5 exact fun _ => rfl
  intro c
  split
  · rfl
  · exact Call.temporary_andThen fun _ => rfl

/-- What is launched is one texel deep and starts in the first plane. -/
theorem ImageLaunches.depth
    (h : ImageLaunches L d q srcImage dstImage srcOrigin dstOrigin region) :
    region.z = 1 ∧ srcOrigin.z = 0 ∧ dstOrigin.z = 0 := by
  obtain ⟨_, _, _, _, _, hchecks, ⟨colour, hkernel⟩, _⟩ := h
  have htype : srcImage.type = .image2D := by
    unfold copyImageKernel at hkernel
    split at hkernel
    · split at hkernel
      next htypes => exact htypes.1
      · cases hkernel
    · cases hkernel
  rw [htype] at hchecks
  simp only [checkImages] at hchecks
  split at hchecks
  · cases hchecks
  next hdst =>
    split at hchecks
    · cases hchecks
    next hsrc => omega

end

/-! ## Each request -/

section

variable {L : Layer} {d : Driver} {q : Enqueue}

/-- A region of no bytes has no moves. -/
theorem byteRegion_nonempty {srcOffset dstOffset bytes : Nat} :
    (∃ m, byteRegion srcOffset dstOffset bytes m) ↔ 0 < bytes := by
  constructor
  · rintro ⟨_, j, hj, _⟩
    omega
  · intro h
    exact ⟨_, 0, h, rfl⟩

/-- A region has texels if both its sides are positive. -/
theorem texelRegion_nonempty {srcOrigin dstOrigin region : Size3} (hdepth : region.z = 1) :
    (∃ m, texelRegion srcOrigin dstOrigin region m) ↔ 0 < region.x ∧ 0 < region.y := by
  constructor
  · rintro ⟨_, p, hx, hy, _⟩
    omega
  · rintro ⟨hx, hy⟩
    exact ⟨_, ⟨0, 0, 0⟩, hx, hy, by simp only; omega, rfl⟩

/-- **The condition on a read of a buffer**. -/
def ReadBufferHolds (L : Layer) (d : Driver) (q : Enqueue) (srcBuffer : Buffer)
    (blockingRead : Bool) (srcOffset bytesToRead dstPtr : Nat) : Prop :=
  d.answer .getCommandQueueInfo = clSuccess ∧ d.answer .createBuffer = clSuccess ∧
    BufferLaunches L d q →
  ReadHolds d q blockingRead
    (BufferFits (copyBufferElement L.config srcOffset (dstPtr % alignSize)) srcBuffer
      (temporaryBuffer dstPtr bytesToRead) srcOffset (dstPtr % alignSize) bytesToRead)
    (0 < bytesToRead)

/-- **Reads of buffers.** -/
theorem readBuffer_transparent_iff {srcBuffer : Buffer} {blockingRead : Bool}
    {srcOffset bytesToRead dstPtr : Nat} :
    Transparent L q (.readBuffer srcBuffer blockingRead srcOffset bytesToRead dstPtr)
        (readBuffer L d q srcBuffer blockingRead srcOffset bytesToRead dstPtr) ↔
      ReadBufferHolds L d q srcBuffer blockingRead srcOffset bytesToRead dstPtr := by
  have hdvd := copyBufferElement_dvd L.config srcOffset (dstPtr % alignSize)
  have hlaunched := ((prepared_query (d := d) .getCommandQueueInfo).create (d := d)
    .createBuffer).copyBufferHelper (L := L) (d := d) (q := q) srcBuffer
      (temporaryBuffer dstPtr bytesToRead) srcOffset (dstPtr % alignSize) bytesToRead
  have := (hlaunched.transparent_read_iff (L := L) (d := d)
    (r := .readBuffer srcBuffer blockingRead srcOffset bytesToRead dstPtr) rfl rfl)
  refine this.trans ?_
  simp only [Complete, Request.Intends, copyBuffer_complete_iff hdvd.1 hdvd.2, byteRegion_nonempty,
    ReadBufferHolds, Request.blocking, and_assoc]

/-- **The condition on a write of a buffer**. -/
def WriteBufferHolds (L : Layer) (d : Driver) (q : Enqueue) (dstBuffer : Buffer)
    (blockingWrite : Bool) (dstOffset bytesToWrite srcPtr : Nat) : Prop :=
  d.answer .getCommandQueueInfo = clSuccess ∧ d.answer .createBuffer = clSuccess ∧
    BufferLaunches L d q →
  WriteHolds d q blockingWrite
    (BufferFits (copyBufferElement L.config (srcPtr % alignSize) dstOffset)
      (temporaryBuffer srcPtr bytesToWrite) dstBuffer (srcPtr % alignSize) dstOffset bytesToWrite)

/-- **Writes of buffers.** -/
theorem writeBuffer_transparent_iff {dstBuffer : Buffer} {blockingWrite : Bool}
    {dstOffset bytesToWrite srcPtr : Nat} :
    Transparent L q (.writeBuffer dstBuffer blockingWrite dstOffset bytesToWrite srcPtr)
        (writeBuffer L d q dstBuffer blockingWrite dstOffset bytesToWrite srcPtr) ↔
      WriteBufferHolds L d q dstBuffer blockingWrite dstOffset bytesToWrite srcPtr := by
  have hdvd := copyBufferElement_dvd L.config (srcPtr % alignSize) dstOffset
  have hlaunched := ((prepared_query (d := d) .getCommandQueueInfo).create (d := d)
    .createBuffer).copyBufferHelper (L := L) (d := d) (q := q)
      (temporaryBuffer srcPtr bytesToWrite) dstBuffer (srcPtr % alignSize) dstOffset bytesToWrite
  have := (hlaunched.transparent_write_iff (L := L) (d := d)
    (r := .writeBuffer dstBuffer blockingWrite dstOffset bytesToWrite srcPtr) rfl rfl)
  refine this.trans ?_
  simp only [Complete, Request.Intends, copyBuffer_complete_iff hdvd.1 hdvd.2, WriteBufferHolds,
    Request.blocking, and_assoc]

/-- **The condition on a copy of a buffer**. -/
def CopyBufferHolds (L : Layer) (d : Driver) (q : Enqueue) (srcBuffer dstBuffer : Buffer)
    (srcOffset dstOffset bytesToCopy : Nat) : Prop :=
  d.answer .getCommandQueueInfo = clSuccess ∧ BufferLaunches L d q →
  BufferFits (copyBufferElement L.config srcOffset dstOffset) srcBuffer dstBuffer srcOffset
    dstOffset bytesToCopy

/-- **Copies of buffers.** -/
theorem copyBuffer_transparent_iff {srcBuffer dstBuffer : Buffer}
    {srcOffset dstOffset bytesToCopy : Nat} :
    Transparent L q (.copyBuffer srcBuffer dstBuffer srcOffset dstOffset bytesToCopy)
        (copyBuffer L d q srcBuffer dstBuffer srcOffset dstOffset bytesToCopy) ↔
      CopyBufferHolds L d q srcBuffer dstBuffer srcOffset dstOffset bytesToCopy := by
  have hdvd := copyBufferElement_dvd L.config srcOffset dstOffset
  have hlaunched := (prepared_query (d := d) .getCommandQueueInfo).copyBufferHelper (L := L)
    (d := d) (q := q) srcBuffer dstBuffer srcOffset dstOffset bytesToCopy
  have htemp : (copyBuffer L d q srcBuffer dstBuffer srcOffset dstOffset bytesToCopy).temporary =
      null := Call.temporary_andThen fun c => copyBufferHelper_temporary c _ _ _ _ _
  refine (hlaunched.transparent_iff (L := L)
    (r := .copyBuffer srcBuffer dstBuffer srcOffset dstOffset bytesToCopy) rfl rfl rfl htemp).trans ?_
  simp only [Complete, Request.Intends, copyBuffer_complete_iff hdvd.1 hdvd.2, CopyBufferHolds]

/-- **The condition on a read of an image**. -/
def ReadImageHolds (L : Layer) (d : Driver) (q : Enqueue) (srcImage : Image) (blockingRead : Bool) :
    Option Size3 → Option Size3 → Prop
  | some srcOrigin, some region =>
    let dstImage := temporaryImage srcImage.format region
    d.answer .getCommandQueueInfo = clSuccess ∧ d.answer .getImageFormat = clSuccess ∧
      d.answer (createImage region) = clSuccess ∧
      ImageLaunches L d q srcImage dstImage srcOrigin Size3.zero region →
    ReadHolds d q blockingRead (ImageFits srcImage dstImage srcOrigin Size3.zero region)
      (0 < region.x ∧ 0 < region.y)
  | _, _ => True

/-- `NULL` for the origin or the region is refused before anything is done. -/
theorem transparent_refused {r : Request} :
    Transparent L q r (({} : Call).setError clInvalidValue).release :=
  transparent_of_failed (by decide) rfl (by decide)

/-- **Reads of images**, with an origin and a region that may be missing. -/
theorem readImage_transparent_iff {srcImage : Image} {blockingRead : Bool}
    {srcOrigin region : Option Size3} :
    Transparent L q (.readImage srcImage blockingRead srcOrigin region)
        (readImage L d q srcImage blockingRead srcOrigin region) ↔
      ReadImageHolds L d q srcImage blockingRead srcOrigin region := by
  match srcOrigin, region with
  | some srcOrigin, some region =>
    have hlaunched := (((prepared_query (d := d) .getCommandQueueInfo).query (d := d)
      .getImageFormat).create (d := d) (createImage region)).copyImageHelper (L := L) (d := d)
        (q := q) srcImage (temporaryImage srcImage.format region) srcOrigin Size3.zero region
    refine (hlaunched.transparent_read_iff (L := L) (d := d)
      (r := .readImage srcImage blockingRead (some srcOrigin) (some region)) rfl rfl).trans ?_
    simp only [ReadImageHolds, Request.blocking, and_assoc]
    refine imp_congr_right fun hok => ?_
    have hdepth := hok.2.2.2.depth
    have hintends : ∀ m, Request.Intends L q
        (.readImage srcImage blockingRead (some srcOrigin) (some region)) m ↔
          texelRegion srcOrigin Size3.zero region m := by
      simp [Request.Intends]
    simp only [Complete, hintends, copyImage_complete_iff hdepth.1 hdepth.2.1 hdepth.2.2,
      texelRegion_nonempty hdepth.1]
  | none, _ => exact iff_of_true transparent_refused trivial
  | some _, none => exact iff_of_true transparent_refused trivial

/-- **The condition on a write of an image**. -/
def WriteImageHolds (L : Layer) (d : Driver) (q : Enqueue) (dstImage : Image)
    (blockingWrite : Bool) : Option Size3 → Option Size3 → Prop
  | some dstOrigin, some region =>
    let srcImage := temporaryImage dstImage.format region
    d.answer .getCommandQueueInfo = clSuccess ∧ d.answer .getImageFormat = clSuccess ∧
      d.answer (createImage region) = clSuccess ∧
      ImageLaunches L d q srcImage dstImage Size3.zero dstOrigin region →
    WriteHolds d q blockingWrite (ImageFits srcImage dstImage Size3.zero dstOrigin region)
  | _, _ => True

/-- **Writes of images.** -/
theorem writeImage_transparent_iff {dstImage : Image} {blockingWrite : Bool}
    {dstOrigin region : Option Size3} :
    Transparent L q (.writeImage dstImage blockingWrite dstOrigin region)
        (writeImage L d q dstImage blockingWrite dstOrigin region) ↔
      WriteImageHolds L d q dstImage blockingWrite dstOrigin region := by
  match dstOrigin, region with
  | some dstOrigin, some region =>
    have hlaunched := (((prepared_query (d := d) .getCommandQueueInfo).query (d := d)
      .getImageFormat).create (d := d) (createImage region)).copyImageHelper (L := L) (d := d)
        (q := q) (temporaryImage dstImage.format region) dstImage Size3.zero dstOrigin region
    refine (hlaunched.transparent_write_iff (L := L) (d := d)
      (r := .writeImage dstImage blockingWrite (some dstOrigin) (some region)) rfl rfl).trans ?_
    simp only [WriteImageHolds, Request.blocking, and_assoc]
    refine imp_congr_right fun hok => ?_
    have hdepth := hok.2.2.2.depth
    have hintends : ∀ m, Request.Intends L q
        (.writeImage dstImage blockingWrite (some dstOrigin) (some region)) m ↔
          texelRegion Size3.zero dstOrigin region m := by
      simp [Request.Intends]
    simp only [Complete, hintends, copyImage_complete_iff hdepth.1 hdepth.2.1 hdepth.2.2]
  | none, _ => exact iff_of_true transparent_refused trivial
  | some _, none => exact iff_of_true transparent_refused trivial

/-- **The condition on a copy of an image**. -/
def CopyImageHolds (L : Layer) (d : Driver) (q : Enqueue) (srcImage dstImage : Image)
    (srcOrigin dstOrigin region : Size3) : Prop :=
  d.answer .getCommandQueueInfo = clSuccess ∧
    ImageLaunches L d q srcImage dstImage srcOrigin dstOrigin region →
  ImageFits srcImage dstImage srcOrigin dstOrigin region

/-- **Copies of images.** -/
theorem copyImage_transparent_iff {srcImage dstImage : Image}
    {srcOrigin dstOrigin region : Size3} :
    Transparent L q (.copyImage srcImage dstImage srcOrigin dstOrigin region)
        (copyImage L d q srcImage dstImage srcOrigin dstOrigin region) ↔
      CopyImageHolds L d q srcImage dstImage srcOrigin dstOrigin region := by
  have hlaunched := (prepared_query (d := d) .getCommandQueueInfo).copyImageHelper (L := L)
    (d := d) (q := q) srcImage dstImage srcOrigin dstOrigin region
  have htemp : (copyImage L d q srcImage dstImage srcOrigin dstOrigin region).temporary = null :=
    Call.temporary_andThen fun c => copyImageHelper_temporary c _ _ _ _ _
  refine (hlaunched.transparent_iff (L := L)
    (r := .copyImage srcImage dstImage srcOrigin dstOrigin region) rfl rfl rfl htemp).trans ?_
  refine imp_congr_right fun hok => ?_
  have hdepth := hok.2.depth
  simp only [Complete, Request.Intends, copyImage_complete_iff hdepth.1 hdepth.2.1 hdepth.2.2]

end

end CLIntercept.Override
