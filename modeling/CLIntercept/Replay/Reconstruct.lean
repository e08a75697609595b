import CLIntercept.Replay.Launch

/-!
# What the script reconstructs

`reconstructs_iff` says which launches are reconstructed: a launch that is as it has to be has every
argument made again from its own entry, and of one that is reconstructed each part of the condition
can be read off what was launched, under a suitable order of the files.

What is recorded of an argument need not be what it is set to: a setter that the driver refused has
left its own entries, and of a kernel that was cloned nothing is recorded. Where every setter was
taken, `recordedAs_iff_kept` says what is left to ask of an argument.
-/

set_option autoImplicit false

namespace CLIntercept.Replay

open CLIntercept.Lib CLIntercept.Track CLIntercept.Timing CLIntercept.Dump.Memory

variable {dec : Decimals} {float : FloatText} {kernel : Handle} {s : Session} {l : Launch}
  {listing : Listing} {useSvm : Bool} {inp : Inputs}

/-! ## Launches as they have to be are reconstructed -/

section

variable (hread : ReadOf dec kernel s l listing inp) (hfound : MemoryFound dec kernel s l)

include hread hfound in
/-- Where the files are found, a buffer has the contents that were recorded. -/
theorem dict_buffers (i : Nat) : dict inp.buffers i = s.memory .buffers i :=
  dict_eq (fun j x => (hread.dumped .buffers j x).trans (memoryFound_iff.mp hfound .buffers j x)) i

include hread hfound in
/-- Where the files are found, an image has the contents that were recorded. -/
theorem dict_images (i : Nat) : dict inp.images i = s.memory .images i :=
  dict_eq (fun j x => (hread.dumped .images j x).trans (memoryFound_iff.mp hfound .images j x)) i

include hread hfound in
/-- An argument that is set to memory is set to it again, where the same value is the same memory. -/
theorem memoryArg_eq (svm : Bool) {i : Nat} {x : Bytes} (hx : s.memory .buffers i = some x)
    (haliases : ∀ j y, s.memory .buffers j = some y →
      (s.kernelArgs.entries kernel j).data = (s.kernelArgs.entries kernel i).data → y = x)
    {storage : Bytes} (hstorage : (s.kernelArgs.entries kernel i).data = some storage) :
    inp.memoryArg svm i =
      if svm then (dict inp.svmArgOffsets i).map (.svm storage x)
      else some (.buffer storage x) := by
  have hi : dict inp.buffers i = some x := (dict_buffers hread hfound i).trans hx
  obtain ⟨first, hfirst, hsome, hsame⟩ := firstAlias_spec (Option.isSome_iff_exists.mpr ⟨x, hi⟩)
  obtain ⟨y, hy⟩ := Option.isSome_iff_exists.mp hsome
  rw [hread.dict_arguments, hread.dict_arguments] at hsame
  obtain rfl : y = x := haliases first y ((dict_buffers hread hfound first).symm.trans hy) hsame
  have harguments : dict inp.arguments i = some storage :=
    (hread.dict_arguments i).trans hstorage
  cases svm <;>
    simp [Inputs.memoryArg, hi, hfirst, hy, harguments, Option.map_eq_bind]

variable (hinv : SessionInv float kernel s) (h : Reconstructible dec float useSvm kernel s l)
include hread hinv h

/-- A buffer or pointer is set again as it was. -/
theorem memoryArg_meaning {i : Nat} (hmemory : (s.memory .buffers i).isSome) :
    ∃ a, inp.memoryArg (inp.usesSvm useSvm) i = some a ∧ s.meaning i = some a.meaning := by
  have hoffset := hread.dict_svmArgOffsets i
  obtain ⟨x, hx⟩ := Option.isSome_iff_exists.mp hmemory
  have haliases := fun j y hy => h.aliases j i y x hy hx
  cases hinv.argAs i with
  | unset _ hmeaning | bytes _ _ hmeaning | localMemory _ _ hmeaning | image _ _ _ _ _ hmeaning
  | sampler _ _ _ _ hmeaning =>
    simp [Session.memory, hmeaning, Meaning.memory] at hmemory
  | buffer handle block hargs hlive hmeaning =>
    obtain rfl : block.contents = x := by simpa [Session.memory, hmeaning, Meaning.memory] using hx
    have hrecorded := h.recorded i _ hargs
    simp only [RecordedAs, hlive] at hrecorded
    obtain ⟨storage, hdata⟩ := Option.isSome_iff_exists.mp hrecorded
    rw [memoryArg_eq hread h.found _ hx haliases hdata,
      if_neg ((usesSvm_iff hread useSvm).not.mpr (h.buffers i handle block hargs hlive))]
    exact ⟨_, rfl, hmeaning⟩
  | pointer kind base offset block hargs hlive hmeaning =>
    obtain rfl : block.contents = x := by simpa [Session.memory, hmeaning, Meaning.memory] using hx
    obtain ⟨memInfo, hmem, himage, rfl⟩ := h.recorded i _ hargs
    obtain ⟨storage, hdata⟩ := Option.isSome_iff_exists.mp
      ((hinv.entries i).data (.inl (by rw [hmem]; rfl)))
    rw [memoryArg_eq hread h.found _ hx haliases hdata,
      if_pos ((usesSvm_iff hread useSvm).mpr (h.pointers i kind base _ hargs)), hoffset, hmem,
      Option.bind_some, if_pos himage]
    exact ⟨_, rfl, hmeaning⟩

/-- What is found of an image is an argument's, and its metadata are as they have to be. -/
theorem image_of_found {i : Nat} {x : Bytes} (hx : dict inp.images i = some x) :
    ∃ handle answers image, s.args i = some (.object handle) ∧
      s.live handle = some (.image answers x) ∧
      getImageMetadata dec (capture kernel s l) i = some image ∧
      s.meaning i = some (.image (shapeType image.2) image.1 (shapeRegion image.2) x) ∧
      shapeRegion image.2 = extentOf answers := by
  have hmemory : s.memory .images i = some x := (dict_images hread h.found i).symm.trans hx
  unfold Session.memory at hmemory
  cases hinv.argAs i with
  | unset _ hmeaning | bytes _ _ hmeaning | localMemory _ _ hmeaning | buffer _ _ _ _ hmeaning
  | sampler _ _ _ _ hmeaning | pointer _ _ _ _ _ _ hmeaning =>
    simp [hmeaning, Meaning.memory] at hmemory
  | image handle answers contents hargs hlive hmeaning =>
    obtain rfl : contents = x := by simpa [hmeaning, Meaning.memory] using hmemory
    have hrecorded := h.recorded i _ hargs
    simp only [RecordedAs, hlive] at hrecorded
    obtain ⟨memInfo, recorded, _, hmem, hlive', hmade⟩ := hrecorded
    obtain ⟨htype, hformat, hregion⟩ := shape_imageInfo_iff.mpr hmade
    have hinfo : s.objects.imageInfoMap memInfo.value = some (imageInfo recorded {}) :=
      hinv.imageInfoMap_eq_some_iff.mpr ⟨recorded, _, hlive', rfl⟩
    refine ⟨handle, answers, _, hargs, hlive, getImageMetadata_capture hinv hmem hinfo, ?_, hregion⟩
    rw [hmeaning, htype, hformat, hregion]

omit hinv in
/-- What samplers are made of. -/
theorem sampler_of_found {i : Nat} {values : SamplerValues}
    (hx : dict inp.samplers i = some values) : s.meaning i = some (.sampler values) := by
  rw [hread.dict_samplers, Option.map_eq_some_iff] at hx
  obtain ⟨str, hstr, rfl⟩ := hx
  obtain ⟨handle, properties, hargs, hlive⟩ := h.leftover.samplers i str hstr
  have hrecorded := h.recorded i _ hargs
  simp only [RecordedAs, hlive] at hrecorded
  obtain ⟨recorded, hnodup, hown, hmade⟩ := hrecorded
  obtain rfl := Option.some.inj (hown.symm.trans hstr)
  rw [(samplerFromString_eq_iff float hnodup properties).mpr hmade]
  simp [Session.meaning, hargs, Arg.meaning, hlive]

/-- **Every argument is set to what it was.** -/
theorem setArgs_meaning {images : List (Nat × (Nat × Nat) × List Nat)}
    (himages : metadata dec kernel s l inp = some images) {i : Nat} {a : ReplayedArg}
    (ha : a ∈ inp.setArgs (inp.usesSvm useSvm) images i) : s.meaning i = some a.meaning := by
  rcases mem_setArgs_iff.mp ha with ⟨hbuffer, himage, hsampler, value, hvalue, rfl⟩ | ha |
    ⟨image, himage, contents, hcontents, rfl⟩ | ⟨size, hsize, rfl⟩ | ⟨values, hvalues, rfl⟩
  · rw [hread.dict_arguments] at hvalue
    rw [dict_buffers hread h.found, Session.memory] at hbuffer
    rw [dict_images hread h.found, Session.memory] at himage
    rw [hread.dict_samplers, Option.map_eq_none_iff] at hsampler
    obtain ⟨arg, hargs, hlocal⟩ := h.leftover.values i value hvalue
    have hrecorded := h.recorded i arg hargs
    cases hinv.argAs i with
    | unset hargs' => cases hargs'.symm.trans hargs
    | bytes value' hargs' hmeaning =>
      obtain rfl := Option.some.inj (hargs.symm.trans hargs')
      obtain rfl := Option.some.inj (hrecorded.symm.trans hvalue)
      exact hmeaning
    | localMemory size hargs' =>
      exact absurd (Option.some.inj (hargs.symm.trans hargs')) (hlocal size)
    | buffer _ _ _ _ hmeaning | pointer _ _ _ _ _ _ hmeaning =>
      simp [hmeaning, Meaning.memory] at hbuffer
    | image _ _ _ _ _ hmeaning => simp [hmeaning, Meaning.memory] at himage
    | sampler handle properties hargs' hlive =>
      obtain rfl := Option.some.inj (hargs.symm.trans hargs')
      simp only [RecordedAs, hlive] at hrecorded
      obtain ⟨_, -, hstr, -⟩ := hrecorded
      cases hstr.symm.trans hsampler
  · obtain ⟨_, _, _, hsome, -⟩ := memoryArg_cases ha
    rw [dict_buffers hread h.found] at hsome
    obtain ⟨a', ha', hmeaning⟩ := memoryArg_meaning hread hinv h hsome
    obtain rfl := Option.some.inj (ha'.symm.trans ha)
    exact hmeaning
  · obtain ⟨handle, answers, image', -, -, hmetadata, hmeaning, -⟩ :=
      image_of_found hread hinv h hcontents
    rw [dict_metadata himages, hcontents, Option.bind_some, hmetadata] at himage
    cases himage
    exact hmeaning
  · rw [hread.dict_localSizes] at hsize
    rw [Session.meaning, h.leftover.localSizes i size hsize]
    rfl
  · exact sampler_of_found hread h hvalues

/-- No argument is forgotten. -/
theorem setArgs_ne_nil {images : List (Nat × (Nat × Nat) × List Nat)}
    (himages : metadata dec kernel s l inp = some images) {i : Nat}
    (hsome : (s.meaning i).isSome) : inp.setArgs (inp.usesSvm useSvm) images i ≠ [] := by
  have hbuffers := dict_buffers hread h.found i
  have hcontents := dict_images hread h.found i
  rw [Session.memory] at hbuffers hcontents
  suffices hset : ∃ a, a ∈ inp.setArgs (inp.usesSvm useSvm) images i by
    obtain ⟨a, ha⟩ := hset
    exact List.ne_nil_of_mem ha
  simp only [mem_setArgs_iff]
  cases hinv.argAs i with
  | unset _ hmeaning => simp [hmeaning] at hsome
  | bytes value hargs hmeaning =>
    have hsampler : dict inp.samplers i = none := by
      rw [hread.dict_samplers, Option.map_eq_none_iff]
      by_contra hne
      obtain ⟨str, hstr⟩ := Option.ne_none_iff_exists'.mp hne
      obtain ⟨_, _, hargs', -⟩ := h.leftover.samplers i str hstr
      cases hargs.symm.trans hargs'
    rw [hmeaning] at hbuffers hcontents
    exact ⟨_, .inl ⟨hbuffers, hcontents, hsampler, value,
      (hread.dict_arguments i).trans (h.recorded i _ hargs), rfl⟩⟩
  | localMemory size hargs =>
    exact ⟨_, .inr (.inr (.inr (.inl
      ⟨size, (hread.dict_localSizes i).trans (h.recorded i _ hargs), rfl⟩)))⟩
  | buffer _ _ _ _ hmeaning | pointer _ _ _ _ _ _ hmeaning =>
    obtain ⟨a, ha, -⟩ := memoryArg_meaning hread hinv h (i := i)
      (by simp [Session.memory, hmeaning, Meaning.memory])
    exact ⟨a, .inr (.inl ha)⟩
  | image handle answers contents hargs hlive hmeaning =>
    rw [hmeaning] at hcontents
    obtain ⟨_, _, image, -, -, hmetadata, -⟩ := image_of_found hread hinv h hcontents
    have himage : dict images i = some image := by
      rw [dict_metadata himages, hcontents]
      exact hmetadata
    exact ⟨_, .inr (.inr (.inl ⟨_, himage, contents, hcontents, rfl⟩))⟩
  | sampler handle properties hargs hlive =>
    have hrecorded := h.recorded i _ hargs
    simp only [RecordedAs, hlive] at hrecorded
    obtain ⟨_, -, hstr, -⟩ := hrecorded
    have hdict := hread.dict_samplers i
    rw [hstr] at hdict
    exact ⟨_, .inr (.inr (.inr (.inr ⟨_, hdict, rfl⟩)))⟩

/-- Every lookup succeeds. -/
theorem complete_of_reconstructible : inp.Complete (inp.usesSvm useSvm) = true := by
  have hbuffers := dict_buffers hread h.found
  have hmemoryArg : ∀ i, (dict inp.buffers i).isSome →
      ∃ a, inp.memoryArg (inp.usesSvm useSvm) i = some a := by
    intro i hsome
    rw [hbuffers] at hsome
    obtain ⟨a, ha, -⟩ := memoryArg_meaning hread hinv h hsome
    exact ⟨a, ha⟩
  refine complete_iff.mpr ⟨fun i hsome => ?_, fun i hsome => ?_, fun i hsome => ?_,
    fun hsvm i hsome => ?_⟩
  · obtain ⟨a, ha⟩ := hmemoryArg i hsome
    obtain ⟨_, _, _, -, hstorage, -⟩ := memoryArg_cases ha
    exact Option.isSome_iff_exists.mpr ⟨_, hstorage⟩
  · obtain ⟨x, hx⟩ := Option.isSome_iff_exists.mp hsome
    obtain ⟨_, _, image, -, -, hmetadata, hmeaning, -⟩ := image_of_found hread hinv h hx
    obtain ⟨memInfo, _, hmem, -⟩ := getImageMetadata_capture_eq_some hinv hmetadata
    refine ⟨?_, by simp [hbuffers, Session.memory, hmeaning, Meaning.memory]⟩
    rw [hread.dict_arguments]
    exact (hinv.entries i).data (.inl (Option.isSome_iff_exists.mpr ⟨memInfo, hmem⟩))
  · obtain ⟨values, hvalues⟩ := Option.isSome_iff_exists.mp hsome
    have hmeaning := sampler_of_found hread h hvalues
    have himages := dict_images hread h.found i
    refine ⟨?_, by simp [hbuffers, Session.memory, hmeaning, Meaning.memory],
      by simp [himages, Session.memory, hmeaning, Meaning.memory]⟩
    rw [hread.dict_samplers, Option.isSome_map] at hsome
    rw [hread.dict_arguments]
    exact (hinv.entries i).data (.inr hsome)
  · obtain ⟨a, ha⟩ := hmemoryArg i hsome
    obtain ⟨_, _, _, -, -, -, -, hkind⟩ := memoryArg_cases ha
    rw [if_pos hsvm] at hkind
    obtain ⟨offset, hoffset, -⟩ := hkind
    exact Option.isSome_iff_exists.mpr ⟨offset, hoffset⟩

/-- The last image is as large as any. -/
theorem region_of_last {images : List (Nat × (Nat × Nat) × List Nat)}
    (himages : metadata dec kernel s l inp = some images) {i handle : Nat}
    {answers : ImageAnswers} {contents : Bytes} (hargs : s.args i = some (.object handle))
    (hlive : s.live handle = some (.image answers contents)) :
    ((launched kernel l useSvm inp images).regions i).map shapeRegion =
      some (extentOf answers) := by
  have hi : dict inp.images i = some contents := by
    rw [dict_images hread h.found]
    simp [Session.memory, Session.meaning, hargs, Arg.meaning, hlive, Meaning.memory]
  have hne : inp.images ≠ [] := List.ne_nil_of_mem (mem_of_dict hi)
  obtain ⟨⟨j, x⟩, hitem⟩ : ∃ item, inp.images.getLast? = some item :=
    ⟨_, List.getLast?_eq_some_getLast hne⟩
  obtain ⟨y, hj⟩ := Option.isSome_iff_exists.mp
    (dict_isSome_of_mem (List.mem_of_getLast? hitem))
  obtain ⟨handle', answers', image, hargs', hlive', hmetadata, -, hregion⟩ :=
    image_of_found hread hinv h hj
  have hlast : images.getLast? = some (j, image) := by
    rw [getLast?_mapM himages, hitem, Option.bind_some, hmetadata]
    rfl
  have hsome : (dict images i).isSome := by
    obtain ⟨_, _, _, -, -, hown, -⟩ := image_of_found hread hinv h hi
    rw [dict_metadata himages, hi, Option.bind_some, hown]
    rfl
  simp only [launched, if_pos hsome, hlast, Option.map_some, hregion, Option.some.injEq]
  exact h.extents j i handle' handle answers' answers y contents hargs' hlive' hargs hlive

end

/-- **A launch as it has to be is reconstructed.** -/
theorem reconstructs_of_reconstructible (hinv : SessionInv float kernel s)
    (hcounter : l.enqueueCounter.toUInt32.toNat = l.enqueueCounter.toNat)
    (h : Reconstructible dec float useSvm kernel s l) : Reconstructs dec useSvm kernel s l := by
  intro listing
  obtain ⟨inp, hinputs, hread⟩ := readInputs_capture dec listing hinv hcounter
  have hsome : (metadata dec kernel s l inp).isSome := by
    refine mapM_isSome fun item hitem => ?_
    obtain ⟨x, hx⟩ := Option.isSome_iff_exists.mp (dict_isSome_of_mem hitem)
    obtain ⟨_, _, _, -, -, hmetadata, -⟩ := image_of_found hread hinv h hx
    rw [hmetadata]
    rfl
  obtain ⟨images, himages⟩ := Option.isSome_iff_exists.mp hsome
  have hmeaning := fun i a => setArgs_meaning hread hinv h himages (i := i) (a := a)
  refine ⟨launched kernel l useSvm inp images, (replay_eq_some_iff hinv hinputs).mpr
    ⟨complete_of_reconstructible hread hinv h, images, himages, rfl⟩, ?_⟩
  exact {
    kernelName := h.name
    globalSize := rfl
    localSize := localSize_launched_iff.mpr h.localSize
    globalOffset := rfl
    args := fun i => ⟨hmeaning i, setArgs_ne_nil hread hinv h himages⟩
    storage := fun i j arg arg' hi hj hstorage hstorage' a ha b hb =>
      (storage_eq_iff hread hinv hmeaning hi hj hstorage hstorage' ha hb).trans
        (h.storage i j arg arg' hi hj hstorage hstorage')
    regions := fun i imageType format extent contents hi => by
      cases hinv.argAs i with
      | unset _ hm | bytes _ _ hm | localMemory _ _ hm | buffer _ _ _ _ hm | sampler _ _ _ _ hm
      | pointer _ _ _ _ _ _ hm =>
        rw [hm] at hi
        cases hi
      | image handle answers contents' hargs hlive hm =>
        rw [hm] at hi
        cases hi
        exact region_of_last hread hinv h himages hargs hlive }

/-! ## Launches that are reconstructed are as they have to be -/

/-- The files for which this holds may come first, with this one behind the others of them. -/
theorem exists_listing (q : String × Content → Bool) {file : String × Content} (hq : q file = true) :
    ∃ listing : Listing, ∀ files, file ∈ files → ∃ before behind,
      listing.order files = before ++ file :: behind ∧ (∀ f ∈ before, q f = true) ∧
        ∀ f ∈ behind, q f = false := by
  let order := fun files : Directory =>
    if file ∈ files then
      (files.filter q).erase file ++ file :: files.filter fun f => !q f
    else files
  have hperm : ∀ files, (order files).Perm files := by
    intro files
    show (if file ∈ files then _ else files).Perm files
    split
    · next hmem =>
      have hfile : file ∈ files.filter q := List.mem_filter.mpr ⟨hmem, hq⟩
      exact List.perm_middle.trans (((List.perm_cons_erase hfile).symm.append_right _).trans
        (List.filter_append_perm q files))
    · exact .refl files
  refine ⟨⟨order, hperm⟩, fun files hmem => ⟨_, _, if_pos hmem, fun f hf => ?_, fun f hf => ?_⟩⟩
  · exact (List.mem_filter.mp (List.mem_of_mem_erase hf)).2
  · simpa using (List.mem_filter.mp hf).2

/-- What is found under an index may be what the dictionary has of it, with the index as the first
of all. -/
theorem exists_listing_dumped (hinv : SessionInv float kernel s)
    (hcounter : l.enqueueCounter.toUInt32.toNat = l.enqueueCounter.toNat) {h : Half} {d : Nat}
    {x : Bytes} (hfound : FoundUnder dec kernel s l h d x) :
    ∃ listing, ∀ inp, ReadOf dec kernel s l listing inp →
      dict (inp.dumped h) d = some x ∧ ((inp.dumped h).map (·.1)).head? = some d := by
  obtain ⟨hslash, i, key, hfile, hidx⟩ := hfound
  have hindex := indexFromArg_dumped dec hcounter hfile
  rw [hidx] at hindex
  obtain ⟨listing, hlisting⟩ :=
    exists_listing (fun file => indexFromArg dec (path file) = some d) (decide_eq_true hindex)
  refine ⟨listing, fun inp hread => ?_⟩
  have hmem := (mem_glob_dumped listing hinv hcounter h).mpr ⟨hslash, i, _, hfile, rfl⟩
  obtain ⟨before, behind, horder, hbefore, hbehind⟩ :=
    hlisting _ ((listing.perm _).mem_iff.mp hmem)
  have hitems := hread.files h
  rw [Listing.glob, horder] at hitems
  obtain ⟨ys₁, y, ys₂, hys₁, hy, hys₂, hdumped⟩ := mapM_append_cons_eq_some hitems
  rw [hindex] at hy
  obtain rfl : (d, x) = y := Option.some.inj hy
  rw [hdumped]
  have hkey : ∀ {f : String × Content} {item : Nat × Bytes},
      ((indexFromArg dec (path f)).bind fun idx => f.2.bytes.map fun x => (idx, x)) = some item →
        indexFromArg dec (path f) = some item.1 := by
    intro f item hitem
    obtain ⟨idx, hidx, hitem⟩ := Option.bind_eq_some_iff.mp hitem
    obtain ⟨y, -, rfl⟩ := Option.map_eq_some_iff.mp hitem
    exact hidx
  constructor
  · refine dict_append_cons ys₁ x fun item hitem hd => ?_
    obtain ⟨f, hf, hvalue⟩ := (mem_mapM hys₂ item).mp hitem
    exact of_decide_eq_false (hbehind f hf) (hd ▸ hkey hvalue)
  · cases ys₁ with
    | nil => rfl
    | cons item ys₁ =>
      obtain ⟨f, hf, hvalue⟩ := (mem_mapM hys₁ item).mp List.mem_cons_self
      have hd := (hkey hvalue).symm.trans (of_decide_eq_true (hbefore f hf))
      simpa using hd

/-- What a reconstruction has read, in some order. -/
theorem Reconstructs.listed (hinv : SessionInv float kernel s)
    (hcounter : l.enqueueCounter.toUInt32.toNat = l.enqueueCounter.toNat)
    (h : Reconstructs dec useSvm kernel s l) (listing : Listing) : ∃ inp images,
      ReadOf dec kernel s l listing inp ∧ inp.Complete (inp.usesSvm useSvm) = true ∧
        metadata dec kernel s l inp = some images ∧
        Reconstructed s l (launched kernel l useSvm inp images) := by
  obtain ⟨r, hr, hsame⟩ := h listing
  obtain ⟨inp, hinputs, hread⟩ := readInputs_capture dec listing hinv hcounter
  obtain ⟨hcomplete, images, himages, rfl⟩ := (replay_eq_some_iff hinv hinputs).mp hr
  exact ⟨inp, images, hread, hcomplete, himages, hsame⟩

/-- The first index of all is the alias of every other with its value. -/
theorem firstAlias_of_head {i first : Nat}
    (hfirst : ((inp.dumped .buffers).map (·.1)).head? = some first)
    (hsame : dict inp.arguments first = dict inp.arguments i) : inp.firstAlias i = some first := by
  obtain ⟨rest, hrest⟩ := List.head?_eq_some_iff.mp hfirst
  have hkeys : inp.buffers.map (·.1) = first :: rest := hrest
  rw [Inputs.firstAlias, hkeys, List.find?_cons_of_pos (by simp [hsame])]

/-- Memory that is in the dictionary, under the first index, is what an argument is set to. -/
theorem exists_setArg_memory {images : List (Nat × (Nat × Nat) × List Nat)} {svm : Bool}
    (hcomplete : inp.Complete svm = true) (himages : metadata dec kernel s l inp = some images)
    {h : Half} {d : Nat} {x : Bytes} (hx : dict (inp.dumped h) d = some x)
    (hfirst : ((inp.dumped h).map (·.1)).head? = some d) :
    ∃ a ∈ inp.setArgs svm images d, a.meaning.memory h = some x := by
  obtain ⟨hbuffers, -, -, hoffsets⟩ := complete_iff.mp hcomplete
  simp only [mem_setArgs_iff]
  cases h with
  | buffers =>
    have hbuffer : dict inp.buffers d = some x := hx
    have hsome : (dict inp.buffers d).isSome := Option.isSome_iff_exists.mpr ⟨x, hbuffer⟩
    obtain ⟨storage, hstorage⟩ := Option.isSome_iff_exists.mp (hbuffers d hsome)
    have halias := firstAlias_of_head hfirst rfl
    cases svm with
    | false =>
      have harg : inp.memoryArg false d = some (.buffer storage x) := by
        simp [Inputs.memoryArg, hbuffer, halias, hstorage]
      exact ⟨_, .inr (.inl harg), rfl⟩
    | true =>
      obtain ⟨offset, hoffset⟩ := Option.isSome_iff_exists.mp (hoffsets rfl d hsome)
      have harg : inp.memoryArg true d = some (.svm storage x offset) := by
        simp [Inputs.memoryArg, hbuffer, halias, hstorage, hoffset]
      exact ⟨_, .inr (.inl harg), rfl⟩
  | images =>
    have hcontents : dict inp.images d = some x := hx
    have hown := isSome_of_mapM himages (mem_of_dict hcontents)
    rw [Option.isSome_map] at hown
    obtain ⟨image, himage⟩ := Option.isSome_iff_exists.mp hown
    have hdict : dict images d = some image := by
      rw [dict_metadata himages, hcontents]
      exact himage
    exact ⟨_, .inr (.inr (.inl ⟨image, hdict, x, hcontents, rfl⟩)), rfl⟩

section

variable {images : List (Nat × (Nat × Nat) × List Nat)}
variable (hsame : Reconstructed s l (launched kernel l useSvm inp images))
include hsame

/-- What an argument means is set, if the replay reconstructs. -/
theorem exists_setArg {i : Nat} {m : Meaning} (hm : s.meaning i = some m) :
    ∃ a ∈ inp.setArgs (inp.usesSvm useSvm) images i, a.meaning = m := by
  obtain ⟨a, ha⟩ := List.exists_mem_of_ne_nil _ ((hsame.args i).2 (by rw [hm]; rfl))
  exact ⟨a, ha, Option.some.inj (((hsame.args i).1 a ha).symm.trans hm)⟩

/-- What an argument has as memory was found under its index. -/
theorem dumped_of_memory {h : Half} {d : Nat} {x : Bytes} (hx : s.memory h d = some x) :
    ∃ y, dict (inp.dumped h) d = some y := by
  obtain ⟨m, hm, hx⟩ := Option.bind_eq_some_iff.mp hx
  obtain ⟨a, ha, rfl⟩ := exists_setArg hsame hm
  cases h with
  | buffers =>
    obtain ⟨_, _, _, hsome, -⟩ := memoryArg_cases (memoryArg_of_memory ha (by rw [hx]; rfl))
    exact Option.isSome_iff_exists.mp hsome
  | images =>
    obtain ⟨_, -, contents, hcontents, -⟩ := image_of_memory ha (by rw [hx]; rfl)
    exact ⟨contents, hcontents⟩

/-- A piece of memory has a value, and is an SVM allocation where all are. -/
theorem svm_of_meaning {i : Nat} {m : Meaning} (hm : s.meaning i = some m)
    (hmemory : (m.memory .buffers).isSome) : (dict inp.arguments i).isSome ∧
      if inp.usesSvm useSvm then ∃ contents offset, dict inp.svmArgOffsets i = some offset ∧
        m = .pointer contents offset
      else ∃ contents, m = .buffer contents := by
  obtain ⟨a, ha, rfl⟩ := exists_setArg hsame hm
  obtain ⟨storage, first, contents, -, hstorage, -, -, ha'⟩ :=
    memoryArg_cases (memoryArg_of_memory ha hmemory)
  refine ⟨Option.isSome_iff_exists.mpr ⟨storage, hstorage⟩, ?_⟩
  by_cases hsvm : inp.usesSvm useSvm = true
  · rw [if_pos hsvm] at ha' ⊢
    obtain ⟨offset, hoffset, rfl⟩ := ha'
    exact ⟨contents, offset, hoffset, rfl⟩
  · rw [if_neg hsvm] at ha' ⊢
    exact ⟨contents, ha' ▸ rfl⟩

/-- Memory that is bound is set by the script. -/
theorem exists_setArg_of_storage (hinv : SessionInv float kernel s) {i : Nat} {arg : Arg}
    (hargs : s.args i = some arg) (hstorage : (arg.storage s.live).isSome) :
    ∃ a, a ∈ inp.setArgs (inp.usesSvm useSvm) images i := by
  obtain ⟨x, hx⟩ := Option.isSome_iff_exists.mp (hinv.memory_of_storage hargs hstorage)
  obtain ⟨m, hm, -⟩ := Option.bind_eq_some_iff.mp hx
  obtain ⟨a, ha, -⟩ := exists_setArg hsame hm
  exact ⟨a, ha⟩

/-- The region of the last image is that of each. -/
theorem region_of_reconstructed {i handle : Nat} {answers : ImageAnswers} {contents : Bytes}
    (hargs : s.args i = some (.object handle))
    (hlive : s.live handle = some (.image answers contents)) :
    (images.getLast?.map (·.2.2)).map shapeRegion = some (extentOf answers) := by
  have hm : s.meaning i = some
      (.image (imageTypeOf answers) answers.format (extentOf answers) contents) := by
    simp [Session.meaning, hargs, Arg.meaning, hlive]
  have hregion := hsame.regions i _ _ _ _ hm
  simp only [launched] at hregion
  split at hregion
  · exact hregion
  · cases hregion

end

/-- **Exactly the memory of the arguments of a reconstructed launch is found.** -/
theorem memoryFound_of_reconstructs (hinv : SessionInv float kernel s)
    (hcounter : l.enqueueCounter.toUInt32.toNat = l.enqueueCounter.toNat)
    (h : Reconstructs dec useSvm kernel s l) : MemoryFound dec kernel s l := by
  have hmemory : ∀ half d x, FoundUnder dec kernel s l half d x → s.memory half d = some x := by
    intro half d x hfound
    obtain ⟨listing, hlisting⟩ := exists_listing_dumped hinv hcounter hfound
    obtain ⟨inp, images, hread, hcomplete, himages, hsame⟩ := h.listed hinv hcounter listing
    obtain ⟨hx, hfirst⟩ := hlisting inp hread
    obtain ⟨a, ha, hax⟩ := exists_setArg_memory hcomplete himages hx hfirst
    rw [Session.memory, (hsame.args d).1 a ha]
    exact hax
  refine memoryFound_iff.mpr fun half d x => ⟨hmemory half d x, fun hx => ?_⟩
  obtain ⟨inp, images, hread, -, -, hsame⟩ := h.listed hinv hcounter ⟨id, fun _ => .refl _⟩
  obtain ⟨y, hy⟩ := dumped_of_memory hsame hx
  have hfound := (hread.dumped half d y).mp (mem_of_dict hy)
  obtain rfl : y = x := Option.some.inj ((hmemory half d y hfound).symm.trans hx)
  exact hfound

/-- What a setter left of another kind would be set too. -/
theorem nothingLeft_of_reconstructed (hinv : SessionInv float kernel s)
    (hread : ReadOf dec kernel s l listing inp)
    (hfound : MemoryFound dec kernel s l) {images : List (Nat × (Nat × Nat) × List Nat)}
    (hsame : Reconstructed s l (launched kernel l useSvm inp images)) : NothingLeft kernel s := by
  have hset : ∀ {i a}, a ∈ inp.setArgs (inp.usesSvm useSvm) images i →
      s.meaning i = some a.meaning := fun {i a} ha => (hsame.args i).1 a ha
  have hsampler : ∀ {i values}, dict inp.samplers i = some values →
      s.meaning i = some (.sampler values) := fun hvalues =>
    hset (mem_setArgs_iff.mpr (.inr (.inr (.inr (.inr ⟨_, hvalues, rfl⟩)))))
  refine ⟨fun i value hvalue => ?_, fun i size hsize => ?_, fun i str hstr => ?_⟩
  · have hvalue' : dict inp.arguments i = some value := (hread.dict_arguments i).trans hvalue
    have hmeaning : ∃ m, s.meaning i = some m ∧ ∀ size, m ≠ .localMemory size := by
      cases hbuffer : dict inp.buffers i with
      | some x =>
        rw [dict_buffers hread hfound] at hbuffer
        obtain ⟨m, hm, hx⟩ := Option.bind_eq_some_iff.mp hbuffer
        exact ⟨m, hm, by rintro size rfl; cases hx⟩
      | none =>
        cases himage : dict inp.images i with
        | some x =>
          rw [dict_images hread hfound] at himage
          obtain ⟨m, hm, hx⟩ := Option.bind_eq_some_iff.mp himage
          exact ⟨m, hm, by rintro size rfl; cases hx⟩
        | none =>
          cases hvalues : dict inp.samplers i with
          | some values => exact ⟨_, hsampler hvalues, by simp⟩
          | none =>
            have hm := hset (mem_setArgs_iff.mpr
              (.inl ⟨hbuffer, himage, hvalues, value, hvalue', rfl⟩))
            exact ⟨_, hm, by simp [ReplayedArg.meaning]⟩
    obtain ⟨m, hm, hlocal⟩ := hmeaning
    obtain ⟨arg, hargs, hm⟩ := Option.bind_eq_some_iff.mp hm
    refine ⟨arg, hargs, ?_⟩
    rintro size rfl
    exact hlocal size (Option.some.inj hm).symm
  · have hm := hset (mem_setArgs_iff.mpr (.inr (.inr (.inr (.inl
      ⟨size, (hread.dict_localSizes i).trans hsize, rfl⟩)))))
    cases hinv.argAs i with
    | localMemory size' hargs hmeaning =>
      obtain rfl := Meaning.localMemory.inj (Option.some.inj (hmeaning.symm.trans hm))
      exact hargs
    | unset _ hmeaning | bytes _ _ hmeaning | buffer _ _ _ _ hmeaning
    | image _ _ _ _ _ hmeaning | sampler _ _ _ _ hmeaning | pointer _ _ _ _ _ _ hmeaning =>
      cases hmeaning.symm.trans hm
  · have hdict := hread.dict_samplers i
    rw [show (s.kernelArgs.entries kernel i).sampler = some str from hstr] at hdict
    have hm := hsampler hdict
    cases hinv.argAs i with
    | sampler handle properties hargs hlive => exact ⟨handle, properties, hargs, hlive⟩
    | unset _ hmeaning | bytes _ _ hmeaning | localMemory _ _ hmeaning | buffer _ _ _ _ hmeaning
    | image _ _ _ _ _ hmeaning | pointer _ _ _ _ _ _ hmeaning =>
      cases hmeaning.symm.trans hm

/-- What is recorded of an argument that is reconstructed makes it again. -/
theorem recordedAs_of_reconstructed (hinv : SessionInv float kernel s)
    (hread : ReadOf dec kernel s l listing inp) {images : List (Nat × (Nat × Nat) × List Nat)}
    (himages : metadata dec kernel s l inp = some images)
    (hsame : Reconstructed s l (launched kernel l useSvm inp images)) {i : Nat} {arg : Arg}
    (hargs : s.args i = some arg) :
    RecordedAs float s (s.kernelArgs.entries kernel i) arg := by
  cases hinv.argAs i with
  | unset hargs' => cases hargs'.symm.trans hargs
  | bytes value hargs' hm =>
    obtain rfl := Option.some.inj (hargs.symm.trans hargs')
    obtain ⟨a, ha, hmeaning⟩ := exists_setArg hsame hm
    have hvalue := value_of_setArgs ha
    rw [hmeaning] at hvalue
    exact (hread.dict_arguments i).symm.trans hvalue
  | localMemory size hargs' hm =>
    obtain rfl := Option.some.inj (hargs.symm.trans hargs')
    obtain ⟨a, ha, hmeaning⟩ := exists_setArg hsame hm
    have hsize := value_of_setArgs ha
    rw [hmeaning] at hsize
    exact (hread.dict_localSizes i).symm.trans hsize
  | buffer handle block hargs' hlive hm =>
    obtain rfl := Option.some.inj (hargs.symm.trans hargs')
    simp only [RecordedAs, hlive]
    rw [← hread.dict_arguments]
    exact (svm_of_meaning hsame hm rfl).1
  | image handle answers contents hargs' hlive hm =>
    obtain rfl := Option.some.inj (hargs.symm.trans hargs')
    obtain ⟨a, ha, hmeaning⟩ := exists_setArg hsame hm
    obtain ⟨image, himage, found, hcontents, rfl⟩ := image_of_memory ha (by rw [hmeaning]; rfl)
    rw [dict_metadata himages, hcontents, Option.bind_some] at himage
    obtain ⟨memInfo, info, hmem, hinfo, rfl⟩ := getImageMetadata_capture_eq_some hinv himage
    obtain ⟨recorded, recordedContents, hlive', rfl⟩ := hinv.imageInfoMap_eq_some_iff.mp hinfo
    obtain ⟨htype, hformat, hregion, -⟩ := Meaning.image.inj hmeaning
    simp only [RecordedAs, hlive]
    exact ⟨memInfo, recorded, recordedContents, hmem, hlive',
      shape_imageInfo_iff.mp ⟨htype, hformat, hregion⟩⟩
  | sampler handle properties hargs' hlive hm =>
    obtain rfl := Option.some.inj (hargs.symm.trans hargs')
    obtain ⟨a, ha, hmeaning⟩ := exists_setArg hsame hm
    have hvalues := value_of_setArgs ha
    rw [hmeaning] at hvalues
    obtain ⟨str, hstr, hvalues⟩ :=
      Option.map_eq_some_iff.mp ((hread.dict_samplers i).symm.trans hvalues)
    obtain ⟨recorded, hnodup, rfl⟩ := (hinv.entries i).sampler str hstr
    simp only [RecordedAs, hlive]
    exact ⟨recorded, hnodup, hstr, (samplerFromString_eq_iff float hnodup properties).mp hvalues⟩
  | pointer kind base offset block hargs' hlive hm =>
    obtain rfl := Option.some.inj (hargs.symm.trans hargs')
    have hkind := (svm_of_meaning hsame hm rfl).2
    split at hkind
    · obtain ⟨_, offset', hoffset, hpointer⟩ := hkind
      cases hpointer
      obtain ⟨memInfo, hmem, hoffset⟩ :=
        Option.bind_eq_some_iff.mp ((hread.dict_svmArgOffsets i).symm.trans hoffset)
      rw [Option.ite_none_right_eq_some, Option.some.injEq] at hoffset
      exact ⟨memInfo, hmem, hoffset⟩
    · obtain ⟨_, hbuffer⟩ := hkind
      cases hbuffer

/-- Memory that is recorded with one value is made of any of the files that are found for it. -/
theorem aliases_of_reconstructs (hinv : SessionInv float kernel s)
    (hcounter : l.enqueueCounter.toUInt32.toNat = l.enqueueCounter.toNat)
    (h : Reconstructs dec useSvm kernel s l) (hfound : MemoryFound dec kernel s l) {i j : Nat}
    {x y : Bytes} (hx : s.memory .buffers i = some x) (hy : s.memory .buffers j = some y)
    (hdata : (s.kernelArgs.entries kernel i).data = (s.kernelArgs.entries kernel j).data) :
    x = y := by
  -- The file of the second may be listed before all others.
  obtain ⟨listing, hlisting⟩ :=
    exists_listing_dumped hinv hcounter ((memoryFound_iff.mp hfound .buffers j y).mpr hy)
  obtain ⟨inp, images, hread, -, -, hsame⟩ := h.listed hinv hcounter listing
  obtain ⟨hdict, hfirst⟩ := hlisting inp hread
  have halias : inp.firstAlias i = some j := firstAlias_of_head hfirst (by
    rw [hread.dict_arguments, hread.dict_arguments, hdata])
  obtain ⟨m, hm, hmx⟩ := Option.bind_eq_some_iff.mp hx
  obtain ⟨a, ha, rfl⟩ := exists_setArg hsame hm
  obtain ⟨_, first, contents, -, -, hfirst', hcontents, hkind⟩ :=
    memoryArg_cases (memoryArg_of_memory ha (by rw [hmx]; rfl))
  obtain rfl := Option.some.inj (hfirst'.symm.trans halias)
  obtain rfl := Option.some.inj (hcontents.symm.trans hdict)
  split at hkind
  · obtain ⟨_, -, rfl⟩ := hkind
    exact (Option.some.inj hmx).symm
  · subst hkind
    exact (Option.some.inj hmx).symm

/-- **A launch that is reconstructed is as it has to be.** -/
theorem reconstructible_of_reconstructs (hinv : SessionInv float kernel s)
    (hcounter : l.enqueueCounter.toUInt32.toNat = l.enqueueCounter.toNat)
    (h : Reconstructs dec useSvm kernel s l) : Reconstructible dec float useSvm kernel s l := by
  have hfound := memoryFound_of_reconstructs hinv hcounter h
  obtain ⟨inp, images, hread, hcomplete, himages, hsame⟩ :=
    h.listed hinv hcounter ⟨id, fun _ => .refl _⟩
  have hsvm := usesSvm_iff hread useSvm
  constructor
  · exact hsame.kernelName
  · exact localSize_launched_iff.mp hsame.localSize
  · exact hfound
  · exact fun _ _ => recordedAs_of_reconstructed hinv hread himages hsame
  · intro i handle block hargs hlive hreplays
    have hm : s.meaning i = some (.buffer block.contents) := by
      simp [Session.meaning, hargs, Arg.meaning, hlive]
    have hkind := (svm_of_meaning hsame hm rfl).2
    rw [if_pos (hsvm.mpr hreplays)] at hkind
    obtain ⟨_, _, -, hkind⟩ := hkind
    cases hkind
  · intro i kind base offset hargs
    obtain ⟨block, hlive, -⟩ := hinv.valid i _ hargs
    have hm : s.meaning i = some (.pointer block.contents offset) := by
      simp [Session.meaning, hargs, Arg.meaning, hlive]
    have hkind := (svm_of_meaning hsame hm rfl).2
    by_contra hreplays
    rw [if_neg (hsvm.not.mpr hreplays)] at hkind
    obtain ⟨_, hkind⟩ := hkind
    cases hkind
  · intro i j handle handle' answers answers' contents contents' hi hlive hj hlive'
    have hregion := region_of_reconstructed hsame hi hlive
    rw [region_of_reconstructed hsame hj hlive'] at hregion
    exact (Option.some.inj hregion).symm
  · exact fun _ _ _ _ => aliases_of_reconstructs hinv hcounter h hfound
  · intro i j arg arg' hi hj hstorage hstorage'
    obtain ⟨a, ha⟩ := exists_setArg_of_storage hsame hinv hi hstorage
    obtain ⟨b, hb⟩ := exists_setArg_of_storage hsame hinv hj hstorage'
    exact (storage_eq_iff hread hinv (fun i => (hsame.args i).1) hi hj hstorage hstorage'
      ha hb).symm.trans (hsame.storage i j arg arg' hi hj hstorage hstorage' a ha b hb)
  · exact nothingLeft_of_reconstructed hinv hread hfound hsame

/-! ## What was recorded as it was set -/

/-- An image and a sampler are made again from what is written of themselves. -/
def ArgKept (s : Session) : Arg → Prop
  | .object handle =>
    match s.live handle with
    | some (.image answers _) => ImageKept answers
    | some (.sampler properties) => SamplerKept properties
    | _ => True
  | _ => True

/-- **Where the layer has recorded what an argument is set to**, it is made again unless it is an image
or a sampler that is not kept. -/
theorem recordedAs_iff_kept (hinv : SessionInv float kernel s) (hwritten : Written float kernel s)
    {i : Nat} {arg : Arg} (hargs : s.args i = some arg) :
    RecordedAs float s (s.kernelArgs.entries kernel i) arg ↔ ArgKept s arg := by
  have hown := hwritten i arg hargs
  cases hinv.argAs i with
  | unset hargs' => cases hargs'.symm.trans hargs
  | bytes _ hargs' | localMemory _ hargs' =>
    obtain rfl := Option.some.inj (hargs.symm.trans hargs')
    exact iff_of_true hown trivial
  | buffer handle block hargs' hlive =>
    obtain rfl := Option.some.inj (hargs.symm.trans hargs')
    simp only [RecordedAs, ArgKept, hlive]
    exact iff_of_true (Option.isSome_iff_exists.mpr ⟨_, hown.1⟩) trivial
  | image handle answers contents hargs' hlive =>
    obtain rfl := Option.some.inj (hargs.symm.trans hargs')
    obtain ⟨offset, hmem⟩ := hown.2.1 (by rw [trackedOf, hlive]; rfl)
    simp only [RecordedAs, ArgKept, hlive]
    rw [← imageMadeAs_self (hinv.driver.images handle answers contents hlive)]
    constructor
    · rintro ⟨memInfo, recorded, _, hmem', hlive', hmade⟩
      obtain rfl := Option.some.inj (hmem.symm.trans hmem')
      cases hlive.symm.trans hlive'
      exact hmade
    · exact fun hmade => ⟨_, answers, contents, hmem, hlive, hmade⟩
  | sampler handle properties hargs' hlive =>
    obtain rfl := Option.some.inj (hargs.symm.trans hargs')
    have hnodup := hinv.driver.samplers handle properties hlive
    have hstr := hown.2.2 (getSamplerPropertiesString float properties) (by
      rw [trackedOf, hlive]
      rfl)
    simp only [RecordedAs, ArgKept, hlive]
    rw [← samplerMadeAs_self hnodup]
    constructor
    · rintro ⟨recorded, hnodup', hstr', hmade⟩
      rw [← samplerFromString_eq_iff float hnodup'] at hmade
      rw [← samplerFromString_eq_iff float hnodup, Option.some.inj (hstr.symm.trans hstr')]
      exact hmade
    · exact fun hmade => ⟨properties, hnodup, hstr, hmade⟩
  | pointer kind base offset block hargs' hlive =>
    obtain rfl := Option.some.inj (hargs.symm.trans hargs')
    refine iff_of_true ⟨_, hown.1, ?_, rfl⟩ trivial
    rw [hinv.imageInfoMap, trackedOf, hlive]
    cases kind <;> rfl

/-! ## Captured launches -/

/-- Within the limits of the capture the 32-bit counter has not started again. -/
theorem toNat_enqueueCounter (config : Config) {enqueueCounter : UInt64}
    (h : checkCaptureReplayEnqueueLimits config enqueueCounter = true) :
    enqueueCounter.toUInt32.toNat = enqueueCounter.toNat := by
  simp only [checkCaptureReplayEnqueueLimits, Bool.and_eq_true, decide_eq_true_eq] at h
  have hmax : enqueueCounter.toNat ≤ config.captureReplayMaxEnqueue.toUInt64.toNat :=
    UInt64.le_iff_toNat_le.mp h.2
  rw [UInt32.toNat_toUInt64] at hmax
  rw [UInt64.toNat_toUInt32, Nat.mod_eq_of_lt (Nat.lt_of_le_of_lt hmax (UInt32.toNat_lt _))]

/-- **Exactly when a captured launch is reconstructed**, after any calls. -/
theorem reconstructs_iff (dec : Decimals) (useSvm : Bool) (config : Config) {run : List Action}
    (hlegal : (sessionSystem float kernel).Legal {} run)
    (hcaptured : checkCaptureReplayEnqueueLimits config l.enqueueCounter = true) :
    Reconstructs dec useSvm kernel ((sessionSystem float kernel).exec {} run) l ↔
      Reconstructible dec float useSvm kernel ((sessionSystem float kernel).exec {} run) l :=
  ⟨reconstructible_of_reconstructs (session_invariant hlegal) (toNat_enqueueCounter config hcaptured),
    reconstructs_of_reconstructible (session_invariant hlegal)
      (toNat_enqueueCounter config hcaptured)⟩

/-- A sampler, a value, local memory and a buffer. -/
def samplerRun (normalized : Bool) : List Action :=
  [.create 64 (.sampler (some [.normalizedCoords normalized, .addressingMode .addressClamp,
      .filterMode .filterLinear])),
    .create 128 (.buffer ⟨[1, 2, 3, 4], 0⟩), .createKernel [], .setKernelArg 0 (.object 64) true,
    .setKernelArg 1 (.bytes [1, 2]) true, .setKernelArg 2 (.localMemory 16) true,
    .setKernelArg 3 (.object 128) true]

def samplerLaunch : Launch where
  functionName := "blur"
  names := registerKernel id {} 7 32 "blur" {}
  enqueueCounter := 3
  workDim := 1
  globalOffset := none
  globalSize := some fun _ => 1024
  localSize := none
  reads := fun _ => true

def noFloats : FloatText := ⟨fun _ => "", by simp⟩

theorem legal_samplerRun (normalized : Bool) :
    (sessionSystem noFloats 7).Legal {} (samplerRun normalized) := by
  refine ⟨⟨by decide, by decide, rfl, ?_⟩, ⟨by decide, by decide, rfl, trivial⟩, nofun, fun _ => ?_,
    fun _ => trivial, fun _ => trivial, fun _ => ?_, trivial⟩
  · show (["CL_SAMPLER_NORMALIZED_COORDS", "CL_SAMPLER_ADDRESSING_MODE",
      "CL_SAMPLER_FILTER_MODE"]).Nodup
    decide
  · exact ⟨_, rfl, nofun⟩
  · exact ⟨_, rfl, nofun⟩

theorem written_samplerRun (normalized : Bool) :
    Written noFloats 7 ((sessionSystem noFloats 7).exec {} (samplerRun normalized)) := by
  refine written_of_run (legal_samplerRun normalized) fun a ha => ?_
  simp only [samplerRun, List.mem_cons, List.not_mem_nil, or_false] at ha
  rcases ha with rfl | rfl | rfl | rfl | rfl | rfl | rfl <;> trivial

theorem shortKernelName_samplerLaunch : shortKernelName 7 samplerLaunch = "blur" := by
  decide

theorem foundIndex_samplerLaunch (i : Nat) : foundIndex Decimals.plain 7 samplerLaunch i = i := by
  have hnone : Decimals.plain.firstNumber
      (fromFirst "_Arg_".toList (dumpedStem 7 samplerLaunch)) = none := by
    unfold dumpedStem
    rw [shortKernelName_samplerLaunch]
    decide
  rw [foundIndex, hnone, Option.getD_none]

section

variable (normalized : Bool)

/-- Its four arguments. -/
theorem args_samplerRun (i : Nat) :
    ((sessionSystem noFloats 7).exec {} (samplerRun normalized)).args i =
      [.object 64, .bytes [1, 2], .localMemory 16, .object 128][i]? := by
  match i with
  | 0 | 1 | 2 | 3 => rfl
  | i + 4 => rfl

/-- What is recorded of them. -/
theorem entries_samplerRun (i : Nat) :
    ((sessionSystem noFloats 7).exec {} (samplerRun normalized)).kernelArgs.entries 7 i =
      [{ data := some (pointerBytes 64),
         sampler := some (getSamplerPropertiesString noFloats (some [.normalizedCoords normalized,
          .addressingMode .addressClamp, .filterMode .filterLinear])) },
        { data := some [1, 2] }, { localSize := some 16 },
        { mem := some ⟨128, 0⟩, data := some (pointerBytes 128) }][i]?.getD ({} : ArgEntries) := by
  match i with
  | 0 | 1 | 2 | 3 => rfl
  | i + 4 =>
    rw [(session_invariant (legal_samplerRun normalized)).unset]
    · rfl
    · simp [sessionSystem, System.exec, samplerRun, sessionStep]

/-- The contents of the buffer are what there is to be found. -/
theorem memory_samplerRun (h : Half) (i : Nat) :
    ((sessionSystem noFloats 7).exec {} (samplerRun normalized)).memory h i =
      if h = .buffers ∧ i = 3 then some [1, 2, 3, 4] else none := by
  match i with
  | 0 | 1 | 2 | 3 => cases h <;> rfl
  | i + 4 =>
    simp [Session.memory, Session.meaning, args_samplerRun]

/-- The file of the buffer is found under its index. -/
theorem memoryFound_samplerRun : MemoryFound Decimals.plain 7
    ((sessionSystem noFloats 7).exec {} (samplerRun normalized)) samplerLaunch := by
  intro h d bytes
  have hslash : '/' ∉ (shortKernelName 7 samplerLaunch).toList := by
    rw [shortKernelName_samplerLaunch]
    decide
  have hrecorded : ∀ i, RecordedMemory 7
      ((sessionSystem noFloats 7).exec {} (samplerRun normalized)) h i bytes ↔
        i = 3 ∧ h = .buffers ∧ [1, 2, 3, 4] = bytes := by
    intro i
    unfold RecordedMemory
    show (∃ memInfo t, (((sessionSystem noFloats 7).exec {} (samplerRun normalized)).kernelArgs.entries
      7 i).mem = some memInfo ∧ _) ↔ _
    rw [entries_samplerRun]
    match i with
    | 0 | 1 | 2 | i + 4 => simp
    | 3 =>
      cases h with
      | buffers =>
        constructor
        · rintro ⟨_, t, ⟨⟩, ⟨⟩, hread⟩
          exact ⟨rfl, rfl, Option.some.inj hread⟩
        · exact fun hbytes => ⟨_, _, rfl, rfl, congrArg some hbytes.2.2⟩
      | images =>
        refine iff_of_false ?_ (by simp)
        rintro ⟨_, t, ⟨⟩, ht, -⟩
        cases ht
  rw [memory_samplerRun]
  simp only [hrecorded, foundIndex_samplerLaunch, hslash, not_false_eq_true, true_and]
  constructor
  · rintro ⟨i, ⟨rfl, rfl, rfl⟩, -, rfl⟩
    rfl
  · intro hbytes
    split at hbytes
    · next hbuffer => exact ⟨3, ⟨rfl, hbuffer.1, Option.some.inj hbytes⟩, rfl, hbuffer.2.symm⟩
    · cases hbytes

/-- The arguments of the launch, one by one. -/
theorem args_samplerRun_cases {i : Nat} {arg : Arg}
    (h : ((sessionSystem noFloats 7).exec {} (samplerRun normalized)).args i = some arg) :
    i = 0 ∧ arg = .object 64 ∨ i = 1 ∧ arg = .bytes [1, 2] ∨ i = 2 ∧ arg = .localMemory 16 ∨
      i = 3 ∧ arg = .object 128 := by
  rw [args_samplerRun] at h
  match i with
  | 0 => exact .inl ⟨rfl, (Option.some.inj h).symm⟩
  | 1 => exact .inr (.inl ⟨rfl, (Option.some.inj h).symm⟩)
  | 2 => exact .inr (.inr (.inl ⟨rfl, (Option.some.inj h).symm⟩))
  | 3 => exact .inr (.inr (.inr ⟨rfl, (Option.some.inj h).symm⟩))
  | i + 4 => cases h

/-- The buffer is the only memory among the arguments. -/
theorem storage_samplerRun {i : Nat} {arg : Arg}
    (h : ((sessionSystem noFloats 7).exec {} (samplerRun normalized)).args i = some arg)
    (hstorage :
      (arg.storage ((sessionSystem noFloats 7).exec {} (samplerRun normalized)).live).isSome) :
    i = 3 ∧ arg = .object 128 := by
  rcases args_samplerRun_cases normalized h with ⟨-, rfl⟩ | ⟨-, rfl⟩ | ⟨-, rfl⟩ | h
  · cases hstorage
  · cases hstorage
  · cases hstorage
  · exact h

/-- No offset is recorded that makes the buffer an SVM allocation. -/
theorem not_replaysSvm_samplerRun :
    ¬ReplaysSvm false 7 ((sessionSystem noFloats 7).exec {} (samplerRun normalized)) := by
  rintro (h | ⟨i, memInfo, hmem, -, hoffset⟩)
  · cases h
  · have hentry := congrArg ArgEntries.mem (entries_samplerRun normalized i)
    rw [show (_ : ArgEntries).mem = some memInfo from hmem] at hentry
    match i with
    | 0 | 1 | 2 | i + 4 => cases hentry
    | 3 =>
      cases hentry
      exact hoffset rfl

/-- Each index has the entries of its own argument. -/
theorem nothingLeft_samplerRun :
    NothingLeft 7 ((sessionSystem noFloats 7).exec {} (samplerRun normalized)) := by
  refine ⟨fun i value h => ?_, fun i size h => ?_, fun i str h => ?_⟩
  · have hentry := congrArg ArgEntries.data (entries_samplerRun normalized i)
    rw [show (_ : ArgEntries).data = some value from h] at hentry
    match i with
    | 0 | 1 | 3 => exact ⟨_, rfl, by simp⟩
    | 2 | i + 4 => cases hentry
  · have hentry := congrArg ArgEntries.localSize (entries_samplerRun normalized i)
    rw [show (_ : ArgEntries).localSize = some size from h] at hentry
    match i with
    | 0 | 1 | 3 | i + 4 => cases hentry
    | 2 =>
      cases hentry
      rfl
  · have hentry := congrArg ArgEntries.sampler (entries_samplerRun normalized i)
    rw [show (_ : ArgEntries).sampler = some str from h] at hentry
    match i with
    | 0 => exact ⟨_, _, rfl, rfl⟩
    | 1 | 2 | 3 | i + 4 => cases hentry

end

/-- Without normalized coordinates the launch is as it has to be. -/
theorem reconstructible_samplerRun : Reconstructible Decimals.plain noFloats false 7
    ((sessionSystem noFloats 7).exec {} (samplerRun false)) samplerLaunch := by
  have hinv := session_invariant (legal_samplerRun false)
  constructor
  case name => exact shortKernelName_samplerLaunch
  case localSize => exact ⟨by decide, by decide⟩
  case found => exact memoryFound_samplerRun false
  case recorded =>
    intro i arg h
    rw [recordedAs_iff_kept hinv (written_samplerRun false) h]
    rcases args_samplerRun_cases false h with ⟨-, rfl⟩ | ⟨-, rfl⟩ | ⟨-, rfl⟩ | ⟨-, rfl⟩
    · show SamplerKept (some [.normalizedCoords false, .addressingMode .addressClamp,
        .filterMode .filterLinear])
      exact ⟨by simp, ⟨.addressClamp, by simp⟩, by simp⟩
    · trivial
    · trivial
    · trivial
  case buffers => exact fun _ _ _ _ _ => not_replaysSvm_samplerRun false
  case pointers =>
    intro i kind base offset h
    rcases args_samplerRun_cases false h with ⟨-, h⟩ | ⟨-, h⟩ | ⟨-, h⟩ | ⟨-, h⟩ <;> cases h
  case extents =>
    intro i _ handle _ answers _ contents _ h hlive
    rcases args_samplerRun_cases false h with ⟨-, h⟩ | ⟨-, h⟩ | ⟨-, h⟩ | ⟨-, h⟩ <;>
      cases h <;> cases hlive
  case aliases =>
    intro i j x y hx hy _
    rw [memory_samplerRun, Option.ite_none_right_eq_some] at hx hy
    exact Option.some.inj (hx.2.symm.trans hy.2)
  case storage =>
    intro i j arg arg' hi hj hstorage hstorage'
    obtain ⟨rfl, rfl⟩ := storage_samplerRun false hi hstorage
    obtain ⟨rfl, rfl⟩ := storage_samplerRun false hj hstorage'
    exact iff_of_true rfl rfl
  case leftover => exact nothingLeft_samplerRun false

theorem reconstructs_samplerRun :
    Reconstructs Decimals.plain false 7
      ((sessionSystem noFloats 7).exec {} (samplerRun false)) samplerLaunch :=
  (reconstructs_iff Decimals.plain false {} (legal_samplerRun false) (by decide)).mpr
    reconstructible_samplerRun

/-- A sampler with normalized coordinates is made again with others. -/
theorem normalized_sampler_is_lost :
    (sessionSystem noFloats 7).Legal {} (samplerRun true) ∧
      Written noFloats 7 ((sessionSystem noFloats 7).exec {} (samplerRun true)) ∧
      checkCaptureReplayEnqueueLimits {} samplerLaunch.enqueueCounter = true ∧
      ¬ Reconstructs Decimals.plain false 7
        ((sessionSystem noFloats 7).exec {} (samplerRun true)) samplerLaunch := by
  have hinv := session_invariant (legal_samplerRun true)
  have hwritten := written_samplerRun true
  refine ⟨legal_samplerRun true, hwritten, by decide, fun h => ?_⟩
  have hrecorded :=
    (reconstructible_of_reconstructs hinv (toNat_enqueueCounter {} (by decide)) h).recorded 0 _ rfl
  have hkept : SamplerKept (some [.normalizedCoords true, .addressingMode .addressClamp,
      .filterMode .filterLinear]) := (recordedAs_iff_kept hinv hwritten rfl).mp hrecorded
  exact absurd hkept.notNormalized (by decide)

end CLIntercept.Replay
