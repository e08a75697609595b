import CLIntercept.Dump.Images
import Mathlib.Data.List.GetD

/-!
# Buffers that are injected

`injectBuffersForKernel` writes a file to the memory of each argument that one is found for. A USM
allocation is copied to from a buffer that all its rounds share, and of which the file is read into the
beginning; an SVM allocation and a buffer are mapped with `CL_MAP_WRITE_INVALIDATE_REGION`, which leaves
what the layer does not write undefined. Either way the whole allocation is written, and not the bytes
of the file alone.

`injectsFiles_iff` says when the bytes behind the file are kept all the same. The calls of the driver are
taken to succeed.
-/

set_option autoImplicit false

namespace CLIntercept.Dump.Memory

open CLIntercept.Lib CLIntercept.Track

/-! ## The function -/

/-- The three kinds of memory that a file is injected to. -/
inductive Storage
  | usm
  | svm
  | buffer
  deriving DecidableEq, Repr

/-- The map that an allocation is found in first, and the size there. -/
def storageOf (o : Objects) (allocation : Nat) : Option (Storage × Nat) :=
  match o.usmAllocInfoMap.get? allocation with
  | some size => some (.usm, size)
  | none =>
    match o.svmAllocInfoMap.get? allocation with
    | some size => some (.svm, size)
    | none => (o.bufferInfoMap allocation).map (.buffer, ·)

/-- The bytes of each allocation, where they are defined. -/
abbrev Contents := Nat → Nat → Option UInt8

/-- The first `size` bytes of an allocation are written, all of them. -/
def Contents.write (m : Contents) (allocation size : Nat) (byte : Nat → Option UInt8) : Contents :=
  Function.update m allocation fun j => if j < size then byte j else m allocation j

/-- An argument, and the file for it, if there is one. -/
structure BufferArg where
  allocation : Nat
  file : Option Bytes
  deriving DecidableEq, Repr

section

variable (o : Objects)

/-- One round: the buffer and the memory behind it. -/
def injectBuffer (transferBuf : Bytes) (m : Contents) (arg : BufferArg) : Bytes × Contents :=
  match storageOf o arg.allocation, arg.file with
  | some (storage, size), some bytes =>
    if size < bytes.length then (transferBuf, m)
    else
      match storage with
      | .usm =>
        let transferBuf :=
          if transferBuf.length < size then grow transferBuf size else transferBuf
        let transferBuf := readInto transferBuf bytes size
        (transferBuf, m.write arg.allocation size fun j => transferBuf[j]?)
      -- a byte behind the file is undefined
      | .svm | .buffer => (transferBuf, m.write arg.allocation size fun j => bytes[j]?)
  | _, _ => (transferBuf, m)

/-- The loop over the arguments. -/
def injectBuffers (args : List BufferArg) (transferBuf : Bytes) (m : Contents) : Bytes × Contents :=
  args.foldl (fun s arg => injectBuffer o s.1 s.2 arg) (transferBuf, m)

/-- What is injected of a file: to what kind of memory and of which size, if it is not longer. -/
def BufferArg.injected (arg : BufferArg) : Option (Storage × Nat × Bytes) :=
  (storageOf o arg.allocation).bind fun (storage, size) =>
    (arg.file.filter fun bytes => bytes.length ≤ size).map (storage, size, ·)

end

/-- The arguments of a kernel with an index below `count`. -/
def bufferArgs (config : Config) (files : Files) (s : MemSession) (k count : Nat) : List BufferArg :=
  (List.range count).filterMap fun argIndex => (target s k .buffers argIndex).map fun t =>
    { allocation := t.handle, file := (openedFor config files s k .buffers argIndex).map (·.2) }

def injectBuffersForKernel (config : Config) (files : Files) (s : MemSession) (k count : Nat)
    (m : Contents) : Contents :=
  (injectBuffers s.objects (bufferArgs config files s k count) [] m).2

/-! ## What the injection must do -/

section

variable (o : Objects) (contents : Nat → Nat → UInt8) (args : List BufferArg)

/-- An allocation that a file is injected to: it begins with the bytes of the file and goes on with its
own. -/
def Begins (bytes : Bytes) (allocation : Nat) (m : Contents) : Prop :=
  ∀ j, m allocation j = some (bytes.getD j (contents allocation j))

/-- **Each allocation begins with its file**, and nothing else is changed. -/
structure InjectsFiles : Prop where
  begins : ∀ arg ∈ args, ∀ storage size bytes, arg.injected o = some (storage, size, bytes) →
    Begins contents bytes arg.allocation
      (injectBuffers o args [] fun allocation j => some (contents allocation j)).2
  others : ∀ allocation, (∀ arg ∈ args, arg.allocation = allocation → arg.injected o = none) →
    ∀ j, (injectBuffers o args [] fun allocation j => some (contents allocation j)).2 allocation j =
      some (contents allocation j)

end

/-! ## The shared buffer -/

/-- What the last of some files has at a position, and zero if none of them has anything there. -/
def lastByte (files : List Bytes) (j : Nat) : UInt8 :=
  files.foldl (fun byte bytes => bytes.getD j byte) 0

/-- The files that are copied to USM allocations. -/
def copiedFiles (o : Objects) (args : List BufferArg) : List Bytes :=
  args.filterMap fun arg =>
    (arg.injected o).bind fun (storage, _, bytes) => if storage = .usm then some bytes else none

/-! ### One round -/

section

variable {o : Objects} {arg : BufferArg} {storage : Storage} {size : Nat} {bytes : Bytes}

theorem injected_eq_some : arg.injected o = some (storage, size, bytes) ↔
    storageOf o arg.allocation = some (storage, size) ∧ arg.file = some bytes ∧
      bytes.length ≤ size := by
  unfold BufferArg.injected
  constructor
  · intro h
    obtain ⟨⟨storage', size'⟩, hstorage, h⟩ := Option.bind_eq_some_iff.mp h
    obtain ⟨bytes', hfilter, heq⟩ := Option.map_eq_some_iff.mp h
    obtain ⟨hfile, hle⟩ := Option.filter_eq_some_iff.mp hfilter
    cases heq
    exact ⟨hstorage, hfile, of_decide_eq_true hle⟩
  · rintro ⟨hstorage, hfile, hle⟩
    rw [hstorage, hfile, Option.bind_some]
    dsimp only
    rw [Option.filter_some, if_pos (decide_eq_true hle)]
    rfl

theorem injectBuffer_of_none (h : arg.injected o = none) (transferBuf : Bytes) (m : Contents) :
    injectBuffer o transferBuf m arg = (transferBuf, m) := by
  unfold injectBuffer
  split
  next storage size bytes hstorage hfile =>
    have hlt : size < bytes.length := by
      by_contra hle
      rw [injected_eq_some.mpr ⟨hstorage, hfile, Nat.le_of_not_lt hle⟩] at h
      cases h
    exact if_pos hlt
  next => rfl

/-- Room is made with zeros. -/
theorem getD_grow (transferBuf : Bytes) (size j : Nat) :
    (grow transferBuf size).getD j 0 = transferBuf.getD j 0 := by
  rw [List.getD_eq_getElem?_getD, List.getD_eq_getElem?_getD, grow]
  by_cases hj : j < transferBuf.length
  · rw [List.getElem?_append_left hj]
  · rw [List.getElem?_append_right (Nat.le_of_not_lt hj), List.getElem?_replicate,
      List.getElem?_eq_none (Nat.le_of_not_lt hj)]
    split <;> rfl

/-- A file covers the beginning of the buffer. -/
theorem getD_readInto (transferBuf : Bytes) (h : bytes.length ≤ size) (j : Nat) :
    (readInto transferBuf bytes size).getD j 0 = bytes.getD j (transferBuf.getD j 0) := by
  simp only [List.getD_eq_getElem?_getD]
  rw [readInto, List.take_of_length_le h, Nat.min_eq_right h]
  by_cases hj : j < bytes.length
  · rw [List.getElem?_append_left hj, List.getElem?_eq_getElem hj]
    rfl
  · have hle : bytes.length ≤ j := Nat.le_of_not_lt hj
    rw [List.getElem?_append_right hle, List.getElem?_drop, List.getElem?_eq_none hle,
      Nat.add_sub_cancel' hle]
    rfl

/-- The byte that is written at a position: for a USM allocation one of the file or else of those
before it, and otherwise one of the file. -/
def writtenByte (storage : Storage) (bytes : Bytes) (earlier : UInt8) (j : Nat) : Option UInt8 :=
  if storage = .usm then some (bytes.getD j earlier) else bytes[j]?

/-- A position that a file has. -/
theorem getElem?_eq_some_getD {bytes : Bytes} {j : Nat} (h : j < bytes.length) (default : UInt8) :
    bytes[j]? = some (bytes.getD j default) := by
  rw [List.getD_eq_getElem _ _ h, List.getElem?_eq_getElem h]

/-- The buffer of a round that copies. -/
theorem exists_copied (transferBuf : Bytes) (h : bytes.length ≤ size) :
    ∃ copied : Bytes, size ≤ copied.length ∧
      (∀ j, copied.getD j 0 = bytes.getD j (transferBuf.getD j 0)) ∧
      copied = readInto
        (if transferBuf.length < size then grow transferBuf size else transferBuf) bytes size := by
  have hroom : size ≤
      (if transferBuf.length < size then grow transferBuf size else transferBuf).length := by
    split
    · rw [length_grow]
      exact Nat.le_max_right ..
    · omega
  refine ⟨_, ?_, fun j => ?_, rfl⟩
  · rw [length_readInto hroom]
    exact hroom
  · rw [getD_readInto _ h]
    split
    · rw [getD_grow]
    · rfl

/-- **One round**: what the buffer has afterwards, and what is written. -/
theorem injectBuffer_of_some (h : arg.injected o = some (storage, size, bytes)) (transferBuf : Bytes)
    (m : Contents) :
    (∀ j, (injectBuffer o transferBuf m arg).1.getD j 0 =
        if storage = .usm then bytes.getD j (transferBuf.getD j 0) else transferBuf.getD j 0) ∧
      (injectBuffer o transferBuf m arg).2 =
        m.write arg.allocation size fun j => writtenByte storage bytes (transferBuf.getD j 0) j := by
  obtain ⟨hstorage, hfile, hle⟩ := injected_eq_some.mp h
  obtain ⟨copied, hroom, hcopied, heq⟩ := exists_copied transferBuf hle
  unfold injectBuffer
  rw [hstorage, hfile]
  dsimp only
  rw [if_neg (Nat.not_lt.mpr hle)]
  cases storage with
  | usm =>
    dsimp only
    rw [← heq]
    refine ⟨hcopied, ?_⟩
    unfold Contents.write
    congr 1
    funext j
    split
    next hj =>
      have hsome := getElem?_eq_some_getD (Nat.lt_of_lt_of_le hj hroom) 0
      dsimp only
      rw [hsome, hcopied]
      rfl
    next => rfl
  | svm => exact ⟨fun _ => rfl, rfl⟩
  | buffer => exact ⟨fun _ => rfl, rfl⟩

end

/-! ### All rounds -/

section

variable {o : Objects} {args : List BufferArg} {transferBuf : Bytes} {m : Contents}

theorem injectBuffers_cons (arg : BufferArg) :
    injectBuffers o (arg :: args) transferBuf m =
      injectBuffers o args (injectBuffer o transferBuf m arg).1 (injectBuffer o transferBuf m arg).2 :=
  rfl

theorem injectBuffers_append (more : List BufferArg) :
    injectBuffers o (args ++ more) transferBuf m =
      injectBuffers o more (injectBuffers o args transferBuf m).1
        (injectBuffers o args transferBuf m).2 :=
  List.foldl_append

/-- An allocation that nothing is injected to. -/
theorem untouched {allocation : Nat}
    (h : ∀ arg ∈ args, arg.allocation = allocation → arg.injected o = none) :
    (injectBuffers o args transferBuf m).2 allocation = m allocation := by
  induction args generalizing transferBuf m with
  | nil => rfl
  | cons arg args ih =>
    rw [injectBuffers_cons, ih fun arg' harg' => h arg' (List.mem_cons_of_mem _ harg')]
    by_cases hallocation : arg.allocation = allocation
    · rw [injectBuffer_of_none (h arg List.mem_cons_self hallocation)]
    · cases hinjected : arg.injected o with
      | none => rw [injectBuffer_of_none hinjected]
      | some injected =>
        obtain ⟨storage, size, bytes⟩ := injected
        rw [(injectBuffer_of_some hinjected transferBuf m).2]
        exact Function.update_of_ne (Ne.symm hallocation) ..

/-- Nothing is written behind an allocation. -/
theorem behind_untouched {allocation size : Nat} {storage : Storage}
    (hstorage : storageOf o allocation = some (storage, size)) {j : Nat} (hj : size ≤ j) :
    (injectBuffers o args transferBuf m).2 allocation j = m allocation j := by
  induction args generalizing transferBuf m with
  | nil => rfl
  | cons arg args ih =>
    rw [injectBuffers_cons, ih]
    cases hinjected : arg.injected o with
    | none => rw [injectBuffer_of_none hinjected]
    | some injected =>
      obtain ⟨storage', size', bytes⟩ := injected
      rw [(injectBuffer_of_some hinjected transferBuf m).2, Contents.write]
      by_cases hallocation : allocation = arg.allocation
      · subst hallocation
        obtain ⟨hstorage', -, -⟩ := injected_eq_some.mp hinjected
        rw [hstorage, Option.some_inj, Prod.mk.injEq] at hstorage'
        rw [Function.update_self, if_neg (by omega)]
      · rw [Function.update_of_ne hallocation]

/-- The buffer has the last byte of the files that were copied, at every position. -/
theorem getD_transferBuf (j : Nat) : (injectBuffers o args transferBuf m).1.getD j 0 =
    (copiedFiles o args).foldl (fun byte bytes => bytes.getD j byte) (transferBuf.getD j 0) := by
  induction args generalizing transferBuf m with
  | nil => rfl
  | cons arg args ih =>
    rw [injectBuffers_cons, ih, copiedFiles, copiedFiles, List.filterMap_cons]
    cases hinjected : arg.injected o with
    | none =>
      rw [injectBuffer_of_none hinjected]
      rfl
    | some injected =>
      obtain ⟨storage, size, bytes⟩ := injected
      rw [(injectBuffer_of_some hinjected transferBuf m).1]
      dsimp only [Option.bind_some]
      split
      · rfl
      · rfl

/-- The last file for an allocation decides what it has afterwards. -/
theorem contents_of_last {front back : List BufferArg} {arg : BufferArg} {storage : Storage}
    {size : Nat} {bytes : Bytes} (h : arg.injected o = some (storage, size, bytes))
    (hlast : ∀ later ∈ back, later.allocation = arg.allocation → later.injected o = none) (j : Nat) :
    (injectBuffers o (front ++ arg :: back) [] m).2 arg.allocation j =
      if j < size then writtenByte storage bytes (lastByte (copiedFiles o front) j) j
      else m arg.allocation j := by
  rw [injectBuffers_append, injectBuffers_cons, untouched hlast,
    (injectBuffer_of_some h _ _).2, Contents.write, Function.update_self, getD_transferBuf]
  split
  next => rfl
  next hj => exact behind_untouched (injected_eq_some.mp h).1 (Nat.le_of_not_lt hj)

end

/-! ## When the rest is kept -/

/-- The last of some things with a property. -/
theorem exists_last_of_exists {α : Type*} {p : α → Prop} {l : List α} (h : ∃ a ∈ l, p a) :
    ∃ front x back, l = front ++ x :: back ∧ p x ∧ ∀ y ∈ back, ¬ p y := by
  induction l with
  | nil =>
    obtain ⟨_, ha, _⟩ := h
    cases ha
  | cons b l ih =>
    by_cases hlater : ∃ c ∈ l, p c
    · obtain ⟨front, x, back, rfl, hx, hback⟩ := ih hlater
      exact ⟨b :: front, x, back, rfl, hx, hback⟩
    · obtain ⟨a, ha, hpa⟩ := h
      rcases List.mem_cons.mp ha with rfl | hmem
      · exact ⟨[], a, l, rfl, hpa, fun y hy hpy => hlater ⟨y, hy, hpy⟩⟩
      · exact absurd ⟨a, hmem, hpa⟩ hlater

section

variable (o : Objects) (contents : Nat → Nat → UInt8) (args : List BufferArg)

/-- **The bytes behind the files are kept**. The last file for an allocation reaches its end, unless the
allocation is copied to and has there what the files copied before had; and the files for one
allocation agree. -/
structure KeepsRest : Prop where
  last : ∀ front arg back, args = front ++ arg :: back → ∀ storage size bytes,
    arg.injected o = some (storage, size, bytes) →
      (∀ later ∈ back, later.allocation = arg.allocation → later.injected o = none) →
        ∀ j, bytes.length ≤ j → j < size →
          storage = .usm ∧ lastByte (copiedFiles o front) j = contents arg.allocation j
  agree : ∀ arg ∈ args, ∀ other ∈ args, other.allocation = arg.allocation →
    ∀ storage size bytes storage' size' bytes', arg.injected o = some (storage, size, bytes) →
      other.injected o = some (storage', size', bytes') →
        ∀ j, bytes.getD j (contents arg.allocation j) = bytes'.getD j (contents arg.allocation j)

end

variable {o : Objects} {contents : Nat → Nat → UInt8} {args : List BufferArg}

/-- When the byte that is written is the one that should be there. -/
theorem writtenByte_eq_iff (storage : Storage) (bytes : Bytes) (earlier own : UInt8) (j : Nat) :
    writtenByte storage bytes earlier j = some (bytes.getD j own) ↔
      (bytes.length ≤ j → storage = .usm ∧ earlier = own) := by
  unfold writtenByte
  by_cases hj : j < bytes.length
  · refine iff_of_true ?_ fun hle => absurd hj (Nat.not_lt.mpr hle)
    split
    · have hsome := getElem?_eq_some_getD hj
      rw [← hsome earlier, hsome own]
    · exact getElem?_eq_some_getD hj own
  · have hle : bytes.length ≤ j := Nat.le_of_not_lt hj
    rw [List.getD_eq_default _ _ hle, List.getD_eq_default _ _ hle, List.getElem?_eq_none hle]
    by_cases hstorage : storage = .usm
    · simp [hstorage, hle]
    · simp [hstorage, hle]

/-- **When each allocation begins with its file** and is kept otherwise. -/
theorem injectsFiles_iff (o : Objects) (contents : Nat → Nat → UInt8) (args : List BufferArg) :
    InjectsFiles o contents args ↔ KeepsRest o contents args := by
  constructor
  · intro h
    refine ⟨?_, ?_⟩
    · rintro front arg back rfl storage size bytes hinjected hlast j hle hj
      have hbegins := h.begins arg (by simp) storage size bytes hinjected j
      rw [contents_of_last hinjected hlast, if_pos hj] at hbegins
      exact (writtenByte_eq_iff ..).mp hbegins hle
    · intro arg harg other hother hallocation storage size bytes storage' size' bytes' hinjected
        hinjected' j
      have hbegins := h.begins arg harg storage size bytes hinjected j
      have hbegins' := h.begins other hother storage' size' bytes' hinjected' j
      rw [hallocation, hbegins] at hbegins'
      exact Option.some.inj hbegins'
  · intro h
    refine ⟨?_, fun allocation hnone j => congrFun (untouched hnone) j⟩
    intro arg harg storage size bytes hinjected j
    obtain ⟨front, last, back, hsplit, ⟨hallocation, hlast⟩, hback⟩ :=
      exists_last_of_exists (p := fun other => other.allocation = arg.allocation ∧
        other.injected o ≠ none) ⟨arg, harg, rfl, by rw [hinjected]; nofun⟩
    obtain ⟨⟨storage', size', bytes'⟩, hlast⟩ := Option.ne_none_iff_exists'.mp hlast
    have hlater : ∀ later ∈ back, later.allocation = last.allocation → later.injected o = none := by
      intro later hmem hsame
      by_contra hsome
      exact hback later hmem ⟨hsame.trans hallocation, hsome⟩
    have hagree := h.agree arg harg last (hsplit ▸ by simp) hallocation _ _ _ _ _ _ hinjected hlast j
    rw [hagree, ← hallocation, hsplit, contents_of_last hlast hlater]
    split
    next hj =>
      rw [writtenByte_eq_iff]
      exact fun hle => h.last front last back hsplit _ _ _ hlast hlater j hle hj
    next hj =>
      obtain ⟨-, -, hle⟩ := injected_eq_some.mp hlast
      rw [List.getD_eq_default _ _ (by omega)]

/-- A USM allocation of two bytes, of which a file has the first. -/
theorem short_file_clears_rest :
    ¬ InjectsFiles { usmAllocInfoMap := OrdMap.empty.insert 4096 2 } (fun _ _ => 1)
      [⟨4096, some [7]⟩] := by
  intro h
  have hbegins := h.begins _ (List.mem_singleton_self _) .usm 2 [7] (by decide) 1
  exact absurd hbegins (by decide)

/-! ## The buffers of a session -/

/-- The session finds the same memory. -/
theorem bufferSize_eq (o : Objects) (allocation : Nat) :
    bufferSize o allocation = (storageOf o allocation).map (·.2) := by
  unfold bufferSize storageOf
  cases o.usmAllocInfoMap.get? allocation with
  | some size => rfl
  | none =>
    cases o.svmAllocInfoMap.get? allocation with
    | some size => rfl
    | none => cases o.bufferInfoMap allocation <;> rfl

/-- What it knows of what is written is the part that comes from the file. -/
theorem map_injected {arg : BufferArg} {storage : Storage} {size : Nat} {bytes : Bytes}
    (hstorage : storageOf o arg.allocation = some (storage, size)) (hfile : arg.file = some bytes)
    (transferBufSize : Nat) :
    (arg.injected o).map (·.2.2) = Half.written size transferBufSize bytes .buffers := by
  unfold Half.written
  by_cases hle : bytes.length ≤ size
  · rw [injected_eq_some.mpr ⟨hstorage, hfile, hle⟩, if_neg (Nat.not_lt.mpr hle)]
    rfl
  · rw [if_pos (Nat.lt_of_not_le hle), Option.map_eq_none_iff]
    by_contra hsome
    obtain ⟨⟨storage', size', bytes'⟩, hinjected⟩ := Option.ne_none_iff_exists'.mp hsome
    obtain ⟨hstorage', hfile', hle'⟩ := injected_eq_some.mp hinjected
    rw [hstorage, Option.some_inj, Prod.mk.injEq] at hstorage'
    rw [hfile, Option.some_inj] at hfile'
    rw [← hfile', ← hstorage'.2] at hle'
    exact hle hle'

end CLIntercept.Dump.Memory
