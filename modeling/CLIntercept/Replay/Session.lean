import CLIntercept.Lib.Run
import CLIntercept.Track.Allocations
import CLIntercept.Track.KernelArgs
import Mathlib.Data.List.Nodup

/-!
# The session before a captured launch

What the driver has at its addresses, what the layer has recorded of it, and what the arguments of a
kernel are set to. The layer runs with `CaptureReplay`, so that it is told of every creation.

`session_invariant` says what holds after any calls: the layer has recorded what lives. Of the
arguments it has recorded what the setters wrote, whether the driver took it or not, for as long as
there is a kernel at the handle. After setters that the driver took, that includes what the
arguments are set to (`written_of_run`).
-/

set_option autoImplicit false

namespace CLIntercept.Replay

open CLIntercept.Lib CLIntercept.Track

/-! ## Samplers -/

/-- The values of `cl_addressing_mode`. -/
inductive AddressingMode
  | addressNone
  | addressClampToEdge
  | addressClamp
  | addressRepeat
  | addressMirroredRepeat
  deriving DecidableEq, Repr

/-- The values of `cl_filter_mode`. -/
inductive FilterMode
  | filterNearest
  | filterLinear
  deriving DecidableEq, Repr

/-- A property of a sampler and its value. The levels of detail are floats. -/
inductive SamplerProperty
  | normalizedCoords (value : Bool)
  | addressingMode (value : AddressingMode)
  | filterMode (value : FilterMode)
  | mipFilterMode (value : FilterMode)
  | lodMin (value : UInt32)
  | lodMax (value : UInt32)
  deriving DecidableEq, Repr

def AddressingMode.name : AddressingMode → String
  | addressNone => "CL_ADDRESS_NONE"
  | addressClampToEdge => "CL_ADDRESS_CLAMP_TO_EDGE"
  | addressClamp => "CL_ADDRESS_CLAMP"
  | addressRepeat => "CL_ADDRESS_REPEAT"
  | addressMirroredRepeat => "CL_ADDRESS_MIRRORED_REPEAT"

def FilterMode.name : FilterMode → String
  | filterNearest => "CL_FILTER_NEAREST"
  | filterLinear => "CL_FILTER_LINEAR"

def SamplerProperty.name : SamplerProperty → String
  | normalizedCoords _ => "CL_SAMPLER_NORMALIZED_COORDS"
  | addressingMode _ => "CL_SAMPLER_ADDRESSING_MODE"
  | filterMode _ => "CL_SAMPLER_FILTER_MODE"
  | mipFilterMode _ => "CL_SAMPLER_MIP_FILTER_MODE"
  | lodMin _ => "CL_SAMPLER_LOD_MIN"
  | lodMax _ => "CL_SAMPLER_LOD_MAX"

/-- What `printf` makes of a float with `%.2f`: a text in one line without capitals. -/
structure FloatText where
  text : UInt32 → String
  plain : ∀ x, ∀ c ∈ (text x).toList, c.isUpper = false ∧ c ≠ '\n'

def SamplerProperty.valueText (float : FloatText) : SamplerProperty → String
  | normalizedCoords value => if value then "CL_TRUE" else "CL_FALSE"
  | addressingMode value => value.name
  | filterMode value | mipFilterMode value => value.name
  | lodMin value | lodMax value => float.text value

/-- `clCreateSampler` gives its three values as properties, `clCreateSamplerWithProperties` what it
is given, which may be no properties. -/
abbrev SamplerProperties := Option (List SamplerProperty)

def getSamplerPropertiesString (float : FloatText) : SamplerProperties → String
  | some properties =>
    ", ".intercalate (properties.map fun p => p.name ++ " = " ++ p.valueText float)
  | none => "NULL"

/-- What the driver makes of the properties. -/
@[ext]
structure SamplerValues where
  normalized : Bool
  addressing : AddressingMode
  filter : FilterMode
  deriving DecidableEq, Repr

namespace SamplerProperty

def normalized? : SamplerProperty → Option Bool
  | normalizedCoords value => some value
  | _ => none

def addressing? : SamplerProperty → Option AddressingMode
  | addressingMode value => some value
  | _ => none

def filter? : SamplerProperty → Option FilterMode
  | filterMode value => some value
  | _ => none

end SamplerProperty

/-- With the defaults of the specification for what is not given. -/
def samplerValues (properties : SamplerProperties) : SamplerValues where
  normalized := ((properties.getD []).findSome? (·.normalized?)).getD true
  addressing := ((properties.getD []).findSome? (·.addressing?)).getD .addressClamp
  filter := ((properties.getD []).findSome? (·.filter?)).getD .filterNearest

/-! ## What lives, and what the layer is told -/

/-- The bytes of a buffer or an allocation, and the storage that they are in: sub-buffers share that
of their buffer. -/
structure Block where
  contents : Bytes
  storage : Nat
  deriving DecidableEq, Repr

/-- What the driver has at an address. -/
inductive Object
  | buffer (block : Block)
  | image (answers : ImageAnswers) (contents : Bytes)
  | sampler (properties : SamplerProperties)
  | allocation (kind : Allocations.Kind) (block : Block)
  deriving DecidableEq, Repr

/-- What the layer's maps have of an address. -/
structure Tracked where
  buffer : Option Nat := none
  image : Option SImageInfo := none
  sampler : Option String := none
  svm : Option Nat := none
  usm : Option Nat := none
  numbered : Bool := false
  deriving DecidableEq, Repr

def trackedAt (o : Objects) (address : Nat) : Tracked where
  buffer := o.bufferInfoMap address
  image := o.imageInfoMap address
  sampler := o.samplerDataMap address
  svm := o.svmAllocInfoMap.get? address
  usm := o.usmAllocInfoMap.get? address
  numbered := (o.memAllocNumberMap address).isSome

namespace Object

/-- What they should have of an object. Samplers have no number. -/
def tracked (float : FloatText) : Object → Tracked
  | buffer block => { buffer := some block.contents.length, numbered := true }
  | image answers _ => { image := some (imageInfo answers {}), numbered := true }
  | sampler properties => { sampler := some (getSamplerPropertiesString float properties) }
  | allocation .svm block => { svm := some block.contents.length, numbered := true }
  | allocation .usm block => { usm := some block.contents.length, numbered := true }

/-- `ADD_BUFFER`, `ADD_IMAGE`, `ADD_SAMPLER`, `ADD_SVM_ALLOCATION` and `ADD_USM_ALLOCATION`. -/
def add (float : FloatText) (address : Nat) (o : Objects) : Object → Objects
  | buffer block => addBuffer address (some block.contents.length) o
  | image answers _ => addImage address (some answers) o
  | sampler properties =>
    addSamplerString address (getSamplerPropertiesString float properties) o
  | allocation .svm block => addSVMAllocation address block.contents.length o
  | allocation .usm block => addUSMAllocation address block.contents.length o

/-- The removal before the last release, or with the free. -/
def remove (address : Nat) (o : Objects) : Object → Objects
  | buffer _ | image _ _ => checkRemoveMemObj address 1 o
  | sampler _ => checkRemoveSamplerString address 1 o
  | allocation .svm _ => removeSVMAllocation address o
  | allocation .usm _ => removeUSMAllocation address o

end Object

/-! ## Arguments -/

/-- What an argument is set to: the bytes of a value, a size of local memory, a buffer, an image or
a sampler, or a pointer that far into an allocation. -/
inductive Arg
  | bytes (argValue : Bytes)
  | localMemory (argSize : Nat)
  | object (handle : Handle)
  | pointer (kind : Allocations.Kind) (base offset : Nat)
  deriving DecidableEq, Repr

/-- The setter call. -/
def Arg.call : Arg → SetCall
  | bytes argValue => .arg (.bytes argValue)
  | localMemory argSize => .arg (.null argSize)
  | object handle => .arg (.bytes (pointerBytes handle))
  | pointer .svm base offset => .svmPointer (base + offset)
  | pointer .usm base offset => .usmPointer (base + offset)

/-- The address of what has to live. -/
def Arg.address : Arg → Option Nat
  | object handle => some handle
  | pointer _ base _ => some base
  | _ => none

/-- What the driver takes for an argument. -/
def Arg.Valid (live : Nat → Option Object) : Arg → Prop
  | object handle => ∃ object, live handle = some object ∧
      ∀ kind block, object ≠ .allocation kind block
  | pointer kind base offset => ∃ block, live base = some (.allocation kind block) ∧
      offset < block.contents.length
  | _ => True

/-! ## The session -/

/-- What lives, the layer's maps with the indices that were recorded, and what the arguments of the
kernel are set to. -/
structure Session where
  live : Nat → Option Object := fun _ => none
  objects : Objects := {}
  kernelArgs : KernelArgs := {}
  argIndices : List Nat := []
  args : Nat → Option Arg := fun _ => none

/-- The calls. The driver takes a setter's argument or refuses it. A kernel is created with no
arguments that are set, or cloned with some. -/
inductive Action
  | create (address : Nat) (object : Object)
  | release (address : Nat)
  | setKernelArg (argIndex : Nat) (arg : Arg) (accepted : Bool)
  | createKernel (args : List (Nat × Arg))
  deriving DecidableEq, Repr

section

variable (float : FloatText) (kernel : Handle)

def sessionStep (s : Session) : Action → Session
  | .create address object =>
    { s with
      live := Function.update s.live address (some object)
      objects := object.add float address s.objects }
  | .release address =>
    match s.live address with
    | some object =>
      { s with
        live := Function.update s.live address none
        objects := object.remove address s.objects
        -- an argument that was set to it is set to nothing that lives
        args := fun argIndex => (s.args argIndex).filter fun arg => arg.address ≠ some address }
    | none => s
  | .setKernelArg argIndex arg accepted =>
    { s with
      kernelArgs := arg.call.apply kernel argIndex s.objects s.kernelArgs
      argIndices := s.argIndices.insert argIndex
      args := if accepted then Function.update s.args argIndex (some arg) else s.args }
  | .createKernel args => { s with args := (args.lookup ·) }

/-- The driver creates valid objects at free addresses, and allocations apart from each other. -/
def CreationLegal (live : Nat → Option Object) (address : Nat) (object : Object) : Prop :=
  address ≠ null ∧ address < sizeModulus ∧ live address = none ∧
    match object with
    | .image answers _ => answers.height = 0 → answers.depth = 0
    | .sampler properties => ((properties.getD []).map (·.name)).Nodup
    | .allocation _ block => ∀ base kind' block', live base = some (.allocation kind' block') →
        Allocations.Apart (address, block.contents.length) (base, block'.contents.length)
    | .buffer _ => True

/-- What the driver promises: it takes only what is valid, and clones what is. -/
def sessionLegal (s : Session) : Action → Prop
  | .create address object => CreationLegal s.live address object
  | .release _ => True
  | .setKernelArg _ arg accepted => accepted = true → arg.Valid s.live
  | .createKernel args => ∀ argIndex arg, args.lookup argIndex = some arg → arg.Valid s.live

def sessionSystem : System Session Action where
  step := sessionStep float kernel
  legal := sessionLegal

end

/-! ## What is recorded -/

section

variable (float : FloatText) (kernel : Handle)

/-- What the layer should have recorded of an address. -/
def trackedOf (live : Nat → Option Object) (address : Nat) : Tracked :=
  ((live address).map (Object.tracked float)).getD {}

/-- The layer has recorded what lives. -/
def Tracks (live : Nat → Option Object) (o : Objects) : Prop :=
  ∀ address, trackedAt o address = trackedOf float live address

/-- What the driver promises of what lives. -/
structure DriverInv (live : Nat → Option Object) : Prop where
  null : live CLIntercept.null = none
  bounded : ∀ a object, live a = some object → a < sizeModulus
  images : ∀ a answers contents, live a = some (.image answers contents) →
    answers.height = 0 → answers.depth = 0
  samplers : ∀ a properties, live a = some (.sampler properties) →
    ((properties.getD []).map (·.name)).Nodup
  apart : ∀ a a' kind kind' block block', live a = some (.allocation kind block) →
    live a' = some (.allocation kind' block') → a ≠ a' →
      Allocations.Apart (a, block.contents.length) (a', block'.contents.length)

/-- The entries of an argument's index include what it is set to, and may hold more. -/
def ArgWritten (live : Nat → Option Object) (e : ArgEntries) : Arg → Prop
  | .bytes argValue => e.data = some argValue
  | .localMemory argSize => e.localSize = some argSize
  | .object handle => e.data = some (pointerBytes handle) ∧
      ((trackedOf float live handle).numbered = true → ∃ offset, e.mem = some ⟨handle, offset⟩) ∧
      ∀ str, (trackedOf float live handle).sampler = some str → e.sampler = some str
  | .pointer _ base offset => e.mem = some ⟨base, offset⟩ ∧ e.data = some (pointerBytes base)

/-- **The layer has recorded what every argument is set to.** -/
def Written (s : Session) : Prop :=
  ∀ i arg, s.args i = some arg →
    ArgWritten float s.live (s.kernelArgs.entries kernel i) arg

/-- The entries of an index, whatever setters wrote them: there is a value beside memory and
beside a sampler, and the string is one of a sampler that the driver made. -/
structure EntriesInv (e : ArgEntries) : Prop where
  data : e.mem.isSome ∨ e.sampler.isSome → e.data.isSome
  sampler : ∀ str, e.sampler = some str → ∃ properties : SamplerProperties,
    ((properties.getD []).map (·.name)).Nodup ∧ str = getSamplerPropertiesString float properties

/-- **The invariant of sessions.** -/
structure SessionInv (s : Session) : Prop where
  tracks : Tracks float s.live s.objects
  driver : DriverInv s.live
  valid : ∀ i arg, s.args i = some arg → arg.Valid s.live
  unset : ∀ i, i ∉ s.argIndices → s.kernelArgs.entries kernel i = {}
  entries : ∀ i, EntriesInv float (s.kernelArgs.entries kernel i)

end

variable {float : FloatText} {kernel : Handle} {live : Nat → Option Object} {o : Objects}

/-! ## Addresses as bytes -/

/-- A pointer takes eight bytes. -/
theorem length_pointerBytes (p : Nat) : (pointerBytes p).length = pointerSize := by
  rw [pointerBytes, List.length_map, List.length_range]

/-- The low bytes of a number, read back. -/
theorem toNat_map_range (n p : Nat) :
    Bytes.toNat ((List.range n).map fun i => UInt8.ofNat (p / 256 ^ i)) = p % 256 ^ n := by
  induction n generalizing p with
  | zero => simp [Bytes.toNat, Nat.mod_one]
  | succ n ih =>
    have hrest : (List.range n).map (fun i => UInt8.ofNat (p / 256 ^ (i + 1))) =
        (List.range n).map fun i => UInt8.ofNat (p / 256 / 256 ^ i) := by
      apply List.map_congr_left
      intro i _
      rw [Nat.pow_succ', Nat.div_div_eq_div_mul]
    rw [List.range_succ_eq_map, List.map_cons, List.map_map]
    show (UInt8.ofNat (p / 256 ^ 0)).toNat +
      256 * Bytes.toNat ((List.range n).map fun i => UInt8.ofNat (p / 256 ^ (i + 1))) = _
    rw [hrest, ih, UInt8.toNat_ofNat', Nat.pow_zero, Nat.div_one]
    show p % 256 + 256 * (p / 256 % 256 ^ n) = p % 256 ^ (n + 1)
    rw [Nat.pow_succ', Nat.mod_mul]

/-- **An address reads back from its bytes.** -/
theorem toNat_pointerBytes {p : Nat} (h : p < sizeModulus) : Bytes.toNat (pointerBytes p) = p := by
  rw [pointerBytes, toNat_map_range]
  exact Nat.mod_eq_of_lt h

/-! ## What creations and releases do -/

/-- A creation is tracked at its own address. -/
theorem trackedAt_add {address : Nat} (hnull : address ≠ null) (hnone : trackedAt o address = {})
    (object : Object) (a : Nat) :
    trackedAt (object.add float address o) a =
      if a = address then object.tracked float else trackedAt o a := by
  simp only [trackedAt, Tracked.mk.injEq] at hnone
  obtain ⟨hbuffer, himage, hsampler, hsvm, husm, hnumbered⟩ := hnone
  by_cases ha : a = address
  · subst ha
    rw [if_pos rfl]
    match object with
    | .buffer block =>
      simp [trackedAt, Object.add, addBuffer, Objects.number, hnull, Object.tracked, himage, hsampler,
        hsvm, husm]
    | .image answers contents =>
      simp [trackedAt, Object.add, addImage, Objects.number, hnull, Object.tracked, hbuffer, himage,
        hsampler, hsvm, husm]
    | .sampler properties =>
      simp [trackedAt, Object.add, addSamplerString, hnull, Object.tracked, hbuffer, himage, hsvm,
        husm, hnumbered]
    | .allocation .svm block =>
      simp [trackedAt, Object.add, addSVMAllocation, Objects.number, hnull, Object.tracked, hbuffer,
        himage, hsampler, husm, OrdMap.get?_insert]
    | .allocation .usm block =>
      simp [trackedAt, Object.add, addUSMAllocation, Objects.number, hnull, Object.tracked, hbuffer,
        himage, hsampler, hsvm, OrdMap.get?_insert]
  · rw [if_neg ha]
    match object with
    | .buffer block => simp [trackedAt, Object.add, addBuffer, Objects.number, hnull, ha]
    | .image answers contents => simp [trackedAt, Object.add, addImage, Objects.number, hnull, ha]
    | .sampler properties => simp [trackedAt, Object.add, addSamplerString, hnull, ha]
    | .allocation .svm block =>
      simp [trackedAt, Object.add, addSVMAllocation, Objects.number, hnull, ha,
        OrdMap.get?_insert]
    | .allocation .usm block =>
      simp [trackedAt, Object.add, addUSMAllocation, Objects.number, hnull, ha,
        OrdMap.get?_insert]

/-- With its release nothing is known of that address. -/
theorem trackedAt_remove {address : Nat} {object : Object}
    (h : trackedAt o address = object.tracked float) (a : Nat) :
    trackedAt (object.remove address o) a = if a = address then {} else trackedAt o a := by
  by_cases ha : a = address
  · subst ha
    rw [if_pos rfl]
    match object with
    | .buffer block =>
      simp only [trackedAt, Object.tracked, Tracked.mk.injEq] at h
      simp [trackedAt, Object.remove, checkRemoveMemObj, Objects.unnumber, h]
    | .image answers contents =>
      simp only [trackedAt, Object.tracked, Tracked.mk.injEq] at h
      simp [trackedAt, Object.remove, checkRemoveMemObj, Objects.unnumber, h]
    | .sampler properties =>
      simp only [trackedAt, Object.tracked, Tracked.mk.injEq] at h
      simp [trackedAt, Object.remove, checkRemoveSamplerString, h]
    | .allocation .svm block =>
      simp only [trackedAt, Object.tracked, Tracked.mk.injEq] at h
      simp [trackedAt, Object.remove, removeSVMAllocation, Objects.unnumber, OrdMap.get?_erase, h]
    | .allocation .usm block =>
      simp only [trackedAt, Object.tracked, Tracked.mk.injEq] at h
      simp [trackedAt, Object.remove, removeUSMAllocation, Objects.unnumber, OrdMap.get?_erase, h]
  · rw [if_neg ha]
    match object with
    | .buffer block | .image answers contents =>
      simp [trackedAt, Object.remove, checkRemoveMemObj, Objects.unnumber, ha]
    | .sampler properties => simp [trackedAt, Object.remove, checkRemoveSamplerString, ha]
    | .allocation .svm block =>
      simp [trackedAt, Object.remove, removeSVMAllocation, Objects.unnumber, ha, OrdMap.get?_erase]
    | .allocation .usm block =>
      simp [trackedAt, Object.remove, removeUSMAllocation, Objects.unnumber, ha, OrdMap.get?_erase]

/-- A new object is tracked. -/
theorem Tracks.create (h : Tracks float live o) {address : Nat} (hnull : address ≠ null)
    (hfree : live address = none) (object : Object) :
    Tracks float (Function.update live address (some object)) (object.add float address o) := by
  intro a
  have hnone : trackedAt o address = {} := by rw [h, trackedOf, hfree]; rfl
  rw [trackedAt_add hnull hnone, trackedOf, Function.update_apply]
  split
  · rfl
  · exact h a

/-- A released one is not. -/
theorem Tracks.release (h : Tracks float live o) {address : Nat} {object : Object}
    (hlive : live address = some object) :
    Tracks float (Function.update live address none) (object.remove address o) := by
  intro a
  have htracked : trackedAt o address = object.tracked float := by rw [h, trackedOf, hlive]; rfl
  rw [trackedAt_remove htracked, trackedOf, Function.update_apply]
  split
  · rfl
  · exact h a

/-- A creation that the driver may answer keeps the objects apart. -/
theorem DriverInv.create (h : DriverInv live) {address : Nat} {object : Object}
    (hl : CreationLegal live address object) :
    DriverInv (Function.update live address (some object)) := by
  obtain ⟨hnull, hbounded, hfree, hobject⟩ := hl
  have hof : ∀ {a object'}, Function.update live address (some object) a = some object' →
      a = address ∧ object' = object ∨ a ≠ address ∧ live a = some object' := by
    intro a object' ha
    rw [Function.update_apply] at ha
    split at ha
    · next heq => exact .inl ⟨heq, (Option.some.inj ha).symm⟩
    · next hne => exact .inr ⟨hne, ha⟩
  constructor
  · rw [Function.update_of_ne (Ne.symm hnull)]
    exact h.null
  · intro a object' ha
    rcases hof ha with ⟨rfl, -⟩ | ⟨-, ha⟩
    · exact hbounded
    · exact h.bounded a object' ha
  · intro a answers contents ha
    rcases hof ha with ⟨-, rfl⟩ | ⟨-, ha⟩
    · exact hobject
    · exact h.images a answers contents ha
  · intro a properties ha
    rcases hof ha with ⟨-, rfl⟩ | ⟨-, ha⟩
    · exact hobject
    · exact h.samplers a properties ha
  · intro a a' kind kind' block block' ha ha' hne
    rcases hof ha with ⟨rfl, rfl⟩ | ⟨-, hlive⟩
    · rcases hof ha' with ⟨rfl, -⟩ | ⟨-, hlive'⟩
      · exact absurd rfl hne
      · exact hobject a' kind' block' hlive'
    · rcases hof ha' with ⟨rfl, rfl⟩ | ⟨-, hlive'⟩
      · exact Or.symm (hobject a kind block hlive)
      · exact h.apart a a' kind kind' block block' hlive hlive' hne

/-- A release leaves room. -/
theorem DriverInv.release (h : DriverInv live) (address : Nat) :
    DriverInv (Function.update live address none) := by
  have hof : ∀ {a object}, Function.update live address none a = some object →
      live a = some object := by
    intro a object ha
    rw [Function.update_apply] at ha
    split at ha
    · cases ha
    · exact ha
  constructor
  · rw [Function.update_apply]
    split
    · rfl
    · exact h.null
  · exact fun a object ha => h.bounded a object (hof ha)
  · exact fun a answers contents ha => h.images a answers contents (hof ha)
  · exact fun a properties ha => h.samplers a properties (hof ha)
  · exact fun a a' kind kind' block block' ha ha' =>
      h.apart a a' kind kind' block block' (hof ha) (hof ha')

/-! ## What a setter records -/

/-- An argument is as valid as the object at its address. -/
theorem valid_congr {live' : Nat → Option Object} {arg : Arg}
    (h : ∀ a, arg.address = some a → live' a = live a) (hv : arg.Valid live) : arg.Valid live' := by
  match arg with
  | .bytes argValue => trivial
  | .localMemory argSize => trivial
  | .object handle =>
    show ∃ object, live' handle = some object ∧ _
    rw [h handle rfl]
    exact hv
  | .pointer kind base offset =>
    show ∃ block, live' base = some (.allocation kind block) ∧ _
    rw [h base rfl]
    exact hv

/-- What is kept of it depends on that object alone. -/
theorem argWritten_congr {live' : Nat → Option Object} {arg : Arg} {e : ArgEntries}
    (h : ∀ a, arg.address = some a → live' a = live a) (hw : ArgWritten float live e arg) :
    ArgWritten float live' e arg := by
  match arg with
  | .bytes argValue => exact hw
  | .localMemory argSize => exact hw
  | .object handle =>
    have htracked : trackedOf float live' handle = trackedOf float live handle := by
      rw [trackedOf, h handle rfl]
      rfl
    simpa only [ArgWritten, htracked] using hw
  | .pointer kind base offset => exact hw

/-- An entry of a map of allocations is one that lives. -/
theorem Tracks.live_of_allocated (h : Tracks float live o) {alloc : Nat × Nat}
    (ha : o.Allocated alloc) : ∃ kind block, live alloc.1 = some (.allocation kind block) ∧
      alloc.2 = block.contents.length := by
  have hentry := h alloc.1
  have hsize : (trackedAt o alloc.1).svm = some alloc.2 ∨ (trackedAt o alloc.1).usm = some alloc.2 :=
    ha.imp OrdMap.get?_eq_some_iff.mpr OrdMap.get?_eq_some_iff.mpr
  rw [hentry, trackedOf] at hsize
  cases hlive : live alloc.1 with
  | none => simp [hlive] at hsize
  | some object =>
    match object with
    | .buffer block | .image answers contents | .sampler properties =>
      simp [hlive, Object.tracked] at hsize
    | .allocation .svm block | .allocation .usm block =>
      simp only [hlive, Object.tracked, Option.map_some, Option.getD_some, Option.some.injEq,
        reduceCtorEq, or_false, false_or] at hsize
      exact ⟨_, block, rfl, hsize.symm⟩

/-- Nothing is tracked at `NULL`. -/
theorem Tracks.nonNull (h : Tracks float live o) (hd : DriverInv live) : o.NonNull := by
  intro alloc ha hnull
  obtain ⟨kind, block, hlive, -⟩ := h.live_of_allocated ha
  rw [hnull, hd.null] at hlive
  cases hlive

/-- An allocation is known with its size. -/
theorem Tracks.allocated (h : Tracks float live o) {base : Nat} {kind : Allocations.Kind}
    {block : Block} (hlive : live base = some (.allocation kind block)) :
    o.Allocated (base, block.contents.length) := by
  have hentry := h base
  rw [trackedOf, hlive] at hentry
  cases kind with
  | svm => exact .inl (OrdMap.get?_eq_some_iff.mp (congrArg Tracked.svm hentry))
  | usm => exact .inr (OrdMap.get?_eq_some_iff.mp (congrArg Tracked.usm hentry))

/-- The search finds the allocation that a pointer points into. -/
theorem Tracks.findAllocation_eq (h : Tracks float live o) (hd : DriverInv live)
    {base offset : Nat} {kind : Allocations.Kind} {block : Block}
    (hlive : live base = some (.allocation kind block))
    (hoffset : offset < block.contents.length) :
    findAllocation (Allocations.allocInfoMap o kind) (base + offset) =
      some (base, block.contents.length) := by
  have hmem : (base, block.contents.length) ∈ (Allocations.allocInfoMap o kind).entries := by
    have hentry := h base
    rw [trackedOf, hlive] at hentry
    cases kind with
    | svm => exact OrdMap.get?_eq_some_iff.mp (congrArg Tracked.svm hentry)
    | usm => exact OrdMap.get?_eq_some_iff.mp (congrArg Tracked.usm hentry)
  have hfloor : (Allocations.allocInfoMap o kind).floor? (base + offset) =
      some (base, block.contents.length) := by
    refine OrdMap.floor?_eq_some_iff.mpr ⟨hmem, Nat.le_add_right base offset, fun d hd' hle => ?_⟩
    have hallocated : o.Allocated d := by
      cases kind with
      | svm => exact .inl hd'
      | usm => exact .inr hd'
    obtain ⟨kind', block', hlive', hsize⟩ := h.live_of_allocated hallocated
    by_contra hlt
    have hapart := hd.apart d.1 base kind' kind block' block hlive' hlive (by omega)
    simp only [Allocations.Apart] at hapart
    omega
  rw [findAllocation_eq_floor, hfloor, Option.filter_eq_some_iff]
  exact ⟨rfl, decide_eq_true ⟨Nat.le_add_right base offset, Nat.add_lt_add_left hoffset base⟩⟩

/-- **A setter records its argument.** -/
theorem argWritten_after (h : Tracks float live o) (hd : DriverInv live) {arg : Arg}
    (e : ArgEntries) (hv : arg.Valid live) : ArgWritten float live (e.after o arg.call) arg := by
  match arg with
  | .bytes argValue => rfl
  | .localMemory argSize => rfl
  | .object handle =>
    obtain ⟨object, hlive, -⟩ := hv
    have hhandle := toNat_pointerBytes (hd.bounded handle object hlive)
    have hentry := h handle
    refine ⟨rfl, fun hnumbered => ?_, fun str hstr => ?_⟩
    · have htracked : (o.memAllocNumberMap handle).isSome = true :=
        (congrArg Tracked.numbered hentry).trans hnumbered
      have hmem : trackedMem (pointerBytes handle) o = some handle := by
        rw [trackedMem, if_pos (length_pointerBytes handle), hhandle, if_pos htracked]
      refine ⟨(e.mem.getD {}).offset, ?_⟩
      simp only [Arg.call, ArgEntries.after, hmem]
    · have htracked : o.samplerDataMap handle = some str :=
        (congrArg Tracked.sampler hentry).trans hstr
      have hsampler : checkGetSamplerString (some (pointerBytes handle)) o = some str := by
        rw [checkGetSamplerString, if_pos (length_pointerBytes handle), hhandle, htracked]
      simp only [Arg.call, ArgEntries.after, hsampler, Option.some_or]
  | .pointer kind base offset =>
    obtain ⟨block, hlive, hoffset⟩ := hv
    have hfound := h.findAllocation_eq hd hlive hoffset
    cases kind with
    | svm | usm =>
      simp only [Allocations.allocInfoMap] at hfound
      simp only [Arg.call, ArgEntries.after, hfound, ArgEntries.afterPointer, ArgWritten,
        Nat.add_sub_cancel_left, and_self]

/-- A string that is tracked is that of a sampler that lives. -/
theorem Tracks.live_of_sampler (h : Tracks float live o) {a : Nat} {str : String}
    (hstr : o.samplerDataMap a = some str) :
    ∃ properties, live a = some (.sampler properties) ∧
      str = getSamplerPropertiesString float properties := by
  have hentry : (trackedOf float live a).sampler = some str :=
    (congrArg Tracked.sampler (h a)).symm.trans hstr
  rw [trackedOf] at hentry
  cases hlive : live a with
  | none => simp [hlive] at hentry
  | some object =>
    match object with
    | .buffer block | .image answers contents | .allocation .svm block | .allocation .usm block =>
      simp [hlive, Object.tracked] at hentry
    | .sampler properties =>
      simp only [hlive, Object.tracked, Option.map_some, Option.getD_some, Option.some.injEq] at hentry
      exact ⟨properties, rfl, hentry.symm⟩

theorem entriesInv_empty : EntriesInv float {} where
  data h := by simp at h
  sampler _ h := nomatch h

/-- A pointer leaves entries of the right form. -/
theorem EntriesInv.afterPointer {e : ArgEntries} (he : EntriesInv float e) (arg : Nat)
    (found : Option (Nat × Nat)) : EntriesInv float (e.afterPointer arg found) := by
  cases found with
  | none => exact he
  | some alloc => exact ⟨fun _ => rfl, he.sampler⟩

/-- **Any setter keeps the entries**, whether the driver takes its argument or not. -/
theorem EntriesInv.after (h : Tracks float live o) (hd : DriverInv live) {e : ArgEntries}
    (he : EntriesInv float e) (c : SetCall) : EntriesInv float (e.after o c) := by
  match c with
  | .svmPointer arg | .usmPointer arg => exact he.afterPointer arg _
  | .arg (.null argSize) => exact ⟨he.data, he.sampler⟩
  | .arg (.bytes argValue) =>
    refine ⟨fun _ => rfl, fun str hstr => ?_⟩
    rcases Option.or_eq_some_iff.mp hstr with hstr | ⟨-, hstr⟩
    · simp only [checkGetSamplerString, Option.ite_none_right_eq_some] at hstr
      obtain ⟨properties, hlive, hstr⟩ := h.live_of_sampler hstr.2
      exact ⟨properties, hd.samplers _ properties hlive, hstr⟩
    · exact he.sampler str hstr

/-! ## The invariant of sessions -/

theorem sessionInv_initial : SessionInv float kernel {} where
  tracks _ := rfl
  driver :=
    { null := rfl
      bounded := fun _ _ h => nomatch h
      images := fun _ _ _ h => nomatch h
      samplers := fun _ _ h => nomatch h
      apart := fun _ _ _ _ _ _ h => nomatch h }
  valid _ _ h := nomatch h
  unset _ _ := rfl
  entries _ := entriesInv_empty

/-- A valid argument names a live object. -/
theorem Arg.Valid.lives {arg : Arg} (hv : arg.Valid live) {a : Nat} (ha : arg.address = some a) :
    (live a).isSome := by
  match arg with
  | .bytes argValue | .localMemory argSize => cases ha
  | .object handle =>
    cases ha
    obtain ⟨object, hlive, -⟩ := hv
    exact Option.isSome_iff_exists.mpr ⟨object, hlive⟩
  | .pointer kind base offset =>
    cases ha
    obtain ⟨block, hlive, -⟩ := hv
    exact Option.isSome_iff_exists.mpr ⟨_, hlive⟩

section

variable {s : Session} {a : Action}

/-- What an argument is still set to lives as it did. -/
theorem live_step (h : SessionInv float kernel s) (hl : sessionLegal s a) {i : Nat} {arg : Arg}
    (harg : (sessionStep float kernel s a).args i = some arg) {address : Nat}
    (ha : arg.address = some address) :
    (sessionStep float kernel s a).live address = s.live address := by
  cases a with
  | create fresh object =>
    refine Function.update_of_ne ?_ _ _
    rintro rfl
    have hlives := (h.valid i arg harg).lives ha
    rw [hl.2.2.1] at hlives
    cases hlives
  | release freed =>
    simp only [sessionStep] at harg ⊢
    cases hlive : s.live freed with
    | none => rfl
    | some object =>
      simp only [hlive, Option.filter_eq_some_iff, decide_eq_true_eq] at harg ⊢
      refine Function.update_of_ne ?_ _ _
      rintro rfl
      exact harg.2 ha
  | setKernelArg argIndex arg' accepted => rfl
  | createKernel args => rfl

/-- An argument was valid before, or the driver takes it now. -/
theorem valid_of_step (h : SessionInv float kernel s) (hl : sessionLegal s a) {i : Nat} {arg : Arg}
    (harg : (sessionStep float kernel s a).args i = some arg) : arg.Valid s.live := by
  cases a with
  | create address object => exact h.valid i arg harg
  | release address =>
    simp only [sessionStep] at harg
    cases hlive : s.live address with
    | none =>
      simp only [hlive] at harg
      exact h.valid i arg harg
    | some object =>
      simp only [hlive, Option.filter_eq_some_iff] at harg
      exact h.valid i arg harg.1
  | setKernelArg argIndex arg' accepted =>
    cases accepted with
    | false => exact h.valid i arg harg
    | true =>
      simp only [sessionStep, if_true, Function.update_apply] at harg
      split at harg
      · cases harg
        exact hl rfl
      · exact h.valid i arg harg
  | createKernel args => exact hl i arg harg

/-- **Every legal call keeps the invariant**, failed setters included. -/
theorem sessionInv_step (h : SessionInv float kernel s) (hl : sessionLegal s a) :
    SessionInv float kernel (sessionStep float kernel s a) := by
  have hvalid : ∀ i arg, (sessionStep float kernel s a).args i = some arg →
      arg.Valid (sessionStep float kernel s a).live := fun i arg harg =>
    valid_congr (fun _ ha => live_step h hl harg ha) (valid_of_step h hl harg)
  cases a with
  | create address object =>
    exact ⟨h.tracks.create hl.1 hl.2.2.1 object, h.driver.create hl, hvalid, h.unset, h.entries⟩
  | release address =>
    simp only [sessionStep] at hvalid ⊢
    cases hlive : s.live address with
    | none => exact h
    | some object =>
      simp only [hlive] at hvalid
      exact ⟨h.tracks.release hlive, h.driver.release address, hvalid, h.unset, h.entries⟩
  | setKernelArg argIndex arg accepted =>
    refine ⟨h.tracks, h.driver, hvalid, fun i hi => ?_, fun i => ?_⟩
    · have hnotMem : ¬ (i = argIndex ∨ i ∈ s.argIndices) := fun hmem =>
        hi (List.mem_insert_iff.mpr hmem)
      show (arg.call.apply kernel argIndex s.objects s.kernelArgs).entries kernel i = {}
      rw [entries_apply, if_neg fun heq => hnotMem (.inl heq.2)]
      exact h.unset i fun hmem => hnotMem (.inr hmem)
    · show EntriesInv float
        ((arg.call.apply kernel argIndex s.objects s.kernelArgs).entries kernel i)
      rw [entries_apply]
      split
      · exact (h.entries argIndex).after h.tracks h.driver arg.call
      · exact h.entries i
  | createKernel args => exact ⟨h.tracks, h.driver, hvalid, h.unset, h.entries⟩

/-- **After any run** the layer has recorded what lives. -/
theorem session_invariant {run : List Action} (hl : (sessionSystem float kernel).Legal {} run) :
    SessionInv float kernel ((sessionSystem float kernel).exec {} run) :=
  System.exec_of_step (I := SessionInv float kernel) (fun _ _ h hl => sessionInv_step h hl)
    sessionInv_initial hl

/-! ## What the setters write -/

/-- The driver takes what is set, and no kernel comes with arguments that are set. -/
def Writes : Action → Prop
  | .setKernelArg _ _ accepted => accepted = true
  | .createKernel args => args = []
  | _ => True

/-- **Setters that succeed keep what was written.** -/
theorem written_step (h : SessionInv float kernel s) (hw : Written float kernel s)
    (hl : sessionLegal s a) (ha : Writes a) :
    Written float kernel (sessionStep float kernel s a) := by
  intro i arg harg
  have hlive : ∀ address, arg.address = some address →
      (sessionStep float kernel s a).live address = s.live address :=
    fun _ => live_step h hl harg
  refine argWritten_congr hlive ?_
  cases a with
  | create address object => exact hw i arg harg
  | release address =>
    simp only [sessionStep] at harg ⊢
    cases hlive : s.live address with
    | none =>
      simp only [hlive] at harg
      exact hw i arg harg
    | some object =>
      simp only [hlive, Option.filter_eq_some_iff] at harg
      exact hw i arg harg.1
  | setKernelArg argIndex arg' accepted =>
    obtain rfl : accepted = true := ha
    show ArgWritten float s.live
      ((arg'.call.apply kernel argIndex s.objects s.kernelArgs).entries kernel i) arg
    simp only [sessionStep, if_true, Function.update_apply] at harg
    rw [entries_apply]
    split at harg
    · next hi =>
      cases harg
      rw [if_pos ⟨rfl, hi⟩]
      exact argWritten_after h.tracks h.driver _ (hl rfl)
    · next hi =>
      rw [if_neg (hi ·.2)]
      exact hw i arg harg
  | createKernel args =>
    obtain rfl : args = [] := ha
    cases harg

/-- **Where the driver takes what is set, it is recorded.** -/
theorem written_of_run {run : List Action} (hl : (sessionSystem float kernel).Legal {} run)
    (hwrites : ∀ a ∈ run, Writes a) :
    Written float kernel ((sessionSystem float kernel).exec {} run) := by
  have halways := System.always_of_each
    (I := fun s => SessionInv float kernel s ∧ Written float kernel s)
    (fun _ _ h hl ha => ⟨sessionInv_step h.1 hl, written_step h.1 h.2 hl ha⟩)
    ⟨sessionInv_initial, fun _ _ h => nomatch h⟩ hl
    (System.each_of_mem (fun a ha _ => hwrites a ha) _)
  exact halways.last.2

end

end CLIntercept.Replay
