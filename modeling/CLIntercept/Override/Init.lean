import CLIntercept.Api
import CLIntercept.Config
import CLIntercept.Lib.Holdings
import CLIntercept.Lib.Run
import Mathlib.Data.Multiset.Filter

/-!
# The programs and kernels of the overrides

`initPrecompiledKernelOverrides` and `initBuiltinKernelOverrides` make the program and the kernels that
the overrides of a context run, after releasing those that the context handle may have had before. Both
are chains of calls to the driver under one error code; they differ in the kernels.

When a call in the chain fails, the overrides are deleted and what was made for them is not released.
`overridesBalanced_iff` says which runs release what they have made.
-/

set_option autoImplicit false

namespace CLIntercept.Override.Init

open CLIntercept.Lib

def clInvalidProgram : Int := -44

/-- A program or a kernel. -/
abbrev ObjectId := { object : Handle // object ≠ null }

abbrev ErrorCode := { code : Int // code ≠ clSuccess }

/-- `SPrecompiledKernelOverrides` or `SBuiltinKernelOverrides`: the program, and the kernel of each
field with its name in the program, `NULL` if it was not created. -/
structure KernelOverrides where
  program : Handle
  kernels : List (String × Handle)
  deriving DecidableEq, Repr

/-- The fields of `SPrecompiledKernelOverrides`, and which of them are created. -/
def precompiledKernels (config : Config) : List (String × Bool) :=
  let buffers :=
    config.overrideReadBuffer || config.overrideWriteBuffer || config.overrideCopyBuffer
  let images := config.overrideReadImage || config.overrideWriteImage || config.overrideCopyImage
  [("CopyBufferBytes", buffers), ("CopyBufferUInts", buffers), ("CopyBufferUInt4s", buffers),
    ("CopyBufferUInt16s", buffers), ("CopyImage2Dto2DFloat", images), ("CopyImage2Dto2DInt", images),
    ("CopyImage2Dto2DUInt", images)]

def builtinKernels : List (String × Bool) := [("block_motion_estimate_intel", true)]

/-! ## The driver -/

/-- How the calls of one initialisation end: `programString` is whether the source text is found. -/
structure Answers where
  releaseKernel : String → Int := fun _ => clSuccess
  releaseProgram : Int := clSuccess
  programString : Bool := true
  createProgram : Except ErrorCode ObjectId
  buildProgram : Int := clSuccess
  createKernel : String → Except ErrorCode ObjectId

/-- The objects that the layer has had created and released, in order. -/
structure Driver where
  created : List Handle := []
  released : List Handle := []

/-- A release with its answer, for an object that is there. -/
def Driver.release (object : Handle) (answer : Int) (d : Driver) : Driver :=
  if object ≠ null ∧ answer = clSuccess then { d with released := d.released ++ [object] } else d

/-- A creation: the error code, the object, and `NULL` where it fails. -/
def Driver.create (answer : Except ErrorCode ObjectId) (d : Driver) : Int × Handle × Driver :=
  match answer with
  | .ok object => (clSuccess, object.1, { d with created := d.created ++ [object.1] })
  | .error error => (error.1, null, d)

/-! ## The functions -/

section

variable (answers : Answers)

/-- The error codes of these calls are overwritten. -/
def releaseKernels : List (String × Handle) → Driver → Driver
  | [], d => d
  | (name, kernel) :: kernels, d =>
    releaseKernels kernels (d.release kernel (answers.releaseKernel name))

/-- Kernels are created while there is no error. -/
def createKernels : List (String × Bool) → Int → Driver → Int × List (String × Handle) × Driver
  | [], errorCode, d => (errorCode, [], d)
  | (name, wanted) :: kernels, errorCode, d =>
    let (errorCode, kernel, d) :=
      if wanted = true ∧ errorCode = clSuccess then d.create (answers.createKernel name)
      else (errorCode, null, d)
    let (errorCode, rest, d) := createKernels kernels errorCode d
    (errorCode, (name, kernel) :: rest, d)

/-- Overrides that exist are released. -/
def releaseOverrides (old : Option KernelOverrides) (d : Driver) : Int × Driver :=
  match old with
  | some pOverrides =>
    let d := releaseKernels answers pOverrides.kernels d
    (if pOverrides.program = null then clInvalidProgram else answers.releaseProgram,
      d.release pOverrides.program answers.releaseProgram)
  | none => (clSuccess, d)

/-- The program is created if its text is found. -/
def createProgram (errorCode : Int) (d : Driver) : Int × Handle × Driver :=
  let errorCode :=
    if errorCode = clSuccess then if answers.programString then clSuccess else clInvalidValue
    else errorCode
  if errorCode = clSuccess then d.create answers.createProgram else (errorCode, null, d)

/-- New overrides are made, with the error code that decides whether they are installed. The build log
of a program that does not build is only written to the log. -/
def createOverrides (kernels : List (String × Bool)) (errorCode : Int) (d : Driver) :
    Int × KernelOverrides × Driver :=
  let (errorCode, program, d) := createProgram answers errorCode d
  let errorCode := if errorCode = clSuccess then answers.buildProgram else errorCode
  let (errorCode, kernels, d) := createKernels answers kernels errorCode d
  (errorCode, ⟨program, kernels⟩, d)

/-- Either function, on its map. An entry with `NULL` is like none. -/
def initOverrides (kernels : List (String × Bool)) (context : Handle)
    (overridesMap : OrdMap Handle KernelOverrides) (d : Driver) :
    OrdMap Handle KernelOverrides × Driver :=
  let (errorCode, d) := releaseOverrides answers (overridesMap.get? context) d
  let overridesMap := overridesMap.erase context
  let (errorCode, pOverrides, d) := createOverrides answers kernels errorCode d
  if errorCode = clSuccess then (overridesMap.insert context pOverrides, d) else (overridesMap, d)

end

/-- The two maps, and the objects. -/
structure Layer where
  precompiledKernelOverridesMap : OrdMap Handle KernelOverrides := .empty
  builtinKernelOverridesMap : OrdMap Handle KernelOverrides := .empty
  driver : Driver := {}

def initPrecompiledKernelOverrides (config : Config) (answers : Answers) (context : Handle)
    (L : Layer) : Layer :=
  let (overridesMap, d) :=
    initOverrides answers (precompiledKernels config) context L.precompiledKernelOverridesMap L.driver
  { L with precompiledKernelOverridesMap := overridesMap, driver := d }

def initBuiltinKernelOverrides (answers : Answers) (context : Handle) (L : Layer) : Layer :=
  let (overridesMap, d) :=
    initOverrides answers builtinKernels context L.builtinKernelOverridesMap L.driver
  { L with builtinKernelOverridesMap := overridesMap, driver := d }

/-! ## Runs -/

inductive Action
  | initPrecompiledKernelOverrides (answers : Answers) (context : Handle)
  | initBuiltinKernelOverrides (answers : Answers) (context : Handle)

def step (config : Config) (L : Layer) : Action → Layer
  | .initPrecompiledKernelOverrides answers context =>
    Init.initPrecompiledKernelOverrides config answers context L
  | .initBuiltinKernelOverrides answers context =>
    Init.initBuiltinKernelOverrides answers context L

/-- Nothing is assumed of the calls. -/
def system (config : Config) : System Layer Action := ⟨step config, fun _ _ => True⟩

def Action.answers : Action → Answers
  | .initPrecompiledKernelOverrides answers _ => answers
  | .initBuiltinKernelOverrides answers _ => answers

/-- The overrides that an action finds. -/
def Layer.overridesOf (L : Layer) : Action → Option KernelOverrides
  | .initPrecompiledKernelOverrides _ context => L.precompiledKernelOverridesMap.get? context
  | .initBuiltinKernelOverrides _ context => L.builtinKernelOverridesMap.get? context

/-- The kernels that an action wants. -/
def Action.kernels (config : Config) : Action → List (String × Bool)
  | .initPrecompiledKernelOverrides _ _ => precompiledKernels config
  | .initBuiltinKernelOverrides _ _ => builtinKernels

/-! ## The balance -/

/-- The objects of the fields that are not `NULL`. -/
def KernelOverrides.objects (o : KernelOverrides) : Multiset Handle :=
  ((o.program :: o.kernels.map Prod.snd).filter (· ≠ null) : List Handle)

/-- What can be reached from the maps. -/
def Layer.reachable (L : Layer) : Multiset Handle :=
  L.precompiledKernelOverridesMap.contents KernelOverrides.objects +
    L.builtinKernelOverridesMap.contents KernelOverrides.objects

/-- **What was created is what was released and what can be reached.** -/
def Balanced (L : Layer) : Prop :=
  (L.driver.created : Multiset Handle) = L.driver.released + L.reachable

/-- **One call**: it creates and releases objects, and what it creates and had before is what it
releases and has afterwards. Without new overrides all of it is released, each object once. -/
def Accounted (config : Config) (L : Layer) (a : Action) : Prop :=
  ∃ made given : List Handle,
    (step config L a).driver.created = L.driver.created ++ made ∧
      (step config L a).driver.released = L.driver.released ++ given ∧
        (made : Multiset Handle) + (L.overridesOf a).elim 0 KernelOverrides.objects =
          given + ((step config L a).overridesOf a).elim 0 KernelOverrides.objects

/-! ## Releasing -/

/-- The kernels of some fields that are there. -/
def kernelsOf (kernels : List (String × Handle)) : List Handle :=
  (kernels.map Prod.snd).filter (· ≠ null)

section

variable (answers : Answers)

/-- The kernels whose release succeeds. -/
def releasedOf (kernels : List (String × Handle)) : List Handle :=
  (kernels.filter fun k => k.2 ≠ null ∧ answers.releaseKernel k.1 = clSuccess).map Prod.snd

/-- The kernels are released one by one, as far as the driver does not refuse. -/
theorem releaseKernels_eq (kernels : List (String × Handle)) (d : Driver) :
    releaseKernels answers kernels d =
      { d with released := d.released ++ releasedOf answers kernels } := by
  induction kernels generalizing d with
  | nil => simp [releaseKernels, releasedOf]
  | cons k kernels ih =>
    rw [releaseKernels, ih]
    unfold Driver.release releasedOf
    rw [List.filter_cons]
    split
    next h => simp [h]
    next h => simp [h]

/-- What is released was there. -/
theorem releasedOf_sublist (kernels : List (String × Handle)) :
    (releasedOf answers kernels).Sublist (kernelsOf kernels) := by
  rw [releasedOf, kernelsOf, List.filter_map]
  refine List.Sublist.map _ (List.monotone_filter_right _ fun k hk => ?_)
  simpa using (of_decide_eq_true hk).1

/-- All of them are released if none of these calls fails. -/
theorem releasedOf_eq_iff (kernels : List (String × Handle)) :
    releasedOf answers kernels = kernelsOf kernels ↔
      ∀ k ∈ kernels, k.2 ≠ null → answers.releaseKernel k.1 = clSuccess := by
  have hfilter : releasedOf answers kernels =
      ((kernels.filter fun k => k.2 ≠ null).filter
        fun k => answers.releaseKernel k.1 = clSuccess).map Prod.snd := by
    rw [releasedOf, List.filter_filter]
    congr 2
    funext k
    simp [Bool.and_comm]
  have hall : kernelsOf kernels = (kernels.filter fun k => k.2 ≠ null).map Prod.snd := by
    rw [kernelsOf, List.filter_map]
    rfl
  rw [hfilter, hall]
  constructor
  · intro h k hk hne
    have hlength := congrArg List.length h
    rw [List.length_map, List.length_map, List.length_filter_eq_length_iff] at hlength
    exact of_decide_eq_true (hlength k (List.mem_filter.mpr ⟨hk, decide_eq_true hne⟩))
  · intro h
    rw [List.filter_eq_self.mpr]
    intro k hk
    obtain ⟨hmem, hne⟩ := List.mem_filter.mp hk
    exact decide_eq_true (h k hmem (of_decide_eq_true hne))

/-- What is given back of overrides that exist. -/
def givenOf : Option KernelOverrides → List Handle
  | none => []
  | some o =>
    releasedOf answers o.kernels ++
      if o.program ≠ null ∧ answers.releaseProgram = clSuccess then [o.program] else []

/-- Releasing an entry gives back what `givenOf` says, and changes nothing else of the driver. -/
theorem releaseOverrides_eq (old : Option KernelOverrides) (d : Driver) :
    (releaseOverrides answers old d).2 =
      { d with released := d.released ++ givenOf answers old } := by
  cases old with
  | none => simp [releaseOverrides, givenOf]
  | some o =>
    unfold releaseOverrides givenOf
    dsimp only
    rw [releaseKernels_eq]
    unfold Driver.release
    split <;> simp

/-- No release of something that is there fails. -/
def AllReleased (old : Option KernelOverrides) : Prop :=
  ∀ o, old = some o → answers.releaseProgram = clSuccess ∧
    ∀ k ∈ o.kernels, k.2 ≠ null → answers.releaseKernel k.1 = clSuccess

/-- What an entry holds: its kernels and its program. -/
theorem objects_eq {o : KernelOverrides} (h : o.program ≠ null) :
    o.objects = (kernelsOf o.kernels : Multiset Handle) + {o.program} := by
  rw [KernelOverrides.objects, List.filter_cons, if_pos (decide_eq_true h), ← Multiset.cons_coe,
    ← Multiset.singleton_add, add_comm]
  rfl

/-- No more is given back than an entry holds. -/
theorem givenOf_le {old : Option KernelOverrides} (hold : ∀ o, old = some o → o.program ≠ null) :
    (givenOf answers old : Multiset Handle) ≤ old.elim 0 KernelOverrides.objects := by
  cases old with
  | none => exact le_rfl
  | some o =>
    rw [givenOf, Option.elim_some, objects_eq (hold o rfl), ← Multiset.coe_add]
    refine add_le_add (Multiset.coe_le.mpr (releasedOf_sublist answers o.kernels).subperm) ?_
    split
    · exact le_rfl
    · exact Multiset.zero_le _

/-- All of it, if no release fails. -/
theorem givenOf_eq_iff {old : Option KernelOverrides} (hold : ∀ o, old = some o → o.program ≠ null) :
    (givenOf answers old : Multiset Handle) = old.elim 0 KernelOverrides.objects ↔
      AllReleased answers old := by
  cases old with
  | none => exact iff_of_true rfl nofun
  | some o =>
    have hprogram := hold o rfl
    have hsub := releasedOf_sublist answers o.kernels
    have hcount : ∀ o', some o = some o' ↔ o' = o := fun o' => by rw [Option.some_inj, eq_comm]
    simp only [AllReleased, hcount, forall_eq]
    rw [givenOf, Option.elim_some, objects_eq hprogram, ← Multiset.coe_add, ← releasedOf_eq_iff]
    constructor
    · intro h
      have hcard := congrArg Multiset.card h
      simp only [Multiset.card_add, Multiset.coe_card, Multiset.card_singleton] at hcard
      have hlength := hsub.length_le
      split at hcard
      next hok => exact ⟨hok.2, hsub.eq_of_length (by simpa using hcard)⟩
      next =>
        rw [List.length_nil] at hcard
        omega
    · rintro ⟨hok, heq⟩
      rw [heq, if_pos ⟨hprogram, hok⟩]
      rfl

/-! ## Creating -/

/-- The kernels that were created are those of the fields. -/
theorem createKernels_driver (kernels : List (String × Bool)) (errorCode : Int) (d : Driver) :
    (createKernels answers kernels errorCode d).2.2 =
      { d with
        created := d.created ++ kernelsOf (createKernels answers kernels errorCode d).2.1 } := by
  induction kernels generalizing errorCode d with
  | nil => simp [createKernels, kernelsOf]
  | cons k kernels ih =>
    unfold createKernels
    dsimp only
    rw [ih]
    unfold kernelsOf
    rw [List.map_cons, List.filter_cons]
    split
    next h =>
      unfold Driver.create
      split
      next object _ => simp [object.2]
      next => simp
    next => simp

/-- There is no error if there was none and each kernel that is wanted is created. -/
theorem createKernels_success (kernels : List (String × Bool)) (errorCode : Int) (d : Driver) :
    (createKernels answers kernels errorCode d).1 = clSuccess ↔
      errorCode = clSuccess ∧ ∀ k ∈ kernels, k.2 = true →
        ∃ kernel, answers.createKernel k.1 = .ok kernel := by
  induction kernels generalizing errorCode d with
  | nil => simp [createKernels]
  | cons k kernels ih =>
    unfold createKernels
    dsimp only
    rw [ih, List.forall_mem_cons, ← and_assoc]
    refine and_congr_left fun _ => ?_
    split
    next h =>
      unfold Driver.create
      split
      next object hobject => simp [h.1, h.2, hobject]
      next error herror => simp [h.1, herror, error.2]
    next h =>
      by_cases hwanted : k.2 = true
      · have hcode : errorCode ≠ clSuccess := fun hcode => h ⟨hwanted, hcode⟩
        simp [hcode]
      · simp [hwanted]

/-- After an error no kernel is created. -/
theorem kernelsOf_createKernels_error (kernels : List (String × Bool)) {errorCode : Int}
    (h : errorCode ≠ clSuccess) (d : Driver) :
    kernelsOf (createKernels answers kernels errorCode d).2.1 = [] := by
  induction kernels generalizing d with
  | nil => rfl
  | cons k kernels ih =>
    unfold createKernels
    simp only [h, and_false, if_false]
    exact ih d

/-- The text is found, and the program is created. -/
def Programs : Prop :=
  answers.programString = true ∧ ∃ program, answers.createProgram = .ok program

/-- The program is built, and each kernel that is wanted is created. -/
def Builds (kernels : List (String × Bool)) : Prop :=
  answers.buildProgram = clSuccess ∧ ∀ k ∈ kernels, k.2 = true →
    ∃ kernel, answers.createKernel k.1 = .ok kernel

/-- A program, or an error and nothing. -/
theorem createProgram_cases (errorCode : Int) (d : Driver) :
    ((errorCode = clSuccess ∧ Programs answers) ∧ ∃ program, program ≠ null ∧
      createProgram answers errorCode d =
        (clSuccess, program, { d with created := d.created ++ [program] })) ∨
    (¬ (errorCode = clSuccess ∧ Programs answers) ∧ ∃ error, error ≠ clSuccess ∧
      createProgram answers errorCode d = (error, null, d)) := by
  unfold createProgram Programs
  by_cases hcode : errorCode = clSuccess
  · cases hstring : answers.programString with
    | false =>
      exact .inr ⟨by simp, clInvalidValue, by decide, by simp [hcode, clInvalidValue, clSuccess]⟩
    | true =>
      cases hprogram : answers.createProgram with
      | ok program => exact .inl ⟨by simp [hcode], program.1, program.2, by simp [hcode, Driver.create]⟩
      | error error => exact .inr ⟨by simp, error.1, error.2, by simp [hcode, Driver.create]⟩
  · exact .inr ⟨by simp [hcode], errorCode, hcode, by simp [hcode]⟩

/-- **What making overrides comes to**: the objects that are created are those of the overrides, and
there is a program among them unless nothing was created. -/
structure Made (kernels : List (String × Bool)) (errorCode error : Int) (o : KernelOverrides)
    (made : List Handle) : Prop where
  objects : o.objects = made
  success : error = clSuccess ↔ (errorCode = clSuccess ∧ Programs answers) ∧ Builds answers kernels
  program : errorCode = clSuccess ∧ Programs answers → o.program ≠ null
  nothing : ¬ (errorCode = clSuccess ∧ Programs answers) → made = []

/-- **What a creation makes, and what it keeps of it.** -/
theorem createOverrides_spec (kernels : List (String × Bool)) (errorCode : Int) (d : Driver) :
    ∃ error o made, createOverrides answers kernels errorCode d =
        (error, o, { d with created := d.created ++ made }) ∧
      Made answers kernels errorCode error o made := by
  unfold createOverrides
  dsimp only
  rcases createProgram_cases answers errorCode d with
    ⟨hyes, program, hne, heq⟩ | ⟨hno, error, herror, heq⟩
  · rw [heq]
    dsimp only
    rw [if_pos rfl]
    have hdriver := createKernels_driver answers kernels answers.buildProgram
      { d with created := d.created ++ [program] }
    have hsuccess := createKernels_success answers kernels answers.buildProgram
      { d with created := d.created ++ [program] }
    generalize createKernels answers kernels answers.buildProgram
      { d with created := d.created ++ [program] } = result at *
    obtain ⟨error, fields, d'⟩ := result
    dsimp only at hdriver hsuccess ⊢
    refine ⟨error, ⟨program, fields⟩, program :: kernelsOf fields, ?_, ?_, ?_, fun _ => hne,
      fun hno => absurd hyes hno⟩
    · rw [hdriver, List.append_assoc]
      rfl
    · rw [KernelOverrides.objects, List.filter_cons, if_pos (decide_eq_true hne)]
      rfl
    · rw [hsuccess]
      exact (and_iff_right hyes).symm
  · rw [heq]
    dsimp only
    rw [if_neg herror]
    have hnone := kernelsOf_createKernels_error answers kernels herror d
    have hdriver := createKernels_driver answers kernels error d
    have hsuccess := createKernels_success answers kernels error d
    generalize createKernels answers kernels error d = result at *
    obtain ⟨error', fields, d'⟩ := result
    dsimp only at hnone hdriver hsuccess ⊢
    refine ⟨error', ⟨null, fields⟩, [], ?_, ?_, ?_, fun hyes => absurd hyes hno, fun _ => rfl⟩
    · rw [hdriver, hnone]
    · rw [KernelOverrides.objects, List.filter_cons, if_neg (by simp)]
      exact congrArg _ hnone
    · rw [hsuccess]
      exact iff_of_false (fun h => herror h.1) fun h => hno h.1

/-- Overrides that are installed hold all that was made for them. -/
theorem Made.installed_iff {kernels : List (String × Bool)} {error : Int} {o : KernelOverrides}
    {made : List Handle} (h : Made answers kernels clSuccess error o made) :
    (if error = clSuccess then some o else none).elim 0 KernelOverrides.objects =
        (made : Multiset Handle) ↔
      (Programs answers → Builds answers kernels) := by
  constructor
  · intro hmade hprograms
    by_contra hbuilds
    have hfailed : error ≠ clSuccess := fun hok => hbuilds (h.success.mp hok).2
    rw [if_neg hfailed, Option.elim_none] at hmade
    -- the program of the overrides is lost
    have hmem : o.program ∈ o.objects := by
      rw [objects_eq (h.program ⟨rfl, hprograms⟩)]
      exact Multiset.mem_add.mpr (.inr (Multiset.mem_singleton_self _))
    rw [h.objects, ← hmade] at hmem
    exact Multiset.notMem_zero _ hmem
  · intro hbuilds
    by_cases hprograms : Programs answers
    · rw [if_pos (h.success.mpr ⟨⟨rfl, hprograms⟩, hbuilds hprograms⟩)]
      exact h.objects
    · have hfailed : error ≠ clSuccess := fun hok => hprograms (h.success.mp hok).1.2
      rw [if_neg hfailed, h.nothing fun hand => hprograms hand.2]
      rfl

/-! ## One initialisation -/

/-- If all is given back the call goes on. -/
theorem releaseOverrides_success {old : Option KernelOverrides}
    (hold : ∀ o, old = some o → o.program ≠ null) (h : AllReleased answers old) (d : Driver) :
    (releaseOverrides answers old d).1 = clSuccess := by
  cases old with
  | none => rfl
  | some o => exact (if_neg (hold o rfl)).trans (h o rfl).1

/-- An entry that is erased, or stored anew. -/
def replaced (overridesMap : OrdMap Handle KernelOverrides) (context : Handle) :
    Option KernelOverrides → OrdMap Handle KernelOverrides
  | none => overridesMap.erase context
  | some o => (overridesMap.erase context).insert context o

/-- **When an initialisation accounts for its objects.** -/
theorem initOverrides_spec (kernels : List (String × Bool)) (context : Handle)
    (overridesMap : OrdMap Handle KernelOverrides) (d : Driver)
    (hold : ∀ o, overridesMap.get? context = some o → o.program ≠ null) :
    ∃ made given new, initOverrides answers kernels context overridesMap d =
        (replaced overridesMap context new, ⟨d.created ++ made, d.released ++ given⟩) ∧
      (∀ o, new = some o → o.program ≠ null) ∧
      ((made : Multiset Handle) + (overridesMap.get? context).elim 0 KernelOverrides.objects =
          given + new.elim 0 KernelOverrides.objects ↔
        AllReleased answers (overridesMap.get? context) ∧
          (Programs answers → Builds answers kernels)) := by
  have hreleased := releaseOverrides_eq answers (overridesMap.get? context) d
  have hsuccess := releaseOverrides_success answers hold
  unfold initOverrides
  generalize overridesMap.get? context = old at *
  obtain ⟨error, o, made, hcreated, hmade⟩ :=
    createOverrides_spec answers kernels (releaseOverrides answers old d).1
      (releaseOverrides answers old d).2
  dsimp only
  rw [hcreated, hreleased]
  refine ⟨made, givenOf answers old, if error = clSuccess then some o else none, ?_, ?_, ?_⟩
  · dsimp only
    split <;> rfl
  · intro o' ho'
    split at ho'
    next hok => exact Option.some.inj ho' ▸ hmade.program (hmade.success.mp hok).1
    next => cases ho'
  · have hle : (if error = clSuccess then some o else none).elim 0 KernelOverrides.objects ≤
        (made : Multiset Handle) := by
      split
      · exact hmade.objects.le
      · exact Multiset.zero_le _
    rw [account_iff_of_sub (givenOf_le answers hold) hle, givenOf_eq_iff answers hold]
    refine and_congr_right fun hall => ?_
    rw [hsuccess hall d] at hmade
    exact hmade.installed_iff

end

/-! ## Runs that release what they made -/

section

variable {m : OrdMap Handle KernelOverrides} {context : Handle} {new : Option KernelOverrides}

/-- The entry of the context is the new one. -/
theorem get?_replaced : (replaced m context new).get? context = new := by
  cases new with
  | none => rw [replaced, OrdMap.get?_erase, if_pos rfl]
  | some o => rw [replaced, OrdMap.get?_insert, if_pos rfl]

/-- Other contexts keep their entries. -/
theorem get?_replaced_of_ne {other : Handle} (h : other ≠ context) :
    (replaced m context new).get? other = m.get? other := by
  cases new with
  | none => rw [replaced, OrdMap.get?_erase, if_neg h]
  | some o => rw [replaced, OrdMap.get?_insert, if_neg h, OrdMap.get?_erase, if_neg h]

/-- The map holds what it held elsewhere, and the new entry. -/
theorem contents_replaced : (replaced m context new).contents KernelOverrides.objects =
    (m.erase context).contents KernelOverrides.objects + new.elim 0 KernelOverrides.objects := by
  cases new with
  | none => exact (add_zero _).symm
  | some o => rw [replaced, OrdMap.contents_insert, OrdMap.erase_erase, Option.elim_some]

/-- There is a program in all overrides of a map. -/
def HavePrograms (m : OrdMap Handle KernelOverrides) : Prop :=
  ∀ context o, m.get? context = some o → o.program ≠ null

/-- An entry has its program. -/
theorem HavePrograms.replaced (h : HavePrograms m) (hnew : ∀ o, new = some o → o.program ≠ null) :
    HavePrograms (replaced m context new) := by
  intro other o ho
  by_cases hother : other = context
  · subst hother
    rw [get?_replaced] at ho
    exact hnew o ho
  · rw [get?_replaced_of_ne hother] at ho
    exact h other o ho

end

structure Inv (L : Layer) : Prop where
  precompiled : HavePrograms L.precompiledKernelOverridesMap
  builtin : HavePrograms L.builtinKernelOverridesMap

/-- **A call after which nothing is left behind**: no release of an object of the old overrides fails;
and if the program is created it is built and each kernel that is wanted is created. -/
def Complete (config : Config) (L : Layer) (a : Action) : Prop :=
  AllReleased a.answers (L.overridesOf a) ∧ (Programs a.answers → Builds a.answers (a.kernels config))

variable {config : Config}

/-- What a step does to the objects and to what is reachable, and when it accounts for them. -/
theorem step_account (config : Config) {L : Layer} (hinv : Inv L) (a : Action) :
    ∃ made given : List Handle, ∃ rest : Multiset Handle,
      (step config L a).driver = ⟨L.driver.created ++ made, L.driver.released ++ given⟩ ∧
      L.reachable = rest + (L.overridesOf a).elim 0 KernelOverrides.objects ∧
      (step config L a).reachable =
        rest + ((step config L a).overridesOf a).elim 0 KernelOverrides.objects ∧
      Inv (step config L a) ∧
      ((made : Multiset Handle) + (L.overridesOf a).elim 0 KernelOverrides.objects =
          given + ((step config L a).overridesOf a).elim 0 KernelOverrides.objects ↔
        Complete config L a) := by
  cases a with
  | initPrecompiledKernelOverrides answers context =>
    obtain ⟨made, given, new, heq, hnew, hiff⟩ :=
      initOverrides_spec answers (precompiledKernels config) context
        L.precompiledKernelOverridesMap L.driver (hinv.precompiled context)
    simp only [step, initPrecompiledKernelOverrides, heq, Layer.reachable, Layer.overridesOf,
      get?_replaced, contents_replaced]
    refine ⟨made, given,
      (L.precompiledKernelOverridesMap.erase context).contents KernelOverrides.objects +
        L.builtinKernelOverridesMap.contents KernelOverrides.objects,
      rfl, ?_, ?_, ⟨?_, hinv.builtin⟩, hiff⟩
    · rw [OrdMap.contents_eq_erase L.precompiledKernelOverridesMap context]
      exact add_right_comm ..
    · exact add_right_comm ..
    · exact hinv.precompiled.replaced hnew
  | initBuiltinKernelOverrides answers context =>
    obtain ⟨made, given, new, heq, hnew, hiff⟩ :=
      initOverrides_spec answers builtinKernels context L.builtinKernelOverridesMap
        L.driver (hinv.builtin context)
    simp only [step, initBuiltinKernelOverrides, heq, Layer.reachable, Layer.overridesOf,
      get?_replaced, contents_replaced]
    refine ⟨made, given,
      L.precompiledKernelOverridesMap.contents KernelOverrides.objects +
        (L.builtinKernelOverridesMap.erase context).contents KernelOverrides.objects,
      rfl, ?_, ?_, ⟨hinv.precompiled, ?_⟩, hiff⟩
    · rw [OrdMap.contents_eq_erase L.builtinKernelOverridesMap context]
      exact (add_assoc ..).symm
    · exact (add_assoc ..).symm
    · exact hinv.builtin.replaced hnew

/-- Every object is accounted for if the releases succeed. -/
theorem accounted_iff {L : Layer} (hinv : Inv L) (a : Action) :
    Accounted config L a ↔ Complete config L a := by
  obtain ⟨made, given, _, hdriver, -, -, -, hiff⟩ := step_account config hinv a
  rw [← hiff, Accounted, hdriver]
  constructor
  · rintro ⟨made', given', hmade, hgiven, h⟩
    rw [List.append_cancel_left hmade, List.append_cancel_left hgiven]
    exact h
  · intro h
    exact ⟨made, given, rfl, rfl, h⟩

/-- **A step keeps the balance if it gives back all that it replaces.** -/
theorem balanced_step_iff {L : Layer} (hinv : Inv L) (h : Balanced L) (a : Action) :
    Balanced (step config L a) ↔ Complete config L a := by
  obtain ⟨made, given, rest, hdriver, hbefore, hafter, -, hiff⟩ :=
    step_account config hinv a
  have hcreated : (L.driver.created : Multiset Handle) =
      L.driver.released + (rest + (L.overridesOf a).elim 0 KernelOverrides.objects) := by
    rw [← hbefore]
    exact h
  rw [← hiff, ← account_iff hcreated, Balanced, hafter, hdriver, ← Multiset.coe_add,
    ← Multiset.coe_add]

/-- Entries keep their programs. -/
theorem inv_step {L : Layer} (hinv : Inv L) (a : Action) : Inv (step config L a) := by
  obtain ⟨_, _, _, -, -, -, hinv', -⟩ := step_account config hinv a
  exact hinv'

theorem inv_init : Inv {} := ⟨nofun, nofun⟩

/-- **Exactly which runs release what they create**, in every state and by every call. -/
theorem overridesBalanced_iff (config : Config) (actions : List Action) :
    (system config).Always Balanced {} actions ∧ (system config).Each (Accounted config) {} actions ↔
      (system config).Each (Complete config) {} actions := by
  have hstep : ∀ L a, Inv L → (system config).legal L a → Inv ((system config).step L a) :=
    fun L a hinv _ => inv_step hinv a
  refine System.always_and_each_iff_each hstep ?_ inv_init rfl
    (System.each_of_forall (fun _ _ => trivial) _ _)
  intro L a hinv hbalanced _
  exact ⟨fun h => (accounted_iff hinv a).mp h.2,
    fun h => ⟨(balanced_step_iff hinv hbalanced a).mpr h, (accounted_iff hinv a).mpr h⟩⟩

/-- A source text that does not build. -/
def buildFails : Answers where
  createProgram := .ok ⟨1, Nat.one_ne_zero⟩
  buildProgram := -11
  createKernel _ := .ok ⟨2, Nat.succ_ne_zero 1⟩

/-- **The program of a failed build is not released.** -/
theorem failed_build_leaks :
    ¬ ((system {}).Always Balanced {} [.initBuiltinKernelOverrides buildFails 1] ∧
      (system {}).Each (Accounted {}) {} [.initBuiltinKernelOverrides buildFails 1]) := by
  rintro ⟨⟨_, h⟩, _⟩
  have hcard := congrArg Multiset.card h
  exact absurd hcard (by decide)

end CLIntercept.Override.Init
