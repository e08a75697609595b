import CLIntercept.Lib.Run
import CLIntercept.Track.Programs
import Mathlib.Data.List.Nodup

/-!
# Program identity

The program objects of the driver beside the infos that the layer keeps under their handles. An
object carries what its info should say: the number it was given, the hash of what it was made
from, how often it was built and the hash of its latest options. Kernels carry what their program
was when they were created.

Every update of an info is a write to some of its fields, so a field that a creation does not write
is the one that an earlier object of the handle left there. `identified_iff` says of every run
exactly which steps keep the infos right: for each way to create, build and take kernels, the
fields that it relies on without writing them.
-/

set_option autoImplicit false

namespace CLIntercept.Track.ProgramIdentity

open CLIntercept.Lib

/-! ## The objects -/

/-- A program object. `builds` counts its builds, compiles and links, and `optionsHash` is the hash
of the options of the latest one, 0 where they were null. -/
structure ProgramObject where
  refCount : Nat
  number : UInt32
  hash : UInt64
  builds : Nat
  optionsHash : UInt64
  deriving DecidableEq, Repr

/-- The info of a program says what its object is. -/
structure Current (info : SProgramInfo) (o : ProgramObject) : Prop where
  number : info.programNumber = o.number
  hash : info.programHash = o.hash
  builds : info.compileCount.toNat = o.builds
  options : info.optionsHash = o.optionsHash

/-- The info of a kernel says what its program was: the index is one less than the builds, and
there is none before the first build. -/
structure Recorded (info : SKernelInfo) (o : ProgramObject) : Prop where
  number : info.programNumber = o.number
  hash : info.programHash = o.hash
  options : info.optionsHash = o.optionsHash
  index : info.compileCount.toNat + 1 = o.builds

/-- The maps of the layer, the live programs, the kernels with their programs as they were, and the
numbers of all programs of the run. -/
structure State where
  programs : Programs := {}
  objects : Handle → Option ProgramObject := fun _ => none
  kernels : Handle → Option ProgramObject := fun _ => none
  numbers : List UInt32 := []

/-- **The property**: infos are those of the current objects and numbers are unique. -/
structure Identified (s : State) : Prop where
  programs : ∀ program o, s.objects program = some o →
    Current (s.programs.programInfoMap program) o
  kernels : ∀ kernel o, s.kernels kernel = some o →
    ∃ info, s.programs.kernelInfoMap kernel = some info ∧ Recorded info o
  numbers : s.numbers.Nodup

/-! ## The system -/

/-- The calls, with what the driver answers. Null is what a creation answers that fails. Retains
and releases are the ones that succeed; others change nothing. -/
inductive Action
  | createProgramWithSource (program : Handle) (singleString : Bytes) (injected : Bool)
  | createProgramWithBinary (program : Handle) (binary : Option Bytes)
  | createProgramWithIL (program : Handle) (il : Option Bytes)
  | createProgramWithBuiltInKernels (program : Handle)
  | linkProgram (program : Handle) (options : Option Bytes)
  | buildProgram (program : Handle) (options : Option Bytes)
  | compileProgram (program : Handle) (options : Option Bytes)
  | retainProgram (program : Handle)
  | releaseProgram (program : Handle)
  | createKernel (kernel program : Handle) (kernelName : String)
  | createKernelsInProgram (kernels : List (Handle × Option String)) (program : Handle)
  deriving DecidableEq, Repr

/-- The driver creates a program, and its maps are `programs` at the end of the call. -/
def State.created (s : State) (program : Handle) (programs : Programs) (hash : UInt64)
    (builds : Nat) (optionsHash : UInt64) : State :=
  if program = null then { s with programs := programs }
  else
    let number := (programs.programInfoMap program).programNumber
    { s with
      programs := programs
      objects := Function.update s.objects program
        (some { refCount := 1, number, hash, builds, optionsHash })
      numbers := number :: s.numbers }

/-- The driver builds a program. A handle that is not live is an error there. -/
def State.built (s : State) (program : Handle) (options : Option Bytes) (programs : Programs) :
    State :=
  { s with
    programs := programs
    objects := Function.update s.objects program
      ((s.objects program).map fun o =>
        { o with builds := o.builds + 1, optionsHash := computeHash options }) }

/-- Kernels are made of a program. -/
def State.kernelsMade (s : State) (made : List Handle) (program : Handle) (programs : Programs) :
    State :=
  { s with
    programs := programs
    kernels := fun kernel => if kernel ∈ made then s.objects program else s.kernels kernel }

section

variable (config : Config) (demangle : String → String)

/-- One call. A program with built-in kernels may be one that the layer has made before and retains
for the caller. -/
def step (s : State) : Action → State
  | .createProgramWithSource program singleString injected =>
    s.created program (clCreateProgramWithSource config program singleString injected s.programs)
      (sourceHash config singleString) 0 0
  | .createProgramWithBinary program binary =>
    s.created program (clCreateProgramWithBinary config program binary s.programs)
      (binaryHash config binary) 0 0
  | .createProgramWithIL program il =>
    s.created program (clCreateProgramWithIL config program il s.programs) (spirvHash config il) 0 0
  | .createProgramWithBuiltInKernels program =>
    let programs := clCreateProgramWithBuiltInKernels program s.programs
    match s.objects program with
    | some o =>
      { s with
        programs := programs
        objects := Function.update s.objects program (some { o with refCount := o.refCount + 1 }) }
    | none => s.created program programs 0 0 0
  | .linkProgram program options =>
    s.created program (clLinkProgram config program options s.programs) 0 1 (computeHash options)
  | .buildProgram program options =>
    s.built program options (clBuildProgram config program options s.programs)
  | .compileProgram program options =>
    s.built program options (clCompileProgram config program options s.programs)
  | .retainProgram program =>
    { s with
      objects := Function.update s.objects program
        ((s.objects program).map fun o => { o with refCount := o.refCount + 1 }) }
  | .releaseProgram program =>
    { s with
      objects := Function.update s.objects program
        ((s.objects program).bind fun o =>
          if o.refCount ≤ 1 then none else some { o with refCount := o.refCount - 1 }) }
  | .createKernel kernel program kernelName =>
    if kernel = null then s
    else s.kernelsMade [kernel] program (addKernelInfo demangle config kernel program kernelName
      s.programs)
  | .createKernelsInProgram kernels program =>
    s.kernelsMade (kernels.map (·.1)) program (addKernelInfos demangle config program kernels
      s.programs)

/-- A new program is not live yet, and kernels are made of live programs. -/
def legal (s : State) : Action → Prop
  | .createProgramWithSource program _ _ | .createProgramWithBinary program _
  | .createProgramWithIL program _ | .linkProgram program _ => s.objects program = none
  | .createProgramWithBuiltInKernels _ | .buildProgram _ _ | .compileProgram _ _
  | .retainProgram _ | .releaseProgram _ => True
  | .createKernel kernel program _ => kernel ≠ null → (s.objects program).isSome
  | .createKernelsInProgram kernels program =>
    (s.objects program).isSome ∧ (kernels.map (·.1)).Nodup

def system : System State Action where
  step := step config demangle
  legal := legal

end

/-! ## The invariant -/

/-- Null is no program. -/
def NullIsFree (s : State) : Prop := s.objects null = none

/-- `NULL` is not among the programs that are created. -/
theorem nullIsFree_created {s : State} (h : NullIsFree s) (program : Handle) (programs : Programs)
    (hash : UInt64) (builds : Nat) (optionsHash : UInt64) :
    NullIsFree (s.created program programs hash builds optionsHash) := by
  unfold State.created
  split
  · exact h
  · next hne =>
    show Function.update s.objects program _ null = none
    rw [Function.update_of_ne (Ne.symm hne)]
    exact h

/-- What stays free is free after an update that keeps it so. -/
theorem nullIsFree_update {s : State} (h : NullIsFree s) (program : Handle)
    {o : Option ProgramObject} (ho : s.objects program = none → o = none) :
    Function.update s.objects program o null = none := by
  by_cases hp : program = null
  · subst hp
    rw [Function.update_self]
    exact ho h
  · rw [Function.update_of_ne (Ne.symm hp)]
    exact h

/-- No call makes it one. -/
theorem nullIsFree_step {config : Config} {demangle : String → String} (s : State) (a : Action)
    (h : NullIsFree s) (_ : legal s a) : NullIsFree (step config demangle s a) := by
  cases a with
  | createProgramWithSource program singleString injected
  | createProgramWithBinary program binary
  | createProgramWithIL program il
  | linkProgram program options => exact nullIsFree_created h ..
  | createProgramWithBuiltInKernels program =>
    simp only [step]
    split
    · next o ho => exact nullIsFree_update h program fun hnone => nomatch hnone.symm.trans ho
    · exact nullIsFree_created h ..
  | buildProgram program options
  | compileProgram program options
  | retainProgram program
  | releaseProgram program =>
    exact nullIsFree_update h program fun hnone => by rw [hnone]; rfl
  | createKernel kernel program kernelName =>
    simp only [step]
    split <;> exact h
  | createKernelsInProgram kernels program => exact h

/-! ## What a call writes -/

/-- Between two states of the maps, only the info of one program differs. -/
structure OnlyWrites (program : Handle) (p p' : Programs) : Prop where
  infos : ∀ q, q ≠ program → p'.programInfoMap q = p.programInfoMap q
  kernels : p'.kernelInfoMap = p.kernelInfoMap

namespace OnlyWrites

variable {program : Handle} {p p' p'' : Programs}

theorem refl (program : Handle) (p : Programs) : OnlyWrites program p p := ⟨fun _ _ => rfl, rfl⟩

theorem trans (h : OnlyWrites program p p') (h' : OnlyWrites program p' p'') :
    OnlyWrites program p p'' :=
  ⟨fun q hq => (h'.infos q hq).trans (h.infos q hq), h'.kernels.trans h.kernels⟩

theorem modify (program : Handle) (f : SProgramInfo → SProgramInfo) (p : Programs) :
    OnlyWrites program p (p.modify program f) :=
  ⟨fun _ hq => Function.update_of_ne hq _ _, rfl⟩

/-- `saveProgramNumber` writes to the program it is given, next to the counter. -/
theorem number (program : Handle) (p : Programs) :
    OnlyWrites program p (saveProgramNumber program p) :=
  ⟨fun _ hq => Function.update_of_ne hq _ _, rfl⟩

/-- `SAVE_PROGRAM_HASH` writes to the program it is given, and to no other. -/
theorem hash (config : Config) (program : Handle) (h : UInt64) (p : Programs) :
    OnlyWrites program p (saveHash config program h p) := by
  unfold saveHash saveProgramHash
  split
  · split
    · exact modify ..
    · exact refl ..
  · exact refl ..

/-- `SAVE_PROGRAM_OPTIONS_HASH` writes to the program it is given. -/
theorem options (config : Config) (program : Handle) (options : Option Bytes) (p : Programs) :
    OnlyWrites program p (saveOptionsHash config program options p) := by
  unfold saveOptionsHash saveProgramOptionsHash
  split
  · cases options with
    | none => exact refl ..
    | some options =>
      dsimp only
      split
      · exact modify ..
      · exact refl ..
  · exact refl ..

/-- `INCREMENT_PROGRAM_COMPILE_COUNT` writes to the program it is given. -/
theorem count (config : Config) (program : Handle) (p : Programs) :
    OnlyWrites program p (incrementCompileCount config program p) := by
  unfold incrementCompileCount
  split
  · exact modify ..
  · exact refl ..

/-- A creation from source writes to the new program alone. -/
theorem source (config : Config) (program : Handle) (singleString : Bytes) (injected : Bool)
    (p : Programs) :
    OnlyWrites program p (clCreateProgramWithSource config program singleString injected p) := by
  refine trans ?_ (hash config program _ _)
  split
  · exact number program p
  · split
    · unfold dumpProgramSourceScript
      split
      · exact number program p
      · exact refl program p
    · exact number program p

/-- A creation from a binary writes to the new program alone. -/
theorem binary (config : Config) (program : Handle) (binary : Option Bytes) (p : Programs) :
    OnlyWrites program p (clCreateProgramWithBinary config program binary p) := by
  refine trans ?_ (hash config program _ _)
  split <;> exact number program p

/-- A creation from an intermediate language writes to the new program alone. -/
theorem il (config : Config) (program : Handle) (il : Option Bytes) (p : Programs) :
    OnlyWrites program p (clCreateProgramWithIL config program il p) := by
  refine trans ?_ (hash config program _ _)
  split <;> exact number program p

/-- A build writes to the program that is built. -/
theorem build (config : Config) (program : Handle) (opts : Option Bytes) (p : Programs) :
    OnlyWrites program p (clBuildProgram config program opts p) :=
  (options config program opts p).trans (count config program _)

/-- A link writes to the program that it makes. -/
theorem link (config : Config) (program : Handle) (opts : Option Bytes) (p : Programs) :
    OnlyWrites program p (clLinkProgram config program opts p) :=
  (number program p).trans ((options config program opts _).trans (count config program _))

end OnlyWrites

/-! ## What a call leaves in the info -/

section

variable {config : Config} (hconfig : config.kernelNameHashTracking = true)
include hconfig

/-- The hash is all that changes. -/
theorem saveHash_info {program : Handle} (hne : program ≠ null) (h : UInt64) (p : Programs) :
    (saveHash config program h p).programInfoMap program =
      { p.programInfoMap program with programHash := h } := by
  simp [saveHash, Config.savesProgramHash, hconfig, saveProgramHash, hne, Programs.modify]

/-- The hash of the options is all that changes. -/
theorem saveOptionsHash_info {program : Handle} (hne : program ≠ null) (options : Option Bytes)
    (p : Programs) :
    (saveOptionsHash config program options p).programInfoMap program =
      { p.programInfoMap program with
        optionsHash :=
          if options.isSome then computeHash options else (p.programInfoMap program).optionsHash } := by
  cases options <;>
    simp [saveOptionsHash, Config.savesProgramHash, hconfig, saveProgramOptionsHash, hne,
      Programs.modify]

/-- The count goes up, past its 32 bits as well. -/
theorem incrementCompileCount_info {program : Handle} (hne : program ≠ null) (p : Programs) :
    (incrementCompileCount config program p).programInfoMap program =
      { p.programInfoMap program with
        compileCount := (p.programInfoMap program).compileCount + 1 } := by
  simp [incrementCompileCount, incrementProgramCompileCount, Config.incrementsCompileCount, hconfig,
    hne, Programs.modify]

omit hconfig in
/-- A number is given, and the builds start anew. -/
theorem saveProgramNumber_info (program : Handle) (p : Programs) :
    (saveProgramNumber program p).programInfoMap program =
      { p.programInfoMap program with programNumber := p.programNumber, compileCount := 0 } := by
  simp [saveProgramNumber, Programs.modify]

omit hconfig in
/-- Whether a creation from source numbers the program: not where it leaves this to a script dump
that was not compiled in. -/
def numbersSource (config : Config) (injected : Bool) : Bool :=
  config.dumpProgramSource || config.autoCreateSPIRV || injected || config.windows ||
    !(config.simpleDumpProgramSource || config.dumpProgramSourceScript)

omit hconfig in
/-- The macros of a creation from source, in their order. -/
theorem createProgramWithSource_eq (program : Handle) (singleString : Bytes) (injected : Bool)
    (p : Programs) :
    clCreateProgramWithSource config program singleString injected p =
      saveHash config program (sourceHash config singleString)
        (if numbersSource config injected then saveProgramNumber program p else p) := by
  have : (if config.dumpProgramSource || config.autoCreateSPIRV then dumpProgramSource program p
      else if !injected && (config.simpleDumpProgramSource || config.dumpProgramSourceScript) then
        dumpProgramSourceScript config program p
      else saveProgramNumber program p) =
      if numbersSource config injected then saveProgramNumber program p else p := by
    unfold dumpProgramSource dumpProgramSourceScript numbersSource
    cases config.dumpProgramSource <;> cases config.autoCreateSPIRV <;> cases injected <;>
      cases config.windows <;> cases config.simpleDumpProgramSource <;>
      cases config.dumpProgramSourceScript <;> rfl
  simp only [clCreateProgramWithSource, this]

/-- **What is known of a program after its creation from source.** -/
theorem createProgramWithSource_info {program : Handle} (hne : program ≠ null)
    (singleString : Bytes) (injected : Bool) (p : Programs) :
    (clCreateProgramWithSource config program singleString injected p).programInfoMap program =
      { if numbersSource config injected then
          { p.programInfoMap program with programNumber := p.programNumber, compileCount := 0 }
        else p.programInfoMap program with
        programHash := sourceHash config singleString } := by
  rw [createProgramWithSource_eq, saveHash_info hconfig hne]
  cases numbersSource config injected <;> simp [saveProgramNumber_info]

/-- **From a binary.** -/
theorem createProgramWithBinary_info {program : Handle} (hne : program ≠ null)
    (binary : Option Bytes) (p : Programs) :
    (clCreateProgramWithBinary config program binary p).programInfoMap program =
      { p.programInfoMap program with
        programNumber := p.programNumber
        compileCount := 0
        programHash := binaryHash config binary } := by
  simp only [clCreateProgramWithBinary, saveHash_info hconfig hne, dumpInputProgramBinaries, ite_self,
    saveProgramNumber_info]

/-- **From an intermediate language.** -/
theorem createProgramWithIL_info {program : Handle} (hne : program ≠ null) (il : Option Bytes)
    (p : Programs) :
    (clCreateProgramWithIL config program il p).programInfoMap program =
      { p.programInfoMap program with
        programNumber := p.programNumber
        compileCount := 0
        programHash := spirvHash config il } := by
  simp only [clCreateProgramWithIL, saveHash_info hconfig hne, dumpProgramSPIRV, ite_self,
    saveProgramNumber_info]

/-- **After a build.** -/
theorem buildProgram_info {program : Handle} (hne : program ≠ null) (options : Option Bytes)
    (p : Programs) :
    (clBuildProgram config program options p).programInfoMap program =
      { p.programInfoMap program with
        compileCount := (p.programInfoMap program).compileCount + 1
        optionsHash :=
          if options.isSome then computeHash options else (p.programInfoMap program).optionsHash } := by
  simp only [clBuildProgram, incrementCompileCount_info hconfig hne, saveOptionsHash_info hconfig hne]

/-- **After a link.** -/
theorem linkProgram_info {program : Handle} (hne : program ≠ null) (options : Option Bytes)
    (p : Programs) :
    (clLinkProgram config program options p).programInfoMap program =
      { p.programInfoMap program with
        programNumber := p.programNumber
        compileCount := 1
        optionsHash :=
          if options.isSome then computeHash options else (p.programInfoMap program).optionsHash } := by
  simp [clLinkProgram, incrementCompileCount_info hconfig hne, saveOptionsHash_info hconfig hne,
    saveProgramNumber_info]

end

/-! ## One step -/

/-- **When a creation keeps the infos right**: whatever is in the info after it is what the new
object is, and its number is new. -/
theorem identified_created_iff {s : State} (h : Identified s) {program : Handle}
    (hfree : s.objects program = none) {p' : Programs} (hw : OnlyWrites program s.programs p')
    {hash : UInt64} {builds : Nat} {optionsHash : UInt64} :
    Identified (s.created program p' hash builds optionsHash) ↔
      (program ≠ null →
        (p'.programInfoMap program).programHash = hash ∧
        (p'.programInfoMap program).compileCount.toNat = builds ∧
        (p'.programInfoMap program).optionsHash = optionsHash ∧
        (p'.programInfoMap program).programNumber ∉ s.numbers) := by
  have hother : ∀ q o, s.objects q = some o → Current (p'.programInfoMap q) o := fun q o ho => by
    rw [hw.infos q fun hq => nomatch (hq ▸ ho).symm.trans hfree]
    exact h.programs q o ho
  have hkernels : ∀ kernel o, s.kernels kernel = some o →
      ∃ info, p'.kernelInfoMap kernel = some info ∧ Recorded info o := fun kernel o ho => by
    rw [hw.kernels]
    exact h.kernels kernel o ho
  unfold State.created
  split
  · next hnull => exact iff_of_true ⟨hother, hkernels, h.numbers⟩ fun hne => absurd hnull hne
  · next hne =>
    refine Iff.trans ?_ (forall_prop_of_true hne).symm
    constructor
    · intro h'
      have hcur := h'.programs program _ (Function.update_self ..)
      exact ⟨hcur.hash, hcur.builds, hcur.options, (List.nodup_cons.mp h'.numbers).1⟩
    · rintro ⟨hhash, hbuilds, hoptions, hnumber⟩
      refine ⟨fun q o ho => ?_, hkernels, List.nodup_cons.mpr ⟨hnumber, h.numbers⟩⟩
      change Function.update s.objects program _ q = some o at ho
      by_cases hq : q = program
      · subst hq
        rw [Function.update_self] at ho
        cases ho
        exact ⟨rfl, hhash, hbuilds, hoptions⟩
      · rw [Function.update_of_ne hq] at ho
        exact hother q o ho

/-- **When a build keeps the infos right.** -/
theorem identified_built_iff {s : State} (h : Identified s) {program : Handle} {p' : Programs}
    (hw : OnlyWrites program s.programs p') {options : Option Bytes} :
    Identified (s.built program options p') ↔
      ∀ o, s.objects program = some o →
        Current (p'.programInfoMap program)
          { o with builds := o.builds + 1, optionsHash := computeHash options } := by
  constructor
  · intro h' o ho
    refine h'.programs program _ ?_
    simp [State.built, ho]
  · refine fun hcur => ⟨fun q o' ho' => ?_, fun kernel o ho => ?_, h.numbers⟩
    · change Function.update s.objects program _ q = some o' at ho'
      by_cases hq : q = program
      · subst hq
        rw [Function.update_self, Option.map_eq_some_iff] at ho'
        obtain ⟨o, ho, rfl⟩ := ho'
        exact hcur o ho
      · rw [Function.update_of_ne hq] at ho'
        show Current (p'.programInfoMap q) o'
        rw [hw.infos q hq]
        exact h.programs q o' ho'
    · show ∃ info, p'.kernelInfoMap kernel = some info ∧ _
      rw [hw.kernels]
      exact h.kernels kernel o ho

/-- Reference counts are not in the infos. -/
theorem identified_refCount {s : State} (h : Identified s) (program : Handle)
    {f : ProgramObject → Option ProgramObject}
    (hf : ∀ o o', f o = some o' → { o' with refCount := o.refCount } = o) :
    Identified { s with
      objects := Function.update s.objects program ((s.objects program).bind f) } := by
  refine ⟨fun q o' ho' => ?_, h.kernels, h.numbers⟩
  change Function.update s.objects program _ q = some o' at ho'
  by_cases hq : q = program
  · subst hq
    rw [Function.update_self, Option.bind_eq_some_iff] at ho'
    obtain ⟨o, ho, hfo⟩ := ho'
    have hcur := h.programs q o ho
    rw [← hf o o' hfo] at hcur
    exact ⟨hcur.number, hcur.hash, hcur.builds, hcur.options⟩
  · rw [Function.update_of_ne hq] at ho'
    exact h.programs q o' ho'

/-- References change nothing that is known of programs. -/
theorem identified_retain {s : State} (h : Identified s) (program : Handle) :
    Identified { s with
      objects := Function.update s.objects program
        ((s.objects program).map fun o => { o with refCount := o.refCount + 1 }) } := by
  rw [Option.map_eq_bind]
  refine identified_refCount h program fun o o' ho => ?_
  cases ho
  rfl

/-- One less than the count is the index, once there was a build. -/
theorem toNat_sub_one_add_one_iff (n : UInt32) : (n - 1).toNat + 1 = n.toNat ↔ 1 ≤ n.toNat := by
  have hlt := n.toNat_lt
  rw [UInt32.toNat_sub]
  simp only [UInt32.toNat_one]
  omega

/-- A kernel records its program's last build, if there was one. -/
theorem recorded_kernelInfoOf_iff (demangle : String → String) (config : Config)
    {info : SProgramInfo} {o : ProgramObject} (h : Current info o) (kernelName : String) :
    Recorded (kernelInfoOf demangle config info kernelName) o ↔ 1 ≤ o.builds := by
  have hindex := toNat_sub_one_add_one_iff info.compileCount
  rw [h.builds] at hindex
  exact ⟨fun hr => hindex.mp hr.index, fun hb => ⟨h.number, h.hash, h.options, hindex.mpr hb⟩⟩

/-- The infos of kernels that were just made. -/
theorem addKernelInfos_kernelInfoMap (demangle : String → String) (config : Config)
    (program : Handle) (kernel : Handle) (kernels : List (Handle × Option String)) (p : Programs)
    (hnodup : (kernels.map (·.1)).Nodup) :
    (addKernelInfos demangle config program kernels p).programInfoMap = p.programInfoMap ∧
      (∀ name, (kernel, some name) ∈ kernels →
        (addKernelInfos demangle config program kernels p).kernelInfoMap kernel =
          some (kernelInfoOf demangle config (p.programInfoMap program) name)) ∧
      ((∀ name, (kernel, some name) ∉ kernels) →
        (addKernelInfos demangle config program kernels p).kernelInfoMap kernel =
          p.kernelInfoMap kernel) := by
  induction kernels with
  | nil => exact ⟨rfl, fun _ h => absurd h List.not_mem_nil, fun _ => rfl⟩
  | cons head rest ih =>
    obtain ⟨first, kernelName⟩ := head
    obtain ⟨hfirst, htail⟩ := List.nodup_cons.mp hnodup
    obtain ⟨hinfos, hnamed, hrest⟩ := ih htail
    cases kernelName with
    | none => simpa [addKernelInfos] using ih htail
    | some kernelName =>
      have hnew : ∀ name, (first, name) ∉ rest := fun name h =>
        hfirst (List.mem_map.mpr ⟨(first, name), h, rfl⟩)
      refine ⟨hinfos, fun name hname => ?_, fun hnone => ?_⟩
      · by_cases hk : kernel = first
        · subst hk
          rcases List.mem_cons.mp hname with heq | hname
          · cases heq
            simp [addKernelInfos, addKernelInfo, hinfos]
          · exact absurd hname (hnew _)
        · have hname' : (kernel, some name) ∈ rest := by simpa [hk] using hname
          simpa [addKernelInfos, addKernelInfo, hk] using hnamed name hname'
      · have hk : kernel ≠ first := fun heq => hnone kernelName (by simp [heq])
        have hsame := hrest fun name h => hnone name (List.mem_cons_of_mem _ h)
        simpa [addKernelInfos, addKernelInfo, hk] using hsame

/-- The info of a kernel that was just made is the one of its program, if its name is told and the
program was built, and otherwise the one that was there. -/
theorem recorded_made_iff {o : ProgramObject} (demangle : String → String) (config : Config)
    {program : Handle} {p : Programs} (hcur : Current (p.programInfoMap program) o)
    {kernels : List (Handle × Option String)} (hnodup : (kernels.map (·.1)).Nodup)
    {kernel : Handle} {name : Option String} (hmem : (kernel, name) ∈ kernels) :
    (∃ info, (addKernelInfos demangle config program kernels p).kernelInfoMap kernel = some info ∧
        Recorded info o) ↔
      if name.isSome then 1 ≤ o.builds
      else ∃ info, p.kernelInfoMap kernel = some info ∧ Recorded info o := by
  obtain ⟨-, hnamed, hrest⟩ :=
    addKernelInfos_kernelInfoMap demangle config program kernel kernels p hnodup
  cases name with
  | some name =>
    rw [hnamed name hmem]
    simp only [Option.some.injEq, exists_eq_left', Option.isSome_some, if_true]
    exact recorded_kernelInfoOf_iff demangle config hcur name
  | none =>
    have hnone : ∀ name, (kernel, some name) ∉ kernels := by
      intro name hname
      have heq := List.inj_on_of_nodup_map hnodup hname hmem rfl
      exact nomatch congrArg Prod.snd heq
    rw [hrest hnone]
    exact Iff.rfl

/-- **When taking kernels keeps the infos right**: kernels whose names the driver tells need a
program that was built, of others nothing is recorded. -/
theorem identified_kernelsMade_iff {s : State} (h : Identified s) {program : Handle}
    {o : ProgramObject} (ho : s.objects program = some o) (demangle : String → String)
    (config : Config) (kernels : List (Handle × Option String))
    (hnodup : (kernels.map (·.1)).Nodup) :
    Identified (s.kernelsMade (kernels.map (·.1)) program
        (addKernelInfos demangle config program kernels s.programs)) ↔
      ∀ kernel name, (kernel, name) ∈ kernels →
        if name.isSome then 1 ≤ o.builds
        else ∃ info, s.programs.kernelInfoMap kernel = some info ∧ Recorded info o := by
  have hspec := fun kernel =>
    addKernelInfos_kernelInfoMap demangle config program kernel kernels s.programs hnodup
  have hmade_iff := fun kernel name (hmem : (kernel, name) ∈ kernels) =>
    recorded_made_iff demangle config (h.programs program o ho) hnodup hmem
  constructor
  · intro h' kernel name hmem
    have hmade : kernel ∈ kernels.map (·.1) := List.mem_map_of_mem hmem
    rw [← hmade_iff kernel name hmem]
    exact h'.kernels kernel o (by simp [State.kernelsMade, hmade, ho])
  · intro hok
    refine ⟨fun q o' ho' => ?_, fun kernel o' ho' => ?_, h.numbers⟩
    · show Current ((addKernelInfos demangle config program kernels s.programs).programInfoMap q) o'
      rw [(hspec null).1]
      exact h.programs q o' ho'
    · show ∃ info, (addKernelInfos demangle config program kernels s.programs).kernelInfoMap kernel =
        some info ∧ _
      change (if kernel ∈ kernels.map (·.1) then s.objects program else s.kernels kernel) = some o'
        at ho'
      split at ho'
      · next hmade =>
        cases ho.symm.trans ho'
        obtain ⟨⟨kernel, name⟩, hmem, rfl⟩ := List.mem_map.mp hmade
        exact (hmade_iff kernel name hmem).mpr (hok kernel name hmem)
      · next hmade =>
        rw [(hspec kernel).2.2 fun name hname => hmade (List.mem_map_of_mem hname)]
        exact h.kernels kernel o' ho'

/-! ## Runs -/

/-- **The condition on a call**, of the maps and the objects before it. A creation finds nothing
left in the fields that it does not write, and the number that the program gets is not taken. A
build with null options is of a program whose options hash is 0, and the count does not wrap.
Kernels are of built programs, or are ones whose names the driver does not tell and whose old infos
are right. -/
def CallOk (config : Config) (s : State) : Action → Prop
  | .createProgramWithSource program _ injected =>
    let info := s.programs.programInfoMap program
    program ≠ null → info.optionsHash = 0 ∧
      if numbersSource config injected then s.programs.programNumber ∉ s.numbers
      else info.compileCount = 0 ∧ info.programNumber ∉ s.numbers
  | .createProgramWithBinary program _ | .createProgramWithIL program _ =>
    program ≠ null →
      (s.programs.programInfoMap program).optionsHash = 0 ∧ s.programs.programNumber ∉ s.numbers
  | .createProgramWithBuiltInKernels program =>
    let info := s.programs.programInfoMap program
    program ≠ null → s.objects program = none →
      info.programHash = 0 ∧ info.compileCount = 0 ∧ info.optionsHash = 0 ∧
        info.programNumber ∉ s.numbers
  | .linkProgram program options =>
    let info := s.programs.programInfoMap program
    program ≠ null →
      info.programHash = 0 ∧ (options = none → info.optionsHash = 0) ∧
        s.programs.programNumber ∉ s.numbers
  | .buildProgram program options | .compileProgram program options =>
    ∀ o, s.objects program = some o →
      (options = none → o.optionsHash = 0) ∧ o.builds + 1 < uintModulus
  | .retainProgram _ | .releaseProgram _ => True
  | .createKernel kernel program _ =>
    ∀ o, s.objects program = some o → kernel ≠ null → 1 ≤ o.builds
  | .createKernelsInProgram kernels program =>
    ∀ o, s.objects program = some o → ∀ kernel name, (kernel, name) ∈ kernels →
      if name.isSome then 1 ≤ o.builds
      else ∃ info, s.programs.kernelInfoMap kernel = some info ∧ Recorded info o

theorem toNat_eq_zero_iff (n : UInt32) : n.toNat = 0 ↔ n = 0 := by
  rw [← UInt32.toNat_inj]
  rfl

/-- A build is recorded unless it keeps options that are not its own, or is one too many. -/
theorem identified_build_iff {config : Config} (hconfig : config.kernelNameHashTracking = true)
    {s : State} (h : Identified s) (hfree : NullIsFree s) (program : Handle)
    (options : Option Bytes) :
    Identified (s.built program options (clBuildProgram config program options s.programs)) ↔
      ∀ o, s.objects program = some o →
        (options = none → o.optionsHash = 0) ∧ o.builds + 1 < uintModulus := by
  rw [identified_built_iff h (OnlyWrites.build ..)]
  refine forall_congr' fun o => forall_congr' fun ho => ?_
  have hne : program ≠ null := fun hp => nomatch (hp ▸ ho).symm.trans hfree
  obtain ⟨hnumber, hhash, hbuilds, hoptions⟩ := h.programs program o ho
  rw [buildProgram_info hconfig hne]
  have hcount : ((s.programs.programInfoMap program).compileCount + 1).toNat = o.builds + 1 ↔
      o.builds + 1 < uintModulus := by
    rw [UInt32.toNat_add, hbuilds]
    simp only [UInt32.toNat_one, uintModulus]
    omega
  have hopts : (if options.isSome then computeHash options
        else (s.programs.programInfoMap program).optionsHash) = computeHash options ↔
      (options = none → o.optionsHash = 0) := by
    cases options <;> simp [computeHash, hoptions]
  exact ⟨fun hc => ⟨hopts.mp hc.options, hcount.mp hc.builds⟩,
    fun hok => ⟨hnumber, hhash, hcount.mpr hok.2, hopts.mpr hok.1⟩⟩

/-- **Exactly when a call keeps the infos right.** -/
theorem identified_step_iff {config : Config} (hconfig : config.kernelNameHashTracking = true)
    (demangle : String → String) (s : State) (a : Action) (hfree : NullIsFree s)
    (h : Identified s) (hlegal : legal s a) :
    Identified (step config demangle s a) ↔ CallOk config s a := by
  cases a with
  | createProgramWithSource program singleString injected =>
    refine (identified_created_iff h hlegal (OnlyWrites.source ..)).trans ?_
    refine forall_congr' fun hne => ?_
    rw [createProgramWithSource_info hconfig hne]
    cases numbersSource config injected <;> simp [toNat_eq_zero_iff, and_left_comm]
  | createProgramWithBinary program binary =>
    refine (identified_created_iff h hlegal (OnlyWrites.binary ..)).trans ?_
    refine forall_congr' fun hne => ?_
    simp [createProgramWithBinary_info hconfig hne]
  | createProgramWithIL program il =>
    refine (identified_created_iff h hlegal (OnlyWrites.il ..)).trans ?_
    refine forall_congr' fun hne => ?_
    simp [createProgramWithIL_info hconfig hne]
  | createProgramWithBuiltInKernels program =>
    simp only [step, CallOk, clCreateProgramWithBuiltInKernels]
    split
    · next o ho =>
      have hretain := identified_retain h program
      rw [ho] at hretain
      exact iff_of_true hretain fun _ hnone => nomatch hnone.symm.trans ho
    · next hnone =>
      refine (identified_created_iff h hnone (OnlyWrites.refl ..)).trans ?_
      refine forall_congr' fun hne => ?_
      simp [hnone, toNat_eq_zero_iff]
  | linkProgram program options =>
    refine (identified_created_iff h hlegal (OnlyWrites.link ..)).trans ?_
    refine forall_congr' fun hne => ?_
    rw [linkProgram_info hconfig hne]
    cases options <;> simp [computeHash]
  | buildProgram program options
  | compileProgram program options => exact identified_build_iff hconfig h hfree program options
  | retainProgram program =>
    exact iff_of_true (identified_retain h program) trivial
  | releaseProgram program =>
    refine iff_of_true (identified_refCount h program fun o o' ho => ?_) trivial
    split at ho
    · exact nomatch ho
    · cases ho
      rfl
  | createKernel kernel program kernelName =>
    simp only [step, CallOk]
    split
    · next hnull => exact iff_of_true h fun _ _ hne => absurd hnull hne
    · next hne =>
      obtain ⟨o, ho⟩ := Option.isSome_iff_exists.mp (hlegal hne)
      have := identified_kernelsMade_iff h ho demangle config [(kernel, some kernelName)]
        (List.nodup_singleton _)
      simpa [addKernelInfos, ho, hne] using this
  | createKernelsInProgram kernels program =>
    obtain ⟨o, ho⟩ := Option.isSome_iff_exists.mp hlegal.1
    simp only [CallOk, ho, Option.some.injEq, forall_eq']
    exact identified_kernelsMade_iff h ho demangle config kernels hlegal.2

theorem identified_initial : Identified {} :=
  ⟨fun _ _ h => (nomatch h), fun _ _ h => (nomatch h), List.nodup_nil⟩

/-- **Exactly when infos are those of the current objects**: in runs in which every call meets its
condition, and in no others. -/
theorem identified_iff {config : Config} (hconfig : config.kernelNameHashTracking = true)
    (demangle : String → String) {run : List Action}
    (hlegal : (system config demangle).Legal {} run) :
    (system config demangle).Always Identified {} run ↔
      (system config demangle).Each (CallOk config) {} run :=
  System.always_iff_each (I := NullIsFree) nullIsFree_step
    (fun s a => identified_step_iff hconfig demangle s a) rfl identified_initial hlegal

/-- One program, built once, of which a kernel is made. -/
def builtOnce : List Action :=
  [.createProgramWithSource 16 [] false, .buildProgram 16 (some []), .createKernel 32 16 "copy",
    .releaseProgram 16]

/-- The controls of the runs here. -/
def tracking : Config := { kernelNameHashTracking := true }

theorem legal_builtOnce : (system tracking id).Legal {} builtOnce :=
  ⟨rfl, trivial, fun _ => rfl, trivial, trivial⟩

theorem callOk_builtOnce : (system tracking id).Each (CallOk tracking) {} builtOnce := by
  refine ⟨fun _ => ⟨rfl, List.not_mem_nil⟩, fun o ho => ?_, fun o ho _ => ?_, trivial, trivial⟩
  · cases ho
    exact ⟨fun h => (nomatch h), by decide⟩
  · cases ho
    exact Nat.le_refl 1

theorem identified_builtOnce : (system tracking id).Always Identified {} builtOnce :=
  (identified_iff rfl id legal_builtOnce).mpr callOk_builtOnce

/-- A program is built with options and released. The next one gets its handle and is built with
none. -/
def reusedHandle : List Action :=
  [.createProgramWithSource 16 [] false, .buildProgram 16 (some [45, 103]), .releaseProgram 16,
    .createProgramWithSource 16 [] false, .buildProgram 16 none]

/-- **An options hash outlives its program.** -/
theorem options_of_released_program : (system tracking id).Legal {} reusedHandle ∧
    ¬ (system tracking id).Always Identified {} reusedHandle := by
  refine ⟨⟨rfl, trivial, trivial, rfl, trivial, trivial⟩, fun h => ?_⟩
  have hlast := h.last.programs 16 _ rfl
  exact absurd hlast.options (by decide +kernel)

end CLIntercept.Track.ProgramIdentity
