import CLIntercept.Api
import CLIntercept.Config
import Mathlib.Logic.Function.Basic

/-!
# Program and kernel infos

For every program the layer keeps its number, a hash of what it was created from, a hash of the
options it was built with, and how often it was built; for every kernel the same, as they were when
the kernel was created. Dump and capture files are named by them.

The infos are stored under the handle. Nothing takes the info of a program out, and each of the five
ways to create a program writes some fields of whatever is there. This module is the code of these
updates: the helpers, the macros of `intercept.h` with the controls that they look at, and what each
entry point makes of the maps, given the handle that the driver answers.
-/

set_option autoImplicit false

namespace CLIntercept.Track

/-! ## Hashes -/

/-- `HASH_JENKINS_MIX`. -/
def hashJenkinsMix (a b c : UInt32) : UInt32 × UInt32 × UInt32 :=
  let a := (a - b - c) ^^^ (c >>> 13)
  let b := (b - c - a) ^^^ (a <<< 8)
  let c := (c - a - b) ^^^ (b >>> 13)
  let a := (a - b - c) ^^^ (c >>> 12)
  let b := (b - c - a) ^^^ (a <<< 16)
  let c := (c - a - b) ^^^ (b >>> 5)
  let a := (a - b - c) ^^^ (c >>> 3)
  let b := (b - c - a) ^^^ (a <<< 10)
  let c := (c - a - b) ^^^ (b >>> 15)
  (a, b, c)

/-- The loop of `Hash` over `n` whole dwords. The bytes that are left are one more dword. -/
def hashLoop : Nat → UInt32 × UInt32 × UInt32 → Bytes → UInt32 × UInt32 × UInt32
  | 0, (a, hi, lo), bytes =>
    if bytes.isEmpty then (a, hi, lo)
    else hashJenkinsMix (a ^^^ UInt32.ofNat bytes.toNat) hi lo
  | n + 1, (a, hi, lo), bytes =>
    hashLoop n (hashJenkinsMix (a ^^^ UInt32.ofNat (Bytes.toNat (bytes.take 4))) hi lo)
      (bytes.drop 4)

def Hash (bytes : Bytes) : UInt64 :=
  let r := hashLoop (bytes.length / 4) (0x428a2f98, 0x71374491, 0xb5c0fbcf) bytes
  (r.2.1.toUInt64 <<< 32) ||| r.2.2.toUInt64

/-- 0 for a null pointer. -/
def computeHash : Option Bytes → UInt64
  | some bytes => Hash bytes
  | none => 0

/-! ## The maps -/

structure SProgramInfo where
  programNumber : UInt32 := 0
  compileCount : UInt32 := 0
  programHash : UInt64 := 0
  optionsHash : UInt64 := 0
  deriving DecidableEq, Repr

structure SKernelInfo where
  kernelName : String := ""
  programHash : UInt64 := 0
  optionsHash : UInt64 := 0
  programNumber : UInt32 := 0
  compileCount : UInt32 := 0
  deriving DecidableEq, Repr

/-- `m_ProgramNumber`, `m_ProgramInfoMap`, which is only read with `operator[]`, and
`m_KernelInfoMap`. -/
structure Programs where
  programNumber : UInt32 := 0
  programInfoMap : Handle → SProgramInfo := fun _ => {}
  kernelInfoMap : Handle → Option SKernelInfo := fun _ => none

/-- A write to the info of a program. -/
def Programs.modify (p : Programs) (program : Handle) (f : SProgramInfo → SProgramInfo) :
    Programs :=
  { p with
    programInfoMap := Function.update p.programInfoMap program (f (p.programInfoMap program)) }

def incrementProgramCompileCount (program : Handle) (p : Programs) : Programs :=
  p.modify program fun info => { info with compileCount := info.compileCount + 1 }

def saveProgramHash (program : Handle) (hash : UInt64) (p : Programs) : Programs :=
  if program ≠ null then p.modify program fun info => { info with programHash := hash } else p

/-- Null options leave the hash as it is. -/
def saveProgramOptionsHash (program : Handle) (options : Option Bytes) (p : Programs) : Programs :=
  match options with
  | some options =>
    if program ≠ null then
      p.modify program fun info => { info with optionsHash := computeHash (some options) }
    else p
  | none => p

/-- The next number, and no builds. A failed creation, with a null handle, takes a number too. -/
def saveProgramNumber (program : Handle) (p : Programs) : Programs :=
  let p' := p.modify program fun info =>
    { info with programNumber := p.programNumber, compileCount := 0 }
  { p' with programNumber := p.programNumber + 1 }

/-! ## Creating programs

The four dump functions number the program as `saveProgramNumber` does; the files that they write
are not modelled. -/

def dumpProgramSource (program : Handle) (p : Programs) : Programs := saveProgramNumber program p

def dumpInputProgramBinaries (program : Handle) (p : Programs) : Programs :=
  saveProgramNumber program p

def dumpProgramSPIRV (program : Handle) (p : Programs) : Programs := saveProgramNumber program p

/-- This one is there on Windows only. -/
def dumpProgramSourceScript (config : Config) (program : Handle) (p : Programs) : Programs :=
  if config.windows then saveProgramNumber program p else p

/-- The combined source is hashed before anything is injected. -/
def sourceHash (config : Config) (singleString : Bytes) : UInt64 :=
  if config.combinesProgramString then computeHash (some singleString) else 0

/-- The first binary is hashed; `none` where the application gave no lengths, no binaries or a null
first one. -/
def binaryHash (config : Config) (binary : Option Bytes) : UInt64 :=
  if config.computesBinaryHash then computeHash binary else 0

/-- An empty IL is not hashed. -/
def spirvHash (config : Config) (il : Option Bytes) : UInt64 :=
  if config.computesSPIRVHash && il.any (!·.isEmpty) then computeHash il else 0

def saveHash (config : Config) (program : Handle) (hash : UInt64) (p : Programs) : Programs :=
  if config.savesProgramHash then saveProgramHash program hash p else p

/-- `DUMP_PROGRAM_SOURCE`, and then the hash. `program` is what the driver answers; `injected` says
whether other source was put in the place of the application's. -/
def clCreateProgramWithSource (config : Config) (program : Handle) (singleString : Bytes)
    (injected : Bool) (p : Programs) : Programs :=
  let p :=
    if config.dumpProgramSource || config.autoCreateSPIRV then dumpProgramSource program p
    else if !injected && (config.simpleDumpProgramSource || config.dumpProgramSourceScript) then
      dumpProgramSourceScript config program p
    else saveProgramNumber program p
  saveHash config program (sourceHash config singleString) p

def clCreateProgramWithBinary (config : Config) (program : Handle) (binary : Option Bytes)
    (p : Programs) : Programs :=
  let p :=
    if config.dumpInputProgramBinaries then dumpInputProgramBinaries program p
    else saveProgramNumber program p
  saveHash config program (binaryHash config binary) p

def clCreateProgramWithIL (config : Config) (program : Handle) (il : Option Bytes) (p : Programs) :
    Programs :=
  let p :=
    if config.dumpProgramSPIRV then dumpProgramSPIRV program p else saveProgramNumber program p
  saveHash config program (spirvHash config il) p

/-- Nothing is recorded of a program with built-in kernels. -/
def clCreateProgramWithBuiltInKernels (_program : Handle) (p : Programs) : Programs := p

/-! ## Building programs -/

def saveOptionsHash (config : Config) (program : Handle) (options : Option Bytes) (p : Programs) :
    Programs :=
  if config.savesProgramHash then saveProgramOptionsHash program options p else p

def incrementCompileCount (config : Config) (program : Handle) (p : Programs) : Programs :=
  if program ≠ null && config.incrementsCompileCount then incrementProgramCompileCount program p
  else p

/-- Whatever the driver answers, the options are recorded and the build is counted. -/
def clBuildProgram (config : Config) (program : Handle) (options : Option Bytes) (p : Programs) :
    Programs :=
  incrementCompileCount config program (saveOptionsHash config program options p)

def clCompileProgram (config : Config) (program : Handle) (options : Option Bytes) (p : Programs) :
    Programs :=
  incrementCompileCount config program (saveOptionsHash config program options p)

/-- A linked program gets no program hash. -/
def clLinkProgram (config : Config) (program : Handle) (options : Option Bytes) (p : Programs) :
    Programs :=
  let p := saveProgramNumber program p
  incrementCompileCount config program (saveOptionsHash config program options p)

/-! ## Kernels -/

section

variable (demangle : String → String)

/-- The info of a kernel made of the info of its program. The count is of builds, the index of the
last one is one less. -/
def kernelInfoOf (config : Config) (info : SProgramInfo) (kernelName : String) : SKernelInfo where
  kernelName := if config.demangleKernelNames then demangle kernelName else kernelName
  programHash := info.programHash
  optionsHash := info.optionsHash
  programNumber := info.programNumber
  compileCount := info.compileCount - 1

def addKernelInfo (config : Config) (kernel program : Handle) (kernelName : String)
    (p : Programs) : Programs :=
  let info := kernelInfoOf demangle config (p.programInfoMap program) kernelName
  { p with kernelInfoMap := Function.update p.kernelInfoMap kernel (some info) }

/-- The kernels of a program, from the last to the first, each with its name if the queries for it
succeed. -/
def addKernelInfos (config : Config) (program : Handle) :
    List (Handle × Option String) → Programs → Programs
  | [], p => p
  | (kernel, some kernelName) :: rest, p =>
    addKernelInfo demangle config kernel program kernelName (addKernelInfos config program rest p)
  | (_, none) :: rest, p => addKernelInfos config program rest p

end

/-- The info of a clone is a copy. `operator[]` makes a default one of a source without. -/
def addKernelInfoClone (kernel sourceKernel : Handle) (p : Programs) : Programs :=
  let info := (p.kernelInfoMap sourceKernel).getD {}
  let m := Function.update p.kernelInfoMap sourceKernel (some info)
  { p with kernelInfoMap := Function.update m kernel (some info) }

/-- `refCount` is the answer to the reference count query, 0 where it fails. -/
def checkRemoveKernelInfo (kernel : Handle) (refCount : Nat) (p : Programs) : Programs :=
  if refCount = 1 then { p with kernelInfoMap := Function.update p.kernelInfoMap kernel none }
  else p

end CLIntercept.Track
