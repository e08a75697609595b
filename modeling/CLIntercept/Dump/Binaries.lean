import CLIntercept.Dump.SourceRuns
import CLIntercept.Lib.Text

/-!
# Dumping and injecting IL and binaries

A run with `DumpProgramSPIRV` writes the IL of every program that is created from one to a file, and
a run with `DumpProgramBinaries` writes a program's binaries after each of its builds, one for each
device. A later run with `InjectProgramSPIRV` or `InjectProgramBinaries` looks for such files when a
program is created, and takes them in the place of the application's IL or source.

`reproduced_iff` says when what one run wrote is what the other takes. IL is hashed for its dump
and, unless some other control asks for the hash, not for its injection, which then looks for the
hash 0. Binaries are looked for under a name that no dump of a binary ever has.
-/

set_option autoImplicit false

namespace CLIntercept.Dump

open CLIntercept.Lib CLIntercept.Track

/-! ## Names -/

/-- `CLI_<program number>_<hash>_0000`. -/
def zeroName (omitNumber : Bool) (n : UInt32) (hash : UInt64) : List String :=
  "CLI" :: numberField omitNumber n ++ [hashText hash, "0000"]

/-- `CLI_<program number>_<program hash>_<compile count>_<options hash>`. -/
def binaryName (omitNumber : Bool) (info : SProgramInfo) : List String :=
  "CLI" :: numberField omitNumber info.programNumber ++
    [hashText info.programHash, numberText info.compileCount, hashText info.optionsHash]

/-- What the bits of a `cl_device_type` add to a name. -/
def deviceFields (deviceType : UInt64) : List String :=
  (if deviceType &&& 0x2 ≠ 0 then ["CPU"] else []) ++
    (if deviceType &&& 0x4 ≠ 0 then ["GPU"] else []) ++
    (if deviceType &&& 0x8 ≠ 0 then ["ACC"] else []) ++
    (if deviceType &&& 0x10 ≠ 0 then ["CUSTOM"] else [])

/-! ## Writing -/

/-- A file that was written, with its name taken apart. -/
structure Written where
  directory : String := ""
  fields : List String
  extension : String
  bytes : Bytes
  deriving DecidableEq, Repr

namespace Written

def path (w : Written) : String := file w.directory w.fields ++ w.extension

/-- Where a copy of it is put to be injected. -/
def copy (w : Written) : String := file "/Inject" w.fields ++ w.extension

end Written

/-- The file that `dumpProgramSPIRV` writes, of the IL that the driver got. -/
def dumpProgramSPIRV (config : Config) (modified : Bool) (hash : UInt64) (il : Option Bytes)
    (p : Programs) : Written where
  directory := dumpDirectory modified
  fields := zeroName config.omitProgramNumber p.programNumber hash
  extension := ".spv"
  bytes := il.getD []

/-- The files that `dumpProgramBinary` writes, of the types and the binaries of the program's
devices. There are none if a query for them fails. -/
def dumpProgramBinary (config : Config) (info : SProgramInfo)
    (binaries : Option (List (UInt64 × Bytes))) : List Written :=
  (binaries.getD []).map fun binary =>
    { fields := binaryName config.omitProgramNumber info ++ deviceFields binary.1,
      extension := ".bin", bytes := binary.2 }

/-! ## Looking for files -/

/-- The two names that are tried, without the directory's. -/
def candidates (hash : UInt64) (p : Programs) (suffix : List String) (extension : String) :
    List String :=
  [file "/Inject" (zeroName false p.programNumber hash ++ suffix) ++ extension,
    file "/Inject" (zeroName true p.programNumber hash ++ suffix) ++ extension]

/-- The first of some files that is there. -/
def firstOpened (files : Files) (paths : List String) : Option (String × Bytes) :=
  paths.findSome? fun path => (files path).map (path, ·)

def injectProgramSPIRV (files : Files) (hash : UInt64) (p : Programs) : Option (String × Bytes) :=
  firstOpened files (candidates hash p [] ".spv")

/-- One file for each device of the context, by the devices' types, if all of them are there. -/
def createProgramWithInjectionBinaries (files : Files) (hash : UInt64)
    (devices : Option (List UInt64)) (p : Programs) : Option (List (String × Bytes)) :=
  devices.bind fun deviceTypes =>
    deviceTypes.mapM fun deviceType =>
      firstOpened files (candidates hash p (deviceFields deviceType) ".bin")

/-! ## The application's calls -/

/-- The calls that create, build and release programs. A linked program is a new one. -/
inductive BinaryCall where
  | program (call : ProgramCall)
  | clLinkProgram (options : Option Bytes)
  deriving DecidableEq, Repr

def BinaryCall.creates : BinaryCall → Bool
  | program call => call.creates
  | clLinkProgram _ => true

/-- What the driver answers: the program of a creation, the types of the context's devices, and
those of the program's devices with the binaries, each unless the query fails. -/
structure Answer where
  program : Handle := null
  devices : Option (List UInt64) := none
  binaries : Option (List (UInt64 × Bytes)) := none
  deriving DecidableEq, Repr

section

variable (config : Config) (files : Files) (s : Session)

/-- The file that the IL of a program is taken from. -/
def openedIL (il : Option Bytes) : Option (String × Bytes) :=
  if config.injectProgramSPIRV then injectProgramSPIRV files (spirvHash config il) s.programs
  else none

/-- What the driver's `clCreateProgramWithIL` gets. -/
def handedIL (il : Option Bytes) : Option Bytes :=
  match openedIL config files s il with
  | some (_, bytes) => some bytes
  | none => il

/-- The files that the driver's `clCreateProgramWithBinary` gets in the place of source. -/
def openedBinaries (singleString : Bytes) (devices : Option (List UInt64)) :
    Option (List (String × Bytes)) :=
  if config.injectProgramBinaries then
    createProgramWithInjectionBinaries files (sourceHash config singleString) devices s.programs
  else none

/-- The files that a call takes its program from, with the bytes that the driver gets. -/
def taken (call : BinaryCall × Answer) : List (String × Bytes) :=
  match call.1 with
  | .program (.clCreateProgramWithIL il) => (openedIL config files s il).toList
  | .program (.clCreateProgramWithSource singleString) =>
    (openedBinaries config files s singleString call.2.devices).getD []
  | _ => []

/-- The info of a program that was just linked. -/
def linkedInfo (options : Option Bytes) (program : Handle) : SProgramInfo :=
  (saveOptionsHash config program options
    (saveProgramNumber program s.programs)).programInfoMap program

/-- The IL and the binaries that a call writes. -/
def writes (call : BinaryCall × Answer) : List Written :=
  match call.1 with
  | .program (.clCreateProgramWithIL il) =>
    if config.dumpProgramSPIRV then
      [dumpProgramSPIRV config (openedIL config files s il).isSome (spirvHash config il)
        (handedIL config files s il) s.programs]
    else []
  | .program (.clBuildProgram k options) | .program (.clCompileProgram k options) =>
    if config.dumpProgramBinaries then
      dumpProgramBinary config (s.infoOf config k options) call.2.binaries
    else []
  | .clLinkProgram options =>
    if config.dumpProgramBinaries then
      dumpProgramBinary config (linkedInfo config s options call.2.program) call.2.binaries
    else []
  | _ => []

end

def binaryStep (config : Config) (files : Files) (s : Session) (call : BinaryCall × Answer) :
    Session :=
  match call.1 with
  | .program c => programStep config (fun path => (files path).isSome) s (c, call.2.program)
  | .clLinkProgram options =>
    { s with
      programs := clLinkProgram config call.2.program options s.programs
      handles := s.handles ++ [call.2.program] }

def binarySystem (config : Config) (files : Files) : System Session (BinaryCall × Answer) where
  step := binaryStep config files
  legal _ _ := True

/-! ## Two runs -/

section

variable (config : Config) (files : Files) (run : List (BinaryCall × Answer)) (i : Nat)

/-- Before a call of a run. -/
def binarySessionAt : Session := (binarySystem config files).exec {} (run.take i)

def takenAt : List (String × Bytes) :=
  run[i]?.elim [] (taken config files (binarySessionAt config files run i))

def writtenAt : List Written :=
  run[i]?.elim [] (writes config files (binarySessionAt config files run i))

/-- What the driver's `clCreateProgramWithIL` gets in a call. -/
def handedAt : Option Bytes :=
  run[i]?.bind fun call =>
    match call.1 with
    | .program (.clCreateProgramWithIL il) =>
      handedIL config files (binarySessionAt config files run i) il
    | _ => none

/-- The creations before a call. -/
def creationsBefore : Nat := ((run.map Prod.fst).take i).countP (·.creates)

end

/-- A directory with copies of some files and nothing else. -/
def copies (written : List Written) : Files := fun path =>
  (written.find? (·.copy = path)).map (·.bytes)

/-- A call takes its program from the copies of some files, in whatever order, and the driver gets
exactly their bytes. -/
def Reproduced (config : Config) (files : Files) (run : List (BinaryCall × Answer)) (i : Nat)
    (written : List Written) : Prop :=
  (takenAt config files run i).Perm (written.map fun w => (w.copy, w.bytes))

/-- The hash of an IL, whether or not the controls ask for it. -/
def ilHash (il : Option Bytes) : UInt64 := if il.any (!·.isEmpty) then computeHash il else 0

/-- `InjectProgramSPIRV` is the only control that dumps or injects. -/
def InjectsOnlySPIRV (config : Config) : Prop :=
  config.injectProgramSPIRV = true ∧
    { config with injectProgramSPIRV := false }.dumpsOrInjects = false

/-- `InjectProgramBinaries` is the only control that dumps or injects. -/
def InjectsOnlyBinaries (config : Config) : Prop :=
  config.injectProgramBinaries = true ∧
    { config with injectProgramBinaries := false }.dumpsOrInjects = false

/-- The IL of a program is found again: the second run hashes it for some other reason, or the low
half of the hash is 0; and the first run has numbered all creations or, if it has left the numbers
out, there is no file with a number that is tried before. -/
def FoundAgain (config₁ config₂ : Config) (files₁ files₂ : Files)
    (run₁ : List (BinaryCall × Answer)) (i : Nat) (il : Option Bytes) : Prop :=
  (config₂.buildLogging ∨ config₂.kernelNameHashTracking ∨ config₂.aubCaptureUniqueKernels ∨
    config₂.captureReplay ∨ (ilHash il).toUInt32 = 0) ∧
  if config₁.omitProgramNumber then
    files₂ (file "/Inject" (zeroName false (UInt32.ofNat (creationsBefore run₁ i)) (ilHash il)) ++
      ".spv") = none
  else
    (binarySessionAt config₁ files₁ run₁ i).programs.programNumber =
      UInt32.ofNat (creationsBefore run₁ i)

/-! ## Names are told apart -/

/-- A name has the low half of the hash. -/
theorem hashText_inj {hash hash' : UInt64} :
    hashText hash = hashText hash' ↔ hash.toUInt32 = hash'.toUInt32 := by
  constructor
  · intro h
    exact UInt32.toNat_inj.mp (number_inj (by decide) (by decide) h)
  · intro h
    rw [hashText, h]
    rfl

/-- A hash is printed with eight digits at least. -/
theorem length_hashText (hash : UInt64) : 8 ≤ (hashText hash).toList.length :=
  le_length_number 8 _

/-- No hash is taken for the four zeros of an unbuilt program. -/
theorem hashText_ne_zeros (hash : UInt64) : hashText hash ≠ "0000" := by
  intro h
  have hlength := length_hashText hash
  rw [h] at hlength
  exact absurd hlength (by decide)

/-- The types that a name may tell. -/
theorem mem_deviceFields {deviceType : UInt64} {x : String} (h : x ∈ deviceFields deviceType) :
    x = "CPU" ∨ x = "GPU" ∨ x = "ACC" ∨ x = "CUSTOM" := by
  simp only [deviceFields, List.mem_append, List.mem_ite_nil_right, List.mem_singleton] at h
  rcases h with ((⟨-, h⟩ | ⟨-, h⟩) | ⟨-, h⟩) | ⟨-, h⟩ <;> simp [h]

/-- No hash is taken for a type of device. -/
theorem hashText_notMem_deviceFields (hash : UInt64) (deviceType : UInt64) :
    hashText hash ∉ deviceFields deviceType := by
  intro h
  have hlength := length_hashText hash
  rcases mem_deviceFields h with h | h | h | h <;> rw [h] at hlength <;>
    exact absurd hlength (by decide)

/-- The types are fields without a separator. -/
theorem plain_deviceFields {xs : List String} (h : Plain xs) (deviceType : UInt64) :
    Plain (xs ++ deviceFields deviceType) := by
  refine ⟨by simp [h.1], fun x hx => ?_⟩
  rcases List.mem_append.mp hx with hx | hx
  · exact h.2 x hx
  · rcases mem_deviceFields hx with rfl | rfl | rfl | rfl <;> decide

/-- The name of a program that was not built yet is made of plain fields. -/
theorem plain_zeroName (omitNumber : Bool) (n : UInt32) (hash : UInt64) :
    Plain (zeroName omitNumber n hash) := by
  refine ⟨by simp [zeroName], fun x hx => ?_⟩
  simp only [zeroName, List.cons_append, List.mem_cons, List.mem_append, List.not_mem_nil,
    or_false] at hx
  rcases hx with rfl | hx | rfl | rfl
  · decide
  · exact plain_numberField _ _ x hx
  · exact underscore_notMem_hashText hash
  · decide

/-- The name of a program that was built is made of plain fields. -/
theorem plain_binaryName (omitNumber : Bool) (info : SProgramInfo) :
    Plain (binaryName omitNumber info) := by
  refine ⟨by simp [binaryName], fun x hx => ?_⟩
  simp only [binaryName, List.cons_append, List.mem_cons, List.mem_append, List.not_mem_nil,
    or_false] at hx
  rcases hx with rfl | hx | rfl | rfl | rfl
  · decide
  · exact plain_numberField _ _ x hx
  · exact underscore_notMem_hashText _
  · exact underscore_notMem_numberText _
  · exact underscore_notMem_hashText _

/-- Plain fields can be read off a path. -/
theorem path_inj {directory extension : String} {xs ys : List String} (hx : Plain xs)
    (hy : Plain ys) :
    file directory xs ++ extension = file directory ys ++ extension ↔ xs = ys := by
  constructor
  · intro h
    have hchars := congrArg String.toList h
    rw [String.toList_append, String.toList_append] at hchars
    exact file_inj hx hy (String.toList_inj.mp (List.append_cancel_right hchars))
  · intro h
    rw [h]

section

variable {n n' : UInt32} {hash hash' : UInt64} {omitNumber omitNumber' : Bool}

/-- With its number, a name tells the program and the hash. -/
theorem zeroName_inj :
    zeroName false n hash = zeroName false n' hash' ↔ n = n' ∧ hash.toUInt32 = hash'.toUInt32 := by
  rw [← hashText_inj]
  constructor
  · intro h
    simp only [zeroName, numberField, Bool.false_eq_true, if_false, List.cons_append,
      List.nil_append, List.cons.injEq] at h
    exact ⟨numberText_inj h.2.1, h.2.2.1⟩
  · rintro ⟨rfl, h⟩
    simp [zeroName, h]

/-- Without it, only the hash. -/
theorem zeroName_omit_inj :
    zeroName true n hash = zeroName true n' hash' ↔ hash.toUInt32 = hash'.toUInt32 := by
  rw [← hashText_inj]
  simp [zeroName, numberField]

/-- A name with a number is none without. -/
theorem zeroName_omit_ne : zeroName true n hash ≠ zeroName false n' hash' := by
  intro h
  have hlength := congrArg List.length h
  simp [zeroName, numberField] at hlength

/-- **Binaries are looked for where none is dumped.** With as many numbers in both names, the hash
of the options stands where a device type should; else the hash of the program, or of the options,
stands where the zeros should. -/
theorem binaryName_ne_zeroName (info : SProgramInfo) (deviceType deviceType' : UInt64) :
    binaryName omitNumber info ++ deviceFields deviceType ≠
      zeroName omitNumber' n hash ++ deviceFields deviceType' := by
  intro h
  cases omitNumber <;> cases omitNumber' <;>
    simp only [binaryName, zeroName, numberField, Bool.false_eq_true, if_false, if_true,
      List.cons_append, List.nil_append, List.cons.injEq] at h
  · exact hashText_notMem_deviceFields _ _ (h.2.2.2.2 ▸ List.mem_cons_self)
  · exact hashText_ne_zeros _ h.2.2.1
  · exact hashText_ne_zeros _ h.2.2.2.1
  · exact hashText_notMem_deviceFields _ _ (h.2.2.2 ▸ List.mem_cons_self)

end

/-! ## Numbers -/

section

variable {config : Config} {files : Files}

theorem programNumber_saveHash (program : Handle) (hash : UInt64) (p : Programs) :
    (saveHash config program hash p).programNumber = p.programNumber := by
  unfold saveHash saveProgramHash
  split
  · split <;> rfl
  · rfl

theorem programNumber_saveOptionsHash (program : Handle) (options : Option Bytes) (p : Programs) :
    (saveOptionsHash config program options p).programNumber = p.programNumber := by
  unfold saveOptionsHash
  split
  · exact programNumber_saveProgramOptionsHash program options p
  · rfl

theorem programNumber_incrementCompileCount (program : Handle) (p : Programs) :
    (incrementCompileCount config program p).programNumber = p.programNumber := by
  unfold incrementCompileCount
  split <;> rfl

/-- Without the controls that write a script, every creation takes a number. -/
theorem programNumber_step (hsimple : config.simpleDumpProgramSource = false)
    (hscript : config.dumpProgramSourceScript = false) (s : Session)
    (call : BinaryCall × Answer) :
    ((binarySystem config files).step s call).programs.programNumber =
      s.programs.programNumber + if call.1.creates then 1 else 0 := by
  obtain ⟨call, answer⟩ := call
  cases call with
  | clLinkProgram options =>
    show (clLinkProgram config answer.program options s.programs).programNumber = _
    rw [clLinkProgram, programNumber_incrementCompileCount, programNumber_saveOptionsHash]
    rfl
  | program call =>
    cases call with
    | clCreateProgramWithSource singleString =>
      show (clCreateProgramWithSource config _ singleString _ s.programs).programNumber = _
      rw [clCreateProgramWithSource, programNumber_saveHash]
      simp only [hsimple, hscript, Bool.or_self, Bool.and_false, Bool.false_eq_true, if_false]
      split <;> rfl
    | clCreateProgramWithIL il =>
      show (clCreateProgramWithIL config _ il s.programs).programNumber = _
      rw [clCreateProgramWithIL, programNumber_saveHash]
      split <;> rfl
    | clCreateProgramWithBinary binary =>
      show (clCreateProgramWithBinary config _ binary s.programs).programNumber = _
      rw [clCreateProgramWithBinary, programNumber_saveHash]
      split <;> rfl
    | clBuildProgram k options =>
      show (clBuildProgram config _ options s.programs).programNumber = _
      rw [clBuildProgram, programNumber_incrementCompileCount, programNumber_saveOptionsHash]
      exact (UInt32.add_zero _).symm
    | clCompileProgram k options =>
      show (clCompileProgram config _ options s.programs).programNumber = _
      rw [clCompileProgram, programNumber_incrementCompileCount, programNumber_saveOptionsHash]
      exact (UInt32.add_zero _).symm
    | clReleaseProgram k => exact (UInt32.add_zero _).symm

/-- The next number counts the creations. -/
theorem programNumber_exec (hsimple : config.simpleDumpProgramSource = false)
    (hscript : config.dumpProgramSourceScript = false) (s : Session)
    (run : List (BinaryCall × Answer)) :
    ((binarySystem config files).exec s run).programs.programNumber =
      s.programs.programNumber + UInt32.ofNat ((run.map Prod.fst).countP (·.creates)) := by
  induction run generalizing s with
  | nil => exact (UInt32.add_zero _).symm
  | cons call run ih =>
    rw [System.exec, List.foldl_cons, ← System.exec, ih, programNumber_step hsimple hscript,
      List.map_cons, List.countP_cons, UInt32.add_assoc]
    congr 1
    cases call.1.creates
    · simp
    · rw [if_pos rfl, if_pos rfl, UInt32.ofNat_add, UInt32.add_comm]
      rfl

/-- At a place of the run: the creations before it. -/
theorem programNumber_binarySessionAt (hsimple : config.simpleDumpProgramSource = false)
    (hscript : config.dumpProgramSourceScript = false) (run : List (BinaryCall × Answer))
    (i : Nat) :
    (binarySessionAt config files run i).programs.programNumber =
      UInt32.ofNat (creationsBefore run i) := by
  rw [binarySessionAt, programNumber_exec hsimple hscript, creationsBefore, List.map_take]
  exact UInt32.zero_add _

end

/-! ## What is found again -/

section

variable {config config₁ config₂ : Config} {files files₁ files₂ : Files}
  {run run₁ run₂ : List (BinaryCall × Answer)} {i : Nat}

/-- Two runs of the same calls. -/
theorem call_of_same (hsame : run₂.map Prod.fst = run₁.map Prod.fst) {call : BinaryCall}
    (hcall : (run₁.map Prod.fst)[i]? = some call) : ∃ answer, run₂[i]? = some (call, answer) := by
  rw [← hsame, List.getElem?_map, Option.map_eq_some_iff] at hcall
  obtain ⟨⟨call', answer⟩, hi, rfl⟩ := hcall
  exact ⟨answer, hi⟩

/-- The hash of a SPIR-V module, where one is computed. -/
theorem spirvHash_eq (config : Config) (il : Option Bytes) :
    spirvHash config il = if config.computesSPIRVHash then ilHash il else 0 := by
  unfold spirvHash ilHash
  cases config.computesSPIRVHash <;> simp

/-- The two runs look at the same low half of the hash. -/
theorem spirvHash_agree (hdump : config₁.dumpProgramSPIRV = true)
    (honly : InjectsOnlySPIRV config₂) (il : Option Bytes) :
    (spirvHash config₂ il).toUInt32 = (spirvHash config₁ il).toUInt32 ↔
      (config₂.buildLogging ∨ config₂.kernelNameHashTracking ∨ config₂.aubCaptureUniqueKernels ∨
        config₂.captureReplay ∨ (ilHash il).toUInt32 = 0) := by
  have hcomputes₁ : config₁.computesSPIRVHash = true := by
    simp [Config.computesSPIRVHash, hdump]
  have hcomputes₂ : config₂.computesSPIRVHash = true ↔ config₂.buildLogging ∨
      config₂.kernelNameHashTracking ∨ config₂.aubCaptureUniqueKernels ∨
        config₂.captureReplay := by
    have hother := honly.2
    simp only [Config.dumpsOrInjects, Bool.or_eq_false_iff] at hother
    simp [Config.computesSPIRVHash, hother, or_assoc]
  rw [spirvHash_eq, spirvHash_eq, if_pos hcomputes₁]
  by_cases h : config₂.computesSPIRVHash = true
  · rw [if_pos h]
    refine iff_of_true rfl ?_
    rcases hcomputes₂.mp h with h | h | h | h <;> simp [h]
  · rw [if_neg h]
    have hnone := mt hcomputes₂.mpr h
    simp only [not_or] at hnone
    have hzero : (0 : UInt64).toUInt32 = 0 := rfl
    rw [hzero, eq_comm]
    simp [hnone]

/-- The second path is tried if the first has no file. -/
theorem firstOpened_iff {a b path : String} {bytes : Bytes} (h : files path = some bytes) :
    firstOpened files [a, b] = some (path, bytes) ↔ a = path ∨ files a = none ∧ b = path := by
  simp only [firstOpened, List.findSome?_cons, List.findSome?_nil]
  cases ha : files a with
  | some bytes' =>
    constructor
    · intro heq
      cases heq
      exact .inl rfl
    · rintro (rfl | ⟨hnone, -⟩)
      · rw [← ha, h]
        rfl
      · cases hnone
  | none =>
    have hne : a ≠ path := by
      rintro rfl
      rw [h] at ha
      cases ha
    cases hb : files b with
    | some bytes' =>
      constructor
      · intro heq
        cases heq
        exact .inr ⟨rfl, rfl⟩
      · rintro (heq | ⟨-, rfl⟩)
        · exact absurd heq hne
        · rw [← hb, h]
          rfl
    | none =>
      refine ⟨fun heq => (nomatch heq), ?_⟩
      rintro (heq | ⟨-, rfl⟩)
      · exact absurd heq hne
      · rw [h] at hb
        cases hb

/-- The answers of the driver do not change how many programs are created. -/
theorem creationsBefore_same (hsame : run₂.map Prod.fst = run₁.map Prod.fst) (i : Nat) :
    creationsBefore run₂ i = creationsBefore run₁ i := by
  rw [creationsBefore, hsame, creationsBefore]

/-- **The names agree** where the hashes and the numbers do. -/
theorem injectProgramSPIRV_iff {omitNumber : Bool} {n : UInt32} {hash : UInt64} {w : Written}
    (hash' : UInt64) (p : Programs) (hfields : w.fields = zeroName omitNumber n hash)
    (hextension : w.extension = ".spv") (hcopied : files w.copy = some w.bytes) :
    injectProgramSPIRV files hash' p = some (w.copy, w.bytes) ↔
      hash'.toUInt32 = hash.toUInt32 ∧
        if omitNumber then
          files (file "/Inject" (zeroName false p.programNumber hash) ++ ".spv") = none
        else n = p.programNumber := by
  have hcopy : w.copy = file "/Inject" (zeroName omitNumber n hash) ++ ".spv" := by
    rw [Written.copy, hfields, hextension]
  rw [hcopy] at hcopied ⊢
  rw [injectProgramSPIRV, candidates, firstOpened_iff hcopied, List.append_nil, List.append_nil,
    path_inj (plain_zeroName _ _ _) (plain_zeroName _ _ _),
    path_inj (plain_zeroName _ _ _) (plain_zeroName _ _ _)]
  cases omitNumber with
  | false =>
    rw [zeroName_inj, if_neg Bool.false_ne_true]
    constructor
    · rintro (⟨hn, hhash⟩ | ⟨-, hname⟩)
      · exact ⟨hhash, hn.symm⟩
      · exact absurd hname zeroName_omit_ne
    · rintro ⟨hhash, hn⟩
      exact .inl ⟨hn.symm, hhash⟩
  | true =>
    rw [zeroName_omit_inj, if_pos rfl]
    have hsame : hash'.toUInt32 = hash.toUInt32 →
        zeroName false p.programNumber hash' = zeroName false p.programNumber hash :=
      fun h => zeroName_inj.mpr ⟨rfl, h⟩
    constructor
    · rintro (hname | ⟨hnone, hhash⟩)
      · exact absurd hname.symm zeroName_omit_ne
      · exact ⟨hhash, hsame hhash ▸ hnone⟩
    · rintro ⟨hhash, hnone⟩
      exact .inr ⟨(hsame hhash).symm ▸ hnone, hhash⟩

/-- A program from SPIR-V is dumped under its number and the hash of its code. -/
theorem writtenAt_il (files : Files) (hdump : config.dumpProgramSPIRV = true) {il : Option Bytes}
    (hcall : (run.map Prod.fst)[i]? = some (.program (.clCreateProgramWithIL il))) :
    ∃ w, writtenAt config files run i = [w] ∧ w.extension = ".spv" ∧
      w.fields = zeroName config.omitProgramNumber
        (binarySessionAt config files run i).programs.programNumber (ilHash il) := by
  obtain ⟨answer, hi⟩ := call_of_same rfl hcall
  have hhash : spirvHash config il = ilHash il := by
    rw [spirvHash_eq, if_pos]
    simp [Config.computesSPIRVHash, hdump]
  rw [writtenAt, hi, ← hhash]
  exact ⟨_, if_pos hdump, rfl, rfl⟩

/-- An injected module is looked for under the hash that was computed. -/
theorem takenAt_il (files : Files) (hinject : config.injectProgramSPIRV = true) {il : Option Bytes}
    (hcall : (run.map Prod.fst)[i]? = some (.program (.clCreateProgramWithIL il))) :
    takenAt config files run i = (injectProgramSPIRV files (spirvHash config il)
      (binarySessionAt config files run i).programs).toList := by
  obtain ⟨answer, hi⟩ := call_of_same rfl hcall
  rw [takenAt, hi]
  show (openedIL config files _ il).toList = _
  rw [openedIL, if_pos hinject]

/-- The IL of one program. -/
theorem reproduced_il_iff (hsame : run₂.map Prod.fst = run₁.map Prod.fst)
    (hdump : config₁.dumpProgramSPIRV = true) (honly : InjectsOnlySPIRV config₂)
    {il : Option Bytes}
    (hcall : (run₁.map Prod.fst)[i]? = some (.program (.clCreateProgramWithIL il)))
    (hcopied : ∀ w ∈ writtenAt config₁ files₁ run₁ i, files₂ w.copy = some w.bytes) :
    Reproduced config₂ files₂ run₂ i (writtenAt config₁ files₁ run₁ i) ↔
      FoundAgain config₁ config₂ files₁ files₂ run₁ i il := by
  have hother := honly.2
  simp only [Config.dumpsOrInjects, Bool.or_eq_false_iff] at hother
  have hnumber : (binarySessionAt config₂ files₂ run₂ i).programs.programNumber =
      UInt32.ofNat (creationsBefore run₁ i) := by
    rw [programNumber_binarySessionAt (by simp [hother]) (by simp [hother]),
      creationsBefore_same hsame]
  obtain ⟨w, hw, hextension, hfields⟩ := writtenAt_il files₁ hdump hcall
  rw [hw] at hcopied ⊢
  have htaken := takenAt_il files₂ honly.1 (hsame ▸ hcall)
  have hone := injectProgramSPIRV_iff (spirvHash config₂ il)
    (binarySessionAt config₂ files₂ run₂ i).programs hfields hextension
    (hcopied w List.mem_cons_self)
  have hcomputed : spirvHash config₁ il = ilHash il := by
    rw [spirvHash_eq, if_pos]
    simp [Config.computesSPIRVHash, hdump]
  rw [Reproduced, htaken, List.map_singleton, List.perm_singleton, Option.toList_eq_singleton_iff,
    hone, FoundAgain, ← spirvHash_agree hdump honly, hcomputed, hnumber]

/-- What is opened is one of the paths that were tried. -/
theorem mem_of_firstOpened {paths : List String} {opened : String × Bytes}
    (h : firstOpened files paths = some opened) : opened.1 ∈ paths := by
  obtain ⟨path, hpath, hopened⟩ := List.exists_of_findSome?_eq_some h
  obtain ⟨bytes, -, rfl⟩ := Option.map_eq_some_iff.mp hopened
  exact hpath

/-- What is opened in the place of source is named with the zeros. -/
theorem opened_name {s : Session} {singleString : Bytes} {devices : Option (List UInt64)}
    {opened : String × Bytes}
    (h : opened ∈ (openedBinaries config files s singleString devices).getD []) :
    ∃ omitNumber n hash deviceType,
      opened.1 = file "/Inject" (zeroName omitNumber n hash ++ deviceFields deviceType) ++
        ".bin" := by
  unfold openedBinaries at h
  split at h
  · cases hall : createProgramWithInjectionBinaries files (sourceHash config singleString) devices
        s.programs with
    | none =>
      rw [hall] at h
      cases h
    | some all =>
      rw [hall] at h
      obtain ⟨deviceTypes, -, hmap⟩ := Option.bind_eq_some_iff.mp hall
      obtain ⟨deviceType, -, hopened⟩ := (mem_mapM hmap _).mp h
      have hmem := mem_of_firstOpened hopened
      simp only [candidates, List.mem_cons, List.not_mem_nil, or_false] at hmem
      rcases hmem with hmem | hmem
      · exact ⟨_, _, _, _, hmem⟩
      · exact ⟨_, _, _, _, hmem⟩
  · cases h

/-- What a build writes is named with the number of builds and the hash of the options. -/
theorem written_name {s : Session} {c : ProgramCall} {k : Nat} (hc : c.builds k = true)
    {answer : Answer} {w : Written} (h : w ∈ writes config files s (.program c, answer)) :
    ∃ omitNumber info deviceType, w.fields = binaryName omitNumber info ++ deviceFields deviceType ∧
      w.extension = ".bin" := by
  have hdumped : ∀ info, w ∈ dumpProgramBinary config info answer.binaries →
      ∃ omitNumber info deviceType, w.fields = binaryName omitNumber info ++
        deviceFields deviceType ∧ w.extension = ".bin" := by
    intro info hw
    obtain ⟨binary, -, rfl⟩ := List.mem_map.mp hw
    exact ⟨_, _, _, rfl, rfl⟩
  cases c with
  | clBuildProgram k options =>
    replace h : w ∈ if config.dumpProgramBinaries then _ else _ := h
    split at h
    · exact hdumped _ h
    · cases h
  | clCompileProgram k options =>
    replace h : w ∈ if config.dumpProgramBinaries then _ else _ := h
    split at h
    · exact hdumped _ h
    · cases h
  | clCreateProgramWithSource singleString => cases hc
  | clCreateProgramWithIL il => cases hc
  | clCreateProgramWithBinary binary => cases hc
  | clReleaseProgram k => cases hc

theorem copies_singleton (w : Written) : copies [w] w.copy = some w.bytes := by
  simp [copies]

/-- With the one file there, the driver gets its bytes or the application's. -/
theorem handedAt_iff (hsame : run₂.map Prod.fst = run₁.map Prod.fst)
    (hdump : config₁.dumpProgramSPIRV = true) (honly : InjectsOnlySPIRV config₂)
    {il : Option Bytes}
    (hcall : (run₁.map Prod.fst)[i]? = some (.program (.clCreateProgramWithIL il))) {w : Written}
    (hw : writtenAt config₁ files₁ run₁ i = [w]) :
    handedAt config₂ (copies [w]) run₂ i = some w.bytes ↔
      FoundAgain config₁ config₂ files₁ (copies [w]) run₁ i il ∨ il = some w.bytes := by
  have hcopied : ∀ w' ∈ writtenAt config₁ files₁ run₁ i, copies [w] w'.copy = some w'.bytes := by
    intro w' hw'
    rw [hw, List.mem_singleton] at hw'
    subst hw'
    exact copies_singleton w'
  rw [← reproduced_il_iff hsame hdump honly hcall hcopied, Reproduced, hw,
    takenAt_il _ honly.1 (hsame ▸ hcall), List.map_singleton, List.perm_singleton,
    Option.toList_eq_singleton_iff]
  obtain ⟨answer, hi⟩ := call_of_same hsame hcall
  rw [handedAt, hi, Option.bind_some]
  show handedIL config₂ (copies [w]) _ il = _ ↔ _
  rw [handedIL, openedIL, if_pos honly.1]
  cases hopened : injectProgramSPIRV (copies [w]) (spirvHash config₂ il)
      (binarySessionAt config₂ (copies [w]) run₂ i).programs with
  | none => simp
  | some opened =>
    obtain ⟨path, bytes⟩ := opened
    obtain ⟨path', -, hfound⟩ := List.exists_of_findSome?_eq_some hopened
    obtain ⟨bytes', hbytes, heq⟩ := Option.map_eq_some_iff.mp hfound
    cases heq
    obtain ⟨w', hfind, rfl⟩ := Option.map_eq_some_iff.mp hbytes
    obtain rfl : w' = w := List.mem_singleton.mp (List.mem_of_find?_eq_some hfind)
    obtain rfl : w'.copy = path := by simpa using List.find?_some hfind
    simp

/-- The binaries of one program. -/
theorem not_reproduced_binaries {singleString : Bytes}
    (hcall : (run₂.map Prod.fst)[i]? = some (.program (.clCreateProgramWithSource singleString)))
    {written : List Written} (hne : written ≠ [])
    (hwritten : ∀ w ∈ written, ∃ j k c, (run₁.map Prod.fst)[j]? = some (.program c) ∧
      c.builds k = true ∧ w ∈ writtenAt config₁ files₁ run₁ j) :
    ¬Reproduced config₂ files₂ run₂ i written := by
  intro h
  obtain ⟨w, hw⟩ := List.exists_mem_of_ne_nil written hne
  obtain ⟨j, k, c, hj, hc, hmem⟩ := hwritten w hw
  obtain ⟨answer, hj⟩ := call_of_same rfl hj
  rw [writtenAt, hj] at hmem
  obtain ⟨omitNumber, info, deviceType, hfields, hextension⟩ := written_name hc hmem
  have htaken : (w.copy, w.bytes) ∈ takenAt config₂ files₂ run₂ i :=
    h.mem_iff.mpr (List.mem_map_of_mem hw)
  obtain ⟨answer', hi⟩ := call_of_same rfl hcall
  rw [takenAt, hi] at htaken
  obtain ⟨omitNumber', n, hash, deviceType', hname⟩ := opened_name htaken
  replace hname : w.copy = _ := hname
  rw [Written.copy, hfields, hextension,
    path_inj (plain_deviceFields (plain_binaryName _ _) _)
      (plain_deviceFields (plain_zeroName _ _ _) _)] at hname
  exact binaryName_ne_zeroName info deviceType deviceType' hname

end

/-- **What one run wrote and the other takes.** The IL of a program is taken again exactly when it
is found under the hash that the second run has for it; when it is not, the driver gets the
application's. The binaries of a program are never taken, whatever is in the directory. -/
theorem reproduced_iff (config₁ config₂ : Config) (files₁ files₂ : Files)
    (run₁ run₂ : List (BinaryCall × Answer)) (hsame : run₂.map Prod.fst = run₁.map Prod.fst) :
    (config₁.dumpProgramSPIRV = true → InjectsOnlySPIRV config₂ → ∀ i il,
      (run₁.map Prod.fst)[i]? = some (.program (.clCreateProgramWithIL il)) →
        ((∀ w ∈ writtenAt config₁ files₁ run₁ i, files₂ w.copy = some w.bytes) →
          (Reproduced config₂ files₂ run₂ i (writtenAt config₁ files₁ run₁ i) ↔
            FoundAgain config₁ config₂ files₁ files₂ run₁ i il)) ∧
        ∀ w, writtenAt config₁ files₁ run₁ i = [w] →
          (handedAt config₂ (copies [w]) run₂ i = some w.bytes ↔
            FoundAgain config₁ config₂ files₁ (copies [w]) run₁ i il ∨ il = some w.bytes)) ∧
    (config₁.dumpProgramBinaries = true → InjectsOnlyBinaries config₂ → ∀ i singleString,
      (run₁.map Prod.fst)[i]? = some (.program (.clCreateProgramWithSource singleString)) →
        ∀ written ≠ [], (∀ w ∈ written, files₂ w.copy = some w.bytes ∧
          ∃ j c, (run₁.map Prod.fst)[j]? = some (.program c) ∧
            c.builds (creationsBefore run₁ i) = true ∧ w ∈ writtenAt config₁ files₁ run₁ j) →
          ¬Reproduced config₂ files₂ run₂ i written) := by
  constructor
  · intro hdump honly i il hcall
    exact ⟨reproduced_il_iff hsame hdump honly hcall,
      fun w hw => handedAt_iff hsame hdump honly hcall hw⟩
  · intro _ _ i singleString hcall written hne hw
    have hwritten : ∀ w ∈ written, ∃ j k c, (run₁.map Prod.fst)[j]? = some (.program c) ∧
        c.builds k = true ∧ w ∈ writtenAt config₁ files₁ run₁ j := by
      intro w hmem
      obtain ⟨-, j, c, hj, hc, hwrites⟩ := hw w hmem
      exact ⟨j, _, c, hj, hc, hwrites⟩
    exact not_reproduced_binaries (hsame ▸ hcall) hne hwritten

/-- IL is taken again by a run that logs builds. And the binaries of a build are not. -/
theorem reproduced_iff_runs :
    (let run : List (BinaryCall × Answer) :=
        [(.program (.clCreateProgramWithIL (some [3])), { program := 8 })]
      let written := writtenAt { dumpProgramSPIRV := true } (fun _ => none) run 0
      Reproduced { injectProgramSPIRV := true, buildLogging := true } (copies written) run 0
        written) ∧
    let run : List (BinaryCall × Answer) :=
      [(.program (.clCreateProgramWithSource [107]), { program := 8, devices := some [4] }),
        (.program (.clBuildProgram 0 none), { binaries := some [(4, [1, 2])] })]
    let written := writtenAt { dumpProgramBinaries := true } (fun _ => none) run 1
    ¬Reproduced { injectProgramBinaries := true } (copies written) run 0 written := by
  constructor
  · intro run written
    have htaken := (reproduced_iff { dumpProgramSPIRV := true }
      { injectProgramSPIRV := true, buildLogging := true } (fun _ => none) (copies written) run run
      rfl).1 rfl ⟨rfl, rfl⟩ 0 (some [3]) rfl
    refine (htaken.1 fun w hw => ?_).mpr ⟨.inl rfl, rfl⟩
    cases List.mem_singleton.mp hw
    exact copies_singleton _
  · intro run written
    have hnever := (reproduced_iff { dumpProgramBinaries := true } { injectProgramBinaries := true }
      (fun _ => none) (copies written) run run rfl).2 rfl ⟨rfl, rfl⟩ 0 [107] rfl
    refine hnever written (List.cons_ne_nil _ _) fun w hw => ⟨?_, 1, _, rfl, rfl, hw⟩
    cases List.mem_singleton.mp hw
    exact copies_singleton _

/-- IL that is dumped is not taken again, and where the first run had itself injected it, the driver
gets other bytes; nor are binaries. -/
theorem dumped_not_injected :
    (¬∀ (config₁ config₂ : Config) (files₁ : Files) (run₁ run₂ : List (BinaryCall × Answer))
        (i : Nat) (il : Option Bytes), config₁.dumpProgramSPIRV = true → InjectsOnlySPIRV config₂ →
      run₂.map Prod.fst = run₁.map Prod.fst →
      (run₁.map Prod.fst)[i]? = some (.program (.clCreateProgramWithIL il)) →
        Reproduced config₂ (copies (writtenAt config₁ files₁ run₁ i)) run₂ i
          (writtenAt config₁ files₁ run₁ i)) ∧
    (¬∀ (config₁ config₂ : Config) (files₁ : Files) (run₁ run₂ : List (BinaryCall × Answer))
        (i : Nat) (il : Option Bytes) (w : Written), config₁.dumpProgramSPIRV = true →
      InjectsOnlySPIRV config₂ → run₂.map Prod.fst = run₁.map Prod.fst →
      (run₁.map Prod.fst)[i]? = some (.program (.clCreateProgramWithIL il)) →
      writtenAt config₁ files₁ run₁ i = [w] →
        handedAt config₂ (copies [w]) run₂ i = some w.bytes) ∧
    ¬∀ (config₁ config₂ : Config) (files₁ : Files) (run₁ run₂ : List (BinaryCall × Answer))
        (i j : Nat) (singleString : Bytes) (c : ProgramCall), config₁.dumpProgramBinaries = true →
      InjectsOnlyBinaries config₂ → run₂.map Prod.fst = run₁.map Prod.fst →
      (run₁.map Prod.fst)[i]? = some (.program (.clCreateProgramWithSource singleString)) →
      (run₁.map Prod.fst)[j]? = some (.program c) → c.builds (creationsBefore run₁ i) = true →
        Reproduced config₂ (copies (writtenAt config₁ files₁ run₁ j)) run₂ i
          (writtenAt config₁ files₁ run₁ j) := by
  have hlost : ∀ {config₁ : Config} {files₁ files₂ : Files} {run : List (BinaryCall × Answer)},
      ¬FoundAgain config₁ { injectProgramSPIRV := true } files₁ files₂ run 0 (some [3]) := by
    intro config₁ files₁ files₂ run h
    rcases h.1 with h | h | h | h | h <;> exact absurd h (by decide)
  refine ⟨fun hclaim => ?_, fun hclaim => ?_, fun hclaim => ?_⟩
  · let run : List (BinaryCall × Answer) :=
      [(.program (.clCreateProgramWithIL (some [3])), { program := 8 })]
    have htaken := hclaim { dumpProgramSPIRV := true } { injectProgramSPIRV := true }
      (fun _ => none) run run 0 (some [3]) rfl ⟨rfl, rfl⟩ rfl rfl
    have hcopied : ∀ w ∈ writtenAt { dumpProgramSPIRV := true } (fun _ => none) run 0,
        copies (writtenAt { dumpProgramSPIRV := true } (fun _ => none) run 0) w.copy =
          some w.bytes := by
      intro w hw
      cases List.mem_singleton.mp hw
      exact copies_singleton _
    exact hlost ((reproduced_il_iff rfl rfl ⟨rfl, rfl⟩ rfl hcopied).mp htaken)
  · let run : List (BinaryCall × Answer) :=
      [(.program (.clCreateProgramWithIL (some [3])), { program := 8 })]
    let config₁ : Config := { dumpProgramSPIRV := true, injectProgramSPIRV := true }
    have hw : writtenAt config₁ (fun _ => some [7]) run 0 = [_] := rfl
    have hhanded := hclaim config₁ { injectProgramSPIRV := true } (fun _ => some [7]) run run 0
      (some [3]) _ rfl ⟨rfl, rfl⟩ rfl rfl hw
    rcases (handedAt_iff rfl rfl ⟨rfl, rfl⟩ rfl hw).mp hhanded with h | h
    · exact hlost h
    · cases h
  · let run : List (BinaryCall × Answer) :=
      [(.program (.clCreateProgramWithSource [107]), { program := 8, devices := some [4] }),
        (.program (.clBuildProgram 0 none), { binaries := some [(4, [1, 2])] })]
    have htaken := hclaim { dumpProgramBinaries := true } { injectProgramBinaries := true }
      (fun _ => none) run run 0 1 [107] (.clBuildProgram 0 none) rfl ⟨rfl, rfl⟩ rfl rfl rfl rfl
    have hwritten : ∀ w ∈ writtenAt { dumpProgramBinaries := true } (fun _ => none) run 1,
        ∃ j k c, (run.map Prod.fst)[j]? = some (.program c) ∧ c.builds k = true ∧
          w ∈ writtenAt { dumpProgramBinaries := true } (fun _ => none) run j :=
      fun w hw => ⟨1, 0, .clBuildProgram 0 none, rfl, rfl, hw⟩
    exact not_reproduced_binaries rfl (List.cons_ne_nil _ _) hwritten htaken

end CLIntercept.Dump
