import CLIntercept.Dump.Source
import CLIntercept.Lib.CString
import CLIntercept.Lib.Text

/-!
# The options of a build

`clBuildProgram` and `clCompileProgram` try the options that were made of the application's before they
try the application's own. Three steps make them: a file takes their place, and `AppendBuildOptions` and
the option that relaxes allocation limits are put behind them. The steps hand on one pointer, and each
that finds a string there frees it.

What the steps do to the memory is right in every run, `memory_buildOrCompile`. What they make is not
always what is documented: the file for all programs is looked for beside the directory of the others,
and under another name. `followsPipeline_iff` says when that does not show.
-/

set_option autoImplicit false

namespace CLIntercept.Dump.Options

open CLIntercept.Lib CLIntercept.Track

/-! ## The steps -/

/-- The allocations, those of them that are freed, and the pointer that is handed on. -/
structure State where
  buffers : List CBuffer := []
  freed : List Nat := []
  newOptions : Option Nat := none
  modified : Bool := false

/-- The string that the pointer leads to. -/
def State.string (s : State) : Option Bytes :=
  s.newOptions.bind fun i => s.buffers[i]?.map CBuffer.text

/-- Editors put a newline at the end of a file. -/
def newlineToSpace (c : UInt8) : UInt8 := if c = 10 then 32 else c

/-- The buffer that a file is read into. -/
def readOptions (content : Bytes) : CBuffer where
  size := content.length + 1
  bytes := content.map newlineToSpace ++ [0]

def injectProgramOptions (files : Files) (isCompile : Bool) (info : SProgramInfo) (s : State) :
    State :=
  match (Dump.injectProgramOptions isCompile false info).findSome? files with
  | none => s
  | some content =>
    { s with
      buffers := s.buffers ++ [readOptions content]
      newOptions := some s.buffers.length
      modified := true }

/-- The buffer for the old options, a blank and what is appended. -/
def appendedBuffer (append : Bytes) : Option Bytes → CBuffer
  | none => (CBuffer.zeros (append.length + 1)).strcat append
  | some oldOptions =>
    (((CBuffer.zeros (append.length + 1 + (oldOptions.length + 1))).strcat oldOptions).strcat
      [32]).strcat append

def appendBuildOptions (options : Option Bytes) (s : State) (append : Bytes) : State where
  buffers := s.buffers ++ [appendedBuffer append (s.string.or options)]
  freed := s.freed ++ s.newOptions.toList
  newOptions := some s.buffers.length
  modified := true

/-- What a device answers to the queries for its type and for its vendor. -/
structure DeviceAnswers where
  typeError : Int32 := 0
  deviceType : UInt64
  vendorError : Int32 := 0
  vendorId : UInt32

def clDeviceTypeGPU : UInt64 := 4

def DeviceAnswers.isIntelGPU (d : DeviceAnswers) : Bool :=
  d.deviceType &&& clDeviceTypeGPU ≠ 0 && d.vendorId = 0x8086

/-- The loop over the devices: the error code, and whether all are supported. -/
def checkDevices : List DeviceAnswers → Int32 → Int32 × Bool
  | [], errorCode => (errorCode, true)
  | d :: devices, errorCode =>
    let errorCode := errorCode ||| d.typeError ||| d.vendorError
    if d.isIntelGPU then checkDevices devices errorCode else (errorCode, false)

/-- The devices are those of the program, if it names them. -/
def checkRelaxAllocationLimitsSupport (devices : Option (List DeviceAnswers)) : Bool :=
  match devices with
  | none => false
  | some devices =>
    let (errorCode, supported) := checkDevices devices 0
    errorCode = 0 && supported

def relaxOption : Bytes := utf8 "-cl-intel-greater-than-4GB-buffer-required"

/-! ## The calls -/

section

variable (config : Config) (files : Files) (info : SProgramInfo) (options : Option CString)
  (devices : Option (List DeviceAnswers)) (isCompile : Bool)

/-- `PROGRAM_OPTIONS_OVERRIDE_INIT`. -/
def programOptionsOverrideInit : State :=
  let options := options.map CString.chars
  let s : State := {}
  let s := if config.injectProgramSource then injectProgramOptions files isCompile info s else s
  let s :=
    if config.appendBuildOptions.chars ≠ [] then
      appendBuildOptions options s config.appendBuildOptions.chars
    else s
  if config.relaxAllocationLimits && checkRelaxAllocationLimitsSupport devices then
    appendBuildOptions options s relaxOption
  else s

/-- `PROGRAM_OPTIONS_CLEANUP`. -/
def programOptionsCleanup (s : State) : State :=
  { s with freed := s.freed ++ s.newOptions.toList, newOptions := none }

/-- The driver's answer to its first and to its second call, with these options. -/
abbrev Driver := Nat → Option Bytes → Int32

def clInvalidOperation : Int32 := -59

/-- The first call, if there are new options, and the second, if the first did not succeed. -/
def callDriver (newOptions options : Option Bytes) (driver : Driver) : List (Option Bytes) × Int32 :=
  let (tried, retVal) :=
    match newOptions with
    | some newOptions => ([some newOptions], driver 0 (some newOptions))
    | none => ([], clInvalidOperation)
  if retVal ≠ 0 then (tried ++ [options], driver tried.length options) else (tried, retVal)

/-- The options that the driver was called with, what is returned, and the memory afterwards. -/
structure Outcome where
  tried : List (Option Bytes)
  retVal : Int32
  memory : State

def buildOrCompile (driver : Driver) : Outcome :=
  let s := programOptionsOverrideInit config files info options devices isCompile
  let (tried, retVal) := callDriver s.string (options.map CString.chars) driver
  { tried, retVal, memory := programOptionsCleanup s }

def clBuildProgram : Driver → Outcome := buildOrCompile config files info options devices false

def clCompileProgram : Driver → Outcome := buildOrCompile config files info options devices true

end

/-! ## What a build must try -/

/-- The files for a program, the more specific ones first. -/
def programNames (isCompile : Bool) (info : SProgramInfo) : List String :=
  [file "/Inject" (optionsName false isCompile false info),
    file "/Inject" (optionsName true isCompile false info),
    file "/Inject" ("CLI" :: hashText info.programHash :: optionsSuffix isCompile false)]

/-- The file for all programs, as it is documented. -/
def globalName (isCompile : Bool) : String :=
  file "/Inject" ("CLI" :: optionsSuffix isCompile false)

/-- The file that is looked for in its place. -/
def besideName (isCompile : Bool) : String :=
  "/Inject" ++ "_" ++ "_".intercalate (optionsSuffix isCompile false)

/-- A blank separates what is appended from the options before it, if there are any. -/
def appended (append : Bytes) : Option Bytes → Bytes
  | none => append
  | some base => base ++ 32 :: append

/-- What is made of the options, where there is anything to be done. -/
def pipeline (injected options : Option Bytes) : List Bytes → Option Bytes
  | [] => injected
  | additions => additions.foldl (fun base append => some (appended append base)) (injected.or options)

/-- The program has devices, all of them answer, and they are GPUs of one vendor. -/
def supportsRelaxedLimits (devices : Option (List DeviceAnswers)) : Bool :=
  devices.any fun devices => devices.all fun d =>
    d.typeError = 0 && d.vendorError = 0 && d.isIntelGPU

section

variable (config : Config) (files : Files) (info : SProgramInfo) (options : Option CString)
  (devices : Option (List DeviceAnswers)) (isCompile : Bool)

/-- What is put behind the options. -/
def additions : List Bytes :=
  (if config.appendBuildOptions.chars ≠ [] then [config.appendBuildOptions.chars] else []) ++
    if config.relaxAllocationLimits && supportsRelaxedLimits devices then [relaxOption] else []

/-- The options that a build must try first, if anything is to be done. -/
def expectedOptions : Option Bytes :=
  pipeline
    (if config.injectProgramSource then
      ((programNames isCompile info ++ [globalName isCompile]).findSome? files).map
        (·.map newlineToSpace)
    else none)
    (options.map CString.chars) (additions config devices)

/-- The application's options are used where there are no others, and where the others are rejected. -/
def firstModified (modified options : Option Bytes) (driver : Driver) :
    List (Option Bytes) × Int32 :=
  match modified with
  | none => ([options], driver 0 options)
  | some _ =>
    if driver 0 modified = 0 then ([modified], 0) else ([modified, options], driver 1 options)

/-- **The expected options are tried first**, and then the application's. Each string that is built on the
way ends within its allocation, and each allocation is freed once. -/
structure FollowsPipeline (call : Driver → Outcome) (expected : Option Bytes) : Prop where
  tried : ∀ driver, ((call driver).tried, (call driver).retVal) =
    firstModified expected (options.map CString.chars) driver
  terminated : ∀ driver, ∀ b ∈ (call driver).memory.buffers, b.Terminated
  freed : ∀ driver, (call driver).memory.freed = List.range (call driver).memory.buffers.length

/-- **The file for all programs makes no difference**: a file for the program is there, and no `NUL` is in
it, or what is found beside the directory leads to the same options as what is found in it. -/
def FindsDocumented : Prop :=
  config.injectProgramSource = true →
    match (programNames isCompile info).findSome? files with
    | some content => 0 ∉ content
    | none =>
      let found := (files (besideName isCompile)).map fun content => cText (content.map newlineToSpace)
      let meant := (files (globalName isCompile)).map fun content => content.map newlineToSpace
      if additions config devices = [] then found = meant
      else found.or (options.map CString.chars) = meant.or (options.map CString.chars)

end

/-! ## The strings -/

/-- Blanks for line ends bring in no terminator. -/
theorem zero_notMem_newlineToSpace {content : Bytes} :
    0 ∉ content.map newlineToSpace ↔ 0 ∉ content := by
  have hbyte : ∀ c, newlineToSpace c = 0 ↔ c = 0 := by
    intro c
    unfold newlineToSpace
    split
    · next h => exact ⟨fun h0 => absurd h0 (by decide), fun h0 => absurd (h.symm.trans h0) (by decide)⟩
    · exact Iff.rfl
  simp only [List.mem_map, hbyte, exists_eq_right]

theorem zero_notMem_relaxOption : 0 ∉ relaxOption := zero_notMem_utf8 (by decide)

/-- The text that is read ends at the first terminator. -/
theorem text_readOptions (content : Bytes) :
    (readOptions content).text = cText (content.map newlineToSpace) :=
  cText_concat_zero _

/-- The buffer has a byte more than the file, for the terminator. -/
theorem terminated_readOptions (content : Bytes) : (readOptions content).Terminated where
  inside := by simp [readOptions]
  ends := by simp [readOptions]

section

variable {append : Bytes}

/-- The buffer holds the old options, a blank and the new ones. -/
theorem text_appendedBuffer (happend : 0 ∉ append) {oldOptions : Option Bytes}
    (hold : ∀ old ∈ oldOptions, 0 ∉ old) :
    (appendedBuffer append oldOptions).text = appended append oldOptions := by
  cases oldOptions with
  | none => rw [appendedBuffer, CBuffer.text_strcat _ happend, CBuffer.text_zeros]; rfl
  | some old =>
    rw [appendedBuffer, CBuffer.text_strcat _ happend, CBuffer.text_strcat _ (by decide),
      CBuffer.text_strcat _ (hold old rfl), CBuffer.text_zeros, List.nil_append, List.append_assoc]
    rfl

/-- The buffer for appended options is large enough for both strings and the blank. -/
theorem terminated_appendedBuffer {oldOptions : Option Bytes} (hold : ∀ old ∈ oldOptions, 0 ∉ old) :
    (appendedBuffer append oldOptions).Terminated := by
  cases oldOptions with
  | none =>
    refine (CBuffer.terminated_zeros (Nat.succ_pos _)).strcat ?_
    rw [CBuffer.text_zeros]
    show 0 + append.length < append.length + 1
    omega
  | some old =>
    let size := append.length + 1 + (old.length + 1)
    have hfirst : ((CBuffer.zeros size).strcat old).text = old := by
      rw [CBuffer.text_strcat _ (hold old rfl), CBuffer.text_zeros, List.nil_append]
    have hsecond : (((CBuffer.zeros size).strcat old).strcat [32]).text = old ++ [32] := by
      rw [CBuffer.text_strcat _ (by decide), hfirst]
    have hpos : 0 < size := Nat.succ_pos _
    refine (((CBuffer.terminated_zeros hpos).strcat ?_).strcat ?_).strcat ?_
    · rw [CBuffer.text_zeros]
      show 0 + old.length < size
      omega
    · rw [hfirst]
      show old.length + 1 < size
      omega
    · rw [hsecond, List.length_append]
      show old.length + 1 + append.length < size
      omega

end

/-- Different options stay different. -/
theorem appended_injective (append : Bytes) : Function.Injective (appended append) := by
  intro base base' h
  cases base with
  | none =>
    cases base' with
    | none => rfl
    | some old =>
      have hlength := congrArg List.length h
      simp only [appended, List.length_append, List.length_cons] at hlength
      omega
  | some old =>
    cases base' with
    | none =>
      have hlength := congrArg List.length h
      simp only [appended, List.length_append, List.length_cons] at hlength
      omega
    | some old' => exact congrArg some (List.append_cancel_right h)

/-- Appending the same keeps different options different. -/
theorem foldl_appended_inj {appends : List Bytes} {base base' : Option Bytes} :
    appends.foldl (fun base append => some (appended append base)) base =
      appends.foldl (fun base append => some (appended append base)) base' ↔ base = base' := by
  induction appends generalizing base base' with
  | nil => exact Iff.rfl
  | cons append appends ih =>
    rw [List.foldl_cons, List.foldl_cons, ih, Option.some_inj]
    exact (appended_injective append).eq_iff

/-- When two injections come to the same options. -/
theorem pipeline_inj {injected injected' options : Option Bytes} {appends : List Bytes} :
    pipeline injected options appends = pipeline injected' options appends ↔
      if appends = [] then injected = injected' else injected.or options = injected'.or options := by
  cases appends with
  | nil => exact Iff.rfl
  | cons append appends =>
    rw [if_neg (List.cons_ne_nil _ _)]
    exact foldl_appended_inj

/-- Injected options take the place of the application's. -/
theorem pipeline_some (base : Bytes) (options : Option Bytes) (appends : List Bytes) :
    pipeline (some base) options appends =
      appends.foldl (fun base append => some (appended append base)) (some base) := by
  cases appends <;> rfl

/-! ## The memory -/

/-- **Each allocation is freed, or the pointer leads to it**, and the string in each ends. -/
structure Owned (s : State) : Prop where
  terminated : ∀ b ∈ s.buffers, b.Terminated
  once : s.freed ++ s.newOptions.toList = List.range s.buffers.length
  modified : s.modified = s.newOptions.isSome

theorem owned_init : Owned {} where
  terminated _ hb := absurd hb List.not_mem_nil
  once := rfl
  modified := rfl

/-- A new allocation takes the place of the one that the pointer leads to. -/
theorem string_replace (buffers : List CBuffer) (b : CBuffer) (freed : List Nat) (modified : Bool) :
    (State.mk (buffers ++ [b]) freed (some buffers.length) modified).string = some b.text := by
  simp [State.string]

/-- The string of a buffer has no terminator inside. -/
theorem zero_notMem_string {s : State} {text : Bytes} (h : text ∈ s.string) : 0 ∉ text := by
  obtain ⟨i, -, hi⟩ := Option.bind_eq_some_iff.mp h
  obtain ⟨b, -, rfl⟩ := Option.map_eq_some_iff.mp hi
  exact zero_notMem_cText _

section

variable {s : State} {options : Option Bytes} {append : Bytes}

/-- The options that a new string is appended to have no terminator. -/
theorem zero_notMem_or (hoptions : ∀ old ∈ options, 0 ∉ old) :
    ∀ old ∈ s.string.or options, 0 ∉ old := by
  intro old hold
  rcases Option.or_eq_some_iff.mp hold with h | ⟨-, h⟩
  · exact zero_notMem_string h
  · exact hoptions old h

/-- Injecting makes one buffer at most. -/
theorem owned_inject (files : Files) (isCompile : Bool) (info : SProgramInfo) :
    Owned (injectProgramOptions files isCompile info {}) := by
  unfold injectProgramOptions
  split
  · exact owned_init
  · exact
      { terminated := List.forall_mem_singleton.mpr (terminated_readOptions _)
        once := rfl
        modified := rfl }

/-- The first file that is found gives the options. -/
theorem string_inject (files : Files) (isCompile : Bool) (info : SProgramInfo) :
    (injectProgramOptions files isCompile info {}).string =
      ((Dump.injectProgramOptions isCompile false info).findSome? files).map
        fun content => cText (content.map newlineToSpace) := by
  unfold injectProgramOptions
  split
  · next h => rw [h]; rfl
  · next content h =>
    rw [h, Option.map_some, ← text_readOptions]
    exact string_replace [] _ _ _

/-- Appending makes a new buffer and frees the old one. -/
theorem owned_append (h : Owned s) (hoptions : ∀ old ∈ options, 0 ∉ old) :
    Owned (appendBuildOptions options s append) where
  terminated b hb := by
    rcases List.mem_append.mp hb with hb | hb
    · exact h.terminated b hb
    · rw [List.mem_singleton.mp hb]
      exact terminated_appendedBuffer (zero_notMem_or hoptions)
  once := by
    show (s.freed ++ s.newOptions.toList) ++ [s.buffers.length] = List.range (s.buffers ++ [_]).length
    rw [h.once, List.length_append, List.length_singleton, List.range_succ]
  modified := rfl

/-- The new options stand behind what was there. -/
theorem string_append (happend : 0 ∉ append) (hoptions : ∀ old ∈ options, 0 ∉ old) :
    (appendBuildOptions options s append).string = some (appended append (s.string.or options)) := by
  rw [← text_appendedBuffer happend (zero_notMem_or hoptions)]
  exact string_replace _ _ _ _

/-- What is appended in turn. -/
theorem owned_foldl {appends : List Bytes} (happends : ∀ append ∈ appends, 0 ∉ append)
    (hoptions : ∀ old ∈ options, 0 ∉ old) (h : Owned s) :
    Owned (appends.foldl (appendBuildOptions options) s) ∧
      (appends.foldl (appendBuildOptions options) s).string = pipeline s.string options appends := by
  induction appends generalizing s with
  | nil => exact ⟨h, rfl⟩
  | cons append appends ih =>
    have happend := happends append List.mem_cons_self
    have hrest := fun x hx => happends x (List.mem_cons_of_mem _ hx)
    obtain ⟨howned, hstring⟩ := ih hrest (owned_append h hoptions)
    refine ⟨howned, ?_⟩
    rw [List.foldl_cons, hstring, string_append happend hoptions, pipeline_some]
    rfl

end

/-! ## The calls -/

/-- All devices have to be Intel GPUs, and to say so. -/
theorem checkDevices_eq (devices : List DeviceAnswers) (errorCode : Int32) :
    (checkDevices devices errorCode).1 = 0 ∧ (checkDevices devices errorCode).2 = true ↔
      errorCode = 0 ∧
        ∀ d ∈ devices, d.typeError = 0 ∧ d.vendorError = 0 ∧ d.isIntelGPU = true := by
  induction devices generalizing errorCode with
  | nil => simp [checkDevices]
  | cons d devices ih =>
    rw [checkDevices, List.forall_mem_cons]
    by_cases h : d.isIntelGPU = true
    · rw [if_pos h, ih, Int32.or_eq_zero_iff, Int32.or_eq_zero_iff]
      simp only [h, and_true, and_assoc]
    · rw [if_neg h]
      simp only [h, and_false, false_and, Bool.false_eq_true]

/-- A program whose devices cannot be asked is not supported. -/
theorem checkRelaxAllocationLimitsSupport_eq (devices : Option (List DeviceAnswers)) :
    checkRelaxAllocationLimitsSupport devices = supportsRelaxedLimits devices := by
  cases devices with
  | none => rfl
  | some devices =>
    have h := checkDevices_eq devices 0
    rw [Bool.eq_iff_iff]
    simpa [checkRelaxAllocationLimitsSupport, supportsRelaxedLimits, and_assoc] using h

section

variable (config : Config) (files : Files) (info : SProgramInfo) (options : Option CString)
  (devices : Option (List DeviceAnswers)) (isCompile : Bool)

/-- What the layer appends are C strings. -/
theorem zero_notMem_additions : ∀ append ∈ additions config devices, 0 ∉ append := by
  intro append h
  rcases List.mem_append.mp h with h | h
  · split at h
    · rw [List.mem_singleton.mp h]
      exact config.appendBuildOptions.noNul
    · cases h
  · split at h
    · rw [List.mem_singleton.mp h]
      exact zero_notMem_relaxOption
    · cases h

theorem zero_notMem_options : ∀ old ∈ options.map CString.chars, 0 ∉ old := by
  intro old h
  obtain ⟨str, -, rfl⟩ := Option.map_eq_some_iff.mp h
  exact str.noNul

/-- The string of the file that the code takes. -/
def foundOptions : Option Bytes :=
  if config.injectProgramSource then
    ((programNames isCompile info ++ [besideName isCompile]).findSome? files).map
      fun content => cText (content.map newlineToSpace)
  else none

/-- The override injects first, and appends then. -/
theorem programOptionsOverrideInit_eq :
    programOptionsOverrideInit config files info options devices isCompile =
      (additions config devices).foldl (appendBuildOptions (options.map CString.chars))
        (if config.injectProgramSource then injectProgramOptions files isCompile info {} else {}) := by
  unfold programOptionsOverrideInit additions
  rw [checkRelaxAllocationLimitsSupport_eq, List.foldl_append]
  split <;> split <;> split <;> rfl

/-- The state that the options are appended to. -/
theorem owned_found :
    Owned (if config.injectProgramSource then injectProgramOptions files isCompile info {} else {}) ∧
      State.string
          (if config.injectProgramSource then injectProgramOptions files isCompile info {} else {}) =
        foundOptions config files info isCompile := by
  unfold foundOptions
  split
  · exact ⟨owned_inject files isCompile info, string_inject files isCompile info⟩
  · exact ⟨owned_init, rfl⟩

/-- **The buffers are owned, and the string is that of the pipeline.** -/
theorem programOptionsOverrideInit_spec :
    Owned (programOptionsOverrideInit config files info options devices isCompile) ∧
      (programOptionsOverrideInit config files info options devices isCompile).string =
        pipeline (foundOptions config files info isCompile) (options.map CString.chars)
          (additions config devices) := by
  obtain ⟨howned, hstring⟩ := owned_found config files info isCompile
  rw [programOptionsOverrideInit_eq, ← hstring]
  exact owned_foldl (zero_notMem_additions config devices) (zero_notMem_options options) howned

end

/-- The driver is called with the new options, and with the old ones if it refuses them. -/
theorem callDriver_eq (modified options : Option Bytes) (driver : Driver) :
    callDriver modified options driver = firstModified modified options driver := by
  cases modified with
  | none => rfl
  | some string =>
    by_cases h : driver 0 (some string) = 0
    · simp only [callDriver, firstModified, h, ne_eq, not_true_eq_false, if_false, if_true]
    · simp only [callDriver, firstModified, h, ne_eq, not_false_eq_true, if_false, if_true,
        List.length_singleton, List.singleton_append]

/-- A driver that rejects everything is called with all the options that there are. -/
theorem firstModified_inj {modified modified' options : Option Bytes}
    (h : ∀ driver, firstModified modified options driver = firstModified modified' options driver) :
    modified = modified' := by
  have hrejects := h fun _ _ => -1
  cases modified with
  | none =>
    cases modified' with
    | none => rfl
    | some string => simp [firstModified] at hrejects
  | some string =>
    cases modified' with
    | none => simp [firstModified] at hrejects
    | some string' => simpa [firstModified] using hrejects

section

variable (config : Config) (files : Files) (info : SProgramInfo) (options : Option CString)
  (devices : Option (List DeviceAnswers)) (isCompile : Bool)

/-- The two ways through the files. -/
theorem pipeline_eq_iff :
    pipeline (foundOptions config files info isCompile) (options.map CString.chars)
        (additions config devices) = expectedOptions config files info options devices isCompile ↔
      FindsDocumented config files info options devices isCompile := by
  unfold foundOptions expectedOptions FindsDocumented
  rw [pipeline_inj]
  by_cases hinject : config.injectProgramSource = true
  · simp only [hinject, if_true, forall_const, List.findSome?_append]
    cases (programNames isCompile info).findSome? files with
    | none => simp [List.findSome?_singleton]
    | some content =>
      have hwhole : cText (content.map newlineToSpace) = content.map newlineToSpace ↔ 0 ∉ content :=
        cText_eq_iff.trans zero_notMem_newlineToSpace
      simp [hwhole]
  · simp [hinject]

/-- The memory is in order after every call. -/
theorem memory_buildOrCompile (driver : Driver) :
    (∀ b ∈ (buildOrCompile config files info options devices isCompile driver).memory.buffers,
      b.Terminated) ∧
      (buildOrCompile config files info options devices isCompile driver).memory.freed = List.range
        (buildOrCompile config files info options devices isCompile driver).memory.buffers.length :=
  have howned := (programOptionsOverrideInit_spec config files info options devices isCompile).1
  ⟨howned.terminated, howned.once⟩

/-- **The layer follows the documented pipeline if it finds the documented file.** -/
theorem follows_iff :
    FollowsPipeline options (buildOrCompile config files info options devices isCompile)
        (expectedOptions config files info options devices isCompile) ↔
      FindsDocumented config files info options devices isCompile := by
  have hstring := (programOptionsOverrideInit_spec config files info options devices isCompile).2
  have hmemory := memory_buildOrCompile config files info options devices isCompile
  have htried : ∀ driver,
      ((buildOrCompile config files info options devices isCompile driver).tried,
        (buildOrCompile config files info options devices isCompile driver).retVal) =
        firstModified (pipeline (foundOptions config files info isCompile)
          (options.map CString.chars) (additions config devices)) (options.map CString.chars)
          driver := by
    intro driver
    rw [← hstring, ← callDriver_eq]
    rfl
  rw [← pipeline_eq_iff]
  constructor
  · intro h
    exact firstModified_inj fun driver => (htried driver).symm.trans (h.tried driver)
  · intro h
    exact
      { tried := fun driver => h ▸ htried driver
        terminated := fun driver => (hmemory driver).1
        freed := fun driver => (hmemory driver).2 }

end

/-! ## When a build tries what it must -/

/-- **A build or a compile tries the expected options** exactly when the file for all programs makes no
difference. -/
theorem followsPipeline_iff (config : Config) (files : Files) (info : SProgramInfo)
    (options : Option CString) (devices : Option (List DeviceAnswers)) :
    (FollowsPipeline options (clBuildProgram config files info options devices)
        (expectedOptions config files info options devices false) ↔
      FindsDocumented config files info options devices false) ∧
      (FollowsPipeline options (clCompileProgram config files info options devices)
          (expectedOptions config files info options devices true) ↔
        FindsDocumented config files info options devices true) :=
  ⟨follows_iff config files info options devices false,
    follows_iff config files info options devices true⟩

/-- The file for all programs alone, as it is documented. -/
def globalFile (isCompile : Bool) (content : Bytes) : Files := fun path =>
  if path = globalName isCompile then some content else none

/-- The documented file for all programs is not taken. -/
theorem global_file_ignored :
    ¬∀ (config : Config) (files : Files) (info : SProgramInfo) (options : Option CString)
      (devices : Option (List DeviceAnswers)),
      FollowsPipeline options (clBuildProgram config files info options devices)
          (expectedOptions config files info options devices false) ∧
        FollowsPipeline options (clCompileProgram config files info options devices)
          (expectedOptions config files info options devices true) := by
  intro h
  have hbuild := (h { injectProgramSource := true } (globalFile false (utf8 "-w")) {} none none).1
  have hfinds := (follows_iff _ _ _ _ _ false).mp hbuild rfl
  have hspecific : (programNames false {}).findSome? (globalFile false (utf8 "-w")) = none := by
    decide
  rw [hspecific] at hfinds
  revert hfinds
  decide

end CLIntercept.Dump.Options
