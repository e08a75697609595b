import CLIntercept.Control.Lookup
import CLIntercept.Lib.Scatter

/-!
# The loader

`cliloader` on Linux: options, then the command line of an application. The options become
environment variables, in which the layer looks for its controls once the application has loaded
it, and the application is executed with the rest of the command line.

Options are read one after the other and most of them are at once put into the environment; which
counters to collect and where to report are put there in front of the command, since a later option
may change them. An option that is not known is read over, and then nothing is executed.

`main_eq_some_iff` says which command lines are executed, and with what: those that spell options
of the table in front of a command. `options_set_controls` is what options are for: in the
application, each control has what the last option that sets it says, and every other control has
what it would have had without the loader.
-/

set_option autoImplicit false

namespace CLIntercept.Control

open CLIntercept.Lib

/-! ## Options -/

/-- A string literal. -/
def literal (text : String) : CString := ⟨cText (utf8 text), zero_notMem_cText _⟩

/-- What an option does. Where it takes a value that is the next argument, and `none` in an
assignment stands for it. -/
inductive Effect where
  | debug
  | exits
  | noPreload
  | noLibraryPath
  | set (assignments : List (String × String))
  | mdapi (assignments : List (String × String))
  | mdapiGroup
  | setValue (assignments : List (String × Option String))
  | outputToFile (assignments : List (String × String))
  deriving DecidableEq, Repr

def Effect.takesValue : Effect → Bool
  | .mdapiGroup => true
  | .setValue _ => true
  | _ => false

/-- An option: its spellings and what it does. -/
structure CliOption where
  names : List String
  effect : Effect
  deriving DecidableEq, Repr

/-- The chain of comparisons in `parseArguments`. -/
def cliOptions : List CliOption := [
  ⟨["--debug"], .debug⟩,
  ⟨["--controls"], .exits⟩,
  ⟨["--metrics"], .exits⟩,
  ⟨["--mdapi-devices"], .exits⟩,
  ⟨["--no-LD_PRELOAD"], .noPreload⟩,
  ⟨["--no-LD_LIBRARY_PATH"], .noLibraryPath⟩,
  ⟨["-q", "--quiet"], .set [("CLI_SuppressLogging", "1")]⟩,
  ⟨["-c", "--call-logging"], .set [("CLI_CallLogging", "1")]⟩,
  ⟨["-e", "--error-logging"], .set [("CLI_ErrorLogging", "1")]⟩,
  ⟨["--tid"], .set [("CLI_CallLoggingThreadId", "1")]⟩,
  ⟨["--appendpid"], .set [("CLI_AppendPid", "1")]⟩,
  ⟨["--demangle"], .set [("CLI_DemangleKernelNames", "1")]⟩,
  ⟨["-dsrc", "--dump-source"], .set [("CLI_DumpProgramSource", "1")]⟩,
  ⟨["-dspv", "--dump-spirv"], .set [("CLI_DumpProgramSPIRV", "1")]⟩,
  ⟨["--dump-output-binaries"], .set [("CLI_DumpProgramBinaries", "1")]⟩,
  ⟨["--dump-kernel-isa-binaries"], .set [("CLI_DumpKernelISABinaries", "1")]⟩,
  ⟨["-ct", "--conditional-timing"], .set [("CLI_PerformanceTimingConditional", "1")]⟩,
  ⟨["-d", "--device-timing"], .set [("CLI_DevicePerformanceTiming", "1")]⟩,
  ⟨["-dv", "--device-timing-verbose"], .set [
    ("CLI_DevicePerformanceTiming", "1"),
    ("CLI_DevicePerformanceTimeKernelInfoTracking", "1"),
    ("CLI_DevicePerformanceTimeGWSTracking", "1"),
    ("CLI_DevicePerformanceTimeLWSTracking", "1"),
    ("CLI_DevicePerformanceTimeTransferTracking", "1")]⟩,
  ⟨["-ccl", "--chrome-call-logging"], .set [("CLI_ChromeCallLogging", "1")]⟩,
  ⟨["-cdt", "--chrome-device-timeline"], .set [("CLI_ChromePerformanceTiming", "1")]⟩,
  ⟨["-ckt", "--chrome-kernel-timeline"], .set [
    ("CLI_ChromePerformanceTiming", "1"),
    ("CLI_ChromePerformanceTimingPerKernel", "1")]⟩,
  ⟨["-cds", "--chrome-device-stages"], .set [
    ("CLI_ChromePerformanceTiming", "1"),
    ("CLI_ChromePerformanceTimingInStages", "1")]⟩,
  ⟨["--driver-diagnostics", "-ddiag"], .set [
    ("CLI_ContextCallbackLogging", "1"),
    ("CLI_ContextHintLevel", "7")]⟩,
  ⟨["--mdapi-ebs"], .mdapi [
    ("CLI_DevicePerfCounterEventBasedSampling", "1"),
    ("CLI_DevicePerfCounterTiming", "1")]⟩,
  ⟨["--mdapi-tbs"], .mdapi [("CLI_DevicePerfCounterTimeBasedSampling", "1")]⟩,
  ⟨["--mdapi-group"], .mdapiGroup⟩,
  ⟨["--mdapi-device"], .setValue [("CLI_DevicePerfCounterAdapterIndex", none)]⟩,
  ⟨["-h", "--host-timing"], .set [("CLI_HostPerformanceTiming", "1")]⟩,
  ⟨["-l", "--leak-checking"], .set [("CLI_LeakChecking", "1")]⟩,
  ⟨["--capture-enqueue"], .setValue [
    ("CLI_CaptureReplay", some "1"),
    ("CLI_InitializeBuffers", some "1"),
    ("CLI_AppendBuildOptions", some "-cl-kernel-arg-info"),
    ("CLI_CaptureReplayMinEnqueue", none),
    ("CLI_CaptureReplayMaxEnqueue", none)]⟩,
  ⟨["--capture-kernel"], .setValue [
    ("CLI_CaptureReplay", some "1"),
    ("CLI_InitializeBuffers", some "1"),
    ("CLI_AppendBuildOptions", some "-cl-kernel-arg-info"),
    ("CLI_CaptureReplayKernelName", none),
    ("CLI_CaptureReplayNumKernelEnqueuesCapture", some "1")]⟩,
  ⟨["-f", "--output-to-file"], .outputToFile [("CLI_LogToFile", "1")]⟩,
  ⟨["--dump-dir"], .setValue [("CLI_DumpDir", none)]⟩]

/-- The first of them that an argument is compared with equal. -/
def optionOf (arg : CString) : Option CliOption :=
  cliOptions.find? fun o => o.names.any fun name => utf8 name = arg.chars

/-- `argv[i][0] == '-'` -/
def startsWithDash (arg : CString) : Bool := arg.chars.head? = some 0x2D

/-! ## Parsing -/

/-- A variable of the environment, by name. -/
abbrev Variables := Bytes → Option CString

/-- `setenv`, by `checkSetEnv`, of several variables; each goes with its value. -/
def checkSetEnv (assignments : List (CString × Bytes)) (env : Variables) : Variables :=
  scatter some assignments env

/-- What `parseArguments` has set so far. -/
structure Parsing where
  env : Variables
  mdapiGroup : Option CString := none
  reportToStderr : CString := literal "1"
  unknownOption : Bool := false
  setPreload : Bool := true
  setLibraryPath : Bool := true

/-- What an effect puts into the environment at once. -/
def Effect.assignments (value : CString) : Effect → List (CString × Bytes)
  | .set as => as.map fun a => (literal a.2, utf8 a.1)
  | .mdapi as => as.map fun a => (literal a.2, utf8 a.1)
  | .setValue as => as.map fun a => (a.2.elim value literal, utf8 a.1)
  | .outputToFile as => as.map fun a => (literal a.2, utf8 a.1)
  | _ => []

/-- The body of an option that goes on with the next. -/
def Effect.apply (value : CString) (s : Parsing) (effect : Effect) : Parsing :=
  let s := { s with env := checkSetEnv (effect.assignments value) s.env }
  match effect with
  | .noPreload => { s with setPreload := false }
  | .noLibraryPath => { s with setLibraryPath := false }
  | .mdapi _ => { s with mdapiGroup := some (s.mdapiGroup.getD (literal "ComputeBasic")) }
  | .mdapiGroup => { s with mdapiGroup := some value }
  | .outputToFile _ => { s with reportToStderr := literal "0" }
  | _ => s

/-- What is put into the environment in front of the command. -/
def deferred (s : Parsing) : List (CString × Bytes) :=
  (s.mdapiGroup.toList.map fun group => (group, utf8 "CLI_DevicePerfCounterCustom")) ++
    [(s.reportToStderr, utf8 "CLI_ReportToStderr")]

/-- The loop over the arguments. There is nothing if one of them printed what it asks for. The rest
is `appArgs`, empty for `NULL`. -/
def parseLoop : List CString → Parsing → Option (Parsing × List CString)
  | [], s => some (s, [])
  | arg :: rest, s => match optionOf arg with
    | some o =>
      if o.effect = .exits then none
      else if o.effect.takesValue then match rest with
        | [] => some (s, [])
        | value :: rest => parseLoop rest (o.effect.apply value s)
      else parseLoop rest (o.effect.apply .empty s)
    | none =>
      if startsWithDash arg then parseLoop rest { s with unknownOption := true }
      else some ({ s with env := checkSetEnv (deferred s) s.env }, arg :: rest)

/-- `parseArguments`. -/
def parseArguments (argv : List CString) (env : Variables) : Option (Parsing × List CString) :=
  (parseLoop argv { env }).filter fun r => !r.1.unknownOption && !r.2.isEmpty

/-! ## Launching -/

/-- What the loader finds out about the machine: the directory of its own executable, the files
there are, and the directory of libraries that it was built with. -/
structure Machine where
  processDirectory : CString
  fileExists : Bytes → Bool
  libDir : Bytes := utf8 "lib"

/-- A variable that lists paths, with one more in front. -/
def inFront (path : Bytes) (old : Option CString) : CString :=
  ⟨cText (path ++ (old.elim [] fun old => utf8 ":" ++ old.chars)), zero_notMem_cText _⟩

/-- `getEnvVars`: `ld_preload` and `ld_library_path`, if the layer's library is in the directory. -/
def getEnvVars (m : Machine) (env : Variables) (path : Bytes) : Option (CString × CString) :=
  let name := path ++ utf8 "/libOpenCL.so"
  if m.fileExists name then
    some (inFront name (env (utf8 "LD_PRELOAD")), inFront path (env (utf8 "LD_LIBRARY_PATH")))
  else none

/-- The directories that are looked into. -/
def libraryPaths (m : Machine) : List Bytes :=
  let path := m.processDirectory.chars
  [path, path ++ utf8 "/..", path ++ utf8 "/../" ++ m.libDir, path ++ utf8 "/../intercept"]

/-- The variables by which the application loads the layer. -/
def libraryVariables (m : Machine) (s : Parsing) : List (CString × Bytes) :=
  match (libraryPaths m).findSome? (getEnvVars m s.env) with
  | none => []
  | some (preload, libraryPath) =>
    (if s.setPreload then [(preload, utf8 "LD_PRELOAD")] else []) ++
      if s.setLibraryPath then [(libraryPath, utf8 "LD_LIBRARY_PATH")] else []

/-- `main`: the environment and the arguments of the application, if it is executed. -/
def main (m : Machine) (argv : List CString) (env : Variables) :
    Option (Variables × List CString) :=
  (parseArguments argv env).map fun r =>
    (if r.1.setPreload || r.1.setLibraryPath then checkSetEnv (libraryVariables m r.1) r.1.env
      else r.1.env, r.2)

/-! ## What a command line means -/

/-- **An option as it is used**: a spelling of it, and its value if it takes one. -/
structure Used where
  name : CString
  option : CliOption
  value : Option CString
  known : optionOf name = some option
  goesOn : option.effect ≠ .exits
  valued : option.effect.takesValue = value.isSome

/-- The arguments that spell it. -/
def Used.spelling (u : Used) : List CString := u.name :: u.value.toList

def Used.apply (s : Parsing) (u : Used) : Parsing := u.option.effect.apply (u.value.getD .empty) s

/-- A command is not empty, and does not look like an option. -/
def IsCommand (args : List CString) : Prop := ∃ arg, args.head? = some arg ∧ startsWithDash arg = false

/-- What an option puts into the environment. -/
def Used.settings (u : Used) : List (CString × Bytes) :=
  u.option.effect.assignments (u.value.getD .empty)

/-- The group of counters that an option names. -/
def Used.group? (u : Used) : Option CString :=
  match u.option.effect with
  | .mdapiGroup => u.value
  | _ => none

def Used.collects (u : Used) : Bool :=
  match u.option.effect with
  | .mdapi _ => true
  | _ => false

def Used.toFile (u : Used) : Bool :=
  match u.option.effect with
  | .outputToFile _ => true
  | _ => false

/-- The group of counters that options ask for, from what it was before them: the last that is
named, or else the usual one. -/
def groupAfter (us : List Used) (before : Option CString) : Option CString :=
  (us.reverse.findSome? Used.group?).or
    (if us.any Used.collects then some (before.getD (literal "ComputeBasic")) else before)

/-- **All that options put into the environment**, in order. -/
def settings (us : List Used) : List (CString × Bytes) :=
  us.flatMap Used.settings ++
    ((groupAfter us none).toList.map fun group => (group, utf8 "CLI_DevicePerfCounterCustom")) ++
      [(if us.any Used.toFile then literal "0" else literal "1", utf8 "CLI_ReportToStderr")]

/-! ## Parsing what was spelled -/

/-- Spellings begin with a dash. -/
theorem dash_of_known {arg : CString} {o : CliOption} (h : optionOf arg = some o) :
    startsWithDash arg = true := by
  have htable : ∀ o ∈ cliOptions, ∀ name ∈ o.names, (utf8 name).head? = some 0x2D := by decide
  have hname := List.find?_some h
  obtain ⟨name, hmem, heq⟩ := List.any_eq_true.mp hname
  have hhead := htable o (List.mem_of_find?_eq_some h) name hmem
  rw [decide_eq_true_eq.mp heq] at hhead
  exact decide_eq_true hhead

/-- **Options that are spelled in front of a command are read**, each once and in order. -/
theorem parseLoop_spelled (us : List Used) {command : List CString} (hcommand : IsCommand command)
    (s : Parsing) : parseLoop (us.flatMap Used.spelling ++ command) s =
      some ({ us.foldl Used.apply s with
        env := checkSetEnv (deferred (us.foldl Used.apply s)) (us.foldl Used.apply s).env },
        command) := by
  induction us generalizing s with
  | nil =>
    obtain ⟨arg, hhead, hdash⟩ := hcommand
    cases command with
    | nil => exact absurd hhead (Option.some_ne_none arg).symm
    | cons arg' rest =>
      obtain rfl := Option.some.inj hhead
      have hunknown : optionOf arg' = none := by
        by_contra hsome
        obtain ⟨o, ho⟩ := Option.ne_none_iff_exists'.mp hsome
        exact Bool.eq_false_iff.mp hdash (dash_of_known ho)
      rw [List.flatMap_nil, List.nil_append, parseLoop, hunknown]
      simp [hdash]
  | cons u us ih =>
    rw [List.flatMap_cons, List.append_assoc, List.foldl_cons, ← ih (u.apply s)]
    have hvalued := u.valued
    cases hvalue : u.value with
    | none =>
      have htakes : u.option.effect.takesValue = false := by simpa [hvalue] using hvalued
      simp [Used.spelling, hvalue, parseLoop, u.known, u.goesOn, htakes, Used.apply]
    | some value =>
      have htakes : u.option.effect.takesValue = true := by simpa [hvalue] using hvalued
      simp [Used.spelling, hvalue, parseLoop, u.known, u.goesOn, htakes, Used.apply]

/-- No option makes another unknown. -/
theorem Effect.apply_unknownOption (effect : Effect) (value : CString) (s : Parsing) :
    (effect.apply value s).unknownOption = s.unknownOption := by
  unfold Effect.apply
  cases effect with rfl

/-- That an option is not known is not forgotten. -/
theorem unknown_of_parseLoop {argv command : List CString} {s s' : Parsing}
    (h : parseLoop argv s = some (s', command)) (hunknown : s.unknownOption = true) :
    s'.unknownOption = true := by
  fun_induction parseLoop argv s with
  | case1 s => simpa [← (Prod.mk.inj (Option.some.inj h)).1] using hunknown
  | case2 arg rest s o ho hexits => cases h
  | case3 arg s o ho hgoes htakes =>
    simpa [← (Prod.mk.inj (Option.some.inj h)).1] using hunknown
  | case4 arg s o ho hgoes htakes value rest ih =>
    exact ih h ((o.effect.apply_unknownOption _ s).trans hunknown)
  | case5 arg rest s o ho hgoes htakes ih =>
    exact ih h ((o.effect.apply_unknownOption _ s).trans hunknown)
  | case6 arg rest s ho hdash ih => exact ih h rfl
  | case7 arg rest s ho hdash => simpa [← (Prod.mk.inj (Option.some.inj h)).1] using hunknown

/-- **What is read was spelled**: a command that the loop ends at has options in front of it. -/
theorem spelled_of_parseLoop {argv command : List CString} {s s' : Parsing}
    (h : parseLoop argv s = some (s', command)) (hknown : s'.unknownOption = false)
    (hne : command ≠ []) :
    IsCommand command ∧ ∃ us : List Used, argv = us.flatMap Used.spelling ++ command := by
  fun_induction parseLoop argv s with
  | case1 s => exact absurd (Prod.mk.inj (Option.some.inj h)).2.symm hne
  | case2 arg rest s o ho hexits => cases h
  | case3 arg s o ho hgoes htakes => exact absurd (Prod.mk.inj (Option.some.inj h)).2.symm hne
  | case4 arg s o ho hgoes htakes value rest ih =>
    obtain ⟨hcommand, us, rfl⟩ := ih h
    exact ⟨hcommand, ⟨arg, o, some value, ho, hgoes, htakes⟩ :: us, rfl⟩
  | case5 arg rest s o ho hgoes htakes ih =>
    obtain ⟨hcommand, us, rfl⟩ := ih h
    exact ⟨hcommand, ⟨arg, o, none, ho, hgoes, Bool.eq_false_iff.mpr htakes⟩ :: us, rfl⟩
  | case6 arg rest s ho hdash ih =>
    exact absurd (unknown_of_parseLoop h rfl) (Bool.eq_false_iff.mp hknown)
  | case7 arg rest s ho hdash =>
    obtain rfl := (Prod.mk.inj (Option.some.inj h)).2
    exact ⟨⟨arg, rfl, Bool.eq_false_iff.mpr hdash⟩, [], rfl⟩

/-! ## What options come to -/

section

variable (u : Used) (us : List Used) (s : Parsing)

/-- An option sets its variables. -/
theorem apply_env : (u.apply s).env = checkSetEnv u.settings s.env := by
  unfold Used.apply Used.settings Effect.apply
  cases u.option.effect with rfl

/-- A group of metrics is the one given, or the basic one. -/
theorem apply_mdapiGroup : (u.apply s).mdapiGroup = u.group?.or
    (if u.collects then some (s.mdapiGroup.getD (literal "ComputeBasic")) else s.mdapiGroup) := by
  have hvalued := u.valued
  unfold Used.apply Effect.apply Used.group? Used.collects
  cases heffect : u.option.effect with
  | mdapiGroup =>
    obtain ⟨value, hvalue⟩ := Option.isSome_iff_exists.mp (hvalued.symm.trans (heffect ▸ rfl))
    rw [hvalue]
    rfl
  | _ => rfl

/-- A report to a file is none to the terminal. -/
theorem apply_reportToStderr :
    (u.apply s).reportToStderr = if u.toFile then literal "0" else s.reportToStderr := by
  unfold Used.apply Effect.apply Used.toFile
  cases u.option.effect with rfl

/-- All options set their variables, one after the other. -/
theorem env_foldl_apply :
    (us.foldl Used.apply s).env = checkSetEnv (us.flatMap Used.settings) s.env := by
  induction us generalizing s with
  | nil => rfl
  | cons u us ih =>
    rw [List.foldl_cons, ih, apply_env, List.flatMap_cons]
    exact (scatter_append some u.settings _ s.env).symm

/-- The last group that is given counts. -/
theorem group_foldl_apply :
    (us.foldl Used.apply s).mdapiGroup = groupAfter us s.mdapiGroup := by
  induction us using List.reverseRecOn with
  | nil => rfl
  | append_singleton us u ih =>
    rw [List.foldl_append, List.foldl_cons, List.foldl_nil, apply_mdapiGroup, ih]
    unfold groupAfter
    rw [List.reverse_append, List.any_append, List.reverse_singleton, List.singleton_append,
      List.findSome?_cons]
    cases u.group? with
    | some group => rfl
    | none =>
      cases us.reverse.findSome? Used.group? with
      | some group => cases hcollects : u.collects <;> simp [hcollects]
      | none => cases hcollects : u.collects <;> cases hany : us.any Used.collects <;>
          simp [hcollects]

/-- One option is enough to send the report to a file. -/
theorem report_foldl_apply : (us.foldl Used.apply s).reportToStderr =
    if us.any Used.toFile then literal "0" else s.reportToStderr := by
  induction us using List.reverseRecOn with
  | nil => rfl
  | append_singleton us u ih =>
    rw [List.foldl_append, List.foldl_cons, List.foldl_nil, apply_reportToStderr, ih,
      List.any_append]
    cases hfile : u.toFile <;> simp [hfile]

/-- Known options leave none unknown. -/
theorem unknown_foldl_apply : (us.foldl Used.apply s).unknownOption = s.unknownOption := by
  induction us generalizing s with
  | nil => rfl
  | cons u us ih => rw [List.foldl_cons, ih, Used.apply, Effect.apply_unknownOption]

/-- **All settings are in the environment** that the command gets. -/
theorem checkSetEnv_settings (env : Variables) :
    checkSetEnv (deferred (us.foldl Used.apply { env })) (us.foldl Used.apply { env }).env =
      checkSetEnv (settings us) env := by
  have hdeferred : deferred (us.foldl Used.apply { env }) =
      ((groupAfter us none).toList.map fun group => (group, utf8 "CLI_DevicePerfCounterCustom")) ++
        [(if us.any Used.toFile then literal "0" else literal "1", utf8 "CLI_ReportToStderr")] := by
    rw [deferred, group_foldl_apply, report_foldl_apply]
  rw [hdeferred, env_foldl_apply, settings, List.append_assoc]
  exact (scatter_append some _ _ env).symm

end

/-! ## What is executed -/

/-- The options that are left of what was parsed: only the environment is different. -/
def parsed (us : List Used) (env : Variables) : Parsing :=
  { us.foldl Used.apply { env } with env := checkSetEnv (settings us) env }

/-- **A command line is parsed if it is options and a command.** -/
theorem parseArguments_eq_some_iff {argv command : List CString} {env : Variables} {s : Parsing} :
    parseArguments argv env = some (s, command) ↔ ∃ us : List Used,
      argv = us.flatMap Used.spelling ++ command ∧ IsCommand command ∧ s = parsed us env := by
  have hspelled : ∀ (us : List Used), IsCommand command →
      parseLoop (us.flatMap Used.spelling ++ command) { env } = some (parsed us env, command) := by
    intro us hcommand
    rw [parseLoop_spelled us hcommand, checkSetEnv_settings]
    rfl
  unfold parseArguments
  rw [Option.filter_eq_some_iff]
  simp only [Bool.and_eq_true, Bool.not_eq_true', List.isEmpty_eq_false_iff]
  constructor
  · rintro ⟨hloop, hknown, hne⟩
    obtain ⟨hcommand, us, rfl⟩ := spelled_of_parseLoop hloop hknown hne
    rw [hspelled us hcommand] at hloop
    exact ⟨us, rfl, hcommand, (Prod.mk.inj (Option.some.inj hloop)).1.symm⟩
  · rintro ⟨us, rfl, hcommand, rfl⟩
    refine ⟨hspelled us hcommand, unknown_foldl_apply us { env }, ?_⟩
    rintro rfl
    obtain ⟨arg, hhead, -⟩ := hcommand
    exact Option.some_ne_none arg hhead.symm

/-- The variables of the application: those of the loader, the settings of the options, and those by
which it loads the layer. -/
def childVariables (m : Machine) (us : List Used) (env : Variables) : Variables :=
  checkSetEnv (libraryVariables m (parsed us env)) (checkSetEnv (settings us) env)

/-- The variables of the linker are set last. -/
theorem childVariables_eq (m : Machine) (us : List Used) (env : Variables) :
    childVariables m us env =
      if (parsed us env).setPreload || (parsed us env).setLibraryPath then
        checkSetEnv (libraryVariables m (parsed us env)) (parsed us env).env
      else (parsed us env).env := by
  split
  · rfl
  · next hnone =>
    obtain ⟨hpreload, hpath⟩ := Bool.or_eq_false_iff.mp (Bool.eq_false_iff.mpr hnone)
    have hempty : libraryVariables m (parsed us env) = [] := by
      unfold libraryVariables
      split
      · rfl
      · simp [hpreload, hpath]
    rw [childVariables, hempty]
    rfl

/-- **What the command runs with.** -/
theorem main_spelled (m : Machine) (us : List Used) {command : List CString}
    (hcommand : IsCommand command) (env : Variables) :
    main m (us.flatMap Used.spelling ++ command) env = some (childVariables m us env, command) := by
  rw [main, parseArguments_eq_some_iff.mpr ⟨us, rfl, hcommand, rfl⟩, Option.map_some,
    childVariables_eq]

/-- **What is executed**: a command behind options of the table, with the settings of these options
and no other change of the environment but for the library. Nothing else is. -/
theorem main_eq_some_iff (m : Machine) (argv command : List CString) (env env' : Variables) :
    main m argv env = some (env', command) ↔ ∃ us : List Used,
      argv = us.flatMap Used.spelling ++ command ∧ IsCommand command ∧
        env' = childVariables m us env := by
  constructor
  · intro h
    obtain ⟨⟨s, command'⟩, hparse, heq⟩ := Option.map_eq_some_iff.mp h
    obtain ⟨rfl, rfl⟩ := Prod.mk.inj heq
    obtain ⟨us, rfl, hcommand, rfl⟩ := parseArguments_eq_some_iff.mp hparse
    exact ⟨us, rfl, hcommand, (childVariables_eq m us env).symm⟩
  · rintro ⟨us, rfl, hcommand, rfl⟩
    exact main_spelled m us hcommand env

/-! ## Controls -/

/-- What the last option that sets a control sets it to. -/
def lastSetting (us : List Used) (name : Bytes) : Option CString :=
  ((settings us).findRev? fun setting => setting.2 = envName name).map fun setting => setting.1

/-- The variables that an effect sets. -/
def Effect.variables : Effect → List String
  | .set as => as.map (·.1)
  | .mdapi as => as.map (·.1)
  | .setValue as => as.map (·.1)
  | .outputToFile as => as.map (·.1)
  | _ => []

/-- An effect assigns the variables that it names. -/
theorem Effect.assignments_variables (effect : Effect) (value : CString) :
    (effect.assignments value).map (·.2) = effect.variables.map utf8 := by
  unfold Effect.assignments Effect.variables
  cases effect with simp

/-- **Options set controls only.** -/
theorem settings_controls {us : List Used} {setting : CString × Bytes} (h : setting ∈ settings us) :
    utf8 "CLI_" <+: setting.2 := by
  have htable : ∀ o ∈ cliOptions, ∀ v ∈ o.effect.variables,
      (utf8 "CLI_").isPrefixOf (utf8 v) = true := by decide
  rw [settings, List.mem_append, List.mem_append] at h
  rcases h with (hoption | hgroup) | hreport
  · obtain ⟨u, -, hu⟩ := List.mem_flatMap.mp hoption
    have hmem : setting.2 ∈ u.option.effect.variables.map utf8 := by
      rw [← u.option.effect.assignments_variables (u.value.getD .empty)]
      exact List.mem_map_of_mem hu
    obtain ⟨v, hv, heq⟩ := List.mem_map.mp hmem
    rw [← heq]
    exact List.isPrefixOf_iff_prefix.mp (htable u.option (List.mem_of_find?_eq_some u.known) v hv)
  · have hname : (utf8 "CLI_").isPrefixOf (utf8 "CLI_DevicePerfCounterCustom") = true := by decide
    obtain ⟨group, -, rfl⟩ := List.mem_map.mp hgroup
    exact List.isPrefixOf_iff_prefix.mp hname
  · have hname : (utf8 "CLI_").isPrefixOf (utf8 "CLI_ReportToStderr") = true := by decide
    rw [List.mem_singleton.mp hreport]
    exact List.isPrefixOf_iff_prefix.mp hname

/-- The variables of the linker have a prefix of their own. -/
theorem libraryVariables_names {m : Machine} {s : Parsing} {setting : CString × Bytes}
    (h : setting ∈ libraryVariables m s) : (utf8 "LD_").isPrefixOf setting.2 = true := by
  have hpreload : (utf8 "LD_").isPrefixOf (utf8 "LD_PRELOAD") = true := by decide
  have hpath : (utf8 "LD_").isPrefixOf (utf8 "LD_LIBRARY_PATH") = true := by decide
  unfold libraryVariables at h
  split at h
  · exact absurd h List.not_mem_nil
  · rcases List.mem_append.mp h with hmem | hmem
    · split at hmem
      · rw [List.mem_singleton.mp hmem]
        exact hpreload
      · exact absurd hmem List.not_mem_nil
    · split at hmem
      · rw [List.mem_singleton.mp hmem]
        exact hpath
      · exact absurd hmem List.not_mem_nil

/-- A variable that is in no assignment keeps what it has. -/
theorem checkSetEnv_of_notMem {assignments : List (CString × Bytes)} {v : Bytes}
    (h : ∀ a ∈ assignments, a.2 ≠ v) (env : Variables) : checkSetEnv assignments env v = env v := by
  rcases scatter_cases some assignments env v with ⟨-, hkept⟩ | ⟨value, hmem, -⟩
  · exact hkept
  · exact absurd rfl (h _ hmem)

/-- The variables of controls are what the options have made of them. -/
theorem childVariables_control (m : Machine) (us : List Used) (env : Variables) (name : Bytes) :
    childVariables m us env (envName name) =
      ((lastSetting us name).map some).getD (env (envName name)) := by
  have hlibrary : ∀ a ∈ libraryVariables m (parsed us env), a.2 ≠ envName name := by
    intro a ha heq
    have hname := libraryVariables_names ha
    rw [heq] at hname
    have hfalse : (utf8 "LD_").isPrefixOf (utf8 "CLI_" ++ name) = false := rfl
    exact absurd (hname.symm.trans hfalse) (by simp)
  rw [childVariables, checkSetEnv_of_notMem hlibrary, checkSetEnv, scatter_eq_last, lastSetting,
    Option.map_map]
  rfl

/-- The home of the user is left alone. -/
theorem childVariables_home (m : Machine) (us : List Used) (env : Variables) :
    childVariables m us env (utf8 "HOME") = env (utf8 "HOME") := by
  have hlibrary : ∀ a ∈ libraryVariables m (parsed us env), a.2 ≠ utf8 "HOME" := by
    intro a ha heq
    have hname := libraryVariables_names ha
    rw [heq] at hname
    exact absurd hname (by decide)
  have hsettings : ∀ a ∈ settings us, a.2 ≠ utf8 "HOME" := by
    intro a ha heq
    have hname := List.isPrefixOf_iff_prefix.mpr (settings_controls ha)
    rw [heq] at hname
    exact absurd hname (by decide)
  rw [childVariables, checkSetEnv_of_notMem hlibrary, checkSetEnv_of_notMem hsettings]

/-- The loader sets one control by itself, whatever the options are. -/
theorem lastSetting_reportToStderr (us : List Used) : lastSetting us (utf8 "ReportToStderr") =
    some (if us.any Used.toFile then literal "0" else literal "1") := by
  have hname : utf8 "CLI_ReportToStderr" = envName (utf8 "ReportToStderr") := by decide
  rw [lastSetting, settings, List.findRev?_eq_find?_reverse, List.reverse_append,
    List.reverse_singleton, List.singleton_append, List.find?_cons_of_pos (by simp [hname])]
  rfl

/-- **The options set the controls of the application.** A command line that spells options in front
of a command executes that command, in an environment in which every control has what the last
option says that sets it (and `ReportToStderr` what the loader does), and where none does what it
would have without the loader. -/
theorem options_set_controls (m : Machine) (us : List Used) {command : List CString}
    (hcommand : IsCommand command) (env : Variables) :
    ∃ env', main m (us.flatMap Used.spelling ++ command) env = some (env', command) ∧
      ∀ (file : Bytes → Option File) (beyond : Int → UInt32) (t : ControlType) (name : Bytes)
        (value : t.Value) (time : Nat),
        (∀ text written, lastSetting us name = some text → Spells t text.chars written →
          Fits beyond t .environment text.chars →
            getControl beyond time ⟨env', file⟩ t name value = some written) ∧
        (lastSetting us name = none →
          getControl beyond time ⟨env', file⟩ t name value =
            getControl beyond time ⟨env, file⟩ t name value) := by
  refine ⟨childVariables m us env,
    (main_spelled m us hcommand env), fun file beyond t name value time => ⟨?_, ?_⟩⟩
  · intro text written hlast hspells hfits
    have hvariable : childVariables m us env (envName name) = some text := by
      rw [childVariables_control, hlast]
      rfl
    have hstored := storeVariable_of_takes beyond (takes_of_spells hspells)
    have hwritten := (variable_exact_iff beyond t).mpr hfits written hspells
    simp only [getControl, servicesGetControl, hvariable, Option.bind_some, hstored,
      Option.map_some, Option.getD_some, hwritten]
  · intro hlast
    have hvariable : childVariables m us env (envName name) = env (envName name) := by
      rw [childVariables_control, hlast]
      rfl
    simp only [getControl, servicesGetControl, Environment.homeFile, Environment.systemFile,
      hvariable, childVariables_home]

/-- `--capture-enqueue 7` -/
def captureSeven : Used where
  name := literal "--capture-enqueue"
  option := ⟨["--capture-enqueue"], .setValue [
    ("CLI_CaptureReplay", some "1"),
    ("CLI_InitializeBuffers", some "1"),
    ("CLI_AppendBuildOptions", some "-cl-kernel-arg-info"),
    ("CLI_CaptureReplayMinEnqueue", none),
    ("CLI_CaptureReplayMaxEnqueue", none)]⟩
  value := some (literal "7")
  known := rfl
  goesOn := Effect.noConfusion
  valued := rfl

theorem options_set_controls_captureSeven :
    ∃ env', main ⟨literal "/opt/bin", fun _ => false, utf8 "lib"⟩
        [literal "--capture-enqueue", literal "7", literal "app"] (fun _ => none) =
          some (env', [literal "app"]) ∧
      getControl UInt32.ofInt 0 ⟨env', fun _ => none⟩ .uint (utf8 "CaptureReplayMinEnqueue") 0 =
        some 7 := by
  have hcommand : IsCommand [literal "app"] := ⟨literal "app", rfl, rfl⟩
  obtain ⟨env', hmain, hcontrols⟩ := options_set_controls ⟨literal "/opt/bin", fun _ => false,
    utf8 "lib"⟩ [captureSeven] hcommand fun _ => none
  have hwrites : Writes (utf8 "7") 7 :=
    ⟨utf8 "7", by decide, List.all_eq_true.mp (by decide), .inl ⟨rfl, by decide⟩⟩
  refine ⟨env', hmain, (hcontrols (fun _ => none) UInt32.ofInt .uint
    (utf8 "CaptureReplayMinEnqueue") 0 0).1 (literal "7") 7 (by decide) hwrites fun n hn => ?_⟩
  have hn7 : ((7 : Nat) : Int) = n.toNat := hwrites.unique hn
  omega

end CLIntercept.Control
