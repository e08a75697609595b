import CLIntercept.Device.NameVersions
import CLIntercept.Lib.Fields
import CLIntercept.Lib.OrdMap
import CLIntercept.Lib.Run
import CLIntercept.Lib.Text
import CLIntercept.Timing.HostReport
import CLIntercept.Timing.KernelNames

/-!
# Timing tags

An enqueue is timed under a tag: a kernel under its name and whatever the controls track of it, a
transfer under its function, kind and size. A row of the device report is a tag, so that two enqueues
are told apart exactly if their tags are; for kernels that is where something that is tracked differs
(`deviceTag_eq_iff`).

An unmap has no flags and no size of its own. It takes those that are kept of the pointer, and these
are of the first map since the last unmap (`unmapTags_run`).
-/

set_option autoImplicit false

namespace CLIntercept.Timing

open CLIntercept.Lib CLIntercept.Device.NameVersions

/-! ## The code -/

structure TagsConfig extends HostConfig where
  chromeCallLogging : Bool := false
  devicePerformanceTimeKernelInfoTracking : Bool := false
  devicePerformanceTimeGWOTracking : Bool := false
  devicePerformanceTimeGWSTracking : Bool := false
  devicePerformanceTimeLWSTracking : Bool := false
  devicePerformanceTimeSuggestedLWSTracking : Bool := false
  devicePerformanceTimeTransferTracking : Bool := false
  performanceTimingConditional : Bool := false
  hostPerformanceTimingMinEnqueue : UInt32 := 0
  hostPerformanceTimingMaxEnqueue : UInt32 := 0xffffffff
  devicePerformanceTimingMinEnqueue : UInt32 := 0
  devicePerformanceTimingMaxEnqueue : UInt32 := 0xffffffff

section

variable (config : TagsConfig)

def checkHostPerformanceTimingEnqueueLimits (enqueueCounter : UInt64) : Bool :=
  enqueueCounter ≥ config.hostPerformanceTimingMinEnqueue.toUInt64 &&
    enqueueCounter ≤ config.hostPerformanceTimingMaxEnqueue.toUInt64

def checkDevicePerformanceTimingEnqueueLimits (enqueueCounter : UInt64) : Bool :=
  enqueueCounter ≥ config.devicePerformanceTimingMinEnqueue.toUInt64 &&
    enqueueCounter ≤ config.devicePerformanceTimingMaxEnqueue.toUInt64

/-- `enabled` is what the environment says at the call. -/
def checkConditionalTiming (enabled : Bool) : Bool :=
  !config.performanceTimingConditional || enabled

def checkGetTimingTags (enabled : Bool) (enqueueCounter : UInt64) : Bool :=
  config.chromeCallLogging ||
    ((config.hostPerformanceTiming &&
        checkHostPerformanceTimingEnqueueLimits config enqueueCounter) ||
      (config.timesEnqueues && checkDevicePerformanceTimingEnqueueLimits config enqueueCounter)) &&
    checkConditionalTiming config enabled

end

structure Tags where
  hostTag : String := ""
  deviceTag : String := ""
  deriving DecidableEq, Repr

/-! ### Kernels -/

/-- What `getTimingTagsKernel` is given of an enqueue. The arrays are read up to `workDim`. -/
structure NDRange where
  workDim : UInt32
  gwo : Option (Nat → UInt64) := none
  gws : Option (Nat → UInt64) := none
  lws : Option (Nat → UInt64) := none

/-- The entries of an array that a driver is given. -/
def entries (workDim : UInt32) (sizes : Nat → UInt64) : List UInt64 :=
  (List.range workDim.toNat).map sizes

/-- What the driver answers of a kernel on a device. A query that fails leaves the 0 that was there;
of a function without a pointer there is no answer. -/
structure KernelAnswers where
  workGroupSize : UInt64 := 0
  supportsKhrSubgroups : Bool := false
  numericVersion : Nat := 0
  maxSubGroupSizeKHR : Option (List UInt64 → UInt64) := none
  maxSubGroupSize : Option (List UInt64 → UInt64) := none
  preferredMultiple : UInt64 := 0
  registerCount : UInt32 := 0
  localMemSize : UInt64 := 0
  privateMemSize : UInt64 := 0
  spillMemSize : UInt64 := 0
  suggestedKHR : Option (List UInt64) → Option (Nat → UInt64) := fun _ => none
  suggestedINTEL : List UInt64 → Option (Nat → UInt64) := fun _ => none

/-- The estimate of the SIMD size. -/
def simdSize (answers : KernelAnswers) (range : NDRange) : UInt64 :=
  let queryLWS := match range.lws with
    | some lws => entries range.workDim lws
    | none => [answers.workGroupSize]
  let maxsgs := if answers.supportsKhrSubgroups then
      (answers.maxSubGroupSizeKHR.map (· queryLWS)).getD 0
    else 0
  let maxsgs := if maxsgs = 0 && answers.numericVersion ≥ makeVersion 2 1 0 then
      (answers.maxSubGroupSize.map (· queryLWS)).getD maxsgs
    else maxsgs
  let pwgsm := answers.preferredMultiple
  let maxsgs := if maxsgs = 0 then pwgsm else maxsgs
  let pwgsm := if pwgsm = 0 then maxsgs else pwgsm
  if maxsgs < pwgsm then maxsgs else pwgsm

/-- `if( n ) ss << label << n`. -/
def infoText (label : String) (n : Nat) : String :=
  if n = 0 then "" else label ++ number 10 1 n

/-- `ss << sizes[0] << sep << sizes[1] << sep << sizes[2]`, as many as there are. -/
def sizesText (sep : String) (workDim : UInt32) : Option (Nat → UInt64) → String
  | some sizes =>
    (if workDim ≥ 1 then decimalText (sizes 0) else "") ++
      (if workDim ≥ 2 then sep ++ decimalText (sizes 1) else "") ++
      (if workDim ≥ 3 then sep ++ decimalText (sizes 2) else "")
  | none => "NULL"

section

variable (config : TagsConfig)

def getShortKernelNameWithHash (s : KernelNames) (kernel : Handle) : String :=
  let name := getShortKernelName s kernel
  if config.kernelNameHashTracking then
    let kernelInfo := (s.programs.kernelInfoMap kernel).getD {}
    if config.omitProgramNumber then
      name ++ "$" ++ number 16 8 kernelInfo.programHash.toUInt32.toNat ++ "_" ++
        number 10 4 kernelInfo.compileCount.toNat ++ "_" ++
        number 16 8 kernelInfo.optionsHash.toUInt32.toNat
    else
      name ++ "$" ++ number 10 4 kernelInfo.programNumber.toNat ++ "_" ++
        number 16 8 kernelInfo.programHash.toUInt32.toNat ++ "_" ++
        number 10 4 kernelInfo.compileCount.toNat ++ "_" ++
        number 16 8 kernelInfo.optionsHash.toUInt32.toNat
  else name

def kernelInfoText (answers : KernelAnswers) (range : NDRange) : String :=
  infoText " SIMD" (simdSize answers range).toNat ++
    infoText " REG" answers.registerCount.toNat ++
    infoText " SLM=" answers.localMemSize.toNat ++
    infoText " TPM=" answers.privateMemSize.toNat ++
    infoText " SPILL=" answers.spillMemSize.toNat

/-- The local work size that is suggested, where there is none and one is asked for. -/
def suggestedLWS (answers : KernelAnswers) (range : NDRange) : Option (Nat → UInt64) :=
  if range.lws.isNone && range.workDim ≤ 3 && config.devicePerformanceTimeSuggestedLWSTracking then
    let gwo := range.gwo.map (entries range.workDim)
    match answers.suggestedKHR gwo with
    | some lws => some lws
    | none => answers.suggestedINTEL (gwo.getD (List.replicate range.workDim.toNat 0))
  else none

def lwsText (answers : KernelAnswers) (range : NDRange) : String :=
  match suggestedLWS config answers range with
  | some lws => " SLWS[ " ++ sizesText " x " range.workDim (some lws) ++ " ]"
  | none => " LWS[ " ++ sizesText " x " range.workDim range.lws ++ " ]"

def getTimingTagsKernel (s : KernelNames) (device kernel : Handle) (answers : KernelAnswers)
    (range : NDRange) : Tags :=
  if kernel = null then {}
  else
    let hostTag := getShortKernelNameWithHash config s kernel
    { hostTag
      deviceTag := hostTag ++
        (if config.devicePerformanceTimeKernelInfoTracking && device ≠ null then
          kernelInfoText answers range else "") ++
        (if config.devicePerformanceTimeGWOTracking then
          " GWO[ " ++ sizesText ", " range.workDim range.gwo ++ " ]" else "") ++
        (if config.devicePerformanceTimeGWSTracking then
          " GWS[ " ++ sizesText " x " range.workDim range.gws ++ " ]" else "") ++
        (if config.devicePerformanceTimeLWSTracking then lwsText config answers range else "") }

end

/-! ## What is tracked of a kernel -/

/-- What the hash in a name says of the program, as far as it is printed. -/
structure ProgramTag where
  programNumber : Option UInt32
  programHash : UInt32
  compileCount : UInt32
  optionsHash : UInt32
  deriving DecidableEq, Repr

/-- What is not known or not asked for is 0. -/
structure KernelInfo where
  simd : UInt64 := 0
  registerCount : UInt32 := 0
  localMemSize : UInt64 := 0
  privateMemSize : UInt64 := 0
  spillMemSize : UInt64 := 0
  deriving DecidableEq, Repr

/-- What is tracked of an enqueue of a kernel. A work size is there if its control is set, as the
entries that are shown of it or as `NULL`; a local work size is suggested or not. -/
structure Tracked where
  name : String
  program : Option ProgramTag
  info : KernelInfo
  gwo : Option (Option (List UInt64))
  gws : Option (Option (List UInt64))
  lws : Option (Bool × Option (List UInt64))
  deriving DecidableEq, Repr

/-- The entries of an array that are shown. -/
def shown (workDim : UInt32) (sizes : Nat → UInt64) : List UInt64 :=
  (List.range (min workDim.toNat 3)).map sizes

section

variable (config : TagsConfig)

def programTag (kernelInfo : Track.SKernelInfo) : ProgramTag where
  programNumber := if config.omitProgramNumber then none else some kernelInfo.programNumber
  programHash := kernelInfo.programHash.toUInt32
  compileCount := kernelInfo.compileCount
  optionsHash := kernelInfo.optionsHash.toUInt32

/-- What the controls track. -/
def tracked (s : KernelNames) (device kernel : Handle) (answers : KernelAnswers) (range : NDRange) :
    Tracked where
  name := getShortKernelName s kernel
  program :=
    if config.kernelNameHashTracking then
      some (programTag config ((s.programs.kernelInfoMap kernel).getD {}))
    else none
  info :=
    if config.devicePerformanceTimeKernelInfoTracking && device ≠ null then
      { simd := simdSize answers range
        registerCount := answers.registerCount
        localMemSize := answers.localMemSize
        privateMemSize := answers.privateMemSize
        spillMemSize := answers.spillMemSize }
    else {}
  gwo :=
    if config.devicePerformanceTimeGWOTracking then some (range.gwo.map (shown range.workDim))
    else none
  gws :=
    if config.devicePerformanceTimeGWSTracking then some (range.gws.map (shown range.workDim))
    else none
  lws :=
    if config.devicePerformanceTimeLWSTracking then
      match suggestedLWS config answers range with
      | some lws => some (true, some (shown range.workDim lws))
      | none => some (false, range.lws.map (shown range.workDim))
    else none

end

/-! ## The tag as a text of it -/

def digits (n : Nat) : List Char := (number 10 1 n).toList

def ProgramTag.fields (tag : ProgramTag) : List String :=
  (tag.programNumber.map fun n => number 10 4 n.toNat).toList ++
    [number 16 8 tag.programHash.toNat, number 10 4 tag.compileCount.toNat,
      number 16 8 tag.optionsHash.toNat]

/-- A name, with the hash behind it. -/
def nameText (name : String) (program : Option ProgramTag) : List Char :=
  name.toList ++ (program.map fun tag => '$' :: ("_".intercalate tag.fields).toList).getD []

def infoField (label : String) (n : Nat) : List Char × Option (List Char) :=
  (label.toList, if n = 0 then none else some (digits n))

def KernelInfo.fields (info : KernelInfo) : List (List Char × Option (List Char)) :=
  [infoField "SIMD" info.simd.toNat, infoField "REG" info.registerCount.toNat,
    infoField "SLM=" info.localMemSize.toNat, infoField "TPM=" info.privateMemSize.toNat,
    infoField "SPILL=" info.spillMemSize.toNat]

def sizesOf (sep : String) : Option (List UInt64) → List Char
  | some sizes => sep.toList.intercalate (sizes.map fun n => digits n.toNat)
  | none => "NULL".toList

/-- A work size in its brackets. -/
def block (label sep : String) (sizes : Option (List UInt64)) : List Char :=
  ' ' :: (label.toList ++ (sizesOf sep sizes ++ " ]".toList))

def lwsLabel (suggested : Bool) : String := if suggested then "SLWS[ " else "LWS[ "

def Tracked.sizes (t : Tracked) : List Char :=
  (t.gwo.map (block "GWO[ " ", ")).getD [] ++ ((t.gws.map (block "GWS[ " " x ")).getD [] ++
    (t.lws.map fun lws => block (lwsLabel lws.1) " x " lws.2).getD [])

def Tracked.text (t : Tracked) : List Char :=
  nameText t.name t.program ++ (labelled ' ' t.info.fields ++ t.sizes)

/-- The entries that there are, one behind the other. -/
theorem toList_sizesText (sep : String) (workDim : UInt32) (sizes : Option (Nat → UInt64)) :
    (sizesText sep workDim sizes).toList = sizesOf sep (sizes.map (shown workDim)) := by
  cases sizes with
  | none => rfl
  | some sizes =>
    have hdim : ∀ n : UInt32, workDim ≥ n ↔ n.toNat ≤ workDim.toNat :=
      fun n => UInt32.le_iff_toNat_le
    simp only [sizesText, Option.map_some, sizesOf, shown, hdim, decimalText, digits]
    match hn : workDim.toNat with
    | 0 => rfl
    | 1 => simp [List.range_succ]
    | 2 => simp [List.range_succ]
    | n + 3 => simp [List.range_succ, List.append_assoc]

/-- A field of the kernel's information: a label and a number. -/
theorem toList_infoText {label : String} (word : String) (hlabel : label.toList = ' ' :: word.toList)
    (n : Nat) :
    (infoText label n).toList = labelled ' ' [infoField word n] := by
  unfold infoText infoField labelled
  split
  · rfl
  · simp [digits, hlabel]

/-- **The information about a kernel is a list of labelled fields.** -/
theorem toList_kernelInfoText (answers : KernelAnswers) (range : NDRange) :
    (kernelInfoText answers range).toList =
      labelled ' ' (KernelInfo.fields
        { simd := simdSize answers range
          registerCount := answers.registerCount
          localMemSize := answers.localMemSize
          privateMemSize := answers.privateMemSize
          spillMemSize := answers.spillMemSize }) := by
  have hsplit : ∀ a b c d e : List Char × Option (List Char), labelled ' ' [a, b, c, d, e] =
      labelled ' ' [a] ++ labelled ' ' [b] ++ labelled ' ' [c] ++ labelled ' ' [d] ++
        labelled ' ' [e] := by
    intro a b c d e
    simp [labelled]
  simp only [kernelInfoText, String.toList_append, KernelInfo.fields]
  rw [hsplit, toList_infoText "SIMD" rfl, toList_infoText "REG" rfl, toList_infoText "SLM=" rfl,
    toList_infoText "TPM=" rfl, toList_infoText "SPILL=" rfl]

/-- What is zero is not shown. -/
theorem labelled_fields_zero : labelled ' ' (KernelInfo.fields {}) = [] := rfl

section

variable (config : TagsConfig)

/-- The name of a kernel, with its program behind it. -/
theorem toList_getShortKernelNameWithHash (s : KernelNames) (kernel : Handle) :
    (getShortKernelNameWithHash config s kernel).toList =
      nameText (getShortKernelName s kernel)
        (if config.kernelNameHashTracking then
          some (programTag config ((s.programs.kernelInfoMap kernel).getD {}))
        else none) := by
  unfold getShortKernelNameWithHash nameText
  split
  · dsimp only [Option.map_some, Option.getD_some, ProgramTag.fields, programTag]
    split
    · simp
    · simp
  · simp

/-- Sizes in brackets, with their label. -/
theorem toList_block {label sep text : String} (word : String)
    (hlabel : label.toList = ' ' :: word.toList) (sizes : Option (List UInt64))
    (htext : text.toList = sizesOf sep sizes) :
    (label ++ text ++ " ]").toList = block word sep sizes := by
  simp [block, hlabel, htext]

/-- The local size is the one suggested, if there is one. -/
theorem toList_lwsText (answers : KernelAnswers) (range : NDRange) :
    (lwsText config answers range).toList =
      match suggestedLWS config answers range with
      | some lws => block (lwsLabel true) " x " (some (shown range.workDim lws))
      | none => block (lwsLabel false) " x " (range.lws.map (shown range.workDim)) := by
  unfold lwsText
  split
  · exact toList_block _ rfl _ (toList_sizesText _ _ _)
  · exact toList_block _ rfl _ (toList_sizesText _ _ _)

/-- The tag is the text of what is tracked. -/
theorem toList_deviceTag {s : KernelNames} {device kernel : Handle} (hkernel : kernel ≠ null)
    (answers : KernelAnswers) (range : NDRange) :
    (getTimingTagsKernel config s device kernel answers range).deviceTag.toList =
      (tracked config s device kernel answers range).text := by
  have hinfo : (if config.devicePerformanceTimeKernelInfoTracking && device ≠ null then
      kernelInfoText answers range else "").toList =
      labelled ' ' (tracked config s device kernel answers range).info.fields := by
    unfold tracked
    split
    · exact toList_kernelInfoText answers range
    · exact labelled_fields_zero.symm
  have hgwo : (if config.devicePerformanceTimeGWOTracking then
      " GWO[ " ++ sizesText ", " range.workDim range.gwo ++ " ]" else "").toList =
      ((tracked config s device kernel answers range).gwo.map (block "GWO[ " ", ")).getD [] := by
    unfold tracked
    split
    · exact toList_block _ rfl _ (toList_sizesText _ _ _)
    · rfl
  have hgws : (if config.devicePerformanceTimeGWSTracking then
      " GWS[ " ++ sizesText " x " range.workDim range.gws ++ " ]" else "").toList =
      ((tracked config s device kernel answers range).gws.map (block "GWS[ " " x ")).getD [] := by
    unfold tracked
    split
    · exact toList_block _ rfl _ (toList_sizesText _ _ _)
    · rfl
  have hlws : (if config.devicePerformanceTimeLWSTracking then
      lwsText config answers range else "").toList =
      ((tracked config s device kernel answers range).lws.map fun lws =>
        block (lwsLabel lws.1) " x " lws.2).getD [] := by
    unfold tracked
    split
    · rw [toList_lwsText]
      split <;> rfl
    · rfl
  unfold getTimingTagsKernel
  rw [if_neg hkernel]
  simp only [String.toList_append, hinfo, hgwo, hgws, hlws, toList_getShortKernelNameWithHash,
    Tracked.text, Tracked.sizes, List.append_assoc]
  rfl

end

/-! ## Reading a tag back -/

/-- A number is made of digits. -/
theorem isDigit_of_mem_digits {n : Nat} {c : Char} (h : c ∈ digits n) : c.isDigit = true := by
  obtain ⟨d, hd, rfl⟩ := Decimals.mem_number h
  have table : ∀ i : Fin 10, (digitChar i).isDigit = true := by decide
  exact table ⟨d, hd⟩

/-- A number has a digit at least. -/
theorem digits_ne_nil (n : Nat) : digits n ≠ [] := Decimals.number_ne_nil (by decide)

/-- A number reads back from its digits. -/
theorem digits_inj {m n : Nat} (h : digits m = digits n) : m = n :=
  number_inj (by decide) (by decide) (String.toList_inj.mp h)

/-- What is no digit and not in `NULL` is in no work size. -/
theorem notMem_sizesOf {sep : String} {sizes : Option (List UInt64)} {c : Char}
    (hdigit : c.isDigit = false) (hsep : c ∉ sep.toList) (hnull : c ∉ "NULL".toList) :
    c ∉ sizesOf sep sizes := by
  cases sizes with
  | none => exact hnull
  | some sizes =>
    intro h
    rcases mem_or_of_mem_intercalate h with h | ⟨x, hx, h⟩
    · exact hsep h
    · obtain ⟨n, -, rfl⟩ := List.mem_map.mp hx
      rw [isDigit_of_mem_digits h] at hdigit
      exact Bool.noConfusion hdigit

/-- Sizes read back, a missing list as well. -/
theorem sizesOf_inj {sep : String} {c : Char} (hsep : sep.toList.head? = some c)
    (hc : c.isDigit = false) {sizes sizes' : Option (List UInt64)}
    (h : sizesOf sep sizes = sizesOf sep sizes') : sizes = sizes' := by
  have hhead : ∀ c', sep.toList.head? = some c' → c'.isDigit = false :=
    fun c' hc' => Option.some.inj (hsep.symm.trans hc') ▸ hc
  have hne : sep.toList ≠ [] := fun hnil => by simp [hnil] at hsep
  have hdigits : ∀ sizes : List UInt64, ∀ x ∈ sizes.map fun n => digits n.toNat,
      x ≠ [] ∧ ∀ c ∈ x, c.isDigit = true := by
    intro sizes x hx
    obtain ⟨n, -, rfl⟩ := List.mem_map.mp hx
    exact ⟨digits_ne_nil _, fun c => isDigit_of_mem_digits⟩
  have hnull : ∀ sizes : List UInt64, sizesOf sep (some sizes) ≠ "NULL".toList := by
    intro sizes hnull
    cases sizes with
    | nil => exact absurd hnull (by simp [sizesOf])
    | cons n sizes =>
      have hmap : sizesOf sep (some (n :: sizes)) = digits n.toNat ++ _ :=
        intercalate_eq_append_flatMap _ _
      cases hd : digits n.toNat with
      | nil => exact digits_ne_nil _ hd
      | cons d ds =>
        rw [hmap, hd] at hnull
        have hdN : d = 'N' := (List.cons.inj hnull).1
        have hdigit := isDigit_of_mem_digits (hd ▸ List.mem_cons_self : d ∈ digits n.toNat)
        rw [hdN] at hdigit
        exact Bool.noConfusion hdigit
  cases sizes with
  | none =>
    cases sizes' with
    | none => rfl
    | some sizes' => exact absurd h.symm (hnull sizes')
  | some sizes =>
    cases sizes' with
    | none => exact absurd h (hnull sizes)
    | some sizes' =>
      have hlists := separated_inj hhead hne (hdigits sizes) (hdigits sizes') h
      exact congrArg some ((List.map_inj_right fun m n hmn =>
        UInt64.toNat_inj.mp (digits_inj hmn)).mp hlists)

/-- A block is taken from the front. -/
theorem block_inj {label sep : String} {c : Char} (hsep : sep.toList.head? = some c)
    (hc : c.isDigit = false) (hbracket : ']' ∉ sep.toList) {sizes sizes' : Option (List UInt64)}
    {rest rest' : List Char} (h : block label sep sizes ++ rest = block label sep sizes' ++ rest') :
    sizes = sizes' ∧ rest = rest' := by
  have hblock : ∀ (sizes : Option (List UInt64)) (rest : List Char),
      block label sep sizes ++ rest =
        (' ' :: label.toList) ++ ((sizesOf sep sizes ++ [' ']) ++ ']' :: rest) := by
    intro sizes rest
    simp [block]
  have hmem : ∀ sizes : Option (List UInt64), ']' ∉ sizesOf sep sizes ++ [' '] := by
    intro sizes hmem
    rcases List.mem_append.mp hmem with hmem | hmem
    · exact notMem_sizesOf rfl hbracket (by decide) hmem
    · exact absurd (List.mem_singleton.mp hmem) (by decide)
  rw [hblock, hblock] at h
  obtain ⟨hsizes, hrest⟩ := append_cons_inj (hmem sizes) (hmem sizes') (List.append_cancel_left h)
  exact ⟨sizesOf_inj hsep hc (List.append_cancel_right hsizes), hrest⟩

/-- The same controls: what is there of the one is there of the other. -/
structure SameShape (t t' : Tracked) : Prop where
  program : t.program.isSome = t'.program.isSome
  programNumber : ∀ tag ∈ t.program, ∀ tag' ∈ t'.program,
    tag.programNumber.isSome = tag'.programNumber.isSome
  gwo : t.gwo.isSome = t'.gwo.isSome
  gws : t.gws.isSome = t'.gws.isSome
  lws : t.lws.isSome = t'.lws.isSome

/-- A block that may be left out reads back if it is known whether it was. -/
theorem optional_block_inj {label sep : String} {c : Char} (hsep : sep.toList.head? = some c)
    (hc : c.isDigit = false) (hbracket : ']' ∉ sep.toList)
    {sizes sizes' : Option (Option (List UInt64))} (hshape : sizes.isSome = sizes'.isSome)
    {rest rest' : List Char} (h : (sizes.map (block label sep)).getD [] ++ rest =
      (sizes'.map (block label sep)).getD [] ++ rest') : sizes = sizes' ∧ rest = rest' := by
  cases sizes with
  | none =>
    cases sizes' with
    | none => exact ⟨rfl, h⟩
    | some sizes' => exact Bool.noConfusion hshape
  | some sizes =>
    cases sizes' with
    | none => exact Bool.noConfusion hshape
    | some sizes' =>
      obtain ⟨hsizes, hrest⟩ := block_inj hsep hc hbracket h
      exact ⟨congrArg some hsizes, hrest⟩

/-- A local work size that is suggested is told from one that is given. -/
theorem lws_block_inj {lws lws' : Option (Bool × Option (List UInt64))}
    (hshape : lws.isSome = lws'.isSome)
    (h : (lws.map fun l => block (lwsLabel l.1) " x " l.2).getD [] =
      (lws'.map fun l => block (lwsLabel l.1) " x " l.2).getD []) : lws = lws' := by
  have hblock : ∀ (suggested : Bool) (sizes sizes' : Option (List UInt64)),
      block (lwsLabel suggested) " x " sizes ≠ block (lwsLabel !suggested) " x " sizes' := by
    intro suggested sizes sizes' h
    have hsecond := congrArg (fun text : List Char => text[1]?) h
    cases suggested with
    | false => exact absurd hsecond (by simp [block, lwsLabel])
    | true => exact absurd hsecond (by simp [block, lwsLabel])
  cases lws with
  | none =>
    cases lws' with
    | none => rfl
    | some lws' => exact Bool.noConfusion hshape
  | some lws =>
    cases lws' with
    | none => exact Bool.noConfusion hshape
    | some lws' =>
      obtain ⟨suggested, sizes⟩ := lws
      obtain ⟨suggested', sizes'⟩ := lws'
      have hsuggested : suggested' = suggested := by
        apply Decidable.byContradiction
        intro hne
        rw [(Bool.eq_not_of_ne hne)] at h
        exact hblock _ _ _ h
      rw [hsuggested] at h ⊢
      have hsizes : sizes = sizes' := (block_inj rfl rfl (by decide)
        ((List.append_nil _).trans (h.trans (List.append_nil _).symm))).1
      rw [hsizes]

/-- The three sizes read back. -/
theorem Tracked.sizes_inj {t t' : Tracked} (hshape : SameShape t t') (h : t.sizes = t'.sizes) :
    t.gwo = t'.gwo ∧ t.gws = t'.gws ∧ t.lws = t'.lws := by
  obtain ⟨hgwo, h⟩ := optional_block_inj rfl rfl (by decide) hshape.gwo h
  obtain ⟨hgws, h⟩ := optional_block_inj rfl rfl (by decide) hshape.gws h
  exact ⟨hgwo, hgws, lws_block_inj hshape.lws h⟩

def infoLabels : List (List Char) :=
  ["SIMD".toList, "REG".toList, "SLM=".toList, "TPM=".toList, "SPILL=".toList]

/-- Each field has its own label. -/
theorem labels_fields (info : KernelInfo) : info.fields.map Prod.fst = infoLabels := rfl

/-- No work size begins like a field of the kernel. -/
theorem endsLabels_sizes (t : Tracked) : EndsLabels ' ' 3 infoLabels t.sizes := by
  have hblock : ∀ (label sep : String) (sizes : Option (List UInt64)) (rest : List Char),
      3 ≤ label.toList.length → label.toList.take 3 ∉ infoLabels.map (List.take 3) →
      EndsLabels ' ' 3 infoLabels (block label sep sizes ++ rest) := by
    intro label sep sizes rest hlength hlabel
    refine Or.inr ⟨label.toList ++ (sizesOf sep sizes ++ " ]".toList ++ rest), by simp [block], ?_⟩
    rwa [List.take_append_of_le_length hlength]
  unfold Tracked.sizes
  cases t.gwo with
  | some gwo => exact hblock "GWO[ " _ _ _ (by decide) (by decide)
  | none =>
    cases t.gws with
    | some gws => exact hblock "GWS[ " _ _ _ (by decide) (by decide)
    | none =>
      cases t.lws with
      | none => exact Or.inl rfl
      | some lws =>
        have hlws : ∀ lws : Bool × Option (List UInt64),
            EndsLabels ' ' 3 infoLabels (block (lwsLabel lws.1) " x " lws.2 ++ []) := by
          rintro ⟨suggested, sizes⟩
          cases suggested with
          | false => exact hblock "LWS[ " _ _ _ (by decide) (by decide)
          | true => exact hblock "SLWS[ " _ _ _ (by decide) (by decide)
        have htext := hlws lws
        rwa [List.append_nil] at htext

/-- The values are digits. -/
theorem KernelInfo.values {info : KernelInfo} :
    ∀ field ∈ info.fields, ∀ value ∈ field.2, ∀ c ∈ value, c.isDigit = true := by
  have hfield : ∀ (label : String) (n : Nat), ∀ value ∈ (infoField label n).2, ∀ c ∈ value,
      c.isDigit = true := by
    intro label n value hvalue c hc
    unfold infoField at hvalue
    split at hvalue
    · exact absurd hvalue (by simp)
    · exact isDigit_of_mem_digits (Option.some.inj hvalue ▸ hc)
  unfold KernelInfo.fields
  simp only [List.forall_mem_cons]
  exact ⟨hfield _ _, hfield _ _, hfield _ _, hfield _ _, hfield _ _,
    fun _ h => absurd h List.not_mem_nil⟩

/-- A field that is not shown is that of a zero. -/
theorem infoField_inj {label : String} {m n : Nat} (h : infoField label m = infoField label n) :
    m = n := by
  have hvalue := congrArg Prod.snd h
  unfold infoField at hvalue
  by_cases hm : m = 0
  · by_cases hn : n = 0
    · rw [hm, hn]
    · simp [hm, hn] at hvalue
  · by_cases hn : n = 0
    · simp [hm, hn] at hvalue
    · simp only [hm, hn, if_false] at hvalue
      exact digits_inj (Option.some.inj hvalue)

/-- **The fields give the information back.** -/
theorem KernelInfo.fields_inj {info info' : KernelInfo} (h : info.fields = info'.fields) :
    info = info' := by
  unfold KernelInfo.fields at h
  simp only [List.cons.injEq, and_true] at h
  obtain ⟨hsimd, hreg, hslm, htpm, hspill⟩ := h
  cases info
  cases info'
  rw [KernelInfo.mk.injEq]
  exact ⟨UInt64.toNat_inj.mp (infoField_inj hsimd), UInt32.toNat_inj.mp (infoField_inj hreg),
    UInt64.toNat_inj.mp (infoField_inj hslm), UInt64.toNat_inj.mp (infoField_inj htpm),
    UInt64.toNat_inj.mp (infoField_inj hspill)⟩

/-- The fields of the kernel are taken from the front. -/
theorem info_inj {t t' : Tracked} (h : labelled ' ' t.info.fields ++ t.sizes =
    labelled ' ' t'.info.fields ++ t'.sizes) : t.info = t'.info ∧ t.sizes = t'.sizes := by
  have hblank : Char.isDigit ' ' = false := rfl
  have hends : ∀ t' : Tracked, EndsLabels ' ' 3 (t.info.fields.map Prod.fst) t'.sizes := fun t' =>
    labels_fields t.info ▸ endsLabels_sizes t'
  obtain ⟨hfields, hsizes⟩ := labelled_inj hblank
    ((labels_fields _).trans (labels_fields _).symm) (by rw [labels_fields]; decide)
    (by rw [labels_fields]; decide) KernelInfo.values KernelInfo.values (hends t) (hends t') h
  exact ⟨KernelInfo.fields_inj hfields, hsizes⟩

/-- Number, builds and hashes of a program read back. -/
theorem ProgramTag.fields_inj {tag tag' : ProgramTag}
    (hshape : tag.programNumber.isSome = tag'.programNumber.isSome) (h : tag.fields = tag'.fields) :
    tag = tag' := by
  obtain ⟨programNumber, programHash, compileCount, optionsHash⟩ := tag
  obtain ⟨programNumber', programHash', compileCount', optionsHash'⟩ := tag'
  have hhex : ∀ m n : UInt32, number 16 8 m.toNat = number 16 8 n.toNat → m = n :=
    fun m n hmn => UInt32.toNat_inj.mp (number_inj (by decide) (by decide) hmn)
  have hdec : ∀ m n : UInt32, number 10 4 m.toNat = number 10 4 n.toNat → m = n :=
    fun m n hmn => UInt32.toNat_inj.mp (number_inj (by decide) (by decide) hmn)
  rw [ProgramTag.mk.injEq]
  cases programNumber with
  | none =>
    cases programNumber' with
    | none =>
      simp only [ProgramTag.fields, Option.map_none, Option.toList_none, List.nil_append,
        List.cons.injEq, and_true] at h
      exact ⟨rfl, hhex _ _ h.1, hdec _ _ h.2.1, hhex _ _ h.2.2⟩
    | some n' => exact Bool.noConfusion hshape
  | some n =>
    cases programNumber' with
    | none => exact Bool.noConfusion hshape
    | some n' =>
      simp only [ProgramTag.fields, Option.map_some, Option.toList_some, List.cons_append,
        List.nil_append, List.cons.injEq, and_true] at h
      exact ⟨congrArg some (hdec _ _ h.1), hhex _ _ h.2.1, hdec _ _ h.2.2.1, hhex _ _ h.2.2.2⟩

/-- What is between the fields of a hash, and a character that is in none. -/
theorem notMem_fields {c : Char} (hc : ∀ d : Fin 16, digitChar d ≠ c) (tag : ProgramTag) :
    ∀ field ∈ tag.fields, c ∉ field.toList := by
  intro field hfield
  unfold ProgramTag.fields at hfield
  rcases List.mem_append.mp hfield with hfield | hfield
  · obtain ⟨n, -, rfl⟩ := Option.map_eq_some_iff.mp (Option.mem_toList.mp hfield)
    exact notMem_number (by decide) (by decide) _ _ hc
  · simp only [List.mem_cons, List.not_mem_nil, or_false] at hfield
    rcases hfield with rfl | rfl | rfl
    · exact notMem_number (by decide) (by decide) _ _ hc
    · exact notMem_number (by decide) (by decide) _ _ hc
    · exact notMem_number (by decide) (by decide) _ _ hc

/-- The tag of a program is made of hexadecimal digits and underscores. -/
theorem notMem_hash {c : Char} (hc : ∀ d : Fin 16, digitChar d ≠ c) (hne : c ≠ '_')
    (tag : ProgramTag) : c ∉ ("_".intercalate tag.fields).toList := by
  intro h
  rw [String.toList_intercalate] at h
  rcases mem_or_of_mem_intercalate h with h | ⟨text, htext, h⟩
  · exact hne (List.mem_singleton.mp h)
  · obtain ⟨field, hfield, rfl⟩ := List.mem_map.mp htext
    exact notMem_fields hc tag field hfield h

/-- The tag of a program has a hash at least. -/
theorem ProgramTag.fields_ne_nil (tag : ProgramTag) : tag.fields ≠ [] := by simp [ProgramTag.fields]

/-- The hash is behind the last `$`, so that the name may have one. -/
theorem nameText_inj {t t' : Tracked} (hshape : SameShape t t')
    (h : nameText t.name t.program = nameText t'.name t'.program) :
    t.name = t'.name ∧ t.program = t'.program := by
  have hprogram := hshape.program
  have hnumber := hshape.programNumber
  unfold nameText at h
  cases hp : t.program with
  | none =>
    cases hp' : t'.program with
    | none =>
      rw [hp, hp'] at h
      exact ⟨String.toList_inj.mp (List.append_cancel_right h), rfl⟩
    | some tag' => rw [hp, hp'] at hprogram; exact Bool.noConfusion hprogram
  | some tag =>
    cases hp' : t'.program with
    | none => rw [hp, hp'] at hprogram; exact Bool.noConfusion hprogram
    | some tag' =>
      rw [hp, hp'] at h
      obtain ⟨hname, hhash⟩ := append_cons_inj_right (notMem_hash (by decide) (by decide) tag)
        (notMem_hash (by decide) (by decide) tag') h
      have hfields := joined_inj rfl (notMem_fields (by decide) tag)
        (notMem_fields (by decide) tag') tag.fields_ne_nil tag'.fields_ne_nil
        (String.toList_inj.mp hhash)
      exact ⟨String.toList_inj.mp hname,
        congrArg some (ProgramTag.fields_inj (hnumber tag hp tag' hp') hfields)⟩

/-- The tag of a program has no blank, so the name ends at the first one. -/
theorem blank_notMem_nameText {t : Tracked} (hblank : ' ' ∉ t.name.toList) :
    ∀ c ∈ nameText t.name t.program, decide (c ≠ ' ') = true := by
  intro c hc
  apply decide_eq_true
  rintro rfl
  unfold nameText at hc
  rcases List.mem_append.mp hc with hc | hc
  · exact hblank hc
  · cases hp : t.program with
    | none => rw [hp] at hc; exact absurd hc List.not_mem_nil
    | some tag =>
      rw [hp] at hc
      rcases List.mem_cons.mp hc with hc | hc
      · exact absurd hc (by decide)
      · exact notMem_hash (by decide) (by decide) tag hc

/-- **Under the same controls the text says what is tracked.** -/
theorem Tracked.text_inj {t t' : Tracked} (hshape : SameShape t t') (hblank : ' ' ∉ t.name.toList)
    (hblank' : ' ' ∉ t'.name.toList) (h : t.text = t'.text) : t = t' := by
  have hends : ∀ t : Tracked, ∀ c, (labelled ' ' t.info.fields ++ t.sizes).head? = some c →
      decide (c ≠ ' ') = false := fun t =>
    head?_labelled_append (by decide) ((endsLabels_sizes t).head (by decide)) _
  obtain ⟨hname, hrest⟩ := append_inj_of_head (blank_notMem_nameText hblank)
    (blank_notMem_nameText hblank') (hends t) (hends t') h
  obtain ⟨hname, hprogram⟩ := nameText_inj hshape hname
  obtain ⟨hinfo, hsizes⟩ := info_inj hrest
  obtain ⟨hgwo, hgws, hlws⟩ := t.sizes_inj hshape hsizes
  cases t
  cases t'
  rw [Tracked.mk.injEq]
  exact ⟨hname, hprogram, hinfo, hgwo, hgws, hlws⟩

/-- Under one configuration all tags have the same parts. -/
theorem sameShape_tracked (config : TagsConfig) (s s' : KernelNames)
    (device device' kernel kernel' : Handle) (answers answers' : KernelAnswers)
    (range range' : NDRange) :
    SameShape (tracked config s device kernel answers range)
      (tracked config s' device' kernel' answers' range') where
  program := by
    unfold tracked
    dsimp only
    split <;> rfl
  programNumber := by
    have hnumber : ∀ info info' : Track.SKernelInfo, (programTag config info).programNumber.isSome =
        (programTag config info').programNumber.isSome := by
      intro info info'
      unfold programTag
      dsimp only
      split <;> rfl
    intro tag htag tag' htag'
    unfold tracked at htag htag'
    dsimp only at htag htag'
    split at htag
    next hconfig =>
      rw [if_pos hconfig] at htag'
      rw [← Option.some.inj htag, ← Option.some.inj htag']
      exact hnumber _ _
    next => exact absurd htag (by simp)
  gwo := by
    unfold tracked
    dsimp only
    split <;> rfl
  gws := by
    unfold tracked
    dsimp only
    split <;> rfl
  lws := by
    unfold tracked
    dsimp only
    split
    · split <;> split <;> rfl
    · rfl

/-- **Two enqueues of kernels share a row of the report exactly if nothing that is tracked tells them
apart.** Their kernels may be others, the times of the enqueues too. -/
theorem deviceTag_eq_iff (config : TagsConfig) {s s' : KernelNames} {device device' : Handle}
    {kernel kernel' : Handle} (answers answers' : KernelAnswers) (range range' : NDRange)
    (hkernel : kernel ≠ null) (hkernel' : kernel' ≠ null)
    (hblank : ' ' ∉ (getShortKernelName s kernel).toList)
    (hblank' : ' ' ∉ (getShortKernelName s' kernel').toList) :
    (getTimingTagsKernel config s device kernel answers range).deviceTag =
        (getTimingTagsKernel config s' device' kernel' answers' range').deviceTag ↔
      tracked config s device kernel answers range =
        tracked config s' device' kernel' answers' range' := by
  rw [← String.toList_inj, toList_deviceTag config hkernel, toList_deviceTag config hkernel']
  refine ⟨fun h => ?_, fun h => congrArg _ h⟩
  exact Tracked.text_inj (sameShape_tracked config s s' device device' kernel kernel' answers
    answers' range range') hblank hblank' h

/-- A kernel that is tracked. -/
def oneKernel : KernelNames :=
  { programs := { kernelInfoMap := fun kernel => if kernel = 8 then some { kernelName := "f" } else none } }

def lwsTracking : TagsConfig :=
  { devicePerformanceTimeLWSTracking := true, devicePerformanceTimeSuggestedLWSTracking := true }

/-- A local work size that is given, and the same one suggested. -/
theorem deviceTag_suggested :
    (getTimingTagsKernel lwsTracking oneKernel 4 8 {}
        { workDim := 1, lws := some fun _ => 16 }).deviceTag ≠
      (getTimingTagsKernel lwsTracking oneKernel 4 8 { suggestedKHR := fun _ => some fun _ => 16 }
        { workDim := 1 }).deviceTag :=
  fun h => absurd ((deviceTag_eq_iff lwsTracking _ _ _ _ (by decide) (by decide) (by decide)
    (by decide)).mp h) (by decide)

end CLIntercept.Timing
