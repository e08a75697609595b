import CLIntercept.Config
import CLIntercept.Device.Extensions
import CLIntercept.Device.NameVersions
import CLIntercept.Usm.Query

/-!
# Platforms and devices that answer for themselves

`clGetPlatformInfo` and `clGetDeviceInfo` of the layer answer some queries from the controls, put
some together from what the driver answers to others, and hand the rest to the driver.

A driver keeps a protocol: a query has one answer, and a call is told its size, or gets it if there
is room, or is refused. What the layer must not lose is this protocol. `serve` states it of one
answer, and `DeviceAnswers` is what a driver answers, with what the layer relies on: texts end in
their only `NUL`.

One query breaks it. Where the layer puts the extensions together, what the write returns goes to a
variable of the inner block: an application whose buffer is too small is told that all went well.
The control `NoErrors` says the same of every query that is refused.
-/

set_option autoImplicit false

namespace CLIntercept.Device.Info

open CLIntercept.Lib
open CLIntercept.Device.NameVersions
open CLIntercept.Usm (Destination Answer writeParamToMemory)

/-! ## Controls -/

/-- The controls that are answers, and those that emulate. -/
structure InfoConfig extends Config where
  deviceCVersion : CString := .empty
  deviceExtensions : CString := .empty
  deviceILVersion : CString := .empty
  deviceMaxComputeUnits : UInt32 := 0
  deviceName : CString := .empty
  devicePreferredVectorWidthChar : UInt32 := 0xffffffff
  devicePreferredVectorWidthDouble : UInt32 := 0xffffffff
  devicePreferredVectorWidthFloat : UInt32 := 0xffffffff
  devicePreferredVectorWidthHalf : UInt32 := 0xffffffff
  devicePreferredVectorWidthInt : UInt32 := 0xffffffff
  devicePreferredVectorWidthLong : UInt32 := 0xffffffff
  devicePreferredVectorWidthShort : UInt32 := 0xffffffff
  deviceProfile : CString := .empty
  deviceType : UInt32 := 0
  deviceVendor : CString := .empty
  deviceVendorID : UInt32 := 0
  deviceVersion : CString := .empty
  driverVersion : CString := .empty
  emulateExtendedVersioning : Bool := false
  emulateSemaphore : Bool := false
  platformName : CString := .empty
  platformProfile : CString := .empty
  platformVendor : CString := .empty
  platformVersion : CString := .empty
  prependDeviceExtensions : CString := .empty
  deriving DecidableEq, Repr

/-! ## Queries -/

/-- `cl_platform_info`. -/
inductive PlatformInfo
  | name
  | vendor
  | profile
  | version
  | extensions
  | numericVersion
  | extensionsWithVersion
  | semaphoreTypes
  | other (value : Nat)
  deriving DecidableEq, Repr

/-- `cl_device_info`. -/
inductive DeviceInfo
  | type
  | name
  | extensions
  | vendor
  | profile
  | version
  | openclCVersion
  | ilVersion
  | vendorId
  | maxComputeUnits
  | preferredVectorWidthChar
  | preferredVectorWidthShort
  | preferredVectorWidthInt
  | preferredVectorWidthLong
  | preferredVectorWidthHalf
  | preferredVectorWidthFloat
  | preferredVectorWidthDouble
  | numericVersion
  | openclCNumericVersion
  | extensionsWithVersion
  | ilsWithVersion
  | builtInKernels
  | builtInKernelsWithVersion
  | driverVersion
  | svmCapabilities
  | hostMemCapabilities
  | deviceMemCapabilities
  | singleDeviceSharedMemCapabilities
  | crossDeviceSharedMemCapabilities
  | sharedSystemMemCapabilities
  | semaphoreTypes
  | other (value : Nat)
  deriving DecidableEq, Repr

/-- The driver's function, or the layer's, for one platform or device. -/
abbrev GetInfo (Param : Type) := Param → Destination → Answer

/-- `strcpy_s` is `strncpy`, which fills what is left of the length with zeros. -/
def writeStringToMemory (dest : Destination) (param : Bytes) : Answer :=
  let length := param.length + 1
  let sizeRet := if dest.paramValueSizeRet then some length else none
  if dest.paramValue then
    if dest.paramValueSize < length then ⟨clInvalidValue, none, sizeRet⟩
    else
      let text := cText param
      ⟨clSuccess, some (text ++ List.replicate (length - text.length) 0), sizeRet⟩
  else ⟨clSuccess, none, sizeRet⟩

/-- The bytes of a `cl_uint`. -/
def uintBytes (n : Nat) : Bytes := (pointerBytes n).take 4

/-- What memory holds after a store to its beginning. -/
def stored (memory : Bytes) : Option Bytes → Bytes
  | none => memory
  | some written => written ++ memory.drop written.length

/-- `getPlatformInfoString` and `getDeviceInfoString`: what they return, and the string. An answer
has at least the `NUL` that `pop_back` takes off. -/
def getInfoString {Param : Type} (getInfo : GetInfo Param) (paramName : Param) : Int × Bytes :=
  let first := getInfo paramName ⟨0, false, true⟩
  if first.retVal = clSuccess then
    let size := first.paramValueSizeRet.getD 0
    let second := getInfo paramName ⟨size, true, false⟩
    let str := (stored (List.replicate size 32) second.paramValue).dropLast
    if second.retVal = clSuccess then (clSuccess, str) else (second.retVal, [])
  else (first.retVal, [])

def getPlatformInfoString : GetInfo PlatformInfo → PlatformInfo → Int × Bytes := getInfoString

def getDeviceInfoString : GetInfo DeviceInfo → DeviceInfo → Int × Bytes := getInfoString

/-! ## Versions -/

/-- The characters of a literal. -/
def ascii (text : String) : Bytes := text.toList.map fun c => UInt8.ofNat c.toNat

/-- `while( isdigit(str[0]) )`, in a `size_t`. -/
def versionDigits : Nat → Bytes → Nat × Bytes
  | n, [] => (n, [])
  | n, c :: str =>
    if isdigit c then versionDigits ((n * 10 % sizeModulus + (c.toNat - 48)) % sizeModulus) str
    else (n, c :: str)

/-- `major` and `minor`. A missing dot is an assertion, and what follows is read all the same. -/
def getMajorMinorVersionFromString (start str : Bytes) : Nat × Nat :=
  if start.isPrefixOf str then
    let (major, str) := versionDigits 0 (str.drop start.length)
    let (minor, _) := versionDigits 0 (skipDot str)
    (major, minor)
  else (0, 0)

/-- A version, from the string that has it. `none` if the device does not answer with a string. -/
def overrideNumericVersion (start : Bytes) (version : Int × Bytes) (dest : Destination) :
    Option Answer :=
  if version.1 = clSuccess then
    let (major, minor) := getMajorMinorVersionFromString start (cText version.2)
    some (writeParamToMemory dest (uintBytes (makeVersion major minor 0)))
  else none

/-! ## Arrays of names -/

/-- An entry as it lies in the array. -/
def nameVersionBytes (entry : NameVersion) : Bytes := uintBytes entry.version ++ entry.name

/-- What a call of one of the three functions writes, as bytes. -/
def ofResult (dest : Destination) (result : Result) : Answer where
  retVal := result.errorCode
  paramValue :=
    if dest.paramValue && result.errorCode == clSuccess then
      some (result.written.flatMap nameVersionBytes)
    else none
  paramValueSizeRet := result.sizeRet

/-- `str` is a `std::string`, which the functions are given by its `c_str`. -/
def overrideListing (listing : Listing) (str : Bytes) (dest : Destination) : Answer :=
  ofResult dest (listing.parse ⟨cText str, zero_notMem_cText str⟩ dest.paramValue
    dest.paramValueSize dest.paramValueSizeRet)

/-! ## Capabilities of shared memory -/

/-- The five answers. -/
structure UsmCaps where
  hostCaps : UInt64 := 0
  deviceCaps : UInt64 := 0
  sdSharedCaps : UInt64 := 0
  cdSharedCaps : UInt64 := 0
  sysSharedCaps : UInt64 := 0
  deriving DecidableEq, Repr

def usmCaps (svmCaps : UInt64) : UsmCaps :=
  let acc : UInt64 := 1
  let ato : UInt64 := 2
  let cacc : UInt64 := 4
  let cato : UInt64 := 8
  let coarseGrainBuffer : UInt64 := 1
  let fineGrainBuffer : UInt64 := 2
  let fineGrainSystem : UInt64 := 4
  let atomics : UInt64 := 8
  let all := acc ||| ato ||| cacc
  if svmCaps &&& fineGrainSystem ≠ 0 then
    if svmCaps &&& atomics ≠ 0 then
      ⟨all ||| cato, acc ||| ato ||| cato, all ||| cato, all ||| cato, all ||| cato⟩
    else ⟨all, acc ||| ato, all, all, all⟩
  else if svmCaps &&& fineGrainBuffer ≠ 0 then
    if svmCaps &&& atomics ≠ 0 then
      ⟨all ||| cato, acc ||| ato ||| cato, all ||| cato, all ||| cato, 0⟩
    else ⟨all, acc ||| ato, all, all, 0⟩
  else if svmCaps &&& coarseGrainBuffer ≠ 0 then { deviceCaps := acc ||| ato }
  else {}

/-- `svmCaps`, which is 0 before the driver is asked. -/
def getSvmCaps (getInfo : GetInfo DeviceInfo) : UInt64 :=
  let answer := getInfo .svmCapabilities ⟨8, true, false⟩
  UInt64.ofNat (stored (List.replicate 8 0) answer.paramValue).toNat

def overrideUsmCaps (config : InfoConfig) (getInfo : GetInfo DeviceInfo)
    (cap : UsmCaps → UInt64) (dest : Destination) : Option Answer :=
  if config.emulateUnifiedSharedMemory then
    some (writeParamToMemory dest (pointerBytes (cap (usmCaps (getSvmCaps getInfo))).toNat))
  else none

/-! ## Answers from the controls -/

def overrideString (own : CString) (dest : Destination) : Option Answer :=
  if own.chars ≠ [] then some (writeStringToMemory dest own.chars) else none

/-- `unset` is the value of a control that is not set. -/
def overrideUint (unset own : UInt32) (dest : Destination) : Option Answer :=
  if own ≠ unset then some (writeParamToMemory dest (uintBytes own.toNat)) else none

/-- `CL_SEMAPHORE_TYPE_BINARY_KHR`. -/
def clSemaphoreTypeBinaryKhr : Nat := 1

def overrideSemaphoreTypes (config : InfoConfig) (dest : Destination) : Option Answer :=
  if config.emulateSemaphore then
    some (writeParamToMemory dest (uintBytes clSemaphoreTypeBinaryKhr))
  else none

/-! ## Extensions -/

/-- Bytes as the characters of a text. -/
def chars (text : Bytes) : List Char := text.map fun c => Char.ofNat c.toNat

/-- `checkDeviceForExtension`, which asks the driver. Its search always ends. -/
def deviceHas (getInfo : GetInfo DeviceInfo) (extensionName : String) : Bool :=
  let (errorCode, deviceExtensions) := getDeviceInfoString getInfo .extensions
  checkDeviceForExtension (some extensionName.toList)
    (if errorCode = clSuccess then some (chars deviceExtensions) else none) == some true

/-- `newExtensions += extensionName` and a space. -/
def addMissing (emulated : Bool) (getInfo : GetInfo DeviceInfo) (extensionName : String)
    (newExtensions : Bytes) : Bytes :=
  if emulated && !deviceHas getInfo extensionName then newExtensions ++ ascii extensionName ++ [32]
  else newExtensions

/-- What is put in front of the extensions of the device. -/
def newExtensions (config : InfoConfig) (getInfo : GetInfo DeviceInfo) : Bytes :=
  let str := config.prependDeviceExtensions.chars
  let str := if str ≠ [] ∧ str.getLast? ≠ some 32 then str ++ [32] else str
  let str := addMissing config.emulateExtendedVersioning getInfo "cl_khr_extended_versioning" str
  let str := addMissing config.emulateSemaphore getInfo "cl_khr_semaphore" str
  addMissing config.emulateUnifiedSharedMemory getInfo "cl_intel_unified_shared_memory" str

def overrideExtensions (config : InfoConfig) (getInfo : GetInfo DeviceInfo) (dest : Destination) :
    Option Answer :=
  if config.deviceExtensions.chars ≠ [] then
    some (writeStringToMemory dest config.deviceExtensions.chars)
  else if config.prependDeviceExtensions.chars ≠ [] ∨ config.emulateExtendedVersioning ∨
      config.emulateSemaphore ∨ config.emulateUnifiedSharedMemory then
    if newExtensions config getInfo ≠ [] then
      let (errorCode, deviceExtensions) := getDeviceInfoString getInfo .extensions
      if errorCode = clSuccess then
        -- the `errorCode` of this block is not the one that is returned
        some { writeStringToMemory dest (newExtensions config getInfo ++ deviceExtensions) with
          retVal := clSuccess }
      else none
    else none
  else none

/-- The extensions that the array has. Semaphores are not among those that are added. -/
def listedExtensions (config : InfoConfig) (getInfo : GetInfo DeviceInfo) : Bytes :=
  let str := addMissing config.emulateExtendedVersioning getInfo "cl_khr_extended_versioning" []
  let str :=
    addMissing config.emulateUnifiedSharedMemory getInfo "cl_intel_unified_shared_memory" str
  str ++ (getDeviceInfoString getInfo .extensions).2

/-! ## The two functions -/

/-- What is returned with `true`; `none` is `false`. -/
def overrideGetPlatformInfo (config : InfoConfig) (getInfo : GetInfo PlatformInfo)
    (paramName : PlatformInfo) (dest : Destination) : Option Answer :=
  match paramName with
  | .name => overrideString config.platformName dest
  | .vendor => overrideString config.platformVendor dest
  | .profile => overrideString config.platformProfile dest
  | .version => overrideString config.platformVersion dest
  | .numericVersion =>
    if config.emulateExtendedVersioning then
      overrideNumericVersion (ascii "OpenCL ") (getPlatformInfoString getInfo .version) dest
    else none
  | .extensionsWithVersion =>
    if config.emulateExtendedVersioning then
      some (overrideListing .extensions (getPlatformInfoString getInfo .extensions).2 dest)
    else none
  | .semaphoreTypes => overrideSemaphoreTypes config dest
  | _ => none

def overrideGetDeviceInfo (config : InfoConfig) (getInfo : GetInfo DeviceInfo)
    (paramName : DeviceInfo) (dest : Destination) : Option Answer :=
  match paramName with
  | .type =>
    if config.deviceType ≠ 0 then
      some (writeParamToMemory dest (pointerBytes config.deviceType.toNat))
    else none
  | .name => overrideString config.deviceName dest
  | .extensions => overrideExtensions config getInfo dest
  | .vendor => overrideString config.deviceVendor dest
  | .profile => overrideString config.deviceProfile dest
  | .version => overrideString config.deviceVersion dest
  | .openclCVersion => overrideString config.deviceCVersion dest
  | .ilVersion => overrideString config.deviceILVersion dest
  | .vendorId => overrideUint 0 config.deviceVendorID dest
  | .maxComputeUnits => overrideUint 0 config.deviceMaxComputeUnits dest
  | .preferredVectorWidthChar => overrideUint 0xffffffff config.devicePreferredVectorWidthChar dest
  | .preferredVectorWidthShort => overrideUint 0xffffffff config.devicePreferredVectorWidthShort dest
  | .preferredVectorWidthInt => overrideUint 0xffffffff config.devicePreferredVectorWidthInt dest
  | .preferredVectorWidthLong => overrideUint 0xffffffff config.devicePreferredVectorWidthLong dest
  | .preferredVectorWidthHalf => overrideUint 0xffffffff config.devicePreferredVectorWidthHalf dest
  | .preferredVectorWidthFloat => overrideUint 0xffffffff config.devicePreferredVectorWidthFloat dest
  | .preferredVectorWidthDouble =>
    overrideUint 0xffffffff config.devicePreferredVectorWidthDouble dest
  | .numericVersion =>
    if config.emulateExtendedVersioning then
      overrideNumericVersion (ascii "OpenCL ") (getDeviceInfoString getInfo .version) dest
    else none
  | .openclCNumericVersion =>
    if config.emulateExtendedVersioning then
      overrideNumericVersion (ascii "OpenCL C ") (getDeviceInfoString getInfo .openclCVersion) dest
    else none
  | .extensionsWithVersion =>
    if config.emulateExtendedVersioning then
      some (overrideListing .extensions (listedExtensions config getInfo) dest)
    else none
  | .ilsWithVersion =>
    if config.emulateExtendedVersioning then
      some (overrideListing .ils (getDeviceInfoString getInfo .ilVersion).2 dest)
    else none
  | .builtInKernelsWithVersion =>
    if config.emulateExtendedVersioning then
      some (overrideListing .builtInKernels (getDeviceInfoString getInfo .builtInKernels).2 dest)
    else none
  | .driverVersion => overrideString config.driverVersion dest
  | .hostMemCapabilities => overrideUsmCaps config getInfo UsmCaps.hostCaps dest
  | .deviceMemCapabilities => overrideUsmCaps config getInfo UsmCaps.deviceCaps dest
  | .singleDeviceSharedMemCapabilities => overrideUsmCaps config getInfo UsmCaps.sdSharedCaps dest
  | .crossDeviceSharedMemCapabilities => overrideUsmCaps config getInfo UsmCaps.cdSharedCaps dest
  | .sharedSystemMemCapabilities => overrideUsmCaps config getInfo UsmCaps.sysSharedCaps dest
  | .semaphoreTypes => overrideSemaphoreTypes config dest
  | _ => none

/-- `CHECK_ERROR`. -/
def checkError (config : InfoConfig) (answer : Answer) : Answer :=
  if answer.retVal ≠ clSuccess ∧ config.noErrors = true then { answer with retVal := clSuccess }
  else answer

def clGetPlatformInfo (config : InfoConfig) (getInfo : GetInfo PlatformInfo) :
    GetInfo PlatformInfo :=
  fun paramName dest =>
    checkError config
      ((overrideGetPlatformInfo config getInfo paramName dest).getD (getInfo paramName dest))

def clGetDeviceInfo (config : InfoConfig) (getInfo : GetInfo DeviceInfo) : GetInfo DeviceInfo :=
  fun paramName dest =>
    checkError config
      ((overrideGetDeviceInfo config getInfo paramName dest).getD (getInfo paramName dest))

/-! ## The protocol -/

/-- **How a query is answered** that has this answer. -/
def serve (answer : Except Int Bytes) (dest : Destination) : Answer :=
  match answer with
  | .ok bytes => writeParamToMemory dest bytes
  | .error e => ⟨e, none, none⟩

/-- What a platform or device answers. The texts are those that the layer reads. -/
structure Answers (Param : Type) (isText : Param → Prop) where
  answer : Param → Except Int Bytes
  failed : ∀ param e, answer param = .error e → e ≠ clSuccess
  text_ends : ∀ param, isText param → ∀ bytes, answer param = .ok bytes →
    ∃ str : CString, bytes = str.chars ++ [0]

def PlatformInfo.IsText (param : PlatformInfo) : Prop := param = .version ∨ param = .extensions

def DeviceInfo.IsText (param : DeviceInfo) : Prop :=
  param = .version ∨ param = .openclCVersion ∨ param = .extensions ∨ param = .ilVersion ∨
    param = .builtInKernels

abbrev PlatformAnswers := Answers PlatformInfo PlatformInfo.IsText

/-- The capabilities are a `cl_bitfield`. -/
structure DeviceAnswers extends Answers DeviceInfo DeviceInfo.IsText where
  svm_size : ∀ bytes, answer .svmCapabilities = .ok bytes → bytes.length = 8

section

variable {Param : Type} {isText : Param → Prop} (A : Answers Param isText)

/-- **A function that keeps the protocol** with these answers. -/
def Serves (getInfo : GetInfo Param) (answer : Param → Except Int Bytes) : Prop :=
  ∀ param dest, getInfo param dest = serve (answer param) dest

/-- The text that is the answer to a query, empty if the query fails. -/
def Answers.text (param : Param) : Bytes :=
  match A.answer param with
  | .ok bytes => bytes.dropLast
  | .error _ => []

end

section

variable {Param : Type} {isText : Param → Prop} {A : Answers Param isText}

/-- A text has no terminator inside. -/
theorem Answers.zero_notMem_text {param : Param} (h : isText param) : 0 ∉ A.text param := by
  unfold Answers.text
  cases hanswer : A.answer param with
  | error e => exact List.not_mem_nil
  | ok bytes =>
    obtain ⟨str, rfl⟩ := A.text_ends param h bytes hanswer
    simpa using str.noNul

/-- What a driver answers for a text is the text with its terminator. -/
theorem Answers.answer_text {param : Param} (h : isText param) {bytes : Bytes}
    (hanswer : A.answer param = .ok bytes) : bytes = A.text param ++ [0] := by
  obtain ⟨str, rfl⟩ := A.text_ends param h bytes hanswer
  simp [Answers.text, hanswer]

/-- A string is served as a driver serves a text. -/
theorem writeStringToMemory_eq {str : Bytes} (h : 0 ∉ str) (dest : Destination) :
    writeStringToMemory dest str = serve (.ok (str ++ [0])) dest := by
  have hone : str.length + 1 - str.length = 1 := by omega
  unfold writeStringToMemory serve writeParamToMemory
  simp only [cText_of_notMem h, hone, List.length_append, List.length_singleton]
  rfl

/-- **Both calls together read the text.** -/
theorem getInfoString_eq {getInfo : GetInfo Param} (hserves : Serves getInfo A.answer)
    (param : Param) :
    getInfoString getInfo param =
      match A.answer param with
      | .ok _ => (clSuccess, A.text param)
      | .error e => (e, []) := by
  unfold getInfoString
  simp only [hserves param]
  cases hanswer : A.answer param with
  | error e =>
    have hfailed := A.failed param e hanswer
    simp [serve, hfailed]
  | ok bytes =>
    simp only [serve, writeParamToMemory, Bool.false_eq_true, if_false, if_true, Option.getD_some,
      Nat.lt_irrefl, stored, List.drop_replicate, Nat.sub_self, List.replicate_zero,
      List.append_nil, Answers.text, hanswer]

end

/-- The string that the layer keeps of an answer is the text of it. -/
theorem getInfoString_snd {Param : Type} {isText : Param → Prop} {A : Answers Param isText}
    {getInfo : GetInfo Param} (hserves : Serves getInfo A.answer) (param : Param) :
    (getInfoString getInfo param).2 = A.text param := by
  rw [getInfoString_eq hserves]
  cases hanswer : A.answer param with
  | ok bytes => rfl
  | error e => rw [Answers.text, hanswer]

/-! ## What is answered behind the layer -/

/-- The version that a string begins with. -/
def versionOf (start text : Bytes) : Nat :=
  if start.isPrefixOf text then
    let numbers := versionNumbers (text.drop start.length)
    packed (numbers.1, numbers.2.1, 0)
  else packed (0, 0, 0)

/-- The answer of a control, if it is set. -/
def ownString (own : CString) (answer : Except Int Bytes) : Except Int Bytes :=
  if own.chars ≠ [] then .ok (own.chars ++ [0]) else answer

def ownUint (unset own : UInt32) (answer : Except Int Bytes) : Except Int Bytes :=
  if own ≠ unset then .ok (uintBytes own.toNat) else answer

/-- The version in another answer. -/
def numericVersion (config : InfoConfig) (start : Bytes) (version answer : Except Int Bytes) :
    Except Int Bytes :=
  if config.emulateExtendedVersioning then
    match version with
    | .ok bytes => .ok (uintBytes (versionOf start bytes.dropLast))
    | .error _ => answer
  else answer

/-- The tokens of a text, as entries of an array. -/
def listed (config : InfoConfig) (listing : Listing) (text : Bytes) (answer : Except Int Bytes) :
    Except Int Bytes :=
  if config.emulateExtendedVersioning then
    .ok (((listing.tokens text).map listing.entry).flatMap nameVersionBytes)
  else answer

def semaphoreTypes (config : InfoConfig) (answer : Except Int Bytes) : Except Int Bytes :=
  if config.emulateSemaphore then .ok (uintBytes clSemaphoreTypeBinaryKhr) else answer

/-- The extensions of which the search finds none among these. -/
def missing (text : Bytes) (emulated : List (Bool × String)) : List String :=
  (emulated.filter fun (enabled, name) => enabled &&
    !(checkDeviceForExtension (some name.toList) (some (chars text)) == some true)).map (·.2)

/-- The extensions that are emulated, in the order in which they are added. -/
def InfoConfig.emulated (config : InfoConfig) : List (Bool × String) :=
  [(config.emulateExtendedVersioning, "cl_khr_extended_versioning"),
    (config.emulateSemaphore, "cl_khr_semaphore"),
    (config.emulateUnifiedSharedMemory, "cl_intel_unified_shared_memory")]

/-- The same, without the semaphores. -/
def InfoConfig.emulatedListed (config : InfoConfig) : List (Bool × String) :=
  [(config.emulateExtendedVersioning, "cl_khr_extended_versioning"),
    (config.emulateUnifiedSharedMemory, "cl_intel_unified_shared_memory")]

/-- Names with a space behind each. -/
def spaced (names : List String) : Bytes := names.flatMap fun name => ascii name ++ [32]

/-- What is prepended, with a space behind it. -/
def InfoConfig.prepended (config : InfoConfig) : Bytes :=
  let str := config.prependDeviceExtensions.chars
  if str ≠ [] ∧ str.getLast? ≠ some 32 then str ++ [32] else str

/-- What stands in front of the extensions of the device. -/
def InfoConfig.added (config : InfoConfig) (text : Bytes) : Bytes :=
  config.prepended ++ spaced (missing text config.emulated)

def PlatformAnswers.reported (config : InfoConfig) (A : PlatformAnswers) :
    PlatformInfo → Except Int Bytes
  | .name => ownString config.platformName (A.answer .name)
  | .vendor => ownString config.platformVendor (A.answer .vendor)
  | .profile => ownString config.platformProfile (A.answer .profile)
  | .version => ownString config.platformVersion (A.answer .version)
  | .numericVersion =>
    numericVersion config (ascii "OpenCL ") (A.answer .version) (A.answer .numericVersion)
  | .extensionsWithVersion =>
    listed config .extensions (A.text .extensions) (A.answer .extensionsWithVersion)
  | .semaphoreTypes => semaphoreTypes config (A.answer .semaphoreTypes)
  | param => A.answer param

namespace DeviceAnswers

variable (A : DeviceAnswers)

/-- The capabilities of shared memory that the device answers, 0 if it does not. -/
def svmCaps : UInt64 :=
  match A.answer .svmCapabilities with
  | .ok bytes => UInt64.ofNat bytes.toNat
  | .error _ => 0

def usmCaps (config : InfoConfig) (cap : UsmCaps → UInt64) (answer : Except Int Bytes) :
    Except Int Bytes :=
  if config.emulateUnifiedSharedMemory then
    .ok (pointerBytes (cap (Info.usmCaps A.svmCaps)).toNat)
  else answer

/-- The extensions that are reported. -/
def extensions (config : InfoConfig) : Except Int Bytes :=
  match A.answer .extensions with
  | .ok _ => .ok (config.added (A.text .extensions) ++ A.text .extensions ++ [0])
  | .error e => .error e

/-- The extensions that are listed in an array. -/
def listedText (config : InfoConfig) : Bytes :=
  spaced (missing (A.text .extensions) config.emulatedListed) ++ A.text .extensions

/-- **The answers behind the layer.** -/
def reported (config : InfoConfig) : DeviceInfo → Except Int Bytes
  | .type =>
    if config.deviceType ≠ 0 then .ok (pointerBytes config.deviceType.toNat) else A.answer .type
  | .name => ownString config.deviceName (A.answer .name)
  | .extensions => ownString config.deviceExtensions (A.extensions config)
  | .vendor => ownString config.deviceVendor (A.answer .vendor)
  | .profile => ownString config.deviceProfile (A.answer .profile)
  | .version => ownString config.deviceVersion (A.answer .version)
  | .openclCVersion => ownString config.deviceCVersion (A.answer .openclCVersion)
  | .ilVersion => ownString config.deviceILVersion (A.answer .ilVersion)
  | .vendorId => ownUint 0 config.deviceVendorID (A.answer .vendorId)
  | .maxComputeUnits => ownUint 0 config.deviceMaxComputeUnits (A.answer .maxComputeUnits)
  | .preferredVectorWidthChar =>
    ownUint 0xffffffff config.devicePreferredVectorWidthChar (A.answer .preferredVectorWidthChar)
  | .preferredVectorWidthShort =>
    ownUint 0xffffffff config.devicePreferredVectorWidthShort (A.answer .preferredVectorWidthShort)
  | .preferredVectorWidthInt =>
    ownUint 0xffffffff config.devicePreferredVectorWidthInt (A.answer .preferredVectorWidthInt)
  | .preferredVectorWidthLong =>
    ownUint 0xffffffff config.devicePreferredVectorWidthLong (A.answer .preferredVectorWidthLong)
  | .preferredVectorWidthHalf =>
    ownUint 0xffffffff config.devicePreferredVectorWidthHalf (A.answer .preferredVectorWidthHalf)
  | .preferredVectorWidthFloat =>
    ownUint 0xffffffff config.devicePreferredVectorWidthFloat (A.answer .preferredVectorWidthFloat)
  | .preferredVectorWidthDouble =>
    ownUint 0xffffffff config.devicePreferredVectorWidthDouble
      (A.answer .preferredVectorWidthDouble)
  | .numericVersion =>
    Info.numericVersion config (ascii "OpenCL ") (A.answer .version) (A.answer .numericVersion)
  | .openclCNumericVersion =>
    Info.numericVersion config (ascii "OpenCL C ") (A.answer .openclCVersion)
      (A.answer .openclCNumericVersion)
  | .extensionsWithVersion =>
    listed config .extensions (A.listedText config) (A.answer .extensionsWithVersion)
  | .ilsWithVersion => listed config .ils (A.text .ilVersion) (A.answer .ilsWithVersion)
  | .builtInKernelsWithVersion =>
    listed config .builtInKernels (A.text .builtInKernels) (A.answer .builtInKernelsWithVersion)
  | .driverVersion => ownString config.driverVersion (A.answer .driverVersion)
  | .hostMemCapabilities => A.usmCaps config UsmCaps.hostCaps (A.answer .hostMemCapabilities)
  | .deviceMemCapabilities => A.usmCaps config UsmCaps.deviceCaps (A.answer .deviceMemCapabilities)
  | .singleDeviceSharedMemCapabilities =>
    A.usmCaps config UsmCaps.sdSharedCaps (A.answer .singleDeviceSharedMemCapabilities)
  | .crossDeviceSharedMemCapabilities =>
    A.usmCaps config UsmCaps.cdSharedCaps (A.answer .crossDeviceSharedMemCapabilities)
  | .sharedSystemMemCapabilities =>
    A.usmCaps config UsmCaps.sysSharedCaps (A.answer .sharedSystemMemCapabilities)
  | .semaphoreTypes => Info.semaphoreTypes config (A.answer .semaphoreTypes)
  | param => A.answer param

end DeviceAnswers

/-! ## Strings and numbers of the controls -/

section

variable {answer : Except Int Bytes} {dest : Destination}

/-- A string of the controls, or the driver's own. -/
theorem overrideString_getD (own : CString) :
    (overrideString own dest).getD (serve answer dest) = serve (ownString own answer) dest := by
  unfold overrideString ownString
  split
  · exact writeStringToMemory_eq own.noNul dest
  · rfl

/-- A number of the controls, or the driver's own. -/
theorem overrideUint_getD (unset own : UInt32) :
    (overrideUint unset own dest).getD (serve answer dest) =
      serve (ownUint unset own answer) dest := by
  unfold overrideUint ownUint
  split <;> rfl

/-- The types of semaphores, of the emulation or of the driver. -/
theorem overrideSemaphoreTypes_getD (config : InfoConfig) :
    (overrideSemaphoreTypes config dest).getD (serve answer dest) =
      serve (semaphoreTypes config answer) dest := by
  unfold overrideSemaphoreTypes semaphoreTypes
  split <;> rfl

end

/-! ## Versions that are read from strings -/

/-- Digits by their last bits. -/
theorem versionDigits_eq (n m : Nat) (str : Bytes) (h : n % 2 ^ 10 = m % 2 ^ 10) :
    (versionDigits n str).1 % 2 ^ 10 = (str.takeWhile isdigit).foldl addDigit m % 2 ^ 10 ∧
      (versionDigits n str).2 = str.dropWhile isdigit := by
  induction str generalizing n m with
  | nil => exact ⟨h, rfl⟩
  | cons c str ih =>
    rw [versionDigits, List.takeWhile_cons, List.dropWhile_cons]
    by_cases hc : isdigit c = true
    · rw [if_pos hc, if_pos hc, if_pos hc, List.foldl_cons]
      refine ih _ _ ?_
      unfold addDigit sizeModulus
      omega
    · rw [if_neg hc, if_neg hc, if_neg hc]
      exact ⟨h, rfl⟩

/-- A packed version keeps ten bits of each number. -/
theorem packed_congr {major major' minor minor' : Nat}
    (hmajor : major % 2 ^ 10 = major' % 2 ^ 10) (hminor : minor % 2 ^ 10 = minor' % 2 ^ 10) :
    packed (major, minor, 0) = packed (major', minor', 0) := by
  unfold packed
  dsimp only
  rw [hmajor, hminor]

/-- **The version is the one that the string begins with**, however long its numbers are. -/
theorem makeVersion_eq_versionOf (start text : Bytes) :
    makeVersion (getMajorMinorVersionFromString start text).1
      (getMajorMinorVersionFromString start text).2 0 = versionOf start text := by
  unfold getMajorMinorVersionFromString versionOf
  split
  · obtain ⟨hmajor, hrest⟩ := versionDigits_eq 0 0 (text.drop start.length) rfl
    obtain ⟨hminor, -⟩ := versionDigits_eq 0 0
      (skipDot ((text.drop start.length).dropWhile isdigit)) rfl
    rw [makeVersion_eq]
    dsimp only
    rw [hrest]
    exact packed_congr hmajor hminor
  · exact makeVersion_eq 0 0 0

/-- The number of a version is that of its text. -/
theorem overrideNumericVersion_getD {Param : Type} {isText : Param → Prop} {A : Answers Param isText}
    {getInfo : GetInfo Param} (hserves : Serves getInfo A.answer) (config : InfoConfig)
    (start : Bytes) {version : Param} (h : isText version) (answer : Except Int Bytes)
    (dest : Destination) :
    (if config.emulateExtendedVersioning then
      overrideNumericVersion start (getInfoString getInfo version) dest
    else none).getD (serve answer dest) =
      serve (numericVersion config start (A.answer version) answer) dest := by
  unfold numericVersion
  split
  · rw [getInfoString_eq hserves]
    cases hanswer : A.answer version with
    | error e =>
      have hfailed := A.failed version e hanswer
      simp [overrideNumericVersion, hfailed]
    | ok bytes =>
      have htext : A.text version = bytes.dropLast := by rw [Answers.text, hanswer]
      have hversion := makeVersion_eq_versionOf start (A.text version)
      dsimp only
      rw [overrideNumericVersion, if_pos rfl, cText_of_notMem (A.zero_notMem_text h), ← htext,
        ← hversion]
      rfl
  · rfl

/-! ## Arrays of tokens -/

/-- Every entry of a list takes as many bytes. -/
theorem length_nameVersionBytes {entries : List NameVersion}
    (h : ∀ e ∈ entries, e.name.length = maxNameSize) :
    (entries.flatMap nameVersionBytes).length = entries.length * nameVersionSize := by
  induction entries with
  | nil => rfl
  | cons e entries ih =>
    have hhead : (nameVersionBytes e).length = nameVersionSize := by
      have hname := h e List.mem_cons_self
      simp [nameVersionBytes, uintBytes, pointerBytes, pointerSize, nameVersionSize, hname]
    rw [List.flatMap_cons, List.length_append, hhead,
      ih fun d hd => h d (List.mem_cons_of_mem e hd), List.length_cons, Nat.succ_mul, Nat.add_comm]

/-- What a listing reports, whatever it lists. -/
theorem Listing.parse_eq (listing : Listing) (str : CString) (ptr : Bool) (size : Nat)
    (sizeRet : Bool) :
    listing.parse str ptr size sizeRet =
      let entries := (listing.tokens str.chars).map listing.entry
      let needed := arraySize entries.length
      { errorCode := if ptr ∧ size < needed then clInvalidValue else clSuccess
        written := if ptr ∧ ¬size < needed then entries else []
        sizeRet := if sizeRet then some needed else none } := by
  cases listing with
  | extensions =>
    have h := @Parser.parse_eq extensionParser (Listing.entry .extensions)
      (fun str => congrArg Prod.fst (extensionEntry_eq str)) str ptr size sizeRet
    simp only [extensionParser, tokens_spaces] at h
    exact h
  | ils =>
    have h := @Parser.parse_eq ilParser (Listing.entry .ils)
      (fun str => congrArg Prod.fst (ilEntry_eq str)) str ptr size sizeRet
    simp only [ilParser, tokens_spaces] at h
    exact h
  | builtInKernels =>
    have h := @Parser.parse_eq builtInKernelParser (Listing.entry .builtInKernels)
      (fun str => congrArg Prod.fst (builtInKernelEntry_eq str)) str ptr size sizeRet
    simp only [builtInKernelParser, tokens_semicolons] at h
    exact h

/-- The name of an entry fills its array. -/
theorem Listing.length_name (listing : Listing) (token : Bytes) :
    (listing.entry token).name.length = maxNameSize := by
  cases listing <;> exact (cutName_terminated _).1

/-- **An array is an answer like any other**, as long as the number of its entries is an `int`. -/
theorem overrideListing_eq {listing : Listing} {text : Bytes} (h : 0 ∉ text)
    (hfew : (listing.tokens text).length < 2 ^ 31) (dest : Destination) :
    overrideListing listing text dest =
      serve (.ok (((listing.tokens text).map listing.entry).flatMap nameVersionBytes)) dest := by
  have hlength := @length_nameVersionBytes ((listing.tokens text).map listing.entry) fun e he => by
    obtain ⟨token, -, rfl⟩ := List.mem_map.mp he
    exact Listing.length_name listing token
  have hsize : arraySize ((listing.tokens text).map listing.entry).length =
      (((listing.tokens text).map listing.entry).flatMap nameVersionBytes).length := by
    rw [hlength, List.length_map]
    exact (arraySize_eq_iff _).mpr hfew
  unfold overrideListing ofResult serve writeParamToMemory
  rw [Listing.parse_eq]
  simp only [cText_of_notMem h, hsize]
  generalize (listing.tokens text).map listing.entry = entries
  generalize (entries.flatMap nameVersionBytes).length = needed
  cases hptr : dest.paramValue with
  | false => simp
  | true =>
    by_cases hlt : dest.paramValueSize < needed
    · simp [hlt, clInvalidValue, clSuccess]
    · simp [hlt]

/-- **A list of names and versions is that of the text's tokens.** -/
theorem overrideListing_getD {listing : Listing} {text : Bytes} (h : 0 ∉ text)
    (hfew : (listing.tokens text).length < 2 ^ 31) (config : InfoConfig) (answer : Except Int Bytes)
    (dest : Destination) :
    (if config.emulateExtendedVersioning then some (overrideListing listing text dest)
    else none).getD (serve answer dest) = serve (listed config listing text answer) dest := by
  unfold listed
  split
  · exact overrideListing_eq h hfew dest
  · rfl

/-! ## Capabilities of shared memory -/

/-- What is stored to the variable is what the device answers. -/
theorem getSvmCaps_eq {A : DeviceAnswers} {getInfo : GetInfo DeviceInfo}
    (hserves : Serves getInfo A.answer) : getSvmCaps getInfo = A.svmCaps := by
  unfold getSvmCaps DeviceAnswers.svmCaps
  rw [hserves]
  cases hanswer : A.answer .svmCapabilities with
  | error e => rfl
  | ok bytes =>
    have hsize := A.svm_size bytes hanswer
    simp [serve, writeParamToMemory, hsize, stored]

/-- What the emulation says of shared memory, from the driver's answers about SVM. -/
theorem overrideUsmCaps_getD {A : DeviceAnswers} {getInfo : GetInfo DeviceInfo}
    (hserves : Serves getInfo A.answer) (config : InfoConfig) (cap : UsmCaps → UInt64)
    (answer : Except Int Bytes) (dest : Destination) :
    (overrideUsmCaps config getInfo cap dest).getD (serve answer dest) =
      serve (A.usmCaps config cap answer) dest := by
  unfold overrideUsmCaps DeviceAnswers.usmCaps
  rw [getSvmCaps_eq hserves]
  split <;> rfl

/-! ## Extensions -/

/-- What the name of an extension has: no `NUL`, no space, and a character. -/
structure IsName (name : String) : Prop where
  noNul : 0 ∉ ascii name
  noSpace : ' ' ∉ name.toList
  nonempty : name.toList ≠ []
  chars_ascii : chars (ascii name) = name.toList

/-- The names that the layer adds are single words. -/
theorem isName_emulated : ∀ name ∈ ["cl_khr_extended_versioning", "cl_khr_semaphore",
    "cl_intel_unified_shared_memory"], IsName name := by
  simp only [List.forall_mem_cons]
  exact ⟨⟨by decide, by decide, by decide, by decide⟩, ⟨by decide, by decide, by decide, by decide⟩,
    ⟨by decide, by decide, by decide, by decide⟩, fun _ h => absurd h List.not_mem_nil⟩

theorem InfoConfig.isName {config : InfoConfig} {entry : Bool × String}
    (h : entry ∈ config.emulated) : IsName entry.2 :=
  isName_emulated entry.2 (List.mem_map_of_mem h)

/-- The search, by what it finds. -/
theorem check_eq_true_iff {name : String} (h : IsName name) (text : List Char) :
    checkDeviceForExtension (some name.toList) (some text) = some true ↔
      Found name.toList (cStr text) := by
  obtain ⟨supported, hresult, hfound⟩ := searchExtension_eq h.nonempty h.noSpace
    ((cStr text).length + 1) (cStr text) (Nat.lt_succ_self _)
  rw [checkDeviceForExtension, if_neg h.noSpace, hresult, Option.some_inj, hfound]

/-- The search among the extensions that the device answers. A device that does not answer has
none. -/
theorem deviceHas_eq {A : DeviceAnswers} {getInfo : GetInfo DeviceInfo}
    (hserves : Serves getInfo A.answer) {name : String} (h : IsName name) : deviceHas getInfo name =
      (checkDeviceForExtension (some name.toList) (some (chars (A.text .extensions))) ==
        some true) := by
  unfold deviceHas getDeviceInfoString
  rw [getInfoString_eq hserves]
  cases hanswer : A.answer .extensions with
  | ok bytes => rfl
  | error e =>
    have hfailed := A.failed _ e hanswer
    have hnone : ¬Found name.toList (cStr (chars (A.text .extensions))) := by
      rw [Answers.text, hanswer]
      exact fun hfound => h.nonempty (List.infix_nil.mp hfound.contains)
    have hcheck := mt (check_eq_true_iff h _).mp hnone
    rw [beq_eq_false_iff_ne.mpr hcheck]
    simp [checkDeviceForExtension, hfailed]

/-- Each emulated extension that the device has not is put behind the text. -/
theorem addMissing_eq {A : DeviceAnswers} {getInfo : GetInfo DeviceInfo}
    (hserves : Serves getInfo A.answer) {emulated : List (Bool × String)}
    (h : ∀ entry ∈ emulated, IsName entry.2) (str : Bytes) :
    emulated.foldl (fun str entry => addMissing entry.1 getInfo entry.2 str) str =
      str ++ spaced (missing (A.text .extensions) emulated) := by
  induction emulated generalizing str with
  | nil => exact (List.append_nil str).symm
  | cons entry emulated ih =>
    rw [List.foldl_cons, ih fun e he => h e (List.mem_cons_of_mem entry he), addMissing,
      deviceHas_eq hserves (h entry List.mem_cons_self)]
    unfold missing
    rw [List.filter_cons]
    split
    · simp [spaced]
    · simp

/-- **What is put in front**: what is prepended, and what is emulated and missing. -/
theorem newExtensions_eq {A : DeviceAnswers} {getInfo : GetInfo DeviceInfo}
    (hserves : Serves getInfo A.answer) (config : InfoConfig) :
    newExtensions config getInfo = config.added (A.text .extensions) :=
  addMissing_eq hserves (fun _ (h : _ ∈ config.emulated) => InfoConfig.isName h)
    config.prepended

/-- Names with blanks between them have no terminator. -/
theorem zero_notMem_spaced {names : List String} (h : ∀ name ∈ names, 0 ∉ ascii name) :
    0 ∉ spaced names := by
  intro hmem
  obtain ⟨name, hname, hzero⟩ := List.mem_flatMap.mp hmem
  rcases List.mem_append.mp hzero with hzero | hzero
  · exact h name hname hzero
  · exact absurd (List.mem_singleton.mp hzero) (by decide)

/-- What the controls put in front has no terminator. -/
theorem InfoConfig.zero_notMem_prepended (config : InfoConfig) : 0 ∉ config.prepended := by
  unfold InfoConfig.prepended
  dsimp only
  split
  · intro hmem
    rcases List.mem_append.mp hmem with hmem | hmem
    · exact config.prependDeviceExtensions.noNul hmem
    · exact absurd (List.mem_singleton.mp hmem) (by decide)
  · exact config.prependDeviceExtensions.noNul

/-- A missing name is one of the emulated. -/
theorem mem_missing {text : Bytes} {emulated : List (Bool × String)} {name : String}
    (h : name ∈ missing text emulated) : ∃ entry ∈ emulated, entry.2 = name := by
  obtain ⟨entry, hentry, rfl⟩ := List.mem_map.mp h
  exact ⟨entry, List.mem_of_mem_filter hentry, rfl⟩

/-- All that is added can be kept as a C string. -/
theorem InfoConfig.zero_notMem_added (config : InfoConfig) (text : Bytes) :
    0 ∉ config.added text := by
  refine List.not_mem_append config.zero_notMem_prepended (zero_notMem_spaced fun name hname => ?_)
  obtain ⟨entry, hentry, rfl⟩ := mem_missing hname
  exact (InfoConfig.isName hentry).noNul

/-- Without the controls nothing is added. -/
theorem InfoConfig.added_of_unset {config : InfoConfig}
    (h : ¬(config.prependDeviceExtensions.chars ≠ [] ∨ config.emulateExtendedVersioning ∨
      config.emulateSemaphore ∨ config.emulateUnifiedSharedMemory)) (text : Bytes) :
    config.added text = [] := by
  simp only [not_or, not_not, Bool.not_eq_true] at h
  obtain ⟨hprepend, hversioning, hsemaphore, husm⟩ := h
  simp [InfoConfig.added, InfoConfig.prepended, InfoConfig.emulated, missing, spaced, hprepend,
    hversioning, hsemaphore, husm]

/-- **The query that breaks the protocol**: the layer puts the extensions together, and there is no
room for them. -/
structure Slips (config : InfoConfig) (A : DeviceAnswers) (dest : Destination) : Prop where
  notOwn : config.deviceExtensions.chars = []
  added : config.added (A.text .extensions) ≠ []
  asked : dest.paramValue = true
  small : ∀ bytes, A.extensions config = .ok bytes → dest.paramValueSize < bytes.length
  answers : ∃ bytes, A.answer .extensions = .ok bytes

/-- A refused call that is told of success. -/
def unnoticed (answer : Answer) : Answer := { answer with retVal := clSuccess }

/-- With `NoErrors` every error goes unnoticed. -/
theorem checkError_of_noErrors {config : InfoConfig} (h : config.noErrors = true)
    (answer : Answer) : checkError config answer = unnoticed answer := by
  unfold checkError unnoticed
  by_cases hfailed : answer.retVal = clSuccess
  · rw [if_neg fun hc => hc.1 hfailed, ← hfailed]
  · rw [if_pos ⟨hfailed, h⟩]

/-- Without it an answer stays as it is. -/
theorem checkError_of_errors {config : InfoConfig} (h : config.noErrors = false)
    (answer : Answer) : checkError config answer = answer :=
  if_neg fun hc => Bool.false_ne_true (h.symm.trans hc.2)

theorem checkError_of_success (config : InfoConfig) {answer : Answer}
    (h : answer.retVal = clSuccess) : checkError config answer = answer :=
  if_neg fun hc => hc.1 h

/-- Only a success looks the same afterwards. -/
theorem unnoticed_eq_iff (answer : Answer) :
    unnoticed answer = answer ↔ answer.retVal = clSuccess := by
  refine ⟨fun h => (congrArg Answer.retVal h).symm, fun h => ?_⟩
  rw [unnoticed, ← h]

/-- What is told of success stays as it is. -/
theorem checkError_unnoticed (config : InfoConfig) (answer : Answer) :
    checkError config (unnoticed answer) = unnoticed answer :=
  checkError_of_success config rfl

/-- An error of the query itself: the destination is too small. -/
theorem unnoticed_serve_ne_iff (bytes : Bytes) (dest : Destination) :
    unnoticed (serve (.ok bytes) dest) ≠ serve (.ok bytes) dest ↔
      dest.paramValue = true ∧ dest.paramValueSize < bytes.length := by
  unfold unnoticed serve writeParamToMemory
  cases hptr : dest.paramValue with
  | false => simp
  | true =>
    by_cases hlt : dest.paramValueSize < bytes.length
    · simp [hlt, clInvalidValue, clSuccess]
    · simp [hlt]

/-- What the layer makes of the extensions of a device that has some. -/
theorem overrideExtensions_of_ok {A : DeviceAnswers} {getInfo : GetInfo DeviceInfo}
    (hserves : Serves getInfo A.answer) {config : InfoConfig}
    (hown : config.deviceExtensions.chars = []) {bytes : Bytes}
    (hanswer : A.answer .extensions = .ok bytes) (dest : Destination) :
    overrideExtensions config getInfo dest =
      if config.added (A.text .extensions) = [] then none
      else some (unnoticed (writeStringToMemory dest
        (config.added (A.text .extensions) ++ A.text .extensions))) := by
  have hstring : getDeviceInfoString getInfo .extensions = (clSuccess, A.text .extensions) := by
    rw [getDeviceInfoString, getInfoString_eq hserves, hanswer]
  unfold overrideExtensions
  rw [newExtensions_eq hserves, hstring, if_neg (not_not.mpr hown)]
  by_cases hadded : config.added (A.text .extensions) = []
  · simp only [hadded, ne_eq, not_true_eq_false, if_false, ite_self, if_true]
  · have hset := not_imp_comm.mp (fun h => config.added_of_unset h (A.text .extensions)) hadded
    rw [if_pos hset, if_pos hadded, if_neg hadded]
    rfl

/-- If the device does not tell its extensions, nothing is put in their place. -/
theorem overrideExtensions_of_error {A : DeviceAnswers} {getInfo : GetInfo DeviceInfo}
    (hserves : Serves getInfo A.answer) {config : InfoConfig}
    (hown : config.deviceExtensions.chars = []) {e : Int}
    (hanswer : A.answer .extensions = .error e) (dest : Destination) :
    overrideExtensions config getInfo dest = none := by
  have hstring : getDeviceInfoString getInfo .extensions = (e, []) := by
    rw [getDeviceInfoString, getInfoString_eq hserves, hanswer]
  have hfailed := A.failed _ e hanswer
  simp only [overrideExtensions, hown, hstring, hfailed, ne_eq, not_true_eq_false, if_false,
    ite_self]

/-- **The extensions are answered by the protocol, but for the query that breaks it.** -/
theorem overrideExtensions_getD {A : DeviceAnswers} {getInfo : GetInfo DeviceInfo}
    (hserves : Serves getInfo A.answer) (config : InfoConfig) (dest : Destination) :
    (overrideExtensions config getInfo dest).getD (serve (A.answer .extensions) dest) =
      serve (ownString config.deviceExtensions (A.extensions config)) dest ↔
        ¬Slips config A dest := by
  have htext : DeviceInfo.IsText .extensions := .inr (.inr (.inl rfl))
  unfold ownString
  by_cases hown : config.deviceExtensions.chars = []
  · rw [if_neg (not_not.mpr hown)]
    cases hanswer : A.answer .extensions with
    | error e =>
      have hslips : ¬Slips config A dest := fun h => by
        obtain ⟨bytes, hok⟩ := h.answers
        cases hanswer.symm.trans hok
      rw [overrideExtensions_of_error hserves hown hanswer, DeviceAnswers.extensions, hanswer]
      exact iff_of_true rfl hslips
    | ok bytes =>
      have hextensions : A.extensions config =
          .ok (config.added (A.text .extensions) ++ A.text .extensions ++ [0]) := by
        rw [DeviceAnswers.extensions, hanswer]
      rw [overrideExtensions_of_ok hserves hown hanswer, hextensions]
      by_cases hadded : config.added (A.text .extensions) = []
      · rw [if_pos hadded, hadded, List.nil_append, ← A.answer_text htext hanswer]
        exact iff_of_true rfl fun h => h.added hadded
      · have hnoNul : 0 ∉ config.added (A.text .extensions) ++ A.text .extensions :=
          List.not_mem_append (config.zero_notMem_added _) (A.zero_notMem_text htext)
        rw [if_neg hadded, Option.getD_some, writeStringToMemory_eq hnoNul,
          ← not_iff_not, not_not, ← ne_eq, unnoticed_serve_ne_iff]
        refine ⟨fun ⟨hasked, hsmall⟩ => ?_, fun h => ⟨h.asked, h.small _ hextensions⟩⟩
        refine ⟨hown, hadded, hasked, fun b hb => ?_, bytes, hanswer⟩
        rw [← Except.ok.inj (hextensions.symm.trans hb)]
        exact hsmall
  · rw [if_pos hown, overrideExtensions, if_pos hown]
    exact iff_of_true (writeStringToMemory_eq config.deviceExtensions.noNul dest)
      fun h => hown h.notOwn

/-- The extensions that the list may add are among those that the text may add. -/
theorem InfoConfig.emulatedListed_subset {config : InfoConfig} :
    config.emulatedListed ⊆ config.emulated := by
  simp [InfoConfig.emulatedListed, InfoConfig.emulated]

/-- The text that is listed can be kept as a C string. -/
theorem InfoConfig.zero_notMem_listedText (config : InfoConfig) (A : DeviceAnswers) :
    0 ∉ A.listedText config := by
  refine List.not_mem_append (zero_notMem_spaced fun name hname => ?_)
    (A.zero_notMem_text (.inr (.inr (.inl rfl))))
  obtain ⟨entry, hentry, rfl⟩ := mem_missing hname
  exact (InfoConfig.isName (InfoConfig.emulatedListed_subset hentry)).noNul

/-- What is listed, where the device answers and where it does not. -/
theorem listedExtensions_eq {A : DeviceAnswers} {getInfo : GetInfo DeviceInfo}
    (hserves : Serves getInfo A.answer) (config : InfoConfig) :
    listedExtensions config getInfo = A.listedText config := by
  have hadd := addMissing_eq hserves (fun entry (h : entry ∈ config.emulatedListed) =>
    InfoConfig.isName (InfoConfig.emulatedListed_subset h)) []
  rw [List.nil_append] at hadd
  unfold listedExtensions DeviceAnswers.listedText
  rw [← hadd, ← getInfoString_snd hserves]
  rfl

/-! ## All queries -/

/-- The texts of which the tokens are listed, for the queries that list some. -/
def DeviceAnswers.listings (A : DeviceAnswers) (config : InfoConfig) :
    DeviceInfo → Option (Listing × Bytes)
  | .extensionsWithVersion => some (.extensions, A.listedText config)
  | .ilsWithVersion => some (.ils, A.text .ilVersion)
  | .builtInKernelsWithVersion => some (.builtInKernels, A.text .builtInKernels)
  | _ => none

/-- Before `CHECK_ERROR`, one query is not answered by the protocol. -/
theorem overrideGetDeviceInfo_getD {A : DeviceAnswers} {getInfo : GetInfo DeviceInfo}
    (hserves : Serves getInfo A.answer) (config : InfoConfig) (param : DeviceInfo)
    (hfew : ∀ listing text, A.listings config param = some (listing, text) →
      (listing.tokens text).length < 2 ^ 31) (dest : Destination) :
    (overrideGetDeviceInfo config getInfo param dest).getD (getInfo param dest) =
        serve (A.reported config param) dest ↔
      ¬(param = .extensions ∧ Slips config A dest) := by
  rw [hserves]
  by_cases hextensions : param = .extensions
  · subst hextensions
    exact (overrideExtensions_getD hserves config dest).trans (by simp)
  · refine iff_of_true ?_ fun h => hextensions h.1
    cases param with
    | extensions => exact absurd rfl hextensions
    | type =>
      show (if config.deviceType ≠ 0 then _ else none : Option Answer).getD _ =
        serve (if config.deviceType ≠ 0 then _ else _) dest
      split <;> rfl
    | name => exact overrideString_getD config.deviceName
    | vendor => exact overrideString_getD config.deviceVendor
    | profile => exact overrideString_getD config.deviceProfile
    | version => exact overrideString_getD config.deviceVersion
    | openclCVersion => exact overrideString_getD config.deviceCVersion
    | ilVersion => exact overrideString_getD config.deviceILVersion
    | driverVersion => exact overrideString_getD config.driverVersion
    | vendorId => exact overrideUint_getD 0 config.deviceVendorID
    | maxComputeUnits => exact overrideUint_getD 0 config.deviceMaxComputeUnits
    | preferredVectorWidthChar => exact overrideUint_getD _ config.devicePreferredVectorWidthChar
    | preferredVectorWidthShort => exact overrideUint_getD _ config.devicePreferredVectorWidthShort
    | preferredVectorWidthInt => exact overrideUint_getD _ config.devicePreferredVectorWidthInt
    | preferredVectorWidthLong => exact overrideUint_getD _ config.devicePreferredVectorWidthLong
    | preferredVectorWidthHalf => exact overrideUint_getD _ config.devicePreferredVectorWidthHalf
    | preferredVectorWidthFloat => exact overrideUint_getD _ config.devicePreferredVectorWidthFloat
    | preferredVectorWidthDouble => exact overrideUint_getD _ config.devicePreferredVectorWidthDouble
    | numericVersion =>
      exact overrideNumericVersion_getD hserves config (ascii "OpenCL ") (.inl rfl) _ dest
    | openclCNumericVersion =>
      exact overrideNumericVersion_getD hserves config (ascii "OpenCL C ") (.inr (.inl rfl)) _ dest
    | extensionsWithVersion =>
      have hlisted := overrideListing_getD (config.zero_notMem_listedText A) (hfew _ _ rfl) config
        (A.answer .extensionsWithVersion) dest
      exact Eq.trans (by rw [← listedExtensions_eq hserves]; rfl) hlisted
    | ilsWithVersion =>
      have hlisted := overrideListing_getD (A.zero_notMem_text (.inr (.inr (.inr (.inl rfl)))))
        (hfew _ _ rfl) config (A.answer .ilsWithVersion) dest
      exact Eq.trans (by rw [← getInfoString_snd hserves]; rfl) hlisted
    | builtInKernelsWithVersion =>
      have hlisted := overrideListing_getD (A.zero_notMem_text (.inr (.inr (.inr (.inr rfl)))))
        (hfew _ _ rfl) config (A.answer .builtInKernelsWithVersion) dest
      exact Eq.trans (by rw [← getInfoString_snd hserves]; rfl) hlisted
    | hostMemCapabilities => exact overrideUsmCaps_getD hserves config UsmCaps.hostCaps _ dest
    | deviceMemCapabilities => exact overrideUsmCaps_getD hserves config UsmCaps.deviceCaps _ dest
    | singleDeviceSharedMemCapabilities =>
      exact overrideUsmCaps_getD hserves config UsmCaps.sdSharedCaps _ dest
    | crossDeviceSharedMemCapabilities =>
      exact overrideUsmCaps_getD hserves config UsmCaps.cdSharedCaps _ dest
    | sharedSystemMemCapabilities =>
      exact overrideUsmCaps_getD hserves config UsmCaps.sysSharedCaps _ dest
    | semaphoreTypes => exact overrideSemaphoreTypes_getD config
    | builtInKernels => rfl
    | svmCapabilities => rfl
    | other => rfl

/-- What the query that breaks the protocol gets: all but the refusal. -/
theorem overrideGetDeviceInfo_of_slips {A : DeviceAnswers} {getInfo : GetInfo DeviceInfo}
    (hserves : Serves getInfo A.answer) {config : InfoConfig} {dest : Destination}
    (h : Slips config A dest) :
    (overrideGetDeviceInfo config getInfo .extensions dest).getD (getInfo .extensions dest) =
      unnoticed (serve (A.reported config .extensions) dest) := by
  obtain ⟨bytes, hanswer⟩ := h.answers
  have hnoNul : 0 ∉ config.added (A.text .extensions) ++ A.text .extensions :=
    List.not_mem_append (config.zero_notMem_added _)
      (A.zero_notMem_text (.inr (.inr (.inl rfl))))
  have hreported : A.reported config .extensions =
      .ok (config.added (A.text .extensions) ++ A.text .extensions ++ [0]) := by
    show ownString config.deviceExtensions (A.extensions config) = _
    rw [ownString, if_neg (not_not.mpr h.notOwn), DeviceAnswers.extensions, hanswer]
  show (overrideExtensions config getInfo dest).getD _ = _
  rw [overrideExtensions_of_ok hserves h.notOwn hanswer, if_neg h.added, Option.getD_some,
    writeStringToMemory_eq hnoNul, hreported]

/-- **The layer in front of a device that keeps the protocol keeps it**, with the answers that are
reported, but for one query and, with `NoErrors`, for those that are refused. Where it does not, a
refused call is told of success. -/
theorem clGetDeviceInfo_eq_serve_iff {A : DeviceAnswers} {getInfo : GetInfo DeviceInfo}
    (hserves : Serves getInfo A.answer) (config : InfoConfig) (param : DeviceInfo)
    (hfew : ∀ listing text, A.listings config param = some (listing, text) →
      (listing.tokens text).length < 2 ^ 31) (dest : Destination) :
    (clGetDeviceInfo config getInfo param dest = serve (A.reported config param) dest ↔
      ¬(param = .extensions ∧ Slips config A dest) ∧
        (config.noErrors = true → (serve (A.reported config param) dest).retVal = clSuccess)) ∧
    (clGetDeviceInfo config getInfo param dest ≠ serve (A.reported config param) dest →
      clGetDeviceInfo config getInfo param dest =
        unnoticed (serve (A.reported config param) dest)) := by
  have hanswers := overrideGetDeviceInfo_getD hserves config param hfew dest
  unfold clGetDeviceInfo
  by_cases hslips : param = .extensions ∧ Slips config A dest
  · obtain ⟨rfl, hslips⟩ := hslips
    have hbreaks := mt hanswers.mp (not_not.mpr ⟨rfl, hslips⟩)
    rw [overrideGetDeviceInfo_of_slips hserves hslips] at hbreaks ⊢
    rw [checkError_unnoticed]
    exact ⟨iff_of_false hbreaks fun h => h.1 ⟨rfl, hslips⟩, fun _ => rfl⟩
  · rw [hanswers.mpr hslips]
    cases hno : config.noErrors with
    | false =>
      rw [checkError_of_errors hno]
      exact ⟨iff_of_true rfl ⟨hslips, fun h => absurd h Bool.false_ne_true⟩, fun h => absurd rfl h⟩
    | true =>
      rw [checkError_of_noErrors hno, unnoticed_eq_iff]
      exact ⟨⟨fun h => ⟨hslips, fun _ => h⟩, fun h => h.2 rfl⟩, fun _ => rfl⟩

/-- **The same of a platform**, which has no such query. -/
theorem clGetPlatformInfo_eq_serve {A : PlatformAnswers} {getInfo : GetInfo PlatformInfo}
    (hserves : Serves getInfo A.answer) (config : InfoConfig)
    (hfew : (Listing.tokens .extensions (A.text .extensions)).length < 2 ^ 31)
    (param : PlatformInfo) (dest : Destination) :
    clGetPlatformInfo config getInfo param dest =
      checkError config (serve (A.reported config param) dest) := by
  refine congrArg (checkError config) ?_
  rw [hserves]
  cases param with
  | name => exact overrideString_getD config.platformName
  | vendor => exact overrideString_getD config.platformVendor
  | profile => exact overrideString_getD config.platformProfile
  | version => exact overrideString_getD config.platformVersion
  | extensions => rfl
  | numericVersion =>
    exact overrideNumericVersion_getD hserves config (ascii "OpenCL ") (.inl rfl) _ dest
  | extensionsWithVersion =>
    have hlisted := overrideListing_getD (A.zero_notMem_text (.inr rfl)) hfew config
      (A.answer .extensionsWithVersion) dest
    exact Eq.trans (by rw [← getInfoString_snd hserves]; rfl) hlisted
  | semaphoreTypes => exact overrideSemaphoreTypes_getD config
  | other => rfl

/-- A device with one extension. -/
def oneExtension : DeviceAnswers where
  answer
    | .extensions => .ok (ascii "cl_khr_fp64" ++ [0])
    | .svmCapabilities => .ok [3, 0, 0, 0, 0, 0, 0, 0]
    | _ => .error clInvalidValue
  failed param e h := by
    cases param
    all_goals cases h <;> decide
  text_ends param h bytes hanswer := by
    rcases h with rfl | rfl | rfl | rfl | rfl
    all_goals cases hanswer
    exact ⟨⟨ascii "cl_khr_fp64", by decide⟩, rfl⟩
  svm_size bytes h := by
    cases h
    rfl

def emulatesAll : InfoConfig where
  emulateExtendedVersioning := true
  emulateSemaphore := true
  emulateUnifiedSharedMemory := true

/-- The array of extensions, whatever its size, and the string, for which four bytes are too few. -/
theorem clGetDeviceInfo_oneExtension :
    (∀ dest, clGetDeviceInfo emulatesAll (fun param => serve (oneExtension.answer param))
      .extensionsWithVersion dest = serve (oneExtension.reported emulatesAll .extensionsWithVersion)
        dest) ∧
    serve (oneExtension.reported emulatesAll .extensions) ⟨4, true, false⟩ =
      ⟨clInvalidValue, none, none⟩ ∧
    clGetDeviceInfo emulatesAll (fun param => serve (oneExtension.answer param)) .extensions
      ⟨4, true, false⟩ = ⟨clSuccess, none, none⟩ := by
  have hrefused : serve (oneExtension.reported emulatesAll .extensions) ⟨4, true, false⟩ =
      ⟨clInvalidValue, none, none⟩ := by
    decide +kernel
  refine ⟨fun dest => ?_, hrefused, ?_⟩
  · refine (clGetDeviceInfo_eq_serve_iff (fun _ _ => rfl) emulatesAll .extensionsWithVersion
      (fun listing text h => ?_) dest).1.mpr ⟨fun h => ?_, fun h => ?_⟩
    · cases h
      decide +kernel
    · cases h.1
    · cases h
  · obtain ⟨hiff, htold⟩ := clGetDeviceInfo_eq_serve_iff (fun _ _ => rfl) emulatesAll .extensions
      (fun listing text h => by cases h) ⟨4, true, false⟩
    have hslips : Slips emulatesAll oneExtension ⟨4, true, false⟩ := by
      refine ⟨rfl, by decide +kernel, rfl, fun bytes h => ?_, _, rfl⟩
      cases h
      decide +kernel
    rw [htold fun h => (hiff.mp h).1 ⟨rfl, hslips⟩, hrefused]
    rfl

/-! ## The tokens of the extensions -/

theorem chars_append (xs ys : Bytes) : chars (xs ++ ys) = chars xs ++ chars ys := List.map_append

/-- Bytes and characters have their terminators in the same places. -/
theorem nul_notMem_chars {text : Bytes} (h : 0 ∉ text) : '\x00' ∉ chars text := by
  intro hmem
  obtain ⟨c, hc, hnul⟩ := List.mem_map.mp hmem
  have hvalid : c.toNat.isValidChar := .inl (Nat.lt_trans c.toNat_lt (by decide))
  have hval := congrArg Char.val hnul
  rw [Char.ofNat, dif_pos hvalid] at hval
  have hzero : c = 0 := UInt8.toNat_inj.mp (congrArg UInt32.toNat hval)
  exact h (hzero ▸ hc)

/-- A text without a terminator is its own C string. -/
theorem cStr_chars {text : Bytes} (h : 0 ∉ text) : cStr (chars text) = chars text :=
  List.takeWhile_eq_self_iff.mpr fun _ hc =>
    decide_eq_true fun hnul => nul_notMem_chars h (hnul ▸ hc)

/-- Behind a space a text begins anew. -/
theorem words_append_of_ends {xs : List Char} (h : xs = [] ∨ xs.getLast? = some ' ')
    (ys : List Char) : words (xs ++ ys) = words xs ++ words ys := by
  rcases h with rfl | h
  · rfl
  · obtain ⟨front, rfl⟩ := List.getLast?_eq_some_iff.mp h
    rw [List.append_assoc, List.singleton_append, words_append_space, words_append_space]
    simp [words]

/-- Names with blanks behind them are as many words. -/
theorem words_spaced {names : List String} (h : ∀ name ∈ names, IsName name) :
    words (chars (spaced names)) = names.map String.toList := by
  have hchars : chars (spaced names) = (names.map String.toList).flatMap (· ++ [' ']) := by
    induction names with
    | nil => rfl
    | cons name names ih =>
      have hname := (h name List.mem_cons_self).chars_ascii
      have hrest := ih fun n hn => h n (List.mem_cons_of_mem name hn)
      rw [spaced, List.flatMap_cons, chars_append, chars_append, hname]
      exact congrArg _ hrest
  rw [hchars]
  refine words_flatMap (fun part hpart => ?_) fun part hpart => ?_
  all_goals obtain ⟨name, hname, rfl⟩ := List.mem_map.mp hpart
  · exact (h name hname).noSpace
  · exact (h name hname).nonempty

/-- What is put in front ends in a blank. -/
theorem InfoConfig.prepended_ends (config : InfoConfig) :
    chars config.prepended = [] ∨ (chars config.prepended).getLast? = some ' ' := by
  unfold InfoConfig.prepended
  dsimp only
  split
  · exact .inr (by rw [chars_append]; exact List.getLast?_concat)
  · next h =>
    by_cases hempty : config.prependDeviceExtensions.chars = []
    · exact .inl (by rw [hempty]; rfl)
    · have hlast := not_not.mp (not_and.mp h hempty)
      exact .inr (by rw [chars, List.getLast?_map, hlast]; rfl)

/-- The blank is no word of its own. -/
theorem InfoConfig.words_prepended (config : InfoConfig) :
    words (chars config.prepended) = words (chars config.prependDeviceExtensions.chars) := by
  unfold InfoConfig.prepended
  dsimp only
  split
  · rw [chars_append]
    show words (_ ++ ' ' :: []) = _
    rw [words_append_space]
    simp [words]
  · rfl

theorem spaced_ends (names : List String) :
    chars (spaced names) = [] ∨ (chars (spaced names)).getLast? = some ' ' := by
  rcases List.eq_nil_or_concat names with rfl | ⟨front, name, rfl⟩
  · exact .inl rfl
  · refine .inr ?_
    rw [List.concat_eq_append, spaced, List.flatMap_append, List.flatMap_singleton, chars_append,
      chars_append, ← List.append_assoc]
    exact List.getLast?_concat

/-- **The tokens that are reported**: those that are prepended, the names that are added, those of
the device. -/
theorem words_added (config : InfoConfig) (text : Bytes) :
    words (chars (config.added text ++ text)) =
      words (chars config.prependDeviceExtensions.chars) ++
        (missing text config.emulated).map String.toList ++ words (chars text) := by
  have hnames : ∀ name ∈ missing text config.emulated, IsName name := fun name hname => by
    obtain ⟨entry, hentry, rfl⟩ := mem_missing hname
    exact InfoConfig.isName hentry
  rw [InfoConfig.added, List.append_assoc, chars_append, chars_append,
    words_append_of_ends config.prepended_ends, words_append_of_ends (spaced_ends _),
    words_spaced hnames, config.words_prepended, List.append_assoc]

/-- A name is added if it is emulated and the search does not find it. -/
theorem mem_missing_iff {config : InfoConfig} {text : Bytes} (h : 0 ∉ text) {name : String} :
    name ∈ missing text config.emulated ↔
      (true, name) ∈ config.emulated ∧ ¬Found name.toList (chars text) := by
  rw [missing, List.mem_map]
  constructor
  · rintro ⟨⟨enabled, name⟩, hentry, rfl⟩
    obtain ⟨hmem, hfilter⟩ := List.mem_filter.mp hentry
    obtain ⟨rfl, hsearch⟩ := Bool.and_eq_true_iff.mp hfilter
    refine ⟨hmem, fun hfound => ?_⟩
    rw [← cStr_chars h] at hfound
    have hcheck := (check_eq_true_iff (InfoConfig.isName hmem) (chars text)).mpr hfound
    simp [hcheck] at hsearch
  · rintro ⟨hmem, hnone⟩
    refine ⟨(true, name), List.mem_filter.mpr ⟨hmem, ?_⟩, rfl⟩
    rw [← cStr_chars h] at hnone
    have hcheck := mt (check_eq_true_iff (InfoConfig.isName hmem) (chars text)).mp hnone
    simp [hcheck]

/-- **What an application with room for it reads**: the tokens that are prepended, the names that are
emulated and not found among those of the device, and the tokens of the device. -/
theorem clGetDeviceInfo_extensions {A : DeviceAnswers} {getInfo : GetInfo DeviceInfo}
    (hserves : Serves getInfo A.answer) (config : InfoConfig)
    (hown : config.deviceExtensions.chars = []) {bytes : Bytes}
    (hanswer : A.answer .extensions = .ok bytes) :
    ∃ (text : Bytes) (names : List String),
      (∀ size sizeRet, text.length < size →
        clGetDeviceInfo config getInfo .extensions ⟨size, true, sizeRet⟩ =
          ⟨clSuccess, some (text ++ [0]), if sizeRet then some (text.length + 1) else none⟩) ∧
      words (chars text) = words (chars config.prependDeviceExtensions.chars) ++
        names.map String.toList ++ words (chars (A.text .extensions)) ∧
      names.Nodup ∧
      ∀ name, name ∈ names ↔
        (true, name) ∈ config.emulated ∧ ¬Found name.toList (chars (A.text .extensions)) := by
  have htext : 0 ∉ A.text .extensions := A.zero_notMem_text (.inr (.inr (.inl rfl)))
  have hextensions : A.extensions config =
      .ok (config.added (A.text .extensions) ++ A.text .extensions ++ [0]) := by
    rw [DeviceAnswers.extensions, hanswer]
  refine ⟨config.added (A.text .extensions) ++ A.text .extensions,
    missing (A.text .extensions) config.emulated, fun size sizeRet hroom => ?_,
    words_added config _, ?_, fun name => mem_missing_iff htext⟩
  · have hlength : (config.added (A.text .extensions) ++ A.text .extensions ++ [0]).length =
        (config.added (A.text .extensions) ++ A.text .extensions).length + 1 := List.length_append
    have hslips : ¬Slips config A ⟨size, true, sizeRet⟩ := fun h => by
      have hsmall := h.small _ hextensions
      rw [hlength] at hsmall
      exact absurd hsmall (Nat.not_lt.mpr hroom)
    have hserved := (overrideExtensions_getD hserves config ⟨size, true, sizeRet⟩).mpr hslips
    rw [ownString, if_neg (not_not.mpr hown), hextensions, ← hserves] at hserved
    refine Eq.trans (congrArg (checkError config) hserved) ?_
    rw [serve, writeParamToMemory, hlength, if_pos rfl, if_neg (Nat.not_lt.mpr hroom)]
    exact checkError_of_success config rfl
  · refine List.Nodup.sublist (List.filter_sublist.map Prod.snd) ?_
    show ["cl_khr_extended_versioning", "cl_khr_semaphore", "cl_intel_unified_shared_memory"].Nodup
    decide

/-- Three names in front of one. -/
theorem clGetDeviceInfo_extensions_oneExtension :
    ∃ (text : Bytes) (names : List String),
      (∀ size sizeRet, text.length < size →
        clGetDeviceInfo emulatesAll (fun param => serve (oneExtension.answer param)) .extensions
          ⟨size, true, sizeRet⟩ =
            ⟨clSuccess, some (text ++ [0]), if sizeRet then some (text.length + 1) else none⟩) ∧
      words (chars text) = names.map String.toList ++ ["cl_khr_fp64".toList] ∧ names.Nodup := by
  obtain ⟨text, names, hroom, hwords, hnodup, -⟩ :=
    clGetDeviceInfo_extensions (A := oneExtension) (fun _ _ => rfl) emulatesAll rfl rfl
  refine ⟨text, names, hroom, hwords.trans ?_, hnodup⟩
  rfl

end CLIntercept.Device.Info
