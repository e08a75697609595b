import CLIntercept.Lib.Printf
import CLIntercept.Lib.Run
import CLIntercept.Track.Programs
import Mathlib.Data.List.Induction

/-!
# Short kernel names

Where a kernel name is longer than a cutoff, the kernel is reported as `k_0`, `k_1` and so on, from a
counter. The map from long names to these is written at every registration, so that a kernel object
made of the same kernel a second time takes a new number for both; and a short kernel name may itself
be one of them.

Beside the code's state stand the names that were registered, each with what it was reported as from
then on. `reports_iff` says of every run exactly which registrations keep the reported name a stable
and injective function of the real one.
-/

set_option autoImplicit false

namespace CLIntercept.Timing

open CLIntercept.Lib CLIntercept.Track

/-! ## The code -/

/-- The kernel infos, `m_KernelID` and `m_LongKernelNameMap`; and the names that were registered, the
last first, each with its name in reports. -/
structure KernelNames where
  programs : Programs := {}
  kernelID : UInt32 := 0
  longKernelNameMap : String → Option String := fun _ => none
  reports : List (String × String) := []

/-- The names that are generated: `k_` and a number. -/
def generatedName (kernelID : UInt32) : String := "k_" ++ number 10 1 kernelID.toNat

/-- Whether a name is replaced. Lengths are in bytes. -/
def isLongName (config : Config) (kernelName : String) : Bool :=
  kernelName.utf8ByteSize > config.longKernelNameCutoff.toNat

def addShortKernelName (config : Config) (kernelName : String) (s : KernelNames) : KernelNames :=
  if isLongName config kernelName then
    { s with
      longKernelNameMap :=
        Function.update s.longKernelNameMap kernelName (some (generatedName s.kernelID))
      kernelID := s.kernelID + 1 }
  else s

/-- The name in reports of a real name. -/
def shortName (s : KernelNames) (realKernelName : String) : String :=
  (s.longKernelNameMap realKernelName).getD realKernelName

def getShortKernelName (s : KernelNames) (kernel : Handle) : String :=
  shortName s ((s.programs.kernelInfoMap kernel).getD {}).kernelName

section

variable (demangle : String → String) (config : Config)

def demangledName (kernelName : String) : String :=
  if config.demangleKernelNames then demangle kernelName else kernelName

/-- One registration, of a kernel that was created or of one of all the kernels of a program. -/
def registerKernel (kernel program : Handle) (kernelName : String) (s : KernelNames) :
    KernelNames :=
  let name := demangledName demangle config kernelName
  let s := { s with programs := addKernelInfo demangle config kernel program kernelName s.programs }
  let s := addShortKernelName config name s
  { s with reports := (name, shortName s name) :: s.reports }

/-- What happens to kernels, and to the info of programs that they are made of. -/
inductive NameAction where
  | saveProgramInfo (program : Handle) (info : SProgramInfo)
  | addKernelInfo (kernel program : Handle) (kernelName : String)
  | addKernelInfoClone (kernel sourceKernel : Handle)
  | checkRemoveKernelInfo (kernel : Handle) (refCount : Nat)

def nameStep (s : KernelNames) : NameAction → KernelNames
  | .saveProgramInfo program info =>
    { s with programs := s.programs.modify program fun _ => info }
  | .addKernelInfo kernel program kernelName =>
    registerKernel demangle config kernel program kernelName s
  | .addKernelInfoClone kernel sourceKernel =>
    { s with programs := addKernelInfoClone kernel sourceKernel s.programs }
  | .checkRemoveKernelInfo kernel refCount =>
    { s with programs := checkRemoveKernelInfo kernel refCount s.programs }

def nameSystem : System KernelNames NameAction where
  step := nameStep demangle config
  legal _ _ := True

end

/-- A tracked kernel of this real name is reported under this name. -/
def Reported (s : KernelNames) (realName reportedName : String) : Prop :=
  ∃ kernel info, s.programs.kernelInfoMap kernel = some info ∧ info.kernelName = realName ∧
    getShortKernelName s kernel = reportedName

/-! ## What one registration does -/

/-- The name that a registration gives. -/
def nameGiven (config : Config) (s : KernelNames) (name : String) : String :=
  if isLongName config name then generatedName s.kernelID else shortName s name

/-- A generated name is a name. -/
theorem generatedName_ne_empty (kernelID : UInt32) : generatedName kernelID ≠ "" := by
  intro h
  have hchars := congrArg String.toList h
  simp [generatedName] at hchars

section

variable (demangle : String → String) (config : Config) (s : KernelNames)

/-- Giving a name a short one changes no other. -/
theorem shortName_addShortKernelName (name other : String) :
    shortName (addShortKernelName config name s) other =
      if other = name then nameGiven config s name else shortName s other := by
  unfold addShortKernelName nameGiven
  by_cases hl : isLongName config name = true
  · rw [if_pos hl, if_pos hl]
    by_cases ho : other = name
    · simp [shortName, ho]
    · simp [shortName, ho]
  · rw [if_neg hl, if_neg hl]
    by_cases ho : other = name
    · rw [if_pos ho, ho]
    · rw [if_neg ho]

/-- A kernel's name is given one when it is created. -/
theorem shortName_registerKernel (kernel program : Handle) (kernelName other : String) :
    shortName (registerKernel demangle config kernel program kernelName s) other =
      if other = demangledName demangle config kernelName then
        nameGiven config s (demangledName demangle config kernelName)
      else shortName s other :=
  shortName_addShortKernelName config _ _ other

theorem addShortKernelName_reports (name : String) :
    (addShortKernelName config name s).reports = s.reports := by
  unfold addShortKernelName
  split <;> rfl

theorem addShortKernelName_programs (name : String) :
    (addShortKernelName config name s).programs = s.programs := by
  unfold addShortKernelName
  split <;> rfl

/-- The report has it in front. -/
theorem reports_registerKernel (kernel program : Handle) (kernelName : String) :
    (registerKernel demangle config kernel program kernelName s).reports =
      (demangledName demangle config kernelName,
        nameGiven config s (demangledName demangle config kernelName)) :: s.reports := by
  have hname : shortName (registerKernel demangle config kernel program kernelName s)
      (demangledName demangle config kernelName) = _ := shortName_registerKernel ..
  rw [if_pos rfl] at hname
  rw [← hname]
  exact congrArg _ (addShortKernelName_reports config _ _)

/-- The kernel is tracked under its name. -/
theorem registerKernel_kernelInfoMap (kernel program : Handle) (kernelName : String) :
    ∃ info : SKernelInfo, info.kernelName = demangledName demangle config kernelName ∧
      (registerKernel demangle config kernel program kernelName s).programs.kernelInfoMap =
        Function.update s.programs.kernelInfoMap kernel (some info) :=
  ⟨kernelInfoOf demangle config (s.programs.programInfoMap program) kernelName, rfl,
    congrArg Programs.kernelInfoMap (addShortKernelName_programs config _ _)⟩

end

/-! ## What is true of every run -/

/-- Of every name that a tracked kernel has, the present name in reports is recorded; the recorded
ones are the names themselves, or were generated for long ones. -/
structure NamesRecorded (config : Config) (s : KernelNames) : Prop where
  short : ∀ x ∈ s.reports, isLongName config x.1 = false → x.2 = x.1
  long : ∀ x ∈ s.reports, isLongName config x.1 = true → ∃ kernelID, x.2 = generatedName kernelID
  mapped : ∀ name, isLongName config name = false → s.longKernelNameMap name = none
  present : ∀ x ∈ s.reports, (x.1, shortName s x.1) ∈ s.reports
  tracked : ∀ kernel info, s.programs.kernelInfoMap kernel = some info →
    info.kernelName = "" ∨ ∃ x ∈ s.reports, x.1 = info.kernelName

section

variable {demangle : String → String} {config : Config} {s : KernelNames}

/-- The empty name is short. -/
theorem isLongName_empty : isLongName config "" = false := by
  simp [isLongName]

/-- A short name is its own. -/
theorem NamesRecorded.shortName_of_short (h : NamesRecorded config s) {name : String}
    (hs : isLongName config name = false) : shortName s name = name := by
  rw [shortName, h.mapped name hs]
  rfl

/-- What a registered name is reported as. -/
theorem NamesRecorded.nameGiven_eq (h : NamesRecorded config s) (name : String) :
    nameGiven config s name =
      if isLongName config name then generatedName s.kernelID else name := by
  unfold nameGiven
  cases hl : isLongName config name with
  | true => rfl
  | false => exact h.shortName_of_short hl

/-- Cloning a kernel keeps the names recorded. -/
theorem NamesRecorded.clone (h : NamesRecorded config s) (kernel sourceKernel : Handle) :
    NamesRecorded config
      ((nameSystem demangle config).step s (.addKernelInfoClone kernel sourceKernel)) := by
  refine ⟨h.short, h.long, h.mapped, h.present, fun k info hk => ?_⟩
  have hsource : ((s.programs.kernelInfoMap sourceKernel).getD {}).kernelName = "" ∨
      ∃ x ∈ s.reports, x.1 = ((s.programs.kernelInfoMap sourceKernel).getD {}).kernelName := by
    cases hi : s.programs.kernelInfoMap sourceKernel with
    | none => exact .inl rfl
    | some info => exact h.tracked sourceKernel info hi
  have hk' : Function.update (Function.update s.programs.kernelInfoMap sourceKernel
      (some ((s.programs.kernelInfoMap sourceKernel).getD {}))) kernel
      (some ((s.programs.kernelInfoMap sourceKernel).getD {})) k = some info := hk
  rw [Function.update_apply, Function.update_apply] at hk'
  split_ifs at hk' with hc hs
  · exact Option.some.inj hk' ▸ hsource
  · exact Option.some.inj hk' ▸ hsource
  · exact h.tracked k info hk'

/-- The release of a kernel keeps the names recorded. -/
theorem NamesRecorded.checkRemove (h : NamesRecorded config s) (kernel : Handle)
    (refCount : Nat) : NamesRecorded config
      ((nameSystem demangle config).step s (.checkRemoveKernelInfo kernel refCount)) := by
  refine ⟨h.short, h.long, h.mapped, h.present, fun k info hk => ?_⟩
  have hk' : (checkRemoveKernelInfo kernel refCount s.programs).kernelInfoMap k = some info := hk
  unfold checkRemoveKernelInfo at hk'
  split at hk'
  · by_cases hkk : k = kernel
    · subst hkk
      simp at hk'
    · exact h.tracked k info (by simpa [hkk] using hk')
  · exact h.tracked k info hk'

/-- A long name gets an entry, and a short one none. -/
theorem NamesRecorded.mapped_register (h : NamesRecorded config s) (kernel program : Handle)
    (kernelName : String) {name : String} (hs : isLongName config name = false) :
    (registerKernel demangle config kernel program kernelName s).longKernelNameMap name =
      none := by
  show (addShortKernelName config (demangledName demangle config kernelName) _).longKernelNameMap
    name = none
  unfold addShortKernelName
  split
  · next hl =>
    have hne : name ≠ demangledName demangle config kernelName := by
      rintro rfl
      rw [hs] at hl
      exact absurd hl (by decide)
    simpa [hne] using h.mapped name hs
  · exact h.mapped name hs

/-- **A creation records the name that is reported.** -/
theorem NamesRecorded.register (h : NamesRecorded config s) (kernel program : Handle)
    (kernelName : String) :
    NamesRecorded config (registerKernel demangle config kernel program kernelName s) := by
  obtain ⟨info, hinfo, hmap⟩ :=
    registerKernel_kernelInfoMap demangle config s kernel program kernelName
  have hreports := reports_registerKernel demangle config s kernel program kernelName
  have hgiven := h.nameGiven_eq (demangledName demangle config kernelName)
  refine ⟨?_, ?_, fun _ => h.mapped_register kernel program kernelName, ?_, ?_⟩
  · rw [hreports, List.forall_mem_cons]
    exact ⟨fun hs => by rw [hgiven, if_neg (by simpa using hs)], h.short⟩
  · rw [hreports, List.forall_mem_cons]
    exact ⟨fun hl => ⟨s.kernelID, by rw [hgiven, if_pos hl]⟩, h.long⟩
  · intro x hx
    rw [hreports, List.mem_cons] at hx
    rw [hreports, shortName_registerKernel]
    split
    · next heq => exact List.mem_cons.mpr (.inl (by rw [heq]))
    · next hne =>
      rcases hx with rfl | hx
      · exact absurd rfl hne
      · exact List.mem_cons_of_mem _ (h.present x hx)
  · intro k info' hk
    rw [hreports]
    rw [hmap, Function.update_apply] at hk
    split at hk
    · refine .inr ⟨_, List.mem_cons_self, ?_⟩
      rw [← Option.some.inj hk, hinfo]
    · rcases h.tracked k info' hk with h' | ⟨x, hx, heq⟩
      · exact .inl h'
      · exact .inr ⟨x, List.mem_cons_of_mem _ hx, heq⟩

/-- Every action keeps the names recorded. -/
theorem NamesRecorded.step (h : NamesRecorded config s) (a : NameAction) :
    NamesRecorded config ((nameSystem demangle config).step s a) := by
  cases a with
  | saveProgramInfo program info => exact ⟨h.short, h.long, h.mapped, h.present, h.tracked⟩
  | addKernelInfoClone kernel sourceKernel => exact h.clone kernel sourceKernel
  | checkRemoveKernelInfo kernel refCount => exact h.checkRemove kernel refCount
  | addKernelInfo kernel program kernelName => exact h.register kernel program kernelName

/-- No report is taken back. -/
theorem reports_subset_step (a : NameAction) :
    s.reports ⊆ ((nameSystem demangle config).step s a).reports := by
  cases a with
  | addKernelInfo kernel program kernelName =>
    show s.reports ⊆ (registerKernel demangle config kernel program kernelName s).reports
    rw [reports_registerKernel]
    exact List.subset_cons_self _ _
  | saveProgramInfo program info => exact fun _ hx => hx
  | addKernelInfoClone kernel sourceKernel => exact fun _ hx => hx
  | checkRemoveKernelInfo kernel refCount => exact fun _ hx => hx

/-- No run takes back a report. -/
theorem reports_subset_exec (as : List NameAction) :
    s.reports ⊆ ((nameSystem demangle config).exec s as).reports := by
  induction as generalizing s with
  | nil => exact fun _ hx => hx
  | cons a as ih => exact fun _ hx => ih (reports_subset_step a hx)

/-- What is reported of a tracked kernel is recorded, or is the empty name of a clone without a
source. -/
theorem NamesRecorded.mem_of_reported (h : NamesRecorded config s) {realName reportedName : String}
    (hr : Reported s realName reportedName) :
    (realName = "" ∧ reportedName = "") ∨ (realName, reportedName) ∈ s.reports := by
  obtain ⟨kernel, info, hinfo, rfl, hname⟩ := hr
  have hshort : shortName s info.kernelName = reportedName := by
    rw [← hname, getShortKernelName, hinfo]
    rfl
  rcases h.tracked kernel info hinfo with hempty | ⟨x, hx, heq⟩
  · refine .inl ⟨hempty, ?_⟩
    rw [← hshort, hempty, h.shortName_of_short isLongName_empty]
  · refine .inr ?_
    rw [← hshort, ← heq]
    exact h.present x hx

end

/-! ## Runs -/

/-- Recorded names and what they are reported as, one to one. -/
def OneToOne (reports : List (String × String)) : Prop :=
  ∀ x ∈ reports, ∀ y ∈ reports, x.2 = y.2 ↔ x.1 = y.1

/-- A long name is new, or keeps its number, and no other name is reported as the number that it
takes; a short name is not the number of a long one. -/
def KeepsName (config : Config) (s : KernelNames) (name : String) : Prop :=
  if isLongName config name then
    (∀ x ∈ s.reports, x.1 = name → shortName s x.1 = generatedName s.kernelID) ∧
      ∀ x ∈ s.reports, x.1 ≠ name → shortName s x.1 ≠ generatedName s.kernelID
  else ∀ x ∈ s.reports, isLongName config x.1 = true → shortName s x.1 ≠ name

def KeepsNames (demangle : String → String) (config : Config) (s : KernelNames) :
    NameAction → Prop
  | .addKernelInfo _ _ kernelName => KeepsName config s (demangledName demangle config kernelName)
  | _ => True

/-- One report more: its name is new, or it is the same pair again. -/
theorem oneToOne_cons {x : String × String} {reports : List (String × String)} :
    OneToOne (x :: reports) ↔ OneToOne reports ∧ ∀ y ∈ reports, y.2 = x.2 ↔ y.1 = x.1 := by
  constructor
  · intro h
    exact ⟨fun y hy z hz => h y (List.mem_cons_of_mem _ hy) z (List.mem_cons_of_mem _ hz),
      fun y hy => h y (List.mem_cons_of_mem _ hy) x List.mem_cons_self⟩
  · rintro ⟨hold, hnew⟩ y hy z hz
    rcases List.mem_cons.mp hy with rfl | hy' <;> rcases List.mem_cons.mp hz with rfl | hz'
    · exact iff_of_true rfl rfl
    · exact eq_comm.trans ((hnew z hz').trans eq_comm)
    · exact hnew y hy'
    · exact hold y hy' z hz'

section

variable {demangle : String → String} {config : Config} {s : KernelNames}

/-- While names are one to one, what is recorded of a name is what it is reported as. -/
theorem NamesRecorded.eq_shortName (h : NamesRecorded config s) (hp : OneToOne s.reports)
    {x : String × String} (hx : x ∈ s.reports) : x.2 = shortName s x.1 :=
  (hp x hx (x.1, shortName s x.1) (h.present x hx)).mpr rfl

/-- A name that is kept tells its kernels from the others. -/
theorem keepsName_iff (h : NamesRecorded config s) (hp : OneToOne s.reports) (name : String) :
    (∀ x ∈ s.reports, x.2 = nameGiven config s name ↔ x.1 = name) ↔ KeepsName config s name := by
  unfold KeepsName
  rw [h.nameGiven_eq]
  split
  · next hl =>
    constructor
    · intro hall
      refine ⟨fun x hx heq => ?_, fun x hx hne heq => ?_⟩
      · rw [← h.eq_shortName hp hx]
        exact (hall x hx).mpr heq
      · rw [← h.eq_shortName hp hx] at heq
        exact hne ((hall x hx).mp heq)
    · rintro ⟨hsame, hother⟩ x hx
      rw [h.eq_shortName hp hx]
      refine ⟨fun heq => ?_, hsame x hx⟩
      by_contra hne
      exact hother x hx hne heq
  · next hl =>
    have hs : isLongName config name = false := by simpa using hl
    constructor
    · intro hall x hx hlong heq
      rw [← h.eq_shortName hp hx] at heq
      rw [(hall x hx).mp heq, hs] at hlong
      exact absurd hlong (by decide)
    · intro hall x hx
      cases hx1 : isLongName config x.1 with
      | false => rw [h.short x hx hx1]
      | true =>
        refine iff_of_false ?_ ?_
        · rw [h.eq_shortName hp hx]
          exact hall x hx hx1
        · rintro rfl
          rw [hs] at hx1
          exact absurd hx1 (by decide)

/-- One step keeps names one to one exactly when what it registers does. -/
theorem oneToOne_step_iff (h : NamesRecorded config s) (hp : OneToOne s.reports) (a : NameAction) :
    OneToOne ((nameSystem demangle config).step s a).reports ↔
      KeepsNames demangle config s a := by
  cases a with
  | addKernelInfo kernel program kernelName =>
    show OneToOne (registerKernel demangle config kernel program kernelName s).reports ↔ _
    rw [reports_registerKernel, oneToOne_cons, and_iff_right hp]
    exact keepsName_iff h hp _
  | saveProgramInfo program info => exact iff_of_true hp trivial
  | addKernelInfoClone kernel sourceKernel => exact iff_of_true hp trivial
  | checkRemoveKernelInfo kernel refCount => exact iff_of_true hp trivial

theorem namesRecorded_init : NamesRecorded config {} :=
  ⟨by simp, by simp, fun _ _ => rfl, by simp, by simp⟩

/-- **The names are recorded in every run.** -/
theorem namesRecorded_exec (as : List NameAction) :
    NamesRecorded config ((nameSystem demangle config).exec {} as) :=
  System.exec_of_step (fun _ a h _ => h.step a) namesRecorded_init
    (System.each_of_forall (fun _ _ => trivial) _ _)

/-- What is recorded was reported, when it was registered at the latest. -/
theorem reported_of_mem {as : List NameAction} {x : String × String}
    (hx : x ∈ ((nameSystem demangle config).exec {} as).reports) :
    ∃ pre, pre <+: as ∧ Reported ((nameSystem demangle config).exec {} pre) x.1 x.2 := by
  induction as using List.reverseRecOn with
  | nil => exact absurd hx List.not_mem_nil
  | append_singleton as a ih =>
    by_cases hold : x ∈ ((nameSystem demangle config).exec {} as).reports
    · obtain ⟨pre, hpre, hr⟩ := ih hold
      exact ⟨pre, hpre.trans (List.prefix_append _ _), hr⟩
    · refine ⟨as ++ [a], List.prefix_rfl, ?_⟩
      rw [System.exec_append] at hx ⊢
      cases a with
      | saveProgramInfo program info => exact absurd hx hold
      | addKernelInfoClone kernel sourceKernel => exact absurd hx hold
      | checkRemoveKernelInfo kernel refCount => exact absurd hx hold
      | addKernelInfo kernel program kernelName =>
        generalize (nameSystem demangle config).exec {} as = s at hx hold
        change x ∈ (registerKernel demangle config kernel program kernelName s).reports at hx
        show Reported (registerKernel demangle config kernel program kernelName s) x.1 x.2
        rw [reports_registerKernel] at hx
        have hnew := (List.mem_cons.mp hx).resolve_right hold
        obtain ⟨info, hinfo, hmap⟩ :=
          registerKernel_kernelInfoMap demangle config s kernel program kernelName
        refine ⟨kernel, info, by rw [hmap, Function.update_self], by rw [hinfo, hnew], ?_⟩
        rw [getShortKernelName, hmap, Function.update_self, Option.getD_some, hinfo,
          shortName_registerKernel, if_pos rfl, hnew]

end

/-- **Names in reports**: through a whole run the name that a kernel is reported under is a stable
and injective function of its real name exactly when each registration keeps it so. -/
theorem reports_iff (demangle : String → String) (config : Config) (as : List NameAction) :
    (∀ pre₁ pre₂, pre₁ <+: as → pre₂ <+: as → ∀ name₁ name₂ reported₁ reported₂,
        Reported ((nameSystem demangle config).exec {} pre₁) name₁ reported₁ →
        Reported ((nameSystem demangle config).exec {} pre₂) name₂ reported₂ →
        (reported₁ = reported₂ ↔ name₁ = name₂)) ↔
      (nameSystem demangle config).Each (KeepsNames demangle config) {} as := by
  have hsteps : (nameSystem demangle config).Always (fun s => OneToOne s.reports) {} as ↔
      (nameSystem demangle config).Each (KeepsNames demangle config) {} as :=
    System.always_iff_each (I := NamesRecorded config) (fun _ a h _ => h.step a)
      (fun _ a h hp _ => oneToOne_step_iff h hp a) namesRecorded_init (by simp [OneToOne])
      (System.each_of_forall (fun _ _ => trivial) _ _)
  have hgrow : ∀ pre, pre <+: as → ((nameSystem demangle config).exec {} pre).reports ⊆
      ((nameSystem demangle config).exec {} as).reports := by
    rintro pre ⟨rest, rfl⟩
    rw [System.exec_append]
    exact reports_subset_exec rest
  -- only the empty name is reported without having been registered
  have hempty : ∀ x ∈ ((nameSystem demangle config).exec {} as).reports, x.2 = "" ↔ x.1 = "" := by
    intro x hx
    have h : NamesRecorded config ((nameSystem demangle config).exec {} as) :=
      namesRecorded_exec as
    cases hl : isLongName config x.1 with
    | false => rw [h.short x hx hl]
    | true =>
      obtain ⟨kernelID, hid⟩ := h.long x hx hl
      refine iff_of_false (by rw [hid]; exact generatedName_ne_empty kernelID) fun heq => ?_
      rw [heq, isLongName_empty] at hl
      exact absurd hl (by decide)
  rw [← hsteps]
  constructor
  · intro h
    rw [System.always_iff_prefix]
    intro pre hpre x hx y hy
    obtain ⟨pre₁, hpre₁, hr₁⟩ := reported_of_mem (hgrow pre hpre hx)
    obtain ⟨pre₂, hpre₂, hr₂⟩ := reported_of_mem (hgrow pre hpre hy)
    exact h pre₁ pre₂ hpre₁ hpre₂ _ _ _ _ hr₁ hr₂
  · intro h pre₁ pre₂ hpre₁ hpre₂ name₁ name₂ reported₁ reported₂ hr₁ hr₂
    have hone := h.last
    rcases (namesRecorded_exec pre₁).mem_of_reported hr₁ with ⟨rfl, rfl⟩ | hmem₁ <;>
      rcases (namesRecorded_exec pre₂).mem_of_reported hr₂ with ⟨rfl, rfl⟩ | hmem₂
    · exact iff_of_true rfl rfl
    · exact eq_comm.trans ((hempty _ (hgrow _ hpre₂ hmem₂)).trans eq_comm)
    · exact hempty _ (hgrow _ hpre₁ hmem₁)
    · exact hone _ (hgrow _ hpre₁ hmem₁) _ (hgrow _ hpre₂ hmem₂)

/-- The second kernel object of a long name renames the first one. -/
theorem second_registration_renames :
    ¬ ∀ pre₁ pre₂, pre₁ <+: [NameAction.addKernelInfo 1 9 "sgemm", .addKernelInfo 2 9 "sgemm"] →
        pre₂ <+: [NameAction.addKernelInfo 1 9 "sgemm", .addKernelInfo 2 9 "sgemm"] →
        ∀ name₁ name₂ reported₁ reported₂,
          Reported ((nameSystem id { longKernelNameCutoff := 3 }).exec {} pre₁) name₁ reported₁ →
          Reported ((nameSystem id { longKernelNameCutoff := 3 }).exec {} pre₂) name₂ reported₂ →
          (reported₁ = reported₂ ↔ name₁ = name₂) := by
  intro h
  have hfirst : Reported ((nameSystem id { longKernelNameCutoff := 3 }).exec {}
      [.addKernelInfo 1 9 "sgemm"]) "sgemm" "k_0" := ⟨1, _, rfl, rfl, by decide⟩
  have hsecond : Reported ((nameSystem id { longKernelNameCutoff := 3 }).exec {}
      [.addKernelInfo 1 9 "sgemm", .addKernelInfo 2 9 "sgemm"]) "sgemm" "k_1" :=
    ⟨1, _, rfl, rfl, by decide⟩
  have heq := (h _ _ (List.prefix_append _ _) List.prefix_rfl _ _ _ _ hfirst hsecond).mpr rfl
  exact absurd heq (by decide)

end CLIntercept.Timing
