import CLIntercept.Dump.Binaries

/-!
# One file for each binary

`dumpProgramBinary` and `dumpInputProgramBinaries` write the binaries of a program one after the
other, and a file that is there already is overwritten. The names within a call differ in the bits of
the device types only, so nothing is lost exactly if no two devices have the same ones:
`ownFiles_iff`.
-/

set_option autoImplicit false

namespace CLIntercept.Dump

open CLIntercept.Track

/-! ## Writing -/

/-- `CLI_<program number>_<hash>`. -/
def inputBinaryName (omitNumber : Bool) (n : UInt32) (hash : UInt64) : List String :=
  "CLI" :: numberField omitNumber n ++ [hashText hash]

/-- The files that `dumpInputProgramBinaries` writes, of the types and the binaries of the devices that
the application gives. -/
def dumpInputProgramBinaries (config : Config) (modified : Bool) (hash : UInt64) (p : Programs)
    (binaries : List (UInt64 × Bytes)) : List Written :=
  binaries.map fun binary =>
    { directory := dumpDirectory modified
      fields := inputBinaryName config.omitProgramNumber p.programNumber hash ++
        deviceFields binary.1
      extension := ".bin"
      bytes := binary.2 }

/-- `dumpMemoryToFile`, without `hash`. What the file held is gone. -/
def Files.write (files : Files) (w : Written) : Files :=
  Function.update files w.path (some w.bytes)

/-- **Nothing is lost**: the files have different names, and after the call the directory holds the
bytes of each. -/
structure OwnFiles (written : List Written) : Prop where
  distinct : (written.map Written.path).Nodup
  held : ∀ files : Files, ∀ w ∈ written, (written.foldl Files.write files) w.path = some w.bytes

/-- The bits of a `cl_device_type` that a name shows: CPU, GPU, accelerator and custom. -/
def typeBits (deviceType : UInt64) : Bool × Bool × Bool × Bool :=
  (deviceType &&& 0x2 ≠ 0, deviceType &&& 0x4 ≠ 0, deviceType &&& 0x8 ≠ 0, deviceType &&& 0x10 ≠ 0)

/-! ## Files that are written once -/

theorem foldl_write_of_notMem {written : List Written} {path : String}
    (h : path ∉ written.map Written.path) (files : Files) :
    (written.foldl Files.write files) path = files path := by
  induction written generalizing files with
  | nil => rfl
  | cons w written ih =>
    rw [List.map_cons, List.mem_cons, not_or] at h
    rw [List.foldl_cons, ih h.2, Files.write, Function.update_of_ne h.1]

/-- **Files of different names are all held.** -/
theorem ownFiles_iff_distinct (written : List Written) :
    OwnFiles written ↔ (written.map Written.path).Nodup := by
  refine ⟨fun h => h.distinct, fun h => ⟨h, fun files w hw => ?_⟩⟩
  induction written generalizing files with
  | nil => exact absurd hw List.not_mem_nil
  | cons w' written ih =>
    rw [List.map_cons, List.nodup_cons] at h
    rw [List.foldl_cons]
    rcases List.mem_cons.mp hw with rfl | hw
    · rw [foldl_write_of_notMem h.1, Files.write, Function.update_self]
    · exact ih h.2 (files.write w') hw

/-! ## Names -/

/-- What the bits add to a name. -/
def bitFields (bits : Bool × Bool × Bool × Bool) : List String :=
  (if bits.1 then ["CPU"] else []) ++ (if bits.2.1 then ["GPU"] else []) ++
    (if bits.2.2.1 then ["ACC"] else []) ++ (if bits.2.2.2 then ["CUSTOM"] else [])

theorem deviceFields_eq (deviceType : UInt64) :
    deviceFields deviceType = bitFields (typeBits deviceType) := by
  simp [deviceFields, bitFields, typeBits]

/-- Which fields there are says which bits are set. -/
theorem mem_bitFields (bits : Bool × Bool × Bool × Bool) :
    ("CPU" ∈ bitFields bits ↔ bits.1) ∧ ("GPU" ∈ bitFields bits ↔ bits.2.1) ∧
      ("ACC" ∈ bitFields bits ↔ bits.2.2.1) ∧ ("CUSTOM" ∈ bitFields bits ↔ bits.2.2.2) := by
  simp [bitFields]

theorem bitFields_inj {bits bits' : Bool × Bool × Bool × Bool}
    (h : bitFields bits = bitFields bits') : bits = bits' := by
  obtain ⟨hcpu, hgpu, hacc, hcustom⟩ := mem_bitFields bits
  rw [h] at hcpu hgpu hacc hcustom
  obtain ⟨hcpu', hgpu', hacc', hcustom'⟩ := mem_bitFields bits'
  refine Prod.ext (Bool.eq_iff_iff.mpr (hcpu.symm.trans hcpu')) ?_
  refine Prod.ext (Bool.eq_iff_iff.mpr (hgpu.symm.trans hgpu')) ?_
  exact Prod.ext (Bool.eq_iff_iff.mpr (hacc.symm.trans hacc'))
    (Bool.eq_iff_iff.mpr (hcustom.symm.trans hcustom'))

theorem deviceFields_inj {deviceType deviceType' : UInt64} :
    deviceFields deviceType = deviceFields deviceType' ↔ typeBits deviceType = typeBits deviceType' := by
  rw [deviceFields_eq, deviceFields_eq]
  exact ⟨bitFields_inj, fun h => by rw [h]⟩

theorem plain_inputBinaryName (omitNumber : Bool) (n : UInt32) (hash : UInt64) :
    Plain (inputBinaryName omitNumber n hash) := by
  refine ⟨by simp [inputBinaryName], fun x hx => ?_⟩
  simp only [inputBinaryName, List.cons_append, List.mem_cons, List.mem_append, List.not_mem_nil,
    or_false] at hx
  rcases hx with rfl | hx | rfl
  · decide
  · exact plain_numberField _ _ x hx
  · exact underscore_notMem_hashText hash

/-- Files that share all but the bits of the device types. -/
theorem distinct_iff {directory : String} {name : List String} (hname : Plain name)
    (binaries : List (UInt64 × Bytes)) :
    ((binaries.map fun binary : UInt64 × Bytes =>
        (⟨directory, name ++ deviceFields binary.1, ".bin", binary.2⟩ : Written)).map
        Written.path).Nodup ↔
      (binaries.map (typeBits ·.1)).Nodup := by
  have hpath : ∀ binary binary' : UInt64 × Bytes,
      file directory (name ++ deviceFields binary.1) ++ ".bin" =
        file directory (name ++ deviceFields binary'.1) ++ ".bin" ↔
      typeBits binary.1 = typeBits binary'.1 := by
    intro binary binary'
    rw [path_inj (plain_deviceFields hname _) (plain_deviceFields hname _), List.append_cancel_left_eq,
      deviceFields_inj]
  rw [List.map_map, List.nodup_iff_pairwise_ne, List.nodup_iff_pairwise_ne, List.pairwise_map,
    List.pairwise_map]
  exact List.Pairwise.iff fun binary binary' => not_congr (hpath binary binary')

/-- **When every binary has its own file**: no two devices have the same bits of the type. -/
theorem ownFiles_iff (config : Config) (binaries : List (UInt64 × Bytes)) :
    (∀ info, OwnFiles (dumpProgramBinary config info (some binaries)) ↔
      (binaries.map (typeBits ·.1)).Nodup) ∧
    ∀ modified hash p, OwnFiles (dumpInputProgramBinaries config modified hash p binaries) ↔
      (binaries.map (typeBits ·.1)).Nodup := by
  constructor
  · intro info
    rw [ownFiles_iff_distinct]
    exact distinct_iff (plain_binaryName config.omitProgramNumber info) binaries
  · intro modified hash p
    rw [ownFiles_iff_distinct]
    exact distinct_iff (plain_inputBinaryName config.omitProgramNumber p.programNumber hash) binaries

/-- Two GPUs: the second binary is written over the first. -/
theorem twoGPUs_overwritten :
    ¬OwnFiles (dumpProgramBinary {} {} (some [(4, [1]), (4, [2])])) ∧
      ¬OwnFiles (dumpInputProgramBinaries {} false 0 {} [(4, [1]), (4, [2])]) := by
  constructor
  · intro h
    have hbits := (distinct_iff (plain_binaryName false {}) [(4, [1]), (4, [2])]).mp h.distinct
    exact absurd hbits (by decide)
  · intro h
    have hbits := (distinct_iff (plain_inputBinaryName false 0 0) [(4, [1]), (4, [2])]).mp h.distinct
    exact absurd hbits (by decide)

end CLIntercept.Dump
