import CLIntercept.CommandBuffer.Tracking

/-!
# Which calls the layer follows

`tracked_iff` says of every run exactly which calls keep the maps equal to what the driver has: a
remap forgets the commands that it returns and a recording that goes on, a command that fails is
added if the application's variable is not `NULL`, and a release removes what it has not yet
released.

The three maps of live objects and the map of recordings are followed apart: `Objects` and
`Recordings` have one lemma for each call, and `trackedStep_iff` puts them together.
-/

set_option autoImplicit false

namespace CLIntercept.CommandBuffer

open CLIntercept.Lib

/-! ## One call -/

/-- The three maps of live objects are exact. -/
structure Objects (t : Tracking) (d : Driver) : Prop where
  buffers : ∀ cmdbuf, t.commandBufferInfoMap.get? cmdbuf = d.platformOf cmdbuf
  commands : ∀ cmd, t.mutableCommandInfoMap.get? cmd = d.infoOf cmd
  listed : ∀ cmdbuf cmd, (t.commands cmdbuf).count cmd =
    if d.ownerOf cmd = some cmdbuf then 1 else 0

/-- The recordings are exact. -/
def Recordings (config : Config) (t : Tracking) (d : Driver) : Prop :=
  config.dumpCommandBuffers = true → ∀ cmdbuf,
    (t.commandBufferRecordMap.get? cmdbuf).isSome = true ↔ d.IsRecording cmdbuf

/-- The platforms that calls look up follow from the maps. -/
theorem tracked_iff_objects_recordings {config : Config} {s : TrackedState} :
    Tracked config s ↔ Objects s.tracking s.driver ∧ Recordings config s.tracking s.driver := by
  constructor
  · intro h
    exact ⟨⟨h.buffers, h.commands, h.listed⟩, h.recordings⟩
  · rintro ⟨ho, hr⟩
    refine ⟨ho.buffers, ho.commands, ho.listed, hr, fun cmdbuf b hb => ?_, fun cmd k b hk hb => ?_⟩
    · rw [Tracking.getPlatform, ho.buffers, Driver.platformOf, hb]
      rfl
    · rw [Tracking.getCommandPlatform, ho.commands, Driver.infoOf, hk, Option.bind_some,
        Driver.platformOf, hb]
      rfl

section

variable {config : Config} {t : Tracking} {d : Driver}

/-- The objects do not depend on the recordings. -/
theorem Objects.setRecording (cmdbuf : Handle) (r : SCommandBufferRecord) :
    Objects (t.setRecording cmdbuf r) d ↔ Objects t d :=
  ⟨fun h => ⟨h.buffers, h.commands, h.listed⟩, fun h => ⟨h.buffers, h.commands, h.listed⟩⟩

/-- The driver may change what no map holds. -/
theorem Objects.congr (h : Objects t d) {d' : Driver}
    (hp : ∀ cmdbuf, d'.platformOf cmdbuf = d.platformOf cmdbuf) (hc : d'.commands = d.commands) :
    Objects t d' where
  buffers cmdbuf := (h.buffers cmdbuf).trans (hp cmdbuf).symm
  commands cmd := (h.commands cmd).trans
    (Driver.infoOf_congr (congrFun hc cmd) fun k _ => hp k.commandBuffer).symm
  listed cmdbuf cmd := by
    rw [Driver.ownerOf, hc]
    exact h.listed cmdbuf cmd

/-- A new command buffer is exact if its platform is that of the queue. -/
theorem objects_addCommandBufferInfo_iff (h : Objects t d) (hv : d.Valid) {cmdbuf : Handle}
    (hb : cmdbuf ≠ null) (hnew : d.buffers cmdbuf = none) (platform : Handle) (b : LiveBuffer) :
    Objects (t.addCommandBufferInfo cmdbuf platform) (d.setBuffer cmdbuf b) ↔
      b.platform = platform := by
  have hplatform : ∀ h', (d.setBuffer cmdbuf b).platformOf h' =
      if h' = cmdbuf then some b.platform else d.platformOf h' := by
    intro h'
    unfold Driver.platformOf
    rw [Driver.buffers_setBuffer]
    split <;> rfl
  rw [Tracking.addCommandBufferInfo, if_pos hb]
  constructor
  · intro h'
    have hself := h'.buffers cmdbuf
    rw [OrdMap.get?_insert, if_pos rfl, hplatform, if_pos rfl] at hself
    exact (Option.some.inj hself).symm
  · rintro rfl
    refine ⟨fun h' => ?_, fun cmd => ?_, h.listed⟩
    · rw [hplatform, OrdMap.get?_insert, h.buffers]
    · have hinfo : (d.setBuffer cmdbuf b).infoOf cmd = d.infoOf cmd := by
        refine Driver.infoOf_congr rfl fun k hk => ?_
        -- no command is of a command buffer that is new
        have hne : k.commandBuffer ≠ cmdbuf := by
          intro heq
          have howner := hv.owner cmd k hk
          rw [heq, hnew] at howner
          cases howner
        rw [hplatform, if_neg hne]
      rw [hinfo]
      exact h.commands cmd

/-- The two macros are one: a command that is no kernel has the work dimension 0. -/
theorem addMutableCommand_eq (c : CommandCall) (t : Tracking) :
    t.addMutableCommand c = match c.mutableHandle with
      | some cmd => t.addMutableCommandInfo cmd c.commandBuffer c.function.workDim
      | none => t := by
  unfold Tracking.addMutableCommand
  cases c.mutableHandle with
  | none => rfl
  | some cmd =>
    by_cases hcmd : cmd = null
    · simp [hcmd, Tracking.addMutableCommandInfo]
    · simp only [hcmd, ne_eq, not_false_eq_true, if_true]
      cases c.function <;> rfl

/-- A command is listed once more, under its own command buffer. -/
theorem commands_addMutableCommandInfo {cmd cmdbuf : Handle} (hc : cmd ≠ null) (hb : cmdbuf ≠ null)
    (dim : UInt32) (h : Handle) :
    (t.addMutableCommandInfo cmd cmdbuf dim).commands h =
      if h = cmdbuf then t.commands cmdbuf ++ [cmd] else t.commands h := by
  rw [Tracking.addMutableCommandInfo, if_pos ⟨hc, hb⟩, Tracking.commands, OrdMap.get?_insert]
  split <;> rfl

/-- A new command of a live command buffer is exact. -/
theorem objects_addMutableCommandInfo (h : Objects t d) (hv : d.Valid) {cmd cmdbuf : Handle}
    (hc : cmd ≠ null) (hlive : (d.buffers cmdbuf).isSome) (hnew : d.commands cmd = none)
    (dim : UInt32) :
    Objects (t.addMutableCommandInfo cmd cmdbuf dim)
      (d.setCommand cmd { commandBuffer := cmdbuf, workDim := dim }) := by
  have hb : cmdbuf ≠ null := by
    rintro rfl
    rw [hv.buffers_null] at hlive
    cases hlive
  obtain ⟨b, hbuf⟩ := Option.isSome_iff_exists.mp hlive
  have hplatform : ∀ h', (d.setCommand cmd
      { commandBuffer := cmdbuf, workDim := dim }).platformOf h' = d.platformOf h' := fun h' => by
    rw [Driver.platformOf, Driver.buffers_setCommand, Driver.platformOf]
  refine ⟨fun h' => ?_, fun cmd' => ?_, fun h' cmd' => ?_⟩
  · rw [hplatform, Tracking.addMutableCommandInfo, if_pos ⟨hc, hb⟩]
    exact h.buffers h'
  · rw [Tracking.addMutableCommandInfo, if_pos ⟨hc, hb⟩, OrdMap.get?_insert]
    by_cases heq : cmd' = cmd
    · rw [if_pos heq, Driver.infoOf, Driver.commands_setCommand hc, if_pos heq, Option.bind_some,
        hplatform, Tracking.getPlatform, h.buffers, Driver.platformOf, hbuf]
      rfl
    · rw [if_neg heq, h.commands]
      refine (Driver.infoOf_congr ?_ fun k _ => hplatform k.commandBuffer).symm
      rw [Driver.commands_setCommand hc, if_neg heq]
  · rw [commands_addMutableCommandInfo hc hb, Driver.ownerOf, Driver.commands_setCommand hc]
    have hold := h.listed cmdbuf cmd'
    by_cases heq : cmd' = cmd
    · subst heq
      rw [Driver.ownerOf, hnew, Option.map_none, if_neg (by simp)] at hold
      by_cases hcmdbuf : h' = cmdbuf
      · simp [hcmdbuf, hold]
      · have hother := h.listed h' cmd'
        rw [Driver.ownerOf, hnew, Option.map_none, if_neg (by simp)] at hother
        simp [hcmdbuf, Ne.symm hcmdbuf, hother]
    · rw [if_neg heq]
      by_cases hcmdbuf : h' = cmdbuf
      · subst hcmdbuf
        rw [if_pos rfl, List.count_append, hold, Driver.ownerOf]
        simp [Ne.symm heq]
      · rw [if_neg hcmdbuf]
        exact h.listed h' cmd'

/-- A command that the driver does not have is listed once too often. -/
theorem not_objects_addMutableCommandInfo (h : Objects t d) {cmd cmdbuf : Handle} (hc : cmd ≠ null)
    (hb : cmdbuf ≠ null) (dim : UInt32) : ¬Objects (t.addMutableCommandInfo cmd cmdbuf dim) d := by
  intro h'
  have hold := h.listed cmdbuf cmd
  have hnew := h'.listed cmdbuf cmd
  rw [commands_addMutableCommandInfo hc hb, if_pos rfl, List.count_append, ← hold] at hnew
  simp at hnew

/-- What a remap returns is known only if it is `NULL`. -/
theorem commands_setCommands (cmdbuf : Handle) {cmd : Handle} (hc : cmd ≠ null)
    (hs : List (Handle × UInt32))
    (h : (d.ownerOf cmd = some cmdbuf) ∨ cmd ∈ hs.map (·.1)) :
    (hs.foldl (fun d h => d.setCommand h.1 { commandBuffer := cmdbuf, workDim := h.2 }) d).ownerOf
      cmd = some cmdbuf := by
  induction hs generalizing d with
  | nil => exact h.resolve_right (by simp)
  | cons h' hs ih =>
    refine ih ?_
    rw [List.map_cons, List.mem_cons] at h
    by_cases heq : cmd = h'.1
    · left
      rw [Driver.ownerOf, Driver.commands_setCommand (heq ▸ hc), if_pos heq]
      rfl
    · rcases h with howner | hself | hmem
      · left
        show (d.setCommand h'.1 _).ownerOf cmd = some cmdbuf
        by_cases hnull : h'.1 = null
        · rw [hnull, Driver.setCommand_null]
          exact howner
        · rw [Driver.ownerOf, Driver.commands_setCommand hnull, if_neg heq]
          exact howner
      · exact absurd hself heq
      · exact .inr hmem

/-- A remap that returns only `NULL` handles gives out no command. -/
theorem setCommands_of_null {cmdbuf : Handle} {hs : List (Handle × UInt32)}
    (h : ∀ x ∈ hs, x.1 = null) :
    hs.foldl (fun d h => d.setCommand h.1 { commandBuffer := cmdbuf, workDim := h.2 }) d = d := by
  induction hs with
  | nil => rfl
  | cons x hs ih =>
    rw [List.foldl_cons, h x (List.mem_cons_self), Driver.setCommand_null]
    exact ih fun y hy => h y (List.mem_cons_of_mem _ hy)

/-- A remap keeps the maps exact if it returns no command and its platform is that of the queue. -/
theorem objects_remap_iff (h : Objects t d) (hv : d.Valid) (c : CreateCall)
    (ha : d.Answers (.clRemapCommandBufferKHR c)) :
    Objects (t.addCommandBufferInfo c.retVal (c.queue.getD null))
        (d.apply (.clRemapCommandBufferKHR c)) ↔
      c.retVal = null ∨ c.platform = c.queue.getD null ∧ ∀ h ∈ c.handlesRet, h.1 = null := by
  by_cases hret : c.retVal = null
  · simp only [Driver.apply, hret, ne_eq, not_true, if_false, true_or, iff_true]
    rw [Tracking.addCommandBufferInfo, if_neg (not_not_intro rfl)]
    exact h
  · obtain ⟨hnew, -, -, hfresh⟩ := ha hret
    simp only [Driver.apply, hret, ne_eq, not_false_eq_true, if_true, false_or]
    constructor
    · intro h'
      have hnull : ∀ x ∈ c.handlesRet, x.1 = null := by
        intro x hx
        by_contra hne
        -- a returned command is live, and the layer does not know it
        have howner := commands_setCommands (d := d.setBuffer c.retVal
          { platform := c.platform
            isRecording := (d.buffers c.commandBuffer).any (·.isRecording) }) c.retVal hne
          c.handlesRet (.inr (List.mem_map_of_mem hx))
        have hlisted := h'.listed c.retVal x.1
        rw [howner, if_pos rfl] at hlisted
        have hold := h.listed c.retVal x.1
        rw [Driver.ownerOf, hfresh x hx, Option.map_none, if_neg (by simp)] at hold
        rw [Tracking.addCommandBufferInfo, if_pos hret] at hlisted
        exact absurd (hlisted.symm.trans hold) (by decide)
      rw [setCommands_of_null hnull] at h'
      exact ⟨(objects_addCommandBufferInfo_iff h hv hret hnew _ _).mp h', hnull⟩
    · rintro ⟨hplatform, hnull⟩
      rw [setCommands_of_null hnull]
      exact (objects_addCommandBufferInfo_iff h hv hret hnew _ _).mpr hplatform

/-- A creation keeps them exact if the platform is that of the queue. -/
theorem objects_create_iff (h : Objects t d) (hv : d.Valid) (c : CreateCall)
    (ha : d.Answers (.clCreateCommandBufferKHR c)) :
    Objects ((t.recordCreate config c).addCommandBufferInfo c.retVal (c.queue.getD null))
        (d.apply (.clCreateCommandBufferKHR c)) ↔
      c.retVal = null ∨ c.platform = c.queue.getD null := by
  have hrecord : Objects (t.recordCreate config c) d := by
    unfold Tracking.recordCreate
    split
    · exact (Objects.setRecording _ _).mpr h
    · exact h
  by_cases hret : c.retVal = null
  · simp only [Driver.apply, hret, ne_eq, not_true, if_false, true_or, iff_true]
    rw [Tracking.addCommandBufferInfo, if_neg (not_not_intro rfl)]
    exact hrecord
  · simp only [Driver.apply, hret, ne_eq, not_false_eq_true, if_true, false_or]
    exact objects_addCommandBufferInfo_iff hrecord hv hret (ha hret).1 _ _

/-- Recording a command adds no object. -/
theorem Objects.recordCommand (h : Objects t d) (c : CommandCall) :
    Objects (t.recordCommand config c) d := by
  unfold Tracking.recordCommand recordIf
  split
  · exact (Objects.setRecording _ _).mpr h
  · exact h

/-- A command that fails must not be added, and is if it has a handle to add it under. -/
theorem objects_command_iff (h : Objects t d) (hv : d.Valid) (c : CommandCall)
    (ha : d.Answers (.command c)) :
    Objects ((t.recordCommand config c).addMutableCommand c) (d.apply (.command c)) ↔
      c.retVal = clSuccess ∨ c.commandBuffer = null ∨
        ∀ cmd, c.mutableHandle = some cmd → cmd = null := by
  have hrecord : Objects (t.recordCommand config c) d := h.recordCommand c
  rw [addMutableCommand_eq]
  cases hhandle : c.mutableHandle with
  | none => simp [Driver.apply, hhandle, hrecord]
  | some cmd =>
    simp only [Driver.apply, hhandle, Option.some.injEq, forall_eq']
    by_cases hcmd : cmd = null
    · rw [hcmd, Driver.setCommand_null, ite_self, Tracking.addMutableCommandInfo,
        if_neg fun hne => hne.1 rfl]
      simp [hrecord]
    · by_cases hret : c.retVal = clSuccess
      · obtain ⟨hlive, hnew⟩ := ha hret
        simp only [hret, if_true, true_or, iff_true]
        exact objects_addMutableCommandInfo hrecord hv hcmd hlive (hnew cmd hhandle) _
      · simp only [hret, if_false, hcmd, or_false, false_or]
        by_cases hb : c.commandBuffer = null
        · rw [Tracking.addMutableCommandInfo, if_neg fun hne => hne.2 hb]
          exact iff_of_true hrecord hb
        · exact iff_of_false (not_objects_addMutableCommandInfo hrecord hcmd hb _) hb

/-- The end of a recording removes no object. -/
theorem Objects.recordFinalize (h : Objects t d) (c : BufferCall) :
    Objects (t.recordFinalize config c) d := by
  unfold Tracking.recordFinalize recordIf
  split
  · exact ⟨h.buffers, h.commands, h.listed⟩
  · exact h

/-- The references of a command buffer and its being recorded are in no map. -/
theorem Objects.modifyBuffer (h : Objects t d) (cmdbuf : Handle) {f : LiveBuffer → LiveBuffer}
    (hf : ∀ b, (f b).platform = b.platform) : Objects t (d.modifyBuffer cmdbuf f) :=
  h.congr (fun h' => Driver.platformOf_modifyBuffer cmdbuf h' hf) (Driver.commands_modifyBuffer _ _)

/-- What is removed is exactly what is destroyed. -/
theorem objects_removeCommandBufferInfo (h : Objects t d) (cmdbuf : Handle) :
    Objects (t.removeCommandBufferInfo cmdbuf) (d.destroy cmdbuf) := by
  have hmem : ∀ cmd, cmd ∈ t.commands cmdbuf ↔ d.ownerOf cmd = some cmdbuf := by
    intro cmd
    rw [← List.count_pos_iff, h.listed]
    split <;> simp_all
  refine ⟨fun h' => ?_, fun cmd => ?_, fun h' cmd => ?_⟩
  · rw [Driver.platformOf_destroy, Tracking.removeCommandBufferInfo, OrdMap.get?_erase, h.buffers]
  · rw [Tracking.removeCommandBufferInfo, OrdMap.get?_foldl_erase, h.commands,
      Driver.infoOf_destroy]
    simp only [hmem]
  · rw [Tracking.removeCommandBufferInfo, Tracking.commands, OrdMap.get?_erase]
    simp only [Driver.ownerOf_destroy]
    by_cases heq : h' = cmdbuf
    · simp [heq]
    · have hold := h.listed h' cmd
      rw [Tracking.commands] at hold
      simp [heq, hold]

/-- The layer forgets a command buffer if it can ask for its references and there is one. -/
theorem removes_iff (c : ReleaseCall) (ha : d.Answers (.clReleaseCommandBufferKHR c)) {b : LiveBuffer}
    (hb : d.buffers c.commandBuffer = some b) :
    (c.infoTables b.platform && c.infoError = clSuccess && c.refCount = 1) = true ↔
      (c.infoTables b.platform = true ∧ c.infoError = clSuccess) ∧ b.refCount = 1 := by
  rw [Bool.and_eq_true, Bool.and_eq_true, decide_eq_true_eq, decide_eq_true_eq]
  refine and_congr_right fun hasked => ?_
  rw [ha.2 b hb hasked.2]

/-- A release is exact if the layer forgets the command buffer exactly when the driver does. -/
theorem objects_release_iff (h : Objects t d) (c : ReleaseCall)
    (ha : d.Answers (.clReleaseCommandBufferKHR c)) :
    Objects (t.checkRemoveCommandBufferInfo c) (d.apply (.clReleaseCommandBufferKHR c)) ↔
      ∀ b, d.buffers c.commandBuffer = some b → b.refCount = 1 →
        (c.infoTables b.platform = true ∧ c.infoError = clSuccess ↔ c.retVal = clSuccess) := by
  unfold Tracking.checkRemoveCommandBufferInfo
  simp only [h.buffers, Driver.platformOf, Driver.apply]
  cases hb : d.buffers c.commandBuffer with
  | none => simp [h]
  | some b =>
    simp only [Option.map_some, Option.some.injEq, forall_eq']
    have hremoves := removes_iff c ha hb
    by_cases hone : b.refCount = 1
    · simp only [hone, and_true] at hremoves
      simp only [hone, if_true, forall_const]
      by_cases hforgets : c.infoTables b.platform = true ∧ c.infoError = clSuccess
      · rw [if_pos (hremoves.mpr hforgets)]
        by_cases hret : c.retVal = clSuccess
        · rw [if_pos hret]
          exact iff_of_true (objects_removeCommandBufferInfo h _) (iff_of_true hforgets hret)
        · rw [if_neg hret]
          refine iff_of_false (fun h' => ?_) fun hiff => hret (hiff.mp hforgets)
          have hgone := h'.buffers c.commandBuffer
          rw [Driver.platformOf, hb, Tracking.removeCommandBufferInfo, OrdMap.get?_erase,
            if_pos rfl] at hgone
          cases hgone
      · rw [if_neg (mt hremoves.mp hforgets)]
        by_cases hret : c.retVal = clSuccess
        · rw [if_pos hret]
          refine iff_of_false (fun h' => ?_) fun hiff => hforgets (hiff.mpr hret)
          have hstays := h'.buffers c.commandBuffer
          rw [h.buffers, Driver.platformOf_destroy, if_pos rfl, Driver.platformOf, hb] at hstays
          cases hstays
        · rw [if_neg hret]
          exact iff_of_true h (iff_of_false hforgets hret)
    · rw [if_neg fun hyes => hone (hremoves.mp hyes).2]
      simp only [hone, if_false, false_implies, iff_true]
      split
      · exact h.modifyBuffer _ fun _ => rfl
      · exact h

/-! ## The recordings -/

/-- The recordings stay exact where neither side of them changes. -/
theorem recordings_iff_of_eq {t' : Tracking} {d' : Driver} (h : Recordings config t d)
    (ht : t'.commandBufferRecordMap = t.commandBufferRecordMap)
    (hd : ∀ cmdbuf, d'.IsRecording cmdbuf ↔ d.IsRecording cmdbuf) : Recordings config t' d' := by
  intro hdump cmdbuf
  rw [ht, hd]
  exact h hdump cmdbuf

/-- A new command buffer is recorded as it says. -/
theorem isRecording_setBuffer (cmdbuf h : Handle) (b : LiveBuffer) :
    (d.setBuffer cmdbuf b).IsRecording h ↔
      if h = cmdbuf then b.isRecording = true else d.IsRecording h := by
  unfold Driver.IsRecording
  rw [Driver.buffers_setBuffer]
  split <;> simp

/-- A command does not change what is being recorded. -/
theorem isRecording_setCommand (cmd : Handle) (k : LiveCommand) (h : Handle) :
    (d.setCommand cmd k).IsRecording h ↔ d.IsRecording h := by
  rw [Driver.IsRecording, Driver.buffers_setCommand, Driver.IsRecording]

/-- Several commands that are set end no recording. -/
theorem isRecording_setCommands (cmdbuf : Handle) (hs : List (Handle × UInt32)) (h : Handle) :
    (hs.foldl (fun d h => d.setCommand h.1 { commandBuffer := cmdbuf, workDim := h.2 })
      d).IsRecording h ↔ d.IsRecording h := by
  induction hs generalizing d with
  | nil => exact Iff.rfl
  | cons x hs ih => exact ih.trans (isRecording_setCommand _ _ _)

/-- A recording ends with its command buffer. -/
theorem isRecording_destroy (cmdbuf h : Handle) :
    (d.destroy cmdbuf).IsRecording h ↔ h ≠ cmdbuf ∧ d.IsRecording h := by
  unfold Driver.IsRecording Driver.destroy
  by_cases heq : h = cmdbuf <;> simp [heq]

/-- The other maps do not hold recordings. -/
theorem commandBufferRecordMap_addCommandBufferInfo (cmdbuf platform : Handle) :
    (t.addCommandBufferInfo cmdbuf platform).commandBufferRecordMap = t.commandBufferRecordMap := by
  unfold Tracking.addCommandBufferInfo
  split <;> rfl

/-- The maps of commands leave the recordings alone. -/
theorem commandBufferRecordMap_addMutableCommand (c : CommandCall) :
    (t.addMutableCommand c).commandBufferRecordMap = t.commandBufferRecordMap := by
  rw [addMutableCommand_eq]
  cases c.mutableHandle with
  | none => rfl
  | some cmd =>
    show (t.addMutableCommandInfo cmd c.commandBuffer c.function.workDim).commandBufferRecordMap = _
    unfold Tracking.addMutableCommandInfo
    split <;> rfl

/-- A creation begins a recording on both sides. -/
theorem recordings_create (h : Recordings config t d) (c : CreateCall) :
    Recordings config ((t.recordCreate config c).addCommandBufferInfo c.retVal (c.queue.getD null))
      (d.apply (.clCreateCommandBufferKHR c)) := by
  intro hdump cmdbuf
  rw [commandBufferRecordMap_addCommandBufferInfo, Tracking.recordCreate]
  simp only [Driver.apply]
  by_cases hret : c.retVal = null
  · simpa [hret] using h hdump cmdbuf
  · simp only [hret, hdump, ne_eq, not_false_eq_true, decide_true, Bool.and_self, if_true,
      Tracking.setRecording, OrdMap.get?_insert, isRecording_setBuffer]
    split
    · simp
    · exact h hdump cmdbuf

/-- What a remap copies is whether its source is being recorded. -/
theorem any_isRecording_iff (cmdbuf : Handle) :
    (d.buffers cmdbuf).any (·.isRecording) = true ↔ d.IsRecording cmdbuf := by
  cases hb : d.buffers cmdbuf with
  | none => simp [Driver.IsRecording, hb]
  | some b => simp [Driver.IsRecording, hb]

/-- A remap has no recording of its copy, which goes on being recorded with its source. -/
theorem recordings_remap_iff (h : Recordings config t d) (c : CreateCall)
    (ha : d.Answers (.clRemapCommandBufferKHR c)) :
    Recordings config (t.addCommandBufferInfo c.retVal (c.queue.getD null))
        (d.apply (.clRemapCommandBufferKHR c)) ↔
      (c.retVal = null ∨
        (config.dumpCommandBuffers = true → ¬d.IsRecording c.commandBuffer)) := by
  by_cases hret : c.retVal = null
  · refine iff_of_true (recordings_iff_of_eq h
      (commandBufferRecordMap_addCommandBufferInfo _ _) fun cmdbuf => ?_) (.inl hret)
    simp [Driver.apply, hret]
  · have hcopy : ∀ cmdbuf, (d.apply (.clRemapCommandBufferKHR c)).IsRecording cmdbuf ↔
        if cmdbuf = c.retVal then d.IsRecording c.commandBuffer else d.IsRecording cmdbuf := by
      intro cmdbuf
      simp only [Driver.apply, hret, ne_eq, not_false_eq_true, if_true, isRecording_setCommands,
        isRecording_setBuffer, any_isRecording_iff]
    -- the copy is new, so it was not being recorded
    have hnew : ¬d.IsRecording c.retVal := by
      rintro ⟨b, hsome, -⟩
      rw [(ha hret).1] at hsome
      cases hsome
    unfold Recordings
    simp only [commandBufferRecordMap_addCommandBufferInfo, hcopy, hret, false_or]
    constructor
    · intro h' hdump hrec
      have hself := h' hdump c.retVal
      rw [if_pos rfl, h hdump] at hself
      exact hnew (hself.mpr hrec)
    · intro hstopped hdump cmdbuf
      rw [h hdump]
      split
      · next heq => exact heq ▸ iff_of_false hnew (hstopped hdump)
      · exact Iff.rfl

/-- A recording macro that inserts a recording is right where something is being recorded. -/
theorem recordings_recordIf_insert_iff (h : Recordings config t d) (retVal : Int) (cmdbuf : Handle)
    {f : Tracking → Tracking} {r : SCommandBufferRecord}
    (hf : (f t).commandBufferRecordMap = t.commandBufferRecordMap.insert cmdbuf r) :
    Recordings config (recordIf config retVal cmdbuf f t) d ↔
      (config.dumpCommandBuffers = true → succeeds config retVal = true → cmdbuf ≠ null →
        d.IsRecording cmdbuf) := by
  unfold recordIf
  constructor
  · intro h' hdump hsucceeds hb
    have hself := h' hdump cmdbuf
    rw [if_pos (by simp [hsucceeds, hb, hdump]), hf, OrdMap.get?_insert, if_pos rfl] at hself
    exact hself.mp rfl
  · intro hcond
    split
    · next hrecords =>
      simp only [Bool.and_eq_true, decide_eq_true_eq] at hrecords
      have hrec := hcond hrecords.2 hrecords.1.1 hrecords.1.2
      intro hdump cmdbuf'
      rw [hf, OrdMap.get?_insert]
      split
      · next heq => simp [heq, hrec]
      · exact h hdump cmdbuf'
    · exact h

/-- The driver goes on recording. -/
theorem isRecording_command (c : CommandCall) (cmdbuf : Handle) :
    (d.apply (.command c)).IsRecording cmdbuf ↔ d.IsRecording cmdbuf := by
  simp only [Driver.apply]
  cases c.mutableHandle with
  | none => exact Iff.rfl
  | some cmd =>
    by_cases hret : c.retVal = clSuccess
    · simp only [hret, if_true, isRecording_setCommand]
    · simp only [hret, if_false]

/-- A command that counts as a success must be on a command buffer that is being recorded. -/
theorem recordings_command_iff (h : Recordings config t d) (c : CommandCall) :
    Recordings config ((t.recordCommand config c).addMutableCommand c) (d.apply (.command c)) ↔
      (config.dumpCommandBuffers = true → succeeds config c.retVal = true → c.commandBuffer ≠ null →
        d.IsRecording c.commandBuffer) := by
  have hsame : Recordings config ((t.recordCommand config c).addMutableCommand c)
      (d.apply (.command c)) ↔ Recordings config (t.recordCommand config c) d :=
    ⟨fun h' => recordings_iff_of_eq h' (commandBufferRecordMap_addMutableCommand c).symm
        fun cmdbuf => (isRecording_command c cmdbuf).symm,
      fun h' => recordings_iff_of_eq h' (commandBufferRecordMap_addMutableCommand c)
        (isRecording_command c)⟩
  rw [hsame]
  exact recordings_recordIf_insert_iff h _ _ rfl

/-- A finalize ends one recording. -/
theorem isRecording_stop (cmdbuf h : Handle) :
    (d.modifyBuffer cmdbuf fun b => { b with isRecording := false }).IsRecording h ↔
      h ≠ cmdbuf ∧ d.IsRecording h := by
  unfold Driver.modifyBuffer
  cases hb : d.buffers cmdbuf with
  | none =>
    refine ⟨fun hrec => ⟨?_, hrec⟩, And.right⟩
    rintro rfl
    obtain ⟨b, hsome, -⟩ := hrec
    rw [hb] at hsome
    cases hsome
  | some b =>
    simp only [isRecording_setBuffer]
    split
    · next heq => simp [heq]
    · next hne => simp [hne]

/-- What the layer ends of a recording that counts as finalized. -/
theorem isSome_recordFinalize (hdump : config.dumpCommandBuffers = true) (c : BufferCall)
    (hb : c.commandBuffer ≠ null) (h : Handle) :
    ((t.recordFinalize config c).commandBufferRecordMap.get? h).isSome = true ↔
      (succeeds config c.retVal = true → h ≠ c.commandBuffer) ∧
        (t.commandBufferRecordMap.get? h).isSome = true := by
  unfold Tracking.recordFinalize recordIf
  by_cases hsucceeds : succeeds config c.retVal = true
  · simp only [hsucceeds, hb, hdump, ne_eq, not_false_eq_true, decide_true, Bool.and_self, if_true,
      Tracking.setRecording, OrdMap.get?_erase, OrdMap.get?_insert, forall_const]
    by_cases heq : h = c.commandBuffer <;> simp [heq]
  · simp [hsucceeds]

/-- A recording is dumped exactly when the driver stops recording, unless an error is hidden. -/
theorem recordings_finalize_iff (h : Recordings config t d) (hv : d.Valid) (c : BufferCall)
    (ha : d.Answers (.clFinalizeCommandBufferKHR c)) :
    Recordings config (t.recordFinalize config c) (d.apply (.clFinalizeCommandBufferKHR c)) ↔
      (config.dumpCommandBuffers = true → config.noErrors = true → c.retVal ≠ clSuccess →
        ¬d.IsRecording c.commandBuffer) := by
  by_cases hdump : config.dumpCommandBuffers = true
  · by_cases hret : c.retVal = clSuccess
    · refine iff_of_true (fun _ cmdbuf => ?_) fun _ _ hne => absurd hret hne
      have hb : c.commandBuffer ≠ null := by
        intro hnull
        have hlive := ha hret
        rw [hnull, hv.buffers_null] at hlive
        cases hlive
      simp only [isSome_recordFinalize hdump c hb, Driver.apply, hret, if_true, isRecording_stop,
        h hdump]
      simp [succeeds]
    · have hdriver : d.apply (.clFinalizeCommandBufferKHR c) = d := by
        simp only [Driver.apply, if_neg hret]
      rw [hdriver]
      by_cases hb : c.commandBuffer = null
      · have hno : ¬d.IsRecording c.commandBuffer := by
          rintro ⟨b, hsome, -⟩
          rw [hb, hv.buffers_null] at hsome
          cases hsome
        refine iff_of_true ?_ fun _ _ _ => hno
        simpa [Tracking.recordFinalize, recordIf, hb] using h
      · constructor
        · intro h' _ hhidden _ hrec
          have hsome := (h' hdump c.commandBuffer).mpr hrec
          rw [isSome_recordFinalize hdump c hb] at hsome
          exact hsome.1 (by simp [succeeds, hhidden]) rfl
        · intro hcond _ cmdbuf
          rw [isSome_recordFinalize hdump c hb, h hdump]
          refine ⟨And.right, fun hrec => ⟨fun hsucceeds heq => ?_, hrec⟩⟩
          have hhidden : config.noErrors = true := by
            simpa [succeeds, hret] using hsucceeds
          exact hcond hdump hhidden hret (heq ▸ hrec)
  · exact iff_of_true (fun hyes => absurd hyes hdump) fun hyes => absurd hyes hdump

/-- A release that is exact for the objects is exact for the recordings. -/
theorem recordings_release (h : Recordings config t d) (ho : Objects t d) (c : ReleaseCall)
    (ha : d.Answers (.clReleaseCommandBufferKHR c))
    (hok : ∀ b, d.buffers c.commandBuffer = some b → b.refCount = 1 →
      (c.infoTables b.platform = true ∧ c.infoError = clSuccess ↔ c.retVal = clSuccess)) :
    Recordings config (t.checkRemoveCommandBufferInfo c)
      (d.apply (.clReleaseCommandBufferKHR c)) := by
  unfold Tracking.checkRemoveCommandBufferInfo
  simp only [ho.buffers, Driver.platformOf, Driver.apply]
  cases hb : d.buffers c.commandBuffer with
  | none => simpa using h
  | some b =>
    simp only [Option.map_some]
    have hremoves := removes_iff c ha hb
    by_cases hone : b.refCount = 1
    · by_cases hret : c.retVal = clSuccess
      · rw [if_pos (hremoves.mpr ⟨(hok b hb hone).mpr hret, hone⟩), if_pos hret, if_pos hone]
        intro hdump cmdbuf
        rw [isRecording_destroy, Tracking.removeCommandBufferInfo, OrdMap.get?_erase, ← h hdump]
        split
        · next heq => simp [heq]
        · next hne => simp [hne]
      · rw [if_neg fun hyes => hret ((hok b hb hone).mp (hremoves.mp hyes).1), if_neg hret]
        exact h
    · rw [if_neg fun hyes => hone (hremoves.mp hyes).2, if_neg hone]
      split
      · exact recordings_iff_of_eq h rfl fun h' => Driver.isRecording_modifyBuffer _ _ fun _ => rfl
      · exact h

/-- A call keeps the maps exact exactly if the layer follows it. -/
theorem trackedStep_iff {s : TrackedState} (ht : Tracked config s) (hv : s.driver.Valid)
    (call : TrackedCall) (ha : (trackedSystem config).legal s call) :
    Tracked config (trackedStep config s call) ↔ Followed config s call := by
  obtain ⟨ho, hr⟩ := tracked_iff_objects_recordings.mp ht
  unfold trackedStep Followed
  by_cases hreach : s.tracking.reaches call = true
  · have hanswers := ha hreach
    simp only [hreach, if_true, forall_const, tracked_iff_objects_recordings]
    cases call with
    | clCreateCommandBufferKHR c =>
      exact (and_iff_left (recordings_create hr c)).trans (objects_create_iff ho hv c hanswers)
    | clRemapCommandBufferKHR c =>
      exact (and_congr (objects_remap_iff ho hv c hanswers)
        (recordings_remap_iff hr c hanswers)).trans or_and_left.symm
    | command c =>
      exact and_congr (objects_command_iff ho hv c hanswers) (recordings_command_iff hr c)
    | clFinalizeCommandBufferKHR c =>
      have hobjects : Objects (s.tracking.recordFinalize config c)
          (s.driver.apply (.clFinalizeCommandBufferKHR c)) := by
        simp only [Driver.apply]
        split
        · exact (ho.recordFinalize c).modifyBuffer _ fun _ => rfl
        · exact ho.recordFinalize c
      exact (and_iff_right hobjects).trans (recordings_finalize_iff hr hv c hanswers)
    | clRetainCommandBufferKHR c =>
      refine iff_of_true ⟨?_, ?_⟩ trivial
      · simp only [Driver.apply, Tracking.apply]
        split
        · exact ho.modifyBuffer _ fun _ => rfl
        · exact ho
      · simp only [Driver.apply, Tracking.apply]
        split
        · exact recordings_iff_of_eq hr rfl fun h' =>
            Driver.isRecording_modifyBuffer _ _ fun _ => rfl
        · exact hr
    | clReleaseCommandBufferKHR c =>
      have hiff := objects_release_iff ho c hanswers
      refine ⟨fun h => hiff.mp h.1, fun hok => ⟨hiff.mpr hok, ?_⟩⟩
      exact recordings_release hr ho c hanswers hok
  · simp [hreach, ht]

end

/-! ## Every run -/

/-- **The maps stay exact exactly as long as the layer follows every call.** -/
theorem tracked_iff (config : Config) (calls : List TrackedCall)
    (hl : (trackedSystem config).Legal {} calls) :
    (trackedSystem config).Always (Tracked config) {} calls ↔
      (trackedSystem config).Each (Followed config) {} calls := by
  refine System.always_iff_each (I := fun s => s.driver.Valid) (fun s call hv ha => ?_)
    (fun s call hv ht ha => trackedStep_iff ht hv call ha) ?_ ?_ hl
  · show (trackedStep config s call).driver.Valid
    unfold trackedStep
    split
    · next hreach => exact hv.apply (ha hreach)
    · exact hv
  · exact ⟨rfl, rfl, fun _ _ h => nomatch h⟩
  · refine tracked_iff_objects_recordings.mpr ⟨⟨fun _ => rfl, fun _ => rfl, fun _ _ => rfl⟩, ?_⟩
    intro _ cmdbuf
    exact ⟨fun h => (nomatch h), fun ⟨_, h, _⟩ => nomatch h⟩

/-- Everything of platform 1: a command buffer, a launch of one dimension, and the end of its
recording and of its life. -/
def followedRun : List TrackedCall :=
  [.clCreateCommandBufferKHR
    { queue := some 1, tables := fun _ => true, retVal := 8, platform := 1 },
   .command
    { function := .clCommandNDRangeKernelKHR 1 "k", commandBuffer := 8, tables := fun _ => true,
      retVal := clSuccess, mutableHandle := some 16 },
   .clFinalizeCommandBufferKHR
    { commandBuffer := 8, tables := fun _ => true, retVal := clSuccess },
   .clReleaseCommandBufferKHR
    { commandBuffer := 8, tables := fun _ => true, retVal := clSuccess,
      infoTables := fun _ => true, infoError := clSuccess, refCount := 1 }]

/-- Its recording is followed too. -/
theorem tracked_followedRun :
    (trackedSystem { dumpCommandBuffers := true }).Always (Tracked { dumpCommandBuffers := true }) {}
      followedRun := by
  have hlegal : (trackedSystem { dumpCommandBuffers := true }).Legal {} followedRun := by
    refine ⟨fun _ _ => ⟨rfl, fun p h => ?_⟩, fun _ _ => ⟨rfl, fun cmd h => ?_⟩, fun _ _ => rfl,
      fun _ => ⟨fun _ => rfl, fun b hb _ => ?_⟩, trivial⟩
    · exact Option.some.inj h
    · cases h
      rfl
    · cases hb
      rfl
  refine (tracked_iff _ _ hlegal).mpr
    ⟨fun _ => .inr rfl, fun _ => ⟨.inl rfl, fun _ _ _ => ⟨_, rfl, rfl⟩⟩, fun _ _ _ hne => ?_,
      fun _ b _ _ => ⟨fun _ => rfl, fun _ => ⟨rfl, rfl⟩⟩, trivial⟩
  exact absurd rfl hne

/-- A remap returns a command that the layer does not add. -/
theorem remap_not_tracked :
    ¬∀ (config : Config) (calls : List TrackedCall), (trackedSystem config).Legal {} calls →
      (trackedSystem config).Always (Tracked config) {} calls := by
  intro hclaim
  have hlegal : (trackedSystem {}).Legal {}
      [.clCreateCommandBufferKHR
        { queue := some 1, tables := fun _ => true, retVal := 8, platform := 1 },
       .clRemapCommandBufferKHR
        { queue := some 1, tables := fun _ => true, retVal := 9, platform := 1, commandBuffer := 8,
          handlesRet := [(16, 1)] }] := by
    refine ⟨fun _ _ => ⟨rfl, fun p h => Option.some.inj h⟩,
      fun _ _ => ⟨rfl, ⟨_, rfl, rfl⟩, by decide, fun h hh => ?_⟩, trivial⟩
    rfl
  have hcommands := (hclaim {} _ hlegal).last.commands 16
  exact absurd hcommands (by decide)

end CLIntercept.CommandBuffer
