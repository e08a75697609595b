import CLIntercept.Dump.Source
import Mathlib.Data.List.TakeDrop

/-!
# The call that wrote a file opens it

`Named` is what the infos say in a run with the controls of one of the two sides: a live program
has the number of creations before its own and the number of its builds, in 32 bits, and the hash of
what it was created from. None of this depends on handles, so two runs of the same calls agree on it
(`infoOf_eq`), and below 2^32 it tells the calls apart.
-/

set_option autoImplicit false

namespace CLIntercept.Dump

open CLIntercept.Lib CLIntercept.Track

/-! ## What the infos say -/

/-- The controls of both sides: every creation takes a number, hashes and builds are recorded. -/
structure Numbers (config : Config) : Prop where
  saves : config.savesProgramHash = true
  counts : config.incrementsCompileCount = true
  simple : config.simpleDumpProgramSource = false
  script : config.dumpProgramSourceScript = false

/-- A session that dumps numbers its programs. -/
theorem numbers_dumping (windows omitNumber : Bool) : Numbers (dumping windows omitNumber) :=
  ⟨rfl, rfl, rfl, rfl⟩

/-- A session that injects numbers its programs. -/
theorem numbers_injecting (windows omitNumber : Bool) : Numbers (injecting windows omitNumber) :=
  ⟨rfl, rfl, rfl, rfl⟩

/-- The hashes of what the programs of some calls are created from. -/
def hashes (config : Config) (calls : List ProgramCall) : List UInt64 :=
  calls.filterMap (·.createdHash config)

def buildCount (k : Nat) (calls : List ProgramCall) : Nat := calls.countP (·.builds k)

/-- With one more call there is one more build, if the call is one. -/
theorem buildCount_append (k : Nat) (calls : List ProgramCall) (call : ProgramCall) :
    buildCount k (calls ++ [call]) = buildCount k calls + if call.builds k then 1 else 0 := by
  simp [buildCount, List.countP_append]

/-- **What the infos say** of the programs of a run. -/
structure Named (config : Config) (s : Session) : Prop where
  number : s.programs.programNumber = UInt32.ofNat s.handles.length
  created : s.handles.length = (hashes config s.history).length
  unbuilt : ∀ k, s.handles.length ≤ k → buildCount k s.history = 0
  apart : ∀ k k', s.Live k → s.Live k' → s.handle k ≠ null → s.handle k = s.handle k' → k = k'
  infoNumber : ∀ k, s.Live k → s.handle k ≠ null →
    (s.programs.programInfoMap (s.handle k)).programNumber = UInt32.ofNat k
  infoCount : ∀ k, s.Live k → s.handle k ≠ null →
    (s.programs.programInfoMap (s.handle k)).compileCount = UInt32.ofNat (buildCount k s.history)
  infoHash : ∀ k, s.Live k → s.handle k ≠ null →
    (hashes config s.history)[k]? = some (s.programs.programInfoMap (s.handle k)).programHash

/-- Before the first program. -/
theorem named_empty (config : Config) : Named config {} where
  number := rfl
  created := rfl
  unbuilt _ _ := rfl
  apart k _ h := absurd h.1 (Nat.not_lt_zero k)
  infoNumber k h := absurd h.1 (Nat.not_lt_zero k)
  infoCount k h := absurd h.1 (Nat.not_lt_zero k)
  infoHash k h := absurd h.1 (Nat.not_lt_zero k)

section

variable {config : Config} {present : String → Bool} {s : Session}

/-- What is created has a hash. -/
theorem createdHash_isSome (config : Config) (call : ProgramCall) :
    (call.createdHash config).isSome = call.creates := by
  cases call <;> rfl

/-- A creation takes the next number and forgets the builds of an earlier program. -/
theorem programsAfter_create (hn : Numbers config) {call : ProgramCall} {hash : UInt64}
    (hcall : call.createdHash config = some hash) (answer : Handle) :
    programsAfter config present s answer call =
      saveProgramHash answer hash (saveProgramNumber answer s.programs) := by
  cases call with
  | clCreateProgramWithSource singleString =>
    cases hcall
    simp [programsAfter, clCreateProgramWithSource, Track.dumpProgramSource, saveHash, hn.saves,
      hn.simple, hn.script]
  | clCreateProgramWithIL il =>
    cases hcall
    simp [programsAfter, clCreateProgramWithIL, dumpProgramSPIRV, saveHash, hn.saves]
  | clCreateProgramWithBinary binary =>
    cases hcall
    simp [programsAfter, clCreateProgramWithBinary, dumpInputProgramBinaries, saveHash, hn.saves]
  | clBuildProgram k options => cases hcall
  | clCompileProgram k options => cases hcall
  | clReleaseProgram k => cases hcall

theorem programNumber_create (answer : Handle) (hash : UInt64) (p : Programs) :
    (saveProgramHash answer hash (saveProgramNumber answer p)).programNumber =
      p.programNumber + 1 := by
  unfold saveProgramHash
  split <;> rfl

/-- The new program gets the next number and the hash of its source. -/
theorem programInfoMap_create_self {answer : Handle} (ha : answer ≠ null) (hash : UInt64)
    (p : Programs) :
    (saveProgramHash answer hash (saveProgramNumber answer p)).programInfoMap answer =
      { p.programInfoMap answer with
        programNumber := p.programNumber, compileCount := 0, programHash := hash } := by
  simp [saveProgramHash, ha, saveProgramNumber, Programs.modify]

/-- The others keep theirs. -/
theorem programInfoMap_create_ne {answer h : Handle} (hne : h ≠ answer) (hash : UInt64)
    (p : Programs) :
    (saveProgramHash answer hash (saveProgramNumber answer p)).programInfoMap h =
      p.programInfoMap h := by
  unfold saveProgramHash
  split <;> simp [saveProgramNumber, Programs.modify, hne]

/-- A build of a program saves the hash of its options and counts. -/
theorem programsAfter_build (present : String → Bool) (s : Session) (hn : Numbers config)
    {call : ProgramCall} {k : Nat} (hcall : call.builds k = true) (answer : Handle) :
    ∃ options, programsAfter config present s answer call =
      if s.handle k ≠ null then
        incrementProgramCompileCount (s.handle k)
          (saveProgramOptionsHash (s.handle k) options s.programs)
      else saveProgramOptionsHash (s.handle k) options s.programs := by
  cases call with
  | clBuildProgram program options =>
    have hk : program = k := by simpa [ProgramCall.builds] using hcall
    subst hk
    refine ⟨options, ?_⟩
    simp [programsAfter, clBuildProgram, incrementCompileCount, saveOptionsHash, hn.saves,
      hn.counts]
  | clCompileProgram program options =>
    have hk : program = k := by simpa [ProgramCall.builds] using hcall
    subst hk
    refine ⟨options, ?_⟩
    simp [programsAfter, clCompileProgram, incrementCompileCount, saveOptionsHash, hn.saves,
      hn.counts]
  | _ => cases hcall

theorem programNumber_saveProgramOptionsHash (program : Handle) (options : Option Bytes)
    (p : Programs) :
    (saveProgramOptionsHash program options p).programNumber = p.programNumber := by
  unfold saveProgramOptionsHash
  split
  · split <;> rfl
  · rfl

/-- Only the hash of the options changes, and only of this program. -/
theorem programInfoMap_saveProgramOptionsHash (program h : Handle) (options : Option Bytes)
    (p : Programs) :
    ((saveProgramOptionsHash program options p).programInfoMap h).programNumber =
        (p.programInfoMap h).programNumber ∧
      ((saveProgramOptionsHash program options p).programInfoMap h).compileCount =
        (p.programInfoMap h).compileCount ∧
      ((saveProgramOptionsHash program options p).programInfoMap h).programHash =
        (p.programInfoMap h).programHash := by
  unfold saveProgramOptionsHash
  split
  · split
    · by_cases heq : h = program
      · subst heq
        simp [Programs.modify]
      · simp [Programs.modify, heq]
    · exact ⟨rfl, rfl, rfl⟩
  · exact ⟨rfl, rfl, rfl⟩

/-! ### Which programs live -/

/-- What lived before a call and is still live is the same program. -/
theorem live_of_step {call : ProgramCall × Handle} {k : Nat} (hk : k < s.handles.length)
    (h : (programStep config present s call).Live k) : s.Live k :=
  ⟨hk, fun hmem => h.2 (List.mem_append_left _ hmem)⟩

/-- A handle that was returned stays where it is. -/
theorem handle_step {call : ProgramCall × Handle} {k : Nat} (hk : k < s.handles.length) :
    (programStep config present s call).handle k = s.handle k := by
  unfold Session.handle programStep
  dsimp only
  split
  · rw [List.getElem?_append_left hk]
  · rfl

section

variable {call : ProgramCall} {hash : UInt64} (hcall : call.createdHash config = some hash)
  (answer : Handle)
include hcall

theorem creates_of_createdHash : call.creates = true := by
  rw [← createdHash_isSome config, hcall]
  rfl

/-- A creation adds its handle at the end. -/
theorem handles_create :
    (programStep config present s (call, answer)).handles = s.handles ++ [answer] := by
  simp [programStep, creates_of_createdHash hcall]

/-- A creation builds nothing. -/
theorem buildCount_create (k : Nat) :
    buildCount k (programStep config present s (call, answer)).history =
      buildCount k s.history := by
  have hcreates := creates_of_createdHash hcall
  have hbuilds : call.builds k = false := by
    cases call <;> first | rfl | cases hcreates
  show buildCount k (s.history ++ [call]) = _
  rw [buildCount_append, hbuilds, if_neg Bool.false_ne_true, Nat.add_zero]

/-- A creation adds one hash to the history. -/
theorem hashes_create : hashes config (programStep config present s (call, answer)).history =
    hashes config s.history ++ [hash] := by
  show hashes config (s.history ++ [call]) = _
  simp [hashes, List.filterMap_append, hcall]

/-- What lives after a creation is the new program or an older one. -/
theorem live_create {k : Nat} (hk : (programStep config present s (call, answer)).Live k) :
    (k = s.handles.length ∧ (programStep config present s (call, answer)).handle k = answer) ∨
      (s.Live k ∧ (programStep config present s (call, answer)).handle k = s.handle k) := by
  have hhandles : (programStep config present s (call, answer)).handles = _ :=
    handles_create hcall answer
  have hlt : k < (s.handles ++ [answer]).length := hhandles ▸ hk.1
  rw [List.length_append, List.length_singleton] at hlt
  rcases Nat.lt_or_eq_of_le (Nat.le_of_lt_succ hlt) with hold | hnew
  · exact .inr ⟨live_of_step hold hk, handle_step hold⟩
  · refine .inl ⟨hnew, ?_⟩
    rw [Session.handle, hhandles, hnew, List.getElem?_concat_length]
    rfl

/-- The driver answers with no handle of a program that lives. -/
theorem ne_of_legal_create {answer : Handle} (hl : programLegal s (call, answer)) {k : Nat}
    (hk : s.Live k) (hnull : s.handle k ≠ null) : s.handle k ≠ answer := by
  have hcreates := creates_of_createdHash hcall
  have hfresh : answer ≠ null → ∀ k, s.Live k → s.handle k ≠ answer := by
    cases call <;> first | exact hl | cases hcreates
  intro heq
  exact hfresh (heq ▸ hnull) k hk heq

end

/-- A creation names its program after the creations before it. -/
theorem Named.create (h : Named config s) (hn : Numbers config) {call : ProgramCall}
    {hash : UInt64} (hcall : call.createdHash config = some hash) {answer : Handle}
    (hl : programLegal s (call, answer)) :
    Named config (programStep config present s (call, answer)) := by
  have hprograms : (programStep config present s (call, answer)).programs =
      saveProgramHash answer hash (saveProgramNumber answer s.programs) :=
    programsAfter_create hn hcall answer
  have hhandles : (programStep config present s (call, answer)).handles = _ :=
    handles_create hcall answer
  have hcases : ∀ k, (programStep config present s (call, answer)).Live k → _ :=
    fun _ => live_create hcall answer
  have hother : ∀ k, s.Live k → s.handle k ≠ null → s.handle k ≠ answer :=
    fun _ => ne_of_legal_create hcall hl
  refine ⟨?_, ?_, ?_, ?_, ?_, ?_, ?_⟩
  · rw [hprograms, programNumber_create, h.number, hhandles, List.length_append,
      List.length_singleton, UInt32.ofNat_add]
    rfl
  · rw [hhandles, hashes_create hcall, List.length_append, List.length_append, h.created]
    rfl
  · intro k hk
    rw [hhandles, List.length_append] at hk
    rw [buildCount_create hcall]
    exact h.unbuilt k (by omega)
  · intro k k' hk hk' hnull heq
    rcases hcases k hk with ⟨hnew, hh⟩ | ⟨hold, hh⟩ <;>
      rcases hcases k' hk' with ⟨hnew', hh'⟩ | ⟨hold', hh'⟩
    · rw [hnew, hnew']
    · rw [hh] at hnull
      rw [hh, hh'] at heq
      exact absurd heq.symm (hother k' hold' (heq ▸ hnull))
    · rw [hh] at hnull
      rw [hh, hh'] at heq
      exact absurd heq (hother k hold hnull)
    · rw [hh] at hnull
      rw [hh, hh'] at heq
      exact h.apart k k' hold hold' hnull heq
  · intro k hk hnull
    rcases hcases k hk with ⟨hnew, hh⟩ | ⟨hold, hh⟩
    · rw [hh] at hnull ⊢
      rw [hprograms, programInfoMap_create_self hnull, h.number, hnew]
    · rw [hh] at hnull ⊢
      rw [hprograms, programInfoMap_create_ne (hother k hold hnull)]
      exact h.infoNumber k hold hnull
  · intro k hk hnull
    rw [buildCount_create hcall]
    rcases hcases k hk with ⟨hnew, hh⟩ | ⟨hold, hh⟩
    · rw [hh] at hnull ⊢
      rw [hprograms, programInfoMap_create_self hnull, h.unbuilt k (Nat.le_of_eq hnew.symm)]
      rfl
    · rw [hh] at hnull ⊢
      rw [hprograms, programInfoMap_create_ne (hother k hold hnull)]
      exact h.infoCount k hold hnull
  · intro k hk hnull
    rw [hashes_create hcall]
    rcases hcases k hk with ⟨hnew, hh⟩ | ⟨hold, hh⟩
    · rw [hh] at hnull ⊢
      rw [hprograms, programInfoMap_create_self hnull, hnew, h.created, List.getElem?_concat_length]
    · rw [hh] at hnull ⊢
      rw [hprograms, programInfoMap_create_ne (hother k hold hnull),
        List.getElem?_append_left (h.created ▸ hold.1)]
      exact h.infoHash k hold hnull

/-- Calls that create nothing leave the programs where they are. -/
theorem Named.keep (h : Named config s) {s' : Session} (hhandles : s'.handles = s.handles)
    (hnumber : s'.programs.programNumber = s.programs.programNumber)
    (hhashes : hashes config s'.history = hashes config s.history)
    (hlive : ∀ k, s'.Live k → s.Live k)
    (hunbuilt : ∀ k, s.handles.length ≤ k → buildCount k s'.history = 0)
    (hinfo : ∀ k, s.Live k → s.handle k ≠ null →
      (s'.programs.programInfoMap (s.handle k)).programNumber =
          (s.programs.programInfoMap (s.handle k)).programNumber ∧
        (s'.programs.programInfoMap (s.handle k)).compileCount =
          UInt32.ofNat (buildCount k s'.history) ∧
        (s'.programs.programInfoMap (s.handle k)).programHash =
          (s.programs.programInfoMap (s.handle k)).programHash) : Named config s' := by
  have hhandle : ∀ k, s'.handle k = s.handle k := fun k => by
    rw [Session.handle, hhandles, Session.handle]
  refine ⟨?_, ?_, ?_, ?_, ?_, ?_, ?_⟩
  · rw [hnumber, hhandles, h.number]
  · rw [hhandles, hhashes, h.created]
  · rw [hhandles]
    exact hunbuilt
  · intro k k' hk hk' hnull heq
    rw [hhandle] at hnull
    rw [hhandle, hhandle] at heq
    exact h.apart k k' (hlive k hk) (hlive k' hk') hnull heq
  · intro k hk hnull
    rw [hhandle] at hnull ⊢
    rw [(hinfo k (hlive k hk) hnull).1]
    exact h.infoNumber k (hlive k hk) hnull
  · intro k hk hnull
    rw [hhandle] at hnull ⊢
    exact (hinfo k (hlive k hk) hnull).2.1
  · intro k hk hnull
    rw [hhandle] at hnull ⊢
    rw [hhashes, (hinfo k (hlive k hk) hnull).2.2]
    exact h.infoHash k (hlive k hk) hnull

/-- A build names the options after the builds of its program. -/
theorem Named.build (h : Named config s) (hn : Numbers config) {call : ProgramCall} {j : Nat}
    (hcall : call.builds j = true) {answer : Handle} (hl : s.Live j) :
    Named config (programStep config present s (call, answer)) := by
  have hcreates : call.creates = false := by
    cases call <;> first | rfl | cases hcall
  have hhash : call.createdHash config = none := by
    cases call <;> first | rfl | cases hcall
  have hbuilds : ∀ k, call.builds k = decide (j = k) := by
    intro k
    cases call <;> simp_all [ProgramCall.builds]
  obtain ⟨options, hprograms⟩ := programsAfter_build present s hn hcall answer
  have hprograms' : (programStep config present s (call, answer)).programs = _ := hprograms
  have hcount : ∀ k, buildCount k (programStep config present s (call, answer)).history =
      buildCount k s.history + if j = k then 1 else 0 := by
    intro k
    show buildCount k (s.history ++ [call]) = _
    rw [buildCount_append, hbuilds]
    simp
  refine h.keep (by simp [programStep, hcreates]) ?_ ?_ ?_ (fun k hk => ?_) fun k hk hnull => ?_
  · rw [hprograms']
    split
    · exact programNumber_saveProgramOptionsHash _ _ _
    · exact programNumber_saveProgramOptionsHash _ _ _
  · show hashes config (s.history ++ [call]) = _
    simp [hashes, List.filterMap_append, hhash]
  · intro k hk
    refine live_of_step ?_ hk
    have hlt := hk.1
    simpa [programStep, hcreates] using hlt
  · have hne : j ≠ k := by
      rintro rfl
      exact Nat.not_lt.mpr hk hl.1
    rw [hcount, if_neg hne, Nat.add_zero]
    exact h.unbuilt k hk
  · rw [hprograms', hcount]
    obtain ⟨hnum, hcnt, hhsh⟩ :=
      programInfoMap_saveProgramOptionsHash (s.handle j) (s.handle k) options s.programs
    by_cases heq : j = k
    · subst heq
      rw [if_pos hnull, if_pos rfl]
      simp only [incrementProgramCompileCount, Programs.modify, Function.update_self, hnum, hcnt,
        hhsh, true_and, and_true]
      rw [h.infoCount j hk hnull, UInt32.ofNat_add]
      rfl
    · have hne : s.handle k ≠ s.handle j := fun hh => heq (h.apart k j hk hl hnull hh).symm
      rw [if_neg heq, Nat.add_zero]
      split
      · simp only [incrementProgramCompileCount, Programs.modify, Function.update_of_ne hne, hnum,
          hcnt, hhsh, true_and, and_true]
        exact h.infoCount k hk hnull
      · exact ⟨hnum, hcnt.trans (h.infoCount k hk hnull), hhsh⟩

/-- A release names nothing. -/
theorem Named.release (h : Named config s) (j : Nat) (answer : Handle) :
    Named config (programStep config present s (.clReleaseProgram j, answer)) := by
  have hcount : ∀ k, buildCount k (s.history ++ [.clReleaseProgram j]) = buildCount k s.history :=
    fun k => buildCount_append _ _ _
  refine h.keep rfl rfl ?_ (fun k hk => live_of_step hk.1 hk) (fun k hk => ?_) fun k hk hnull =>
    ⟨rfl, ?_, rfl⟩
  · show hashes config (s.history ++ [.clReleaseProgram j]) = _
    simp [hashes, List.filterMap_append, ProgramCall.createdHash]
  · exact (hcount k).trans (h.unbuilt k hk)
  · show _ = UInt32.ofNat (buildCount k (s.history ++ [.clReleaseProgram j]))
    rw [hcount]
    exact h.infoCount k hk hnull

/-- **Every legal call keeps the names those of the history.** -/
theorem Named.step (hn : Numbers config) (h : Named config s) (call : ProgramCall × Handle)
    (hl : programLegal s call) : Named config (programStep config present s call) := by
  obtain ⟨call, answer⟩ := call
  cases call with
  | clCreateProgramWithSource singleString => exact h.create hn rfl hl
  | clCreateProgramWithIL il => exact h.create hn rfl hl
  | clCreateProgramWithBinary binary => exact h.create hn rfl hl
  | clBuildProgram k options =>
    have hcall : ProgramCall.builds k (.clBuildProgram k options) = true := decide_eq_true rfl
    exact h.build hn hcall hl
  | clCompileProgram k options =>
    have hcall : ProgramCall.builds k (.clCompileProgram k options) = true := decide_eq_true rfl
    exact h.build hn hcall hl
  | clReleaseProgram k => exact h.release k answer

end

/-! ## Before a call of a run -/

section

variable {config : Config} {present : String → Bool} {run : List (ProgramCall × Handle)}

/-- The names are those of the history before every call of a legal run. -/
theorem named_sessionAt (hn : Numbers config) (hl : (programSystem config present).Legal {} run)
    (i : Nat) : Named config (sessionAt config present run i) := by
  have halways : (programSystem config present).Always (Named config) {} run :=
    System.always_of_step (fun _ call h hlegal => h.step hn call hlegal) (named_empty config) hl
  exact System.always_iff_prefix.mp halways _ (List.take_prefix i run)

/-- The history is the calls, whatever the driver answers. -/
theorem history_exec (s : Session) :
    ((programSystem config present).exec s run).history = s.history ++ run.map Prod.fst := by
  induction run generalizing s with
  | nil => exact (List.append_nil _).symm
  | cons call run ih =>
    refine (ih _).trans ?_
    show (s.history ++ [call.1]) ++ run.map Prod.fst = _
    rw [List.append_assoc, List.map_cons]
    rfl

/-- What has been called before a place of the run. -/
theorem history_sessionAt (i : Nat) :
    (sessionAt config present run i).history = (run.map Prod.fst).take i := by
  rw [sessionAt, history_exec, List.map_take]
  rfl

/-- One hash for each creation. -/
theorem length_hashes (calls : List ProgramCall) :
    (hashes config calls).length = calls.countP (·.creates) := by
  induction calls with
  | nil => rfl
  | cons call calls ih =>
    have hsome := createdHash_isSome config call
    rw [hashes, List.filterMap_cons, List.countP_cons, ← hsome, ← ih]
    cases call.createdHash config <;> simp [hashes]

/-- The program number of the layer counts the creations. -/
theorem programNumber_sessionAt (hn : Numbers config)
    (hl : (programSystem config present).Legal {} run) (i : Nat) :
    (sessionAt config present run i).programs.programNumber =
      UInt32.ofNat (((run.map Prod.fst).take i).countP (·.creates)) := by
  have h := named_sessionAt hn hl i
  rw [h.number, h.created, length_hashes, history_sessionAt]

/-- One handle for each creation. -/
theorem length_handles_sessionAt (hn : Numbers config)
    (hl : (programSystem config present).Legal {} run) (i : Nat) :
    (sessionAt config present run i).handles.length =
      ((run.map Prod.fst).take i).countP (·.creates) := by
  have h := named_sessionAt hn hl i
  rw [h.created, length_hashes, history_sessionAt]

end

/-! ## Counting -/

/-- In a list with no more than 2^32 of a kind, the number of those before tells them apart. -/
theorem eq_of_countP_take {α : Type} {p : α → Bool} {l : List α} (hbound : l.countP p ≤ 2 ^ 32)
    {i j : Nat} {a b : α} (hi : l[i]? = some a) (ha : p a = true) (hj : l[j]? = some b)
    (hb : p b = true)
    (h : UInt32.ofNat ((l.take i).countP p) = UInt32.ofNat ((l.take j).countP p)) : i = j := by
  have hsucc : ∀ {i : Nat} {a : α}, l[i]? = some a → p a = true →
      (l.take (i + 1)).countP p = (l.take i).countP p + 1 := by
    intro i a hi ha
    rw [List.take_add_one, hi, List.countP_append]
    simp [ha]
  have hle : ∀ {m n : Nat}, m ≤ n → (l.take m).countP p ≤ (l.take n).countP p := fun hmn =>
    (List.take_sublist_take_left hmn).countP_le
  have hlt : ∀ {i : Nat} {a : α}, l[i]? = some a → p a = true → (l.take i).countP p < 2 ^ 32 := by
    intro i a hi ha
    have htotal := (List.take_sublist (i + 1) l).countP_le (p := p)
    have hs := hsucc hi ha
    omega
  have heq : (l.take i).countP p = (l.take j).countP p := by
    have hnat := congrArg UInt32.toNat h
    rwa [UInt32.toNat_ofNat_of_lt' (hlt hi ha), UInt32.toNat_ofNat_of_lt' (hlt hj hb)] at hnat
  rcases Nat.lt_trichotomy i j with hij | hij | hij
  · have hmono := hle (m := i + 1) hij
    have hs := hsucc hi ha
    omega
  · exact hij
  · have hmono := hle (m := j + 1) hij
    have hs := hsucc hj hb
    omega

/-! ## The infos of a build -/

namespace ProgramCall

/-- A build or a compile. -/
def buildOf (isCompile : Bool) (k : Nat) (options : Option Bytes) : ProgramCall :=
  if isCompile then clCompileProgram k options else clBuildProgram k options

theorem builds_buildOf (isCompile : Bool) (k : Nat) (options : Option Bytes) :
    (buildOf isCompile k options).builds k = true := by
  cases isCompile <;> exact decide_eq_true rfl

end ProgramCall

open ProgramCall (buildOf builds_buildOf)

section

variable {config : Config} {present : String → Bool} {run : List (ProgramCall × Handle)} {i k : Nat}
  {call : ProgramCall × Handle} {isCompile : Bool} {options : Option Bytes}

/-- A build that its application may make, of a program that was created. -/
theorem live_of_build (hl : (programSystem config present).Legal {} run)
    (hc : BuildsCreated config present run) (hi : run[i]? = some call)
    (hcall : call.1 = buildOf isCompile k options) :
    (sessionAt config present run i).Live k ∧ (sessionAt config present run i).handle k ≠ null := by
  have hlegal : programLegal (sessionAt config present run i) call := hl.getElem hi
  obtain ⟨_, answer⟩ := call
  cases hcall
  refine ⟨?_, hc.getElem hi k (builds_buildOf _ _ _)⟩
  cases isCompile <;> exact hlegal

/-- The info of a build has the number of the program and of its builds so far. -/
theorem infoOf_build (hn : Numbers config) (hl : (programSystem config present).Legal {} run)
    (hc : BuildsCreated config present run) (hi : run[i]? = some call)
    (hcall : call.1 = buildOf isCompile k options) :
    ((sessionAt config present run i).infoOf config k options).programNumber = UInt32.ofNat k ∧
      ((sessionAt config present run i).infoOf config k options).compileCount =
        UInt32.ofNat (((run.map Prod.fst).take i).countP (·.builds k)) ∧
      (hashes config ((run.map Prod.fst).take i))[k]? =
        some ((sessionAt config present run i).infoOf config k options).programHash := by
  obtain ⟨hlive, hnull⟩ := live_of_build hl hc hi hcall
  have h := named_sessionAt hn hl i
  obtain ⟨hnum, hcnt, hhsh⟩ := programInfoMap_saveProgramOptionsHash
    ((sessionAt config present run i).handle k) ((sessionAt config present run i).handle k) options
    (sessionAt config present run i).programs
  rw [Session.infoOf, saveOptionsHash, if_pos hn.saves, hnum, hcnt, hhsh,
    h.infoNumber k hlive hnull, h.infoCount k hlive hnull, ← h.infoHash k hlive hnull,
    history_sessionAt]
  exact ⟨rfl, rfl, rfl⟩

/-- A build with options saves their hash before it looks. -/
theorem optionsHash_infoOf (hn : Numbers config) {s : Session} (hnull : s.handle k ≠ null)
    (bytes : Bytes) : (s.infoOf config k (some bytes)).optionsHash = computeHash (some bytes) := by
  simp [Session.infoOf, saveOptionsHash, hn.saves, saveProgramOptionsHash, hnull, Programs.modify]

/-- Two runs of the same calls look at the same infos. -/
theorem infoOf_eq {config' : Config} {present' : String → Bool}
    {run' : List (ProgramCall × Handle)} (hn : Numbers config) (hn' : Numbers config')
    (hhash : ∀ call : ProgramCall, call.createdHash config' = call.createdHash config)
    (hl : (programSystem config present).Legal {} run)
    (hl' : (programSystem config' present').Legal {} run') (hc : BuildsCreated config present run)
    (hc' : BuildsCreated config' present' run') (hsame : run'.map Prod.fst = run.map Prod.fst)
    {call' : ProgramCall × Handle} (hi : run[i]? = some call) (hi' : run'[i]? = some call')
    {bytes : Bytes} (hcall : call.1 = buildOf isCompile k (some bytes))
    (hcall' : call'.1 = buildOf isCompile k (some bytes)) :
    (sessionAt config' present' run' i).infoOf config' k (some bytes) =
      (sessionAt config present run i).infoOf config k (some bytes) := by
  obtain ⟨hnum, hcnt, hhsh⟩ := infoOf_build hn hl hc hi hcall
  obtain ⟨hnum', hcnt', hhsh'⟩ := infoOf_build hn' hl' hc' hi' hcall'
  have hopt := optionsHash_infoOf hn (live_of_build hl hc hi hcall).2 bytes
  have hopt' := optionsHash_infoOf hn' (live_of_build hl' hc' hi' hcall').2 bytes
  have hhashes : hashes config' = hashes config := by
    unfold hashes
    simp only [hhash]
  rw [hsame] at hcnt' hhsh'
  rw [hhashes, hhsh] at hhsh'
  cases hinfo : (sessionAt config present run i).infoOf config k (some bytes)
  cases hinfo' : (sessionAt config' present' run' i).infoOf config' k (some bytes)
  rw [hinfo] at hnum hcnt hhsh hopt hhsh'
  rw [hinfo'] at hnum' hcnt' hhsh' hopt'
  simp_all

end

/-! ## Names tell the calls apart -/

/-- The name with the program number that a call has. -/
def NamedAt (config : Config) (present : String → Bool) (run : List (ProgramCall × Handle))
    (i : Nat) (fields : List String) : Prop :=
  ∃ call, run[i]? = some call ∧
    ((call.1.creates = true ∧ ∃ hash, fields =
        sourceName false (sessionAt config present run i).programs.programNumber hash) ∨
      ∃ isCompile k options, call.1 = buildOf isCompile k options ∧
        fields = optionsName false isCompile false
          ((sessionAt config present run i).infoOf config k options))

/-- The assumptions on a run, but for the numbers of calls. -/
structure Sound (config : Config) (present : String → Bool) (run : List (ProgramCall × Handle)) :
    Prop where
  numbers : Numbers config
  legal : (programSystem config present).Legal {} run
  created : BuildsCreated config present run

section

variable {config config' : Config} {present present' : String → Bool}
  {run run' : List (ProgramCall × Handle)}

/-- **In two runs of the same calls, a name is that of one place**, until a counter starts again. -/
theorem namedAt_unique (h : Sound config present run) (h' : Sound config' present' run')
    (hsame : run'.map Prod.fst = run.map Prod.fst)
    (hcreations : (run.map Prod.fst).countP (·.creates) ≤ 2 ^ 32)
    (hbuilds : ∀ k, (run.map Prod.fst).countP (·.builds k) ≤ 2 ^ 32) {i j : Nat}
    {fields : List String} (hi : NamedAt config present run i fields)
    (hj : NamedAt config' present' run' j fields) : j = i := by
  obtain ⟨a, hai, ha⟩ := hi
  obtain ⟨b, hbj, hb⟩ := hj
  have hacall : (run.map Prod.fst)[i]? = some a.1 := by simp [hai]
  have hbcall : (run.map Prod.fst)[j]? = some b.1 := by
    rw [← hsame]
    simp [hbj]
  rcases ha with ⟨hac, hash, rfl⟩ | ⟨isCompile, k, options, hak, rfl⟩ <;>
    rcases hb with ⟨hbc, hash', hfields⟩ | ⟨isCompile', k', options', hbk, hfields⟩
  · -- two creations: the numbers of creations before
    have hnumber := sourceName_inj hfields
    rw [programNumber_sessionAt h.numbers h.legal, programNumber_sessionAt h'.numbers h'.legal,
      hsame] at hnumber
    exact (eq_of_countP_take hcreations hacall hac hbcall hbc hnumber).symm
  · exact absurd hfields sourceName_ne_optionsName
  · exact absurd hfields.symm sourceName_ne_optionsName
  · -- two builds: the programs, and the numbers of builds before
    obtain ⟨hnumber, hcount⟩ := optionsName_inj hfields
    obtain ⟨hnum, hcnt, -⟩ := infoOf_build h.numbers h.legal h.created hai hak
    obtain ⟨hnum', hcnt', -⟩ := infoOf_build h'.numbers h'.legal h'.created hbj hbk
    have hlt : ∀ {i : Nat}, ((run.map Prod.fst).take i).countP (·.creates) ≤ 2 ^ 32 := fun {i} =>
      ((List.take_sublist i _).countP_le).trans hcreations
    have hk := (live_of_build h.legal h.created hai hak).1.1
    have hk' := (live_of_build h'.legal h'.created hbj hbk).1.1
    rw [length_handles_sessionAt h.numbers h.legal] at hk
    rw [length_handles_sessionAt h'.numbers h'.legal, hsame] at hk'
    have heq : k = k' := by
      rw [hnum, hnum'] at hnumber
      have hnat := congrArg UInt32.toNat hnumber
      rwa [UInt32.toNat_ofNat_of_lt' (hk.trans_le hlt),
        UInt32.toNat_ofNat_of_lt' (hk'.trans_le hlt)] at hnat
    subst heq
    rw [hcnt, hcnt', hsame] at hcount
    exact (eq_of_countP_take (hbuilds k) hacall (hak ▸ builds_buildOf _ _ _) hbcall
      (hbk ▸ builds_buildOf _ _ _) hcount).symm

end

/-! ## The two sides -/

/-- Both sides save the same hashes: of the source, and none of a binary or of IL. -/
theorem createdHash_injecting (windows omitNumber omitNumber' : Bool) (call : ProgramCall) :
    call.createdHash (injecting windows omitNumber') =
      call.createdHash (dumping windows omitNumber) := by
  cases call <;> rfl

section

variable {windows omitNumber omitNumber' : Bool} {run : List (ProgramCall × Handle)} {i : Nat}

/-- What a run with `DumpProgramSource` writes. -/
theorem dumpedAt_dumping {present : String → Bool} {written : String}
    (h : dumpedAt (dumping windows omitNumber) present run i = some written) :
    ∃ call, run[i]? = some call ∧
      ((∃ singleString, call.1 = .clCreateProgramWithSource singleString ∧ written = file ""
          (sourceName omitNumber
            (sessionAt (dumping windows omitNumber) present run i).programs.programNumber
            (computeHash (some singleString)))) ∨
        ∃ isCompile k bytes, call.1 = buildOf isCompile k (some bytes) ∧ written = file ""
          (optionsName omitNumber isCompile false
            ((sessionAt (dumping windows omitNumber) present run i).infoOf
              (dumping windows omitNumber) k (some bytes)))) := by
  obtain ⟨call, hi, hdumped⟩ := Option.bind_eq_some_iff.mp h
  refine ⟨call, hi, ?_⟩
  cases hcall : call.1 with
  | clCreateProgramWithSource singleString =>
    rw [hcall] at hdumped
    exact .inl ⟨singleString, rfl, (Option.some.inj hdumped).symm⟩
  | clBuildProgram k options =>
    rw [hcall] at hdumped
    cases options with
    | none => cases hdumped
    | some bytes => exact .inr ⟨false, k, bytes, rfl, (Option.some.inj hdumped).symm⟩
  | clCompileProgram k options =>
    rw [hcall] at hdumped
    cases options with
    | none => cases hdumped
    | some bytes => exact .inr ⟨true, k, bytes, rfl, (Option.some.inj hdumped).symm⟩
  | clCreateProgramWithIL il =>
    rw [hcall] at hdumped
    cases hdumped
  | clCreateProgramWithBinary binary =>
    rw [hcall] at hdumped
    cases hdumped
  | clReleaseProgram k =>
    rw [hcall] at hdumped
    cases hdumped

/-- The folder of injected sources is looked into first. -/
theorem find?_injectProgramSource (omitNumber : Bool) (hash : UInt64) (p : Programs) :
    (injectProgramSource hash p).find?
        (onlyInjected (file "" (sourceName omitNumber p.programNumber hash))) =
      some ("/Inject" ++ file "" (sourceName omitNumber p.programNumber hash)) := by
  have hplain := plain_sourceName omitNumber p.programNumber hash
  rw [inject_file, injectProgramSource]
  cases omitNumber with
  | false => rw [List.find?_cons_of_pos ((onlyInjected_file hplain hplain).mpr rfl)]
  | true =>
    rw [List.find?_cons_of_neg fun h => sourceName_omit_ne
      ((onlyInjected_file hplain (plain_sourceName _ _ _)).mp h).symm,
      List.find?_cons_of_pos ((onlyInjected_file hplain hplain).mpr rfl)]

/-- The options of the program come before those of all programs. -/
theorem find?_injectProgramOptions (omitNumber isCompile : Bool) (info : SProgramInfo) :
    (injectProgramOptions isCompile false info).find?
        (onlyInjected (file "" (optionsName omitNumber isCompile false info))) =
      some ("/Inject" ++ file "" (optionsName omitNumber isCompile false info)) := by
  have hplain := plain_optionsName omitNumber isCompile false info
  rw [inject_file, injectProgramOptions]
  cases omitNumber with
  | false => rw [List.find?_cons_of_pos ((onlyInjected_file hplain hplain).mpr rfl)]
  | true =>
    rw [List.find?_cons_of_neg fun h => optionsName_omit_ne
      ((onlyInjected_file hplain (plain_optionsName _ _ _ _)).mp h).symm,
      List.find?_cons_of_pos ((onlyInjected_file hplain hplain).mpr rfl)]

/-- A file of options is named so by the call that opens it. -/
theorem namedAt_of_openedOptions {present : String → Bool} {fields : List String}
    (hplain : Plain fields) (hnumbered : (∃ n hash, fields = sourceName false n hash) ∨
      ∃ isCompile info, fields = optionsName false isCompile false info)
    {call : ProgramCall × Handle} (hi : run[i]? = some call) (isCompile : Bool) {k : Nat}
    {options : Option Bytes} (hcall : call.1 = buildOf isCompile k options)
    (hopened : openedFile (injecting windows omitNumber') present
      (sessionAt (injecting windows omitNumber') present run i) call.1 =
        some (file "/Inject" fields)) :
    NamedAt (injecting windows omitNumber') present run i fields := by
  have hfind : (injectProgramOptions isCompile false
      ((sessionAt (injecting windows omitNumber') present run i).infoOf
        (injecting windows omitNumber') k options)).find? present =
        some (file "/Inject" fields) := by
    rw [hcall] at hopened
    cases isCompile <;> exact hopened
  have hmem := List.mem_of_find?_eq_some hfind
  simp only [injectProgramOptions, List.mem_cons, List.not_mem_nil, or_false] at hmem
  rcases hmem with heq | heq | heq | heq
  · exact ⟨call, hi, .inr ⟨isCompile, k, options, hcall,
      file_inj hplain (plain_optionsName _ _ _ _) heq⟩⟩
  · have hfields := file_inj hplain (plain_optionsName _ _ _ _) heq
    rcases hnumbered with ⟨n, hash, hname⟩ | ⟨isCompile', info, hname⟩
    · exact absurd (hname.symm.trans hfields) sourceName_ne_optionsName
    · exact absurd (hfields.symm.trans hname) optionsName_omit_ne
  · have hshort : Plain ("CLI" :: hashText ((sessionAt (injecting windows omitNumber') present run
        i).infoOf (injecting windows omitNumber') k options).programHash ::
        optionsSuffix isCompile false) := by
      refine ⟨by simp, fun x hx => ?_⟩
      simp only [List.mem_cons] at hx
      rcases hx with rfl | rfl | hx
      · decide
      · exact underscore_notMem_hashText _
      · exact plain_optionsSuffix _ _ x hx
    have hfields := file_inj hplain hshort heq
    rcases hnumbered with ⟨n, hash, hname⟩ | ⟨isCompile', info, hname⟩
    · exact absurd (hfields.symm.trans hname) short_ne_sourceName
    · exact absurd (hfields.symm.trans hname) short_ne_optionsName
  · exact absurd heq.symm (outside_ne _)

/-- A call that opens a file with a program number has that number in its own names. -/
theorem namedAt_of_openedAt {present : String → Bool} {fields : List String}
    (hplain : Plain fields) (hnumbered : (∃ n hash, fields = sourceName false n hash) ∨
      ∃ isCompile info, fields = optionsName false isCompile false info)
    (h : openedAt (injecting windows omitNumber') present run i = some (file "/Inject" fields)) :
    NamedAt (injecting windows omitNumber') present run i fields := by
  obtain ⟨call, hi, hopened⟩ := Option.bind_eq_some_iff.mp h
  cases hcall : call.1 with
  | clCreateProgramWithSource singleString =>
    rw [hcall] at hopened
    have hmem := List.mem_of_find?_eq_some (p := present) hopened
    simp only [injectProgramSource, List.mem_cons, List.not_mem_nil, or_false] at hmem
    rcases hmem with heq | heq
    · exact ⟨call, hi, .inl ⟨by rw [hcall]; rfl, _, file_inj hplain (plain_sourceName _ _ _) heq⟩⟩
    · have hfields := file_inj hplain (plain_sourceName _ _ _) heq
      rcases hnumbered with ⟨n, hash, hname⟩ | ⟨isCompile', info, hname⟩
      · exact absurd (hfields.symm.trans hname) sourceName_omit_ne
      · exact absurd (hfields.symm.trans hname) sourceName_ne_optionsName
  | clBuildProgram k options =>
    exact namedAt_of_openedOptions hplain hnumbered hi false hcall hopened
  | clCompileProgram k options =>
    exact namedAt_of_openedOptions hplain hnumbered hi true hcall hopened
  | clCreateProgramWithIL il =>
    rw [hcall] at hopened
    cases hopened
  | clCreateProgramWithBinary binary =>
    rw [hcall] at hopened
    cases hopened
  | clReleaseProgram k =>
    rw [hcall] at hopened
    cases hopened

/-- A file with a program number in its name is named so by the call that writes it. -/
theorem namedAt_of_dumpedAt {present : String → Bool} {written : String}
    (h : dumpedAt (dumping windows false) present run i = some written) :
    ∃ fields, written = file "" fields ∧ Plain fields ∧
      ((∃ n hash, fields = sourceName false n hash) ∨
        ∃ isCompile info, fields = optionsName false isCompile false info) ∧
      NamedAt (dumping windows false) present run i fields := by
  obtain ⟨call, hi, ⟨singleString, hcall, rfl⟩ | ⟨isCompile, k, bytes, hcall, rfl⟩⟩ :=
    dumpedAt_dumping h
  · exact ⟨_, rfl, plain_sourceName _ _ _, .inl ⟨_, _, rfl⟩,
      call, hi, .inl ⟨by rw [hcall]; rfl, _, rfl⟩⟩
  · exact ⟨_, rfl, plain_optionsName _ _ _ _, .inr ⟨_, _, rfl⟩,
      call, hi, .inr ⟨isCompile, k, some bytes, hcall, rfl⟩⟩

/-- The call that wrote a file opens it in a second run that finds nothing else. -/
theorem openedAt_of_dumpedAt {written : String}
    (h : Sound (dumping windows omitNumber) (fun _ => false) run)
    {run' : List (ProgramCall × Handle)}
    (h' : Sound (injecting windows omitNumber') (onlyInjected written) run')
    (hsame : run'.map Prod.fst = run.map Prod.fst)
    (hdumped : dumpedAt (dumping windows omitNumber) (fun _ => false) run i = some written) :
    openedAt (injecting windows omitNumber') (onlyInjected written) run' i =
      some ("/Inject" ++ written) := by
  obtain ⟨call, hi, hcases⟩ := dumpedAt_dumping hdumped
  have hcalls : (run'.map Prod.fst)[i]? = some call.1 := by
    rw [hsame]
    simp [hi]
  obtain ⟨call', hi', hcall'⟩ : ∃ call', run'[i]? = some call' ∧ call'.1 = call.1 := by
    simpa using hcalls
  rw [openedAt, hi', Option.bind_some, hcall']
  rcases hcases with ⟨singleString, hcall, hwritten⟩ | ⟨isCompile, k, bytes, hcall, hwritten⟩
  · have hnumber : (sessionAt (injecting windows omitNumber') (onlyInjected written) run'
        i).programs.programNumber =
        (sessionAt (dumping windows omitNumber) (fun _ => false) run i).programs.programNumber := by
      rw [programNumber_sessionAt h.numbers h.legal, programNumber_sessionAt h'.numbers h'.legal,
        hsame]
    rw [← hnumber] at hwritten
    rw [hcall]
    generalize sessionAt (injecting windows omitNumber') (onlyInjected written) run' i = s
      at hwritten
    rw [hwritten]
    exact find?_injectProgramSource omitNumber (computeHash (some singleString)) s.programs
  · have hhash := createdHash_injecting windows omitNumber omitNumber'
    have hinfo := infoOf_eq h.numbers h'.numbers hhash h.legal h'.legal h.created h'.created hsame
      hi hi' hcall (hcall'.trans hcall)
    rw [← hinfo] at hwritten
    rw [hcall]
    generalize sessionAt (injecting windows omitNumber') (onlyInjected written) run' i = s
      at hwritten
    rw [hwritten]
    have hfind := fun isCompile => find?_injectProgramOptions omitNumber isCompile
      (s.infoOf (injecting windows omitNumber') k (some bytes))
    cases isCompile
    · exact hfind false
    · exact hfind true

end

/-- **A file goes back to the call that wrote it**, in runs that build what was created and have no
more creations, and builds of one program, than the numbers in the names can tell apart. -/
theorem injected_where_dumped (windows omitNumber omitNumber' : Bool)
    (run₁ : List (ProgramCall × Handle))
    (hl : (programSystem (dumping windows omitNumber) fun _ => false).Legal {} run₁)
    (hc : BuildsCreated (dumping windows omitNumber) (fun _ => false) run₁)
    (hcreations : (run₁.map Prod.fst).countP (·.creates) ≤ 2 ^ 32)
    (hbuilds : ∀ k, (run₁.map Prod.fst).countP (·.builds k) ≤ 2 ^ 32) :
    InjectsWhereDumped (dumping windows omitNumber) (injecting windows omitNumber') run₁
      fun present run₂ => (programSystem (injecting windows omitNumber') present).Legal {} run₂ ∧
        BuildsCreated (injecting windows omitNumber') present run₂ := by
  intro i written hdumped
  have hs : Sound (dumping windows omitNumber) (fun _ => false) run₁ :=
    ⟨numbers_dumping _ _, hl, hc⟩
  refine ⟨fun run₂ hsame hsecond => ?_, fun homit j hj => ?_⟩
  · have hs' : Sound (injecting windows omitNumber') (onlyInjected written) run₂ :=
      ⟨numbers_injecting _ _, hsecond.1, hsecond.2⟩
    refine ⟨openedAt_of_dumpedAt hs hs' hsame hdumped, fun homit j hj => ?_⟩
    have homit' : omitNumber = false := homit
    subst homit'
    obtain ⟨fields, rfl, hplain, hnumbered, hnamed⟩ := namedAt_of_dumpedAt hdumped
    rw [inject_file] at hj
    exact namedAt_unique hs hs' hsame hcreations hbuilds hnamed
      (namedAt_of_openedAt hplain hnumbered hj)
  · have homit' : omitNumber = false := homit
    subst homit'
    obtain ⟨fields, rfl, hplain, -, hnamed⟩ := namedAt_of_dumpedAt hdumped
    obtain ⟨fields', heq, hplain', -, hnamed'⟩ := namedAt_of_dumpedAt hj
    rw [← file_inj hplain hplain' heq] at hnamed'
    exact namedAt_unique hs hs rfl hcreations hbuilds hnamed hnamed'

/-- A program is created, compiled and built. -/
theorem injected_where_dumped_build :
    InjectsWhereDumped (dumping false false) (injecting false false)
      [(.clCreateProgramWithSource [107], 8), (.clCompileProgram 0 (some [45]), null),
        (.clBuildProgram 0 none, null)]
      fun present run₂ => (programSystem (injecting false false) present).Legal {} run₂ ∧
        BuildsCreated (injecting false false) present run₂ := by
  have hlive : ∀ {s : Session}, s.handles = [8] → .clReleaseProgram 0 ∉ s.history → s.Live 0 := by
    intro s hh hr
    exact ⟨by rw [hh]; decide, hr⟩
  refine injected_where_dumped false false false _
    ⟨fun _ k hk => absurd hk.1 (Nat.not_lt_zero k), hlive rfl (by decide), hlive rfl (by decide),
      trivial⟩
    ⟨fun k hk => (nomatch hk), fun k hk => ?_, fun k hk => ?_, trivial⟩ (by decide) fun k => ?_
  · cases of_decide_eq_true hk
    show (8 : Nat) ≠ null
    decide
  · cases of_decide_eq_true hk
    show (8 : Nat) ≠ null
    decide
  · exact List.countP_le_length.trans (by decide)

/-! ## What is left out -/

/-- Programs that are created and never released. -/
def creations (m n : Nat) : List (ProgramCall × Handle) :=
  (List.range' m n).map fun k => (.clCreateProgramWithSource [], k + 1)

section

variable {config : Config} {present : String → Bool}

/-- Creations with new handles are legal. -/
theorem legal_creations (m n : Nat) {s : Session} (hs : ∀ h ∈ s.handles, h ≤ m) :
    (programSystem config present).Each programLegal s (creations m n) := by
  induction n generalizing m s with
  | zero => trivial
  | succ n ih =>
    rw [creations, List.range'_succ, List.map_cons]
    refine ⟨fun _ k hk heq => ?_, ih (m + 1) fun h hh => ?_⟩
    · have hmem : s.handle k ∈ s.handles := by
        rw [Session.handle, List.getElem?_eq_getElem hk.1]
        exact List.getElem_mem hk.1
      have hle : s.handle k ≤ m := hs _ hmem
      have hself : s.handle k = m + 1 := heq
      exact Nat.not_succ_le_self m (hself.symm.le.trans hle)
    · have hcases : h ∈ s.handles ++ [m + 1] := hh
      rw [List.mem_append, List.mem_singleton] at hcases
      rcases hcases with hold | rfl
      · exact Nat.le_succ_of_le (hs h hold)
      · exact Nat.le_refl _

theorem buildsCreated_creations (m n : Nat) : BuildsCreated config present (creations m n) := by
  refine System.each_of_mem (fun call hcall s k hk => ?_) _
  obtain ⟨k', -, rfl⟩ := List.mem_map.mp hcall
  cases hk

/-- Each of them is dumped under its own number. -/
theorem dumpedAt_creations (present : String → Bool) (n : Nat) {i : Nat} (hi : i < n) :
    dumpedAt (dumping false false) present (creations 0 n) i =
      some (file "" (sourceName false (UInt32.ofNat i) (computeHash (some [])))) := by
  have hl : (programSystem (dumping false false) present).Legal {} (creations 0 n) :=
    legal_creations 0 n (by simp)
  have hcalls : (creations 0 n).map Prod.fst =
      List.replicate n (.clCreateProgramWithSource []) := by
    simp [creations, List.map_map, Function.comp_def, List.map_const']
  have hnumber := programNumber_sessionAt (numbers_dumping false false) hl i
  rw [hcalls, List.take_replicate, Nat.min_eq_left hi.le, List.countP_replicate] at hnumber
  have hcall : (creations 0 n)[i]? = some (.clCreateProgramWithSource [], i + 1) := by
    simp [creations, hi]
  rw [dumpedAt, hcall, Option.bind_some]
  show some (file "" (sourceName false _ (computeHash (some [])))) = _
  rw [hnumber]
  rfl

end

/-- A program that was not created is built twice, and both builds write the same file. And where
all are created, there may be more of them than numbers. -/
theorem dumped_twice :
    (¬∀ (windows omitNumber omitNumber' : Bool) (run₁ : List (ProgramCall × Handle)),
      (programSystem (dumping windows omitNumber) fun _ => false).Legal {} run₁ →
        InjectsWhereDumped (dumping windows omitNumber) (injecting windows omitNumber') run₁
          fun present run₂ =>
            (programSystem (injecting windows omitNumber') present).Legal {} run₂) ∧
    ¬∀ (windows omitNumber omitNumber' : Bool) (run₁ : List (ProgramCall × Handle)),
      (programSystem (dumping windows omitNumber) fun _ => false).Legal {} run₁ →
        BuildsCreated (dumping windows omitNumber) (fun _ => false) run₁ →
          InjectsWhereDumped (dumping windows omitNumber) (injecting windows omitNumber') run₁
            fun present run₂ =>
              (programSystem (injecting windows omitNumber') present).Legal {} run₂ ∧
                BuildsCreated (injecting windows omitNumber') present run₂ := by
  constructor
  · intro hclaim
    have hl : (programSystem (dumping false false) fun _ => false).Legal {}
        [(.clCreateProgramWithSource [], null), (.clBuildProgram 0 (some [45]), null),
          (.clBuildProgram 0 (some []), null)] :=
      ⟨fun h => absurd rfl h, ⟨by decide, by decide⟩, ⟨by decide, by decide⟩, trivial⟩
    have hboth := (hclaim false false false _ hl 1 _ rfl).2 rfl 2 rfl
    exact absurd hboth (by decide)
  · intro hclaim
    have hl : (programSystem (dumping false false) fun _ => false).Legal {}
        (creations 0 (2 ^ 32 + 1)) := legal_creations 0 _ (by simp)
    have hfirst := dumpedAt_creations (fun _ => false) (2 ^ 32 + 1) (Nat.succ_pos (2 ^ 32))
    have hlast := dumpedAt_creations (fun _ => false) (2 ^ 32 + 1) (Nat.lt_succ_self (2 ^ 32))
    have hwrap : UInt32.ofNat (2 ^ 32) = UInt32.ofNat 0 := by decide
    rw [hwrap] at hlast
    have hboth := (hclaim false false false _ hl (buildsCreated_creations _ _) 0 _ hfirst).2 rfl
      (2 ^ 32) hlast
    exact absurd hboth (by decide)

end CLIntercept.Dump
