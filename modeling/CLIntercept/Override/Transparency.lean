import CLIntercept.Override.Coverage

/-!
# Transparency of the overrides

An override is transparent if a success means one complete operation behind the wait list, whose
effect is there when the application may look; if a failure leaves no event behind; and if the
temporary object is released. This module says what that comes to for the few sequences of commands
that a call can leave in the queue: none, the launch, or the launch with a map and an unmap.

The event that the application gets is that of the launch, and the map that brings the result of a
read to the host waits for nothing. So the launch can be the last command to have run when the event
is complete, and in an out-of-order queue the map can run first, and then nothing of the call is left
that would bring the result.
-/

set_option autoImplicit false

namespace CLIntercept.Override

open CLIntercept.Lib.CommandQueue

/-! ## What a request asks for -/

/-- The launches that the override kernel can do: two dimensions, and the local size is open. -/
def NDRange.blocks? (r : NDRange) : Option Size3 :=
  if r.workDim = 2 ∧ r.localWorkSize = none then r.globalWorkSize else none

/-- The moves that a request asks for. The host's side of a transfer is counted from the page of the
pointer, and from the corner of the temporary image. -/
def Request.Intends (L : Layer) (q : Enqueue) : Request → Move → Prop
  | .readBuffer _ _ srcOffset bytes ptr, m => byteRegion srcOffset (ptr % alignSize) bytes m
  | .writeBuffer _ _ dstOffset bytes ptr, m => byteRegion (ptr % alignSize) dstOffset bytes m
  | .copyBuffer _ _ srcOffset dstOffset bytes, m => byteRegion srcOffset dstOffset bytes m
  | .readImage _ _ origin region, m =>
    ∃ o r, origin = some o ∧ region = some r ∧ texelRegion o Size3.zero r m
  | .writeImage _ _ origin region, m =>
    ∃ o r, origin = some o ∧ region = some r ∧ texelRegion Size3.zero o r m
  | .copyImage _ _ srcOrigin dstOrigin region, m => texelRegion srcOrigin dstOrigin region m
  | .ndRangeKernel kernel r _, m =>
    if L.builtinKernelOverridesMap q.context = some kernel then
      match r.blocks? with
      | some global => blockRegion global m
      | none => m = .range r
    else m = .range r

/-- The call returns when the operation is done. -/
def Request.blocking : Request → Bool
  | .readBuffer _ b _ _ _ | .writeBuffer _ b _ _ _ | .readImage _ b _ _ | .writeImage _ b _ _ => b
  | .copyBuffer .. | .copyImage .. | .ndRangeKernel .. => false

/-- The destination is the host's memory. -/
def Request.toHost : Request → Bool
  | .readBuffer .. | .readImage .. => true
  | _ => false

/-! ## Transparency -/

/-- The queue after a call. -/
def Call.entries (q : Enqueue) (c : Call) : List Entry :=
  q.earlier ++ c.commands.map fun command => { waitList := command.waitList }

/-- The step that runs command `k` of a call. -/
def Enqueue.run (q : Enqueue) (k : Nat) : Step := .run (q.earlier.length + k)

/-- The application may look: a blocking call has returned, or the event is complete. -/
def Observed (q : Enqueue) (c : Call) (blocking : Bool) (steps : List Step) : Prop :=
  if blocking then
    (∀ k command, c.commands[k]? = some command → command.blocking = true → q.run k ∈ steps) ∧
      (c.finished = true → ∀ i < (c.entries q).length, .run i ∈ steps)
  else ∃ k command, c.commands[k]? = some command ∧ command.event = true ∧ q.run k ∈ steps

/-- All commands of the call have run. -/
def Ended (q : Enqueue) (c : Call) (steps : List Step) : Prop :=
  ∀ k < c.commands.length, q.run k ∈ steps

/-- The effect of command `k` is at the destination. What a kernel writes to the temporary object
reaches the host by a map that runs after the kernel. -/
def Visible (q : Enqueue) (c : Call) (toHost : Bool) (k : Nat) (steps : List Step) : Prop :=
  if toHost then
    ∃ j command, c.commands[j]? = some command ∧ command.work = .map ∧
      Before (q.run k) (q.run j) steps
  else q.run k ∈ steps

/-- **A transparent call**. -/
structure Transparent (L : Layer) (q : Enqueue) (r : Request) (c : Call) : Prop where
  /-- A success is one complete operation behind the wait list. Its effect is there when the
  application may look, and in any case when all commands of the call have run. -/
  operation : c.errorCode = clSuccess → ∃ k command, c.commands[k]? = some command ∧
    command.work.isLaunch = true ∧
    (∀ j other, c.commands[j]? = some other → other.work.isLaunch = true → j = k) ∧
    command.waitList = q.eventWaitList ∧
    (∀ m, command.work.Performs m ↔ r.Intends L q m) ∧
    ∀ steps, Execution q.inOrder (c.entries q) steps →
      Observed q c r.blocking steps ∨ Ended q c steps →
        (∃ m, r.Intends L q m) → Visible q c r.toHost k steps
  /-- A failure leaves no event. -/
  event : c.errorCode ≠ clSuccess → ∀ command ∈ c.commands, command.event = false
  /-- The temporary object is released, if there is one. -/
  temporary : c.released.filter (· ≠ null) = [c.temporary].filter (· ≠ null)

/-! ## Transparent or not -/

section

variable {L : Layer} {d : Driver} {q : Enqueue} {r : Request} {c : Call} {work : Work}

/-- The launch does what is asked for. -/
def Complete (L : Layer) (q : Enqueue) (r : Request) (work : Work) : Prop :=
  ∀ m, work.Performs m ↔ r.Intends L q m

/-- A failure before anything is enqueued. -/
theorem transparent_of_failed (he : c.errorCode ≠ clSuccess) (hc : c.commands = [])
    (htemp : c.released.filter (· ≠ null) = [c.temporary].filter (· ≠ null)) :
    Transparent L q r c :=
  ⟨fun h => absurd h he, fun _ command hmem => by simp [hc] at hmem, htemp⟩

/-- A failure after the launch: its event has been handed out already. -/
theorem transparent_error_iff (work : Work) (rest : List Command)
    (he : c.errorCode ≠ clSuccess) (hc : c.commands = q.launch work :: rest)
    (hrest : ∀ command ∈ rest, command.event = false)
    (htemp : c.released.filter (· ≠ null) = [c.temporary].filter (· ≠ null)) :
    Transparent L q r c ↔ q.event = false := by
  constructor
  · intro h
    exact h.event he (q.launch work) (by simp [hc])
  · intro hevent
    refine ⟨fun h => absurd h he, fun _ command hmem => ?_, htemp⟩
    rw [hc] at hmem
    rcases List.mem_cons.mp hmem with rfl | hmem
    · exact hevent
    · exact hrest command hmem

theorem singleton_at {a b : Command} {k : Nat} (h : [a][k]? = some b) : k = 0 ∧ b = a := by
  cases k with
  | zero => exact ⟨rfl, (Option.some.inj h).symm⟩
  | succ k => cases h

/-- A success that is the launch alone, with its effect where the launch writes. A blocking call
has to have waited. -/
theorem transparent_device_iff (he : c.errorCode = clSuccess) (hc : c.commands = [q.launch work])
    (hwork : work.isLaunch = true) (hhost : r.toHost = false)
    (hwait : r.blocking = true → c.finished = true)
    (htemp : c.released.filter (· ≠ null) = [c.temporary].filter (· ≠ null)) :
    Transparent L q r c ↔ Complete L q r work := by
  constructor
  · intro h
    obtain ⟨k, command, hk, _, _, _, hcomplete, _⟩ := h.operation he
    rw [hc] at hk
    obtain ⟨_, rfl⟩ := singleton_at hk
    exact hcomplete
  · intro hcomplete
    refine ⟨fun _ => ⟨0, q.launch work, by simp [hc], hwork, ?_, rfl, hcomplete, ?_⟩,
      fun hne => absurd he hne, htemp⟩
    · intro j other hj _
      rw [hc] at hj
      exact (singleton_at hj).1
    · intro steps _ hseen _
      rw [Visible, hhost, if_neg Bool.false_ne_true]
      rcases hseen with hobserved | hended
      swap
      · exact hended 0 (by simp [hc])
      unfold Observed at hobserved
      split at hobserved
      next hblocking =>
        refine hobserved.2 (hwait hblocking) _ ?_
        simp [Call.entries, hc]
      next =>
        obtain ⟨k, command, hk, _, hrun⟩ := hobserved
        rw [hc] at hk
        obtain ⟨rfl, _⟩ := singleton_at hk
        exact hrun

/-- The commands of a read that succeeds. -/
def readCommands (q : Enqueue) (work : Work) (blocking : Bool) : List Command :=
  [q.launch work, { work := .map, blocking }, { work := .unmap }]

theorem readCommands_at {blocking : Bool} {k : Nat} {command : Command}
    (h : (readCommands q work blocking)[k]? = some command) :
    (k = 0 ∧ command = q.launch work) ∨ (k = 1 ∧ command = { work := .map, blocking }) ∨
      (k = 2 ∧ command = { work := .unmap }) := by
  match k with
  | 0 => exact Or.inl ⟨rfl, (Option.some.inj h).symm⟩
  | 1 => exact Or.inr (Or.inl ⟨rfl, (Option.some.inj h).symm⟩)
  | 2 => exact Or.inr (Or.inr ⟨rfl, (Option.some.inj h).symm⟩)
  | k + 3 => cases h

/-- The queue after a read that succeeds. -/
def readEntries (q : Enqueue) : List Entry :=
  (q.earlier ++ [{ waitList := q.eventWaitList }]) ++ [{ waitList := [] }, { waitList := [] }]

theorem readEntries_wellFormed (q : Enqueue) : WellFormed (readEntries q) :=
  q.wellFormed.append (by simp)

theorem entries_of_read {blocking : Bool} (hc : c.commands = readCommands q work blocking) :
    c.entries q = readEntries q := by
  simp [Call.entries, hc, readCommands, readEntries, Enqueue.launch]

theorem readEntries_launch (q : Enqueue) :
    (readEntries q)[q.earlier.length]? = some { waitList := q.eventWaitList } := by
  simp [readEntries]

theorem readEntries_map (q : Enqueue) :
    (readEntries q)[q.earlier.length + 1]? = some { waitList := [] } := by
  simp [readEntries]

/-- **The map can run before the launch** in an out-of-order queue: it waits for nothing. -/
theorem execution_map_first (q : Enqueue) (h : q.inOrder = false) :
    Execution q.inOrder (readEntries q)
      (upTo (readEntries q) q.earlier.length ++ [.run (q.earlier.length + 1)]) := by
  rw [h]
  refine execution_skip (readEntries_wellFormed q) (Nat.le_succ _) (readEntries_map q) rfl rfl ?_
  intro j d hj hj' hd
  obtain rfl : j = q.earlier.length := by omega
  rw [readEntries_launch] at hd
  cases hd
  rfl

/-- **The launch can be the last command to have run**, in every queue. -/
theorem execution_launch_last (q : Enqueue) :
    Execution q.inOrder (readEntries q) (upTo (readEntries q) (q.earlier.length + 1)) := by
  refine execution_upTo (readEntries_wellFormed q) _ ?_
  simp [readEntries]

/-- A read's effect is at the host only if the map has run after the launch. -/
theorem visible_read {blocking : Bool} (hc : c.commands = readCommands q work blocking)
    (hwork : work.isLaunch = true) {steps : List Step} (h : Visible q c true 0 steps) :
    Before (q.run 0) (q.run 1) steps := by
  obtain ⟨j, command, hj, hmap, hbefore⟩ := h
  rw [hc] at hj
  rcases readCommands_at hj with ⟨_, rfl⟩ | ⟨rfl, _⟩ | ⟨_, rfl⟩
  · have hmap : work = .map := hmap
    rw [hmap] at hwork
    cases hwork
  · exact hbefore
  · cases hmap

/-- When the launch has run last, its event is complete. -/
theorem observed_launch_last (hc : c.commands = readCommands q work false)
    (hevent : q.event = true) :
    Observed q c false (upTo (readEntries q) (q.earlier.length + 1)) := by
  rw [Observed, if_neg Bool.false_ne_true]
  exact ⟨0, q.launch work, by rw [hc]; rfl, hevent, by simp [Enqueue.run]⟩

/-- **The effect of a read can be lost** in an out-of-order queue: the map runs first, and then the
other commands of the call. -/
theorem exists_ended_not_visible (q : Enqueue) (h : q.inOrder = false) {blocking : Bool}
    (hc : c.commands = readCommands q work blocking) (hwork : work.isLaunch = true) :
    ∃ steps, Execution q.inOrder (readEntries q) steps ∧ Ended q c steps ∧
      ¬Visible q c true 0 steps := by
  obtain ⟨more, hexec, -, hall⟩ := (execution_map_first q h).exists_ended (readEntries_wellFormed q)
    (readEntries q).length (Nat.le_refl _)
  refine ⟨_, hexec, fun k hk => hall _ ?_, fun hvisible => ?_⟩
  · simp only [hc, readCommands, List.length_cons, List.length_nil] at hk
    simp only [readEntries, List.length_append, List.length_cons, List.length_nil]
    omega
  · refine hexec.not_before ?_ ?_ (visible_read hc hwork hvisible)
    · exact List.mem_append_right _ List.mem_cons_self
    · simp

/-- A read whose effect is always there when it has to be: the queue keeps the map behind the launch,
and nobody can look when only the launch has run. -/
theorem order_of_visible {blocking : Bool} (hc : c.commands = readCommands q work blocking)
    (hwork : work.isLaunch = true)
    (h : ∀ steps, Execution q.inOrder (readEntries q) steps →
      Observed q c blocking steps ∨ Ended q c steps → Visible q c true 0 steps) :
    q.inOrder = true ∧ (blocking = false → q.event = false) := by
  refine ⟨?_, ?_⟩
  · by_contra hinOrder
    obtain ⟨steps, hexec, hended, hlost⟩ :=
      exists_ended_not_visible q (Bool.eq_false_iff.mpr hinOrder) hc hwork
    exact hlost (h steps hexec (.inr hended))
  · rintro rfl
    by_contra hevent
    rw [Bool.not_eq_false] at hevent
    have hbefore := visible_read hc hwork
      (h _ (execution_launch_last q) (.inl (observed_launch_last hc hevent)))
    simpa [Enqueue.run] using hbefore.mem_right

/-- In an in-order queue the bytes of a read are at the host in every execution that has seen its
map, or has run all of it. -/
theorem visible_of_order {blocking : Bool} (hc : c.commands = readCommands q work blocking)
    (hinOrder : q.inOrder = true) (hevent : blocking = false → q.event = false)
    {steps : List Step} (hexec : Execution q.inOrder (readEntries q) steps)
    (hseen : Observed q c blocking steps ∨ Ended q c steps) :
    Visible q c true 0 steps := by
  have hmap : q.run 1 ∈ steps := by
    rcases hseen with hobserved | hended
    · cases blocking with
      | true => exact hobserved.1 1 _ (by rw [hc]; rfl) rfl
      | false =>
        -- no command has an event to look for
        obtain ⟨k, command, hk, hgiven, _⟩ := hobserved
        rw [hc] at hk
        rcases readCommands_at hk with ⟨_, rfl⟩ | ⟨_, rfl⟩ | ⟨_, rfl⟩
        · rw [Enqueue.launch, hevent rfl] at hgiven
          cases hgiven
        · cases hgiven
        · cases hgiven
    · exact hended 1 (by simp [hc, readCommands])
  rw [hinOrder] at hexec
  exact ⟨1, { work := .map, blocking }, by rw [hc]; rfl, rfl,
    before_of_inOrder hexec (by omega) hmap⟩

/-- A success whose effect has to get to the host. -/
theorem transparent_host_iff (he : c.errorCode = clSuccess)
    (hc : c.commands = readCommands q work r.blocking) (hwork : work.isLaunch = true)
    (hhost : r.toHost = true)
    (htemp : c.released.filter (· ≠ null) = [c.temporary].filter (· ≠ null)) :
    Transparent L q r c ↔ Complete L q r work ∧ ((∃ m, r.Intends L q m) →
      q.inOrder = true ∧ (r.blocking = false → q.event = false)) := by
  have hentries := entries_of_read hc
  have honly : ∀ k command, c.commands[k]? = some command → command.work.isLaunch = true →
      k = 0 ∧ command = q.launch work := by
    intro k command hk hlaunch
    rw [hc] at hk
    rcases readCommands_at hk with hfirst | ⟨_, rfl⟩ | ⟨_, rfl⟩
    · exact hfirst
    · cases hlaunch
    · cases hlaunch
  constructor
  · intro h
    obtain ⟨k, command, hk, hlaunch, _, _, hcomplete, hvisible⟩ := h.operation he
    obtain ⟨rfl, rfl⟩ := honly k command hk hlaunch
    rw [hhost, hentries] at hvisible
    exact ⟨hcomplete, fun hsome => order_of_visible hc hwork
      fun steps hexec hseen => hvisible steps hexec hseen hsome⟩
  · intro h
    obtain ⟨hcomplete, horder⟩ := h
    refine ⟨fun _ => ⟨0, q.launch work, by rw [hc]; rfl, hwork, ?_, rfl, hcomplete, ?_⟩,
      fun hne => absurd he hne, htemp⟩
    · intro j other hj hlaunch
      exact (honly j other hj hlaunch).1
    · intro steps hexec hseen hsome
      rw [hentries] at hexec
      rw [hhost]
      exact visible_of_order hc (horder hsome).1 (horder hsome).2 hexec hseen

end

end CLIntercept.Override
