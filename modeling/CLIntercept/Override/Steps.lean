import CLIntercept.Override.Calls

/-!
# The steps of a call

A call is followed in two parts. `Prepared` is what holds before the launch, with the condition under
which nothing has failed, and `Launched` is what holds after it. Each kind of guarded step has a
lemma that adds its condition, so that the condition of a whole call is read off its steps.
-/

set_option autoImplicit false

namespace CLIntercept.Override

/-! ## Before the launch -/

section

variable {d : Driver} {q : Enqueue} {c : Call} {ok : Prop}

/-- A call without an error goes on. -/
theorem Call.andThen_eq (h : c.errorCode = clSuccess) (f : Call → Call) : c.andThen f = f c :=
  if_pos h

/-- A call with an error does nothing more. -/
theorem Call.andThen_eq_self (h : c.errorCode ≠ clSuccess) (f : Call → Call) : c.andThen f = c :=
  if_neg h

/-- The steps of a call may be grouped as one likes. -/
theorem Call.andThen_assoc (c : Call) (f g : Call → Call) :
    c.andThen (fun c => (f c).andThen g) = (c.andThen f).andThen g := by
  by_cases h : c.errorCode = clSuccess
  · rw [Call.andThen_eq h, Call.andThen_eq h]
  · rw [Call.andThen_eq_self h, Call.andThen_eq_self h, Call.andThen_eq_self h]

/-- Steps that keep the temporary object keep it where they are guarded. -/
theorem Call.temporary_andThen {f : Call → Call} (hf : ∀ c, (f c).temporary = c.temporary) :
    (c.andThen f).temporary = c.temporary := by
  by_cases h : c.errorCode = clSuccess
  · rw [Call.andThen_eq h, hf]
  · rw [Call.andThen_eq_self h]

/-- Nothing is enqueued yet, and no step has failed exactly if `ok`. -/
structure Prepared (ok : Prop) (c : Call) : Prop where
  ok_iff : c.errorCode = clSuccess ↔ ok
  commands : c.commands = []
  finished : c.finished = false
  released : c.released = []

/-- Every entry point starts by asking for the context of the queue. -/
theorem prepared_query (call : DriverCall) :
    Prepared (d.answer call = clSuccess) (({} : Call).query d call) :=
  ⟨Iff.rfl, rfl, rfl, rfl⟩

/-- A guarded step that enqueues nothing. -/
theorem Prepared.andThen (h : Prepared ok c) {f : Call → Call} {ok' : Prop}
    (hok : ok → ((f c).errorCode = clSuccess ↔ ok')) (hcommands : (f c).commands = c.commands)
    (hfinished : (f c).finished = c.finished) (hreleased : (f c).released = c.released) :
    Prepared (ok ∧ ok') (c.andThen f) := by
  unfold Call.andThen
  split
  next hc =>
    have hyes := h.ok_iff.mp hc
    exact ⟨(hok hyes).trans (and_iff_right hyes).symm, hcommands.trans h.commands,
      hfinished.trans h.finished, hreleased.trans h.released⟩
  next hc =>
    have hno := mt h.ok_iff.mpr hc
    exact ⟨iff_of_false hc fun h => hno h.1, h.commands, h.finished, h.released⟩

/-- A check that may set an error. -/
theorem Prepared.setError (h : Prepared ok c) (e : Int) :
    Prepared (ok ∧ e = clSuccess) (c.andThen (·.setError e)) :=
  h.andThen (fun _ => Iff.rfl) rfl rfl rfl

/-- A query of the driver, which may fail. -/
theorem Prepared.query (h : Prepared ok c) (call : DriverCall) :
    Prepared (ok ∧ d.answer call = clSuccess) (c.andThen (·.query d call)) :=
  h.setError (d.answer call)

/-- A creation by the driver, which may fail. -/
theorem Prepared.create (h : Prepared ok c) (call : DriverCall) :
    Prepared (ok ∧ d.answer call = clSuccess) (c.andThen (·.create d call)) :=
  h.andThen (fun _ => Iff.rfl) rfl rfl rfl

/-- Error codes are put together bit by bit; the result is a success if both are. -/
theorem lor_eq_zero {a b : Int} : Int.lor a b = 0 ↔ a = 0 ∧ b = 0 := by
  cases a <;> cases b <;> simp [Int.lor]

/-- A disjunction of error codes is a success if all of them are. -/
theorem foldl_lor_eq_zero {answers : List Int} {e : Int} :
    answers.foldl Int.lor e = 0 ↔ e = 0 ∧ ∀ a ∈ answers, a = 0 := by
  induction answers generalizing e with
  | nil => simp
  | cons a answers ih => simp only [List.foldl_cons, ih, lor_eq_zero, List.forall_mem_cons, and_assoc]

/-- All of the first `n` arguments are taken. -/
def Driver.SetsKernelArgs (d : Driver) (n : Nat) : Prop :=
  ∀ i < n, d.answer (.setKernelArg i) = clSuccess

/-- Setting the arguments, one after the other. -/
theorem Prepared.setKernelArgs (h : Prepared ok c) (n : Nat) :
    Prepared (ok ∧ d.SetsKernelArgs n) (c.andThen (·.setKernelArgs d n)) := by
  refine h.andThen (fun hok => ?_) rfl rfl rfl
  have hfold : (c.setKernelArgs d n).errorCode =
      ((List.range n).map fun i => d.answer (.setKernelArg i)).foldl Int.lor c.errorCode := by
    rw [List.foldl_map]
    rfl
  rw [hfold, h.ok_iff.mpr hok]
  simp [clSuccess, foldl_lor_eq_zero, Driver.SetsKernelArgs]

/-! ## After the launch -/

/-- The launch of `work` is enqueued if `ok`, and otherwise a step has failed. -/
structure Launched (ok : Prop) (q : Enqueue) (work : Work) (c : Call) : Prop where
  taken : ok → c.errorCode = clSuccess ∧ c.commands = [q.launch work]
  failed : ¬ok → c.errorCode ≠ clSuccess ∧ c.commands = []
  finished : c.finished = false
  released : c.released = []

/-- **A prepared call launches its kernel, if nothing failed before.** -/
theorem Prepared.launch (h : Prepared ok c) (call : DriverCall) (work : Work) :
    Launched (ok ∧ d.answer call = clSuccess) q work
      (c.andThen (·.enqueue d call (q.launch work))) := by
  unfold Call.andThen
  split
  next hc =>
    have hyes := h.ok_iff.mp hc
    refine ⟨?_, ?_, h.finished, h.released⟩
    · rintro ⟨_, hcall⟩
      exact ⟨hcall, by simp [Call.enqueue, hcall, h.commands]⟩
    · intro hno
      have hcall : d.answer call ≠ clSuccess := fun hcall => hno ⟨hyes, hcall⟩
      exact ⟨hcall, by simp [Call.enqueue, hcall, h.commands]⟩
  next hc =>
    have hno := mt h.ok_iff.mpr hc
    exact ⟨fun h => absurd h.1 hno, fun _ => ⟨hc, h.commands⟩, h.finished, h.released⟩

/-- A step that fails instead of the launch. -/
theorem Prepared.fail (h : Prepared ok c) {e : Int} (he : e ≠ clSuccess) (work : Work) :
    Launched False q work (c.andThen (·.setError e)) := by
  have := h.setError e
  exact ⟨False.elim, fun _ => ⟨mt this.ok_iff.mp fun h => he h.2, this.commands⟩, this.finished,
    this.released⟩

/-- The condition of a launch may be said in other words. -/
theorem Launched.congr {work : Work} {ok' : Prop} (h : Launched ok q work c) (hok : ok ↔ ok') :
    Launched ok' q work c := by
  rwa [← hok]

end

end CLIntercept.Override
