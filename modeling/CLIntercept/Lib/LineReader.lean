import Mathlib.Data.List.Basic
import Mathlib.Data.List.TakeWhile

/-!
# Reading lines until one is found

A stream gives its characters line by line and then ends, or fails without an end. A loop that asks
for its end only, and looks at a line each time, goes on for ever behind a failure.

Such a loop is run for a time here. `Approximates` says what it comes to: a result, or none at all if
it never ends. `search_approximates` is the rule of this library: the loop finds the first line that
it is looking for, and if there is none it ends exactly if the stream does.
-/

set_option autoImplicit false

namespace CLIntercept.Lib

universe u v

/-! ## Results in time -/

section

variable {α : Type u} {β : Type v}

/-- **What a computation comes to**, given time: its result, or `none` if it never ends. -/
structure Approximates (f : Nat → Option α) (result : Option α) : Prop where
  sound : ∀ time a, f time = some a → result = some a
  eventually : ∃ enough, ∀ time, enough ≤ time → f time = result

theorem Approximates.exists_iff {f : Nat → Option α} {result : Option α}
    (h : Approximates f result) (a : α) : (∃ time, f time = some a) ↔ result = some a := by
  obtain ⟨enough, henough⟩ := h.eventually
  constructor
  · rintro ⟨time, htime⟩
    exact h.sound time a htime
  · intro hresult
    exact ⟨enough, (henough enough (Nat.le_refl enough)).trans hresult⟩

/-- What is the same at all times. -/
theorem approximates_of_forall {f : Nat → Option α} {result : Option α}
    (h : ∀ time, f time = result) : Approximates f result :=
  ⟨fun time _ ha => (h time).symm.trans ha, 0, fun time _ => h time⟩

theorem approximates_const (result : Option α) : Approximates (fun _ => result) result :=
  approximates_of_forall fun _ => rfl

/-- One more step at the beginning. -/
theorem Approximates.succ {f g : Nat → Option α} {result : Option α} (h : Approximates g result)
    (hzero : f 0 = none) (hstep : ∀ time, f (time + 1) = g time) : Approximates f result := by
  obtain ⟨enough, henough⟩ := h.eventually
  refine ⟨fun time a ha => ?_, enough + 1, fun time htime => ?_⟩
  · cases time with
    | zero =>
      rw [hzero] at ha
      cases ha
    | succ time => exact h.sound time a (hstep time ▸ ha)
  · obtain ⟨time, rfl⟩ := Nat.exists_eq_add_of_le' (Nat.le_of_add_left_le htime)
    rw [hstep]
    exact henough time (Nat.le_of_succ_le_succ htime)

/-- One computation after the other. -/
theorem Approximates.bind {f : Nat → Option α} {result : Option α} {g : Nat → α → Option β}
    {result' : α → Option β} (h : Approximates f result)
    (h' : ∀ a, Approximates (fun time => g time a) (result' a)) :
    Approximates (fun time => (f time).bind (g time)) (result.bind result') := by
  obtain ⟨enough, henough⟩ := h.eventually
  constructor
  · intro time b hb
    obtain ⟨a, ha, hb⟩ := Option.bind_eq_some_iff.mp hb
    rw [h.sound time a ha]
    exact (h' a).sound time b hb
  · cases result with
    | none =>
      refine ⟨enough, fun time htime => ?_⟩
      rw [henough time htime]
      rfl
    | some a =>
      obtain ⟨enough', henough'⟩ := (h' a).eventually
      refine ⟨max enough enough', fun time htime => ?_⟩
      rw [henough time (Nat.le_trans (Nat.le_max_left _ _) htime)]
      exact henough' time (Nat.le_trans (Nat.le_max_right _ _) htime)

theorem Approximates.map {f : Nat → Option α} {result : Option α} (h : Approximates f result)
    (g : α → β) : Approximates (fun time => (f time).map g) (result.map g) := by
  rw [Option.map_eq_bind]
  simp only [Option.map_eq_bind]
  exact h.bind fun a => approximates_const (some (g a))

end

/-! ## Streams -/

section

variable {α : Type u} {β : Type v}

/-- A stream that is read: what is left of it, how it will end, and the line that was read last. -/
structure Stream (α : Type u) where
  rest : List α
  fails : Bool
  eof : Bool := false
  bad : Bool := false
  line : List α := []

variable [DecidableEq α]

/-- One line, without the separator behind it. Behind the end of the stream, and behind a failure,
the last line stays what it is. -/
def Stream.getline (separator : α) (is : Stream α) : Stream α :=
  if is.eof || is.bad then is
  else
    match is.rest.dropWhile (· ≠ separator) with
    | [] => { is with line := is.rest, rest := [], eof := !is.fails, bad := is.fails }
    | _ :: rest => { is with line := is.rest.takeWhile (· ≠ separator), rest := rest }

/-- The loop: `while( !eof && !found )`. -/
def search (separator : α) (look : List α → Option β) : Nat → Stream α → Option (Option β)
  | 0, _ => none
  | time + 1, is =>
    if is.eof then some none
    else
      match look (is.getline separator).line with
      | some b => some (some b)
      | none => search separator look time (is.getline separator)

/-- What the loop comes to. -/
def searchResult (separator : α) (look : List α → Option β) (content : List α) (fails : Bool) :
    Option (Option β) :=
  match (content.splitOn separator).findSome? look with
  | some b => some (some b)
  | none => if fails then none else some none

variable {separator : α} {look : List α → Option β}

/-- Behind a failure the loop looks at the same line again and again. -/
theorem search_of_bad {is : Stream α} (hbad : is.bad = true) (heof : is.eof = false)
    (hlook : look is.line = none) (time : Nat) : search separator look time is = none := by
  induction time with
  | zero => rfl
  | succ time ih =>
    have hgetline : is.getline separator = is := by
      rw [Stream.getline, hbad, Bool.or_true, if_pos rfl]
    rw [search, heof, hgetline, hlook]
    exact ih

theorem search_of_eof {is : Stream α} (heof : is.eof = true) (time : Nat) :
    search separator look (time + 1) is = some none := by
  rw [search, if_pos heof]

section

variable {first behind : List α} {fails : Bool} {line : List α}

theorem takeWhile_ne_append (hfirst : separator ∉ first) :
    (first ++ separator :: behind).takeWhile (· ≠ separator) = first := by
  have hall : ∀ c ∈ first, decide (c ≠ separator) = true :=
    fun c hc => decide_eq_true fun heq => hfirst (heq ▸ hc)
  rw [List.takeWhile_append_of_pos hall, List.takeWhile_cons_of_neg (by simp), List.append_nil]

theorem dropWhile_ne_append (hfirst : separator ∉ first) :
    (first ++ separator :: behind).dropWhile (· ≠ separator) = separator :: behind := by
  have hall : ∀ c ∈ first, decide (c ≠ separator) = true :=
    fun c hc => decide_eq_true fun heq => hfirst (heq ▸ hc)
  rw [List.dropWhile_append_of_pos hall, List.dropWhile_cons_of_neg (by simp)]

theorem dropWhile_ne_of_notMem (hfirst : separator ∉ first) :
    first.dropWhile (· ≠ separator) = [] :=
  List.dropWhile_eq_nil_iff.mpr fun _ hc => decide_eq_true fun heq => hfirst (heq ▸ hc)

variable (behind fails line) in
/-- The first line of a stream that has another one. -/
theorem getline_append (hfirst : separator ∉ first) :
    Stream.getline separator { rest := first ++ separator :: behind, fails := fails, line := line } =
      { rest := behind, fails := fails, line := first } := by
  simp only [Stream.getline, dropWhile_ne_append hfirst, takeWhile_ne_append hfirst, Bool.or_self,
    Bool.false_eq_true, if_false]

variable (fails line) in
/-- The last line, and the end of the stream or its failure. -/
theorem getline_last (hfirst : separator ∉ first) :
    Stream.getline separator { rest := first, fails := fails, line := line } =
      { rest := [], fails := fails, eof := !fails, bad := fails, line := first } := by
  simp only [Stream.getline, dropWhile_ne_of_notMem hfirst, Bool.or_self, Bool.false_eq_true,
    if_false]

/-- A line that is found is the end of the loop. -/
theorem search_found {is : Stream α} {b : β} (heof : is.eof = false)
    (hlook : look (is.getline separator).line = some b) :
    Approximates (fun time => search separator look time is) (some (some b)) := by
  refine (approximates_const (some (some b))).succ rfl fun time => ?_
  rw [search, heof, hlook]
  rfl

/-- Behind another line the loop goes on. -/
theorem search_next {is : Stream α} {result : Option (Option β)} (heof : is.eof = false)
    (hlook : look (is.getline separator).line = none)
    (h : Approximates (fun time => search separator look time (is.getline separator)) result) :
    Approximates (fun time => search separator look time is) result := by
  refine h.succ rfl fun time => ?_
  rw [search, heof, hlook]
  rfl

/-- What is left behind the last line is the end of the stream, or the failure that has none behind
it. -/
theorem search_spent (hlook : look first = none) :
    Approximates
      (fun time => search separator look time
        { rest := [], fails := fails, eof := !fails, bad := fails, line := first })
      (if fails then none else some none) := by
  cases fails with
  | true => exact approximates_of_forall (search_of_bad rfl rfl hlook)
  | false => exact (approximates_const (some none)).succ rfl (search_of_eof rfl)

end

/-- **The loop over a stream** finds the first line that it is looking for; if there is none it ends
exactly if the stream does. -/
theorem search_approximates (content : List α) (fails : Bool) (line : List α) :
    Approximates
      (fun time => search separator look time { rest := content, fails := fails, line := line })
      (searchResult separator look content fails) := by
  induction hlength : content.length using Nat.strongRecOn generalizing content line with
  | ind length ih =>
  by_cases hsep : separator ∈ content
  · obtain ⟨first, behind, rfl, hfirst⟩ := List.eq_append_cons_of_mem hsep
    have hline := getline_append behind fails line hfirst
    rw [searchResult, List.splitOn_append_cons_self_of_not_mem hfirst, List.findSome?_cons]
    cases hlook : look first with
    | some b => exact search_found rfl (by rw [hline, hlook])
    | none =>
      have hshorter : behind.length < length := by
        rw [← hlength, List.length_append, List.length_cons]
        omega
      refine search_next rfl (by rw [hline, hlook]) ?_
      rw [hline]
      exact ih behind.length hshorter behind first rfl
  · have hline := getline_last fails line hsep
    rw [searchResult, List.splitOn_eq_singleton hsep, List.findSome?_singleton]
    cases hlook : look content with
    | some b => exact search_found rfl (by rw [hline, hlook])
    | none =>
      refine search_next rfl (by rw [hline, hlook]) ?_
      rw [hline]
      exact search_spent hlook

end

end CLIntercept.Lib
