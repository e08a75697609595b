import CLIntercept.Lib.Run
import Mathlib.Logic.Function.Basic
import Mathlib.Data.List.Perm.Basic

/-!
# Handles that threads share

Objects with reference counts, created, retained and released by any number of threads, and a layer
between the threads and the objects that keeps a set of tracked handles. The handle of a destroyed
object may be given to the next one at once.

A call of the layer is two steps, and the steps of other threads go between them. A creation makes
the object and then tracks it. A release asks for the reference count, forgets the handle if the
answer is 1, and then gives the reference back. A free destroys the object and then forgets its
handle.

`Tracker.Inv` has what holds while calls are in progress, and when none is the tracked handles are
the live ones (`Tracker.Inv.exact`). `Tracker.Inv.step` keeps it in steps in which two things do not
happen: a release destroys its object although it has not seen the last reference, and a free
forgets a handle that is tracked for a new object.
-/

set_option autoImplicit false

namespace CLIntercept.Lib.SharedHandles

universe u v

variable {τ : Type u} {κ : Type v}

/-! ## Threads and references -/

/-- What a thread is in the middle of. A release remembers whether it has seen the last
reference. -/
inductive Pending (κ : Type v)
  | idle
  | creating (k : κ)
  | releasing (k : κ) (sawOne : Bool)
  | freeing (k : κ)
  deriving DecidableEq, Repr

/-- The threads that own a reference to each object, one entry for each reference, and what each
thread is in the middle of. An object is live while it has references. -/
structure Calls (τ : Type u) (κ : Type v) where
  owners : κ → List τ := fun _ => []
  pending : τ → Pending κ := fun _ => .idle

/-- The steps. Creations are `create` and `insert`, releases `check` and `release`, frees `free` and
`erase`; a reference may go to another thread. A check comes with whether its query succeeds. -/
inductive Event (τ : Type u) (κ : Type v)
  | create (t : τ) (k : κ)
  | insert (t : τ)
  | retain (t : τ) (k : κ)
  | handOff (t t' : τ) (k : κ)
  | check (t : τ) (k : κ) (ok : Bool)
  | release (t : τ)
  | free (t : τ) (k : κ)
  | erase (t : τ)
  deriving DecidableEq, Repr

/-- The thread that takes a step. -/
def Event.thread : Event τ κ → τ
  | .create t _ | .insert t | .retain t _ | .handOff t _ _ | .check t _ _ | .release t | .free t _
  | .erase t => t

namespace Calls

/-- No call is in progress. -/
def Quiescent (c : Calls τ κ) : Prop := ∀ t, c.pending t = .idle

def Live (c : Calls τ κ) (k : κ) : Prop := c.owners k ≠ []

instance (c : Calls τ κ) (k : κ) : Decidable (c.Live k) :=
  inferInstanceAs (Decidable (c.owners k ≠ []))

section

variable [DecidableEq κ]

def setOwners (c : Calls τ κ) (k : κ) (ts : List τ) : Calls τ κ :=
  { c with owners := Function.update c.owners k ts }

@[simp] theorem owners_setOwners (c : Calls τ κ) (k k' : κ) (ts : List τ) :
    (c.setOwners k ts).owners k' = if k' = k then ts else c.owners k' :=
  Function.update_apply ..

@[simp] theorem pending_setOwners (c : Calls τ κ) (k : κ) (ts : List τ) :
    (c.setOwners k ts).pending = c.pending := rfl

end

section

variable [DecidableEq τ]

def setPending (c : Calls τ κ) (t : τ) (p : Pending κ) : Calls τ κ :=
  { c with pending := Function.update c.pending t p }

@[simp] theorem owners_setPending (c : Calls τ κ) (t : τ) (p : Pending κ) :
    (c.setPending t p).owners = c.owners := rfl

@[simp] theorem pending_setPending (c : Calls τ κ) (t t' : τ) (p : Pending κ) :
    (c.setPending t p).pending t' = if t' = t then p else c.pending t' :=
  Function.update_apply ..

end

/-- The query of a check answers 1. -/
def SeesOne (c : Calls τ κ) (k : κ) (ok : Bool) : Prop := ok = true ∧ (c.owners k).length = 1

instance (c : Calls τ κ) (k : κ) (ok : Bool) : Decidable (c.SeesOne k ok) :=
  inferInstanceAs (Decidable (_ ∧ _))

variable [DecidableEq τ] [DecidableEq κ]

/-- What a step does to the references and the calls in progress. -/
def step (c : Calls τ κ) : Event τ κ → Calls τ κ
  | .create t k => (c.setOwners k [t]).setPending t (.creating k)
  | .insert t => c.setPending t .idle
  | .retain t k => c.setOwners k (t :: c.owners k)
  | .handOff t t' k => c.setOwners k (t' :: (c.owners k).erase t)
  | .check t k ok => c.setPending t (.releasing k (c.SeesOne k ok))
  | .release t =>
    match c.pending t with
    | .releasing k _ => (c.setOwners k ((c.owners k).erase t)).setPending t .idle
    | _ => c
  | .free t k => (c.setOwners k []).setPending t (.freeing k)
  | .erase t => c.setPending t .idle

/-- A thread takes one step after the other, new objects get handles that are not live, and every
thread retains, hands over, releases and frees what it owns; it frees what it alone owns. -/
def legal (c : Calls τ κ) : Event τ κ → Prop
  | .create t k => c.pending t = .idle ∧ ¬ c.Live k
  | .insert t => ∃ k, c.pending t = .creating k
  | .retain t k | .handOff t _ k | .check t k _ => c.pending t = .idle ∧ t ∈ c.owners k
  | .release t => ∃ k sawOne, c.pending t = .releasing k sawOne
  | .free t k => c.pending t = .idle ∧ c.owners k = [t]
  | .erase t => ∃ k, c.pending t = .freeing k

/-- **The condition on a step.** A release that has not seen the last reference does not give it
back. A free forgets a handle that is not live again, or that a creation will yet track. -/
def Ok (c : Calls τ κ) : Event τ κ → Prop
  | .release t => ∀ k, c.pending t = .releasing k false → c.owners k ≠ [t]
  | .erase t => ∀ k, c.pending t = .freeing k → c.Live k → ∃ t', c.pending t' = .creating k
  | _ => True

end Calls

/-! ## The tracked handles -/

/-- The calls and the handles that the layer tracks. -/
structure Tracker (τ : Type u) (κ : Type v) where
  calls : Calls τ κ := {}
  tracked : κ → Bool := fun _ => false

/-- The tracked handles are the live ones. -/
def Tracker.Exact (s : Tracker τ κ) : Prop := ∀ k, s.tracked k = true ↔ s.calls.Live k

section

variable [DecidableEq τ] [DecidableEq κ]

/-- What a step does to the tracked handles. -/
def Tracker.track (s : Tracker τ κ) : Event τ κ → κ → Bool
  | .insert t =>
    match s.calls.pending t with
    | .creating k => Function.update s.tracked k true
    | _ => s.tracked
  | .check _ k ok => if s.calls.SeesOne k ok then Function.update s.tracked k false else s.tracked
  | .erase t =>
    match s.calls.pending t with
    | .freeing k => Function.update s.tracked k false
    | _ => s.tracked
  | _ => s.tracked

def Tracker.step (s : Tracker τ κ) (e : Event τ κ) : Tracker τ κ where
  calls := s.calls.step e
  tracked := s.track e

/-- Any threads on any objects. -/
def system (τ : Type u) (κ : Type v) [DecidableEq τ] [DecidableEq κ] :
    System (Tracker τ κ) (Event τ κ) where
  step := Tracker.step
  legal s := s.calls.legal

end

/-! ## Who owns what -/

namespace Calls

/-- A thread that is creating an object, or has seen the last reference and is giving it back. -/
def Holds (c : Calls τ κ) (t : τ) (k : κ) : Prop :=
  c.pending t = .creating k ∨ c.pending t = .releasing k true

/-- **Ownership**: a thread that holds an object is its only owner, and one that releases an object
still owns it. -/
structure Inv (c : Calls τ κ) : Prop where
  sole : ∀ t k, c.Holds t k → c.owners k = [t]
  owns : ∀ t k sawOne, c.pending t = .releasing k sawOne → t ∈ c.owners k

/-- Only one thread takes the step, and what others own they still own. -/
structure Frame (t : τ) (c c' : Calls τ κ) : Prop where
  pending : ∀ t', t' ≠ t → c'.pending t' = c.pending t'
  sole : ∀ t' k, t' ≠ t → c.owners k = [t'] → c'.owners k = [t']
  mem : ∀ t' k, t' ≠ t → t' ∈ c.owners k → t' ∈ c'.owners k

/-- Nothing happened. -/
theorem Frame.refl (t : τ) (c : Calls τ κ) : Frame t c c :=
  ⟨fun _ _ => rfl, fun _ _ _ h => h, fun _ _ _ h => h⟩

/-- A step keeps the invariant if the thread that takes it does. -/
theorem Inv.of_frame {c c' : Calls τ κ} (h : c.Inv) {t : τ} (hf : Frame t c c')
    (hsole : ∀ k, c'.Holds t k → c'.owners k = [t])
    (howns : ∀ k sawOne, c'.pending t = .releasing k sawOne → t ∈ c'.owners k) : c'.Inv := by
  refine ⟨fun t' k hholds => ?_, fun t' k sawOne hpending => ?_⟩
  · by_cases ht : t' = t
    · exact ht ▸ hsole k (ht ▸ hholds)
    · rw [Holds, hf.pending t' ht] at hholds
      exact hf.sole t' k ht (h.sole t' k hholds)
  · by_cases ht : t' = t
    · exact ht ▸ howns k sawOne (ht ▸ hpending)
    · rw [hf.pending t' ht] at hpending
      exact hf.mem t' k ht (h.owns t' k sawOne hpending)

/-- What nobody holds after a step nobody held before, if the thread that took it did not. -/
theorem Frame.not_holds {c c' : Calls τ κ} {t : τ} (hf : Frame t c c') {k : κ}
    (ht : ¬ c.Holds t k) (h : ∀ t', ¬ c'.Holds t' k) (t' : τ) : ¬ c.Holds t' k := by
  by_cases heq : t' = t
  · exact heq ▸ ht
  · have := h t'
    rwa [Holds, hf.pending t' heq] at this

/-- Who was freeing a handle still is, but for the thread that took the step. -/
theorem Frame.freeing {c c' : Calls τ κ} {t : τ} (hf : Frame t c c') {k : κ}
    (ht : c.pending t ≠ .freeing k) (h : ∃ t', c.pending t' = .freeing k) :
    ∃ t', c'.pending t' = .freeing k := by
  obtain ⟨t', ht'⟩ := h
  have hne : t' ≠ t := fun heq => ht (heq ▸ ht')
  exact ⟨t', (hf.pending t' hne).trans ht'⟩

section

variable [DecidableEq κ]

/-- An owner that changes its references leaves those of others. -/
theorem frame_setOwners {c : Calls τ κ} {t : τ} {k : κ} (hmem : t ∈ c.owners k) {ts : List τ}
    (hts : ∀ t', t' ≠ t → t' ∈ c.owners k → t' ∈ ts) : Frame t c (c.setOwners k ts) := by
  refine ⟨fun _ _ => rfl, fun t' k' ht hsole => ?_, fun t' k' ht hmem' => ?_⟩
  · have hk : k' ≠ k := fun hk => by
      subst hk
      rw [hsole] at hmem
      exact ht (List.mem_singleton.mp hmem).symm
    simpa [hk] using hsole
  · by_cases hk : k' = k
    · subst hk
      simpa using hts t' ht hmem'
    · simpa [hk] using hmem'

/-- A first owner of a handle that is not live concerns its own thread alone. -/
theorem frame_setOwners_of_not_live {c : Calls τ κ} {k : κ} (hdead : ¬ c.Live k) (t : τ)
    (ts : List τ) : Frame t c (c.setOwners k ts) := by
  have hnil : c.owners k = [] := not_not.mp hdead
  refine ⟨fun _ _ => rfl, fun t' k' _ hsole => ?_, fun t' k' _ hmem => ?_⟩
  · have hk : k' ≠ k := fun hk => nomatch (hk ▸ hsole).symm.trans hnil
    simpa [hk] using hsole
  · have hk : k' ≠ k := fun hk => by simp [hk, hnil] at hmem
    simpa [hk] using hmem

end

section

variable [DecidableEq τ]

/-- A thread may change what it has begun itself. -/
theorem Frame.setPending {c c' : Calls τ κ} {t : τ} (hf : Frame t c c') (p : Pending κ) :
    Frame t c (c'.setPending t p) := by
  refine ⟨fun t' ht => ?_, hf.sole, hf.mem⟩
  rw [pending_setPending, if_neg ht]
  exact hf.pending t' ht

end

variable [DecidableEq τ] [DecidableEq κ]

/-- **An event changes what its own thread may.** -/
theorem frame_step {c : Calls τ κ} (h : c.Inv) (e : Event τ κ) (hl : c.legal e) :
    Frame e.thread c (c.step e) := by
  cases e with
  | create t k => exact (frame_setOwners_of_not_live hl.2 t [t]).setPending _
  | insert t
  | erase t => exact (Frame.refl t c).setPending _
  | retain t k => exact frame_setOwners hl.2 fun t' _ hmem => List.mem_cons_of_mem t hmem
  | handOff t t' k =>
    exact frame_setOwners hl.2 fun t'' hne hmem =>
      List.mem_cons_of_mem t' ((List.mem_erase_of_ne hne).mpr hmem)
  | check t k ok => exact (Frame.refl t c).setPending _
  | release t =>
    obtain ⟨k, sawOne, hpending⟩ := hl
    simp only [step, hpending, Event.thread]
    exact (frame_setOwners (h.owns t k sawOne hpending) fun t' hne hmem =>
      (List.mem_erase_of_ne hne).mpr hmem).setPending _
  | free t k =>
    refine (frame_setOwners (hl.2 ▸ List.mem_singleton_self t) fun t' hne hmem => ?_).setPending _
    rw [hl.2] at hmem
    exact absurd (List.mem_singleton.mp hmem) hne

/-- **Every legal event keeps the calls consistent.** -/
theorem Inv.step {c : Calls τ κ} (h : c.Inv) (e : Event τ κ) (hl : c.legal e) : (c.step e).Inv := by
  refine h.of_frame (frame_step h e hl) (fun k hholds => ?_) fun k sawOne hpending => ?_
  · cases e with
    | create t k' =>
      have hk : k = k' := by simpa [Holds, Calls.step, Event.thread, eq_comm] using hholds
      simp [Calls.step, Event.thread, hk]
    | insert t
    | erase t => simp [Holds, Calls.step, Event.thread] at hholds
    | retain t k'
    | handOff t t' k' =>
      exact absurd hholds (by simp [Holds, Calls.step, Event.thread, hl.1])
    | check t k' ok =>
      have hk : k' = k ∧ c.SeesOne k' ok := by
        simpa [Holds, Calls.step, Event.thread] using hholds
      obtain ⟨rfl, -, hone⟩ := hk
      obtain ⟨t', ht'⟩ := List.length_eq_one_iff.mp hone
      have hmem := hl.2
      rw [ht', List.mem_singleton] at hmem
      simp [Calls.step, Event.thread, ht', hmem]
    | release t =>
      obtain ⟨k', sawOne, hpending⟩ := hl
      simp [Holds, Calls.step, Event.thread, hpending] at hholds
    | free t k' => simp [Holds, Calls.step, Event.thread] at hholds
  · cases e with
    | create t k'
    | insert t
    | erase t
    | free t k' => simp [Calls.step, Event.thread] at hpending
    | retain t k'
    | handOff t t' k' => exact absurd hpending (by simp [Calls.step, Event.thread, hl.1])
    | check t k' ok =>
      have hk : k' = k := by
        have := hpending
        simp only [Calls.step, Event.thread, pending_setPending, if_true, Pending.releasing.injEq]
          at this
        exact this.1
      exact hk ▸ hl.2
    | release t =>
      obtain ⟨k', sawOne', hpending'⟩ := hl
      simp [Calls.step, Event.thread, hpending'] at hpending

end Calls

/-! ## What is tracked -/

/-- **The invariant** between calls: a live handle that nobody holds is tracked, a tracked one is
live unless it is about to be forgotten, one that was forgotten for a release stays so,
and one that a creation will yet track is tracked only if it is about to be forgotten. -/
structure Tracker.Inv (s : Tracker τ κ) : Prop where
  calls : s.calls.Inv
  tracked : ∀ k, s.calls.Live k → (∀ t, ¬ s.calls.Holds t k) → s.tracked k = true
  live : ∀ k, s.tracked k = true → s.calls.Live k ∨ ∃ t, s.calls.pending t = .freeing k
  forgotten : ∀ t k, s.calls.pending t = .releasing k true → s.tracked k = false
  fresh : ∀ t k, s.calls.pending t = .creating k → s.tracked k = true →
    ∃ t', s.calls.pending t' = .freeing k

/-- Between calls nobody holds anything and nobody frees. -/
theorem Tracker.Inv.exact {s : Tracker τ κ} (h : s.Inv) (hquiet : s.calls.Quiescent) : s.Exact := by
  refine fun k => ⟨fun htracked => ?_, fun hlive => h.tracked k hlive fun t hholds => ?_⟩
  · refine (h.live k htracked).resolve_right fun ⟨t, ht⟩ => ?_
    exact nomatch (hquiet t).symm.trans ht
  · rcases hholds with hp | hp <;> exact nomatch (hquiet t).symm.trans hp

/-- Where the tracked handles and the live ones stay as they are, and the thread that takes the step
neither held nor freed anything nor holds anything now. -/
theorem Tracker.Inv.of_same {s s' : Tracker τ κ} (h : s.Inv) {t : τ} (hcalls : s'.calls.Inv)
    (hf : Calls.Frame t s.calls s'.calls) (htracked : s'.tracked = s.tracked)
    (hlive : ∀ k, s'.calls.Live k ↔ s.calls.Live k) (hholds : ∀ k, ¬ s.calls.Holds t k)
    (hfreeing : ∀ k, s.calls.pending t ≠ .freeing k)
    (hholds' : ∀ k, ¬ s'.calls.Holds t k) : s'.Inv := by
  refine ⟨hcalls, fun k hk hfree => ?_, fun k hk => ?_, fun t' k hpending => ?_,
    fun t' k hpending hk => ?_⟩
  · rw [htracked]
    exact h.tracked k ((hlive k).mp hk) (hf.not_holds (hholds k) hfree)
  · rw [htracked] at hk
    exact (h.live k hk).imp (hlive k).mpr (hf.freeing (hfreeing k))
  · have hne : t' ≠ t := fun heq => hholds' k (.inr (heq ▸ hpending))
    rw [hf.pending t' hne] at hpending
    rw [htracked]
    exact h.forgotten t' k hpending
  · have hne : t' ≠ t := fun heq => hholds' k (.inl (heq ▸ hpending))
    rw [hf.pending t' hne] at hpending
    rw [htracked] at hk
    exact hf.freeing (hfreeing k) (h.fresh t' k hpending hk)

/-- What an idle thread is not in the middle of. -/
theorem Calls.of_idle {c : Calls τ κ} {t : τ} (ht : c.pending t = .idle) :
    (∀ k, ¬ c.Holds t k) ∧ ∀ k, c.pending t ≠ .freeing k := by
  simp [Calls.Holds, ht]

/-- Before any call. -/
theorem Tracker.inv_initial : ({} : Tracker τ κ).Inv :=
  ⟨⟨fun _ _ h => h.elim (fun h => (nomatch h)) fun h => (nomatch h), fun _ _ _ h => (nomatch h)⟩,
    fun _ h => absurd rfl h, fun _ h => (nomatch h), fun _ _ h => (nomatch h),
    fun _ _ h => (nomatch h)⟩

/-- An owner that takes or hands over references keeps the object live. -/
theorem Tracker.Inv.setOwners [DecidableEq κ] {s s' : Tracker τ κ} (h : s.Inv) {t : τ} {k : κ}
    (hidle : s.calls.pending t = .idle) (hmem : t ∈ s.calls.owners k) (hcalls : s'.calls.Inv)
    (hf : Calls.Frame t s.calls s'.calls) {ts : List τ} (hts : ts ≠ [])
    (hs' : s' = { s with calls := s.calls.setOwners k ts }) : s'.Inv := by
  obtain ⟨hholds, hfreeing⟩ := Calls.of_idle hidle
  subst hs'
  refine h.of_same hcalls hf rfl (fun k' => ?_) hholds hfreeing (by simp [Calls.Holds, hidle])
  by_cases heq : k' = k
  · simp [Calls.Live, heq, hts, List.ne_nil_of_mem hmem]
  · simp [Calls.Live, heq]

variable [DecidableEq τ] [DecidableEq κ]

/-- A handle that is created is not tracked yet. -/
theorem Tracker.Inv.create {s : Tracker τ κ} (h : s.Inv) {t : τ} {k : κ}
    (hl : s.calls.legal (.create t k)) : (s.step (.create t k)).Inv := by
  have hf : Calls.Frame t s.calls (s.step (.create t k)).calls := Calls.frame_step h.calls _ hl
  obtain ⟨hholds, hfreeing⟩ := Calls.of_idle hl.1
  refine ⟨h.calls.step _ hl, fun k' hk' hfree => ?_, fun k' hk' => ?_, fun t' k' hpending => ?_,
    fun t' k' hpending hk' => ?_⟩
  · have hk : k' ≠ k := fun hk => hfree t (.inl (by simp [Tracker.step, Calls.step, hk]))
    have hlive : s.calls.Live k' := by simpa [Tracker.step, Calls.step, Calls.Live, hk] using hk'
    exact h.tracked k' hlive (hf.not_holds (hholds k') hfree)
  · by_cases hk : k' = k
    · exact .inl (by simp [Tracker.step, Calls.step, Calls.Live, hk])
    · refine (h.live k' hk').imp (fun hlive => ?_) (hf.freeing (hfreeing k'))
      simpa [Tracker.step, Calls.step, Calls.Live, hk] using hlive
  · have hne : t' ≠ t := fun heq => by simp [Tracker.step, Calls.step, heq] at hpending
    rw [hf.pending t' hne] at hpending
    exact h.forgotten t' k' hpending
  · refine hf.freeing (hfreeing k') ?_
    by_cases hne : t' = t
    · -- The object is new, so what tracks its handle is about to forget it.
      have hk : k = k' := by simpa [Tracker.step, Calls.step, hne] using hpending
      exact (h.live k' hk').resolve_left (hk ▸ hl.2)
    · rw [hf.pending t' hne] at hpending
      exact h.fresh t' k' hpending hk'

/-- With its insertion it is. -/
theorem Tracker.Inv.insert {s : Tracker τ κ} (h : s.Inv) {t : τ}
    (hl : s.calls.legal (.insert t)) : (s.step (.insert t)).Inv := by
  have hf : Calls.Frame t s.calls (s.step (.insert t)).calls := Calls.frame_step h.calls _ hl
  have hcalls := h.calls.step _ hl
  obtain ⟨k, hk⟩ := hl
  have hsole : s.calls.owners k = [t] := h.calls.sole t k (.inl hk)
  have htrack : (s.step (.insert t)).tracked = Function.update s.tracked k true := by
    simp [Tracker.step, Tracker.track, hk]
  have hlive : ∀ k', (s.step (.insert t)).calls.Live k' ↔ s.calls.Live k' := fun _ => Iff.rfl
  -- Two threads do not hold one object.
  have hother : ∀ t' k', t' ≠ t → s.calls.Holds t' k' → k' ≠ k := fun t' k' hne hholds heq => by
    have hsole' := h.calls.sole t' k' hholds
    rw [heq, hsole] at hsole'
    exact hne (List.singleton_inj.mp hsole').symm
  refine ⟨hcalls, fun k' hk' hfree => ?_, fun k' hk' => ?_, fun t' k' hpending => ?_,
    fun t' k' hpending hk' => ?_⟩
  · rw [htrack]
    by_cases heq : k' = k
    · rw [heq, Function.update_self]
    · rw [Function.update_of_ne heq]
      refine h.tracked k' ((hlive k').mp hk') (hf.not_holds ?_ hfree)
      simp [Calls.Holds, hk, Ne.symm heq]
  · by_cases heq : k' = k
    · exact .inl (by simp [Tracker.step, Calls.step, Calls.Live, heq, hsole])
    · rw [htrack, Function.update_of_ne heq] at hk'
      exact (h.live k' hk').imp (hlive k').mpr (hf.freeing (by simp [hk]))
  · have hne : t' ≠ t := fun heq => by simp [Tracker.step, Calls.step, heq] at hpending
    rw [hf.pending t' hne] at hpending
    rw [htrack, Function.update_of_ne (hother t' k' hne (.inr hpending))]
    exact h.forgotten t' k' hpending
  · have hne : t' ≠ t := fun heq => by simp [Tracker.step, Calls.step, heq] at hpending
    rw [hf.pending t' hne] at hpending
    rw [htrack, Function.update_of_ne (hother t' k' hne (.inl hpending))] at hk'
    exact hf.freeing (by simp [hk]) (h.fresh t' k' hpending hk')

/-- The check before a release changes nothing. -/
theorem Tracker.Inv.check {s : Tracker τ κ} (h : s.Inv) {t : τ} {k : κ} {ok : Bool}
    (hl : s.calls.legal (.check t k ok)) : (s.step (.check t k ok)).Inv := by
  have hf : Calls.Frame t s.calls (s.step (.check t k ok)).calls := Calls.frame_step h.calls _ hl
  have hcalls := h.calls.step _ hl
  obtain ⟨hholds, hfreeing⟩ := Calls.of_idle hl.1
  by_cases hone : s.calls.SeesOne k ok
  · have htrack : (s.step (.check t k ok)).tracked = Function.update s.tracked k false := by
      simp [Tracker.step, Tracker.track, hone]
    refine ⟨hcalls, fun k' hk' hfree => ?_, fun k' hk' => ?_, fun t' k' hpending => ?_,
      fun t' k' hpending hk' => ?_⟩
    · have heq : k' ≠ k := fun heq =>
        hfree t (.inr (by simp [Tracker.step, Calls.step, heq, hone]))
      rw [htrack, Function.update_of_ne heq]
      exact h.tracked k' hk' (hf.not_holds (hholds k') hfree)
    · have heq : k' ≠ k := fun heq => by simp [htrack, heq] at hk'
      rw [htrack, Function.update_of_ne heq] at hk'
      exact (h.live k' hk').imp id (hf.freeing (hfreeing k'))
    · rw [htrack]
      by_cases heq : k' = k
      · rw [heq, Function.update_self]
      · rw [Function.update_of_ne heq]
        have hne : t' ≠ t := fun ht => by
          simp [Tracker.step, Calls.step, ht, Ne.symm heq] at hpending
        rw [hf.pending t' hne] at hpending
        exact h.forgotten t' k' hpending
    · have heq : k' ≠ k := fun heq => by simp [htrack, heq] at hk'
      have hne : t' ≠ t := fun ht => by simp [Tracker.step, Calls.step, ht] at hpending
      rw [hf.pending t' hne] at hpending
      rw [htrack, Function.update_of_ne heq] at hk'
      exact hf.freeing (hfreeing k') (h.fresh t' k' hpending hk')
  · exact h.of_same hcalls hf (by simp [Tracker.step, Tracker.track, hone]) (fun _ => Iff.rfl)
      hholds hfreeing (by simp [Tracker.step, Calls.step, Calls.Holds, hone])

/-- A release that is the last one has its erasure ahead. -/
theorem Tracker.Inv.release {s : Tracker τ κ} (h : s.Inv) {t : τ}
    (hl : s.calls.legal (.release t)) (hok : s.calls.Ok (.release t)) :
    (s.step (.release t)).Inv := by
  have hf : Calls.Frame t s.calls (s.step (.release t)).calls := Calls.frame_step h.calls _ hl
  have hcalls := h.calls.step _ hl
  obtain ⟨k, sawOne, hpending⟩ := hl
  have hmem := h.calls.owns t k sawOne hpending
  have howners : ∀ k', (s.step (.release t)).calls.owners k' =
      if k' = k then (s.calls.owners k).erase t else s.calls.owners k' := fun k' => by
    simp [Tracker.step, Calls.step, hpending]
  cases sawOne with
  | false =>
    -- Another reference is left.
    have hleft : (s.calls.owners k).erase t ≠ [] := fun hnil => by
      rcases List.erase_eq_nil_iff.mp hnil with hnil | hsole
      · exact absurd (hnil ▸ hmem) List.not_mem_nil
      · exact hok k hpending hsole
    refine h.of_same hcalls hf rfl (fun k' => ?_) (by simp [Calls.Holds, hpending])
      (by simp [hpending]) (by simp [Tracker.step, Calls.step, Calls.Holds, hpending])
    unfold Calls.Live
    rw [howners]
    split
    · next heq => exact iff_of_true hleft (heq ▸ List.ne_nil_of_mem hmem)
    · exact Iff.rfl
  | true =>
    -- The object is destroyed, and was forgotten.
    have hsole : s.calls.owners k = [t] := h.calls.sole t k (.inr hpending)
    have hnil : (s.step (.release t)).calls.owners k = [] := by simp [howners, hsole]
    refine ⟨hcalls, fun k' hk' hfree => ?_, fun k' hk' => ?_, fun t' k' hpending' => ?_,
      fun t' k' hpending' hk' => ?_⟩
    · have heq : k' ≠ k := fun heq => hk' (heq ▸ hnil)
      have hlive : s.calls.Live k' := by rwa [Calls.Live, howners, if_neg heq] at hk'
      refine h.tracked k' hlive (hf.not_holds ?_ hfree)
      simp [Calls.Holds, hpending, Ne.symm heq]
    · have hk'' : s.tracked k' = true := hk'
      have heq : k' ≠ k := fun heq => by simp [heq, h.forgotten t k hpending] at hk''
      refine (h.live k' hk'').imp (fun hlive => ?_) (hf.freeing (by simp [hpending]))
      rwa [Calls.Live, howners, if_neg heq]
    · have hne : t' ≠ t := fun heq => by
        simp [Tracker.step, Calls.step, heq, hpending] at hpending'
      rw [hf.pending t' hne] at hpending'
      exact h.forgotten t' k' hpending'
    · have hne : t' ≠ t := fun heq => by
        simp [Tracker.step, Calls.step, heq, hpending] at hpending'
      rw [hf.pending t' hne] at hpending'
      exact hf.freeing (by simp [hpending]) (h.fresh t' k' hpending' hk')

/-- A handle that is freed may come back. -/
theorem Tracker.Inv.free {s : Tracker τ κ} (h : s.Inv) {t : τ} {k : κ}
    (hl : s.calls.legal (.free t k)) : (s.step (.free t k)).Inv := by
  have hf : Calls.Frame t s.calls (s.step (.free t k)).calls := Calls.frame_step h.calls _ hl
  obtain ⟨hholds, hfreeing⟩ := Calls.of_idle hl.1
  refine ⟨h.calls.step _ hl, fun k' hk' hfree => ?_, fun k' hk' => ?_, fun t' k' hpending => ?_,
    fun t' k' hpending hk' => ?_⟩
  · have heq : k' ≠ k := fun heq => hk' (by simp [Tracker.step, Calls.step, heq])
    have hlive : s.calls.Live k' := by simpa [Tracker.step, Calls.step, Calls.Live, heq] using hk'
    exact h.tracked k' hlive (hf.not_holds (hholds k') hfree)
  · by_cases heq : k' = k
    · exact .inr ⟨t, by simp [Tracker.step, Calls.step, heq]⟩
    · refine (h.live k' hk').imp (fun hlive => ?_) (hf.freeing (hfreeing k'))
      simpa [Tracker.step, Calls.step, Calls.Live, heq] using hlive
  · have hne : t' ≠ t := fun heq => by simp [Tracker.step, Calls.step, heq] at hpending
    rw [hf.pending t' hne] at hpending
    exact h.forgotten t' k' hpending
  · have hne : t' ≠ t := fun heq => by simp [Tracker.step, Calls.step, heq] at hpending
    rw [hf.pending t' hne] at hpending
    exact hf.freeing (hfreeing k') (h.fresh t' k' hpending hk')

/-- The erasure takes out the handle that it was meant for. -/
theorem Tracker.Inv.erase {s : Tracker τ κ} (h : s.Inv) {t : τ} (hl : s.calls.legal (.erase t))
    (hok : s.calls.Ok (.erase t)) : (s.step (.erase t)).Inv := by
  have hf : Calls.Frame t s.calls (s.step (.erase t)).calls := Calls.frame_step h.calls _ hl
  have hcalls := h.calls.step _ hl
  obtain ⟨k, hk⟩ := hl
  have htrack : (s.step (.erase t)).tracked = Function.update s.tracked k false := by
    simp [Tracker.step, Tracker.track, hk]
  refine ⟨hcalls, fun k' hk' hfree => ?_, fun k' hk' => ?_, fun t' k' hpending => ?_,
    fun t' k' hpending hk' => ?_⟩
  · have heq : k' ≠ k := fun heq => by
      -- The handle is that of an object whose creation will track it.
      subst heq
      obtain ⟨t', ht'⟩ := hok k' hk hk'
      have hne : t' ≠ t := fun heq => by simp [heq, hk] at ht'
      exact hfree t' (.inl ((hf.pending t' hne).trans ht'))
    rw [htrack, Function.update_of_ne heq]
    exact h.tracked k' hk' (hf.not_holds (by simp [Calls.Holds, hk]) hfree)
  · have heq : k' ≠ k := fun heq => by simp [htrack, heq] at hk'
    rw [htrack, Function.update_of_ne heq] at hk'
    exact (h.live k' hk').imp id (hf.freeing (by simp [hk, Ne.symm heq]))
  · rw [htrack]
    by_cases heq : k' = k
    · rw [heq, Function.update_self]
    · rw [Function.update_of_ne heq]
      have hne : t' ≠ t := fun ht => by simp [Tracker.step, Calls.step, ht] at hpending
      rw [hf.pending t' hne] at hpending
      exact h.forgotten t' k' hpending
  · have heq : k' ≠ k := fun heq => by simp [htrack, heq] at hk'
    have hne : t' ≠ t := fun ht => by simp [Tracker.step, Calls.step, ht] at hpending
    rw [hf.pending t' hne] at hpending
    rw [htrack, Function.update_of_ne heq] at hk'
    exact hf.freeing (by simp [hk, Ne.symm heq]) (h.fresh t' k' hpending hk')

/-- **A step that meets its condition keeps the invariant.** -/
theorem Tracker.Inv.step {s : Tracker τ κ} (h : s.Inv) (e : Event τ κ) (hl : s.calls.legal e)
    (hok : s.calls.Ok e) : (s.step e).Inv := by
  have hcalls : (s.step e).calls.Inv := h.calls.step e hl
  have hf : Calls.Frame e.thread s.calls (s.step e).calls := Calls.frame_step h.calls e hl
  cases e with
  | create t k => exact h.create hl
  | insert t => exact h.insert hl
  | retain t k => exact h.setOwners hl.1 hl.2 hcalls hf (List.cons_ne_nil _ _) rfl
  | handOff t t' k => exact h.setOwners hl.1 hl.2 hcalls hf (List.cons_ne_nil _ _) rfl
  | check t k ok => exact h.check hl
  | release t => exact h.release hl hok
  | free t k => exact h.free hl
  | erase t => exact h.erase hl hok

end CLIntercept.Lib.SharedHandles
