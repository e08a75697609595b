import Mathlib.Algebra.Group.Nat.Defs
import Mathlib.Data.List.Dedup
import Mathlib.Data.List.Induction
import Mathlib.Order.Basic

/-!
# The law of unique captures

Enqueues come one after the other, each with a key. Some are to be skipped, so many are to be
captured, and no key twice. `Lawful` says what is expected of the captures, and of a set that the
keys are put into.

There are two ways to be told which enqueues that is. Captures that are picked by the position of
their enqueue follow the law exactly when counting enqueues is counting keys
(`lawful_iff_countsDistinct`). Where a key is put into the set before it is known whether it is
captured, the law holds exactly when every key is counted (`lawful_iff_allCounted`).
-/

set_option autoImplicit false

namespace CLIntercept.Capture

universe u v

/-! ## The law -/

section

variable {α : Type u} {κ : Type v} (key : α → κ)

/-- The keys that were captured, of enqueues with whether each of them was. -/
def capturedKeys (history : List (α × Bool)) : List κ :=
  (history.filter Prod.snd).map fun o => key o.1

/-- **Captures as they are expected**, for the set of keys that is kept and the enqueues that no
other control keeps out, in their order. -/
structure Lawful (skip capture : Nat) (set : List κ) (history : List (α × Bool)) : Prop where
  recorded : ∀ k, k ∈ set ↔ k ∈ capturedKeys key history
  once : (capturedKeys key history).Nodup
  taken : ∀ before e captured, before ++ [(e, captured)] <+: history → skip ≤ before.length →
    key e ∉ capturedKeys key before → (capturedKeys key before).length < capture → captured = true
  atMost : (capturedKeys key history).length ≤ capture

end

/-! ## Which enqueues are captured as expected -/

section

variable {κ : Type v} [DecidableEq κ]

/-- The first different keys, as many as are asked for. -/
def firsts (capture : Nat) (keys : List κ) : List κ :=
  keys.foldl
    (fun found k => if k ∈ found ∨ capture ≤ found.length then found else found ++ [k]) []

/-- **Counting enqueues is counting keys**: after the skipped ones, an enqueue whose key is not
among the first different ones comes within as many enqueues as are to be captured exactly when
fewer different keys have come. -/
def CountsDistinct (skip capture : Nat) (keys : List κ) : Prop :=
  ∀ before k, before ++ [k] <+: keys → skip ≤ before.length →
    k ∉ firsts capture (before.drop skip) →
    ((before.length - skip) % 2 ^ 32 < capture ↔
      (firsts capture (before.drop skip)).length < capture)

/-- **Every key is counted**: none is skipped, and no more different ones come than are to be
captured. Only a new key with a kernel is ever skipped. -/
def AllCounted {α : Type u} (key : α → κ) (hasKernel : α → Prop) (skip capture : Nat)
    (es : List α) : Prop :=
  (skip = 0 ∨ ∀ before e, before ++ [e] <+: es → hasKernel e → key e ∈ before.map key) ∧
    (es.map key).dedup.length ≤ capture

end

/-! ## Captures that are picked by their position -/

section

variable {α : Type u} {κ : Type v} {key : α → κ}

@[simp] theorem capturedKeys_nil : capturedKeys key [] = [] := rfl

/-- The captures of two histories, one behind the other. -/
theorem capturedKeys_append (history history' : List (α × Bool)) :
    capturedKeys key (history ++ history') =
      capturedKeys key history ++ capturedKeys key history' := by
  rw [capturedKeys, List.filter_append, List.map_append]
  rfl

@[simp] theorem capturedKeys_concat_true (history : List (α × Bool)) (e : α) :
    capturedKeys key (history ++ [(e, true)]) = capturedKeys key history ++ [key e] :=
  capturedKeys_append _ _

@[simp] theorem capturedKeys_concat_false (history : List (α × Bool)) (e : α) :
    capturedKeys key (history ++ [(e, false)]) = capturedKeys key history := by
  rw [capturedKeys_append]
  exact List.append_nil _

/-- A longer history has captured what the shorter one had. -/
theorem capturedKeys_mono {history history' : List (α × Bool)} (h : history <+: history') :
    capturedKeys key history <+: capturedKeys key history' := by
  obtain ⟨rest, rfl⟩ := h
  rw [capturedKeys_append]
  exact List.prefix_append _ _

/-- A prefix that ends is the whole, or a prefix of what was before. -/
theorem concat_prefix_concat {l l' : List α} {a a' : α} (h : l' ++ [a'] <+: l ++ [a]) :
    (l' = l ∧ a' = a) ∨ l' ++ [a'] <+: l := by
  rcases List.prefix_concat_iff.mp h with heq | h
  · obtain ⟨hinit, hlast⟩ := List.append_inj' heq rfl
    exact .inl ⟨hinit, List.singleton_inj.mp hlast⟩
  · exact .inr h

/-- An enqueue is captured where the position is open and its key was not captured before. -/
def Picks (key : α → κ) (isOpen : Nat → Prop) (history : List (α × Bool)) : Prop :=
  ∀ before e captured, before ++ [(e, captured)] <+: history →
    (captured = true ↔ isOpen before.length ∧ key e ∉ capturedKeys key before)

/-- A history is picked as it should be, if its last element is. -/
theorem Picks.concat {isOpen : Nat → Prop} {history : List (α × Bool)} {e : α} {captured : Bool}
    (h : Picks key isOpen history)
    (h' : captured = true ↔ isOpen history.length ∧ key e ∉ capturedKeys key history) :
    Picks key isOpen (history ++ [(e, captured)]) := by
  intro before e' captured' hbefore
  rcases concat_prefix_concat hbefore with ⟨rfl, hlast⟩ | hbefore
  · obtain ⟨rfl, rfl⟩ := Prod.mk.inj hlast
    exact h'
  · exact h before e' captured' hbefore

/-- A part of a history was picked as well. -/
theorem Picks.init {isOpen : Nat → Prop} {history history' : List (α × Bool)}
    (h : Picks key isOpen history') (hinit : history <+: history') : Picks key isOpen history :=
  fun before e captured hbefore => h before e captured (hbefore.trans hinit)

/-- What is picked is picked once. -/
theorem Picks.nodup {isOpen : Nat → Prop} {history : List (α × Bool)}
    (h : Picks key isOpen history) : (capturedKeys key history).Nodup := by
  induction history using List.reverseRecOn with
  | nil => exact List.nodup_nil
  | append_singleton history o ih =>
    obtain ⟨e, captured⟩ := o
    have hnodup := ih (h.init (List.prefix_append _ _))
    cases captured with
    | true =>
      obtain ⟨_, hnew⟩ := (h history e true List.prefix_rfl).mp rfl
      rw [capturedKeys_concat_true, List.nodup_append_comm]
      exact List.nodup_cons.mpr ⟨hnew, hnodup⟩
    | false => rwa [capturedKeys_concat_false]

variable (key) in
/-- The keys behind the skipped enqueues. -/
def keysAfter (skip : Nat) (history : List (α × Bool)) : List κ :=
  (history.map fun o => key o.1).drop skip

/-- Behind the skipped ones every element counts. -/
theorem keysAfter_concat {skip : Nat} {history : List (α × Bool)} (h : skip ≤ history.length)
    (e : α) (captured : Bool) :
    keysAfter key skip (history ++ [(e, captured)]) = keysAfter key skip history ++ [key e] := by
  rw [keysAfter, List.map_append, List.drop_append_of_le_length (by simpa using h)]
  rfl

/-- Among the skipped ones none does. -/
theorem keysAfter_of_le {skip : Nat} {history : List (α × Bool)} (h : history.length ≤ skip) :
    keysAfter key skip history = [] :=
  List.drop_eq_nil_of_le (by simpa using h)

variable [DecidableEq κ]

/-- A new key is a first one while there is room. -/
theorem firsts_concat (capture : Nat) (keys : List κ) (k : κ) :
    firsts capture (keys ++ [k]) =
      if k ∈ firsts capture keys ∨ capture ≤ (firsts capture keys).length then
        firsts capture keys
      else firsts capture keys ++ [k] := by
  rw [firsts, List.foldl_append]
  rfl

/-- There are no more first keys than keys. -/
theorem length_firsts_le_length (capture : Nat) (keys : List κ) :
    (firsts capture keys).length ≤ keys.length := by
  induction keys using List.reverseRecOn with
  | nil => exact Nat.le_refl 0
  | append_singleton keys k ih =>
    rw [firsts_concat, List.length_append]
    split
    · omega
    · rw [List.length_append]
      omega

/-- There are no more first keys than are to be captured. -/
theorem length_firsts_le (capture : Nat) (keys : List κ) :
    (firsts capture keys).length ≤ capture := by
  induction keys using List.reverseRecOn with
  | nil => exact Nat.zero_le _
  | append_singleton keys k ih =>
    rw [firsts_concat]
    split
    · exact ih
    · next hfound =>
      rw [List.length_append, List.length_singleton]
      omega

/-- As many enqueues as are to be captured may all be of different keys. -/
theorem countsDistinct_of_length_le {capture : Nat} {keys : List κ} (hcapture : capture ≤ 2 ^ 32)
    (h : keys.length ≤ capture) : CountsDistinct 0 capture keys := by
  intro before k hprefix _ _
  have hlength : before.length + 1 ≤ keys.length := by
    simpa only [List.length_append, List.length_singleton] using hprefix.length_le
  have hfirsts := length_firsts_le_length capture before
  rw [List.drop_zero, Nat.sub_zero, Nat.mod_eq_of_lt (by omega)]
  omega

variable (key) in
/-- Each of the first different keys is captured where it comes first, and nothing else. -/
def TakesFirsts (skip capture : Nat) (history : List (α × Bool)) : Prop :=
  ∀ before e captured, before ++ [(e, captured)] <+: history →
    (captured = true ↔ skip ≤ before.length ∧ key e ∉ firsts capture (keysAfter key skip before) ∧
      (firsts capture (keysAfter key skip before)).length < capture)

/-- A part of a history took its first ones too. -/
theorem TakesFirsts.init {skip capture : Nat} {history history' : List (α × Bool)}
    (h : TakesFirsts key skip capture history') (hinit : history <+: history') :
    TakesFirsts key skip capture history :=
  fun before e captured hbefore => h before e captured (hbefore.trans hinit)

/-- What is captured are then the first different keys. -/
theorem TakesFirsts.capturedKeys {skip capture : Nat} {history : List (α × Bool)}
    (h : TakesFirsts key skip capture history) :
    capturedKeys key history = firsts capture (keysAfter key skip history) := by
  induction history using List.reverseRecOn with
  | nil => rw [capturedKeys_nil, keysAfter_of_le (Nat.zero_le _)]; rfl
  | append_singleton history o ih =>
    obtain ⟨e, captured⟩ := o
    have hkeys := ih (h.init (List.prefix_append _ _))
    have hlast := h history e captured List.prefix_rfl
    by_cases hskip : skip ≤ history.length
    · rw [keysAfter_concat hskip, firsts_concat]
      by_cases hfound : key e ∈ firsts capture (keysAfter key skip history) ∨
          capture ≤ (firsts capture (keysAfter key skip history)).length
      · have hnot : captured = false := by
          rw [← Bool.not_eq_true, hlast]
          rintro ⟨_, hnew, hroom⟩
          exact hfound.elim hnew (Nat.not_le.mpr hroom)
        rw [if_pos hfound, hnot, capturedKeys_concat_false, hkeys]
      · obtain ⟨hnew, hroom⟩ := not_or.mp hfound
        have htaken : captured = true := hlast.mpr ⟨hskip, hnew, Nat.not_le.mp hroom⟩
        rw [if_neg hfound, htaken, capturedKeys_concat_true, hkeys]
    · have hnot : captured = false := by
        rw [← Bool.not_eq_true, hlast]
        exact fun hcaptured => hskip hcaptured.1
      have hlength : (history ++ [(e, captured)]).length ≤ skip := by
        rw [List.length_append, List.length_singleton]
        omega
      rw [keysAfter_of_le hlength, hnot, capturedKeys_concat_false, hkeys,
        keysAfter_of_le (Nat.le_of_not_le hskip)]

/-- **It is enough to look at each decision, the captures so far being right.** -/
theorem TakesFirsts.of_steps {skip capture : Nat} {history : List (α × Bool)}
    (h : ∀ before e captured, before ++ [(e, captured)] <+: history →
      Capture.capturedKeys key before = firsts capture (keysAfter key skip before) →
        (captured = true ↔ skip ≤ before.length ∧
          key e ∉ firsts capture (keysAfter key skip before) ∧
            (firsts capture (keysAfter key skip before)).length < capture)) :
    TakesFirsts key skip capture history := by
  induction history using List.reverseRecOn with
  | nil =>
    intro before e captured hbefore
    exact absurd (List.prefix_nil.mp hbefore) (by simp)
  | append_singleton history o ih =>
    have hinit := ih fun before e captured hbefore =>
      h before e captured (hbefore.trans (List.prefix_append _ _))
    intro before e captured hbefore
    rcases concat_prefix_concat hbefore with ⟨rfl, _⟩ | hbefore'
    · exact h before e captured hbefore hinit.capturedKeys
    · exact hinit before e captured hbefore'

variable {skip capture : Nat} {set : List κ} {history : List (α × Bool)}

/-- The law, of captures that are picked by their position, is that the first different keys are
taken. -/
theorem lawful_iff_takesFirsts {isOpen : Nat → Prop} (hopen : ∀ n, isOpen n → skip ≤ n)
    (hset : ∀ k, k ∈ set ↔ k ∈ capturedKeys key history) (hpicks : Picks key isOpen history) :
    Lawful key skip capture set history ↔ TakesFirsts key skip capture history := by
  constructor
  · intro hlaw
    refine .of_steps fun before e captured hprefix hfirsts => ?_
    rw [← hfirsts]
    constructor
    · intro hcaptured
      obtain ⟨hslot, hnew⟩ := (hpicks before e captured hprefix).mp hcaptured
      have hcount :=
        Nat.le_trans (capturedKeys_mono hprefix).length_le hlaw.atMost
      rw [hcaptured, capturedKeys_concat_true, List.length_append, List.length_singleton] at hcount
      exact ⟨hopen _ hslot, hnew, hcount⟩
    · rintro ⟨hskip, hnew, hroom⟩
      exact hlaw.taken before e captured hprefix hskip hnew hroom
  · intro htakes
    refine ⟨hset, hpicks.nodup, fun before e captured hbefore hskip hnew hroom => ?_, ?_⟩
    · have hinit := htakes.init ((List.prefix_append _ _).trans hbefore)
      rw [hinit.capturedKeys] at hnew hroom
      exact (htakes before e captured hbefore).mpr ⟨hskip, hnew, hroom⟩
    · rw [htakes.capturedKeys]
      exact length_firsts_le _ _

/-- With a counter of 32 bits for the enqueues after the skipped ones. -/
theorem takesFirsts_iff_countsDistinct
    (hpicks : Picks key (fun n => skip ≤ n ∧ (n - skip) % 2 ^ 32 < capture) history) :
    TakesFirsts key skip capture history ↔
      CountsDistinct skip capture (history.map fun o => key o.1) := by
  constructor
  · intro htakes before k hbefore hskip hnew
    obtain ⟨all, hall, heq⟩ := List.prefix_map_iff.mp hbefore
    obtain ⟨init, last, rfl, rfl, hlast⟩ := List.map_eq_append_iff.mp heq.symm
    obtain ⟨⟨e, captured⟩, rfl, rfl⟩ := List.map_eq_singleton_iff.mp hlast
    rw [List.length_map] at hskip ⊢
    have hinit := htakes.init ((List.prefix_append _ _).trans hall)
    have hpick := hpicks init e captured hall
    rw [hinit.capturedKeys, htakes init e captured hall] at hpick
    exact ⟨fun hroom => (hpick.mpr ⟨⟨hskip, hroom⟩, hnew⟩).2.2,
      fun hroom => (hpick.mp ⟨hskip, hnew, hroom⟩).1.2⟩
  · intro hcounts
    refine .of_steps fun before e captured hprefix hfirsts => ?_
    rw [hpicks before e captured hprefix, hfirsts, and_assoc]
    refine and_congr_right fun hskip => ?_
    rw [and_comm]
    refine and_congr_right fun hnew => ?_
    have hmapped := hprefix.map fun o => key o.1
    rw [List.map_append] at hmapped
    have hcount := hcounts _ _ hmapped (by rwa [List.length_map]) hnew
    rwa [List.length_map] at hcount

/-- **The law of captures that are picked by their position**, with that counter. -/
theorem lawful_iff_countsDistinct (hset : ∀ k, k ∈ set ↔ k ∈ capturedKeys key history)
    (hpicks : Picks key (fun n => skip ≤ n ∧ (n - skip) % 2 ^ 32 < capture) history) :
    Lawful key skip capture set history ↔
      CountsDistinct skip capture (history.map fun o => key o.1) := by
  rw [lawful_iff_takesFirsts (fun _ hopen => hopen.1) hset hpicks,
    takesFirsts_iff_countsDistinct hpicks]

end

/-! ## What is known of the enqueues so far -/

section

variable {α : Type u} {κ : Type v} {key : α → κ}

/-- Every enqueue with a key that was not captured before is captured. -/
def TakesNew (key : α → κ) (history : List (α × Bool)) : Prop :=
  ∀ before e captured, before ++ [(e, captured)] <+: history →
    key e ∉ capturedKeys key before → captured = true

/-- A history stays one that takes what is new, if a new element is captured. -/
theorem TakesNew.concat {history : List (α × Bool)} {e : α} {captured : Bool}
    (h : TakesNew key history) (h' : key e ∉ capturedKeys key history → captured = true) :
    TakesNew key (history ++ [(e, captured)]) := by
  intro before e' captured' hbefore
  rcases concat_prefix_concat hbefore with ⟨rfl, hlast⟩ | hbefore
  · obtain ⟨rfl, rfl⟩ := Prod.mk.inj hlast
    exact h'
  · exact h before e' captured' hbefore

/-- Enqueues with a kernel bring no new key. -/
def NoneNew (key : α → κ) (hasKernel : α → Prop) (es : List α) : Prop :=
  ∀ before e, before ++ [e] <+: es → hasKernel e → key e ∈ before.map key

/-- A history stays one without new kernels, if the last one was there before. -/
theorem NoneNew.concat {hasKernel : α → Prop} {es : List α} {e : α}
    (h : NoneNew key hasKernel es) (h' : hasKernel e → key e ∈ es.map key) :
    NoneNew key hasKernel (es ++ [e]) := by
  intro before e' hbefore
  rcases concat_prefix_concat hbefore with ⟨rfl, rfl⟩ | hbefore
  · exact h'
  · exact h before e' hbefore

variable [DecidableEq κ] {hasKernel : α → Prop} {skip capture : Nat}

/-- In a part of the history all were counted. -/
theorem AllCounted.init {es : List α} {e : α}
    (h : AllCounted key hasKernel skip capture (es ++ [e])) :
    AllCounted key hasKernel skip capture es := by
  refine ⟨h.1.imp_right fun hnone before e' hbefore =>
    hnone before e' (hbefore.trans (List.prefix_append _ _)), Nat.le_trans ?_ h.2⟩
  refine (List.nodup_dedup _).length_le_of_subset fun k hk => ?_
  rw [List.mem_dedup] at hk ⊢
  rw [List.map_append]
  exact List.mem_append_left _ hk

/-- As many different keys as were captured, if all were. -/
theorem length_dedup_eq {keys captured : List κ} (hnodup : captured.Nodup)
    (h : ∀ k, k ∈ keys ↔ k ∈ captured) : keys.dedup.length = captured.length := by
  refine ((List.perm_ext_iff_of_nodup (List.nodup_dedup _) hnodup).mpr fun k => ?_).length_eq
  rw [List.mem_dedup, h]

/-- Some key of the set was not captured, and some key was not counted. -/
structure Missed (key : α → κ) (hasKernel : α → Prop) (skip capture : Nat) (set : List κ)
    (history : List (α × Bool)) : Prop where
  lost : ∃ k ∈ set, k ∉ capturedKeys key history
  uncounted : ¬ AllCounted key hasKernel skip capture (history.map Prod.fst)

/-- Every key of the set was captured. -/
structure Complete (key : α → κ) (hasKernel : α → Prop) (skip : Nat) (set : List κ)
    (history : List (α × Bool)) : Prop where
  recorded : ∀ k, k ∈ set ↔ k ∈ capturedKeys key history
  takesNew : TakesNew key history
  unskipped : skip = 0 ∨ NoneNew key hasKernel (history.map Prod.fst)

/-- **The law of aub capture**: none of the keys is lost, and every key is counted. -/
theorem lawful_iff_allCounted {set : List κ} {history : List (α × Bool)}
    (hseen : ∀ k, k ∈ set ↔ k ∈ (history.map Prod.fst).map key)
    (honce : (capturedKeys key history).Nodup)
    (h : Missed key hasKernel skip capture set history ∨ Complete key hasKernel skip set history) :
    Lawful key skip capture set history ↔
      AllCounted key hasKernel skip capture (history.map Prod.fst) := by
  rcases h with hmissed | hcomplete
  · obtain ⟨k, hk, hlost⟩ := hmissed.lost
    exact iff_of_false (fun hlaw => hlost ((hlaw.recorded k).mp hk)) hmissed.uncounted
  · have hlength : ((history.map Prod.fst).map key).dedup.length =
        (capturedKeys key history).length :=
      length_dedup_eq honce fun k => (hseen k).symm.trans (hcomplete.recorded k)
    constructor
    · intro hlaw
      exact ⟨hcomplete.unskipped, hlength.trans_le hlaw.atMost⟩
    · intro hcounted
      exact ⟨hcomplete.recorded, honce,
        fun before e captured hbefore _ hnew _ => hcomplete.takesNew before e captured hbefore hnew,
        hlength.symm.trans_le hcounted.2⟩

end

end CLIntercept.Capture
