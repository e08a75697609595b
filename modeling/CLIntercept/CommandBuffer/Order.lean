import CLIntercept.CommandBuffer.Record
import Mathlib.Data.List.Basic
import Mathlib.Data.List.Count
import Mathlib.Data.List.Nodup

/-!
# The order a recording draws

`Before` is what the command buffer orders: the wait lists, the queue, the barriers. It is stated
of node numbers, with no mention of the recorder's lists.

The recorder prints far fewer edges than `Before` has. `Direct` says which: a node takes an edge
from the sync points it waits on, from the `Implicit` nodes (the one before it, or the last
barrier) and, if it is a barrier with no wait list, from the `Outstanding` commands. `Inv` ties the
two pending lists to these relations. That every earlier node is covered by the lists
(completeness) and that the lists hold nothing else (soundness) are then two facts about `Direct`
and `Before` alone, `direct_of_before` and `before_of_direct`, and the lists are out of the argument.
-/

set_option autoImplicit false

namespace CLIntercept.CommandBuffer

open Relation

/-! ## The specification -/

/-- **What orders one node before another**, before closing up transitively. -/
inductive Before (isInOrder : Bool) (ns : List Call) : Nat → Nat → Prop
  /-- an explicit wait-list entry -/
  | wait {u v : Nat} {c d : Call} {s : Nat} :
      ns[u]? = some c → ns[v]? = some d → c.syncPoint? = some s → s ∈ d.waits →
      Before isInOrder ns u v
  /-- an in-order queue -/
  | inOrder {u v : Nat} : isInOrder = true → u < v → v < ns.length → Before isInOrder ns u v
  /-- a barrier with an empty wait list is after every earlier node -/
  | emptyBarrier {u v : Nat} {d : Call} :
      ns[v]? = some d → d.isBarrier = true → d.waits = [] → u < v → Before isInOrder ns u v
  /-- a barrier is after every earlier barrier -/
  | barriers {u v : Nat} {c d : Call} :
      ns[u]? = some c → ns[v]? = some d → c.isBarrier = true → d.isBarrier = true → u < v →
      Before isInOrder ns u v
  /-- a node recorded after a barrier is after it -/
  | afterBarrier {u v : Nat} {c : Call} :
      ns[u]? = some c → c.isBarrier = true → u < v → v < ns.length → Before isInOrder ns u v

/-- **The happens-before order** of a command buffer. -/
def HappensBefore (isInOrder : Bool) (ns : List Call) : Nat → Nat → Prop :=
  TransGen (Before isInOrder ns)

/-- What the callers promise: the queue has one mode, which `recordCreate` was told (a record that
was told nothing is out-of-order), the driver returns each sync point once, and a wait list names
sync points that were returned earlier. -/
structure Recordable (isInOrder : Bool) (calls : List Call) : Prop where
  mode : ∀ b, Call.create b ∈ calls → b = isInOrder
  created : isInOrder = true → calls.head? = some (.create true)
  distinct : ∀ {u v : Nat} {c d : Call} {s : Nat}, (recorded calls)[u]? = some c →
    (recorded calls)[v]? = some d → c.syncPoint? = some s → d.syncPoint? = some s → u = v
  earlier : ∀ {v : Nat} {d : Call} {s : Nat}, (recorded calls)[v]? = some d → s ∈ d.waits →
    ∃ u c, u < v ∧ (recorded calls)[u]? = some c ∧ c.syncPoint? = some s

/-- **Reachability is happens-before**: node `u` reaches node `v` in the emitted graph exactly when
the command buffer orders `u` before `v`. -/
def ReachabilityIsOrder (isInOrder : Bool) (calls : List Call) : Prop :=
  ∀ (u v : Nat) (a b : SCommandBufferId), (record calls).nodes[u]? = some a →
    (record calls).nodes[v]? = some b →
    ((record calls).Reaches a b ↔ HappensBefore isInOrder (recorded calls) u v)

/-! ## What the pending lists stand for -/

/-- A barrier with no wait list: the kind that collects the outstanding commands. -/
def Call.collects (c : Call) : Prop := c.isBarrier = true ∧ c.waits = []

/-- `implicitDeps` holds `u` when `v` nodes have been recorded: the last node of an in-order
buffer, the last barrier of an out-of-order one. -/
def Implicit (isInOrder : Bool) (ns : List Call) (u v : Nat) : Prop :=
  if isInOrder then u + 1 = v
  else u < v ∧ (∃ c, ns[u]? = some c ∧ c.isBarrier = true) ∧
    ∀ w c, u < w → w < v → ns[w]? = some c → c.isBarrier = false

/-- `outstandingIds` holds `u` when `v` nodes have been recorded: a command of an out-of-order
buffer that no barrier has collected since. -/
def Outstanding (isInOrder : Bool) (ns : List Call) (u v : Nat) : Prop :=
  isInOrder = false ∧ u < v ∧ (∃ c, ns[u]? = some c ∧ c.isBarrier = false) ∧
    ∀ w c, u < w → w < v → ns[w]? = some c → ¬ c.collects

/-- **The edges that are printed**, on node numbers. -/
inductive Direct (isInOrder : Bool) (ns : List Call) : Nat → Nat → Prop
  | wait {u v : Nat} {c d : Call} {s : Nat} :
      ns[u]? = some c → ns[v]? = some d → c.syncPoint? = some s → s ∈ d.waits →
      Direct isInOrder ns u v
  | implicit {u v : Nat} : Implicit isInOrder ns u v → v < ns.length → Direct isInOrder ns u v
  | collect {u v : Nat} {d : Call} :
      Outstanding isInOrder ns u v → ns[v]? = some d → d.collects → Direct isInOrder ns u v

/-! ## The printed edges generate the order -/

/-- Of the numbers from `u` up to `v` that have a property, some one is the last. -/
theorem exists_last {P : Nat → Prop} {u v : Nat} (huv : u < v) (hu : P u) :
    ∃ w, u ≤ w ∧ w < v ∧ P w ∧ ∀ x, w < x → x < v → ¬ P x := by
  induction v with
  | zero => exact absurd huv (Nat.not_lt_zero u)
  | succ v ih =>
    by_cases hv : P v
    · exact ⟨v, Nat.le_of_lt_succ huv, Nat.lt_succ_self v, hv, fun x h₁ h₂ => by omega⟩
    · have hne : u ≠ v := fun h => hv (h ▸ hu)
      obtain ⟨w, hw₁, hw₂, hw₃, hw₄⟩ := ih (by omega)
      refine ⟨w, hw₁, by omega, hw₃, fun x h₁ h₂ => ?_⟩
      by_cases hx : x = v
      · exact hx ▸ hv
      · exact hw₄ x h₁ (by omega)

/-- Implicit dependencies are earlier nodes. -/
theorem Implicit.lt {isInOrder : Bool} {ns : List Call} {u v : Nat}
    (h : Implicit isInOrder ns u v) : u < v := by
  unfold Implicit at h
  split at h
  · omega
  · exact h.1

/-- Every printed edge is one the command buffer orders. -/
theorem before_of_direct {isInOrder : Bool} {ns : List Call} {u v : Nat}
    (h : Direct isInOrder ns u v) : Before isInOrder ns u v := by
  cases h with
  | wait hu hv hs hw => exact .wait hu hv hs hw
  | implicit hi hv =>
    have hlt := hi.lt
    unfold Implicit at hi
    split at hi
    · next hmode => exact .inOrder hmode hlt hv
    · obtain ⟨_, ⟨c, hc, hb⟩, _⟩ := hi
      exact .afterBarrier hc hb hlt hv
  | collect ho hd hc => exact .emptyBarrier hd hc.1 hc.2 ho.2.1

/-- In an in-order buffer each node is printed after the one before it, so the edges chain. -/
theorem direct_chain {ns : List Call} {u v : Nat} (huv : u < v) (hv : v < ns.length) :
    TransGen (Direct true ns) u v := by
  induction v with
  | zero => exact absurd huv (Nat.not_lt_zero u)
  | succ v ih =>
    have he : Direct true ns v (v + 1) := .implicit (by simp [Implicit]) hv
    rcases Nat.lt_or_eq_of_le (Nat.le_of_lt_succ huv) with hlt | rfl
    · exact (ih hlt (by omega)).tail he
    · exact .single he

/-- **After a barrier** in an out-of-order buffer. Strong induction on the later node: the edge
comes from the last barrier before it, and that barrier is after the first one by induction. -/
theorem direct_afterBarrier {ns : List Call} {u : Nat} {c : Call} (hu : ns[u]? = some c)
    (hb : c.isBarrier = true) :
    ∀ {v : Nat}, u < v → v < ns.length → TransGen (Direct false ns) u v := by
  intro v
  induction v using Nat.strongRecOn with
  | ind v ih =>
    intro huv hv
    obtain ⟨w, huw, hwv, ⟨d, hd, hdb⟩, hlast⟩ :=
      exists_last (P := fun w => ∃ d, ns[w]? = some d ∧ d.isBarrier = true) huv ⟨c, hu, hb⟩
    have he : Direct false ns w v := by
      refine .implicit ?_ hv
      simp only [Implicit, Bool.false_eq_true, if_false]
      refine ⟨hwv, ⟨d, hd, hdb⟩, fun x e h₁ h₂ he => ?_⟩
      cases hx : e.isBarrier with
      | false => rfl
      | true => exact absurd ⟨e, he, hx⟩ (hlast x h₁ h₂)
    rcases Nat.lt_or_eq_of_le huw with hlt | rfl
    · exact (ih w hwv hlt (by omega)).tail he
    · exact .single he

/-- **A collecting barrier** in an out-of-order buffer is after everything before it: a barrier by
`direct_afterBarrier`, a command either because it is outstanding still, or because an earlier
collecting barrier took it, which is a barrier before this one. -/
theorem direct_emptyBarrier {ns : List Call} {u v : Nat} {d : Call} (hv : ns[v]? = some d)
    (hd : d.collects) (huv : u < v) : TransGen (Direct false ns) u v := by
  induction v using Nat.strongRecOn generalizing d with
  | ind v ih =>
    have hlen : v < ns.length := (List.getElem?_eq_some_iff.mp hv).1
    have hu : ns[u]? = some ns[u] := List.getElem?_eq_getElem (by omega)
    cases hb : ns[u].isBarrier with
    | true => exact direct_afterBarrier hu hb huv hlen
    | false =>
      by_cases hc : ∃ w c, u < w ∧ w < v ∧ ns[w]? = some c ∧ c.collects
      · obtain ⟨w, c, huw, hwv, hw, hcc⟩ := hc
        exact (ih w hwv hw hcc huw).trans (direct_afterBarrier hw hcc.1 hwv hlen)
      · refine .single (.collect ⟨rfl, huv, ⟨_, hu, hb⟩, fun w c h₁ h₂ hw hcc => ?_⟩ hv hd)
        exact hc ⟨w, c, h₁, h₂, hw, hcc⟩

/-- Everything the command buffer orders is reached along printed edges. -/
theorem direct_of_before {isInOrder : Bool} {ns : List Call} {u v : Nat}
    (h : Before isInOrder ns u v) : TransGen (Direct isInOrder ns) u v := by
  cases h with
  | wait hu hv hs hw => exact .single (.wait hu hv hs hw)
  | inOrder hmode huv hv => subst hmode; exact direct_chain huv hv
  | emptyBarrier hv hb hw huv =>
    cases isInOrder with
    | true => exact direct_chain huv (List.getElem?_eq_some_iff.mp hv).1
    | false => exact direct_emptyBarrier hv ⟨hb, hw⟩ huv
  | barriers hu hv hb _ huv =>
    have hlen := (List.getElem?_eq_some_iff.mp hv).1
    cases isInOrder with
    | true => exact direct_chain huv hlen
    | false => exact direct_afterBarrier hu hb huv hlen
  | afterBarrier hu hb huv hv =>
    cases isInOrder with
    | true => exact direct_chain huv hv
    | false => exact direct_afterBarrier hu hb huv hv

/-- **The printed edges and the order have the same closure.** -/
theorem direct_iff_happensBefore (isInOrder : Bool) (ns : List Call) (u v : Nat) :
    TransGen (Direct isInOrder ns) u v ↔ HappensBefore isInOrder ns u v :=
  Lib.transGen_iff_of_between (fun _ _ => before_of_direct) (fun _ _ => direct_of_before) u v

end CLIntercept.CommandBuffer
