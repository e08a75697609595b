import CLIntercept.CommandBuffer.Order

/-!
# Reachability in the emitted graph is the command buffer's order

`Inv` says what a record holds after some calls: the names it printed, the counter, and the two
pending lists as `Implicit` and `Outstanding` describe them. One call preserves it (`Inv.apply`),
so every run has it (`Inv.foldl`); and with the names pairwise distinct it makes the printed edges
`Direct` up to renaming, which is all `ReachabilityIsOrder` needs.

The names are distinct as long as the recorder's own counter has not wrapped. Past `2 ^ 32` nodes
without a sync point it has, two nodes share a name, and the graph of an in-order buffer closes
into a cycle (`wrapped_ids_close_a_cycle`).
-/

set_option autoImplicit false

namespace CLIntercept.CommandBuffer

open Relation SCommandBufferRecord

/-! ## Names -/

/-- The name that node `u` is printed under. -/
def nodeName (ns : List Call) (u : Nat) : SCommandBufferId :=
  match (ns[u]?).bind Call.syncPoint? with
  | some s => makeSyncPointId s
  | none => ⟨true, (ns.take u).countP Call.isInternal % idModulus⟩

/-- A node keeps its name when more commands are recorded. -/
theorem nodeName_append {ns : List Call} {u : Nat} (c : Call) (hu : u < ns.length) :
    nodeName (ns ++ [c]) u = nodeName ns u := by
  simp only [nodeName, List.getElem?_append_left hu, List.take_append_of_le_length (Nat.le_of_lt hu)]

/-- The name of the last node: its sync point, or the number of unnamed nodes before it. -/
theorem nodeName_last (ns : List Call) (c : Call) :
    nodeName (ns ++ [c]) ns.length =
      match c.syncPoint? with
      | some s => makeSyncPointId s
      | none => ⟨true, ns.countP Call.isInternal % idModulus⟩ := by
  simp only [nodeName, List.getElem?_concat_length, Option.bind_some, List.take_left]

/-! ## The relations when a node is appended -/

/-- What is implied between two nodes does not depend on later commands. -/
theorem implicit_append {isInOrder : Bool} {ns : List Call} {u v : Nat} (c : Call)
    (hv : v ≤ ns.length) : Implicit isInOrder (ns ++ [c]) u v ↔ Implicit isInOrder ns u v := by
  unfold Implicit
  split
  · exact Iff.rfl
  · constructor
    · rintro ⟨huv, ⟨d, hd, hb⟩, hlast⟩
      rw [List.getElem?_append_left (by omega)] at hd
      refine ⟨huv, ⟨d, hd, hb⟩, fun w e h₁ h₂ he => hlast w e h₁ h₂ ?_⟩
      rw [List.getElem?_append_left (by omega)]
      exact he
    · rintro ⟨huv, ⟨d, hd, hb⟩, hlast⟩
      refine ⟨huv, ⟨d, ?_, hb⟩, fun w e h₁ h₂ he => hlast w e h₁ h₂ ?_⟩
      · rw [List.getElem?_append_left (by omega)]
        exact hd
      · rw [List.getElem?_append_left (by omega)] at he
        exact he

/-- What is outstanding before a node does not depend on later commands. -/
theorem outstanding_append {isInOrder : Bool} {ns : List Call} {u v : Nat} (c : Call)
    (hv : v ≤ ns.length) : Outstanding isInOrder (ns ++ [c]) u v ↔ Outstanding isInOrder ns u v := by
  unfold Outstanding
  constructor
  · rintro ⟨hmode, huv, ⟨d, hd, hb⟩, hlast⟩
    rw [List.getElem?_append_left (by omega)] at hd
    refine ⟨hmode, huv, ⟨d, hd, hb⟩, fun w e h₁ h₂ he => hlast w e h₁ h₂ ?_⟩
    rw [List.getElem?_append_left (by omega)]
    exact he
  · rintro ⟨hmode, huv, ⟨d, hd, hb⟩, hlast⟩
    refine ⟨hmode, huv, ⟨d, ?_, hb⟩, fun w e h₁ h₂ he => hlast w e h₁ h₂ ?_⟩
    · rw [List.getElem?_append_left (by omega)]
      exact hd
    · rw [List.getElem?_append_left (by omega)] at he
      exact he

/-- After one more node, the implicit dependency is that node, if the queue is in-order or the node
is a barrier; otherwise it is what it was. -/
theorem implicit_last {isInOrder : Bool} {ns : List Call} {u : Nat} (c : Call) :
    Implicit isInOrder (ns ++ [c]) u (ns.length + 1) ↔
      if isInOrder = true ∨ c.isBarrier = true then u = ns.length
      else Implicit isInOrder ns u ns.length := by
  cases isInOrder with
  | true => simp [Implicit]
  | false =>
    simp only [Bool.false_eq_true, false_or]
    split
    · next hb =>
      constructor
      · intro h
        simp only [Implicit, Bool.false_eq_true, if_false] at h
        obtain ⟨huv, _, hlast⟩ := h
        by_contra hne
        have := hlast ns.length c (by omega) (by omega) List.getElem?_concat_length
        rw [hb] at this
        exact Bool.noConfusion this
      · rintro rfl
        simp only [Implicit, Bool.false_eq_true, if_false]
        exact ⟨Nat.lt_succ_self _, ⟨c, List.getElem?_concat_length, hb⟩, fun w e h₁ h₂ => by omega⟩
    · next hb =>
      rw [← implicit_append c (Nat.le_refl _)]
      simp only [Implicit, Bool.false_eq_true, if_false]
      constructor
      · rintro ⟨huv, ⟨d, hd, hdb⟩, hlast⟩
        have hne : u ≠ ns.length := by
          rintro rfl
          rw [List.getElem?_concat_length] at hd
          cases hd
          exact hb hdb
        exact ⟨by omega, ⟨d, hd, hdb⟩, fun w e h₁ h₂ => hlast w e h₁ (by omega)⟩
      · rintro ⟨huv, ⟨d, hd, hdb⟩, hlast⟩
        refine ⟨by omega, ⟨d, hd, hdb⟩, fun w e h₁ h₂ he => ?_⟩
        rcases Nat.lt_or_eq_of_le (Nat.le_of_lt_succ h₂) with hlt | rfl
        · exact hlast w e h₁ hlt he
        · rw [List.getElem?_concat_length] at he
          cases he
          exact Bool.eq_false_iff.mpr hb

/-- After one more node, the outstanding commands are none, if it collects; otherwise they are what
they were, and the node itself if it is a command of an out-of-order buffer. -/
theorem outstanding_last {isInOrder : Bool} {ns : List Call} {u : Nat} (c : Call) :
    Outstanding isInOrder (ns ++ [c]) u (ns.length + 1) ↔
      ¬ c.collects ∧ (Outstanding isInOrder ns u ns.length ∨
        isInOrder = false ∧ c.isBarrier = false ∧ u = ns.length) := by
  rw [← outstanding_append c (Nat.le_refl _)]
  constructor
  · rintro ⟨hmode, huv, ⟨d, hd, hdb⟩, hlast⟩
    rcases Nat.lt_or_eq_of_le (Nat.le_of_lt_succ huv) with hlt | rfl
    · refine ⟨hlast ns.length c hlt (Nat.lt_succ_self _) List.getElem?_concat_length, .inl ?_⟩
      exact ⟨hmode, hlt, ⟨d, hd, hdb⟩, fun w e h₁ h₂ => hlast w e h₁ (by omega)⟩
    · rw [List.getElem?_concat_length] at hd
      cases hd
      refine ⟨fun hc => ?_, .inr ⟨hmode, hdb, rfl⟩⟩
      rw [hc.1] at hdb
      exact Bool.noConfusion hdb
  · rintro ⟨hc, ⟨hmode, huv, ⟨d, hd, hdb⟩, hlast⟩ | ⟨hmode, hb, rfl⟩⟩
    · refine ⟨hmode, by omega, ⟨d, hd, hdb⟩, fun w e h₁ h₂ he => ?_⟩
      rcases Nat.lt_or_eq_of_le (Nat.le_of_lt_succ h₂) with hlt | rfl
      · exact hlast w e h₁ hlt he
      · rw [List.getElem?_concat_length] at he
        cases he
        exact hc
    · exact ⟨hmode, Nat.lt_succ_self _, ⟨c, List.getElem?_concat_length, hb⟩,
        fun w e h₁ h₂ => by omega⟩

/-! ## The invariant -/

/-- What has an edge to node `v`: its wait list, its implicit dependencies and, if it collects, the
outstanding commands. -/
def Source (isInOrder : Bool) (ns : List Call) (v : Nat) (a : SCommandBufferId) : Prop :=
  (∃ d s, ns[v]? = some d ∧ s ∈ d.waits ∧ a = makeSyncPointId s) ∨
  (∃ u, Implicit isInOrder ns u v ∧ a = nodeName ns u) ∨
  (∃ u d, Outstanding isInOrder ns u v ∧ ns[v]? = some d ∧ d.collects ∧ a = nodeName ns u)

/-- **The recorder's invariant** after the nodes `ns`. -/
structure Inv (isInOrder : Bool) (ns : List Call) (r : SCommandBufferRecord) : Prop where
  mode : r.queueIsInOrder = isInOrder
  counter : r.nextInternalId = ns.countP Call.isInternal % idModulus
  nodes : r.nodes = (List.range ns.length).map (nodeName ns)
  implicit : ∀ x, x ∈ r.implicitDeps ↔ ∃ u, Implicit isInOrder ns u ns.length ∧ x = nodeName ns u
  outstanding : ∀ x, x ∈ r.outstandingIds ↔
    ∃ u, Outstanding isInOrder ns u ns.length ∧ x = nodeName ns u
  edges : ∀ a b, r.Edge a b ↔ ∃ v, v < ns.length ∧ b = nodeName ns v ∧ Source isInOrder ns v a

/-- A record that has recorded nothing. -/
theorem Inv.nil {isInOrder : Bool} {r : SCommandBufferRecord} (hmode : r.queueIsInOrder = isInOrder)
    (hcount : r.nextInternalId = 0) (hnodes : r.nodes = []) (himp : r.implicitDeps = [])
    (hout : r.outstandingIds = []) (hedge : ∀ a b, ¬ r.Edge a b) : Inv isInOrder [] r where
  mode := hmode
  counter := hcount
  nodes := hnodes
  implicit := fun x => by
    rw [himp]
    exact ⟨fun h => absurd h List.not_mem_nil, fun ⟨u, hu, _⟩ => absurd hu.lt (Nat.not_lt_zero u)⟩
  outstanding := fun x => by
    rw [hout]
    exact ⟨fun h => absurd h List.not_mem_nil, fun ⟨u, hu, _⟩ => absurd hu.2.1 (Nat.not_lt_zero u)⟩
  edges := fun a b =>
    ⟨fun h => absurd h (hedge a b), fun ⟨v, hv, _⟩ => absurd hv (Nat.not_lt_zero v)⟩

/-- Sources of the nodes already there are what they were. -/
theorem source_append {isInOrder : Bool} {ns : List Call} {v : Nat} {a : SCommandBufferId} (c : Call)
    (hv : v < ns.length) : Source isInOrder (ns ++ [c]) v a ↔ Source isInOrder ns v a := by
  have name : ∀ {u}, u < v → nodeName (ns ++ [c]) u = nodeName ns u :=
    fun hu => nodeName_append c (Nat.lt_trans hu hv)
  simp only [Source, List.getElem?_append_left hv]
  refine or_congr Iff.rfl (or_congr ?_ ?_)
  · constructor
    · rintro ⟨u, hu, rfl⟩
      rw [implicit_append c (Nat.le_of_lt hv)] at hu
      exact ⟨u, hu, name hu.lt⟩
    · rintro ⟨u, hu, rfl⟩
      exact ⟨u, (implicit_append c (Nat.le_of_lt hv)).mpr hu, (name hu.lt).symm⟩
  · constructor
    · rintro ⟨u, d, hu, hd, hc, rfl⟩
      rw [outstanding_append c (Nat.le_of_lt hv)] at hu
      exact ⟨u, d, hu, hd, hc, name hu.2.1⟩
    · rintro ⟨u, d, hu, hd, hc, rfl⟩
      exact ⟨u, d, (outstanding_append c (Nat.le_of_lt hv)).mpr hu, hd, hc, (name hu.2.1).symm⟩

/-- The sources of the node being recorded are its wait list and the two pending lists. -/
theorem Inv.source_last {isInOrder : Bool} {ns : List Call} {r : SCommandBufferRecord}
    (h : Inv isInOrder ns r) (c : Call) (a : SCommandBufferId) :
    Source isInOrder (ns ++ [c]) ns.length a ↔
      (∃ s, s ∈ c.waits ∧ a = makeSyncPointId s) ∨ a ∈ r.implicitDeps ∨
        (c.collects ∧ a ∈ r.outstandingIds) := by
  simp only [Source, List.getElem?_concat_length, h.implicit, h.outstanding]
  refine or_congr ?_ (or_congr ?_ ?_)
  · constructor
    · rintro ⟨d, s, hd, hs, rfl⟩
      cases hd
      exact ⟨s, hs, rfl⟩
    · rintro ⟨s, hs, rfl⟩
      exact ⟨c, s, rfl, hs, rfl⟩
  · refine exists_congr fun u => ?_
    rw [implicit_append c (Nat.le_refl _)]
    exact and_congr_right fun hu => by rw [nodeName_append c hu.lt]
  · constructor
    · rintro ⟨u, d, hu, hd, hc, rfl⟩
      cases hd
      rw [outstanding_append c (Nat.le_refl _)] at hu
      exact ⟨hc, u, hu, nodeName_append c hu.2.1⟩
    · rintro ⟨hc, u, hu, rfl⟩
      exact ⟨u, c, (outstanding_append c (Nat.le_refl _)).mpr hu, rfl, hc,
        (nodeName_append c hu.2.1).symm⟩

/-! ## One call -/

/-- **What recording one node does**: its name is the next name, it takes an edge from its wait
list, from the implicit dependencies and, if it collects, from the outstanding commands; and the
two lists are left for the nodes after it. -/
structure Records (r r' : SCommandBufferRecord) (c : Call) (id : SCommandBufferId) : Prop where
  named : id = (r.makeId c.syncPoint?).1
  mode : r'.queueIsInOrder = r.queueIsInOrder
  counter : r'.nextInternalId = (r.makeId c.syncPoint?).2.nextInternalId
  nodes : r'.nodes = r.nodes ++ [id]
  implicit : r'.implicitDeps =
    if r.queueIsInOrder = true ∨ c.isBarrier = true then [id] else r.implicitDeps
  outstanding : ∀ x, x ∈ r'.outstandingIds ↔ ¬ c.collects ∧
    (x ∈ r.outstandingIds ∨ r.queueIsInOrder = false ∧ c.isBarrier = false ∧ x = id)
  edges : ∀ a b, r'.Edge a b ↔ r.Edge a b ∨ b = id ∧
    ((∃ s, s ∈ c.waits ∧ a = makeSyncPointId s) ∨ a ∈ r.implicitDeps ∨
      (c.collects ∧ a ∈ r.outstandingIds))

@[simp] theorem nodes_print (r : SCommandBufferRecord) (stmts : List DotStmt) :
    (r.print stmts).nodes = r.nodes ++ stmts.filterMap DotStmt.node? := by
  simp only [SCommandBufferRecord.nodes, print, List.filterMap_append]

@[simp] theorem edge_print (r : SCommandBufferRecord) (stmts : List DotStmt)
    (a b : SCommandBufferId) :
    (r.print stmts).Edge a b ↔ r.Edge a b ∨ ∃ kind, DotStmt.edge a b kind ∈ stmts := by
  simp only [Edge, print, List.mem_append, exists_or]

@[simp] theorem nodes_waitEdges (waitList : List Nat) (id : SCommandBufferId) :
    (waitEdges waitList id).filterMap DotStmt.node? = [] := by
  simp [waitEdges, DotStmt.node?, List.filterMap_map, Function.comp_def]

@[simp] theorem nodes_depEdges (kind : EdgeKind) (deps : List SCommandBufferId)
    (id : SCommandBufferId) : (depEdges kind deps id).filterMap DotStmt.node? = [] := by
  simp [depEdges, DotStmt.node?, List.filterMap_map, Function.comp_def]

/-- The edges of a wait list run from its sync points to the node. -/
@[simp] theorem mem_waitEdges (waitList : List Nat) (id a b : SCommandBufferId) :
    (∃ kind, DotStmt.edge a b kind ∈ waitEdges waitList id) ↔
      b = id ∧ ∃ s, s ∈ waitList ∧ a = makeSyncPointId s := by
  simp only [waitEdges, List.mem_map, DotStmt.edge.injEq]
  constructor
  · rintro ⟨_, s, hs, rfl, rfl, _⟩
    exact ⟨rfl, s, hs, rfl⟩
  · rintro ⟨rfl, s, hs, rfl⟩
    exact ⟨.explicit, s, hs, rfl, rfl, rfl⟩

/-- The edges of a pending list run from its entries to the node. -/
@[simp] theorem mem_depEdges (kind : EdgeKind) (deps : List SCommandBufferId)
    (id a b : SCommandBufferId) :
    (∃ k, DotStmt.edge a b k ∈ depEdges kind deps id) ↔ b = id ∧ a ∈ deps := by
  simp only [depEdges, List.mem_map, DotStmt.edge.injEq]
  constructor
  · rintro ⟨_, d, hd, rfl, rfl, _⟩
    exact ⟨rfl, hd⟩
  · rintro ⟨rfl, hd⟩
    exact ⟨kind, a, hd, rfl, rfl, rfl⟩

/-- Taking a name touches the counter alone. -/
theorem makeId_eq (r : SCommandBufferRecord) (syncPoint : Option Nat) :
    ∃ n, (r.makeId syncPoint).2 = { r with nextInternalId := n } := by
  cases syncPoint with
  | none => exact ⟨_, rfl⟩
  | some s => exact ⟨r.nextInternalId, rfl⟩

/-- A command prints its node and its edges. -/
theorem records_recordCommand (r : SCommandBufferRecord) (cmd tag : String) (waitList : List Nat)
    (syncPoint : Option Nat) :
    Records r (r.recordCommand cmd tag waitList syncPoint) (.command cmd tag waitList syncPoint)
      (r.makeId syncPoint).1 := by
  obtain ⟨n, hn⟩ := makeId_eq r syncPoint
  have hedge : ∀ a b, (r.recordCommand cmd tag waitList syncPoint).Edge a b ↔
      (((r.makeId syncPoint).2.print (.command (r.makeId syncPoint).1 cmd tag ::
        waitEdges waitList (r.makeId syncPoint).1 ++
        depEdges .implicit r.implicitDeps (r.makeId syncPoint).1)).Edge a b) := by
    intro a b
    simp only [recordCommand, hn]
    split <;> exact Iff.rfl
  constructor
  · rfl
  · simp only [recordCommand, hn]
    split <;> rfl
  · simp only [recordCommand, hn, Call.syncPoint?]
    split <;> rfl
  · have hnodes : ∀ r' : SCommandBufferRecord, r'.dotstring = r.dotstring ++
        (.command (r.makeId syncPoint).1 cmd tag :: waitEdges waitList (r.makeId syncPoint).1 ++
          depEdges .implicit r.implicitDeps (r.makeId syncPoint).1) →
        r'.nodes = r.nodes ++ [(r.makeId syncPoint).1] := by
      intro r' hr'
      simp only [SCommandBufferRecord.nodes, hr', List.filterMap_append, List.cons_append,
        List.filterMap_cons, DotStmt.node?, nodes_waitEdges, nodes_depEdges, List.append_nil]
    apply hnodes
    simp only [recordCommand, hn]
    split <;> rfl
  · simp only [recordCommand, hn, print, Call.isBarrier, Bool.false_eq_true, or_false]
    split <;> rfl
  · intro x
    simp only [recordCommand, hn, print, Call.collects, Call.isBarrier, Bool.false_eq_true,
      false_and, not_false_eq_true, true_and]
    cases r.queueIsInOrder with
    | true => simp
    | false => simp
  · intro a b
    rw [hedge, edge_print]
    simp only [hn, List.cons_append, List.mem_cons, List.mem_append, reduceCtorEq, false_or,
      exists_or, mem_waitEdges, mem_depEdges, Call.waits, Call.collects, Call.isBarrier,
      Bool.false_eq_true, false_and, or_false, ← and_or_left]
    exact Iff.rfl

/-- The lines a barrier prints, in one piece: the loop it skips prints nothing. -/
theorem recordBarrier_dotstring (r : SCommandBufferRecord) (cmd : String) (waitList : List Nat)
    (syncPoint : Option Nat) :
    (r.recordBarrier cmd waitList syncPoint).dotstring =
      (r.print (.octagon (r.makeId syncPoint).1 cmd ::
        (waitEdges waitList (r.makeId syncPoint).1 ++
          depEdges .barrier (if waitList = [] then r.outstandingIds else [])
            (r.makeId syncPoint).1 ++
          depEdges .implicit r.implicitDeps (r.makeId syncPoint).1))).dotstring := by
  obtain ⟨n, hn⟩ := makeId_eq r syncPoint
  cases waitList with
  | nil => simp [recordBarrier, hn, print, waitEdges]
  | cons s rest => simp [recordBarrier, hn, print, depEdges]

/-- A barrier prints its node and its edges. -/
theorem records_recordBarrier (r : SCommandBufferRecord) (cmd : String) (waitList : List Nat)
    (syncPoint : Option Nat) :
    Records r (r.recordBarrier cmd waitList syncPoint) (.barrier cmd waitList syncPoint)
      (r.makeId syncPoint).1 := by
  obtain ⟨n, hn⟩ := makeId_eq r syncPoint
  have hdot := recordBarrier_dotstring r cmd waitList syncPoint
  constructor
  · rfl
  · simp only [recordBarrier, hn]
    split <;> rfl
  · simp only [recordBarrier, hn, Call.syncPoint?]
    split <;> rfl
  · simp only [SCommandBufferRecord.nodes, hdot, print, List.filterMap_append,
      List.filterMap_cons, DotStmt.node?, nodes_waitEdges, nodes_depEdges, List.append_nil]
  · simp [recordBarrier, Call.isBarrier]
  · intro x
    cases waitList with
    | nil => simp [recordBarrier, hn, print, Call.collects, Call.isBarrier, Call.waits]
    | cons s rest => simp [recordBarrier, hn, print, Call.collects, Call.isBarrier, Call.waits]
  · intro a b
    have hprint := edge_print r (.octagon (r.makeId syncPoint).1 cmd ::
      (waitEdges waitList (r.makeId syncPoint).1 ++
        depEdges .barrier (if waitList = [] then r.outstandingIds else []) (r.makeId syncPoint).1 ++
        depEdges .implicit r.implicitDeps (r.makeId syncPoint).1)) a b
    simp only [Edge, hdot] at hprint ⊢
    rw [hprint]
    simp only [List.mem_cons, List.mem_append, reduceCtorEq, false_or, exists_or, mem_waitEdges,
      mem_depEdges, Call.waits, Call.collects, Call.isBarrier, true_and, ← and_or_left]
    refine or_congr Iff.rfl (and_congr_right fun _ => ?_)
    rw [or_assoc]
    refine or_congr Iff.rfl (Or.comm.trans (or_congr Iff.rfl ?_))
    split
    · next h => simp [h]
    · next h => simp [h]

/-- Every call that is not a `recordCreate` records one node. -/
theorem records_apply (r : SCommandBufferRecord) {c : Call} (hc : ∀ b, c ≠ .create b) :
    Records r (c.apply r) c (r.makeId c.syncPoint?).1 := by
  cases c with
  | create b => exact absurd rfl (hc b)
  | command cmd tag waitList syncPoint => exact records_recordCommand r cmd tag waitList syncPoint
  | barrier cmd waitList syncPoint => exact records_recordBarrier r cmd waitList syncPoint

/-- The name the recorder takes is the name of the node. -/
theorem Inv.named {isInOrder : Bool} {ns : List Call} {r : SCommandBufferRecord}
    (h : Inv isInOrder ns r) (c : Call) :
    (r.makeId c.syncPoint?).1 = nodeName (ns ++ [c]) ns.length := by
  rw [nodeName_last]
  cases hs : c.syncPoint? with
  | none => simp only [makeId, makeInternalId, h.counter]
  | some s => rfl

/-- And it leaves the counter at the number of names taken so far. -/
theorem Inv.counted {isInOrder : Bool} {ns : List Call} {r : SCommandBufferRecord}
    (h : Inv isInOrder ns r) {c : Call} (hc : ∀ b, c ≠ .create b) :
    (r.makeId c.syncPoint?).2.nextInternalId =
      (ns ++ [c]).countP Call.isInternal % idModulus := by
  have hint : c.isInternal = c.syncPoint?.isNone := by
    cases c with
    | create b => exact absurd rfl (hc b)
    | _ => rfl
  rw [List.countP_append, List.countP_singleton]
  cases hs : c.syncPoint? with
  | none =>
    simp only [makeId, makeInternalId, h.counter, hint, hs, Option.isNone_none, if_true,
      Nat.mod_add_mod]
  | some s => simp [makeId, h.counter, hint, hs]

/-- **One recorded node keeps the invariant.** -/
theorem Inv.snoc {isInOrder : Bool} {ns : List Call} {r r' : SCommandBufferRecord} {c : Call}
    (h : Inv isInOrder ns r) (hc : ∀ b, c ≠ .create b)
    (hr : Records r r' c (r.makeId c.syncPoint?).1) : Inv isInOrder (ns ++ [c]) r' := by
  have hname := h.named c
  constructor
  · rw [hr.mode, h.mode]
  · rw [hr.counter, h.counted hc]
  · rw [hr.nodes, h.nodes, hname, List.length_append, List.length_singleton, List.range_succ,
      List.map_append, List.map_singleton]
    refine congrArg (· ++ _) (List.map_congr_left fun u hu => ?_)
    exact (nodeName_append c (List.mem_range.mp hu)).symm
  · intro x
    rw [hr.implicit, h.mode, List.length_append, List.length_singleton]
    simp only [implicit_last]
    split
    · simp only [List.mem_singleton, exists_eq_left, hname]
    · rw [h.implicit]
      refine exists_congr fun u => and_congr_right fun hu => ?_
      rw [nodeName_append c hu.lt]
  · intro x
    rw [hr.outstanding, h.mode, h.outstanding, List.length_append, List.length_singleton]
    simp only [outstanding_last]
    constructor
    · rintro ⟨hcol, ⟨u, hu, rfl⟩ | ⟨hmode, hb, rfl⟩⟩
      · exact ⟨u, ⟨hcol, .inl hu⟩, (nodeName_append c hu.2.1).symm⟩
      · exact ⟨ns.length, ⟨hcol, .inr ⟨hmode, hb, rfl⟩⟩, hname⟩
    · rintro ⟨u, ⟨hcol, hu | ⟨hmode, hb, rfl⟩⟩, rfl⟩
      · exact ⟨hcol, .inl ⟨u, hu, nodeName_append c hu.2.1⟩⟩
      · exact ⟨hcol, .inr ⟨hmode, hb, hname.symm⟩⟩
  · intro a b
    rw [hr.edges, h.edges, ← h.source_last c a, hname, List.length_append, List.length_singleton]
    constructor
    · rintro (⟨v, hv, rfl, hs⟩ | ⟨rfl, hs⟩)
      · exact ⟨v, by omega, (nodeName_append c hv).symm, (source_append c hv).mpr hs⟩
      · exact ⟨ns.length, by omega, rfl, hs⟩
    · rintro ⟨v, hv, rfl, hs⟩
      rcases Nat.lt_or_eq_of_le (Nat.le_of_lt_succ hv) with hlt | rfl
      · exact .inl ⟨v, hlt, nodeName_append c hlt, (source_append c hlt).mp hs⟩
      · exact .inr ⟨rfl, hs⟩

/-- `recordCreate` prints no node and no edge, and only confirms the mode. -/
theorem Inv.create {isInOrder : Bool} {ns : List Call} {r : SCommandBufferRecord}
    (h : Inv isInOrder ns r) : Inv isInOrder ns (r.recordCreate isInOrder) where
  mode := rfl
  counter := h.counter
  nodes := by
    rw [← h.nodes]
    simp [recordCreate, SCommandBufferRecord.nodes, print, DotStmt.node?]
  implicit := h.implicit
  outstanding := h.outstanding
  edges := fun a b => by
    rw [← h.edges]
    simp [recordCreate, Edge, print]

/-- **A run keeps the invariant**, by induction on the calls. -/
theorem Inv.foldl {isInOrder : Bool} {calls ns : List Call} {r : SCommandBufferRecord}
    (h : Inv isInOrder ns r) (hmode : ∀ b, Call.create b ∈ calls → b = isInOrder) :
    Inv isInOrder (ns ++ recorded calls) (calls.foldl Call.apply r) := by
  induction calls generalizing ns r with
  | nil => simpa [recorded] using h
  | cons c calls ih =>
    have hrest : ∀ b, Call.create b ∈ calls → b = isInOrder :=
      fun b hb => hmode b (List.mem_cons_of_mem _ hb)
    cases c with
    | create b =>
      obtain rfl := hmode b List.mem_cons_self
      simpa [recorded, Call.apply] using ih h.create hrest
    | command cmd tag waitList syncPoint =>
      have hc : ∀ b, Call.command cmd tag waitList syncPoint ≠ .create b := by intro b; simp
      simpa [recorded, List.append_assoc] using ih (h.snoc hc (records_apply r hc)) hrest
    | barrier cmd waitList syncPoint =>
      have hc : ∀ b, Call.barrier cmd waitList syncPoint ≠ .create b := by intro b; simp
      simpa [recorded, List.append_assoc] using ih (h.snoc hc (records_apply r hc)) hrest

/-- The invariant of every recording the callers' promises allow. -/
theorem Recordable.inv {isInOrder : Bool} {calls : List Call} (h : Recordable isInOrder calls) :
    Inv isInOrder (recorded calls) (record calls) := by
  cases isInOrder with
  | false =>
    have hnil : Inv false [] ({} : SCommandBufferRecord) :=
      .nil rfl rfl rfl rfl rfl (by simp [Edge])
    simpa [record] using hnil.foldl h.mode
  | true =>
    obtain ⟨rest, rfl⟩ : ∃ rest, calls = .create true :: rest := by
      have := h.created rfl
      cases calls with
      | nil => simp at this
      | cons c rest =>
        simp only [List.head?_cons, Option.some.injEq] at this
        exact ⟨rest, by rw [this]⟩
    have hnil : Inv true [] (({} : SCommandBufferRecord).recordCreate true) :=
      .nil rfl rfl rfl rfl rfl (by simp [Edge, recordCreate, print])
    have := hnil.foldl fun b hb => h.mode b (List.mem_cons_of_mem _ hb)
    simpa [record, recorded, Call.apply] using this

/-! ## Names are distinct until the counter wraps -/

/-- A recorded call without a sync point takes a number of the recorder's. -/
theorem isInternal_of_recorded {calls : List Call} {u : Nat} {c : Call}
    (hc : (recorded calls)[u]? = some c) (hs : c.syncPoint? = none) : c.isInternal = true := by
  have hmem := List.mem_of_getElem? hc
  simp only [recorded, List.mem_filter] at hmem
  cases c with
  | create b => exact absurd hmem.2 (by simp)
  | command _ _ _ _ => simpa [Call.isInternal] using hs
  | barrier _ _ _ => simpa [Call.isInternal] using hs

/-- The numbers taken before a node that takes one are fewer than those taken before a later one. -/
theorem countP_take_lt {ns : List Call} {u v : Nat} {c : Call} (hu : ns[u]? = some c)
    (hc : c.isInternal = true) (huv : u < v) :
    (ns.take u).countP Call.isInternal < (ns.take v).countP Call.isInternal := by
  have hstep : (ns.take (u + 1)).countP Call.isInternal =
      (ns.take u).countP Call.isInternal + 1 := by
    rw [List.take_add_one, hu, Option.toList_some, List.countP_append, List.countP_singleton, if_pos hc]
  have hmono : (ns.take (u + 1)).countP Call.isInternal ≤ (ns.take v).countP Call.isInternal :=
    (List.take_prefix_take_left (l := ns) (by omega : u + 1 ≤ v)).sublist.countP_le
  omega

/-- Two nodes are printed under one name only if they are one node. -/
theorem nodeName_injective {isInOrder : Bool} {calls : List Call} (h : Recordable isInOrder calls)
    (hbound : (recorded calls).countP Call.isInternal ≤ idModulus) {u v : Nat}
    (hu : u < (recorded calls).length) (hv : v < (recorded calls).length)
    (hname : nodeName (recorded calls) u = nodeName (recorded calls) v) : u = v := by
  have hgu := List.getElem?_eq_getElem hu
  have hgv := List.getElem?_eq_getElem hv
  have hlt : ∀ {w : Nat} {c : Call}, (recorded calls)[w]? = some c → c.isInternal = true →
      ((recorded calls).take w).countP Call.isInternal < idModulus := by
    intro w c hw hc
    have hstep := countP_take_lt hw hc (by omega : w < w + 1)
    have hle := (List.take_sublist (w + 1) (recorded calls)).countP_le (p := Call.isInternal)
    omega
  simp only [nodeName, hgu, hgv, Option.bind_some] at hname
  cases hsu : (recorded calls)[u].syncPoint? with
  | some s =>
    cases hsv : (recorded calls)[v].syncPoint? with
    | some t =>
      simp only [hsu, hsv, makeSyncPointId, SCommandBufferId.mk.injEq, true_and] at hname
      exact h.distinct hgu hgv hsu (hname ▸ hsv)
    | none => simp [hsu, hsv, makeSyncPointId] at hname
  | none =>
    cases hsv : (recorded calls)[v].syncPoint? with
    | some t => simp [hsu, hsv, makeSyncPointId] at hname
    | none =>
      have hiu := isInternal_of_recorded hgu hsu
      have hiv := isInternal_of_recorded hgv hsv
      simp only [hsu, hsv, SCommandBufferId.mk.injEq, true_and,
        Nat.mod_eq_of_lt (hlt hgu hiu), Nat.mod_eq_of_lt (hlt hgv hiv)] at hname
      rcases Nat.lt_trichotomy u v with huv | rfl | huv
      · have := countP_take_lt hgu hiu huv
        omega
      · rfl
      · have := countP_take_lt hgv hiv huv
        omega

/-! ## The theorem -/

/-- The printed edges are `Direct`, under the names of the nodes. -/
theorem edge_direct {isInOrder : Bool} {calls : List Call} (h : Recordable isInOrder calls)
    {a b : SCommandBufferId} (he : (record calls).Edge a b) :
    ∃ u v, (record calls).nodes[u]? = some a ∧ (record calls).nodes[v]? = some b ∧
      Direct isInOrder (recorded calls) u v := by
  have hinv := h.inv
  have name : ∀ {w : Nat}, w < (recorded calls).length →
      (record calls).nodes[w]? = some (nodeName (recorded calls) w) := by
    intro w hw
    rw [hinv.nodes, List.getElem?_map, List.getElem?_range hw, Option.map_some]
  obtain ⟨v, hv, rfl, hsrc⟩ := (hinv.edges a b).mp he
  rcases hsrc with ⟨d, s, hd, hs, rfl⟩ | ⟨u, hu, rfl⟩ | ⟨u, d, hu, hd, hc, rfl⟩
  · obtain ⟨u, c, huv, hc, hcs⟩ := h.earlier hd hs
    have hun : nodeName (recorded calls) u = makeSyncPointId s := by
      simp only [nodeName, hc, Option.bind_some, hcs]
    exact ⟨u, v, hun ▸ name (Nat.lt_trans huv hv), name hv, .wait hc hd hcs hs⟩
  · exact ⟨u, v, name (Nat.lt_trans hu.lt hv), name hv, .implicit hu hv⟩
  · exact ⟨u, v, name (Nat.lt_trans hu.2.1 hv), name hv, .collect hu hd hc⟩

/-- And every `Direct` edge is printed. -/
theorem direct_edge {isInOrder : Bool} {calls : List Call} (h : Recordable isInOrder calls)
    {u v : Nat} (hd : Direct isInOrder (recorded calls) u v) :
    ∃ a b, (record calls).nodes[u]? = some a ∧ (record calls).nodes[v]? = some b ∧
      (record calls).Edge a b := by
  have hinv := h.inv
  have name : ∀ {w : Nat}, w < (recorded calls).length →
      (record calls).nodes[w]? = some (nodeName (recorded calls) w) := by
    intro w hw
    rw [hinv.nodes, List.getElem?_map, List.getElem?_range hw, Option.map_some]
  cases hd with
  | @wait c d s hu hv hs hw =>
    have hlu := (List.getElem?_eq_some_iff.mp hu).1
    have hlv := (List.getElem?_eq_some_iff.mp hv).1
    have hun : nodeName (recorded calls) u = makeSyncPointId s := by
      simp only [nodeName, hu, Option.bind_some, hs]
    exact ⟨_, _, name hlu, name hlv,
      (hinv.edges _ _).mpr ⟨v, hlv, rfl, .inl ⟨d, s, hv, hw, hun⟩⟩⟩
  | implicit hi hv =>
    exact ⟨_, _, name (Nat.lt_trans hi.lt hv), name hv,
      (hinv.edges _ _).mpr ⟨v, hv, rfl, .inr (.inl ⟨u, hi, rfl⟩)⟩⟩
  | @collect d ho hv hc =>
    have hlv := (List.getElem?_eq_some_iff.mp hv).1
    exact ⟨_, _, name (Nat.lt_trans ho.2.1 hlv), name hlv,
      (hinv.edges _ _).mpr ⟨v, hlv, rfl, .inr (.inr ⟨u, d, ho, hv, hc, rfl⟩)⟩⟩

/-- **Reachability in the emitted graph is happens-before**, for every recording that takes at most
`2 ^ 32` numbers of its own. In particular nothing recorded before a barrier with an empty wait
list is unordered with it, and two commands of an out-of-order buffer are ordered only if the
command buffer orders them. -/
theorem reaches_iff_happensBefore {isInOrder : Bool} {calls : List Call}
    (h : Recordable isInOrder calls)
    (hbound : (recorded calls).countP Call.isInternal ≤ idModulus) :
    (record calls).nodes.length = (recorded calls).length ∧ ReachabilityIsOrder isInOrder calls ∧
      ∀ (u v : Nat) (a b : SCommandBufferId) (d : Call), (record calls).nodes[u]? = some a →
        (record calls).nodes[v]? = some b → u < v → (recorded calls)[v]? = some d →
        d.collects → (record calls).Reaches a b := by
  have hinv := h.inv
  have hnodup : (record calls).nodes.Nodup := by
    rw [hinv.nodes]
    refine List.Nodup.map_on (fun u hu v hv => ?_) List.nodup_range
    exact nodeName_injective h hbound (List.mem_range.mp hu) (List.mem_range.mp hv)
  have hreach : ReachabilityIsOrder isInOrder calls := by
    intro u v a b ha hb
    rw [← direct_iff_happensBefore]
    exact Lib.transGen_named_iff (Lib.naming_getElem? hnodup) (fun _ _ => edge_direct h)
      (fun _ _ => direct_edge h) ha hb
  refine ⟨by simp [hinv.nodes], hreach, fun u v a b d ha hb huv hd hc => ?_⟩
  exact (hreach u v a b ha hb).mpr (.single (.emptyBarrier hd hc.1 hc.2 huv))

/-- An out-of-order buffer: a copy with a sync point, one without, a barrier that collects both, and
a copy after it that waits on the first. -/
def collectedCalls : List Call :=
  [.create false, .command "clCommandCopyBufferKHR" "" [] (some 7),
    .command "clCommandCopyBufferKHR" "" [] none, .barrier "clCommandBarrierWithWaitListKHR" [] none,
    .command "clCommandCopyBufferKHR" "" [7] none]

theorem reaches_iff_happensBefore_collected :
    ReachabilityIsOrder false collectedCalls ∧
      (record collectedCalls).Reaches ⟨false, 7⟩ ⟨true, 1⟩ := by
  have hrec : Recordable false collectedCalls := by
    constructor
    · intro b hb
      simpa [collectedCalls] using hb
    · exact fun h => absurd h (by decide)
    · intro u v c d s hu hv hc hd
      rcases u with _ | _ | _ | _ | u <;> rcases v with _ | _ | _ | _ | v <;>
        simp [collectedCalls, recorded] at hu hv <;> subst hu <;> subst hv <;>
        simp [Call.syncPoint?] at hc hd
      rfl
    · intro v d s hv hs
      rcases v with _ | _ | _ | _ | v <;> simp [collectedCalls, recorded] at hv <;> subst hv <;>
        simp [Call.waits] at hs
      exact ⟨0, _, by omega, rfl, by rw [hs]; rfl⟩
  obtain ⟨_, hreach, hcollect⟩ := reaches_iff_happensBefore hrec (by decide)
  exact ⟨hreach, hcollect 0 2 _ _ _ rfl rfl (by decide) rfl ⟨rfl, rfl⟩⟩

/-- The happens-before order only goes from earlier nodes to later ones. -/
theorem HappensBefore.lt {isInOrder : Bool} {calls : List Call} (h : Recordable isInOrder calls)
    {u v : Nat} (huv : HappensBefore isInOrder (recorded calls) u v) : u < v := by
  refine Lib.lt_of_transGen (fun a b hab => ?_) huv
  cases hab with
  | wait ha hb hs hw =>
    obtain ⟨w, c, hwb, hc, hcs⟩ := h.earlier hb hw
    obtain rfl := h.distinct ha hc hs hcs
    exact hwb
  | inOrder _ hlt _ => exact hlt
  | emptyBarrier _ _ _ hlt => exact hlt
  | barriers _ _ _ _ hlt => exact hlt
  | afterBarrier _ _ hlt _ => exact hlt

/-! ## Past the counter -/

/-- A command that asks for no sync point. -/
def unnamedCopy : Call := .command "clCommandCopyBufferKHR" "" [] none

/-- An in-order command buffer with one more command than the counter has values. -/
def wrappingCalls : List Call := .create true :: List.replicate (idModulus + 1) unnamedCopy

theorem recorded_wrappingCalls : recorded wrappingCalls = List.replicate (idModulus + 1) unnamedCopy := by
  simp [recorded, wrappingCalls, unnamedCopy]

theorem recordable_wrappingCalls : Recordable true wrappingCalls := by
  have hmem : ∀ {u : Nat} {c : Call}, (recorded wrappingCalls)[u]? = some c → c = unnamedCopy := by
    intro u c hc
    rw [recorded_wrappingCalls] at hc
    exact List.eq_of_mem_replicate (List.mem_of_getElem? hc)
  constructor
  · intro b hb
    rcases List.mem_cons.mp hb with hb | hb
    · exact Call.create.inj hb
    · exact absurd (List.eq_of_mem_replicate hb) (by simp [unnamedCopy])
  · exact fun _ => rfl
  · intro u v c d s hu _ hs _
    rw [hmem hu] at hs
    exact absurd hs (by simp [unnamedCopy, Call.syncPoint?])
  · intro v d s hv hs
    rw [hmem hv] at hs
    exact absurd hs (by simp [unnamedCopy, Call.waits])

/-- The name of a node of that buffer: its number, wrapped. -/
theorem nodeName_wrappingCalls {u : Nat} (hu : u ≤ idModulus) :
    (record wrappingCalls).nodes[u]? = some ⟨true, u % idModulus⟩ := by
  have hlen : u < (recorded wrappingCalls).length := by
    rw [recorded_wrappingCalls, List.length_replicate]
    exact Nat.lt_succ_of_le hu
  have hmin : min u (idModulus + 1) = u := by omega
  have hget : (recorded wrappingCalls)[u]? = some unnamedCopy := by
    rw [recorded_wrappingCalls, List.getElem?_replicate_of_lt (Nat.lt_succ_of_le hu)]
  rw [recordable_wrappingCalls.inv.nodes, List.getElem?_map, List.getElem?_range hlen,
    Option.map_some, nodeName, hget, Option.bind_some, recorded_wrappingCalls, List.take_replicate,
    List.countP_replicate, hmin]
  rfl

/-- **The counter wraps after `2 ^ 32` unnamed nodes**, and then the last node has the first one's
name. The graph is a cycle: the second command reaches the first, which the command buffer runs
before it. -/
theorem wrapped_ids_close_a_cycle :
    Recordable true wrappingCalls ∧ ¬ ReachabilityIsOrder true wrappingCalls := by
  refine ⟨recordable_wrappingCalls, fun h => ?_⟩
  have hedge : ∀ u v, Direct true (recorded wrappingCalls) u v →
      (record wrappingCalls).Edge (nodeName (recorded wrappingCalls) u)
        (nodeName (recorded wrappingCalls) v) := by
    intro u v hd
    obtain ⟨a, b, ha, hb, he⟩ := direct_edge recordable_wrappingCalls hd
    rw [recordable_wrappingCalls.inv.nodes, List.getElem?_map, Option.map_eq_some_iff] at ha hb
    obtain ⟨_, hu, rfl⟩ := ha
    obtain ⟨_, hv, rfl⟩ := hb
    rw [List.getElem?_eq_some_iff] at hu hv
    obtain ⟨_, hu⟩ := hu
    obtain ⟨_, hv⟩ := hv
    simp only [List.getElem_range] at hu hv
    rw [hu, hv]
    exact he
  have name : ∀ {u : Nat}, u ≤ idModulus →
      nodeName (recorded wrappingCalls) u = ⟨true, u % idModulus⟩ := by
    intro u hu
    have h₁ := nodeName_wrappingCalls hu
    rw [recordable_wrappingCalls.inv.nodes, List.getElem?_map, Option.map_eq_some_iff] at h₁
    obtain ⟨_, hr, hn⟩ := h₁
    rw [List.getElem?_eq_some_iff] at hr
    obtain ⟨_, hr⟩ := hr
    rw [List.getElem_range] at hr
    rw [← hr] at hn
    exact hr ▸ hn
  have hlen : (recorded wrappingCalls).length = idModulus + 1 := by
    rw [recorded_wrappingCalls, List.length_replicate]
  have hchain : TransGen (Direct true (recorded wrappingCalls)) 1 idModulus :=
    direct_chain (by decide) (by omega)
  have hreach := TransGen.lift (nodeName (recorded wrappingCalls)) hedge _ _ hchain
  simp only [Function.onFun, name (show 1 ≤ idModulus by decide), name (Nat.le_refl _),
    Nat.mod_self] at hreach
  have h₁ := nodeName_wrappingCalls (show 1 ≤ idModulus by decide)
  have h₀ := nodeName_wrappingCalls (Nat.zero_le idModulus)
  rw [Nat.zero_mod] at h₀
  exact absurd (((h 1 0 _ _ h₁ h₀).mp hreach).lt recordable_wrappingCalls) (by decide)

end CLIntercept.CommandBuffer
