import CLIntercept.Lib.Closure
import Mathlib.Algebra.Ring.Nat

/-!
# The command-buffer recorder

`SCommandBufferRecord` (`cmdbufrecorder.h`) draws a command buffer as a DOT graph while the
application records it. Every recorded command is one node; the edges are the orderings that the
recorder believes in: the sync points the application waits on, the queue's own order, and the
order a barrier imposes.

The recorder keeps no graph. It keeps two pending lists, `implicitDeps` and `outstandingIds`, and
each recorded command prints an edge from whatever they hold. The output is modelled as the list
of DOT statements in the order they are printed; `DotStmt.render` is the text of each.

Identifiers are 32 bits wide in the source, so `nextInternalId` wraps.
-/

set_option autoImplicit false

namespace CLIntercept.CommandBuffer

/-- What `nextInternalId` wraps at: it is a `std::atomic<uint32_t>`. -/
def idModulus : Nat := 2 ^ 32

/-- The name of a node: the sync point the driver returned for it, or, where the application asked
for none, a number of the recorder's own. -/
structure SCommandBufferId where
  isInternal : Bool
  id : Nat
  deriving DecidableEq, Repr

/-- The printed name. -/
def SCommandBufferId.render (i : SCommandBufferId) : String :=
  (if i.isInternal then "internal" else "syncpoint") ++ toString i.id

/-- Why an edge is drawn. -/
inductive EdgeKind
  | explicit
  | implicit
  | barrier
  deriving DecidableEq, Repr

/-- The attributes and the comment printed after an edge. -/
def EdgeKind.suffix : EdgeKind → String
  | .explicit => " // explicit dependency\n"
  | .implicit => " [style=dashed] // implicit dependency\n"
  | .barrier => " [style=dotted] // barrier dependency\n"

/-- One printed line of the recording. -/
inductive DotStmt
  | digraph
  | queueComment (isInOrder : Bool)
  | command (id : SCommandBufferId) (cmd tag : String)
  | octagon (id : SCommandBufferId) (cmd : String)
  | edge (src dst : SCommandBufferId) (kind : EdgeKind)
  | close
  deriving DecidableEq, Repr

/-- The text of a line. -/
def DotStmt.render : DotStmt → String
  | .digraph => "digraph \x7b\n"
  | .queueComment isInOrder =>
    "  // " ++ (if isInOrder then "in-order" else "out-of-order") ++ " command-buffer\n"
  | .command id cmd tag =>
    "  " ++ id.render ++ " [shape=oval, label=\"" ++ cmd ++
      (if tag.isEmpty then "" else "( " ++ tag ++ " )") ++ "\"]\n"
  | .octagon id cmd => "  " ++ id.render ++ " [shape=octagon, label=\"" ++ cmd ++ "\"]\n"
  | .edge src dst kind => "  " ++ src.render ++ " -> " ++ dst.render ++ kind.suffix
  | .close => "\x7d\n"

/-- The node a line declares. -/
def DotStmt.node? : DotStmt → Option SCommandBufferId
  | .command id _ _ => some id
  | .octagon id _ => some id
  | _ => none

/-- The recorder. A record is created by `m_CommandBufferRecordMap[ cmdbuf ]`, which
value-initialises it, so the counter starts at zero. -/
structure SCommandBufferRecord where
  dotstring : List DotStmt := []
  nextInternalId : Nat := 0
  queueIsInOrder : Bool := false
  implicitDeps : List SCommandBufferId := []
  outstandingIds : List SCommandBufferId := []
  deriving DecidableEq, Repr

namespace SCommandBufferRecord

/-- Append lines to the recording. -/
def print (r : SCommandBufferRecord) (stmts : List DotStmt) : SCommandBufferRecord :=
  { r with dotstring := r.dotstring ++ stmts }

/-- `makeInternalId`: the next number, which wraps. -/
def makeInternalId (r : SCommandBufferRecord) : SCommandBufferId × SCommandBufferRecord :=
  (⟨true, r.nextInternalId⟩, { r with nextInternalId := (r.nextInternalId + 1) % idModulus })

/-- `makeSyncPointId`. -/
def makeSyncPointId (syncPoint : Nat) : SCommandBufferId := ⟨false, syncPoint⟩

/-- The name of the command being recorded. `none` is a null `sync_point` argument. -/
def makeId (r : SCommandBufferRecord) : Option Nat → SCommandBufferId × SCommandBufferRecord
  | none => r.makeInternalId
  | some syncPoint => (makeSyncPointId syncPoint, r)

/-- The edges of a wait list. -/
def waitEdges (waitList : List Nat) (id : SCommandBufferId) : List DotStmt :=
  waitList.map fun s => .edge (makeSyncPointId s) id .explicit

/-- The edges from a pending list. -/
def depEdges (kind : EdgeKind) (deps : List SCommandBufferId) (id : SCommandBufferId) :
    List DotStmt :=
  deps.map fun dep => .edge dep id kind

/-- `recordCreate`. -/
def recordCreate (r : SCommandBufferRecord) (isInOrder : Bool) : SCommandBufferRecord :=
  { r with queueIsInOrder := isInOrder }.print [.digraph, .queueComment isInOrder]

/-- `recordCommand`. -/
def recordCommand (r : SCommandBufferRecord) (cmd tag : String) (waitList : List Nat)
    (syncPoint : Option Nat) : SCommandBufferRecord :=
  let (id, r) := r.makeId syncPoint
  let r := r.print (.command id cmd tag :: waitEdges waitList id ++
    depEdges .implicit r.implicitDeps id)
  if r.queueIsInOrder then
    { r with implicitDeps := [id] }
  else
    { r with outstandingIds := r.outstandingIds ++ [id] }

/-- `recordBarrier`. A barrier with a wait list leaves `outstandingIds` as they are; one without
takes an edge from each and forgets them. Either way it is the one implicit dependency left. -/
def recordBarrier (r : SCommandBufferRecord) (cmd : String) (waitList : List Nat)
    (syncPoint : Option Nat) : SCommandBufferRecord :=
  let (id, r) := r.makeId syncPoint
  let r := r.print [.octagon id cmd]
  let r :=
    if waitList.length > 0 then
      r.print (waitEdges waitList id)
    else
      { r.print (depEdges .barrier r.outstandingIds id) with outstandingIds := [] }
  let r := r.print (depEdges .implicit r.implicitDeps id)
  { r with implicitDeps := [id] }

/-- `recordFinalize`. -/
def recordFinalize (r : SCommandBufferRecord) : SCommandBufferRecord := r.print [.close]

/-- `getRecording`: the text that is dumped. -/
def getRecording (r : SCommandBufferRecord) : String :=
  String.join (r.dotstring.map DotStmt.render)

/-! ## The graph in the recording -/

/-- The names of the nodes, in the order their lines were printed. -/
def nodes (r : SCommandBufferRecord) : List SCommandBufferId := r.dotstring.filterMap DotStmt.node?

/-- An edge line joins the two names. -/
def Edge (r : SCommandBufferRecord) (a b : SCommandBufferId) : Prop :=
  ∃ kind, DotStmt.edge a b kind ∈ r.dotstring

/-- **Reachability in the emitted graph**: a path of one or more edge lines. -/
def Reaches (r : SCommandBufferRecord) : SCommandBufferId → SCommandBufferId → Prop :=
  Relation.TransGen r.Edge

end SCommandBufferRecord

/-! ## Calls -/

/-- A call on the record of one command buffer. `waitList` are the sync points the application
passed, `syncPoint` the one the driver returned, if one was asked for. -/
inductive Call
  | create (isInOrder : Bool)
  | command (cmd tag : String) (waitList : List Nat) (syncPoint : Option Nat)
  | barrier (cmd : String) (waitList : List Nat) (syncPoint : Option Nat)
  deriving DecidableEq, Repr

/-- The effect of a call. -/
def Call.apply (r : SCommandBufferRecord) : Call → SCommandBufferRecord
  | .create isInOrder => r.recordCreate isInOrder
  | .command cmd tag waitList syncPoint => r.recordCommand cmd tag waitList syncPoint
  | .barrier cmd waitList syncPoint => r.recordBarrier cmd waitList syncPoint

/-- The record after a sequence of calls. -/
def record (calls : List Call) : SCommandBufferRecord := calls.foldl Call.apply {}

/-- The calls that recorded a node, in order: what the node numbers of this development count. -/
def recorded (calls : List Call) : List Call :=
  calls.filter fun
    | .create _ => false
    | _ => true

/-- The sync points a call waits on. -/
def Call.waits : Call → List Nat
  | .create _ => []
  | .command _ _ waitList _ => waitList
  | .barrier _ waitList _ => waitList

/-- The sync point a call returned. -/
def Call.syncPoint? : Call → Option Nat
  | .create _ => none
  | .command _ _ _ syncPoint => syncPoint
  | .barrier _ _ syncPoint => syncPoint

/-- The call is a barrier. -/
def Call.isBarrier : Call → Bool
  | .barrier .. => true
  | _ => false

/-- The call recorded a node and asked for no sync point, so it takes a number of the recorder's. -/
def Call.isInternal : Call → Bool
  | .create _ => false
  | c => c.syncPoint?.isNone

end CLIntercept.CommandBuffer
