import CLIntercept.Api
import CLIntercept.Lib.OrdMap
import CLIntercept.Lib.Run

/-!
# Emulated semaphores

With `Emulate_cl_khr_semaphore` the layer serves binary semaphores out of events: a signal enqueues
a marker and keeps its event in the semaphore, a wait enqueues a marker behind that event and drops
it. The entry points below are those of `emulate.cpp`, with the control set. What the driver answers
to each of their calls is an argument, so that a run can meet any failure, and the calls they make
are part of their outcome.

A handle is valid here if it is the handle of a live semaphore; the source tells by a magic number
in the object itself.
-/

set_option autoImplicit false

namespace CLIntercept.Semaphore

open CLIntercept.Lib

/-! ## Semaphores -/

/-- `cli_semaphore`, what changes of it. -/
structure CliSemaphore where
  context : Handle
  refCount : UInt32 := 1
  event : Handle := null
  deriving DecidableEq, Repr

/-- The live semaphores, by handle. -/
abbrev Semaphores := OrdMap Nat CliSemaphore

/-- `cli_semaphore::isValid`. -/
def isValid (sems : Semaphores) (semaphore : Handle) : Bool :=
  semaphore ≠ null && (sems.get? semaphore).isSome

/-- `semaphore->Event`. -/
def eventOf (sems : Semaphores) (semaphore : Handle) : Handle :=
  ((sems.get? semaphore).map (·.event)).getD null

/-- `semaphore->RefCount`. -/
def refCountOf (sems : Semaphores) (semaphore : Handle) : UInt32 :=
  ((sems.get? semaphore).map (·.refCount)).getD 0

/-- A write to a semaphore. -/
def modify (sems : Semaphores) (semaphore : Handle) (f : CliSemaphore → CliSemaphore) :
    Semaphores :=
  match sems.get? semaphore with
  | some s => sems.insert semaphore (f s)
  | none => sems

/-- `semaphore->Event = event`. -/
def setEvent (sems : Semaphores) (semaphore event : Handle) : Semaphores :=
  modify sems semaphore fun s => { s with event := event }

/-! ## Calls of the driver -/

/-- A call of the driver, and its result. `received` is the event that a marker hands to the
emulation itself, in its local variable. -/
inductive DriverCall
  | enqueueMarker (waitList : List Handle) (result : Int) (received : Handle)
  | retainEvent (event : Handle) (result : Int)
  | releaseEvent (event : Handle) (result : Int)
  deriving DecidableEq, Repr

/-- What an entry point does. -/
structure Outcome where
  sems : Semaphores
  calls : List DriverCall
  retVal : Int

/-! ## The entry points -/

/-- `semaphore` is the object that `new` gives. -/
def clCreateSemaphoreWithProperties (context semaphore : Handle) (sems : Semaphores) : Outcome :=
  ⟨sems.insert semaphore { context }, [], clSuccess⟩

/-- The events to wait for, unless a semaphore is invalid or has none. -/
def combinedWaitList (sems : Semaphores) : List Handle → List Handle → Except Int (List Handle)
  | combined, [] => .ok combined
  | combined, semaphore :: rest =>
    if !isValid sems semaphore then .error clInvalidSemaphore
    else if eventOf sems semaphore = null then .error clInvalidOperation
    else combinedWaitList sems (combined ++ [eventOf sems semaphore]) rest

/-- The loop of a wait, from index `i` on: release the event and forget it. -/
def releaseEvents (release : Nat → Int) : Nat → List Handle → Semaphores →
    Semaphores × List DriverCall
  | _, [], sems => (sems, [])
  | i, semaphore :: rest, sems =>
    let call := DriverCall.releaseEvent (eventOf sems semaphore) (release i)
    let r := releaseEvents release (i + 1) rest (setEvent sems semaphore null)
    (r.1, call :: r.2)

/-- What the driver answers a wait: to the marker, and to the release in round `i`. -/
structure WaitAnswers where
  marker : Int
  release : Nat → Int

def clEnqueueWaitSemaphores (semaphores eventWaitList : List Handle) (answers : WaitAnswers)
    (sems : Semaphores) : Outcome :=
  if semaphores.isEmpty then ⟨sems, [], clInvalidValue⟩
  else match combinedWaitList sems eventWaitList semaphores with
    | .error e => ⟨sems, [], e⟩
    | .ok combined =>
      let r := releaseEvents answers.release 0 semaphores sems
      ⟨r.1, .enqueueMarker combined answers.marker null :: r.2, answers.marker⟩

/-- The check of a signal. -/
def checkUnsignaled (sems : Semaphores) : List Handle → Except Int Unit
  | [] => .ok ()
  | semaphore :: rest =>
    if !isValid sems semaphore then .error clInvalidSemaphore
    else if eventOf sems semaphore ≠ null then .error clInvalidOperation
    else checkUnsignaled sems rest

/-- The loop of a signal, from index `i` on: store the event and retain it. -/
def signalEvents (event : Handle) (retain : Nat → Int) : Nat → List Handle → Semaphores →
    Semaphores × List DriverCall
  | _, [], sems => (sems, [])
  | i, semaphore :: rest, sems =>
    let sems := setEvent sems semaphore event
    let call := DriverCall.retainEvent (eventOf sems semaphore) (retain i)
    let r := signalEvents event retain (i + 1) rest sems
    (r.1, call :: r.2)

/-- What the driver answers a signal: to the marker, what the marker writes to the event it is
given, if it writes, to the retain in round `i`, and to the release of the local event. -/
structure SignalAnswers where
  marker : Int
  written : Option Handle
  retain : Nat → Int
  release : Int

/-- `event` is what the application's event variable holds, `none` where it gave no pointer. The
local event then stands in for it, and is null before the marker. -/
def clEnqueueSignalSemaphores (semaphores eventWaitList : List Handle) (event : Option Handle)
    (answers : SignalAnswers) (sems : Semaphores) : Outcome :=
  if semaphores.isEmpty then ⟨sems, [], clInvalidValue⟩
  else match checkUnsignaled sems semaphores with
    | .error e => ⟨sems, [], e⟩
    | .ok () =>
      let current := answers.written.getD (event.getD null)
      let localEvent := if event.isNone then current else null
      let r := signalEvents current answers.retain 0 semaphores sems
      let dropped :=
        if localEvent ≠ null then [DriverCall.releaseEvent localEvent answers.release] else []
      ⟨r.1, .enqueueMarker eventWaitList answers.marker localEvent :: r.2 ++ dropped,
        answers.marker⟩

def clRetainSemaphore (semaphore : Handle) (sems : Semaphores) : Outcome :=
  if !isValid sems semaphore then ⟨sems, [], clInvalidSemaphore⟩
  else ⟨modify sems semaphore fun s => { s with refCount := s.refCount + 1 }, [], clSuccess⟩

/-- The last release deletes the semaphore, whatever event it has. -/
def clReleaseSemaphore (semaphore : Handle) (sems : Semaphores) : Outcome :=
  if !isValid sems semaphore then ⟨sems, [], clInvalidSemaphore⟩
  else
    let sems := modify sems semaphore fun s => { s with refCount := s.refCount - 1 }
    if refCountOf sems semaphore = 0 then ⟨sems.erase semaphore, [], clSuccess⟩
    else ⟨sems, [], clSuccess⟩

/-! ## Runs -/

/-- The live semaphores, and every call made so far. -/
structure State where
  sems : Semaphores := .empty
  calls : List DriverCall := []

/-- The calls of the application, with what the driver answers. -/
inductive Action
  | create (context semaphore : Handle)
  | wait (semaphores eventWaitList : List Handle) (answers : WaitAnswers)
  | signal (semaphores eventWaitList : List Handle) (event : Option Handle)
      (answers : SignalAnswers)
  | retain (semaphore : Handle)
  | release (semaphore : Handle)

def Action.outcome (sems : Semaphores) : Action → Outcome
  | .create context semaphore => clCreateSemaphoreWithProperties context semaphore sems
  | .wait semaphores eventWaitList answers =>
    clEnqueueWaitSemaphores semaphores eventWaitList answers sems
  | .signal semaphores eventWaitList event answers =>
    clEnqueueSignalSemaphores semaphores eventWaitList event answers sems
  | .retain semaphore => clRetainSemaphore semaphore sems
  | .release semaphore => clReleaseSemaphore semaphore sems

def step (s : State) (a : Action) : State :=
  ⟨(a.outcome s.sems).sems, s.calls ++ (a.outcome s.sems).calls⟩

/-- `new` gives an object that is not there yet. -/
def legal (s : State) : Action → Prop
  | .create _ semaphore => semaphore ≠ null ∧ s.sems.get? semaphore = none
  | _ => True

def system : System State Action := ⟨step, legal⟩

end CLIntercept.Semaphore
