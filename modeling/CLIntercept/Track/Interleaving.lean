import CLIntercept.Lib.SharedHandles
import CLIntercept.Track.Objects
import CLIntercept.Track.Programs
import CLIntercept.Track.Queues

/-!
# Tracking under interleaving

Several threads in the layer at once. Each function on the maps runs under `m_Mutex`, but the calls
of the driver beside it do not: a release asks for the reference count and erases under the mutex,
and the driver releases afterwards; an SVM or USM free erases after the driver has freed; what is
created is inserted after the driver has created it.

`Maps` has the maps of all tracked kinds, and `system` the threads in any interleaving of these
steps, on objects whose handles the driver may use again at once. It refines the general system of
`Lib.SharedHandles`, of which only the tracked handles are kept (`refines`). Queues are tracked
twice, by their numbers and in the lists of their contexts; `Inv` has the lists beside the numbers.
`exact_of_stepOk` says that between calls exactly the live objects are tracked, if no release
destroys its object without having seen the last reference, no queue whose last reference is seen
has its context withheld, and no free erases what was inserted for the next allocation.
-/

set_option autoImplicit false

namespace CLIntercept.Track.Interleaving

open CLIntercept.Lib CLIntercept.Lib.SharedHandles CLIntercept.Track.Queues

/-! ## The maps -/

/-- What the layer tracks. -/
inductive Kind
  | queue
  | event
  | memObject
  | sampler
  | kernel
  | svmAllocation
  | usmAllocation
  deriving DecidableEq, Repr

/-- Allocations are freed, everything else is released. -/
def Kind.refCounted : Kind → Bool
  | .svmAllocation | .usmAllocation => false
  | _ => true

/-- An object: handles of one kind are those of its objects alone. -/
structure Key where
  kind : Kind
  handle : Handle
  deriving DecidableEq, Repr

/-- The maps of all kinds, and whether `end()` of a list of queues was ever erased. -/
structure Maps where
  objects : Objects := {}
  programs : Programs := {}
  queues : QueueMaps := {}
  erasesEnd : Bool := false
  eventIdMap : Handle → Option Nat := fun _ => none

def addEvent (event : Handle) (enqueueCounter : Nat) (m : Maps) : Maps :=
  if event = null then m
  else { m with eventIdMap := Function.update m.eventIdMap event (some enqueueCounter) }

def checkRemoveEvent (event : Handle) (refCount : Nat) (m : Maps) : Maps :=
  if refCount = 1 then { m with eventIdMap := Function.update m.eventIdMap event none } else m

/-- What is recorded of a new object, of whichever kind it is. The queries for it when it is created
succeed. -/
structure Info where
  context : Handle := 1
  enqueueCounter : Nat := 0
  size : Nat := 0
  image : Option ImageAnswers := none
  samplerString : String := ""
  program : Handle := null
  kernelName : String := ""
  context_ne : context ≠ null := by exact Nat.one_ne_zero
  deriving DecidableEq, Repr

section

variable (config : Config) (demangle : String → String)

/-- The insertion that follows a creation. -/
def Maps.insert (m : Maps) (key : Key) (info : Info) : Maps :=
  match key.kind with
  | .queue => { m with queues := addQueue info.context key.handle m.queues }
  | .event => addEvent key.handle info.enqueueCounter m
  | .memObject =>
    match info.image with
    | some answers => { m with objects := addImage key.handle (some answers) m.objects }
    | none => { m with objects := addBuffer key.handle (some info.size) m.objects }
  | .sampler => { m with objects := addSamplerString key.handle info.samplerString m.objects }
  | .kernel =>
    { m with
      programs := addKernelInfo demangle config key.handle info.program info.kernelName m.programs }
  | .svmAllocation => { m with objects := addSVMAllocation key.handle info.size m.objects }
  | .usmAllocation => { m with objects := addUSMAllocation key.handle info.size m.objects }

end

/-- The first step of a release. `context` is what a queue answers. -/
def Maps.checkRemove (m : Maps) (key : Key) (refCount : Nat) (context : Option Handle) : Maps :=
  match key.kind with
  | .queue =>
    { m with
      queues := (checkRemoveQueue key.handle refCount context m.queues).1
      erasesEnd := m.erasesEnd || (checkRemoveQueue key.handle refCount context m.queues).2 }
  | .event => checkRemoveEvent key.handle refCount m
  | .memObject => { m with objects := checkRemoveMemObj key.handle refCount m.objects }
  | .sampler => { m with objects := checkRemoveSamplerString key.handle refCount m.objects }
  | .kernel => { m with programs := checkRemoveKernelInfo key.handle refCount m.programs }
  | .svmAllocation | .usmAllocation => m

/-- The second step of a free. -/
def Maps.remove (m : Maps) (key : Key) : Maps :=
  match key.kind with
  | .svmAllocation => { m with objects := removeSVMAllocation key.handle m.objects }
  | .usmAllocation => { m with objects := removeUSMAllocation key.handle m.objects }
  | _ => m

/-- **Tracked**: in the map of its kind. For queues this is the map of their numbers; they are in
the list of a context, too. -/
def Maps.tracks (m : Maps) (key : Key) : Bool :=
  match key.kind with
  | .queue => (m.queues.queueNumberMap key.handle).isSome
  | .event => (m.eventIdMap key.handle).isSome
  | .memObject =>
    (m.objects.bufferInfoMap key.handle).isSome || (m.objects.imageInfoMap key.handle).isSome
  | .sampler => (m.objects.samplerDataMap key.handle).isSome
  | .kernel => (m.programs.kernelInfoMap key.handle).isSome
  | .svmAllocation => (m.objects.svmAllocInfoMap.get? key.handle).isSome
  | .usmAllocation => (m.objects.usmAllocInfoMap.get? key.handle).isSome

/-! ## One key at a time -/

theorem isSome_update {β : Type} (f : Handle → Option β) (handle handle' : Handle)
    (x : Option β) : (Function.update f handle x handle').isSome =
      if handle' = handle then x.isSome else (f handle').isSome := by
  rw [Function.update_apply]
  exact apply_ite _ _ _ _

/-- A change of what is tracked, in the map of its kind and in the others. -/
theorem tracks_eq_update {m m' : Maps} {key : Key} {tracked : Bool}
    (hkind : ∀ handle, m'.tracks ⟨key.kind, handle⟩ =
      if handle = key.handle then tracked else m.tracks ⟨key.kind, handle⟩)
    (hother : ∀ kind handle, kind ≠ key.kind →
      m'.tracks ⟨kind, handle⟩ = m.tracks ⟨kind, handle⟩) :
    m'.tracks = Function.update m.tracks key tracked := by
  ext ⟨kind, handle⟩
  rw [Function.update_apply]
  by_cases hk : kind = key.kind
  · rw [hk, hkind]
    by_cases hh : handle = key.handle
    · rw [if_pos hh, if_pos (by rw [hh])]
    · rw [if_neg hh, if_neg fun heq => hh (congrArg Key.handle heq)]
  · rw [hother kind handle hk, if_neg fun heq => hk (congrArg Key.kind heq)]

/-- An insertion tracks its object and no other. -/
theorem tracks_insert (config : Config) (demangle : String → String) (m : Maps) {key : Key}
    (hne : key.handle ≠ null) (info : Info) :
    (m.insert config demangle key info).tracks = Function.update m.tracks key true := by
  obtain ⟨kind, handle⟩ := key
  replace hne : handle ≠ null := hne
  apply tracks_eq_update
  · intro handle'
    cases kind <;> cases himage : info.image <;>
      simp [Maps.insert, Maps.tracks, addQueue, addEvent, addBuffer, addImage, addSamplerString,
        addKernelInfo, addSVMAllocation, addUSMAllocation, Objects.number, hne, himage,
        isSome_update, OrdMap.get?_insert, apply_ite Option.isSome, Bool.or_assoc,
        Bool.or_left_comm]
  · intro kind' handle' hkind
    cases kind <;> cases himage : info.image <;>
      simp only [Maps.insert, addEvent, addBuffer, addImage, addSamplerString, addSVMAllocation,
        addUSMAllocation, himage, if_neg hne] <;>
      cases kind' <;> first | exact absurd rfl hkind | rfl

/-- A check forgets its object if it sees the last reference. -/
theorem tracks_checkRemove (m : Maps) {key : Key} (hkind : key.kind.refCounted = true)
    (refCount : Nat) (context : Option Handle) :
    (m.checkRemove key refCount context).tracks =
      if refCount = 1 then Function.update m.tracks key false else m.tracks := by
  obtain ⟨kind, handle⟩ := key
  have hqueue : (checkRemoveQueue handle 1 context m.queues).1.queueNumberMap =
      Function.update m.queues.queueNumberMap handle none := by
    unfold checkRemoveQueue
    cases context with
    | none => rfl
    | some context =>
      by_cases hnull : context = null <;> simp [hnull]
  split
  · next hone =>
    subst hone
    apply tracks_eq_update
    · intro handle'
      cases kind with
      | svmAllocation | usmAllocation => cases hkind
      | queue | event | memObject | sampler | kernel =>
        by_cases hh : handle' = handle <;>
          simp [Maps.checkRemove, Maps.tracks, hqueue, checkRemoveEvent, checkRemoveMemObj,
            checkRemoveSamplerString, checkRemoveKernelInfo, Objects.unnumber, hh]
    · intro kind' handle' hother
      cases kind with
      | svmAllocation | usmAllocation => cases hkind
      | queue | event | memObject | sampler | kernel =>
        cases kind' <;> first | exact absurd rfl hother | rfl
  · next hmore =>
    cases kind with
    | svmAllocation | usmAllocation => cases hkind
    | queue | event | memObject | sampler | kernel =>
      simp [Maps.checkRemove, checkRemoveQueue, checkRemoveEvent, checkRemoveMemObj,
        checkRemoveSamplerString, checkRemoveKernelInfo, hmore]

/-- A removal forgets its allocation. -/
theorem tracks_remove (m : Maps) {key : Key} (hkind : key.kind.refCounted = false) :
    (m.remove key).tracks = Function.update m.tracks key false := by
  obtain ⟨kind, handle⟩ := key
  apply tracks_eq_update
  · intro handle'
    cases kind with
    | queue | event | memObject | sampler | kernel => cases hkind
    | svmAllocation | usmAllocation =>
      by_cases hh : handle' = handle <;>
        simp [Maps.remove, Maps.tracks, removeSVMAllocation, removeUSMAllocation,
          Objects.unnumber, OrdMap.get?_erase, hh]
  · intro kind' handle' hother
    cases kind with
    | queue | event | memObject | sampler | kernel => cases hkind
    | svmAllocation | usmAllocation =>
      cases kind' <;> first | exact absurd rfl hother | rfl

/-- Only insertions of queues change their lists. -/
theorem queues_insert (config : Config) (demangle : String → String) (m : Maps) {key : Key}
    (hkind : key.kind ≠ .queue) (info : Info) :
    (m.insert config demangle key info).queues = m.queues ∧
      (m.insert config demangle key info).erasesEnd = m.erasesEnd := by
  obtain ⟨kind, handle⟩ := key
  cases kind with
  | queue => exact absurd rfl hkind
  | memObject => cases himage : info.image <;> simp [Maps.insert, himage]
  | event =>
    by_cases hnull : handle = null <;> simp [Maps.insert, addEvent, hnull]
  | sampler | kernel | svmAllocation | usmAllocation => exact ⟨rfl, rfl⟩

/-- So do only checks that see the last reference of a queue. -/
theorem queues_checkRemove (m : Maps) {key : Key} {refCount : Nat}
    (h : ¬ (key.kind = .queue ∧ refCount = 1)) (context : Option Handle) :
    (m.checkRemove key refCount context).queues = m.queues ∧
      (m.checkRemove key refCount context).erasesEnd = m.erasesEnd := by
  obtain ⟨kind, handle⟩ := key
  cases kind with
  | queue =>
    have hne : refCount ≠ 1 := fun hone => h ⟨rfl, hone⟩
    simp [Maps.checkRemove, checkRemoveQueue, hne]
  | event => by_cases hone : refCount = 1 <;> simp [Maps.checkRemove, checkRemoveEvent, hone]
  | memObject | sampler | kernel | svmAllocation | usmAllocation => exact ⟨rfl, rfl⟩

theorem queues_remove (m : Maps) (key : Key) :
    (m.remove key).queues = m.queues ∧ (m.remove key).erasesEnd = m.erasesEnd := by
  obtain ⟨kind, handle⟩ := key
  cases kind <;> exact ⟨rfl, rfl⟩

/-! ## The threads -/

universe u

variable {τ : Type u}

/-- The maps, the references that the threads own, the calls that they are in, and what each object
is. The driver's reference count of an object is the number of its references. -/
structure State (τ : Type u) where
  maps : Maps := {}
  calls : Calls τ Key := {}
  infos : Key → Info := fun _ => {}

/-- The steps of the threads. A creation comes with what it creates, and the first step of a release
with the outcomes of its two queries. -/
inductive Action (τ : Type u)
  | create (t : τ) (key : Key) (info : Info)
  | insert (t : τ)
  | retain (t : τ) (key : Key)
  | handOff (t t' : τ) (key : Key)
  | checkRemove (t : τ) (key : Key) (refCountOk contextOk : Bool)
  | release (t : τ)
  | free (t : τ) (key : Key)
  | remove (t : τ)
  deriving DecidableEq, Repr

/-- What a step is to the references. -/
def Action.event : Action τ → Event τ Key
  | .create t key _ => .create t key
  | .insert t => .insert t
  | .retain t key => .retain t key
  | .handOff t t' key => .handOff t t' key
  | .checkRemove t key refCountOk _ => .check t key refCountOk
  | .release t => .release t
  | .free t key => .free t key
  | .remove t => .erase t

/-- The answer to the reference count query. -/
def State.refCount (s : State τ) (key : Key) (ok : Bool) : Nat :=
  if ok then (s.calls.owners key).length else 0

/-- The answer to the context query. -/
def State.context (s : State τ) (key : Key) (ok : Bool) : Option Handle :=
  if ok then some (s.infos key).context else none

section

variable (config : Config) (demangle : String → String)

/-- What a step does to the maps. -/
def State.mapsStep (s : State τ) : Action τ → Maps
  | .insert t =>
    match s.calls.pending t with
    | .creating key => s.maps.insert config demangle key (s.infos key)
    | _ => s.maps
  | .checkRemove _ key refCountOk contextOk =>
    s.maps.checkRemove key (s.refCount key refCountOk) (s.context key contextOk)
  | .remove t =>
    match s.calls.pending t with
    | .freeing key => s.maps.remove key
    | _ => s.maps
  | _ => s.maps

variable [DecidableEq τ]

def step (s : State τ) (a : Action τ) : State τ where
  maps := s.mapsStep config demangle a
  calls := s.calls.step a.event
  infos := match a with
    | .create _ key info => Function.update s.infos key info
    | _ => s.infos

/-- Every thread uses what it owns, handles are not null, and an object is released or freed as its
kind is. -/
def legal (s : State τ) (a : Action τ) : Prop :=
  s.calls.legal a.event ∧
    match a with
    | .create _ key _ => key.handle ≠ null
    | .retain _ key | .checkRemove _ key _ _ => key.kind.refCounted = true
    | .free _ key => key.kind.refCounted = false
    | _ => True

def system : System (State τ) (Action τ) where
  step := step config demangle
  legal := legal

end

/-- How often a queue belongs into the list of a context. -/
def State.held (s : State τ) (context queue : Handle) : Nat :=
  if s.calls.Live ⟨.queue, queue⟩ ∧ (s.infos ⟨.queue, queue⟩).context = context then 1 else 0

/-- **The property**: an object is tracked exactly if it is live, the list of each context has its
live queues once and nothing else, and erasing from a list has always found its element. -/
structure State.Exact (s : State τ) : Prop where
  tracks : ∀ key, s.maps.tracks key = true ↔ s.calls.Live key
  lists : ∀ context queue,
    (s.maps.queues.contextQueuesMap context).count queue = s.held context queue
  found : s.maps.erasesEnd = false

/-! ## Refinement -/

/-- Of the maps, only what they track. -/
def State.tracker (s : State τ) : Tracker τ Key where
  calls := s.calls
  tracked := s.maps.tracks

/-- What is created has a handle, and what is being freed is an allocation. -/
structure Kinds (s : State τ) : Prop where
  creating : ∀ t key, s.calls.pending t = .creating key → key.handle ≠ null
  freeing : ∀ t key, s.calls.pending t = .freeing key → key.kind.refCounted = false

theorem refCount_eq_one_iff (s : State τ) (key : Key) (ok : Bool) :
    s.refCount key ok = 1 ↔ s.calls.SeesOne key ok := by
  cases ok <;> simp [State.refCount, Calls.SeesOne]

/-- **A step on the maps is one on the tracked handles.** -/
theorem tracks_mapsStep (config : Config) (demangle : String → String) {s : State τ} (h : Kinds s)
    (a : Action τ) (hl : legal s a) :
    (s.mapsStep config demangle a).tracks = s.tracker.track a.event := by
  cases a with
  | insert t =>
    obtain ⟨key, hpending⟩ := hl.1
    simp only [State.mapsStep, Tracker.track, State.tracker, Action.event, hpending]
    exact tracks_insert config demangle s.maps (h.creating t key hpending) _
  | checkRemove t key refCountOk contextOk =>
    rw [State.mapsStep, tracks_checkRemove s.maps hl.2]
    exact if_congr (refCount_eq_one_iff s key refCountOk) rfl rfl
  | remove t =>
    obtain ⟨key, hpending⟩ := hl.1
    simp only [State.mapsStep, Tracker.track, State.tracker, Action.event, hpending]
    exact tracks_remove s.maps (h.freeing t key hpending)
  | create t key info
  | retain t key
  | handOff t t' key
  | release t
  | free t key => rfl

/-! ## The lists of queues -/

/-- **The invariant.** In every state, between calls or not, the lists are the queues that have a
number. -/
structure Inv (s : State τ) : Prop where
  kinds : Kinds s
  tracker : s.tracker.Inv
  lists : ∀ context queue, (s.maps.queues.contextQueuesMap context).count queue =
    if s.maps.tracks ⟨.queue, queue⟩ = true ∧ (s.infos ⟨.queue, queue⟩).context = context
      then 1 else 0
  found : s.maps.erasesEnd = false

/-- **The condition on a step.** A release that destroys its object has seen the last reference, and
if that was a queue's its context was answered. A free erases the entry of an address that is not
allocated again, or that is but not inserted yet. -/
def StepOk (s : State τ) (a : Action τ) : Prop :=
  s.calls.Ok a.event ∧
    match a with
    | .checkRemove _ key refCountOk contextOk =>
      key.kind = .queue → s.calls.SeesOne key refCountOk → contextOk = true
    | _ => True

/-- Between calls the queues with a number are the live ones. -/
theorem Inv.exact {s : State τ} (h : Inv s) (hquiet : s.calls.Quiescent) : s.Exact := by
  have htracks : ∀ key, s.maps.tracks key = true ↔ s.calls.Live key := h.tracker.exact hquiet
  refine ⟨htracks, fun context queue => ?_, h.found⟩
  simp only [h.lists, htracks, State.held]

/-- Nobody is about to erase the number of a queue. -/
theorem Inv.not_freeing {s : State τ} (h : Inv s) (queue : Handle) :
    ¬ ∃ t, s.calls.pending t = .freeing ⟨.queue, queue⟩ :=
  fun ⟨t, ht⟩ => nomatch h.kinds.freeing t _ ht

/-- The lists after a step that leaves them, and the queues with a number, as they are. -/
theorem Inv.of_queues {s s' : State τ} (h : Inv s) (hkinds : Kinds s') (htracker : s'.tracker.Inv)
    (hqueues : s'.maps.queues = s.maps.queues ∧ s'.maps.erasesEnd = s.maps.erasesEnd)
    (htracks : ∀ queue, s'.maps.tracks ⟨.queue, queue⟩ = s.maps.tracks ⟨.queue, queue⟩)
    (hinfos : ∀ queue, s.maps.tracks ⟨.queue, queue⟩ = true →
      s'.infos ⟨.queue, queue⟩ = s.infos ⟨.queue, queue⟩) : Inv s' := by
  refine ⟨hkinds, htracker, fun context queue => ?_, hqueues.2.trans h.found⟩
  rw [hqueues.1, h.lists, htracks]
  cases hq : s.maps.tracks ⟨.queue, queue⟩ with
  | false => rfl
  | true => rw [hinfos queue hq]

theorem inv_initial : Inv ({} : State τ) := by
  have hinit : ({} : State τ).tracker = {} := by
    have htracks : ({} : Maps).tracks = fun _ => false := by
      funext key
      obtain ⟨kind, handle⟩ := key
      cases kind <;> rfl
    rw [State.tracker, htracks]
  refine ⟨⟨fun _ _ h => (nomatch h), fun _ _ h => (nomatch h)⟩, ?_, fun _ _ => rfl, rfl⟩
  rw [hinit]
  exact Tracker.inv_initial

/-! ## Steps -/

variable [DecidableEq τ]

theorem kinds_step (config : Config) (demangle : String → String) (s : State τ) (a : Action τ)
    (h : Kinds s) (hl : legal s a) : Kinds (step config demangle s a) := by
  cases a with
  | create t key info =>
    refine ⟨fun t' key' hp => ?_, fun t' key' hp => ?_⟩ <;> by_cases ht : t' = t
    · have heq : key = key' := by simpa [step, Calls.step, Action.event, ht] using hp
      exact heq ▸ hl.2
    · exact h.creating t' key' (by simpa [step, Calls.step, Action.event, ht] using hp)
    · simp [step, Calls.step, Action.event, ht] at hp
    · exact h.freeing t' key' (by simpa [step, Calls.step, Action.event, ht] using hp)
  | free t key =>
    refine ⟨fun t' key' hp => ?_, fun t' key' hp => ?_⟩ <;> by_cases ht : t' = t
    · simp [step, Calls.step, Action.event, ht] at hp
    · exact h.creating t' key' (by simpa [step, Calls.step, Action.event, ht] using hp)
    · have heq : key = key' := by simpa [step, Calls.step, Action.event, ht] using hp
      exact heq ▸ hl.2
    · exact h.freeing t' key' (by simpa [step, Calls.step, Action.event, ht] using hp)
  | release t =>
    obtain ⟨key, sawOne, hpending⟩ := hl.1
    refine ⟨fun t' key' hp => ?_, fun t' key' hp => ?_⟩ <;> by_cases ht : t' = t
    · simp [step, Calls.step, Action.event, hpending, ht] at hp
    · exact h.creating t' key' (by simpa [step, Calls.step, Action.event, hpending, ht] using hp)
    · simp [step, Calls.step, Action.event, hpending, ht] at hp
    · exact h.freeing t' key' (by simpa [step, Calls.step, Action.event, hpending, ht] using hp)
  | insert t
  | checkRemove t _ _ _
  | remove t =>
    refine ⟨fun t' key' hp => ?_, fun t' key' hp => ?_⟩ <;> by_cases ht : t' = t
    · simp [step, Calls.step, Action.event, ht] at hp
    · exact h.creating t' key' (by simpa [step, Calls.step, Action.event, ht] using hp)
    · simp [step, Calls.step, Action.event, ht] at hp
    · exact h.freeing t' key' (by simpa [step, Calls.step, Action.event, ht] using hp)
  | retain t key
  | handOff t t' key => exact ⟨h.creating, h.freeing⟩

theorem refines (config : Config) (demangle : String → String) :
    System.Refines (system config demangle) (SharedHandles.system τ Key) State.tracker Action.event
      Kinds where
  inv := kinds_step config demangle
  legal _ _ _ hl := hl.1
  step s a h hl := by
    show State.tracker (step config demangle s a) = Tracker.step s.tracker a.event
    rw [State.tracker, Tracker.step, ← tracks_mapsStep config demangle h a hl]
    rfl

/-- A creation gives a handle that no list has. -/
theorem Inv.create (config : Config) (demangle : String → String) {s : State τ} (h : Inv s) {t : τ}
    {key : Key} {info : Info} (hl : legal s (.create t key info))
    (hkinds : Kinds (step config demangle s (.create t key info)))
    (htracker : (step config demangle s (.create t key info)).tracker.Inv) :
    Inv (step config demangle s (.create t key info)) := by
  refine h.of_queues hkinds htracker ⟨rfl, rfl⟩ (fun _ => rfl) fun queue hqueue => ?_
  have hne : (⟨.queue, queue⟩ : Key) ≠ key := fun heq =>
    hl.1.2 (heq ▸ (h.tracker.live ⟨.queue, queue⟩ hqueue).resolve_right (h.not_freeing queue))
  exact Function.update_of_ne hne info s.infos

/-- An insertion pushes a queue that no list has. -/
theorem Inv.insert (config : Config) (demangle : String → String) {s : State τ} (h : Inv s) {t : τ}
    (hl : legal s (.insert t)) (hkinds : Kinds (step config demangle s (.insert t)))
    (htracker : (step config demangle s (.insert t)).tracker.Inv) :
    Inv (step config demangle s (.insert t)) := by
  obtain ⟨⟨key, hpending⟩, -⟩ := hl
  have hmaps : (step config demangle s (.insert t)).maps =
      s.maps.insert config demangle key (s.infos key) := by
    simp only [step, State.mapsStep, hpending]
  have hne := h.kinds.creating t key hpending
  have htracks := tracks_insert config demangle s.maps hne (s.infos key)
  by_cases hkind : key.kind = .queue
  · obtain ⟨kind, handle⟩ := key
    subst hkind
    have hnew : s.maps.tracks ⟨.queue, handle⟩ = false := by
      cases hold : s.maps.tracks ⟨.queue, handle⟩ with
      | false => rfl
      | true => exact absurd (h.tracker.fresh t _ hpending hold) (h.not_freeing handle)
    refine ⟨hkinds, htracker, fun context queue => ?_, ?_⟩
    · show ((step config demangle s (.insert t)).maps.queues.contextQueuesMap context).count queue =
        if _ ∧ (s.infos ⟨.queue, queue⟩).context = context then 1 else 0
      rw [hmaps, htracks]
      show ((addQueue _ handle s.maps.queues).contextQueuesMap context).count queue = _
      rw [count_addQueue _ hne, h.lists]
      by_cases hq : queue = handle
      · subst hq
        simp [hnew, eq_comm (a := context)]
      · have hkey : (⟨.queue, queue⟩ : Key) ≠ ⟨.queue, handle⟩ := fun heq =>
          hq (congrArg Key.handle heq)
        simp [hq, hkey]
    · rw [hmaps]
      exact h.found
  · refine h.of_queues hkinds htracker ?_ (fun queue => ?_) fun _ _ => rfl
    · rw [hmaps]
      exact queues_insert config demangle s.maps hkind _
    · rw [hmaps, htracks, Function.update_of_ne]
      exact fun heq => hkind (heq ▸ rfl)

/-- A check that sees the last reference of a queue takes it out of its list. -/
theorem Inv.checkRemove (config : Config) (demangle : String → String) {s : State τ} (h : Inv s)
    {t : τ} {key : Key} {refCountOk contextOk : Bool}
    (hl : legal s (.checkRemove t key refCountOk contextOk))
    (hok : StepOk s (.checkRemove t key refCountOk contextOk))
    (hkinds : Kinds (step config demangle s (.checkRemove t key refCountOk contextOk)))
    (htracker : (step config demangle s (.checkRemove t key refCountOk contextOk)).tracker.Inv) :
    Inv (step config demangle s (.checkRemove t key refCountOk contextOk)) := by
  have htracks := tracks_checkRemove s.maps hl.2 (s.refCount key refCountOk)
    (s.context key contextOk)
  by_cases hlast : key.kind = .queue ∧ s.refCount key refCountOk = 1
  · obtain ⟨kind, handle⟩ := key
    obtain ⟨hkind, hone⟩ := hlast
    subst hkind
    -- The caller owns the queue and is in no other call, so nobody creates or releases it.
    have hnumber : s.maps.tracks ⟨.queue, handle⟩ = true := by
      refine h.tracker.tracked _ (List.ne_nil_of_mem hl.1.2) fun t' hholds => ?_
      have hsole : s.calls.owners ⟨.queue, handle⟩ = [t'] := h.tracker.calls.sole t' _ hholds
      have hmem : t ∈ s.calls.owners ⟨.queue, handle⟩ := hl.1.2
      rw [hsole, List.mem_singleton] at hmem
      exact (Calls.of_idle hl.1.1).1 _ (hmem ▸ hholds)
    have hcontext : s.context ⟨.queue, handle⟩ contextOk =
        some (s.infos ⟨.queue, handle⟩).context := by
      rw [State.context, if_pos (hok.2 rfl ((refCount_eq_one_iff s _ refCountOk).mp hone))]
    have hne := (s.infos ⟨.queue, handle⟩).context_ne
    have hmem : handle ∈ s.maps.queues.contextQueuesMap (s.infos ⟨.queue, handle⟩).context := by
      apply List.count_pos_iff.mp
      rw [h.lists, if_pos ⟨hnumber, rfl⟩]
      exact Nat.one_pos
    refine ⟨hkinds, htracker, fun context queue => ?_, ?_⟩
    · show ((s.maps.checkRemove ⟨.queue, handle⟩ _ _).queues.contextQueuesMap context).count queue =
        if (s.maps.checkRemove ⟨.queue, handle⟩ _ _).tracks _ = true ∧
          (s.infos ⟨.queue, queue⟩).context = context then 1 else 0
      rw [htracks, if_pos hone, hone, hcontext]
      show ((checkRemoveQueue handle 1 _ s.maps.queues).1.contextQueuesMap context).count queue = _
      rw [count_checkRemoveQueue hne, h.lists]
      by_cases hq : queue = handle
      · subst hq
        by_cases hc : context = (s.infos ⟨.queue, queue⟩).context <;> simp [hnumber, hc, Ne.symm]
      · have hkey : (⟨.queue, queue⟩ : Key) ≠ ⟨.queue, handle⟩ := fun heq =>
          hq (congrArg Key.handle heq)
        simp [hq, hkey]
    · show (s.maps.erasesEnd || (checkRemoveQueue handle _ _ s.maps.queues).2) = false
      rw [h.found, hone, hcontext]
      simp [checkRemoveQueue, hne, hmem]
  · refine h.of_queues hkinds htracker (queues_checkRemove s.maps hlast _) (fun queue => ?_)
      fun _ _ => rfl
    show (s.maps.checkRemove key _ _).tracks _ = _
    rw [htracks]
    split
    · next hone =>
      rw [Function.update_of_ne]
      exact fun heq => hlast ⟨heq ▸ rfl, hone⟩
    · rfl

/-- **A step that meets its condition keeps the invariant.** -/
theorem Inv.step (config : Config) (demangle : String → String) {s : State τ} (h : Inv s)
    (a : Action τ) (hl : legal s a) (hok : StepOk s a) : Inv (step config demangle s a) := by
  have href := refines (τ := τ) config demangle
  have hkinds := href.inv s a h.kinds hl
  have htracker : (Interleaving.step config demangle s a).tracker.Inv := by
    have hnext := h.tracker.step a.event (href.legal s a h.kinds hl) hok.1
    rwa [← show _ = s.tracker.step a.event from href.step s a h.kinds hl] at hnext
  cases a with
  | create t key info => exact h.create config demangle hl hkinds htracker
  | insert t => exact h.insert config demangle hl hkinds htracker
  | checkRemove t key refCountOk contextOk =>
    exact h.checkRemove config demangle hl hok hkinds htracker
  | remove t =>
    obtain ⟨key, hpending⟩ := hl.1
    have hkind := h.kinds.freeing t key hpending
    have hmaps : (Interleaving.step config demangle s (.remove t)).maps = s.maps.remove key := by
      simp only [Interleaving.step, State.mapsStep, hpending]
    refine h.of_queues hkinds htracker ?_ (fun queue => ?_) fun _ _ => rfl
    · rw [hmaps]
      exact queues_remove s.maps key
    · rw [hmaps, tracks_remove s.maps hkind, Function.update_of_ne]
      exact fun heq => nomatch heq ▸ hkind
  | retain t key
  | handOff t t' key
  | release t
  | free t key => exact h.of_queues hkinds htracker ⟨rfl, rfl⟩ (fun _ => rfl) fun _ _ => rfl

/-! ## Runs -/

/-- **Between calls exactly the live objects are tracked**, and each queue in the list of its
context, in runs whose steps meet their conditions. -/
theorem exact_of_stepOk (config : Config) (demangle : String → String) {run : List (Action τ)}
    (hlegal : (system config demangle).Legal {} run)
    (hok : (system config demangle).Each StepOk {} run) :
    (system config demangle).Always (fun s => s.calls.Quiescent → s.Exact) {} run := by
  refine System.Always.mono (P := Inv) (fun s h => h.exact) ?_
  exact System.always_of_each (fun s a h hl hok => h.step config demangle a hl hok) inv_initial
    hlegal hok

/-- A kernel, a queue and an allocation. -/
def copyKernel : Key := ⟨.kernel, 16⟩
def someQueue : Key := ⟨.queue, 32⟩
def hostMemory : Key := ⟨.usmAllocation, 4096⟩

/-- What is recorded of them. -/
def someInfo : Info := { size := 64, program := 8, kernelName := "copy" }

/-- Two threads release a kernel one after the other, and one of them releases a queue and frees an
allocation. -/
def inTurn : List (Action Nat) :=
  [.create 0 copyKernel someInfo, .insert 0, .retain 0 copyKernel, .handOff 0 1 copyKernel,
    .checkRemove 0 copyKernel true true, .release 0, .checkRemove 1 copyKernel true true,
    .release 1, .create 0 someQueue someInfo, .insert 0, .checkRemove 0 someQueue true true,
    .release 0, .create 0 hostMemory someInfo, .insert 0, .free 0 hostMemory, .remove 0]

theorem legal_inTurn : (system {} id).Legal {} inTurn := by
  refine ⟨⟨⟨rfl, not_not.mpr rfl⟩, by decide⟩, ⟨⟨_, rfl⟩, trivial⟩, ⟨⟨rfl, by decide⟩, rfl⟩,
    ⟨⟨rfl, by decide⟩, trivial⟩, ⟨⟨rfl, by decide⟩, rfl⟩, ⟨⟨_, _, rfl⟩, trivial⟩,
    ⟨⟨rfl, by decide⟩, rfl⟩, ⟨⟨_, _, rfl⟩, trivial⟩, ⟨⟨rfl, not_not.mpr rfl⟩, by decide⟩,
    ⟨⟨_, rfl⟩, trivial⟩, ⟨⟨rfl, by decide⟩, rfl⟩, ⟨⟨_, _, rfl⟩, trivial⟩,
    ⟨⟨rfl, not_not.mpr rfl⟩, by decide⟩, ⟨⟨_, rfl⟩, trivial⟩, ⟨⟨rfl, rfl⟩, rfl⟩,
    ⟨⟨_, rfl⟩, trivial⟩, trivial⟩

theorem stepOk_inTurn : (system {} id).Each StepOk {} inTurn := by
  refine ⟨⟨trivial, trivial⟩, ⟨trivial, trivial⟩, ⟨trivial, trivial⟩, ⟨trivial, trivial⟩,
    ⟨trivial, fun _ _ => rfl⟩, ⟨fun key h => ?_, trivial⟩, ⟨trivial, fun _ _ => rfl⟩,
    ⟨fun key h => (nomatch h), trivial⟩, ⟨trivial, trivial⟩, ⟨trivial, trivial⟩,
    ⟨trivial, fun _ _ => rfl⟩, ⟨fun key h => (nomatch h), trivial⟩, ⟨trivial, trivial⟩,
    ⟨trivial, trivial⟩, ⟨trivial, trivial⟩, ⟨fun key h hlive => ?_, trivial⟩, trivial⟩
  · cases h
    decide
  · cases h
    exact absurd rfl hlive

theorem exact_inTurn : (system {} id).Always (fun s => s.calls.Quiescent → s.Exact) {} inTurn :=
  exact_of_stepOk {} id legal_inTurn stepOk_inTurn

/-- Both threads see the reference of the other. -/
def overlappingReleases : List (Action Nat) :=
  [.create 0 copyKernel someInfo, .insert 0, .retain 0 copyKernel, .handOff 0 1 copyKernel,
    .checkRemove 0 copyKernel true true, .checkRemove 1 copyKernel true true, .release 0,
    .release 1]

/-- The address is allocated again between the two steps of its free. -/
def overlappingFree : List (Action Nat) :=
  [.create 0 hostMemory someInfo, .insert 0, .free 0 hostMemory, .create 1 hostMemory someInfo,
    .insert 1, .remove 0]

/-- The context of a queue is not answered. -/
def contextWithheld : List (Action Nat) :=
  [.create 0 someQueue someInfo, .insert 0, .checkRemove 0 someQueue true false, .release 0]

/-- **A destroyed kernel stays tracked, a live allocation is not tracked, and a destroyed queue stays
in its list.** -/
theorem overlapping_calls :
    ((system {} id).Legal {} overlappingReleases ∧
      ¬ (system {} id).Always (fun s => s.calls.Quiescent → s.Exact) {} overlappingReleases) ∧
    ((system {} id).Legal {} overlappingFree ∧
      ¬ (system {} id).Always (fun s => s.calls.Quiescent → s.Exact) {} overlappingFree) ∧
    (system {} id).Legal {} contextWithheld ∧
      ¬ (system {} id).Always (fun s => s.calls.Quiescent → s.Exact) {} contextWithheld := by
  refine ⟨⟨?_, fun h => ?_⟩, ⟨?_, fun h => ?_⟩, ?_, fun h => ?_⟩
  · exact ⟨⟨⟨rfl, not_not.mpr rfl⟩, by decide⟩, ⟨⟨_, rfl⟩, trivial⟩, ⟨⟨rfl, by decide⟩, rfl⟩,
      ⟨⟨rfl, by decide⟩, trivial⟩, ⟨⟨rfl, by decide⟩, rfl⟩, ⟨⟨rfl, by decide⟩, rfl⟩,
      ⟨⟨_, _, rfl⟩, trivial⟩, ⟨⟨_, _, rfl⟩, trivial⟩, trivial⟩
  · have hquiet : ((system {} id).exec {} overlappingReleases).calls.Quiescent
      | 0 => rfl
      | 1 => rfl
      | _ + 2 => rfl
    exact ((h.last hquiet).tracks copyKernel).mp (by decide) rfl
  · exact ⟨⟨⟨rfl, not_not.mpr rfl⟩, by decide⟩, ⟨⟨_, rfl⟩, trivial⟩, ⟨⟨rfl, rfl⟩, rfl⟩,
      ⟨⟨rfl, not_not.mpr rfl⟩, by decide⟩, ⟨⟨_, rfl⟩, trivial⟩, ⟨⟨_, rfl⟩, trivial⟩, trivial⟩
  · have hquiet : ((system {} id).exec {} overlappingFree).calls.Quiescent
      | 0 => rfl
      | 1 => rfl
      | _ + 2 => rfl
    exact absurd (((h.last hquiet).tracks hostMemory).mpr (List.cons_ne_nil _ _)) (by decide)
  · exact ⟨⟨⟨rfl, not_not.mpr rfl⟩, by decide⟩, ⟨⟨_, rfl⟩, trivial⟩, ⟨⟨rfl, by decide⟩, rfl⟩,
      ⟨⟨_, _, rfl⟩, trivial⟩, trivial⟩
  · have hquiet : ((system {} id).exec {} contextWithheld).calls.Quiescent
      | 0 => rfl
      | _ + 1 => rfl
    exact absurd ((h.last hquiet).lists 1 32) (by decide)

end CLIntercept.Track.Interleaving
