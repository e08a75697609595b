import CLIntercept.Device.QueueProperties
import CLIntercept.Lib.Upsert
import Mathlib.Data.List.Count

/-!
# Property lists that are rewritten

`contextCallbackOverrideInit`, `usmAllocPropertiesOverride` and `createMDAPICommandQueueProperties`
hand the driver a copy of the application's property list in which some keys have values of the
layer's own. One pass over the list counts its elements and notes which of these keys it has, a second
copies it, and the missing keys are added behind it.

The three are one function of the keys that each of them has for itself. What it stores is the list
that `Lib.KeyUpdate.upsert` describes, `holds_rewriteProperties`, and for that the laws are proved.
-/

set_option autoImplicit false

namespace CLIntercept.Device

open CLIntercept.Lib

/-! ## One function with the layer's keys as parameter -/

/-- A key of the layer: its value, given that of the application or zero, and whether it is to be
added where it is missing. -/
structure OwnProperty extends KeyUpdate UInt64 UInt64 where
  add : Bool := true

def updatesOf (own : List OwnProperty) : List (KeyUpdate UInt64 UInt64) :=
  own.map OwnProperty.toKeyUpdate

/-- The `add` flags: the keys that are still to be added after the first pass. -/
def addsAfter (own : List OwnProperty) (keys : List UInt64) : List OwnProperty :=
  keys.foldl (fun add key => add.filter fun o => o.key ≠ key) (own.filter (·.add))

def rewriteProperties (own : List OwnProperty) (properties : Option QueueProperties) :
    LocalProperties :=
  let add := addsAfter own (keysOf properties)
  let s : Stores := ((pairsOf properties).map (KeyUpdate.substitute (updatesOf own))).foldl
    Stores.add {}
  let s := (add.map fun o => (o.key, o.update 0)).foldl Stores.add s
  s.finish (2 * (pairsOf properties).length + 2 * add.length + 1)

/-! ## The three functions -/

def clContextShowDiagnosticsIntel : UInt64 := 0x4106

/-- `SContextCallbackInfo`, without the pointer to the layer. -/
structure SContextCallbackInfo where
  pApplicationCallback : Handle
  pUserData : Handle
  deriving DecidableEq, Repr

/-- What the context is created with. -/
inductive ContextCallback where
  | application (pCallback pUserData : Handle)
  | contextCallbackCaller (info : SContextCallbackInfo)
  deriving DecidableEq, Repr

structure ContextOverride where
  callback : ContextCallback
  pLocalContextProperties : Option LocalProperties

def ownContextProperties (config : Config) : List OwnProperty :=
  [{ key := clContextShowDiagnosticsIntel
     update := fun _ => config.contextHintLevel.toUInt64 }]

def contextCallbackOverrideInit (config : Config) (properties : Option QueueProperties)
    (pCallback pUserData : Handle) : ContextOverride where
  callback :=
    if config.contextCallbackLogging then .contextCallbackCaller ⟨pCallback, pUserData⟩
    else .application pCallback pUserData
  pLocalContextProperties :=
    if config.contextHintLevel ≠ 0 then
      some (rewriteProperties (ownContextProperties config) properties)
    else none

def clMemFlags : UInt64 := 0x1101
def clMemAllowUnrestrictedSizeIntel : UInt64 := (1 : UInt64) <<< 23

def ownAllocProperties (config : Config) : List OwnProperty :=
  [{ key := clMemFlags
     update := fun flags =>
      if config.relaxAllocationLimits then flags ||| clMemAllowUnrestrictedSizeIntel else flags
     add := config.relaxAllocationLimits }]

def usmAllocPropertiesOverride (config : Config) (properties : Option QueueProperties) :
    LocalProperties :=
  rewriteProperties (ownAllocProperties config) properties

def clQueueMdapiPropertiesIntel : UInt64 := 0x425E
def clQueueMdapiConfigurationIntel : UInt64 := 0x425F
def clQueueMdapiEnableIntel : UInt64 := 1

def ownQueueProperties (configuration : UInt32) : List OwnProperty :=
  [{ key := clQueueMdapiPropertiesIntel, update := fun _ => clQueueMdapiEnableIntel },
   { key := clQueueMdapiConfigurationIntel, update := fun _ => configuration.toUInt64 }]

def createMDAPICommandQueueProperties (configuration : UInt32)
    (properties : Option QueueProperties) : LocalProperties :=
  rewriteProperties (ownQueueProperties configuration) properties

/-! ## What an array holds -/

/-- What was stored last at an index. -/
def LocalProperties.element (p : LocalProperties) (i : Nat) : Option UInt64 :=
  p.stores.reverse.lookup i

def elementsOf (pairs : List (UInt64 × UInt64)) : List UInt64 :=
  pairs.flatMap fun pair => [pair.1, pair.2]

/-- **The array is the list with its terminating zero.** -/
def LocalProperties.Holds (p : LocalProperties) (q : QueueProperties) : Prop :=
  ∀ i x, (elementsOf q.pairs ++ [0])[i]? = some x → p.element i = some x

theorem snd_foldl_add (s : Stores) (pairs : List (UInt64 × UInt64)) :
    (pairs.foldl Stores.add s).stores.map (·.2) = s.stores.map (·.2) ++ elementsOf pairs := by
  induction pairs generalizing s with
  | nil => exact (List.append_nil _).symm
  | cons pair pairs ih =>
    rw [List.foldl_cons, ih, Stores.add, List.map_append, List.append_assoc]
    rfl

/-- The stores go from the first place to the terminating zero, without a gap. -/
theorem fst_finish {s : Stores} (h : s.Dense) (allocated : Nat) :
    (s.finish allocated).stores.map (·.1) = List.range (s.numProperties + 1) := by
  rw [Stores.finish, List.map_append, h, List.range_succ]
  rfl

/-- Stores at 0, 1, 2 and so on: each index has the value that was stored there. -/
theorem lookup_reverse_of_dense (stores : List (Nat × UInt64))
    (h : stores.map (·.1) = List.range stores.length) (i : Nat) :
    stores.reverse.lookup i = (stores.map (·.2))[i]? := by
  induction stores using List.reverseRecOn with
  | nil => rfl
  | append_singleton stores store ih =>
    rw [List.map_append, List.length_append, List.length_singleton, List.range_succ] at h
    obtain ⟨hinit, hlast⟩ := List.append_inj h (by simp)
    have hindex : store.1 = stores.length := by simpa using hlast
    rw [List.reverse_concat, List.lookup_cons, List.map_append, List.map_singleton, ih hinit]
    by_cases hi : i = stores.length
    · subst hi
      rw [hindex, beq_self_eq_true, List.getElem?_append_right (by simp)]
      simp
    · rw [beq_eq_false_iff_ne.mpr (hindex ▸ hi)]
      by_cases hlt : i < stores.length
      · rw [List.getElem?_append_left (by simpa using hlt)]
      · rw [List.getElem?_eq_none (by simpa using Nat.le_of_not_lt hlt),
          List.getElem?_eq_none (by simp; omega)]

/-- A list whose pairs are stored one behind the other. -/
theorem holds_finish (q : QueueProperties) (allocated : Nat) :
    ((q.pairs.foldl Stores.add {}).finish allocated).Holds q := by
  intro i x hx
  have hdense : Stores.Dense (q.pairs.foldl Stores.add {}) := dense_empty.foldl _
  rw [LocalProperties.element, lookup_reverse_of_dense, Stores.finish, List.map_append,
    snd_foldl_add]
  · exact hx
  · have hindices := fst_finish hdense allocated
    have hlength := congrArg List.length hindices
    rw [List.length_map, List.length_range] at hlength
    rw [hindices, hlength]

/-! ## What the function stores -/

/-- Added is what is to be added and not there already. -/
theorem addsAfter_eq (own : List OwnProperty) (keys : List UInt64) :
    addsAfter own keys = own.filter fun o => o.add && decide (o.key ∉ keys) := by
  unfold addsAfter
  generalize hadd : own.filter (·.add) = add
  have hfold : keys.foldl (fun add key => add.filter fun o => o.key ≠ key) add =
      add.filter fun o => decide (o.key ∉ keys) := by
    clear hadd
    induction keys generalizing add with
    | nil => simp
    | cons key keys ih =>
      rw [List.foldl_cons, ih, List.filter_filter]
      refine List.filter_congr fun o _ => ?_
      rw [Bool.and_comm]
      simp
  rw [hfold, ← hadd, List.filter_filter]
  exact List.filter_congr fun o _ => Bool.and_comm ..

/-- The keys of the layer are all to be added, no two are the same, and none is zero. -/
structure OwnProperty.Proper (own : List OwnProperty) : Prop where
  add : ∀ o ∈ own, o.add = true
  nodup : (own.map fun o => o.key).Nodup
  keys : ∀ o ∈ own, o.key ≠ 0
  idem : ∀ o ∈ own, ∀ value, o.update (o.update value) = o.update value

/-- What is handed to the driver, as a list. -/
def rewritten (own : List OwnProperty) (properties : Option QueueProperties) :
    List (UInt64 × UInt64) :=
  KeyUpdate.upsert (updatesOf own) 0 (pairsOf properties)

section

variable {own : List OwnProperty}

theorem addsAfter_keysOf (h : OwnProperty.Proper own) (properties : Option QueueProperties) :
    (addsAfter own (keysOf properties)).map OwnProperty.toKeyUpdate =
      KeyUpdate.missing (updatesOf own) (pairsOf properties) := by
  rw [addsAfter_eq, KeyUpdate.missing, updatesOf, List.filter_map]
  refine congrArg _ (List.filter_congr fun o ho => ?_)
  rw [h.add o ho, Bool.true_and]
  rfl

/-- A rewriting stores its pairs and ends the list. -/
theorem rewriteProperties_eq (h : OwnProperty.Proper own) (properties : Option QueueProperties) :
    rewriteProperties own properties =
      ((rewritten own properties).foldl Stores.add {}).finish
        (2 * (rewritten own properties).length + 1) := by
  have hadd := addsAfter_keysOf h properties
  have hpairs : (addsAfter own (keysOf properties)).map (fun o => (o.key, o.update 0)) =
      (KeyUpdate.missing (updatesOf own) (pairsOf properties)).map fun u => (u.key, u.update 0) := by
    rw [← hadd, List.map_map]
    rfl
  have hlength : (addsAfter own (keysOf properties)).length =
      (KeyUpdate.missing (updatesOf own) (pairsOf properties)).length := by
    rw [← hadd, List.length_map]
  unfold rewriteProperties rewritten KeyUpdate.upsert
  dsimp only
  rw [hpairs, hlength, ← List.foldl_append, List.length_append, List.length_map, List.length_map,
    Nat.mul_add]

/-- **The array is large enough.** -/
theorem fits_rewriteProperties (h : OwnProperty.Proper own) (properties : Option QueueProperties) :
    (rewriteProperties own properties).Fits := by
  rw [rewriteProperties_eq h, Stores.Dense.fits_iff (dense_empty.foldl _), numProperties_foldl]
  exact Nat.le_of_eq (congrArg (· + 1) (Nat.zero_add _))

/-- No key of the new list is the zero that ends it. -/
theorem rewritten_keys (h : OwnProperty.Proper own) (properties : Option QueueProperties) :
    ∀ pair ∈ rewritten own properties, pair.1 ≠ 0 := by
  intro pair hpair
  have hkey : pair.1 ∈ (rewritten own properties).map Prod.fst := List.mem_map_of_mem hpair
  rw [rewritten, KeyUpdate.keys_upsert, List.mem_append] at hkey
  rcases hkey with hkey | hkey
  · obtain ⟨original, horiginal, heq⟩ := List.mem_map.mp hkey
    cases properties with
    | none => cases horiginal
    | some properties => exact heq ▸ properties.keys original horiginal
  · obtain ⟨u, hu, heq⟩ := List.mem_map.mp hkey
    obtain ⟨o, ho, rfl⟩ := List.mem_map.mp (List.mem_filter.mp hu).1
    exact heq ▸ h.keys o ho

/-- The list of the driver. -/
def rewrittenList (h : OwnProperty.Proper own) (properties : Option QueueProperties) :
    QueueProperties where
  pairs := rewritten own properties
  keys := rewritten_keys h properties

/-- **The array holds the rewritten list.** -/
theorem holds_rewriteProperties (h : OwnProperty.Proper own) (properties : Option QueueProperties) :
    (rewriteProperties own properties).Holds (rewrittenList h properties) := by
  rw [rewriteProperties_eq h]
  exact holds_finish (rewrittenList h properties) _

/-- **Rewriting again changes nothing.** -/
theorem rewriteProperties_again (h : OwnProperty.Proper own) (properties : Option QueueProperties) :
    rewriteProperties own (some (rewrittenList h properties)) = rewriteProperties own properties := by
  have hupdates : ((updatesOf own).map KeyUpdate.key).Nodup := by
    rw [updatesOf, List.map_map]
    exact h.nodup
  have hidem : ∀ u ∈ updatesOf own, ∀ value, u.update (u.update value) = u.update value := by
    intro u hu
    obtain ⟨o, ho, rfl⟩ := List.mem_map.mp hu
    exact h.idem o ho
  have hsame : rewritten own (some (rewrittenList h properties)) = rewritten own properties :=
    KeyUpdate.upsert_upsert hupdates hidem 0
  rw [rewriteProperties_eq h, rewriteProperties_eq h, hsame]

/-! ## The laws of the three functions -/

/-- A list that was rewritten: `own` has the values of the layer's keys, given what the application
gave for them. -/
structure Rewritten (rewrite : Option QueueProperties → Option LocalProperties)
    (own : UInt64 → Option (UInt64 → UInt64)) (properties : Option QueueProperties)
    (p : LocalProperties) (q : QueueProperties) : Prop where
  built : rewrite properties = some p
  terminated : p.Holds q
  fits : p.Fits
  nodup : (keysOf (some q)).Nodup
  kept : ∀ key, own key = none → q.pairs.lookup key = (pairsOf properties).lookup key
  own : ∀ key value, own key = some value →
    (keysOf (some q)).count key = 1 ∧
      q.pairs.lookup key = some (value (((pairsOf properties).lookup key).getD 0))
  again : rewrite (some q) = some p

def ownValue (own : List OwnProperty) (key : UInt64) : Option (UInt64 → UInt64) :=
  (KeyUpdate.of? (updatesOf own) key).map KeyUpdate.update

/-- **The new list has the keys and values that it should**, whatever the layer's own properties. -/
theorem rewritten_of_proper (h : OwnProperty.Proper own) {properties : Option QueueProperties}
    (hnodup : (keysOf properties).Nodup) :
    Rewritten (fun list => some (rewriteProperties own list)) (ownValue own) properties
      (rewriteProperties own properties) (rewrittenList h properties) := by
  have hupdates : ((updatesOf own).map KeyUpdate.key).Nodup := by
    rw [updatesOf, List.map_map]
    exact h.nodup
  have hkeys : (keysOf (some (rewrittenList h properties))).Nodup :=
    KeyUpdate.nodup_keys_upsert hnodup hupdates 0
  have hlookup := @KeyUpdate.lookup_upsert _ _ _ (updatesOf own) (pairsOf properties) 0
  refine ⟨rfl, holds_rewriteProperties h properties, fits_rewriteProperties h properties, hkeys, ?_,
    ?_, congrArg some (rewriteProperties_again h properties)⟩
  · intro key hnone
    have hnone' := Option.map_eq_none_iff.mp hnone
    have hkey := hlookup key
    rw [hnone'] at hkey
    exact hkey
  · intro key value hsome
    obtain ⟨u, hu, rfl⟩ := Option.map_eq_some_iff.mp hsome
    have hmem : u ∈ updatesOf own := List.mem_of_find?_eq_some hu
    have hukey : u.key = key := by simpa using List.find?_some hu
    have hkey := hlookup key
    rw [hu] at hkey
    exact ⟨List.count_eq_one_of_mem hkeys (hukey ▸ KeyUpdate.mem_keys_upsert hmem 0), hkey⟩

end

/-- The configured level. -/
def contextKeys (config : Config) (key : UInt64) : Option (UInt64 → UInt64) :=
  if key = clContextShowDiagnosticsIntel then some fun _ => config.contextHintLevel.toUInt64
  else none

/-- The application's flags with the bit. -/
def allocKeys (key : UInt64) : Option (UInt64 → UInt64) :=
  if key = clMemFlags then some fun flags => flags ||| clMemAllowUnrestrictedSizeIntel else none

def queueKeys (configuration : UInt32) (key : UInt64) : Option (UInt64 → UInt64) :=
  if key = clQueueMdapiPropertiesIntel then some fun _ => clQueueMdapiEnableIntel
  else if key = clQueueMdapiConfigurationIntel then some fun _ => configuration.toUInt64
  else none

/-- The value of a key, from the layer's own properties. -/
theorem ownValue_cons (o : OwnProperty) (own : List OwnProperty) (key : UInt64) :
    ownValue (o :: own) key = if key = o.key then some o.update else ownValue own key := by
  unfold ownValue updatesOf KeyUpdate.of?
  rw [List.map_cons, List.find?_cons]
  by_cases hkey : key = o.key
  · simp [hkey]
  · have hne : ¬ o.key = key := fun h => hkey h.symm
    simp [hkey, hne]

/-- A single key. -/
theorem OwnProperty.proper_singleton {o : OwnProperty} (hadd : o.add = true) (hkey : o.key ≠ 0)
    (hidem : ∀ value, o.update (o.update value) = o.update value) : OwnProperty.Proper [o] where
  add := List.forall_mem_singleton.mpr hadd
  nodup := List.nodup_singleton _
  keys := List.forall_mem_singleton.mpr hkey
  idem := List.forall_mem_singleton.mpr hidem

/-- The properties of a context. -/
theorem rewritten_context {config : Config} (hlevel : config.contextHintLevel ≠ 0)
    {properties : Option QueueProperties} (hnodup : (keysOf properties).Nodup)
    (pCallback pUserData : Handle) :
    ∃ p q, Rewritten
      (fun list =>
        (contextCallbackOverrideInit config list pCallback pUserData).pLocalContextProperties)
      (contextKeys config) properties p q := by
  have hkey : clContextShowDiagnosticsIntel ≠ 0 := by decide
  have hproper : OwnProperty.Proper (ownContextProperties config) :=
    OwnProperty.proper_singleton rfl hkey fun _ => rfl
  have hown : ownValue (ownContextProperties config) = contextKeys config :=
    funext fun key => ownValue_cons _ [] key
  have hfunction : (fun list =>
      (contextCallbackOverrideInit config list pCallback pUserData).pLocalContextProperties) =
        fun list => some (rewriteProperties (ownContextProperties config) list) :=
    funext fun list => if_pos hlevel
  rw [hfunction, ← hown]
  exact ⟨_, _, rewritten_of_proper hproper hnodup⟩

/-- The properties of an allocation. -/
theorem rewritten_alloc {config : Config} (hrelax : config.relaxAllocationLimits = true)
    {properties : Option QueueProperties} (hnodup : (keysOf properties).Nodup) :
    ∃ p q, Rewritten (fun list => some (usmAllocPropertiesOverride config list)) allocKeys
      properties p q := by
  have hkey : clMemFlags ≠ 0 := by decide
  have hidem (flags : UInt64) : (flags ||| clMemAllowUnrestrictedSizeIntel) |||
      clMemAllowUnrestrictedSizeIntel = flags ||| clMemAllowUnrestrictedSizeIntel := by
    rw [UInt64.or_assoc, UInt64.or_self]
  have hvalue : ownAllocProperties config =
      [{ key := clMemFlags, update := fun flags => flags ||| clMemAllowUnrestrictedSizeIntel }] := by
    simp [ownAllocProperties, hrelax]
  have hproper : OwnProperty.Proper (ownAllocProperties config) := by
    rw [hvalue]
    exact OwnProperty.proper_singleton rfl hkey hidem
  have hown : ownValue (ownAllocProperties config) = allocKeys := by
    rw [hvalue]
    exact funext fun key => ownValue_cons _ [] key
  rw [← hown]
  exact ⟨_, _, rewritten_of_proper hproper hnodup⟩

/-- The properties of a queue. -/
theorem rewritten_queue (configuration : UInt32) {properties : Option QueueProperties}
    (hnodup : (keysOf properties).Nodup) :
    ∃ p q, Rewritten (fun list => some (createMDAPICommandQueueProperties configuration list))
      (queueKeys configuration) properties p q := by
  have hkeys : (ownQueueProperties configuration).map (fun o => o.key) =
      [clQueueMdapiPropertiesIntel, clQueueMdapiConfigurationIntel] := rfl
  have hproper : OwnProperty.Proper (ownQueueProperties configuration) := by
    refine ⟨by simp [ownQueueProperties], by rw [hkeys]; decide, ?_, by simp [ownQueueProperties]⟩
    intro o ho
    have hmem : o.key ∈ [clQueueMdapiPropertiesIntel, clQueueMdapiConfigurationIntel] :=
      hkeys ▸ List.mem_map_of_mem ho
    have hzero : (0 : UInt64) ∉ [clQueueMdapiPropertiesIntel, clQueueMdapiConfigurationIntel] := by
      decide
    exact fun h => hzero (h ▸ hmem)
  have hown : ownValue (ownQueueProperties configuration) = queueKeys configuration := by
    funext key
    rw [ownQueueProperties, ownValue_cons, ownValue_cons]
    rfl
  rw [← hown]
  exact ⟨_, _, rewritten_of_proper hproper hnodup⟩

/-- **The three functions keep the meaning of a list**: the array that each of them builds holds a
list with the application's values, but for the keys of the layer. -/
theorem propertyLists_rewritten (config : Config) (configuration : UInt32)
    (pCallback pUserData : Handle) (properties : Option QueueProperties)
    (hnodup : (keysOf properties).Nodup) :
    (config.contextHintLevel ≠ 0 → ∃ p q, Rewritten
      (fun list =>
        (contextCallbackOverrideInit config list pCallback pUserData).pLocalContextProperties)
      (contextKeys config) properties p q) ∧
    (config.relaxAllocationLimits = true → ∃ p q, Rewritten
      (fun list => some (usmAllocPropertiesOverride config list)) allocKeys properties p q) ∧
    ∃ p q, Rewritten (fun list => some (createMDAPICommandQueueProperties configuration list))
      (queueKeys configuration) properties p q :=
  ⟨fun hlevel => rewritten_context hlevel hnodup pCallback pUserData,
    fun hrelax => rewritten_alloc hrelax hnodup, rewritten_queue configuration hnodup⟩

/-- Memory flags behind a platform. -/
def platformAndFlags : QueueProperties where
  pairs := [(0x1084, 9), (clMemFlags, 1)]
  keys := List.forall_mem_cons.mpr ⟨by decide, List.forall_mem_singleton.mpr (by decide)⟩

theorem propertyLists_rewritten_flags :
    (∃ p q, Rewritten
      (fun list => (contextCallbackOverrideInit { contextHintLevel := 255 } list 1
        2).pLocalContextProperties)
      (contextKeys { contextHintLevel := 255 }) (some platformAndFlags) p q) ∧
    ∃ p q, Rewritten
      (fun list => some (usmAllocPropertiesOverride { relaxAllocationLimits := true } list)) allocKeys
      (some platformAndFlags) p q :=
  ⟨(propertyLists_rewritten { contextHintLevel := 255 } 7 1 2 (some platformAndFlags)
      (by decide)).1 (by decide),
    (propertyLists_rewritten { relaxAllocationLimits := true } 7 1 2 (some platformAndFlags)
      (by decide)).2.1 rfl⟩

end CLIntercept.Device
