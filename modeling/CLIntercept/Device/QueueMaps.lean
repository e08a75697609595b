import CLIntercept.Device.PropertyLists

/-!
# What the property list of a command queue says

A driver reads a property list as a map from keys to values. Here the arrays of
`createCommandQueueProperties` and `createCommandQueuePropertiesOverride` are read so: both are lists
of pairs that are stored one behind the other, `holds_create` and `holds_createOverride`, and an array
holds one list only.

The second function keeps what the application asks for, whatever the configuration. The first agrees
with it but for a throttle hint that the device does not know: there it looks at the hint, where its
own count and the second function look at the extension as well. `queueMaps_iff` has the condition.

Whether the array is large enough is `propertiesFit_iff`, and does not matter here: a store behind it
counts as well.
-/

set_option autoImplicit false

namespace CLIntercept.Device

/-! ## The list of an array -/

/-- Two lists that can be read from one place are the same: the zero ends them both. -/
theorem pairs_eq_of_read (element : Nat → Option UInt64) (ps qs : List (UInt64 × UInt64))
    (hps : ∀ pair ∈ ps, pair.1 ≠ 0) (hqs : ∀ pair ∈ qs, pair.1 ≠ 0)
    (hp : ∀ i x, (elementsOf ps ++ [0])[i]? = some x → element i = some x)
    (hq : ∀ i x, (elementsOf qs ++ [0])[i]? = some x → element i = some x) : ps = qs := by
  induction ps generalizing qs element with
  | nil =>
    cases qs with
    | nil => rfl
    | cons q qs =>
      have hzero : some (0 : UInt64) = some q.1 := (hp 0 0 rfl).symm.trans (hq 0 q.1 rfl)
      exact absurd (Option.some.inj hzero).symm (hqs q List.mem_cons_self)
  | cons p ps ih =>
    cases qs with
    | nil =>
      have hzero : some (0 : UInt64) = some p.1 := (hq 0 0 rfl).symm.trans (hp 0 p.1 rfl)
      exact absurd (Option.some.inj hzero).symm (hps p List.mem_cons_self)
    | cons q qs =>
      have hkey : some p.1 = some q.1 := (hp 0 p.1 rfl).symm.trans (hq 0 q.1 rfl)
      have hvalue : some p.2 = some q.2 := (hp 1 p.2 rfl).symm.trans (hq 1 q.2 rfl)
      have htail := ih (fun i => element (i + 2)) qs
        (fun pair hpair => hps pair (List.mem_cons_of_mem _ hpair))
        (fun pair hpair => hqs pair (List.mem_cons_of_mem _ hpair))
        (fun i x hx => hp (i + 2) x hx) (fun i x hx => hq (i + 2) x hx)
      rw [htail, Prod.ext (Option.some.inj hkey) (Option.some.inj hvalue)]

/-- **An array holds one list only.** -/
theorem LocalProperties.Holds.unique {p : LocalProperties} {q q' : QueueProperties}
    (h : p.Holds q) (h' : p.Holds q') : q.pairs = q'.pairs :=
  pairs_eq_of_read p.element q.pairs q'.pairs q.keys q'.keys h h'

/-- A pair where the condition asks for it. -/
def pairIf (c : Prop) [Decidable c] (pair : UInt64 × UInt64) : List (UInt64 × UInt64) :=
  if c then [pair] else []

/-- A pair that may be left out is stored or not. -/
theorem foldl_pairIf (s : Stores) (c : Prop) [Decidable c] (pair : UInt64 × UInt64) :
    (pairIf c pair).foldl Stores.add s = if c then s.add pair else s := by
  unfold pairIf
  split <;> rfl

theorem mem_pairIf {c : Prop} [Decidable c] {pair other : UInt64 × UInt64} :
    other ∈ pairIf c pair ↔ c ∧ other = pair := by
  unfold pairIf
  split
  · next h => simp [h]
  · next h => simp [h]

theorem mem_keys_pairIf {c : Prop} [Decidable c] {pair : UInt64 × UInt64} {key : UInt64} :
    key ∈ (pairIf c pair).map Prod.fst ↔ c ∧ key = pair.1 := by
  unfold pairIf
  split
  · next h => simp [h]
  · next h => simp [h]

/-- A pair is not found under another key. -/
theorem lookup_pairIf_ne {key : UInt64} (pair : UInt64 × UInt64) (h : key ≠ pair.1) (c : Prop)
    [Decidable c] : (pairIf c pair).lookup key = none := by
  unfold pairIf
  split
  · rw [List.lookup_cons, beq_eq_false_iff_ne.mpr h]
    rfl
  · rfl

/-- A pair that may be left out is found under its key if it is there. -/
theorem lookup_pairIf_self (c : Prop) [Decidable c] (pair : UInt64 × UInt64) :
    (pairIf c pair).lookup pair.1 = if c then some pair.2 else none := by
  unfold pairIf
  split
  · rw [List.lookup_cons_self]
  · rfl

/-! ## The lists of the two functions -/

section

variable (config : Config) (checkDeviceForExtension : String → Bool)

instance : Decidable (AsksPriority config checkDeviceForExtension) :=
  inferInstanceAs (Decidable (_ ∧ _))

instance : Decidable (AsksThrottle config checkDeviceForExtension) :=
  inferInstanceAs (Decidable (_ ∧ _))

/-- `{CL_QUEUE_PROPERTIES, p, 0}`. -/
def onlyQueueProperties (p : UInt64) : QueueProperties where
  pairs := [(clQueueProperties, p)]
  keys := List.forall_mem_singleton.mpr (show (0x1093 : UInt64) ≠ 0 by decide)

/-- What `createCommandQueueProperties` stores. -/
def createdPairs (props : UInt64) : List (UInt64 × UInt64) :=
  pairIf (AsksPriority config checkDeviceForExtension) (priorityPair config) ++
    pairIf (config.defaultQueueThrottleHint ≠ 0) (throttlePair config) ++
    [(clQueueProperties, modifyCommandQueueProperties config props)]

/-- What `createCommandQueuePropertiesOverride` adds to the pairs of the application. -/
def addedPairs (keys : List UInt64) : List (UInt64 × UInt64) :=
  pairIf (AsksPriority config checkDeviceForExtension ∧ clQueuePriority ∉ keys)
      (priorityPair config) ++
    pairIf (AsksThrottle config checkDeviceForExtension ∧ clQueueThrottle ∉ keys)
      (throttlePair config) ++
    pairIf (clQueueProperties ∉ keys)
      (clQueueProperties, modifyCommandQueueProperties config 0)

def overriddenPairs (properties : Option QueueProperties) : List (UInt64 × UInt64) :=
  (pairsOf properties).map (copiedPair config) ++
    addedPairs config checkDeviceForExtension (keysOf properties)

end

variable {config : Config} {checkDeviceForExtension : String → Bool}

theorem fst_copiedPair (pair : UInt64 × UInt64) : (copiedPair config pair).1 = pair.1 := by
  unfold copiedPair
  split <;> rfl

/-- Copying changes values, not keys. -/
theorem keys_map_copiedPair (pairs : List (UInt64 × UInt64)) :
    (pairs.map (copiedPair config)).map Prod.fst = pairs.map Prod.fst := by
  rw [List.map_map]
  exact List.map_congr_left fun pair _ => fst_copiedPair pair

/-- What becomes of a value of the application. -/
def copiedValue (config : Config) (key value : UInt64) : UInt64 :=
  if key = clQueueProperties then modifyCommandQueueProperties config value else value

theorem snd_copiedPair (pair : UInt64 × UInt64) :
    (copiedPair config pair).2 = copiedValue config pair.1 pair.2 := by
  unfold copiedPair copiedValue
  split <;> rfl

/-- A key finds its copied value. -/
theorem lookup_map_copiedPair (pairs : List (UInt64 × UInt64)) (key : UInt64) :
    (pairs.map (copiedPair config)).lookup key =
      (pairs.lookup key).map (copiedValue config key) := by
  induction pairs with
  | nil => rfl
  | cons pair pairs ih =>
    rw [List.map_cons, List.lookup_cons, List.lookup_cons, fst_copiedPair, snd_copiedPair, ih]
    by_cases hkey : key = pair.1
    · rw [hkey, beq_self_eq_true]
      rfl
    · rw [beq_eq_false_iff_ne.mpr hkey]

/-- No key that is added is the zero that ends the list. -/
theorem createdPairs_keys (props : UInt64) :
    ∀ pair ∈ createdPairs config checkDeviceForExtension props, pair.1 ≠ 0 := by
  have hkeys : clQueuePriority ≠ 0 ∧ clQueueThrottle ≠ 0 ∧ clQueueProperties ≠ 0 := by decide
  intro pair hpair
  rw [createdPairs, List.mem_append, List.mem_append, mem_pairIf, mem_pairIf,
    List.mem_singleton] at hpair
  rcases hpair with (⟨-, rfl⟩ | ⟨-, rfl⟩) | rfl
  · exact hkeys.1
  · exact hkeys.2.1
  · exact hkeys.2.2

/-- No key of an overridden list is the zero that ends it. -/
theorem overriddenPairs_keys (properties : Option QueueProperties) :
    ∀ pair ∈ overriddenPairs config checkDeviceForExtension properties, pair.1 ≠ 0 := by
  have hkeys : clQueuePriority ≠ 0 ∧ clQueueThrottle ≠ 0 ∧ clQueueProperties ≠ 0 := by decide
  intro pair hpair
  rw [overriddenPairs, addedPairs, List.mem_append, List.mem_append, List.mem_append, mem_pairIf,
    mem_pairIf, mem_pairIf] at hpair
  rcases hpair with hcopied | (⟨-, rfl⟩ | ⟨-, rfl⟩) | ⟨-, rfl⟩
  · obtain ⟨original, horiginal, rfl⟩ := List.mem_map.mp hcopied
    rw [fst_copiedPair]
    cases properties with
    | none => cases horiginal
    | some properties => exact properties.keys original horiginal
  · exact hkeys.1
  · exact hkeys.2.1
  · exact hkeys.2.2

/-- The list that the first function builds. -/
def createdList (config : Config) (checkDeviceForExtension : String → Bool) (props : UInt64) :
    QueueProperties where
  pairs := createdPairs config checkDeviceForExtension props
  keys := createdPairs_keys props

/-- The list that the second builds. -/
def overriddenList (config : Config) (checkDeviceForExtension : String → Bool)
    (properties : Option QueueProperties) : QueueProperties where
  pairs := overriddenPairs config checkDeviceForExtension properties
  keys := overriddenPairs_keys properties

/-- **The array of a new list holds its pairs, and the zero behind them.** -/
theorem holds_create (props : UInt64) :
    (createCommandQueueProperties config checkDeviceForExtension props).Holds
      (createdList config checkDeviceForExtension props) := by
  have hstores : createCommandQueueProperties config checkDeviceForExtension props =
      ((createdPairs config checkDeviceForExtension props).foldl Stores.add {}).finish
        ((addEnums config checkDeviceForExtension).count + 1) := by
    rw [createdPairs, List.foldl_append, List.foldl_append, foldl_pairIf, foldl_pairIf]
    unfold createCommandQueueProperties
    simp only [priorityHint_addEnums]
    rfl
  rw [hstores]
  exact holds_finish _ _

/-- The flag goes out if the key is among those found. -/
theorem commandQueueProperties_foldl_found (add : AddEnums) (keys : List UInt64) :
    (keys.foldl AddEnums.found add).commandQueueProperties = true ↔
      add.commandQueueProperties = true ∧ clQueueProperties ∉ keys := by
  induction keys generalizing add with
  | nil => simp
  | cons key keys ih =>
    have hfound : (add.found key).commandQueueProperties = true ↔
        add.commandQueueProperties = true ∧ clQueueProperties ≠ key := by
      unfold AddEnums.found
      split
      · next hkey => simp [hkey]
      · next hkey => split <;> (try split) <;> simp [ne_comm.mp hkey]
    rw [List.foldl_cons, ih, hfound, List.mem_cons, not_or, and_assoc]

/-- **So does the array of an overridden list.** -/
theorem holds_createOverride (properties : Option QueueProperties) :
    (createCommandQueuePropertiesOverride config checkDeviceForExtension properties).Holds
      (overriddenList config checkDeviceForExtension properties) := by
  obtain ⟨hpriority, hthrottle⟩ :=
    hints_foldl_found (addEnums config checkDeviceForExtension) (keysOf properties)
  have hproperties := commandQueueProperties_foldl_found
    (addEnums config checkDeviceForExtension) (keysOf properties)
  have hadd : (addEnums config checkDeviceForExtension).commandQueueProperties = true := rfl
  rw [priorityHint_addEnums] at hpriority
  rw [throttleHint_addEnums] at hthrottle
  rw [hadd, eq_self, true_and] at hproperties
  have hstores : createCommandQueuePropertiesOverride config checkDeviceForExtension properties =
      ((overriddenPairs config checkDeviceForExtension properties).foldl Stores.add {}).finish
        (createCommandQueuePropertiesOverride config checkDeviceForExtension
          properties).allocated := by
    rw [overriddenPairs, addedPairs, List.foldl_append, List.foldl_append, List.foldl_append,
      foldl_pairIf, foldl_pairIf, foldl_pairIf]
    unfold createCommandQueuePropertiesOverride
    simp only [hpriority, hthrottle, hproperties]
    rfl
  rw [hstores]
  exact holds_finish _ _

/-! ## The two as maps -/

/-- What the second function makes of a list: the keys stay distinct, the application's keys have
their values, and what is added is asked for. -/
structure Overridden (config : Config) (checkDeviceForExtension : String → Bool)
    (properties : Option QueueProperties) (q : QueueProperties) : Prop where
  nodup : (keysOf (some q)).Nodup
  kept : ∀ key value, (pairsOf properties).lookup key = some value →
    q.pairs.lookup key = some (copiedValue config key value)
  added : ∀ key ∈ keysOf (some q), key ∉ keysOf properties →
    key = clQueueProperties ∨
      (key = clQueuePriority ∧ AsksPriority config checkDeviceForExtension) ∨
      (key = clQueueThrottle ∧ AsksThrottle config checkDeviceForExtension)

/-- **The two functions say the same of `p`**, and the second keeps what a list says. -/
structure QueueMaps (config : Config) (checkDeviceForExtension : String → Bool) (p : UInt64)
    (properties : Option QueueProperties) : Prop where
  same : ∃ q q',
    (createCommandQueueProperties config checkDeviceForExtension p).Holds q ∧
      (createCommandQueuePropertiesOverride config checkDeviceForExtension
        (some (onlyQueueProperties p))).Holds q' ∧
      ∀ key, q.pairs.lookup key = q'.pairs.lookup key
  overridden : (keysOf properties).Nodup → ∃ q,
    (createCommandQueuePropertiesOverride config checkDeviceForExtension properties).Holds q ∧
      Overridden config checkDeviceForExtension properties q

/-- The three keys of the layer are three. -/
theorem queueKeys_distinct : clQueuePriority ≠ clQueueThrottle ∧
    clQueueProperties ≠ clQueuePriority ∧ clQueueProperties ≠ clQueueThrottle := by
  decide

/-- The keys of the application, and behind them the added ones. -/
theorem keys_overriddenList (properties : Option QueueProperties) :
    keysOf (some (overriddenList config checkDeviceForExtension properties)) =
      keysOf properties ++
        (addedPairs config checkDeviceForExtension (keysOf properties)).map Prod.fst := by
  show (overriddenPairs config checkDeviceForExtension properties).map Prod.fst = _
  rw [overriddenPairs, List.map_append, keys_map_copiedPair]
  rfl

/-- What is added is asked for, and not there. -/
theorem mem_keys_addedPairs {keys : List UInt64} {key : UInt64} :
    key ∈ (addedPairs config checkDeviceForExtension keys).map Prod.fst ↔
      key ∉ keys ∧ (key = clQueueProperties ∨
        (key = clQueuePriority ∧ AsksPriority config checkDeviceForExtension) ∨
        (key = clQueueThrottle ∧ AsksThrottle config checkDeviceForExtension)) := by
  rw [addedPairs, List.map_append, List.map_append, List.mem_append, List.mem_append,
    mem_keys_pairIf, mem_keys_pairIf, mem_keys_pairIf]
  constructor
  · rintro ((⟨⟨hasks, habsent⟩, rfl⟩ | ⟨⟨hasks, habsent⟩, rfl⟩) | ⟨habsent, rfl⟩)
    · exact ⟨habsent, .inr (.inl ⟨rfl, hasks⟩)⟩
    · exact ⟨habsent, .inr (.inr ⟨rfl, hasks⟩)⟩
    · exact ⟨habsent, .inl rfl⟩
  · rintro ⟨habsent, rfl | ⟨rfl, hasks⟩ | ⟨rfl, hasks⟩⟩
    · exact .inr ⟨habsent, rfl⟩
    · exact .inl (.inl ⟨⟨hasks, habsent⟩, rfl⟩)
    · exact .inl (.inr ⟨⟨hasks, habsent⟩, rfl⟩)

theorem nodup_keys_pairIf (c : Prop) [Decidable c] (pair : UInt64 × UInt64) :
    ((pairIf c pair).map Prod.fst).Nodup := by
  unfold pairIf
  split
  · exact List.nodup_singleton _
  · exact List.nodup_nil

/-- No key is added twice. -/
theorem nodup_keys_addedPairs (keys : List UInt64) :
    ((addedPairs config checkDeviceForExtension keys).map Prod.fst).Nodup := by
  obtain ⟨hhints, hpriority, hthrottle⟩ := queueKeys_distinct
  have hne {c c' : Prop} [Decidable c] [Decidable c'] {pair pair' : UInt64 × UInt64}
      (h : pair.1 ≠ pair'.1) :
      ∀ key ∈ (pairIf c pair).map Prod.fst, ∀ key' ∈ (pairIf c' pair').map Prod.fst, key ≠ key' := by
    intro key hkey key' hkey'
    rw [(mem_keys_pairIf.mp hkey).2, (mem_keys_pairIf.mp hkey').2]
    exact h
  rw [addedPairs, List.map_append, List.map_append, List.nodup_append, List.nodup_append]
  refine ⟨⟨nodup_keys_pairIf _ _, nodup_keys_pairIf _ _, hne hhints⟩, nodup_keys_pairIf _ _, ?_⟩
  intro key hkey
  rcases List.mem_append.mp hkey with hmem | hmem
  · exact hne hpriority.symm key hmem
  · exact hne hthrottle.symm key hmem

/-- The second function keeps a list, whatever the configuration. -/
theorem overridden_overriddenList {properties : Option QueueProperties}
    (hnodup : (keysOf properties).Nodup) :
    Overridden config checkDeviceForExtension properties
      (overriddenList config checkDeviceForExtension properties) := by
  refine ⟨?_, fun key value hvalue => ?_, fun key hkey habsent => ?_⟩
  · rw [keys_overriddenList, List.nodup_append]
    refine ⟨hnodup, nodup_keys_addedPairs _, fun key hkey key' hkey' heq => ?_⟩
    exact (mem_keys_addedPairs.mp hkey').1 (heq ▸ hkey)
  · show (overriddenPairs config checkDeviceForExtension properties).lookup key = _
    rw [overriddenPairs, List.lookup_append, lookup_map_copiedPair, hvalue]
    rfl
  · rw [keys_overriddenList, List.mem_append] at hkey
    exact (mem_keys_addedPairs.mp (hkey.resolve_left habsent)).2

/-! ## When the first function agrees -/

theorem pairIf_congr {c c' : Prop} [Decidable c] [Decidable c'] (h : c ↔ c')
    (pair : UInt64 × UInt64) : pairIf c pair = pairIf c' pair := by
  unfold pairIf
  rw [if_congr h rfl rfl]

/-- The second function, given the queue properties alone. -/
theorem overriddenPairs_only (p : UInt64) :
    overriddenPairs config checkDeviceForExtension (some (onlyQueueProperties p)) =
      [(clQueueProperties, modifyCommandQueueProperties config p)] ++
        (pairIf (AsksPriority config checkDeviceForExtension) (priorityPair config) ++
          pairIf (AsksThrottle config checkDeviceForExtension) (throttlePair config)) := by
  obtain ⟨-, hpriority, hthrottle⟩ := queueKeys_distinct
  have hkeys : keysOf (some (onlyQueueProperties p)) = [clQueueProperties] := rfl
  have habsent {key : UInt64} (h : clQueueProperties ≠ key) (asks : Prop) :
      (asks ∧ key ∉ keysOf (some (onlyQueueProperties p))) ↔ asks := by
    rw [hkeys, List.mem_singleton]
    exact and_iff_left h.symm
  have hpresent : ¬ clQueueProperties ∉ keysOf (some (onlyQueueProperties p)) := by
    rw [hkeys, not_not]
    exact List.mem_singleton_self _
  have hnone (pair : UInt64 × UInt64) :
      pairIf (clQueueProperties ∉ keysOf (some (onlyQueueProperties p))) pair = [] := if_neg hpresent
  rw [overriddenPairs, addedPairs, hnone, List.append_nil, pairIf_congr (habsent hpriority _),
    pairIf_congr (habsent hthrottle _)]
  rfl

/-- Both give the queue properties the same value, and elsewhere they have their hints. -/
theorem lookup_created_eq_iff (p key : UInt64) :
    (createdPairs config checkDeviceForExtension p).lookup key =
        (overriddenPairs config checkDeviceForExtension (some (onlyQueueProperties p))).lookup key ↔
      (key = clQueueThrottle → (config.defaultQueueThrottleHint ≠ 0 ↔
        AsksThrottle config checkDeviceForExtension)) := by
  obtain ⟨hhints, hpriority, hthrottle⟩ := queueKeys_distinct
  rw [overriddenPairs_only, createdPairs, List.lookup_append, List.lookup_append,
    List.lookup_append, List.lookup_append]
  by_cases hkey : key = clQueueProperties
  · subst hkey
    rw [lookup_pairIf_ne (priorityPair config) hpriority,
      lookup_pairIf_ne (throttlePair config) hthrottle, List.lookup_cons_self]
    exact iff_of_true rfl fun h => absurd h hthrottle
  · have hnone (value : UInt64) : List.lookup key [(clQueueProperties, value)] = none := by
      rw [List.lookup_cons, beq_eq_false_iff_ne.mpr hkey]
      rfl
    rw [hnone, Option.or_none, Option.none_or]
    by_cases hkey' : key = clQueueThrottle
    · subst hkey'
      rw [lookup_pairIf_ne (priorityPair config) hhints.symm, Option.none_or, Option.none_or,
        show clQueueThrottle = (throttlePair config).1 from rfl, lookup_pairIf_self,
        lookup_pairIf_self]
      by_cases hhint : config.defaultQueueThrottleHint ≠ 0 <;>
        by_cases hasks : AsksThrottle config checkDeviceForExtension <;> simp [hhint, hasks]
    · rw [lookup_pairIf_ne (throttlePair config) hkey',
        lookup_pairIf_ne (throttlePair config) hkey']
      exact iff_of_true rfl fun h => absurd h hkey'

/-- **When the two functions say the same**: where a throttle hint is configured, the device has to
know throttle hints. -/
theorem queueMaps_iff (config : Config) (checkDeviceForExtension : String → Bool) (p : UInt64)
    (properties : Option QueueProperties) :
    QueueMaps config checkDeviceForExtension p properties ↔
      config.defaultQueueThrottleHint = 0 ∨
        checkDeviceForExtension "cl_khr_throttle_hints" = true := by
  constructor
  · rintro ⟨⟨q, q', hq, hq', hsame⟩, -⟩
    have hkey := hsame clQueueThrottle
    rw [hq.unique (holds_create p), hq'.unique (holds_createOverride _)] at hkey
    have hasks := (lookup_created_eq_iff p clQueueThrottle).mp hkey rfl
    by_cases hhint : config.defaultQueueThrottleHint = 0
    · exact .inl hhint
    · exact .inr (hasks.mp hhint).2
  · intro h
    have hasks : config.defaultQueueThrottleHint ≠ 0 ↔
        AsksThrottle config checkDeviceForExtension :=
      ⟨fun hhint => ⟨hhint, h.resolve_left hhint⟩, fun hasks => hasks.1⟩
    exact ⟨⟨_, _, holds_create p, holds_createOverride _,
        fun key => (lookup_created_eq_iff p key).mpr fun _ => hasks⟩,
      fun hnodup => ⟨_, holds_createOverride properties, overridden_overriddenList hnodup⟩⟩

/-- A throttle hint for a device without throttle hints. -/
theorem throttle_hint_unasked :
    ¬ QueueMaps { defaultQueueThrottleHint := 1 } (fun _ => false) 0 none := by
  rintro ⟨⟨q, q', hq, hq', hsame⟩, -⟩
  have hkey := hsame clQueueThrottle
  rw [hq.unique (holds_create 0), hq'.unique (holds_createOverride _)] at hkey
  exact absurd hkey (by decide)

end CLIntercept.Device
