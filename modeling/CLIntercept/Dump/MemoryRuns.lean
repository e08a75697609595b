import CLIntercept.Dump.Memory
import Mathlib.Data.List.TakeDrop

/-!
# The enqueue that a file is injected at

A file is found again where the second run makes the same name of the same argument. Names are told
apart by what they are made of (`FileKey.name_inj`), and two runs of the same calls count enqueues
alike. What remains is the number. `Counted` says what it is: of an object that lives, the number of
creations before its own that took a number too (`numberOf_handle`), whatever was allocated and freed
in between. `injected_iff` puts this together.
-/

set_option autoImplicit false

namespace CLIntercept.Dump.Memory

open CLIntercept.Lib CLIntercept.Track CLIntercept.Timing

/-! ## Names -/

/-- The separator of the fields comes from neither part. -/
theorem underscore_notMem_append {s t : String} (hs : '_' ∉ s.toList) (ht : '_' ∉ t.toList) :
    '_' ∉ (s ++ t).toList := by
  rw [String.toList_append, List.mem_append]
  exact fun h => h.elim hs ht

/-- The dimensions of an image. -/
theorem plain_dimensions (dims : List Nat) :
    '_' ∉ ("x".intercalate (dims.map (number 10 1))).toList := by
  induction dims with
  | nil => simp
  | cons d dims ih =>
    have hd : '_' ∉ (number 10 1 d).toList :=
      underscore_notMem_number (by decide) (by decide) _ _
    by_cases hne : dims = []
    · subst hne
      rw [List.map_singleton, String.intercalate_singleton]
      exact hd
    · have hx : '_' ∉ "x".toList := by decide
      rw [List.map_cons, String.intercalate_cons_of_ne_nil (by simpa using hne)]
      exact underscore_notMem_append (underscore_notMem_append hd hx) ih

/-- The sizes of an image can be read off its name. -/
theorem dimensions_inj {dims dims' : List Nat} (hne : dims ≠ []) (hne' : dims' ≠ [])
    (h : "x".intercalate (dims.map (number 10 1)) = "x".intercalate (dims'.map (number 10 1))) :
    dims = dims' := by
  have hplain : ∀ (ds : List Nat), ∀ s ∈ ds.map (number 10 1), 'x' ∉ s.toList := by
    intro ds s hs
    obtain ⟨d, -, rfl⟩ := List.mem_map.mp hs
    exact notMem_number (by decide) (by decide) _ _ (by decide)
  have hfields := joined_inj rfl (hplain dims) (hplain dims') (by simpa using hne)
    (by simpa using hne') h
  exact (List.map_inj_right fun _ _ hn => number_inj (by decide) (by decide) hn).mp hfields

/-- No field of a name has the separator in it. -/
theorem plain_shapeFields (memAllocNumber : Nat) (shape : Option (Nat × Nat × Nat × Nat)) :
    ∀ s ∈ shapeFields memAllocNumber shape, '_' ∉ s.toList := by
  have hnumber : ∀ w n, '_' ∉ (number 10 w n).toList :=
    underscore_notMem_number (by decide) (by decide)
  cases shape with
  | none =>
    simp only [shapeFields, List.forall_mem_cons]
    exact ⟨by decide, underscore_notMem_append (hnumber _ _) (by decide), by simp⟩
  | some shape =>
    obtain ⟨width, height, depth, bits⟩ := shape
    simp only [shapeFields, List.forall_mem_cons]
    exact ⟨by decide, hnumber _ _, plain_dimensions [width, height, depth],
      underscore_notMem_append (hnumber _ _) (by decide), by simp⟩

/-- The extension is that of the shape. -/
theorem shapeFields_ends (memAllocNumber : Nat) (shape : Option (Nat × Nat × Nat × Nat)) :
    ∃ fields text, shapeFields memAllocNumber shape =
      fields ++ [text ++ if shape.isSome then ".raw" else ".bin"] := by
  cases shape with
  | none => exact ⟨["Buffer"], _, rfl⟩
  | some shape =>
    have hraw : "bpp.raw" = "bpp" ++ ".raw" := by decide
    refine ⟨["Image", number 10 4 memAllocNumber,
      "x".intercalate ([shape.1, shape.2.1, shape.2.2.1].map (number 10 1))],
      number 10 1 shape.2.2.2 ++ "bpp", ?_⟩
    rw [shapeFields, hraw, ← String.append_assoc]
    rfl

/-- Buffers and images end differently. -/
theorem FileKey.name_ends (k : FileKey) :
    ∃ text, k.name = text ++ if k.shape.isSome then ".raw" else ".bin" := by
  obtain ⟨fields, text, hfields⟩ := shapeFields_ends k.memAllocNumber k.shape
  rw [FileKey.name, hfields, ← List.append_assoc, ← List.append_assoc,
    String.intercalate_append_of_ne_nil (by simp) (List.cons_ne_nil _ _),
    String.intercalate_singleton, ← String.append_assoc]
  exact ⟨_, rfl⟩

/-- The ending tells the two kinds apart. -/
theorem isSome_shape_of_name {k k' : FileKey} (h : k.name = k'.name) :
    k.shape.isSome = k'.shape.isSome := by
  obtain ⟨text, htext⟩ := k.name_ends
  obtain ⟨text', htext'⟩ := k'.name_ends
  have hends : ∀ {t t' : String}, t ++ ".bin" ≠ t' ++ ".raw" := by
    intro t t' heq
    have hchars := congrArg String.toList heq
    rw [String.toList_append, String.toList_append] at hchars
    have hlength : ".bin".toList.length = ".raw".toList.length := by decide
    exact absurd (List.append_inj' hchars hlength).2 (by decide)
  rw [htext, htext'] at h
  cases hs : k.shape.isSome <;> cases hs' : k'.shape.isSome
  · rfl
  · rw [hs, hs', if_neg Bool.false_ne_true, if_pos rfl] at h
    exact absurd h hends
  · rw [hs, hs', if_neg Bool.false_ne_true, if_pos rfl] at h
    exact absurd h.symm hends
  · rfl

/-- The fields give the number and the shape back. -/
theorem shapeFields_inj {n n' : Nat} {shape shape' : Option (Nat × Nat × Nat × Nat)}
    (hsome : shape.isSome = shape'.isSome) (h : shapeFields n shape = shapeFields n' shape') :
    n = n' ∧ shape = shape' := by
  match shape, shape' with
  | none, none =>
    simp only [shapeFields, List.cons.injEq] at h
    exact ⟨number_inj (by decide) (by decide) ((String.append_left_inj _).mp h.2.1), rfl⟩
  | some (width, height, depth, bits), some (width', height', depth', bits') =>
    simp only [shapeFields, List.cons.injEq] at h
    obtain ⟨-, hn, hdims, hbits, -⟩ := h
    have hdims' := dimensions_inj (by simp) (by simp) hdims
    have hbits' : bits = bits' :=
      number_inj (by decide) (by decide) ((String.append_left_inj _).mp hbits)
    have hn' : n = n' := number_inj (by decide) (by decide) hn
    simp only [List.cons.injEq] at hdims'
    rw [hdims'.1, hdims'.2.1, hdims'.2.2.1, hbits']
    exact ⟨hn', rfl⟩
  | none, some _ => cases hsome
  | some _, none => cases hsome

/-- Names of one kind have as many fields. -/
theorem length_shapeFields (n n' : Nat) {shape shape' : Option (Nat × Nat × Nat × Nat)}
    (hsome : shape.isSome = shape'.isSome) :
    (shapeFields n shape).length = (shapeFields n' shape').length := by
  have hlength : ∀ n (shape : Option (Nat × Nat × Nat × Nat)),
      (shapeFields n shape).length = if shape.isSome then 4 else 2 := by
    intro n shape
    cases shape <;> simp [shapeFields]
  rw [hlength, hlength, hsome]

/-- **Names are told apart by what they are made of**, whatever the kernel's name is. -/
theorem FileKey.name_inj {k k' : FileKey} (h : k.name = k'.name) : k = k' := by
  have hnumber : ∀ w n, '_' ∉ (number 10 w n).toList :=
    underscore_notMem_number (by decide) (by decide)
  have hbefore : ∀ n, ∀ s ∈ ["Enqueue", number 10 4 n, "Kernel"], '_' ∉ s.toList := by
    intro n
    simp only [List.forall_mem_cons]
    exact ⟨by decide, hnumber _ _, by decide, by simp⟩
  have harg : ∀ n, ∀ s ∈ ["Arg", number 10 1 n], '_' ∉ s.toList := by
    intro n
    simp only [List.forall_mem_cons]
    exact ⟨by decide, hnumber _ _, by simp⟩
  have hbehind : ∀ (k : FileKey), ∀ s ∈ ["Arg", number 10 1 k.argIndex] ++
      shapeFields k.memAllocNumber k.shape, '_' ∉ s.toList := by
    intro k s hs
    exact (List.mem_append.mp hs).elim (harg _ s) (plain_shapeFields _ _ s)
  have hsome := isSome_shape_of_name h
  have hlength := length_shapeFields k.memAllocNumber k'.memAllocNumber hsome
  unfold FileKey.name at h
  obtain ⟨h₁, h₂, h₃⟩ := intercalate_middle_inj h (hbefore _) (hbefore _) (hbehind k)
    (hbehind k') (List.cons_ne_nil _ _) (by simp) (by simp) (by simp [hlength])
  obtain ⟨h₄, h₅⟩ := List.append_inj h₃ (by simp)
  obtain ⟨h₆, h₇⟩ := shapeFields_inj hsome h₅
  simp only [List.cons.injEq] at h₁ h₄
  have henqueue : k.enqueue.toNat = k'.enqueue.toNat :=
    number_inj (by decide) (by decide) h₁.2.1
  have hargIndex : k.argIndex = k'.argIndex := number_inj (by decide) (by decide) h₄.2.1
  cases k
  cases k'
  simp only [FileKey.mk.injEq]
  exact ⟨UInt32.toNat_inj.mp henqueue, h₂, hargIndex, h₆, h₇⟩

/-- **The key of a file can be read off its name.** -/
theorem FileKey.copy_inj {k k' : FileKey} (h : k.copy = k'.copy) : k = k' :=
  FileKey.name_inj ((String.append_right_inj _).mp h)

/-! ## Numbers -/

section

variable {config : Config} {s : MemSession}

/-- Only the object that is destroyed stops being live. -/
theorem getElem?_kill (k : Nat) (created : List Created) (j : Nat) :
    (kill k created)[j]? =
      if k = j then created[j]?.map fun c => { c with live := false } else created[j]? := by
  rw [kill, List.getElem?_modify]
  split
  · rfl
  · exact Option.map_id_apply

/-- What a killed object was created as stays. -/
theorem countP_take_kill (config : Config) (k n : Nat) (created : List Created) :
    ((kill k created).take n).countP (·.numbered config) =
      (created.take n).countP (·.numbered config) := by
  induction created generalizing k n with
  | nil =>
    unfold kill
    rw [List.modify_nil]
  | cons c created ih =>
    cases n with
    | zero => rfl
    | succ n =>
      cases k with
      | zero => rfl
      | succ k =>
        show ((c :: kill k created).take (n + 1)).countP _ = _
        rw [List.take_succ_cons, List.take_succ_cons, List.countP_cons, List.countP_cons, ih]

/-- Destroying an object takes no number back. -/
theorem countP_kill (config : Config) (k : Nat) (created : List Created) :
    (kill k created).countP (·.numbered config) = created.countP (·.numbered config) := by
  have h := countP_take_kill config k created.length created
  rwa [List.take_length, List.take_of_length_le (by simp [kill])] at h

/-- **What the numbers are**: the counter is the number of creations that took one; what lives has a
handle of its own, under which its number is recorded. -/
structure Counted (config : Config) (s : MemSession) : Prop where
  counter : s.objects.memAllocNumber = s.created.countP (·.numbered config) % uintModulus
  apart : ∀ k k', s.Live k → s.Live k' → s.handle k = s.handle k' → k = k'
  numbers : ∀ k c, s.created[k]? = some c → c.live = true → c.numbered config = true →
    s.objects.memAllocNumberMap c.handle = some (s.numberedBefore config k % uintModulus)

/-- Before the first creation. -/
theorem counted_initial (config : Config) : Counted config {} where
  counter := rfl
  apart k _ h := by
    obtain ⟨c, hc, -⟩ := h
    cases hc
  numbers k c hc := by cases hc

/-- Nothing else of the session matters. -/
theorem Counted.congr {s' : MemSession} (h : Counted config s) (hcreated : s'.created = s.created)
    (hcounter : s'.objects.memAllocNumber = s.objects.memAllocNumber)
    (hnumbers : ∀ value n, s.objects.memAllocNumberMap value = some n →
      s'.objects.memAllocNumberMap value = some n) : Counted config s' := by
  refine ⟨?_, ?_, ?_⟩
  · rw [hcounter, hcreated]
    exact h.counter
  · intro k k' hk hk' heq
    rw [MemSession.Live, hcreated] at hk hk'
    rw [MemSession.handle, MemSession.handle, hcreated] at heq
    exact h.apart k k' hk hk' heq
  · intro k c hc hlive hnumbered
    rw [hcreated] at hc
    rw [MemSession.numberedBefore, hcreated]
    exact hnumbers _ _ (h.numbers k c hc hlive hnumbered)

/-- The handle of an object that was created. -/
theorem handle_eq {k : Nat} {c : Created} (hc : s.created[k]? = some c) :
    s.handle k = c.handle := by
  rw [MemSession.handle, hc]
  rfl

/-- An object dies, and with it the number under its handle. -/
theorem Counted.kill {s' : MemSession} (h : Counted config s) {k : Nat}
    (hcreated : s'.created = Memory.kill k s.created)
    (hcounter : s'.objects.memAllocNumber = s.objects.memAllocNumber)
    (hnumbers : ∀ value, (s.Live k → value ≠ s.handle k) →
      s'.objects.memAllocNumberMap value = s.objects.memAllocNumberMap value) :
    Counted config s' := by
  have hlive : ∀ j c, s'.created[j]? = some c → c.live = true → s.created[j]? = some c ∧ j ≠ k := by
    intro j c hc hlive
    rw [hcreated, getElem?_kill] at hc
    by_cases hjk : k = j
    · rw [if_pos hjk] at hc
      obtain ⟨c', -, rfl⟩ := Option.map_eq_some_iff.mp hc
      cases hlive
    · rw [if_neg hjk] at hc
      exact ⟨hc, fun h => hjk h.symm⟩
  have hlive' : ∀ j, s'.Live j → s.Live j ∧ s'.handle j = s.handle j := by
    rintro j ⟨c, hc, hl⟩
    obtain ⟨hc', -⟩ := hlive j c hc hl
    exact ⟨⟨c, hc', hl⟩, (handle_eq hc).trans (handle_eq hc').symm⟩
  refine ⟨?_, ?_, ?_⟩
  · rw [hcounter, hcreated, countP_kill]
    exact h.counter
  · intro j j' hj hj' heq
    obtain ⟨hj₁, hj₂⟩ := hlive' j hj
    obtain ⟨hj₁', hj₂'⟩ := hlive' j' hj'
    exact h.apart j j' hj₁ hj₁' (hj₂.symm.trans (heq.trans hj₂'))
  · intro j c hc hl hnumbered
    obtain ⟨hc', hne⟩ := hlive j c hc hl
    have hother : s.Live k → c.handle ≠ s.handle k := by
      intro hk heq
      exact hne (h.apart j k ⟨c, hc', hl⟩ hk ((handle_eq hc').trans heq))
    rw [hnumbers _ hother, h.numbers j c hc' hl hnumbered, MemSession.numberedBefore,
      MemSession.numberedBefore, hcreated, countP_take_kill]

/-- A creation takes the next number, or none. -/
theorem Counted.create (h : Counted config s) (s' : MemSession) {c : Created}
    (hcreated : s'.created = s.created ++ [c])
    (hlive : c.numbered config = true → c.live = true)
    (hfresh : c.live = true → ∀ k, s.Live k → s.handle k ≠ c.handle)
    (hnumber : s'.objects.memAllocNumber =
      if c.numbered config then (s.objects.memAllocNumber + 1) % uintModulus
      else s.objects.memAllocNumber)
    (hmap : s'.objects.memAllocNumberMap =
      if c.numbered config then
        Function.update s.objects.memAllocNumberMap c.handle (some s.objects.memAllocNumber)
      else s.objects.memAllocNumberMap) : Counted config s' := by
  have hcases : ∀ k c', s'.created[k]? = some c' →
      s.created[k]? = some c' ∨ k = s.created.length ∧ c' = c := by
    intro k c' hc'
    rw [hcreated] at hc'
    rcases Nat.lt_or_ge k s.created.length with hk | hk
    · rw [List.getElem?_append_left hk] at hc'
      exact .inl hc'
    · rw [List.getElem?_append_right hk] at hc'
      obtain ⟨hlt, hc''⟩ := List.getElem?_eq_some_iff.mp hc'
      have hzero : k - s.created.length = 0 := by simpa using hlt
      refine .inr ⟨by omega, ?_⟩
      simpa [hzero] using hc''.symm
  have hcases' : ∀ k, s'.Live k → s.Live k ∧ s'.handle k = s.handle k ∨
      k = s.created.length ∧ s'.handle k = c.handle ∧ c.live = true := by
    rintro k ⟨c', hc', hl⟩
    rcases hcases k c' hc' with hold | ⟨hk, rfl⟩
    · exact .inl ⟨⟨c', hold, hl⟩, (handle_eq hc').trans (handle_eq hold).symm⟩
    · exact .inr ⟨hk, handle_eq hc', hl⟩
  refine ⟨?_, ?_, ?_⟩
  · rw [hnumber, hcreated, List.countP_append, List.countP_singleton, h.counter]
    cases c.numbered config
    · rfl
    · simp
  · intro k k' hk hk' heq
    rcases hcases' k hk with ⟨hold, hh⟩ | ⟨hnew, hh, hl⟩ <;>
      rcases hcases' k' hk' with ⟨hold', hh'⟩ | ⟨hnew', hh', hl'⟩
    · exact h.apart k k' hold hold' (hh.symm.trans (heq.trans hh'))
    · exact absurd (hh.symm.trans (heq.trans hh')) (hfresh hl' k hold)
    · exact absurd (hh'.symm.trans (heq.symm.trans hh)) (hfresh hl k' hold')
    · exact hnew.trans hnew'.symm
  · intro k c' hc' hl hnumbered
    rcases hcases k c' hc' with hold | ⟨rfl, rfl⟩
    · obtain ⟨hk, -⟩ := List.getElem?_eq_some_iff.mp hold
      have htake : s'.numberedBefore config k = s.numberedBefore config k := by
        rw [MemSession.numberedBefore, hcreated, List.take_append_of_le_length hk.le]
        rfl
      rw [htake, ← h.numbers k c' hold hl hnumbered, hmap]
      split
      · next hn =>
        have hne := hfresh (hlive hn) k ⟨c', hold, hl⟩
        rw [handle_eq hold] at hne
        exact Function.update_of_ne hne _ _
      · rfl
    · rw [hmap, if_pos hnumbered, Function.update_self, h.counter, MemSession.numberedBefore,
        hcreated, List.take_append_of_le_length (Nat.le_refl _), List.take_length]

/-- What a creation does to the numbers. -/
def TakesNumber (takes : Bool) (value : Nat) (o o' : Objects) : Prop :=
  (o'.memAllocNumber = if takes then (o.memAllocNumber + 1) % uintModulus else o.memAllocNumber) ∧
    o'.memAllocNumberMap =
      if takes then Function.update o.memAllocNumberMap value (some o.memAllocNumber)
      else o.memAllocNumberMap

/-- A buffer takes the next number if its size is known. -/
theorem takesNumber_addBuffer (tracked : Bool) (buffer : Handle) (size : Option Nat) (o : Objects) :
    TakesNumber (tracked && buffer ≠ null && size.isSome) buffer o
      (if tracked then addBuffer buffer size o else o) := by
  unfold addBuffer
  by_cases hnull : buffer = null <;> cases tracked <;> cases size <;>
    simp [TakesNumber, Objects.number, hnull]

/-- An image takes it if its description is. -/
theorem takesNumber_addImage (tracked : Bool) (image : Handle) (answers : Option ImageAnswers)
    (o : Objects) :
    TakesNumber (tracked && image ≠ null && answers.isSome) image o
      (if tracked then addImage image answers o else o) := by
  unfold addImage
  by_cases hnull : image = null <;> cases tracked <;> cases answers <;>
    simp [TakesNumber, Objects.number, hnull]

/-- A pointer takes it without any query. -/
theorem takesNumber_addAllocation (config : Config) (kind : Allocations.Kind) (ptr size : Nat)
    (o : Objects) :
    TakesNumber (config.tracksAllocations && ptr ≠ null && true) ptr o
      (Allocations.addAllocation config kind ptr size o) := by
  unfold Allocations.addAllocation addSVMAllocation addUSMAllocation
  by_cases hnull : ptr = null <;> cases config.tracksAllocations <;> cases kind <;>
    simp [TakesNumber, Objects.number, hnull]

/-- A creation gives its object the number that comes next. -/
theorem Counted.create_answer {kind : MemKind} {answer : MemAnswer} {queried : Bool}
    {objects : Objects} (h : Counted config s)
    (hfresh : answer.handle ≠ null → ∀ k, s.Live k → s.handle k ≠ answer.handle)
    (htakes : TakesNumber (kind.tracked config && answer.handle ≠ null && queried) answer.handle
      s.objects objects) : Counted config (s.create kind answer queried objects) := by
  refine h.create (s.create kind answer queried objects) rfl (fun hn => ?_)
    (fun hl k hk => ?_) htakes.1 htakes.2
  · simp only [Created.numbered, Bool.and_eq_true] at hn
    exact hn.1.2
  · exact hfresh (of_decide_eq_true hl) k hk

/-- An enqueue that dumps or injects leaves the numbers as they were. -/
theorem touch_objects (config : Config) (s : MemSession) (k : Nat) (h : Half) (answer : MemAnswer)
    (o : Objects) :
    (touch config s k h answer o).memAllocNumber = o.memAllocNumber ∧
      ∀ value n, o.memAllocNumberMap value = some n →
        (touch config s k h answer o).memAllocNumberMap value = some n := by
  unfold touch
  split
  · refine ⟨rfl, fun value n hvalue => ?_⟩
    show (if _ then _ else _) = _
    rw [memAllocNumber, hvalue]
    exact ite_self _
  · exact ⟨rfl, fun _ _ hvalue => hvalue⟩

/-- A removal takes the number of its pointer only. -/
theorem numbers_removeAllocation (config : Config) (kind : Allocations.Kind) (ptr : Nat)
    (o : Objects) :
    (Allocations.removeAllocation config kind ptr o).memAllocNumber = o.memAllocNumber ∧
      ∀ value ≠ ptr, (Allocations.removeAllocation config kind ptr o).memAllocNumberMap value =
        o.memAllocNumberMap value := by
  unfold Allocations.removeAllocation
  split
  · cases kind <;>
      exact ⟨rfl, fun value hne => Function.update_of_ne hne _ _⟩
  · exact ⟨rfl, fun _ _ => rfl⟩

/-- Only the last release of an object forgets a number. -/
theorem numbers_checkRemoveMemObj (memobj : Handle) (refCount : Nat) (o : Objects) :
    (checkRemoveMemObj memobj refCount o).memAllocNumber = o.memAllocNumber ∧
      ∀ value, (refCount = 1 → value ≠ memobj) →
        (checkRemoveMemObj memobj refCount o).memAllocNumberMap value =
          o.memAllocNumberMap value := by
  unfold checkRemoveMemObj
  split
  · next hone => exact ⟨rfl, fun value hne => Function.update_of_ne (hne hone) _ _⟩
  · exact ⟨rfl, fun _ _ => rfl⟩

/-- What dies without the layer's notice. -/
theorem Counted.killAll (h : Counted config s) (ks : List Nat) :
    Counted config { s with
      created := ks.foldl (fun created k => Memory.kill k created) s.created } := by
  induction ks generalizing s with
  | nil => exact h
  | cons k ks ih =>
    have hone : Counted config { s with created := Memory.kill k s.created } :=
      h.kill (k := k) rfl rfl fun _ _ => rfl
    exact ih hone

/-- A release takes the number of its object only, with the last reference. -/
theorem numbers_release (config : Config) (demangle : String → String) (s : MemSession) (k : Nat)
    (answer : MemAnswer) :
    (memStep demangle config s (.clReleaseMemObject k, answer)).objects.memAllocNumber =
        s.objects.memAllocNumber ∧
      ∀ value, (answer.refCount = 1 → value ≠ s.handle k) →
        (memStep demangle config s (.clReleaseMemObject k, answer)).objects.memAllocNumberMap
          value = s.objects.memAllocNumberMap value := by
  have hobjects : (memStep demangle config s (.clReleaseMemObject k, answer)).objects =
      if config.removesMemObjs && s.handle k ≠ null then
        checkRemoveMemObj (s.handle k) answer.refCount s.objects
      else s.objects := rfl
  rw [hobjects]
  split
  · exact numbers_checkRemoveMemObj (s.handle k) answer.refCount s.objects
  · exact ⟨rfl, fun _ _ => rfl⟩

/-- A release keeps the numbers of all others. -/
theorem Counted.release (h : Counted config s) (demangle : String → String) {k : Nat}
    {answer : MemAnswer} (hlive : s.Live k) :
    Counted config (memStep demangle config s (.clReleaseMemObject k, answer)) := by
  obtain ⟨hcounter, hnumbers⟩ := numbers_release config demangle s k answer
  have hcreated : (memStep demangle config s (.clReleaseMemObject k, answer)).created =
      if answer.refCount = 1 then Memory.kill k s.created else s.created := rfl
  by_cases hone : answer.refCount = 1
  · rw [if_pos hone] at hcreated
    exact h.kill hcreated hcounter fun value hne => hnumbers value fun _ => hne hlive
  · rw [if_neg hone] at hcreated
    refine h.congr hcreated hcounter fun value n hvalue => ?_
    rw [hnumbers value fun h => absurd h hone, hvalue]

/-- **Every legal call keeps the numbers those of the creations.** -/
theorem counted_step (demangle : String → String) {call : MemCall × MemAnswer}
    (h : Counted config s) (hl : memLegal s call) :
    Counted config (memStep demangle config s call) := by
  obtain ⟨call, answer⟩ := call
  cases call with
  | createBuffer => exact h.create_answer hl (takesNumber_addBuffer _ _ _ _)
  | createImage => exact h.create_answer hl (takesNumber_addImage _ _ _ _)
  | allocate kind size => exact h.create_answer hl (takesNumber_addAllocation _ _ _ _ _)
  | clReleaseMemObject k =>
    refine h.release demangle ?_
    rcases hl with ⟨c, hc, hlive, -⟩ | ⟨c, hc, hlive, -⟩ <;> exact ⟨c, hc, hlive⟩
  | free kind k =>
    obtain ⟨hcounter, hnumbers⟩ := numbers_removeAllocation config kind (s.handle k) s.objects
    obtain ⟨c, hc, hlive, -⟩ := hl
    exact h.kill (k := k) rfl hcounter fun value hne => hnumbers value (hne ⟨c, hc, hlive⟩)
  | clEnqueueSVMFree objects =>
    have hcreated : (memStep demangle config s (.clEnqueueSVMFree objects, answer)).created =
        if answer.accepted then objects.foldl (fun created k => Memory.kill k created) s.created
        else s.created := rfl
    split at hcreated
    · exact (h.killAll objects).congr hcreated rfl fun _ _ hvalue => hvalue
    · exact h.congr hcreated rfl fun _ _ hvalue => hvalue
  | clEnqueueNDRangeKernel k =>
    obtain ⟨hcounter, hnumbers⟩ := touch_objects config s k .buffers answer s.objects
    obtain ⟨hcounter', hnumbers'⟩ := touch_objects config s k .images answer
      (touch config s k .buffers answer s.objects)
    exact h.congr rfl (hcounter'.trans hcounter) fun value n hvalue =>
      hnumbers' value n (hnumbers value n hvalue)
  | clCreateKernel kernelName => exact h.congr rfl rfl fun _ _ hvalue => hvalue
  | clCloneKernel k => exact h.congr rfl rfl fun _ _ hvalue => hvalue
  | clReleaseKernel k => exact h.congr rfl rfl fun _ _ hvalue => hvalue
  | clSetKernelArg k argIndex value => exact h.congr rfl rfl fun _ _ hvalue => hvalue
  | setKernelArgPointer kind k argIndex value => exact h.congr rfl rfl fun _ _ hvalue => hvalue
  | enqueue => exact h.congr rfl rfl fun _ _ hvalue => hvalue

end

/-! ## Before an enqueue of a run -/

section

variable {demangle : String → String} {config : Config} {files : Files}
  {run : List (MemCall × MemAnswer)} {h : Half} {i argIndex : Nat}

/-- The numbers are those of the creations before every call of a legal run. -/
theorem counted_memSessionAt (hl : (memSystem demangle config).Legal {} run) (i : Nat) :
    Counted config (memSessionAt demangle config run i) := by
  have halways : (memSystem demangle config).Always (Counted config) {} run :=
    System.always_of_step (fun _ _ h hlegal => counted_step demangle h hlegal)
      (counted_initial config) hl
  exact System.always_iff_prefix.mp halways _ (List.take_prefix i run)

/-- Something at an enqueue: the call there is one. -/
theorem atEnqueue_eq_some {α : Type} {f : MemSession → Nat → MemAnswer → Option α} {x : α} :
    atEnqueue demangle config run i f = some x ↔
      ∃ k answer, run[i]? = some (.clEnqueueNDRangeKernel k, answer) ∧
        f (memSessionAt demangle config run i) k answer = some x := by
  unfold atEnqueue
  constructor
  · intro hx
    obtain ⟨⟨call, answer⟩, hi, hx⟩ := Option.bind_eq_some_iff.mp hx
    cases call with
    | clEnqueueNDRangeKernel k => exact ⟨k, answer, hi, hx⟩
    | _ => cases hx
  · rintro ⟨k, answer, hi, hx⟩
    rw [hi]
    exact hx

theorem atEnqueue_eq {α : Type} {f : MemSession → Nat → MemAnswer → Option α} {k : Nat}
    {answer : MemAnswer} (hi : run[i]? = some (.clEnqueueNDRangeKernel k, answer)) :
    atEnqueue demangle config run i f = f (memSessionAt demangle config run i) k answer := by
  rw [atEnqueue, hi]
  rfl

/-- **The number of what is recorded.** -/
theorem memAllocNumber_eq {s : MemSession} (hcounted : Counted config s) (value : Nat) :
    memAllocNumber s.objects value = s.numberOf config value := by
  unfold MemSession.numberOf
  cases howner : s.created.findIdx? fun c => c.live && c.numbered config && c.handle = value with
  | none => rfl
  | some object =>
    obtain ⟨hlt, howns, -⟩ := List.findIdx?_eq_some_iff_getElem.mp howner
    simp only [Bool.and_eq_true, decide_eq_true_eq] at howns
    obtain ⟨⟨hlive, hnumbered⟩, hhandle⟩ := howns
    have hrecorded := hcounted.numbers object _ (List.getElem?_eq_getElem hlt) hlive hnumbered
    rw [hhandle] at hrecorded
    rw [memAllocNumber, hrecorded]
    rfl

/-- The number of what lives and took one. -/
theorem numberOf_handle {s : MemSession} (hcounted : Counted config s) {object : Nat} {c : Created}
    (hc : s.created[object]? = some c) (hlive : c.live = true) (hnumbered : c.numbered config = true) :
    s.numberOf config (s.handle object) = s.numberedBefore config object % uintModulus := by
  rw [← memAllocNumber_eq hcounted, handle_eq hc, memAllocNumber,
    hcounted.numbers object c hc hlive hnumbered]
  rfl

/-- The number of a target is that of its handle. -/
theorem target_memAllocNumber {s : MemSession} {k : Nat} {t : Target}
    (ht : target s k h argIndex = some t) :
    t.memAllocNumber = memAllocNumber s.objects t.handle := by
  obtain ⟨memInfo, -, htracked⟩ := Option.bind_eq_some_iff.mp ht
  cases h with
  | buffers =>
    obtain ⟨size, -, rfl⟩ := Option.map_eq_some_iff.mp htracked
    rfl
  | images =>
    obtain ⟨info, -, rfl⟩ := Option.map_eq_some_iff.mp htracked
    rfl

/-- What the enqueue counter is. -/
def counts : MemCall → Bool
  | .clEnqueueSVMFree _ | .clEnqueueNDRangeKernel _ | .enqueue => true
  | _ => false

/-- The counter counts the calls that count. -/
theorem enqueueCounter_exec (s : MemSession) :
    ((memSystem demangle config).exec s run).enqueueCounter =
      (run.map Prod.fst).foldl (fun n call => if counts call then n + 1 else n)
        s.enqueueCounter := by
  induction run generalizing s with
  | nil => rfl
  | cons call run ih =>
    refine (ih _).trans ?_
    obtain ⟨call, answer⟩ := call
    cases call <;> rfl

/-- Two runs of the same calls count alike. -/
theorem enqueueCounter_same (demangle : String → String) (config config' : Config)
    {run' : List (MemCall × MemAnswer)}
    (hsame : run'.map Prod.fst = run.map Prod.fst) (i : Nat) :
    (memSessionAt demangle config' run' i).enqueueCounter =
      (memSessionAt demangle config run i).enqueueCounter := by
  rw [memSessionAt, memSessionAt, enqueueCounter_exec, enqueueCounter_exec, List.map_take, hsame,
    List.map_take]

/-- The file that is opened is the one of the argument's key. -/
theorem openedFor_eq_some (hinjects : h.injects config = true) {s : MemSession} {k : Nat}
    {file : String × Bytes} :
    openedFor config files s k h argIndex = some file ↔
      ∃ key, fileKey s k h argIndex = some key ∧ key.copy = file.1 ∧
        files key.copy = some file.2 := by
  rw [openedFor, if_pos hinjects, Option.bind_eq_some_iff]
  constructor
  · rintro ⟨key, hkey, hfile⟩
    obtain ⟨bytes, hbytes, rfl⟩ := Option.map_eq_some_iff.mp hfile
    exact ⟨key, hkey, rfl, hbytes⟩
  · rintro ⟨key, hkey, hcopy, hbytes⟩
    refine ⟨key, hkey, ?_⟩
    rw [hbytes, hcopy]
    rfl

/-- What makes room is an earlier file of its image's size. -/
theorem le_transferBufSize_iff {s : MemSession} {k size : Nat} (hsize : 0 < size) :
    size ≤ transferBufSize config files s k h argIndex ↔
      ∃ earlier < argIndex, ∃ t file, target s k h earlier = some t ∧
        openedFor config files s k h earlier = some file ∧ file.2.length = t.size ∧
        size ≤ t.size := by
  induction argIndex with
  | zero =>
    refine iff_of_false (fun hle => absurd (hsize.trans_le hle) (Nat.lt_irrefl 0)) ?_
    rintro ⟨earlier, hlt, -⟩
    exact absurd hlt (Nat.not_lt_zero earlier)
  | succ n ih =>
    have hlast : size ≤ transferBufSize config files s k h (n + 1) ↔
        size ≤ transferBufSize config files s k h n ∨ ∃ t file, target s k h n = some t ∧
          openedFor config files s k h n = some file ∧ file.2.length = t.size ∧
          size ≤ t.size := by
      rw [transferBufSize]
      cases htarget : target s k h n with
      | none => simp
      | some t =>
        cases hopened : openedFor config files s k h n with
        | none => simp
        | some file =>
          by_cases hlength : file.2.length = t.size
          · simp [hlength]
          · simp [hlength]
    rw [hlast, ih]
    constructor
    · rintro (⟨earlier, hlt, hfile⟩ | hfile)
      · exact ⟨earlier, hlt.trans (Nat.lt_succ_self n), hfile⟩
      · exact ⟨n, Nat.lt_succ_self n, hfile⟩
    · rintro ⟨earlier, hlt, hfile⟩
      rcases Nat.lt_succ_iff_lt_or_eq.mp hlt with hlt | rfl
      · exact .inl ⟨earlier, hlt, hfile⟩
      · exact .inr hfile

/-- What is written of a file is all of it. -/
theorem written_eq_some {size bufSize : Nat} {bytes : Bytes} :
    h.written size bufSize bytes = some bytes ↔
      match h with
      | .buffers => bytes.length ≤ size
      | .images => bytes.length = size ∨ bytes.length ≤ size ∧ size ≤ bufSize := by
  cases h with
  | buffers =>
    simp only [Half.written]
    split
    · next hlt => exact iff_of_false (fun heq => nomatch heq) (Nat.not_le.mpr hlt)
    · next hle => exact iff_of_true rfl (Nat.not_lt.mp hle)
  | images =>
    have htake : bytes.take size = bytes ↔ bytes.length ≤ size := List.take_eq_self_iff bytes
    simp only [Half.written]
    split
    · next hroom =>
      rw [Option.some.injEq, htake]
      rcases hroom with heq | hle
      · exact iff_of_true heq.le (.inl heq)
      · exact ⟨fun hlength => .inr ⟨hlength, hle⟩, fun hfits => hfits.elim (·.le) (·.1)⟩
    · next hroom =>
      refine iff_of_false (fun heq => nomatch heq) fun hfits => hroom ?_
      exact hfits.imp id (·.2)

/-- The file opened at a place of the run is the one of the argument's key there. -/
theorem openedAt_eq_some (hinjects : h.injects config = true) (file : String × Bytes) :
    openedAt demangle config files run h i argIndex = some file ↔
      ∃ key, keyAt demangle config run h i argIndex = some key ∧ key.copy = file.1 ∧
        files key.copy = some file.2 := by
  constructor
  · intro hopened
    obtain ⟨k, answer, hi, hopened⟩ := atEnqueue_eq_some.mp hopened
    obtain ⟨key, hkey, hrest⟩ := (openedFor_eq_some hinjects).mp hopened
    exact ⟨key, atEnqueue_eq_some.mpr ⟨k, answer, hi, hkey⟩, hrest⟩
  · rintro ⟨key, hkey, hrest⟩
    obtain ⟨k, answer, hi, hkey⟩ := atEnqueue_eq_some.mp hkey
    exact atEnqueue_eq_some.mpr
      ⟨k, answer, hi, (openedFor_eq_some hinjects).mpr ⟨key, hkey, hrest⟩⟩

/-- A file is opened wherever the layer makes its name, and nowhere else. -/
theorem openedAt_iff_keyAt (hinjects : h.injects config = true) {file : FileKey × Bytes}
    (hcopied : files file.1.copy = some file.2) :
    (openedAt demangle config files run h i argIndex).map Prod.fst = some file.1.copy ↔
      keyAt demangle config run h i argIndex = some file.1 := by
  constructor
  · intro hopened
    obtain ⟨opened, hopened, hpath⟩ := Option.map_eq_some_iff.mp hopened
    obtain ⟨key, hkey, hcopy, -⟩ := (openedAt_eq_some hinjects _).mp hopened
    rw [hkey, FileKey.copy_inj (hcopy.trans hpath)]
  · intro hkey
    have hopened := (openedAt_eq_some hinjects (file.1.copy, file.2)).mpr
      ⟨file.1, hkey, rfl, hcopied⟩
    rw [hopened]
    rfl

/-- The buffer for the transfers has room for an image exactly if an earlier argument has made it.
-/
theorem roomMade_iff (hinjects : h.injects config = true) {k : Nat} {answer : MemAnswer}
    (hi : run[i]? = some (.clEnqueueNDRangeKernel k, answer)) {size : Nat} (hsize : 0 < size) :
    size ≤ transferBufSize config files (memSessionAt demangle config run i) k h argIndex ↔
      RoomMade demangle config files run h i argIndex size := by
  rw [le_transferBufSize_iff hsize]
  refine exists_congr fun earlier => and_congr_right fun _ => exists_congr fun t => ?_
  rw [targetAt, atEnqueue_eq hi, keyAt, atEnqueue_eq hi]
  constructor
  · rintro ⟨file, htarget, hopened, hlength, hle⟩
    obtain ⟨key, hkey, -, hfile⟩ := (openedFor_eq_some hinjects).mp hopened
    exact ⟨key, file.2, htarget, hkey, hfile, hlength, hle⟩
  · rintro ⟨key, bytes, htarget, hkey, hfile, hlength, hle⟩
    exact ⟨(key.copy, bytes), htarget, (openedFor_eq_some hinjects).mpr ⟨key, hkey, rfl, hfile⟩,
      hlength, hle⟩

/-- What is written is the whole file if it fits. -/
theorem written_iff_fits (hinjects : h.injects config = true) {k : Nat} {answer : MemAnswer}
    (hi : run[i]? = some (.clEnqueueNDRangeKernel k, answer)) {size : Nat} {bytes : Bytes} :
    h.written size (transferBufSize config files (memSessionAt demangle config run i) k h argIndex)
        bytes = some bytes ↔
      Fits demangle config files run h i argIndex size bytes := by
  rw [written_eq_some]
  cases h with
  | buffers => rfl
  | images =>
    rcases Nat.eq_zero_or_pos size with rfl | hsize
    · -- only an empty file fits into an empty image
      exact ⟨fun h => .inl (h.elim id fun hle => Nat.le_zero.mp hle.1),
        fun h => .inl (h.elim id fun hle => Nat.le_zero.mp hle.1)⟩
    · exact or_congr_right (and_congr_right fun _ => roomMade_iff hinjects hi hsize)

/-- An injected file goes to the object that is bound. -/
theorem writtenFor_eq_some (hinjects : h.injects config = true) {k : Nat} {answer : MemAnswer}
    (hi : run[i]? = some (.clEnqueueNDRangeKernel k, answer)) {opened : String × Bytes}
    (hopened : openedFor config files (memSessionAt demangle config run i) k h argIndex =
      some opened) {handle : Handle} :
    writtenFor config files (memSessionAt demangle config run i) k h answer argIndex =
        some (handle, opened.2) ↔
      ∃ t, target (memSessionAt demangle config run i) k h argIndex = some t ∧
        t.handle = handle ∧ answer.takes h argIndex = true ∧
        Fits demangle config files run h i argIndex t.size opened.2 := by
  rw [writtenFor, Option.bind_eq_some_iff]
  refine exists_congr fun t => and_congr_right fun _ => ?_
  rw [hopened, Option.bind_some]
  split
  · next htakes =>
    rw [Option.map_eq_some_iff]
    constructor
    · rintro ⟨bytes, hwritten, heq⟩
      cases heq
      exact ⟨rfl, htakes, (written_iff_fits hinjects hi).mp hwritten⟩
    · rintro ⟨hhandle, -, hfits⟩
      exact ⟨opened.2, (written_iff_fits hinjects hi).mpr hfits, by rw [hhandle]⟩
  · next htakes => exact iff_of_false (fun heq => nomatch heq) fun h => htakes h.2.1

variable (demangle run i argIndex) in
/-- **Exactly when a file is injected where it should be**, by the names that are made. -/
theorem injectedThere_iff_keyAt (hinjects : h.injects config = true) {file : FileKey × Bytes}
    (hcopied : files file.1.copy = some file.2) :
    InjectedThere demangle config files run h i argIndex file ↔
      keyAt demangle config run h i argIndex = some file.1 ∧
      (∀ j argIndex', keyAt demangle config run h j argIndex' = some file.1 →
        j = i ∧ argIndex' = argIndex) ∧
      ∃ t object, targetAt demangle config run h i argIndex = some t ∧
        boundAt demangle config run i argIndex = some object ∧
        t.handle = (memSessionAt demangle config run i).handle object ∧
        takesAt demangle config run h i argIndex = some true ∧
        Fits demangle config files run h i argIndex t.size file.2 := by
  constructor
  · intro hinjected
    have hkey : keyAt demangle config run h i argIndex = some file.1 := by
      rw [← openedAt_iff_keyAt hinjects hcopied, hinjected.opened]
      rfl
    refine ⟨hkey, fun j argIndex' hj => hinjected.only j argIndex'
      ((openedAt_iff_keyAt hinjects hcopied).mpr hj), ?_⟩
    obtain ⟨object, hbound, hwritten⟩ := hinjected.written
    obtain ⟨k, answer, hi, hwritten⟩ := atEnqueue_eq_some.mp hwritten
    have hopened := hinjected.opened
    rw [openedAt, atEnqueue_eq hi] at hopened
    obtain ⟨t, htarget, hhandle, htakes, hfits⟩ :=
      (writtenFor_eq_some hinjects hi hopened).mp hwritten
    refine ⟨t, object, ?_, hbound, hhandle, ?_, hfits⟩
    · rw [targetAt, atEnqueue_eq hi, htarget]
    · rw [takesAt, atEnqueue_eq hi, htakes]
  · rintro ⟨hkey, honly, t, object, htarget, hbound, hhandle, htakes, hfits⟩
    have hopened := (openedAt_eq_some hinjects (file.1.copy, file.2)).mpr
      ⟨file.1, hkey, rfl, hcopied⟩
    refine ⟨hopened, fun j argIndex' hj => honly j argIndex'
      ((openedAt_iff_keyAt hinjects hcopied).mp hj), object, hbound, ?_⟩
    obtain ⟨k, answer, hi, hopenedFor⟩ := atEnqueue_eq_some.mp hopened
    rw [targetAt, atEnqueue_eq hi] at htarget
    rw [takesAt, atEnqueue_eq hi] at htakes
    rw [writtenAt, atEnqueue_eq hi]
    exact (writtenFor_eq_some hinjects hi hopenedFor).mpr
      ⟨t, htarget, hhandle, Option.some.inj htakes, hfits⟩

end

/-! ## Images -/

section

variable {demangle : String → String} {config : Config} {files : Files}
  {run : List (MemCall × MemAnswer)}

/-- Without the controls of `ADD_IMAGE` no image is tracked. -/
theorem imageInfoMap_step (htracks : config.tracksImages = false) {s : MemSession}
    (hs : ∀ value, s.objects.imageInfoMap value = none) (call : MemCall × MemAnswer) (value : Nat) :
    (memStep demangle config s call).objects.imageInfoMap value = none := by
  obtain ⟨call, answer⟩ := call
  cases call with
  | createBuffer =>
    show (if config.tracksBuffers then addBuffer _ _ s.objects else s.objects).imageInfoMap value =
      _
    unfold addBuffer
    split
    · split
      · exact hs value
      · split <;> exact hs value
    · exact hs value
  | createImage =>
    show (if config.tracksImages then addImage _ _ s.objects else s.objects).imageInfoMap value = _
    rw [htracks, if_neg Bool.false_ne_true]
    exact hs value
  | allocate kind size =>
    show (Allocations.addAllocation config kind _ size s.objects).imageInfoMap value = _
    unfold Allocations.addAllocation addSVMAllocation addUSMAllocation
    split
    · cases kind <;> dsimp only <;> split <;> exact hs value
    · exact hs value
  | clReleaseMemObject k =>
    show (if config.removesMemObjs && s.handle k ≠ null then checkRemoveMemObj _ _ s.objects
      else s.objects).imageInfoMap value = _
    unfold checkRemoveMemObj
    split
    · split
      · show Function.update s.objects.imageInfoMap _ none value = none
        by_cases hvalue : value = s.handle k
        · rw [hvalue, Function.update_self]
        · rw [Function.update_of_ne hvalue]
          exact hs value
      · exact hs value
    · exact hs value
  | free kind k =>
    show (Allocations.removeAllocation config kind _ s.objects).imageInfoMap value = _
    unfold Allocations.removeAllocation
    split
    · cases kind <;> exact hs value
    · exact hs value
  | clEnqueueNDRangeKernel k =>
    show (touch config s k .images answer (touch config s k .buffers answer
      s.objects)).imageInfoMap value = _
    unfold touch
    split <;> split <;> exact hs value
  | _ => exact hs value

/-- Images that are not tracked are no targets. -/
theorem targetAt_images (htracks : config.tracksImages = false)
    (hl : (memSystem demangle config).Legal {} run) (i argIndex : Nat) :
    targetAt demangle config run .images i argIndex = none := by
  have halways : (memSystem demangle config).Always
      (fun s => ∀ value, s.objects.imageInfoMap value = none) {} run :=
    System.always_of_step (fun _ call hs _ => imageInfoMap_step htracks hs call) (fun _ => rfl) hl
  have hnone := System.always_iff_prefix.mp halways _ (List.take_prefix i run)
  rw [Option.eq_none_iff_forall_ne_some]
  intro t ht
  obtain ⟨k, answer, -, ht⟩ := atEnqueue_eq_some.mp ht
  obtain ⟨memInfo, -, ht⟩ := Option.bind_eq_some_iff.mp ht
  obtain ⟨info, hinfo, -⟩ := Option.map_eq_some_iff.mp ht
  exact nomatch (hnone memInfo.value).symm.trans hinfo

end

/-! ## The two runs -/

section

variable {demangle : String → String} {config₁ config₂ : Config} {files : Files}
  {run₁ run₂ : List (MemCall × MemAnswer)} {h : Half} {i argIndex : Nat}

/-- An argument with a key has its target. -/
theorem exists_targetAt {config : Config} {run : List (MemCall × MemAnswer)} {key : FileKey}
    (hkey : keyAt demangle config run h i argIndex = some key) :
    ∃ t, targetAt demangle config run h i argIndex = some t := by
  obtain ⟨k, answer, hi, hkey⟩ := atEnqueue_eq_some.mp hkey
  obtain ⟨t, ht, -⟩ := Option.map_eq_some_iff.mp hkey
  exact ⟨t, atEnqueue_eq_some.mpr ⟨k, answer, hi, ht⟩⟩

/-- What the name is made of. -/
theorem keyAt_of_targetAt {config : Config} {run : List (MemCall × MemAnswer)} {t : Target}
    (hl : (memSystem demangle config).Legal {} run)
    (ht : targetAt demangle config run h i argIndex = some t) :
    ∃ kernelName, kernelNameAt demangle config run i = some kernelName ∧
      keyAt demangle config run h i argIndex =
        some { enqueue := (memSessionAt demangle config run i).enqueueCounter.toUInt32,
               kernelName := kernelName, argIndex := argIndex,
               memAllocNumber := (memSessionAt demangle config run i).numberOf config t.handle,
               shape := t.shape } := by
  obtain ⟨k, answer, hi, ht⟩ := atEnqueue_eq_some.mp ht
  rw [kernelNameAt, keyAt, atEnqueue_eq hi, atEnqueue_eq hi, fileKey, ht,
    ← memAllocNumber_eq (counted_memSessionAt hl i), ← target_memAllocNumber ht]
  exact ⟨_, rfl, rfl⟩

/-- **The names agree** where the enqueue counters do, modulo 2^32, and the memory is the same. -/
theorem keyAt_iff (hl₁ : (memSystem demangle config₁).Legal {} run₁)
    (hl₂ : (memSystem demangle config₂).Legal {} run₂)
    (hsame : run₂.map Prod.fst = run₁.map Prod.fst) {key : FileKey}
    (hkey : keyAt demangle config₁ run₁ h i argIndex = some key) (j argIndex' : Nat) :
    keyAt demangle config₂ run₂ h j argIndex' = some key ↔
      argIndex' = argIndex ∧ (memSessionAt demangle config₂ run₂ j).enqueueCounter.toUInt32 =
          (memSessionAt demangle config₂ run₂ i).enqueueCounter.toUInt32 ∧
        SameMemory demangle config₁ config₂ run₁ run₂ h argIndex i j := by
  obtain ⟨t₁, htarget₁⟩ := exists_targetAt hkey
  obtain ⟨kernelName₁, hname₁, hkey₁⟩ := keyAt_of_targetAt hl₁ htarget₁
  rw [hkey₁] at hkey
  cases hkey
  rw [enqueueCounter_same demangle config₁ config₂ hsame i]
  constructor
  · intro hkey
    obtain ⟨t₂, htarget₂⟩ := exists_targetAt hkey
    obtain ⟨kernelName₂, hname₂, hkey₂⟩ := keyAt_of_targetAt hl₂ htarget₂
    rw [hkey₂, Option.some.injEq, FileKey.mk.injEq] at hkey
    obtain ⟨hcounter, hname, rfl, hnumber, hshape⟩ := hkey
    exact ⟨rfl, hcounter, by rw [hname₂, hname₁, hname], t₁, t₂, htarget₁, htarget₂, hnumber,
      hshape⟩
  · rintro ⟨rfl, hcounter, hname, t₁', t₂, htarget₁', htarget₂, hnumber, hshape⟩
    obtain rfl := Option.some.inj (htarget₁.symm.trans htarget₁')
    obtain ⟨kernelName₂, hname₂, hkey₂⟩ := keyAt_of_targetAt hl₂ htarget₂
    rw [hname₁, hname₂, Option.some.injEq] at hname
    rw [hkey₂, hcounter, hname, hnumber, hshape]

theorem numbered_eq (config : Config) (c : Created) :
    c.numbered config = (c.outcome.1.tracked config && c.outcome.2) := by
  rw [Created.numbered, Created.outcome, Bool.and_assoc]

/-- Creations that went alike take the same numbers if their kinds are tracked alike. -/
theorem numberedBefore_same {s₁ s₂ : MemSession}
    (hkinds : ∀ kind : MemKind, kind.tracked config₂ = kind.tracked config₁)
    (hcreated : s₂.created.map Created.outcome = s₁.created.map Created.outcome) (object : Nat) :
    s₂.numberedBefore config₂ object = s₁.numberedBefore config₁ object := by
  have hnumbered : ∀ config, (Created.numbered config) =
      (fun outcome : MemKind × Bool => outcome.1.tracked config && outcome.2) ∘
        Created.outcome := fun config => funext fun c => numbered_eq config c
  rw [MemSession.numberedBefore, MemSession.numberedBefore, hnumbered, hnumbered,
    ← List.countP_map, ← List.countP_map, List.map_take, List.map_take, hcreated]
  simp only [hkinds]

end

/-- A dumped file carries the key of its argument. -/
theorem keyAt_of_dumpedAt {demangle : String → String} {config : Config}
    {run : List (MemCall × MemAnswer)} {h : Half} {i argIndex : Nat} {file : FileKey × Bytes}
    (hdumped : dumpedAt demangle config run h i argIndex = some file) :
    h.dumps config = true ∧ keyAt demangle config run h i argIndex = some file.1 := by
  obtain ⟨k, answer, hi, hdumped⟩ := atEnqueue_eq_some.mp hdumped
  unfold dumpedFor at hdumped
  split at hdumped
  · next hdumps =>
    obtain ⟨key, hkey, hfile⟩ := Option.bind_eq_some_iff.mp hdumped
    obtain ⟨bytes, -, rfl⟩ := Option.map_eq_some_iff.mp hfile
    rw [Bool.and_eq_true] at hdumps
    exact ⟨hdumps.1, atEnqueue_eq_some.mpr ⟨k, answer, hi, hkey⟩⟩
  · cases hdumped

/-- Both sides track the same kinds, but for images. -/
theorem tracked_buffers {config₁ config₂ : Config} (hdumps : Half.buffers.dumps config₁ = true)
    (honly : Half.buffers.InjectsOnly config₂)
    (himages : config₁.tracksImages = config₂.captureReplay) (kind : MemKind) :
    kind.tracked config₂ = kind.tracked config₁ := by
  have hdumps' : config₁.dumpBuffersBeforeEnqueue = true := hdumps
  have hinjects : config₂.injectBuffers = true := honly.1
  have hother := honly.2
  simp only [Config.dumpsOrInjects, Bool.or_eq_false_iff] at hother
  cases kind with
  | buffer => simp [MemKind.tracked, Config.tracksBuffers, hdumps', hinjects]
  | image =>
    show config₂.tracksImages = config₁.tracksImages
    rw [himages]
    simp [Config.tracksImages, hother]
  | allocation kind => simp [MemKind.tracked, Config.tracksAllocations, hdumps', hinjects]

/-- Both sides number an object alike if the creations went alike. -/
theorem numberOf_same {demangle : String → String} {config₁ config₂ : Config}
    {run₁ run₂ : List (MemCall × MemAnswer)} (hl₁ : (memSystem demangle config₁).Legal {} run₁)
    (hl₂ : (memSystem demangle config₂).Legal {} run₂) (i : Nat)
    (hkinds : ∀ kind : MemKind, kind.tracked config₂ = kind.tracked config₁)
    (hcreated : (memSessionAt demangle config₂ run₂ i).created.map Created.outcome =
      (memSessionAt demangle config₁ run₁ i).created.map Created.outcome) {object : Nat}
    {c₁ c₂ : Created} (hc₁ : (memSessionAt demangle config₁ run₁ i).created[object]? = some c₁)
    (hc₂ : (memSessionAt demangle config₂ run₂ i).created[object]? = some c₂)
    (hlive₁ : c₁.live = true) (hlive₂ : c₂.live = true) (hnumbered : c₁.numbered config₁ = true) :
    (memSessionAt demangle config₂ run₂ i).numberOf config₂
        ((memSessionAt demangle config₂ run₂ i).handle object) =
      (memSessionAt demangle config₁ run₁ i).numberOf config₁
        ((memSessionAt demangle config₁ run₁ i).handle object) := by
  have houtcome : c₂.outcome = c₁.outcome := by
    have hat := congrArg (·[object]?) hcreated
    simpa only [List.getElem?_map, hc₁, hc₂, Option.map_some, Option.some.injEq] using hat
  have hnumbered₂ : c₂.numbered config₂ = true := by
    rw [numbered_eq, houtcome, hkinds, ← numbered_eq, hnumbered]
  rw [numberOf_handle (counted_memSessionAt hl₁ i) hc₁ hlive₁ hnumbered,
    numberOf_handle (counted_memSessionAt hl₂ i) hc₂ hlive₂ hnumbered₂,
    numberedBefore_same hkinds hcreated]

/-- **What one run wrote and the other injects.** A file that a first run wrote for an argument is
injected there by a second run of the same calls exactly when it is found again. The two runs number
the objects alike, for buffers, if both track images or neither does and the creations went alike. No
image is injected by a run that does not capture. -/
theorem injected_iff (h : Half) (demangle : String → String) (config₁ config₂ : Config)
    (files : Files) (run₁ run₂ : List (MemCall × MemAnswer))
    (hl₁ : (memSystem demangle config₁).Legal {} run₁)
    (hl₂ : (memSystem demangle config₂).Legal {} run₂)
    (hsame : run₂.map Prod.fst = run₁.map Prod.fst) (honly : h.InjectsOnly config₂)
    (i argIndex : Nat) (file : FileKey × Bytes)
    (hdumped : dumpedAt demangle config₁ run₁ h i argIndex = some file)
    (hcopied : files file.1.copy = some file.2) :
    (InjectedThere demangle config₂ files run₂ h i argIndex file ↔
      FoundAgain demangle config₁ config₂ files run₁ run₂ h argIndex i file.2) ∧
    (h = .buffers → config₁.tracksImages = config₂.captureReplay →
      (memSessionAt demangle config₂ run₂ i).created.map Created.outcome =
        (memSessionAt demangle config₁ run₁ i).created.map Created.outcome →
      ∀ object c₁ c₂, (memSessionAt demangle config₁ run₁ i).created[object]? = some c₁ →
        (memSessionAt demangle config₂ run₂ i).created[object]? = some c₂ →
        c₁.live = true → c₂.live = true → c₁.numbered config₁ = true →
        (memSessionAt demangle config₂ run₂ i).numberOf config₂
            ((memSessionAt demangle config₂ run₂ i).handle object) =
          (memSessionAt demangle config₁ run₁ i).numberOf config₁
            ((memSessionAt demangle config₁ run₁ i).handle object)) ∧
    (h = .images → config₂.captureReplay = false →
      ¬InjectedThere demangle config₂ files run₂ h i argIndex file) := by
  have hinjects : h.injects config₂ = true := by
    cases h <;> exact honly.1
  obtain ⟨hdumps, hkey⟩ := keyAt_of_dumpedAt hdumped
  have hnamed := keyAt_iff hl₁ hl₂ hsame hkey
  have hiff := injectedThere_iff_keyAt demangle run₂ i argIndex hinjects hcopied
  refine ⟨hiff.trans ⟨?_, fun hfound => ?_⟩, ?_, ?_⟩
  · rintro ⟨hthere, hothers, hbound⟩
    refine ⟨((hnamed i argIndex).mp hthere).2.2, fun j hne hcounter hmemory => ?_, hbound⟩
    exact hne (hothers j argIndex ((hnamed j argIndex).mpr ⟨rfl, hcounter, hmemory⟩)).1
  · refine ⟨(hnamed i argIndex).mpr ⟨rfl, rfl, hfound.same⟩, fun j argIndex' hj => ?_,
      hfound.bound⟩
    obtain ⟨rfl, hcounter, hmemory⟩ := (hnamed j argIndex').mp hj
    refine ⟨?_, rfl⟩
    by_contra hne
    exact hfound.only j hne hcounter hmemory
  · rintro rfl himages hcreated object c₁ c₂ hc₁ hc₂ hlive₁ hlive₂ hnumbered
    exact numberOf_same hl₁ hl₂ i (tracked_buffers hdumps honly himages) hcreated hc₁ hc₂ hlive₁
      hlive₂ hnumbered
  · rintro rfl hcapture hinjected
    have hother := honly.2
    simp only [Config.dumpsOrInjects, Bool.or_eq_false_iff] at hother
    have htracks : config₂.tracksImages = false := by
      simp [Config.tracksImages, hother, hcapture]
    obtain ⟨-, -, t, -, ht, -⟩ := hiff.mp hinjected
    exact nomatch (targetAt_images htracks hl₂ i argIndex).symm.trans ht

/-! ## Single enqueues -/

/-- A kernel is created, its only argument set to an object, and the kernel enqueued. -/
def launch (creations : List (MemCall × MemAnswer)) (object : Nat) : List (MemCall × MemAnswer) :=
  creations ++ [(.clCreateKernel "k", { handle := 8 }),
    (.clSetKernelArg 0 0 (.object object), { accepted := true }),
    (.clEnqueueNDRangeKernel 0, { contents := fun _ _ => some [1, 2] })]

/-- Binding a live object and launching the kernel is legal. -/
theorem legal_launch {demangle : String → String} {config : Config}
    {creations : List (MemCall × MemAnswer)} {object : Nat}
    (hl : (memSystem demangle config).Legal {} creations)
    (hbound : ((memSystem demangle config).exec {} creations).bound = fun _ _ => none)
    (hlive : ((memSystem demangle config).exec {} creations).Live object) :
    (memSystem demangle config).Legal {} (launch creations object) := by
  rw [System.Legal, launch, System.each_append]
  refine ⟨hl, trivial, trivial, fun argIndex object' hobject => ?_, trivial⟩
  generalize (memSystem demangle config).exec {} creations = s at hbound hlive hobject
  replace hobject : Function.update s.bound 0 (Function.update (s.bound 0) 0 (some object)) 0
    argIndex = some object' := hobject
  rw [Function.update_self, hbound] at hobject
  by_cases hargIndex : argIndex = 0
  · rw [hargIndex, Function.update_self] at hobject
    cases hobject
    exact hlive
  · rw [Function.update_of_ne hargIndex] at hobject
    cases hobject

/-- An image of two pixels of one byte each. -/
def twoPixels : ImageAnswers where
  width := 2
  height := 1
  depth := 0
  arraySize := 0
  elementSize := 1
  rowPitch := 2
  slicePitch := 0
  format := (0, 0)

/-- The file of the memory of these two bytes, for the first argument of the first enqueue. -/
def twoBytes (memAllocNumber : Nat) (shape : Option (Nat × Nat × Nat × Nat)) : FileKey × Bytes :=
  ({ enqueue := 0, kernelName := "k", argIndex := 0, memAllocNumber := memAllocNumber,
     shape := shape }, [1, 2])

section

variable {demangle : String → String} {config : Config}

/-- The first creation meets nothing that lives. -/
theorem legal_first (answer : MemAnswer) (call : MemCall) (hcall : call = .createBuffer ∨
    call = .createImage) : (memSystem demangle config).Legal {} [(call, answer)] := by
  have hnone : ∀ object, ¬({} : MemSession).Live object := by
    rintro object ⟨c, hc, -⟩
    cases hc
  rcases hcall with rfl | rfl
  · exact ⟨fun _ object hobject => absurd hobject (hnone object), trivial⟩
  · exact ⟨fun _ object hobject => absurd hobject (hnone object), trivial⟩

theorem legal_buffer {handle : Handle} (hne : handle ≠ null) :
    (memSystem demangle config).Legal {}
      (launch [(.createBuffer, { handle := handle, size := some 2 })] 0) :=
  legal_launch (legal_first _ _ (.inl rfl)) rfl ⟨_, rfl, decide_eq_true hne⟩

theorem legal_image :
    (memSystem demangle config).Legal {}
      (launch [(.createImage, { handle := 64, image := some twoPixels })] 0) :=
  legal_launch (legal_first _ _ (.inr rfl)) rfl ⟨_, rfl, rfl⟩

theorem legal_image_buffer :
    (memSystem demangle config).Legal {}
      (launch [(.createImage, { handle := 64, image := some twoPixels }),
        (.createBuffer, { handle := 128, size := some 2 })] 1) := by
  refine legal_launch ⟨(legal_first _ _ (.inr rfl)).1, fun _ object hobject => ?_, trivial⟩ rfl
    ⟨_, rfl, rfl⟩
  match object, hobject with
  | 0, _ =>
    show (64 : Nat) ≠ 128
    decide
  | object + 1, ⟨c, hc, _⟩ => cases hc

end

/-- A buffer, in two runs that give out other handles. -/
theorem injected_iff_launch :
    InjectedThere id { injectBuffers := true } (fun _ => some [1, 2])
      (launch [(.createBuffer, { handle := 128, size := some 2 })] 0) .buffers 3 0
      (twoBytes 0 none) := by
  refine (injected_iff .buffers id { dumpBuffersBeforeEnqueue := true } { injectBuffers := true }
    (fun _ => some [1, 2]) (launch [(.createBuffer, { handle := 64, size := some 2 })] 0)
    (launch [(.createBuffer, { handle := 128, size := some 2 })] 0) (legal_buffer (by decide))
    (legal_buffer (by decide)) rfl ⟨rfl, rfl⟩ 3 0 (twoBytes 0 none) rfl rfl).1.mpr
    ⟨⟨rfl, { handle := 64, memAllocNumber := 0, shape := none, size := 2 },
      { handle := 128, memAllocNumber := 0, shape := none, size := 2 }, rfl, rfl, rfl, rfl⟩,
      fun j hne _ hmemory => ?_, ?_⟩
  · obtain ⟨-, t₁, t₂, -, htarget₂, -⟩ := hmemory
    obtain ⟨k, answer, hj, -⟩ := atEnqueue_eq_some.mp htarget₂
    match j, hj with
    | 3, _ => exact hne rfl
    | j + 4, hj => cases hj
  · exact ⟨{ handle := 128, memAllocNumber := 0, shape := none, size := 2 }, 0, rfl, rfl, rfl,
      rfl, Nat.le_refl 2⟩

/-- An image that was dumped is not injected. A buffer that was dumped by a run which numbered an
image before it is not injected either. -/
theorem dumped_not_found : ¬InjectsWhereDumped .images ∧ ¬InjectsWhereDumped .buffers := by
  constructor
  · intro hclaim
    have hinjected := hclaim id { dumpImagesBeforeEnqueue := true } { injectImages := true }
      (fun _ => some [1, 2]) _ _ 3 0 (twoBytes 0 (some (2, 1, 1, 8))) legal_image legal_image rfl
      ⟨rfl, rfl⟩ rfl rfl
    obtain ⟨-, -, t, -, ht, -⟩ := (injectedThere_iff_keyAt _ _ _ _ rfl rfl).mp hinjected
    exact nomatch (targetAt_images rfl legal_image 3 0).symm.trans ht
  · intro hclaim
    have hinjected := hclaim id
      { dumpBuffersBeforeEnqueue := true, dumpImagesBeforeEnqueue := true }
      { injectBuffers := true } (fun _ => some [1, 2]) _ _ 4 0 (twoBytes 1 none) legal_image_buffer
      legal_image_buffer rfl ⟨rfl, rfl⟩ rfl rfl
    have hkey : some (twoBytes 0 none).1 = some (twoBytes 1 none).1 :=
      ((injectedThere_iff_keyAt _ _ _ _ rfl rfl).mp hinjected).1
    exact absurd hkey (by decide)

end CLIntercept.Dump.Memory
