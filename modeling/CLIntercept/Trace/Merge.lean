import CLIntercept.Trace.Json
import Mathlib.Algebra.Order.BigOperators.Group.List

/-!
# Traces merged into one

The script that puts the traces of several processes on one time line. It reads lines, keeps the
records that a filter is for, moves their times by what the trace began later than the earliest one
and writes one array.

The bracket of a file is no record, and the filter has dropped it when the lines are written. Yet the
first line that was kept is left out of every file. The name of the process is in it: no merged trace
has the names of its processes (`not_combines`).

Times are exact decimals here. How the tracer rounds them to thousandths is left open.
-/

set_option autoImplicit false

namespace CLIntercept.Trace.Merge

open CLIntercept.Lib

/-! ## Texts -/

/-- `str.isspace`. -/
def isSpace (c : Char) : Bool :=
  (9 ≤ c.toNat && c.toNat ≤ 13) || (28 ≤ c.toNat && c.toNat ≤ 32) || c.toNat = 0x85 ||
    c.toNat = 0xA0 || c.toNat = 0x1680 || (0x2000 ≤ c.toNat && c.toNat ≤ 0x200A) ||
    c.toNat = 0x2028 || c.toNat = 0x2029 || c.toNat = 0x202F || c.toNat = 0x205F || c.toNat = 0x3000

def strip (p : Char → Bool) (text : List Char) : List Char := (text.dropWhile p).rdropWhile p

/-- Every end of a line that is read becomes a newline. -/
def newlines : List Char → List Char
  | [] => []
  | '\r' :: '\n' :: text => '\n' :: newlines text
  | '\r' :: text => '\n' :: newlines text
  | c :: text => c :: newlines text

/-- The lines of a file, each with its newline. -/
def readlines : List Char → List (List Char)
  | [] => []
  | '\n' :: text => ['\n'] :: readlines text
  | c :: text =>
    match readlines text with
    | [] => [[c]]
    | line :: lines => (c :: line) :: lines

/-- A file that is opened as text. -/
def readFile (file : Bytes) : Option (List (List Char)) :=
  (String.fromUTF8? ⟨file.toArray⟩).map fun text => readlines (newlines text.toList)

/-- What `split` leaves behind the last of its separators. -/
def afterLast (separator text : List Char) : List Char :=
  match text.tails.reverse.find? (separator.isPrefixOf ·) with
  | some found => found.drop separator.length
  | none => text

/-! ## Times -/

/-- A decimal: a number of units of the last of its places. -/
structure Exact where
  units : Nat
  places : Nat
  deriving DecidableEq, Repr

/-- `float` of what is printed by `%.3f` or by `str`. -/
def float (text : List Char) : Option Exact :=
  let whole := text.takeWhile Char.isDigit
  let fraction := (text.dropWhile Char.isDigit).drop 1
  if text = whole ++ '.' :: fraction ∧ whole ≠ [] ∧ fraction.all Char.isDigit then
    some ⟨numberValue 10 (whole ++ fraction), fraction.length⟩
  else none

def Exact.add (x : Exact) (n : Nat) : Exact := ⟨x.units + n * 10 ^ x.places, x.places⟩

/-- `str` leaves out the zeros at the end, but not the first one behind the point. -/
def Exact.str (x : Exact) : List Char :=
  let digits := (number 10 (x.places + 1) x.units).toList
  let fraction := (digits.drop (digits.length - x.places)).rdropWhile (· = '0')
  digits.take (digits.length - x.places) ++ '.' :: if fraction = [] then ['0'] else fraction

/-- Two spellings of one number. -/
def Exact.Equals (x y : Exact) : Prop := x.units * 10 ^ y.places = y.units * 10 ^ x.places

/-! ## The script -/

def phase : List Char := "\"ph\":".toList

def metadataPhase : List Char := "\"ph\":\"M\"".toList

def ts : List Char := "\"ts\"".toList

def tsKey : List Char := "\"ts\":".toList

def startTimeWord : List Char := "start_time".toList

def startTimeKey : List Char := "\"start_time\":".toList

def filter (filters : List (List Char)) (record : List Char) : Bool :=
  if ¬phase <:+: record then false
  else if filters.length = 0 then true
  else if metadataPhase <:+: record then true
  else filters.any fun filter => decide (filter <:+: record)

def fixup (record : List Char) : List Char :=
  if (strip isSpace record).getLast? ≠ some ',' then strip isSpace record ++ [',', '\n'] else record

/-- The expression for a time: its key, and digits and points. -/
def matchTs (dec : Decimals) (text : List Char) : Option Nat :=
  let digits := (text.drop tsKey.length).takeWhile fun c => dec.isDigit c || c = '.'
  if tsKey <+: text ∧ digits ≠ [] then some (tsKey.length + digits.length) else none

/-- The expression for the start time: its key, and digits that may be quoted. -/
def matchStartTime (dec : Decimals) (text : List Char) : Option Nat :=
  let opened := ((text.drop startTimeKey.length).take 1).takeWhile (· = '"')
  let digits := (text.drop (startTimeKey.length + opened.length)).takeWhile dec.isDigit
  let closed := ((text.drop (startTimeKey.length + opened.length + digits.length)).take 1).takeWhile
    (· = '"')
  if startTimeKey <+: text ∧ digits ≠ [] then
    some (startTimeKey.length + opened.length + digits.length + closed.length)
  else none

/-- A record on the time line of the earliest trace. -/
def normalize (dec : Decimals) (offset epoch : Nat) (record : List Char) : Option (List Char) :=
  if ts <:+: record then
    (float ((afterLast tsKey record).takeWhile (· ≠ ','))).map fun time =>
      sub (matchTs dec) (tsKey ++ (time.add offset).str) 0 record
  else if startTimeWord <:+: record then
    some (sub (matchStartTime dec) (startTimeKey ++ (number 10 1 epoch).toList) 0 record)
  else some record

/-- The start time, from the third line of a file that has the word anywhere. -/
def startTime (dec : Decimals) (lines : List (List Char)) : Option Nat :=
  if lines.any fun line => decide (startTimeWord <:+: line) then
    lines[2]?.bind fun line =>
      dec.wholeNumber (strip (· = '"') ((afterLast [':'] line).takeWhile (· ≠ '\x7d')))
  else none

def mergedEof : List Char :=
  "\x7b\"ph\":\"M\",\"name\":\"clintercept_merged_eof\",\"pid\":0,\"tid\":0\x7d".toList

/-- What is written of the files: of each, from the second line that was kept. -/
def output (filteredFiles : List (List (List Char))) : List Char :=
  ['[', '\n'] ++ filteredFiles.flatMap (fun lines => (lines.drop 1).flatten) ++ mergedEof ++
    ['\n', ']', '\n']

/-- The records of one file that are kept, repaired and moved. -/
def normalizeFile (dec : Decimals) (filters : List (List Char)) (epoch : Nat)
    (lines : List (List Char)) (start : Nat) : Option (List (List Char)) :=
  ((lines.filter (filter filters)).map fixup).mapM (normalize dec (start - epoch) epoch)

/-- The whole script. If it does not end with an error it has written a file. -/
def main (dec : Decimals) (files : List Bytes) (filters : List (List Char)) :
    Option (List Char) :=
  if files.length < 2 then none
  else
    (files.mapM readFile).bind fun inputFiles =>
      (inputFiles.mapM (startTime dec)).bind fun startTimes =>
        startTimes.min?.bind fun epoch =>
          ((inputFiles.zip startTimes).mapM fun file =>
            normalizeFile dec filters epoch file.1 file.2).map output

/-! ## What is asked of it -/

/-- A trace as the layer captures it: the process and the start time first, and then what it is told.
`beyond` is the memory behind the string buffer, at each piece. -/
structure Captured where
  processId : UInt64
  addFlowEvents : Bool
  bufferSize : UInt32
  processName : String
  startTime : UInt64
  calls : List TracerCall
  thousandths : UInt64 → Nat
  beyond : Nat → Bytes
  plain : Plain processName ∧ ∀ call ∈ calls, ∀ text ∈ call.texts, Plain text

def Captured.trace (t : Captured) : ChromeTracer :=
  traceOf (microseconds t.thousandths) t.processId t.addFlowEvents t.bufferSize
    (.addProcessMetadata t.processName :: .addStartTimeMetadata t.startTime :: t.calls)

def Captured.file (t : Captured) : Bytes := fileBytes t.beyond t.trace.traceFile

/-- The records to be kept: metadata, and what contains a filter. -/
def Kept (filters : List (List Char)) (line : List Char) : Prop :=
  phase <:+: line ∧ (filters = [] ∨ metadataPhase <:+: line ∨ ∃ filter ∈ filters, filter <:+: line)

instance (filters : List (List Char)) (line : List Char) : Decidable (Kept filters line) :=
  inferInstanceAs (Decidable (_ ∧ (_ ∨ _ ∨ _)))

/-- A record and what becomes of it: its time later by the offset, or its start time replaced, and
the rest unchanged. -/
inductive Shifted (offset epoch : Nat) : List Char → List Char → Prop
  | time {before time time' behind : List Char} {x y : Exact} : float time = some x →
      float time' = some y → y.Equals (x.add offset) →
      Shifted offset epoch (before ++ tsKey ++ time ++ ',' :: behind)
        (before ++ tsKey ++ time' ++ ',' :: behind)
  | startTime {before behind : List Char} (start : Nat) :
      Shifted offset epoch (before ++ startTimeKey ++ (number 10 1 start).toList ++ '\x7d' :: behind)
        (before ++ startTimeKey ++ (number 10 1 epoch).toList ++ '\x7d' :: behind)
  | other {record : List Char} : ¬tsKey <:+: record → ¬startTimeKey <:+: record →
      Shifted offset epoch record record

/-- A line is a record, a comma unless it is the last one, and a newline. -/
def Element (offset epoch : Nat) (line element : List Char) : Prop :=
  ∃ record, (line = record ++ [',', '\n'] ∨ line = record ++ ['\n']) ∧
    Shifted offset epoch record element

/-- **A text is the traces merged**: one array of the records to be kept, each once, file by file and
in order, with a record for its own end. -/
def Merges (traces : List Captured) (filters : List (List Char)) (text : List Char) : Prop :=
  ∃ epoch merged, (traces.map fun t => t.startTime.toNat).min? = some epoch ∧
    List.Forall₂ (fun (t : Captured) elements => ∃ lines, readFile t.file = some lines ∧
      List.Forall₂ (Element (t.startTime.toNat - epoch) epoch)
        (lines.filter fun line => decide (Kept filters line)) elements) traces merged ∧
    Json.ArrayOf (merged.flatten ++ [mergedEof]) text

/-- The script merges the traces. -/
def Combines (dec : Decimals) (traces : List Captured) (filters : List (List Char)) : Prop :=
  ∃ text, main dec (traces.map Captured.file) filters = some text ∧ Merges traces filters text

/-! ## Braces

Whatever the script does to a line, its braces stay. -/

def braces (text : List Char) : Nat := text.count '\x7b'

/-- What is taken while a test holds has nothing that fails it. -/
theorem notMem_takeWhile {p : Char → Bool} {c : Char} (h : p c = false) (text : List Char) :
    c ∉ text.takeWhile p := by
  intro hc
  have htrue := List.mem_takeWhile_imp hc
  rw [h] at htrue
  cases htrue

/-- Stripping takes away only what is stripped. -/
theorem count_strip {p : Char → Bool} {c : Char} (h : p c = false) (text : List Char) :
    (strip p text).count c = text.count c := by
  have hdrop (cs : List Char) : (cs.dropWhile p).count c = cs.count c := by
    have hnone := notMem_takeWhile h cs
    have hsplit := congrArg (List.count c) (List.takeWhile_append_dropWhile (p := p) (l := cs))
    rwa [List.count_append, List.count_eq_zero_of_not_mem hnone, Nat.zero_add] at hsplit
  rw [strip, List.rdropWhile, List.count_reverse, hdrop, List.count_reverse, hdrop]

/-- The mending of a record opens no brace. -/
theorem braces_fixup (record : List Char) : braces (fixup record) = braces record := by
  unfold fixup braces
  split
  · rw [List.count_append, count_strip (by decide)]
    rfl
  · rfl

theorem brace_notMem_number (w n : Nat) : '\x7b' ∉ (number 10 w n).toList :=
  notMem_number (by decide) (by decide) w n (by decide)

theorem brace_notMem_str (x : Exact) : '\x7b' ∉ x.str := by
  have hdigits := brace_notMem_number (x.places + 1) x.units
  unfold Exact.str
  simp only [List.mem_append, List.mem_cons, not_or]
  refine ⟨fun hc => hdigits (List.mem_of_mem_take hc), by decide, ?_⟩
  split
  · decide
  · exact fun hc => hdigits (List.mem_of_mem_drop ((List.rdropWhile_prefix _ _).subset hc))

section

variable {dec : Decimals}

theorem isDigit_brace : dec.isDigit '\x7b' = false := by
  rw [Decimals.isDigit, dec.ascii '\x7b' (by decide)]
  rfl

/-- A match without a brace, from its first part and the others. -/
theorem brace_notMem_take {part text : List Char} {n : Nat} (hpart : '\x7b' ∉ part)
    (hbegins : part <+: text) (hrest : '\x7b' ∉ (text.drop part.length).take n) :
    '\x7b' ∉ text.take (part.length + n) := by
  obtain ⟨rest, rfl⟩ := hbegins
  rw [List.drop_left] at hrest
  rw [List.take_length_add_append, List.mem_append, not_or]
  exact ⟨hpart, hrest⟩

/-- At most one character is matched. -/
theorem prefix_takeWhile_take_one (p : Char → Bool) (text : List Char) :
    (text.take 1).takeWhile p <+: text :=
  (List.takeWhile_prefix p).trans (List.take_prefix 1 text)

/-- A time that is matched has no brace. -/
theorem matchTs_braces {text : List Char} {n : Nat} (h : matchTs dec text = some n) :
    0 < n ∧ '\x7b' ∉ text.take n := by
  unfold matchTs at h
  simp only [Option.ite_none_right_eq_some, Option.some_inj] at h
  obtain ⟨⟨hkey, -⟩, rfl⟩ := h
  refine ⟨Nat.add_pos_left (by decide) _, brace_notMem_take (by decide) hkey ?_⟩
  have hdigits := List.takeWhile_prefix (l := text.drop tsKey.length)
    fun c => dec.isDigit c || decide (c = '.')
  rw [← List.prefix_iff_eq_take.mp hdigits]
  refine notMem_takeWhile ?_ _
  rw [isDigit_brace]
  rfl

/-- A start time that is matched has no brace. -/
theorem matchStartTime_braces {text : List Char} {n : Nat}
    (h : matchStartTime dec text = some n) : 0 < n ∧ '\x7b' ∉ text.take n := by
  unfold matchStartTime at h
  simp only [Option.ite_none_right_eq_some, Option.some_inj] at h
  obtain ⟨⟨hkey, -⟩, rfl⟩ := h
  refine ⟨Nat.add_pos_left (Nat.add_pos_left (Nat.add_pos_left (by decide) _) _) _, ?_⟩
  -- the quote, the digits and the quote, one behind the other
  rw [Nat.add_assoc, Nat.add_assoc]
  refine brace_notMem_take (by decide) hkey ?_
  refine brace_notMem_take (notMem_takeWhile rfl _) (prefix_takeWhile_take_one _ _) ?_
  rw [List.drop_drop]
  refine brace_notMem_take (notMem_takeWhile isDigit_brace _) (List.takeWhile_prefix _) ?_
  rw [List.drop_drop, ← List.prefix_iff_eq_take.mp (prefix_takeWhile_take_one _ _)]
  exact notMem_takeWhile rfl _

/-- A record that is moved has its braces. -/
theorem braces_normalize {offset epoch : Nat} {record moved : List Char}
    (h : normalize dec offset epoch record = some moved) : braces moved = braces record := by
  unfold normalize at h
  unfold braces
  split at h
  · obtain ⟨time, -, rfl⟩ := Option.map_eq_some_iff.mp h
    refine count_sub (fun _ _ => matchTs_braces) ?_ 0 record
    rw [List.mem_append, not_or]
    exact ⟨by decide, brace_notMem_str _⟩
  · split at h
    · rw [← Option.some.inj h]
      refine count_sub (fun _ _ => matchStartTime_braces) ?_ 0 record
      rw [List.mem_append, not_or]
      exact ⟨by decide, brace_notMem_number 1 epoch⟩
    · rw [← Option.some.inj h]

/-- The braces of the lines of a file that are kept. -/
def keptBraces (filters : List (List Char)) (lines : List (List Char)) : List Nat :=
  (lines.filter fun line => decide (Kept filters line)).map braces

/-- The lines that the filters keep. -/
theorem filter_eq_kept (filters : List (List Char)) (line : List Char) :
    filter filters line = decide (Kept filters line) := by
  rw [Bool.eq_iff_iff, decide_eq_true_iff]
  unfold filter Kept
  by_cases hphase : phase <:+: line
  · rw [if_neg (not_not_intro hphase), and_iff_right hphase]
    cases filters with
    | nil => simp
    | cons f filters =>
      by_cases hmetadata : metadataPhase <:+: line
      · simp [hmetadata]
      · simp [hmetadata, List.any_eq_true]
  · simp [hphase]

/-- **What is done to the lines of a file** leaves the braces of each. -/
theorem braces_normalizeFile {filters : List (List Char)} {epoch start : Nat}
    {lines moved : List (List Char)} (h : normalizeFile dec filters epoch lines start = some moved) :
    moved.map braces = keptBraces filters lines := by
  have hmoved := map_eq_of_forall₂ (forall₂_mapM h) braces braces fun _ _ => braces_normalize
  rw [hmoved, List.map_map, keptBraces, List.filter_congr fun line _ => filter_eq_kept filters line]
  exact List.map_congr_left fun line _ => braces_fixup line

/-- **The merged trace has a brace for each line that had one**, and one of its own. -/
theorem braces_output (files : List (List (List Char))) :
    braces (output files) =
      (files.map fun lines => ((lines.map braces).drop 1).sum).sum + 1 := by
  have hfiles : braces (files.flatMap fun lines => (lines.drop 1).flatten) =
      (files.map fun lines => ((lines.map braces).drop 1).sum).sum := by
    unfold braces
    rw [List.count_flatMap]
    congr 1
    refine List.map_congr_left fun lines _ => ?_
    rw [Function.comp_apply, List.count_flatten, List.map_drop]
  have hends : braces ['[', '\n'] = 0 ∧ braces mergedEof = 1 ∧ braces ['\n', ']', '\n'] = 0 := by
    decide
  unfold braces at hfiles hends ⊢
  rw [output, List.count_append, List.count_append, List.count_append, hfiles, hends.1, hends.2.1,
    hends.2.2, Nat.zero_add]

/-- **What the script writes** has the braces of all lines that are kept but the first of each
file. -/
theorem braces_main {files : List Bytes} {filters : List (List Char)} {text : List Char}
    (h : main dec files filters = some text) :
    braces text =
      (files.map fun file =>
        ((keptBraces filters ((readFile file).getD [])).drop 1).sum).sum + 1 := by
  unfold main at h
  split at h
  · cases h
  · obtain ⟨inputFiles, hread, h⟩ := Option.bind_eq_some_iff.mp h
    obtain ⟨startTimes, hstarts, h⟩ := Option.bind_eq_some_iff.mp h
    obtain ⟨epoch, -, h⟩ := Option.bind_eq_some_iff.mp h
    obtain ⟨filteredFiles, hfiles, rfl⟩ := Option.map_eq_some_iff.mp h
    have hlength : inputFiles.length ≤ startTimes.length :=
      (forall₂_mapM hstarts).length_eq.le
    let rest (lines : List (List Char)) : Nat := ((keptBraces filters lines).drop 1).sum
    have hinput : inputFiles.map rest = files.map fun file => rest ((readFile file).getD []) := by
      refine map_eq_of_forall₂ (forall₂_mapM hread) _ _ fun file lines hlines => ?_
      rw [hlines, Option.getD_some]
    have hkept : filteredFiles.map (fun lines => ((lines.map braces).drop 1).sum) =
        (inputFiles.zip startTimes).map fun file => rest file.1 := by
      refine map_eq_of_forall₂ (forall₂_mapM hfiles) _ _ fun file lines hmoved => ?_
      rw [braces_normalizeFile hmoved]
    have hzip : (inputFiles.zip startTimes).map (fun file => rest file.1) = inputFiles.map rest :=
      calc (inputFiles.zip startTimes).map (rest ∘ Prod.fst)
          = ((inputFiles.zip startTimes).map Prod.fst).map rest := List.map_map.symm
        _ = inputFiles.map rest := by rw [List.map_fst_zip hlength]
    rw [braces_output, hkept, hzip, hinput]

end

/-! ## What should be there -/

/-- A text that reads as a number has no brace. -/
theorem brace_notMem_float {text : List Char} {x : Exact} (h : float text = some x) :
    '\x7b' ∉ text := by
  unfold float at h
  simp only [Option.ite_none_right_eq_some, List.all_eq_true] at h
  obtain ⟨⟨htext, -, hfraction⟩, -⟩ := h
  rw [htext, List.mem_append, List.mem_cons, not_or, not_or]
  exact ⟨notMem_takeWhile rfl _, by decide, fun hc => absurd (hfraction _ hc) (by decide)⟩

/-- Shifting a record in time keeps its braces. -/
theorem Shifted.braces {offset epoch : Nat} {record element : List Char}
    (h : Shifted offset epoch record element) : braces element = braces record := by
  unfold Merge.braces
  cases h with
  | time htime htime' =>
    simp only [List.count_append, List.count_cons,
      List.count_eq_zero_of_not_mem (brace_notMem_float htime),
      List.count_eq_zero_of_not_mem (brace_notMem_float htime')]
  | startTime start =>
    simp only [List.count_append, List.count_cons,
      List.count_eq_zero_of_not_mem (brace_notMem_number 1 start),
      List.count_eq_zero_of_not_mem (brace_notMem_number 1 epoch)]
  | other => rfl

/-- Making a line an element of the array keeps its braces. -/
theorem Element.braces {offset epoch : Nat} {line element : List Char}
    (h : Element offset epoch line element) : braces element = braces line := by
  obtain ⟨record, hline, hshifted⟩ := h
  rw [hshifted.braces]
  unfold Merge.braces
  rcases hline with rfl | rfl
  · rw [List.count_append]
    rfl
  · rw [List.count_append]
    rfl

/-- **Merged traces** have the braces of all lines that are kept. -/
theorem Merges.braces {traces : List Captured} {filters : List (List Char)} {text : List Char}
    (h : Merges traces filters text) :
    braces text = (traces.map fun t =>
      (keptBraces filters ((readFile t.file).getD [])).sum).sum + 1 := by
  obtain ⟨epoch, merged, -, hmerged, harray⟩ := h
  have hsame : merged.map (fun elements => (elements.map Merge.braces).sum) =
      traces.map fun t => (keptBraces filters ((readFile t.file).getD [])).sum := by
    refine map_eq_of_forall₂ hmerged _ _ fun t elements hfile => ?_
    obtain ⟨lines, hlines, helements⟩ := hfile
    rw [hlines, Option.getD_some, keptBraces,
      map_eq_of_forall₂ helements Merge.braces Merge.braces fun _ _ => Element.braces]
  have hcount : (merged.flatten.map Merge.braces).sum =
      (merged.map fun elements => (elements.map Merge.braces).sum).sum := by
    rw [List.map_flatten, List.sum_flatten, List.map_map]
    rfl
  have heof : Merge.braces mergedEof = 1 := by decide
  calc Merge.braces text
      = ((merged.flatten ++ [mergedEof]).map Merge.braces).sum := harray.count (by decide)
    _ = (merged.flatten.map Merge.braces).sum + 1 := by
      rw [List.map_append, List.sum_append, List.map_singleton, List.sum_singleton, heof]
    _ = _ := by rw [hcount, hsame]

/-! ## The first line -/

/-- Line ends are translated one by one. -/
theorem newlines_append {before : List Char} (h : '\r' ∉ before) (text : List Char) :
    newlines (before ++ text) = before ++ newlines text := by
  induction before with
  | nil => rfl
  | cons c before ih =>
    obtain ⟨hc, hbefore⟩ := not_or.mp fun hmem => h (List.mem_cons.mpr hmem)
    rw [List.cons_append, newlines, ih hbefore]
    · rfl
    · exact fun _ heq _ => hc heq.symm
    · exact fun heq => hc heq.symm

/-- A line is read up to its end. -/
theorem readlines_append {line : List Char} (h : '\n' ∉ line) (text : List Char) :
    readlines (line ++ '\n' :: text) = (line ++ ['\n']) :: readlines text := by
  induction line with
  | nil => rfl
  | cons c line ih =>
    obtain ⟨hc, hline⟩ := not_or.mp fun hmem => h (List.mem_cons.mpr hmem)
    rw [List.cons_append, readlines, ih hline]
    · rfl
    · exact fun heq => hc heq.symm

/-- The record with the name of the process. -/
def Captured.processRecord (t : Captured) : String :=
  "\x7b\"ph\":\"M\",\"name\":\"process_name\",\"pid\":" ++ decimal t.processId.toNat
    ++ ",\"tid\":0,\"args\":\x7b\"name\":\"" ++ t.processName ++ "\"\x7d\x7d"

/-- A trace begins with a bracket and the record of its process. -/
theorem Captured.traceFile_begins (t : Captured) :
    [.other "[\n", .other (t.processRecord ++ ",\n")] <+: t.trace.traceFile := by
  have hprocess : metadata "process_name" (init t.processId t.bufferSize t.addFlowEvents) "0"
      ("\"name\":\"" ++ t.processName ++ "\"") = .other (t.processRecord ++ ",\n") := by
    have hhead : "\x7b\"ph\":\"M\",\"name\":\"" ++ "process_name" ++ "\",\"pid\":" =
        "\x7b\"ph\":\"M\",\"name\":\"process_name\",\"pid\":" := by decide
    have hmiddle : ",\"tid\":" ++ ("0" ++ (",\"args\":\x7b" ++ "\"name\":\"")) =
        ",\"tid\":0,\"args\":\x7b\"name\":\"" := by decide
    have hend : "\"" ++ "\x7d\x7d,\n" = "\"\x7d\x7d" ++ ",\n" := by decide
    unfold metadata processRecord init
    rw [← hhead, ← hmiddle]
    simp only [String.append_assoc]
    rw [hend]
  have hrest := prefix_destroy (microseconds t.thousandths)
    (.addStartTimeMetadata t.startTime :: t.calls)
    (tracerStep (microseconds t.thousandths) (init t.processId t.bufferSize t.addFlowEvents)
      (.addProcessMetadata t.processName))
  rw [← hprocess]
  exact hrest

/-- What the record is made of is in one line. -/
theorem Captured.control_notMem_processRecord (t : Captured) {c : Char} (hc : c.toNat < 0x20) :
    c ∉ t.processRecord.toList := by
  have hplain {text : String} (h : Plain text) : c ∉ text.toList := fun hmem => by
    have hunescaped := h c hmem
    rw [Json.unescaped, decide_eq_false (Nat.not_le.mpr hc)] at hunescaped
    cases hunescaped
  have hquoted {text : String} (h : text.toList.all (fun d => Nat.ble 0x20 d.toNat) = true) :
      c ∉ text.toList := fun hmem =>
    absurd (Nat.le_of_ble_eq_true (List.all_eq_true.mp h c hmem)) (Nat.not_le.mpr hc)
  unfold processRecord
  simp only [String.toList_append, List.mem_append, not_or]
  exact ⟨⟨⟨⟨hquoted (by decide), hplain (plain_decimal _)⟩, hquoted (by decide)⟩,
    hplain t.plain.1⟩, hquoted (by decide)⟩

/-- The file of a trace begins with the bracket and the record of its process. -/
theorem Captured.file_eq (t : Captured) :
    ∃ more, t.file = utf8 ("[\n" ++ (t.processRecord ++ ",\n")) ++ more := by
  obtain ⟨rest, hrest⟩ := t.traceFile_begins
  refine ⟨fileBytes (fun i => t.beyond (i + 2)) rest, ?_⟩
  rw [Captured.file, ← hrest, utf8_append, List.append_assoc]
  simp only [fileBytes, List.cons_append, List.nil_append, List.mapIdx_cons, List.flatten_cons]

/-- A file begins with its bracket and the name of the process. -/
theorem Captured.lines_eq {t : Captured} {lines : List (List Char)}
    (h : readFile t.file = some lines) :
    ∃ rest, lines = ['[', '\n'] :: (t.processRecord.toList ++ [',', '\n']) :: rest := by
  obtain ⟨text, htext, rfl⟩ := Option.map_eq_some_iff.mp h
  obtain ⟨more, hfile⟩ := t.file_eq
  obtain ⟨text', htext'⟩ := prefix_of_utf8 ((utf8_of_fromUTF8? htext).trans hfile)
  have hreturn : '\r' ∉ t.processRecord.toList := t.control_notMem_processRecord (by decide)
  have hnewline : '\n' ∉ t.processRecord.toList ++ [','] := by
    simp [t.control_notMem_processRecord (show '\n'.toNat < 0x20 by decide)]
  refine ⟨readlines (newlines text'), ?_⟩
  rw [← htext', newlines_append]
  · have hfirst : ("[\n" ++ (t.processRecord ++ ",\n")).toList ++ newlines text' =
        ['['] ++ '\n' :: (t.processRecord.toList ++ [','] ++ '\n' :: newlines text') := by
      simp
    rw [hfirst, readlines_append (by decide), readlines_append hnewline, List.append_assoc]
    rfl
  · simp [hreturn]

/-- The record of the process is metadata. -/
theorem Captured.processRecord_eq (t : Captured) :
    ∃ rest, t.processRecord.toList = '\x7b' :: (metadataPhase ++ rest) := by
  have hhead : "\x7b\"ph\":\"M\",\"name\":\"process_name\",\"pid\":" =
      "\x7b" ++ ("\"ph\":\"M\"" ++ ",\"name\":\"process_name\",\"pid\":") := by decide
  unfold processRecord
  rw [hhead]
  simp only [String.append_assoc, String.toList_append]
  exact ⟨_, rfl⟩

/-- **The first line that is kept** has the name of the process, and a brace. -/
theorem Captured.keptBraces_eq {t : Captured} {lines : List (List Char)} (filters : List (List Char))
    (h : readFile t.file = some lines) : ∃ b rest, 0 < b ∧ keptBraces filters lines = b :: rest := by
  obtain ⟨rest, rfl⟩ := t.lines_eq h
  obtain ⟨behind, hrecord⟩ := t.processRecord_eq
  have hmetadata : metadataPhase <:+: t.processRecord.toList ++ [',', '\n'] :=
    ⟨['\x7b'], behind ++ [',', '\n'], by simp [hrecord]⟩
  have hphase : phase <:+: metadataPhase := by decide
  have hkept : Kept filters (t.processRecord.toList ++ [',', '\n']) :=
    ⟨hphase.trans hmetadata, .inr (.inl hmetadata)⟩
  have hbracket : ¬Kept filters ['[', '\n'] := fun hk => absurd hk.1 (by decide)
  have hbrace : 0 < braces (t.processRecord.toList ++ [',', '\n']) := by
    refine List.count_pos_iff.mpr (List.mem_append_left _ ?_)
    rw [hrecord]
    exact List.mem_cons_self
  refine ⟨_, keptBraces filters rest, hbrace, ?_⟩
  unfold keptBraces
  rw [List.filter_cons_of_neg (by simpa using hbracket),
    List.filter_cons_of_pos (by simpa using hkept), List.map_cons]

/-- Traces that are merged have more braces than all lines that are kept but the first of each
file. -/
theorem Merges.lt_braces {traces : List Captured} {filters : List (List Char)} {text : List Char}
    (h : Merges traces filters text) :
    ((traces.map Captured.file).map fun file =>
        ((keptBraces filters ((readFile file).getD [])).drop 1).sum).sum + 1 <
      Merge.braces text := by
  rw [h.braces, List.map_map]
  obtain ⟨epoch, merged, hepoch, hmerged, -⟩ := h
  have hne : traces ≠ [] := by
    intro hnil
    rw [hnil] at hepoch
    cases hepoch
  refine Nat.succ_lt_succ (List.sum_lt_sum_of_ne_nil hne _ _ fun t ht => ?_)
  obtain ⟨elements, -, lines, hlines, -⟩ := exists_of_mem_forall₂ hmerged ht
  obtain ⟨b, rest, hb, hkept⟩ := t.keptBraces_eq filters hlines
  rw [Function.comp_apply, hlines, Option.getD_some, hkept, List.drop_one, List.tail_cons,
    List.sum_cons]
  exact Nat.lt_add_of_pos_left hb

/-- **The script merges no traces**: whatever they are and whatever the filters, what it writes is
not what it should write. -/
theorem not_combines (dec : Decimals) (traces : List Captured) (filters : List (List Char)) :
    ¬Combines dec traces filters := by
  rintro ⟨text, hmain, hmerges⟩
  exact absurd (braces_main hmain) hmerges.lt_braces.ne'

/-- The trace of a process with one call. -/
def oneCall (processName : String) (startTime : UInt64) (h : Plain processName) : Captured where
  processId := 1
  addFlowEvents := false
  bufferSize := 0
  processName := processName
  startTime := startTime
  calls := [.addCallLogging "clFlush" 7 12345 2000]
  thousandths := UInt64.toNat
  beyond _ := []
  plain := ⟨h, List.forall_mem_singleton.mpr (List.forall_mem_singleton.mpr (by decide))⟩

/-- Two processes with one call each: what is written is not both of their traces. -/
theorem process_names_lost :
    ¬Combines Decimals.plain [oneCall "first" 100 (by decide), oneCall "second" 150 (by decide)]
      [] := by
  rintro ⟨text, hmain, hmerges⟩
  have hlost := hmerges.lt_braces
  rw [← braces_main hmain] at hlost
  exact Nat.lt_irrefl _ hlost

end CLIntercept.Trace.Merge
