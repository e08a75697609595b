import CLIntercept.Lib.Regex
import CLIntercept.Lib.Text
import CLIntercept.Timing.Events
import Mathlib.Data.List.ReduceOption
import Mathlib.Data.List.SplitBy

/-!
# The timeline in the log

With `DevicePerformanceTimelineLogging` every event that is read writes its times into the log, and
`parse_output_to_xlsx.py` finds these lines by a pattern and makes rows of them. What the layer
writes and what the script reads is known to each of them alone.

The name of a kernel may hold anything but the end of a line, what looks like the rest of a timeline
too. It is read right as the pattern takes the longest name that it can, up to the last `(enqueue`
of the line, which is the one that the layer has put there. The pattern begins where the line
begins. So with `LogIndent` no line is read at all.

Times are read as floating point numbers, of which the script takes differences. Here these are any
type with the functions of `Floats`.
-/

set_option autoImplicit false

namespace CLIntercept.Timing

open CLIntercept.Lib

/-! ## What is logged -/

/-- The controls of the log. -/
structure TimelineConfig extends Config where
  devicePerformanceTimeLogging : Bool := false
  devicePerformanceTimelineLogging : Bool := false
  logIndent : UInt32 := 0
  suppressLogging : Bool := false

/-- The other two times that the driver is asked for. -/
structure TimelineAnswers extends EventAnswers where
  commandQueued : UInt64 := 0
  commandSubmit : UInt64 := 0

/-- A number in an `ostringstream`. -/
def decimal (n : UInt64) : List Char := (number 10 1 n.toNat).toList

/-- `log`, wherever the text goes. -/
def log (config : TimelineConfig) (s : List Char) : List Char :=
  if config.suppressLogging then [] else List.replicate config.logIndent.toNat ' ' ++ s

def deviceTime (node : SEventListNode) (a : TimelineAnswers) : List Char :=
  let queuedDelta := a.commandSubmit - a.commandQueued
  let submitDelta := a.commandStart - a.commandSubmit
  let delta := a.commandEnd - a.commandStart
  "Device Time for ".toList ++ node.name.toList ++ " (enqueue ".toList ++
    decimal node.enqueueCounter ++ ") = ".toList ++ decimal queuedDelta ++
    " ns (queued -> submit), ".toList ++ decimal submitDelta ++ " ns (submit -> start), ".toList ++
    decimal delta ++ " ns (start -> end)\n".toList

def deviceTimeline (node : SEventListNode) (a : TimelineAnswers) : List Char :=
  "Device Timeline for ".toList ++ node.name.toList ++ " (enqueue ".toList ++
    decimal node.enqueueCounter ++ ") = ".toList ++ decimal a.commandQueued ++
    " ns (queued), ".toList ++ decimal a.commandSubmit ++ " ns (submit), ".toList ++
    decimal a.commandStart ++ " ns (start), ".toList ++ decimal a.commandEnd ++ " ns (end)\n".toList

/-- What the body of the loop of `checkTimingEvents` logs of an event. -/
def logTiming (config : TimelineConfig) (node : SEventListNode) (a : TimelineAnswers) : List Char :=
  if Completed a.toEventAnswers then
    match profilingData config.toConfig a.toEventAnswers with
    | some _ =>
      (if config.devicePerformanceTimeLogging then log config (deviceTime node a) else []) ++
        (if config.devicePerformanceTimelineLogging then log config (deviceTimeline node a) else [])
    | none => []
  else []

/-! ## The script -/

/-- `\s`: what `str.isspace` says. -/
def isspace (c : Char) : Bool :=
  let n := c.toNat
  (9 ≤ n && n ≤ 13) || (28 ≤ n && n ≤ 32) || n == 0x85 || n == 0xa0 || n == 0x1680 ||
    (0x2000 ≤ n && n ≤ 0x200a) || n == 0x2028 || n == 0x2029 || n == 0x202f || n == 0x205f ||
    n == 0x3000

/-- `\s`. -/
def blank : Item Char := .one isspace

/-- `.`. -/
def dot (c : Char) : Bool := c ≠ '\n'

section

variable (dec : Decimals)

/-- `\s(\d+)\sns\s` and what the time is called. -/
def field (called : String) (items : List (Item Char)) : List (Item Char) :=
  blank :: .many 1 dec.isDigit true :: blank :: (literal "ns".toList ++
    blank :: (literal called.toList ++ items))

/-- `intercept_re`. -/
def interceptRe : List (Item Char) :=
  literal "Device".toList ++ blank :: (literal "Timeline".toList ++ blank :: (literal "for".toList ++
    blank :: .many 1 dot true :: blank :: (literal "(enqueue".toList ++
    blank :: .many 1 dec.isDigit false :: (literal ")".toList ++ blank :: (literal "=".toList ++
    field dec "(queued)," (field dec "(submit)," (field dec "(start)," (field dec "(end)"
      [.many 0 dot false]))))))))

/-- What the script does with its numbers: `float`, `-` and `/1000000.0`. -/
structure Floats (F : Type) where
  float : List Char → F
  sub : F → F → F
  scale : F → F

/-- A row of the sheet. -/
structure Row (F : Type) where
  openclCall : List Char
  offset : F
  queued : F
  submitted : F
  execution : F
  deriving DecidableEq, Repr

/-- `trace_obj.normalize`, `result` and `lines_ignored`. -/
structure Sheet (F : Type) where
  normalize : Option F := none
  result : List (Row F) := []
  linesIgnored : List Nat := []
  deriving DecidableEq, Repr

variable {F : Type} (floats : Floats F)

/-- The row of five groups. -/
def rowOf (normalize : F) (openclCall queued submit start finish : List Char) : Row F where
  openclCall := openclCall
  offset := floats.scale (floats.sub (floats.float queued) normalize)
  queued := floats.scale (floats.sub (floats.float submit) (floats.float queued))
  submitted := floats.scale (floats.sub (floats.float start) (floats.float submit))
  execution := floats.scale (floats.sub (floats.float finish) (floats.float start))

/-- `insert_xlsx_entries`. The pattern has five groups. -/
def insertXlsxEntries (m : List (List Char)) (sheet : Sheet F) : Sheet F :=
  match m with
  | [openclCall, queued, submit, start, finish] =>
    let normalize := sheet.normalize.getD (floats.float queued)
    { sheet with
      normalize := some normalize
      result := sheet.result ++ [rowOf floats normalize openclCall queued submit start finish] }
  | _ => sheet

def readLine (sheet : Sheet F) (entry : List Char × Nat) : Sheet F :=
  match matchItems (interceptRe dec) entry.1 with
  | some m => insertXlsxEntries floats m sheet
  | none => { sheet with linesIgnored := sheet.linesIgnored ++ [entry.2] }

/-- A file is opened as text: every end of a line is read as a `\n`. -/
def translated : List Char → List Char
  | '\r' :: '\n' :: text => '\n' :: translated text
  | '\r' :: text => '\n' :: translated text
  | c :: text => c :: translated text
  | [] => []

/-- The loop over the lines, each of which has its end. -/
def readLog (text : List Char) : Sheet F :=
  (((lines (translated text)).map (· ++ ['\n'])).zipIdx).foldl (readLine dec floats) {}

end

/-- `groupby(enumerate(lines), lambda x: x[1]-x[0])`, without what `enumerate` has added. -/
def lineRanges (lines : List Nat) : List (List Nat) :=
  (lines.zipIdx.splitBy fun x y => (x.1 : Int) - x.2 == (y.1 : Int) - y.2).map (·.map (·.1))

def rangeMessage (lineRange : List Nat) : List Char :=
  match lineRange.head?, lineRange.getLast? with
  | some first, some last =>
    if lineRange.length = 1 then " [".toList ++ (number 10 1 (first + 1)).toList ++ "]".toList
    else " [".toList ++ (number 10 1 (first + 1)).toList ++ "-".toList ++
      (number 10 1 (last + 1)).toList ++ "]".toList
  | _, _ => []

/-- `print_lines_ignored`. -/
def printLinesIgnored (lines : List Nat) : List Char :=
  "Lines ignored:".toList ++ (lineRanges lines).flatMap rangeMessage

/-! ## A line that the layer has written -/

/-- A time has a digit at least. -/
theorem decimal_ne_nil (n : UInt64) : decimal n ≠ [] := Decimals.number_ne_nil (by decide)

section

variable {dec : Decimals}

/-- A time is made of digits, for Python as well. -/
theorem isDigit_of_mem_decimal {n : UInt64} {c : Char} (h : c ∈ decimal n) :
    dec.isDigit c = true := Decimals.isDigit_of_mem_number h

theorem not_isDigit_of_ascii {c : Char} (hascii : c.toNat < 128) (hc : c.isDigit = false) :
    dec.isDigit c = false := by
  rw [Decimals.isDigit, dec.ascii c hascii, hc]
  rfl

/-- A time in a line, and what is behind it. -/
def fieldText (called : String) (n : UInt64) (text : List Char) : List Char :=
  ' ' :: (decimal n ++ ' ' :: ("ns".toList ++ ' ' :: (called.toList ++ text)))

/-- **A field is read**: the number is kept, and the rest of the pattern goes on behind it. -/
theorem matchItems_field (called : String) (n : UInt64) {items : List (Item Char)}
    {text : List Char} {parts : List (List Char)} (h : matchItems items text = some parts) :
    matchItems (field dec called items) (fieldText called n text) = some (decimal n :: parts) := by
  have hspace : isspace ' ' = true := rfl
  unfold field fieldText blank
  rw [matchItems_one hspace]
  refine matchItems_run (fun c hc => isDigit_of_mem_decimal hc)
    (List.length_pos_iff.mpr (decimal_ne_nil n)) (fun c hc => ?_) ?_
  · obtain rfl : ' ' = c := Option.some.inj hc
    exact not_isDigit_of_ascii (by decide) rfl
  · rw [matchItems_one hspace, matchItems_literal, matchItems_one hspace, matchItems_literal, h]

/-- The four times, to the end of the line. -/
def timesText (a : TimelineAnswers) : List Char :=
  fieldText "(queued)," a.commandQueued (fieldText "(submit)," a.commandSubmit
    (fieldText "(start)," a.commandStart (fieldText "(end)" a.commandEnd ['\n'])))

/-- The four times are matched where they were written. -/
theorem matchItems_timesText (a : TimelineAnswers) :
    matchItems (field dec "(queued)," (field dec "(submit)," (field dec "(start),"
      (field dec "(end)" [.many 0 dot false])))) (timesText a) =
        some [decimal a.commandQueued, decimal a.commandSubmit, decimal a.commandStart,
          decimal a.commandEnd] :=
  matchItems_field _ _ <| matchItems_field _ _ <| matchItems_field _ _ <| matchItems_field _ _ rfl

/-- What is behind the `(enqueue` of a line. -/
def enqueueText (node : SEventListNode) (a : TimelineAnswers) : List Char :=
  ' ' :: (decimal node.enqueueCounter ++ (")".toList ++ ' ' :: ("=".toList ++ timesText a)))

/-- The end of an enqueue's line is matched, number and times. -/
theorem matchItems_enqueueText (node : SEventListNode) (a : TimelineAnswers) :
    matchItems (blank :: .many 1 dec.isDigit false :: (literal ")".toList ++ blank ::
      (literal "=".toList ++ field dec "(queued)," (field dec "(submit)," (field dec "(start),"
        (field dec "(end)" [.many 0 dot false])))))) (enqueueText node a) =
      some [decimal a.commandQueued, decimal a.commandSubmit, decimal a.commandStart,
        decimal a.commandEnd] := by
  have hspace : isspace ' ' = true := rfl
  unfold enqueueText blank
  rw [matchItems_one hspace]
  refine matchItems_run (fun c hc => isDigit_of_mem_decimal hc)
    (List.length_pos_iff.mpr (decimal_ne_nil _)) (fun c hc => ?_) ?_
  · obtain rfl : ')' = c := Option.some.inj hc
    exact not_isDigit_of_ascii (by decide) rfl
  · rw [matchItems_literal, matchItems_one hspace, matchItems_literal, matchItems_timesText]

/-- A line, as the pattern goes through it. -/
theorem deviceTimeline_eq (node : SEventListNode) (a : TimelineAnswers) :
    deviceTimeline node a = "Device".toList ++ ' ' :: ("Timeline".toList ++ ' ' ::
      ("for".toList ++ ' ' :: (node.name.toList ++ ' ' :: ("(enqueue".toList ++
        enqueueText node a)))) := by
  have hhead : "Device Timeline for ".toList =
      "Device".toList ++ ' ' :: ("Timeline".toList ++ ' ' :: ("for".toList ++ [' '])) := rfl
  have henqueue : " (enqueue ".toList = ' ' :: ("(enqueue".toList ++ [' ']) := rfl
  have hequal : ") = ".toList = ")".toList ++ ' ' :: ("=".toList ++ [' ']) := rfl
  have hqueued : " ns (queued), ".toList =
      ' ' :: ("ns".toList ++ ' ' :: ("(queued),".toList ++ [' '])) := rfl
  have hsubmit : " ns (submit), ".toList =
      ' ' :: ("ns".toList ++ ' ' :: ("(submit),".toList ++ [' '])) := rfl
  have hstart : " ns (start), ".toList =
      ' ' :: ("ns".toList ++ ' ' :: ("(start),".toList ++ [' '])) := rfl
  have hend : " ns (end)\n".toList =
      ' ' :: ("ns".toList ++ ' ' :: ("(end)".toList ++ ['\n'])) := rfl
  unfold deviceTimeline enqueueText timesText fieldText
  rw [hhead, henqueue, hequal, hqueued, hsubmit, hstart, hend]
  simp only [List.append_assoc, List.cons_append, List.nil_append]

/-- The words behind the `(enqueue` of a line. -/
def wordsBehind (node : SEventListNode) (a : TimelineAnswers) : List (List Char) :=
  [decimal node.enqueueCounter ++ ")".toList, "=".toList, decimal a.commandQueued, "ns".toList,
    "(queued),".toList, decimal a.commandSubmit, "ns".toList, "(submit),".toList,
    decimal a.commandStart, "ns".toList, "(start),".toList, decimal a.commandEnd, "ns".toList,
    "(end)".toList]

/-- The end of a line is made of words with blanks before them. -/
theorem enqueueText_eq (node : SEventListNode) (a : TimelineAnswers) :
    enqueueText node a = (wordsBehind node a).flatMap (' ' :: ·) ++ ['\n'] := by
  unfold enqueueText timesText fieldText wordsBehind
  simp only [List.append_assoc, List.flatMap_cons, List.flatMap_nil, List.cons_append,
    List.nil_append]

/-- A word has no blanks. -/
theorem isspace_of_all {word : List Char} (h : (word.all fun c => !isspace c) = true) :
    ∀ c ∈ word, isspace c = false :=
  fun c hc => Bool.not_eq_true' _ |>.mp (List.all_eq_true.mp h c hc)

/-- None of them begins like the first, and no blank is in one. -/
theorem wordsBehind_clean (node : SEventListNode) (a : TimelineAnswers) :
    ∀ word ∈ wordsBehind node a,
      (∀ c ∈ word, isspace c = false) ∧ ¬"(enqueue".toList <+: word := by
  have hdigit : ∀ n : UInt64, ∀ c ∈ decimal n, isspace c = false ∧ c ≠ '(' := by
    intro n c hc
    obtain ⟨d, hd, rfl⟩ := Decimals.mem_number hc
    have table : ∀ i : Fin 10, isspace (digitChar i) = false ∧ digitChar i ≠ '(' := by decide
    exact table ⟨d, hd⟩
  have hnumber : ∀ n : UInt64, ∀ behind : List Char, ¬"(enqueue".toList <+: decimal n ++ behind := by
    intro n behind h
    cases hn : decimal n with
    | nil => exact decimal_ne_nil n hn
    | cons c cs =>
      rw [hn] at h
      have hc : '(' = c := (List.cons_prefix_cons.mp h).1
      exact (hdigit n c (hn ▸ List.mem_cons_self)).2 hc.symm
  have hplain : ∀ n : UInt64, (∀ c ∈ decimal n, isspace c = false) ∧
      ¬"(enqueue".toList <+: decimal n := fun n =>
    ⟨fun c hc => (hdigit n c hc).1, by simpa using hnumber n []⟩
  -- What the code writes by itself is looked at word by word.
  have hfixed : ∀ word : List Char, (word.all fun c => !isspace c) = true →
      "(enqueue".toList.isPrefixOf word = false →
      (∀ c ∈ word, isspace c = false) ∧ ¬"(enqueue".toList <+: word := by
    intro word hall hprefix
    refine ⟨isspace_of_all hall, fun h => ?_⟩
    rw [List.isPrefixOf_iff_prefix.mpr h] at hprefix
    exact Bool.noConfusion hprefix
  simp only [wordsBehind, List.forall_mem_cons]
  refine ⟨⟨fun c hc => ?_, hnumber _ _⟩, hfixed _ rfl rfl, hplain _, hfixed _ rfl rfl,
    hfixed _ rfl rfl, hplain _, hfixed _ rfl rfl, hfixed _ rfl rfl, hplain _, hfixed _ rfl rfl,
    hfixed _ rfl rfl, hplain _, hfixed _ rfl rfl, hfixed _ rfl rfl,
    fun _ h => absurd h List.not_mem_nil⟩
  rcases List.mem_append.mp hc with hc | hc
  · exact (hdigit _ c hc).1
  · obtain rfl := List.mem_singleton.mp hc
    rfl

/-- **A line is read**, whatever the name holds. -/
theorem matchItems_deviceTimeline {node : SEventListNode} (hname : node.name.toList ≠ [])
    (hline : '\n' ∉ node.name.toList) (a : TimelineAnswers) :
    matchItems (interceptRe dec) (deviceTimeline node a) =
      some [node.name.toList, decimal a.commandQueued, decimal a.commandSubmit,
        decimal a.commandStart, decimal a.commandEnd] := by
  have hspace : isspace ' ' = true := rfl
  have hdot : ∀ c ∈ node.name.toList, dot c = true := fun c hc =>
    decide_eq_true fun h => hline (h ▸ hc)
  have htail : ∀ items n, matchItems (.one isspace :: (literal "(enqueue".toList ++ items))
      ((['\n'] : List Char).drop n) = none := fun items n => by
    cases n with
    | zero => rfl
    | succ n => rw [List.drop_succ_cons, List.drop_nil]; rfl
  have hhead : ∀ c, (['\n'] : List Char).head? = some c → c ∉ "(enqueue".toList := fun c hc =>
    Option.some.inj hc ▸ by decide
  rw [deviceTimeline_eq]
  unfold interceptRe blank
  rw [matchItems_literal, matchItems_one hspace, matchItems_literal, matchItems_one hspace,
    matchItems_literal, matchItems_one hspace]
  refine matchItems_many hdot (List.length_pos_iff.mpr hname) ?_ fun n hpos _ => ?_
  · rw [matchItems_one hspace, matchItems_literal]
    exact matchItems_enqueueText node a
  · rw [enqueueText_eq]
    exact matchItems_drop_first (by decide) (isspace_of_all rfl) (wordsBehind_clean node a) hhead
      (htail _) hpos

/-- What a line that matches begins with. -/
theorem begins_of_matchItems {text : List Char} (h : matchItems (interceptRe dec) text ≠ none) :
    ∃ b rest, text = "Device".toList ++ b :: ("Timeline".toList ++ rest) := by
  obtain ⟨behind, rfl⟩ := prefix_of_matchItems h
  rw [interceptRe, matchItems_literal] at h
  cases behind with
  | nil => exact absurd rfl h
  | cons b behind =>
    unfold blank at h
    cases hb : isspace b with
    | false => exact absurd (matchItems_one_of_not hb behind) h
    | true =>
      rw [matchItems_one hb] at h
      obtain ⟨rest, rfl⟩ := prefix_of_matchItems h
      exact ⟨b, rest, rfl⟩

end

/-! ## A log -/

/-- What is in a log: the lines that are written from elsewhere, and the events that are read. -/
inductive Written
  | line (text : List Char)
  | event (node : SEventListNode) (a : TimelineAnswers)

def Written.text (config : TimelineConfig) : Written → List Char
  | .line text => text ++ ['\n']
  | .event node a => logTiming config node a

def logText (config : TimelineConfig) (ws : List Written) : List Char :=
  ws.flatMap (Written.text config)

/-- A text in one line. -/
def OneLine (text : List Char) : Prop := '\n' ∉ text ∧ '\r' ∉ text

/-- The lines from elsewhere do not begin like a timeline. A name is not empty and has no line
ends. -/
def Written.Proper : Written → Prop
  | .line text => OneLine text ∧ ∀ b rest, text ≠ "Device".toList ++ b :: ("Timeline".toList ++ rest)
  | .event node _ => OneLine node.name.toList ∧ node.name.toList ≠ []

/-- An event of which the times are logged. -/
structure Timed where
  node : SEventListNode
  answers : TimelineAnswers

/-- The lines of a part of the log. A timeline stands with the event, unless it is indented. -/
def Written.lines (config : TimelineConfig) : Written → List (List Char × Option Timed)
  | .line text => [(text, none)]
  | .event node a =>
    let indent := List.replicate config.logIndent.toNat ' '
    if Completed a.toEventAnswers ∧ (profilingData config.toConfig a.toEventAnswers).isSome ∧
        ¬config.suppressLogging then
      (if config.devicePerformanceTimeLogging then [(indent ++ (deviceTime node a).dropLast, none)]
        else []) ++
      (if config.devicePerformanceTimelineLogging then
        [(indent ++ (deviceTimeline node a).dropLast,
          if config.logIndent = 0 then some ⟨node, a⟩ else none)]
        else [])
    else []

section

variable {F : Type} (floats : Floats F)

/-- What is read of a timeline. -/
def Timed.groups (t : Timed) : List (List Char) :=
  [t.node.name.toList, decimal t.answers.commandQueued, decimal t.answers.commandSubmit,
    decimal t.answers.commandStart, decimal t.answers.commandEnd]

/-- When the command was queued. -/
def Timed.queued (t : Timed) : F := floats.float (decimal t.answers.commandQueued)

def Timed.row (origin : Option F) (t : Timed) : Row F :=
  rowOf floats (origin.getD (t.queued floats)) t.node.name.toList (decimal t.answers.commandQueued)
    (decimal t.answers.commandSubmit) (decimal t.answers.commandStart)
    (decimal t.answers.commandEnd)

/-- **What the script should make of a log**, behind what it has read so far: a row of each timeline,
with the first one as origin, and the numbers of all other lines. -/
def Sheet.extend (sheet : Sheet F) (lines : List (Option Timed)) (k : Nat) : Sheet F :=
  let origin := sheet.normalize.or (lines.reduceOption.head?.map (Timed.queued floats))
  { normalize := origin
    result := sheet.result ++ lines.reduceOption.map (Timed.row floats origin)
    linesIgnored := sheet.linesIgnored ++ ((lines.zipIdx k).filter (·.1.isNone)).map (·.2) }

variable {dec : Decimals}

/-- One line after the other. -/
theorem foldl_readLine {es : List (List Char × Option Timed)}
    (h : ∀ e ∈ es, matchItems (interceptRe dec) (e.1 ++ ['\n']) = e.2.map Timed.groups) (k : Nat)
    (sheet : Sheet F) :
    ((es.map fun e => e.1 ++ ['\n']).zipIdx k).foldl (readLine dec floats) sheet =
      sheet.extend floats (es.map (·.2)) k := by
  induction es generalizing k sheet with
  | nil => simp [Sheet.extend]
  | cons e es ih =>
    have hrest := ih fun d hd => h d (List.mem_cons_of_mem e hd)
    have hread := h e List.mem_cons_self
    rw [List.map_cons, List.zipIdx_cons, List.foldl_cons, hrest, readLine, hread]
    cases he : e.2 with
    | none => simp [Sheet.extend, he]
    | some t =>
      rcases hnormalize : sheet.normalize with _ | origin
      all_goals
        simp [Sheet.extend, he, hnormalize, Timed.groups, insertXlsxEntries, Timed.row,
          Timed.queued]

end

/-- Without carriage returns a text is read as it is. -/
theorem translated_of_notMem {text : List Char} (h : '\r' ∉ text) : translated text = text := by
  induction text with
  | nil => rfl
  | cons c text ih =>
    have hc : c ≠ '\r' := fun hc => h (hc ▸ List.mem_cons_self)
    have hrest := ih fun hmem => h (List.mem_cons_of_mem c hmem)
    rw [translated]
    · rw [hrest]
    · exact fun _ hc' _ => hc hc'
    · exact fun hc' => hc hc'

/-! ## The lines of a log -/

/-- Two parts of one line. -/
theorem oneLine_append {xs ys : List Char} : OneLine (xs ++ ys) ↔ OneLine xs ∧ OneLine ys := by
  simp only [OneLine, List.mem_append, not_or]
  tauto

/-- A time does not break the line. -/
theorem oneLine_decimal (n : UInt64) : OneLine (decimal n) := by
  have hdigit : ∀ c ∈ decimal n, c ≠ '\n' ∧ c ≠ '\r' := by
    intro c hc
    obtain ⟨d, hd, rfl⟩ := Decimals.mem_number hc
    have table : ∀ i : Fin 10, digitChar i ≠ '\n' ∧ digitChar i ≠ '\r' := by decide
    exact table ⟨d, hd⟩
  exact ⟨fun h => (hdigit _ h).1 rfl, fun h => (hdigit _ h).2 rfl⟩

/-- An indent does not either. -/
theorem oneLine_indent (n : Nat) : OneLine (List.replicate n ' ') := by
  constructor
  · exact fun h => absurd (List.eq_of_mem_replicate h) (by decide)
  · exact fun h => absurd (List.eq_of_mem_replicate h) (by decide)

instance (text : List Char) : Decidable (OneLine text) := inferInstanceAs (Decidable (_ ∧ _))

/-- Both texts are lines with an end. -/
theorem deviceTime_line {node : SEventListNode} (hname : OneLine node.name.toList)
    (a : TimelineAnswers) : deviceTime node a = (deviceTime node a).dropLast ++ ['\n'] ∧
      OneLine (deviceTime node a).dropLast := by
  have hend : " ns (start -> end)\n".toList = " ns (start -> end)".toList ++ ['\n'] := rfl
  unfold deviceTime
  rw [hend, ← List.append_assoc, List.dropLast_concat]
  refine ⟨rfl, ?_⟩
  simp only [oneLine_append, hname, oneLine_decimal, and_true]
  decide

/-- **An event is one line of the log**, if its name is. -/
theorem deviceTimeline_line {node : SEventListNode} (hname : OneLine node.name.toList)
    (a : TimelineAnswers) : deviceTimeline node a = (deviceTimeline node a).dropLast ++ ['\n'] ∧
      OneLine (deviceTimeline node a).dropLast := by
  have hend : " ns (end)\n".toList = " ns (end)".toList ++ ['\n'] := rfl
  unfold deviceTimeline
  rw [hend, ← List.append_assoc, List.dropLast_concat]
  refine ⟨rfl, ?_⟩
  simp only [oneLine_append, hname, oneLine_decimal, and_true]
  decide

section

variable {dec : Decimals}

/-- The times without the timeline are not read as one. -/
theorem matchItems_deviceTime (node : SEventListNode) (a : TimelineAnswers) :
    matchItems (interceptRe dec) (deviceTime node a) = none := by
  by_contra h
  obtain ⟨b, rest, htext⟩ := begins_of_matchItems h
  have hfront := congrArg (List.take 12) htext
  have hhead : "Device Time for ".toList =
      "Device".toList ++ ' ' :: ("Time ".toList ++ "for ".toList) := rfl
  unfold deviceTime at hfront
  rw [hhead] at hfront
  simp at hfront

/-- No line that begins with a space is read. -/
theorem matchItems_indented {n : Nat} (h : n ≠ 0) (text : List Char) :
    matchItems (interceptRe dec) (List.replicate n ' ' ++ text) = none := by
  by_contra hmatch
  obtain ⟨b, rest, htext⟩ := begins_of_matchItems hmatch
  obtain ⟨n, rfl⟩ := Nat.exists_eq_succ_of_ne_zero h
  have hhead := congrArg List.head? htext
  rw [List.replicate_succ] at hhead
  exact absurd hhead (by simp)

variable {config : TimelineConfig} {w : Written}

/-- A part of the log is its lines, each with its end. -/
theorem Written.text_eq (h : w.Proper) :
    w.text config = (w.lines config).flatMap fun e => e.1 ++ ['\n'] := by
  cases w with
  | line text => simp [Written.text, Written.lines]
  | event node a =>
    have htime := (deviceTime_line h.1 a).1
    have htimeline := (deviceTimeline_line h.1 a).1
    unfold Written.text Written.lines logTiming log
    dsimp only
    by_cases hcompleted : Completed a.toEventAnswers
    · cases hdata : profilingData config.toConfig a.toEventAnswers with
      | none => simp [hcompleted]
      | some delta =>
        by_cases hsuppress : config.suppressLogging = true
        · simp [hcompleted, hsuppress]
        · have hlogged : Completed a.toEventAnswers ∧ (some delta).isSome = true ∧
              ¬config.suppressLogging = true := ⟨hcompleted, rfl, hsuppress⟩
          rw [if_pos hcompleted, if_pos hlogged, List.flatMap_append]
          dsimp only
          rw [if_neg hsuppress]
          congr 1
          · split
            · rw [List.flatMap_singleton, List.append_assoc, ← htime]
            · rfl
          · split
            · rw [List.flatMap_singleton, List.append_assoc, ← htimeline]
            · rfl
    · simp [hcompleted]

/-- No line holds the end of one. -/
theorem Written.oneLine_of_mem_lines (h : w.Proper) {e : List Char × Option Timed}
    (he : e ∈ w.lines config) : OneLine e.1 := by
  cases w with
  | line text => exact List.mem_singleton.mp he ▸ h.1
  | event node a =>
    have hindent := oneLine_indent config.logIndent.toNat
    unfold Written.lines at he
    dsimp only at he
    split at he
    · rcases List.mem_append.mp he with he | he
      · split at he
        · obtain rfl := List.mem_singleton.mp he
          exact oneLine_append.mpr ⟨hindent, (deviceTime_line h.1 a).2⟩
        · exact absurd he List.not_mem_nil
      · split at he
        · obtain rfl := List.mem_singleton.mp he
          exact oneLine_append.mpr ⟨hindent, (deviceTimeline_line h.1 a).2⟩
        · exact absurd he List.not_mem_nil
    · exact absurd he List.not_mem_nil

/-- **Of every line the script reads what it stands for.** -/
theorem Written.matchItems_of_mem_lines (h : w.Proper) {e : List Char × Option Timed}
    (he : e ∈ w.lines config) :
    matchItems (interceptRe dec) (e.1 ++ ['\n']) = e.2.map Timed.groups := by
  cases w with
  | line text =>
    obtain rfl := List.mem_singleton.mp he
    by_contra hmatch
    obtain ⟨b, rest, htext⟩ := begins_of_matchItems hmatch
    rcases List.eq_nil_or_concat rest with rfl | ⟨rest, c, rfl⟩
    · have hlast := congrArg List.getLast? htext
      rw [List.getLast?_concat] at hlast
      simp at hlast
    · rw [List.concat_eq_append, ← List.append_assoc, ← List.cons_append,
        ← List.append_assoc] at htext
      exact h.2 b rest (List.append_inj' htext rfl).1
  | event node a =>
    have htime := (deviceTime_line h.1 a).1
    have htimeline := (deviceTimeline_line h.1 a).1
    unfold Written.lines at he
    dsimp only at he
    split at he
    · rcases List.mem_append.mp he with he | he
      · split at he
        · obtain rfl := List.mem_singleton.mp he
          rw [List.append_assoc, ← htime]
          by_cases hindent : config.logIndent.toNat = 0
          · rw [hindent]
            exact matchItems_deviceTime node a
          · exact matchItems_indented hindent _
        · exact absurd he List.not_mem_nil
      · split at he
        · obtain rfl := List.mem_singleton.mp he
          rw [List.append_assoc, ← htimeline]
          by_cases hindent : config.logIndent = 0
          · rw [hindent, if_pos rfl]
            exact matchItems_deviceTimeline h.2 h.1.1 a
          · rw [if_neg hindent]
            exact matchItems_indented (fun hzero => hindent (UInt32.toNat_inj.mp hzero)) _
        · exact absurd he List.not_mem_nil
    · exact absurd he List.not_mem_nil

/-- **The script reads of a log what the layer has written into it**: in their order the events with
their names and times, and it ignores all other lines. -/
theorem readLog_logText {F : Type} (floats : Floats F) {ws : List Written}
    (h : ∀ w ∈ ws, w.Proper) :
    readLog dec floats (logText config ws) =
      Sheet.extend floats {} ((ws.flatMap (Written.lines config)).map (·.2)) 0 := by
  have hlog : logText config ws =
      ((ws.flatMap (Written.lines config)).map (·.1)).flatMap (· ++ ['\n']) := by
    rw [logText, List.flatMap_map, List.flatMap_assoc]
    exact List.flatMap_congr fun w hw => Written.text_eq (h w hw)
  have honeLine : ∀ text ∈ (ws.flatMap (Written.lines config)).map (·.1), OneLine text := by
    intro text htext
    obtain ⟨e, he, rfl⟩ := List.mem_map.mp htext
    obtain ⟨w, hw, he⟩ := List.mem_flatMap.mp he
    exact Written.oneLine_of_mem_lines (h w hw) he
  have hreturn : '\r' ∉ logText config ws := by
    rw [hlog]
    intro hmem
    obtain ⟨text, htext, hmem⟩ := List.mem_flatMap.mp hmem
    rcases List.mem_append.mp hmem with hmem | hmem
    · exact (honeLine text htext).2 hmem
    · exact absurd hmem (by decide)
  rw [readLog, translated_of_notMem hreturn, hlog,
    lines_flatMap fun text htext => (honeLine text htext).1, List.map_map]
  refine foldl_readLine floats (fun e he => ?_) 0 {}
  obtain ⟨w, hw, he⟩ := List.mem_flatMap.mp he
  exact Written.matchItems_of_mem_lines (h w hw) he

end

/-- Two lines: one from elsewhere, and a timeline of a kernel whose name looks like one. -/
def lookalike : List Written :=
  [.line "Total Enqueues: 1".toList,
    .event { device := 1, queueNumber := 0, name := "f (enqueue 1) = 2 ns (queued)"
             enqueueCounter := 7, queuedTime := 0, useProfilingDelta := false
             profilingDeltaNS := 0, event := 5 }
      { infoCode := clSuccess, status := clComplete, commandQueued := 10, commandSubmit := 12
        commandStart := 15, commandEnd := 40 }]

def timelineOnly : TimelineConfig where
  devicePerformanceTiming := true
  devicePerformanceTimelineLogging := true

/-- Whole numbers in the place of floating point. -/
def wholeNumbers : Floats Int := ⟨fun digits => Decimals.plain.read digits, Int.sub, id⟩

/-- The one is ignored, and of the other the whole name is read. -/
theorem readLog_lookalike :
    readLog Decimals.plain wholeNumbers (logText timelineOnly lookalike) =
      { normalize := some 10
        result := [⟨"f (enqueue 1) = 2 ns (queued)".toList, 0, 2, 3, 25⟩]
        linesIgnored := [0] } := by
  refine (readLog_logText wholeNumbers fun w hw => ?_).trans (by decide +kernel)
  simp only [lookalike, List.mem_cons, List.not_mem_nil, or_false] at hw
  rcases hw with rfl | rfl
  · refine ⟨by decide, fun b rest h => ?_⟩
    have hhead : some 'T' = some 'D' := congrArg List.head? h
    exact absurd hhead (by decide)
  · exact ⟨by decide, by decide⟩

/-! ## The lines that are ignored -/

/-- The first and the last line of a range, counted from 1. -/
abbrev Bounds := Nat × Nat

def Bounds.lines (r : Bounds) : List Nat := List.range' r.1 (r.2 + 1 - r.1)

/-- What is printed of a range. -/
def Bounds.text (r : Bounds) : List Char :=
  if r.1 = r.2 then " [".toList ++ (number 10 1 r.1).toList ++ "]".toList
  else " [".toList ++ (number 10 1 r.1).toList ++ "-".toList ++ (number 10 1 r.2).toList ++
    "]".toList

def boundsOf (lineRange : List Nat) : Bounds :=
  (lineRange.head?.getD 0 + 1, lineRange.getLast?.getD 0 + 1)

/-- From one element of a list to the next the position goes up by one. -/
theorem isChain_zipIdx {α : Type*} {R : α → α → Prop} {xs : List α} (h : xs.IsChain R) (k : Nat) :
    (xs.zipIdx k).IsChain fun x y => y.2 = x.2 + 1 ∧ R x.1 y.1 := by
  induction xs generalizing k with
  | nil => exact List.isChain_nil
  | cons x xs ih =>
    rw [List.zipIdx_cons]
    cases xs with
    | nil => exact List.isChain_singleton _
    | cons y xs =>
      obtain ⟨hxy, hrest⟩ := List.isChain_cons_cons.mp h
      exact List.isChain_cons_cons.mpr ⟨⟨rfl, hxy⟩, ih hrest (k + 1)⟩

/-- Where each is the one behind the last, a list is a range. -/
theorem eq_range'_of_isChain {first : Nat} {rest : List Nat}
    (h : (first :: rest).IsChain fun x y => y = x + 1) :
    first :: rest = List.range' first (rest.length + 1) := by
  induction rest generalizing first with
  | nil => rfl
  | cons next rest ih =>
    obtain ⟨hnext, hrest⟩ := List.isChain_cons_cons.mp h
    rw [List.length_cons, List.range'_succ, ← hnext, ← ih hrest]

/-- How a range of lines looks. -/
theorem range'_facts (first n : Nat) :
    rangeMessage (List.range' first (n + 1)) = (boundsOf (List.range' first (n + 1))).text ∧
      (boundsOf (List.range' first (n + 1))).lines = (List.range' first (n + 1)).map (· + 1) ∧
      boundsOf (List.range' first (n + 1)) = (first + 1, first + n + 1) := by
  have hhead : (List.range' first (n + 1)).head? = some first := rfl
  have hlast : (List.range' first (n + 1)).getLast? = some (first + n) := by
    rw [List.range'_1_concat, List.getLast?_concat]
  have hbounds : boundsOf (List.range' first (n + 1)) = (first + 1, first + n + 1) := by
    rw [boundsOf, hhead, hlast]
    rfl
  refine ⟨?_, ?_, hbounds⟩
  · rw [hbounds, rangeMessage, hhead, hlast, Bounds.text, List.length_range']
    dsimp only
    by_cases hn : n = 0
    · rw [if_pos (by omega), if_pos (by omega)]
    · rw [if_neg (by omega), if_neg (by omega)]
  · have hlength : first + n + 1 + 1 - (first + 1) = n + 1 := by omega
    rw [hbounds, Bounds.lines, ← List.range'_succ_left]
    dsimp only
    rw [hlength]

/-- **A range holds lines that follow on each other.** -/
theorem eq_range'_of_mem_lineRanges {lines lineRange : List Nat} (h : lineRange ∈ lineRanges lines) :
    ∃ first n, lineRange = List.range' first (n + 1) := by
  obtain ⟨g, hg, rfl⟩ := List.mem_map.mp h
  have hsame := List.isChain_of_mem_splitBy hg
  have hpositions : g.IsChain fun x y => y.2 = x.2 + 1 := by
    have hall := isChain_zipIdx (R := fun _ _ : Nat => True) (List.isChain_iff_getElem.mpr
      fun _ _ => trivial : lines.IsChain _) 0
    rw [← List.flatten_splitBy (fun x y => (x.1 : Int) - x.2 == (y.1 : Int) - y.2) lines.zipIdx,
      List.isChain_flatten (List.nil_notMem_splitBy _ _)] at hall
    exact (hall.1 g hg).imp fun _ _ hxy => hxy.1
  have hvalues : (g.map (·.1)).IsChain fun x y => y = x + 1 := by
    rw [List.isChain_map, List.isChain_iff_getElem]
    intro i hi
    have hkey := beq_iff_eq.mp (List.isChain_iff_getElem.mp hsame i hi)
    have hposition := List.isChain_iff_getElem.mp hpositions i hi
    omega
  cases hmap : g.map (·.1) with
  | nil =>
    rw [List.map_eq_nil_iff] at hmap
    exact absurd (hmap ▸ hg) (List.nil_notMem_splitBy _ _)
  | cons first rest =>
    rw [hmap] at hvalues
    exact ⟨first, rest.length, eq_range'_of_isChain hvalues⟩

/-- Between two groups there is a line that is not ignored. -/
theorem bounds_apart {g g' : List (Nat × Nat)} {x y : Nat × Nat} (hlast : g.getLast? = some x)
    (hfirst : g'.head? = some y) (hdiffer : (x.1 : Int) - x.2 ≠ (y.1 : Int) - y.2)
    (hposition : y.2 = x.2 + 1) (hless : x.1 < y.1) :
    (boundsOf (g.map (·.1))).2 + 1 < (boundsOf (g'.map (·.1))).1 := by
  simp only [boundsOf, List.getLast?_map, List.head?_map, hlast, hfirst, Option.map_some,
    Option.getD_some]
  omega

/-- Between two ranges there is a line that is in none. -/
theorem lineRanges_apart {lines : List Nat} (h : lines.Pairwise (· < ·)) :
    (lineRanges lines).IsChain fun g g' => (boundsOf g).2 + 1 < (boundsOf g').1 := by
  have hall := isChain_zipIdx h.isChain 0
  rw [← List.flatten_splitBy (fun x y => (x.1 : Int) - x.2 == (y.1 : Int) - y.2) lines.zipIdx,
    List.isChain_flatten (List.nil_notMem_splitBy _ _)] at hall
  have hborder := List.isChain_getLast_head_splitBy
    (fun x y => (x.1 : Int) - x.2 == (y.1 : Int) - y.2) lines.zipIdx
  rw [lineRanges, List.isChain_map, List.isChain_iff_getElem]
  generalize (lines.zipIdx.splitBy fun x y => (x.1 : Int) - x.2 == (y.1 : Int) - y.2) = groups at *
  intro i hi
  obtain ⟨hlast, hfirst, hdiffer⟩ := List.isChain_iff_getElem.mp hborder i hi
  have hlast' := List.getLast?_eq_some_getLast hlast
  have hfirst' := List.head?_eq_some_head hfirst
  have hborders := List.isChain_iff_getElem.mp hall.2 i hi
  obtain ⟨hposition, hless⟩ := hborders _ (Option.mem_def.mpr hlast') _ (Option.mem_def.mpr hfirst')
  exact bounds_apart (List.getLast?_eq_some_getLast hlast) (List.head?_eq_some_head hfirst)
    (beq_eq_false_iff_ne.mp hdiffer) hposition hless

/-- The groups have all lines, in their order. -/
theorem flatten_lineRanges (lines : List Nat) : (lineRanges lines).flatten = lines := by
  rw [lineRanges, ← List.map_flatten, List.flatten_splitBy, List.zipIdx_map_fst]

/-- The message tells each group by its bounds. -/
theorem flatMap_rangeMessage (lines : List Nat) :
    (lineRanges lines).flatMap rangeMessage =
      ((lineRanges lines).map boundsOf).flatMap Bounds.text := by
  have htexts : ∀ g ∈ lineRanges lines, rangeMessage g = (boundsOf g).text := fun g hg => by
    obtain ⟨first, n, rfl⟩ := eq_range'_of_mem_lineRanges hg
    exact (range'_facts first n).1
  rw [List.flatMap_map, List.flatMap_congr htexts]

/-- **The message names the lines that are given**, in ranges that are as long as they can be. -/
theorem printLinesIgnored_spec {lines : List Nat} (h : lines.Pairwise (· < ·)) :
    ∃ ranges : List Bounds,
      printLinesIgnored lines = "Lines ignored:".toList ++ ranges.flatMap Bounds.text ∧
      ranges.flatMap Bounds.lines = lines.map (· + 1) ∧
      ranges.IsChain fun r s => r.2 + 1 < s.1 := by
  refine ⟨(lineRanges lines).map boundsOf, ?_, ?_, ?_⟩
  · exact congrArg ("Lines ignored:".toList ++ ·) (flatMap_rangeMessage lines)
  · have hgroups : ∀ g ∈ lineRanges lines, (boundsOf g).lines = g.map (· + 1) := fun g hg => by
      obtain ⟨first, n, rfl⟩ := eq_range'_of_mem_lineRanges hg
      exact (range'_facts first n).2.1
    rw [List.flatMap_map, List.flatMap_congr hgroups, ← List.map_flatMap, List.flatMap_id',
      flatten_lineRanges]
  · rw [List.isChain_map]
    exact lineRanges_apart h

section

variable (dec : Decimals) {F : Type} (floats : Floats F)

/-- The lines of a file that the pattern does not match, counted from `k`. -/
def unread (text : List Char) (k : Nat) : List Nat :=
  ((((lines (translated text)).map (· ++ ['\n'])).zipIdx k).filter fun e =>
    (matchItems (interceptRe dec) e.1).isNone).map (·.2)

/-- Ignored is what the expression does not match. -/
theorem foldl_linesIgnored (entries : List (List Char × Nat)) (sheet : Sheet F) :
    (entries.foldl (readLine dec floats) sheet).linesIgnored = sheet.linesIgnored ++
      (entries.filter fun e => (matchItems (interceptRe dec) e.1).isNone).map (·.2) := by
  induction entries generalizing sheet with
  | nil => exact (List.append_nil _).symm
  | cons e entries ih =>
    rw [List.foldl_cons, ih, List.filter_cons, readLine]
    cases hmatch : matchItems (interceptRe dec) e.1 with
    | none => simp
    | some m =>
      have hsame : (insertXlsxEntries floats m sheet).linesIgnored = sheet.linesIgnored := by
        unfold insertXlsxEntries
        split <;> rfl
      simp [hsame]

/-- Counting from one instead of zero. -/
theorem map_unread (text : List Char) :
    (unread dec text 0).map (· + 1) = unread dec text 1 := by
  unfold unread
  generalize (lines (translated text)).map (· ++ ['\n']) = rows
  rw [List.map_map, List.zipIdx_succ, List.filter_map, List.map_map]
  rfl

/-- **Of any file the script prints the numbers of all lines that it does not read**, in order. -/
theorem printLinesIgnored_readLog (text : List Char) :
    ∃ ranges : List Bounds,
      printLinesIgnored (readLog dec floats text).linesIgnored =
        "Lines ignored:".toList ++ ranges.flatMap Bounds.text ∧
      ranges.flatMap Bounds.lines = unread dec text 1 ∧
      ranges.IsChain fun r s => r.2 + 1 < s.1 := by
  have hignored : (readLog dec floats text).linesIgnored = unread dec text 0 :=
    foldl_linesIgnored dec floats _ {}
  have hascending : (unread dec text 0).Pairwise (· < ·) := by
    unfold unread
    refine List.Pairwise.sublist (List.filter_sublist.map _) ?_
    rw [List.zipIdx_map_snd]
    exact List.pairwise_lt_range'
  obtain ⟨ranges, hmessage, hlines, hchain⟩ := printLinesIgnored_spec hascending
  exact ⟨ranges, hignored ▸ hmessage, hlines.trans (map_unread dec text), hchain⟩

end

end CLIntercept.Timing
