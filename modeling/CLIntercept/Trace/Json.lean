import CLIntercept.Trace.Chrome
import CLIntercept.Lib.Json

/-!
# The trace file as JSON

Every line and every piece of metadata is an object with a comma and a newline behind it, whatever
is called and whatever the buffer (`rows_traceOf`), so that a file with the lines as they were
formatted is an array, and the record of the destructor its last element. What is written is what
was formatted exactly when no line reaches the size of the string buffer (`writesJson_iff`).

The texts that the tracer is given have no character that JSON escapes. How a time is rounded to
thousandths of a microsecond is left open.
-/

set_option autoImplicit false

namespace CLIntercept.Trace

open CLIntercept.Lib

/-! ## What is asked of a trace -/

/-- A time as `%.3f` prints it, for any rounding of the quotient. -/
def microseconds (thousandths : UInt64 → Nat) (time : UInt64) : String :=
  decimal (thousandths time / 1000) ++ "." ++ number 10 3 (thousandths time % 1000)

/-- A text without a character that JSON escapes. -/
def Plain (text : String) : Prop := ∀ c ∈ text.toList, Json.unescaped c = true

instance (text : String) : Decidable (Plain text) :=
  List.decidableBAll (fun c => Json.unescaped c = true) text.toList

/-- The names and tags of a call. -/
def TracerCall.texts : TracerCall → List String
  | .addCallLogging name _ _ _ | .addCallLoggingId name _ _ _ _ | .addDeviceTiming name _ _ _ _
  | .addDeviceTimingPerKernel name _ _ _ | .addDeviceTimingInStages name _ _ _ _ _ _ _
  | .addDeviceTimingInStagesPerKernel name _ _ _ _ _ => [name]
  | .addCallLoggingTag name tag _ _ _ | .addCallLoggingTagId name tag _ _ _ _ => [name, tag]
  | .addProcessMetadata processName => [processName]
  | .addQueueMetadata _ queueName => [queueName]
  | .flush | .addThreadMetadata _ _ | .addStartTimeMetadata _ => []

/-- What `snprintf` places in the string buffer, with the NUL. -/
def placed (line : String) : Bytes := (utf8 line).take (stringBufferSize - 1) ++ [0]

def Piece.text : Piece → String
  | .line text => text
  | .other text => text

/-- The file. `beyond` is the memory behind the string buffer, at each piece. -/
def fileBytes (beyond : Nat → Bytes) (pieces : List Piece) : Bytes :=
  (pieces.mapIdx fun i piece =>
    match piece with
    | .line text => written (beyond i) text
    | .other text => utf8 text).flatten

def eofRecord (processId : UInt64) : String :=
  "\x7b\"ph\":\"M\",\"name\":\"clintercept_eof\",\"pid\":" ++ decimal processId.toNat
    ++ ",\"tid\":0\x7d"

theorem eofRecord_eq (processId : UInt64) :
    eofRecord processId = "\x7b\"ph\":\"M\",\"name\":\"clintercept_eof\",\"pid\":"
      ++ decimal processId.toNat ++ ",\"tid\":0\x7d" := rfl

/-- **A trace that is written out**: each line as it was formatted, and with no more than was placed
in the string buffer; and the file is an array that ends with the record of the destructor. -/
structure WritesJson (beyond : Nat → Bytes) (processId : UInt64) (pieces : List Piece) : Prop where
  emits : ∀ i line, pieces[i]? = some (.line line) → written (beyond i) line = utf8 line
  within : ∀ line, .line line ∈ pieces → line.utf8ByteSize ≤ (placed line).length
  wellFormed : ∃ text elements, fileBytes beyond pieces = utf8 text ∧
    Json.ArrayOf elements text.toList ∧ elements.getLast? = some (eofRecord processId).toList

/-! ## Rows -/

/-- An object, a comma and a newline. -/
def Row (text : String) : Prop :=
  ∃ record, Json.Value record ∧ text.toList = record ++ [',', '\n']

/-- A number that is printed is a value of JSON. -/
theorem value_decimal (n : Nat) : Json.Value (decimal n).toList :=
  .number (Json.whole_number n).number

/-- A decimal needs no escapes. -/
theorem plain_decimal (n : Nat) : Plain (decimal n) := by
  intro c hc
  obtain ⟨d, hd, rfl⟩ := Decimals.mem_number hc
  have table : ∀ i : Fin 10, Json.unescaped (digitChar i) = true := by decide
  exact table ⟨d, hd⟩

theorem digits_one : Json.Digits "1".toList :=
  ⟨by decide, List.all_eq_true.mp (by decide)⟩

theorem value_zero : Json.Value "0".toList :=
  .number (Json.Whole.number ⟨⟨by decide, List.all_eq_true.mp (by decide)⟩, fun _ => by decide⟩)

/-- A decimal with digits behind a point is a value. -/
theorem value_decimal_point (n : Nat) {digits : String} (h : Json.Digits digits.toList) :
    Json.Value (decimal n ++ "." ++ digits).toList := by
  have hvalue := Json.Value.number (Json.number_fraction (Json.whole_number n) h)
  simpa [decimal] using hvalue

/-- A time in microseconds is a value, however its fraction is printed. -/
theorem value_microseconds (thousandths : UInt64 → Nat) (time : UInt64) :
    Json.Value (microseconds thousandths time).toList :=
  value_decimal_point _ (Json.digits_number (by decide))

/-- A plain text between quotes is a value. -/
theorem value_plain {text : String} (h : Plain text) : Json.Value (Json.quote text.toList) :=
  .string (Json.body_plain h)

theorem value_quoted {text : String} (h : Plain text) : Json.Value (quoted text).toList := by
  simpa [quoted, Json.quote] using value_plain h

/-- A member that is added to an object, with the text of its name. -/
theorem opened_append {text value : String} (key : String) (name : List Char)
    (h : Json.Opened text.toList) (hkey : key.toList = ',' :: (Json.quote name ++ [':']))
    (hname : name.all Json.unescaped = true) (hvalue : Json.Value value.toList) :
    Json.Opened (text ++ key ++ value).toList := by
  have hmember := h.member (Json.key_plain name hname) hvalue
  rwa [String.toList_append, String.toList_append, hkey, List.append_assoc, List.cons_append]

/-- The fields that every event begins with. -/
theorem opened_eventHead {tid : String} (phase name : String) (processId : UInt64)
    (hphase : Plain phase) (htid : Json.Value tid.toList) (hname : Plain name) :
    Json.Opened (eventHead phase processId tid name).toList := by
  have hph := Json.opened_member (Json.key_plain ['p', 'h'] (by decide))
    (value_plain hphase)
  have hpid := hph.member (Json.key_plain ['p', 'i', 'd'] (by decide))
    (value_decimal processId.toNat)
  have htid' := hpid.member (Json.key_plain ['t', 'i', 'd'] (by decide)) htid
  have hname' := htid'.member (Json.key_plain ['n', 'a', 'm', 'e'] (by decide))
    (value_plain hname)
  unfold eventHead
  simpa [Json.quote] using hname'

section

variable {us : UInt64 → String} {text : String}

/-- A begin and a duration are two more fields. -/
theorem opened_timeSpan (hus : ∀ time, Json.Value (us time).toList)
    (h : Json.Opened text.toList) (startTime delta : UInt64) :
    Json.Opened (text ++ timeSpan us startTime delta).toList := by
  have hts := opened_append ",\"ts\":" ['t', 's'] h (by simp [Json.quote])
    (by decide) (hus startTime)
  have hdur := opened_append ",\"dur\":" ['d', 'u', 'r'] hts
    (by simp [Json.quote]) (by decide) (hus delta)
  simpa [timeSpan] using hdur

/-- The id of a flow comes as an object of one field. -/
theorem opened_idArgs (h : Json.Opened text.toList) (id : UInt64) :
    Json.Opened (text ++ idArgs id).toList := by
  have hid := (Json.opened_member (Json.key_plain ['i', 'd'] (by decide))
    (value_decimal id.toNat)).close
  have hargs := h.member (Json.key_plain ['a', 'r', 'g', 's'] (by decide)) hid
  unfold idArgs
  simpa [Json.quote] using hargs

/-- The brace at the end closes the record. -/
theorem row_of_opened (h : Json.Opened text.toList) : Row (text ++ eventEnd) :=
  ⟨text.toList ++ ['\x7d'], h.close, by simp [eventEnd]⟩

/-- The arrow of a flow is a record of its own. -/
theorem row_flowEvent (hus : ∀ time, Json.Value (us time).toList) {phase tid : String}
    (hphase : Plain phase) (htid : Json.Value tid.toList) (processId startTime id : UInt64) :
    Row (flowEvent us phase processId tid startTime id) := by
  have hhead := opened_eventHead phase "Command" processId hphase htid (by decide)
  have hcat := hhead.member (Json.key_plain ['c', 'a', 't'] (by decide))
    (value_plain (show Plain "Commands" by decide))
  have hts := hcat.member (Json.key_plain ['t', 's'] (by decide)) (hus startTime)
  have hid := hts.member (Json.key_plain ['i', 'd'] (by decide)) (value_decimal id.toNat)
  refine ⟨_, hid.close, ?_⟩
  simp [flowEvent, eventEnd, Json.quote]

end

/-- Two plain texts, one behind the other. -/
theorem Plain.append {text text' : String} (h : Plain text) (h' : Plain text') :
    Plain (text ++ text') := by
  intro c hc
  rw [String.toList_append] at hc
  exact (List.mem_append.mp hc).elim (h c) (h' c)

/-- The tag of a call stands in brackets, which JSON takes as they are. -/
theorem plain_tagged {name tag : String} (h : Plain name) (h' : Plain tag) :
    Plain (name ++ "( " ++ tag ++ " )") :=
  ((h.append (by decide)).append h').append (by decide)

/-! ## The lines are rows -/

section

variable {us : UInt64 → String} (hus : ∀ time, Json.Value (us time).toList)
variable (addFlowEvents : Bool) (processId : UInt64) {name tag : String} (hname : Plain name)
include hus hname

/-- **A logged call is a row.** -/
theorem rows_writeCallLogging (threadId startTime delta : UInt64) :
    ∀ line ∈ writeCallLogging us processId name threadId startTime delta, Row line := by
  intro line hline
  rw [writeCallLogging, List.mem_singleton] at hline
  rw [hline]
  have hhead := opened_eventHead "X" name processId (by decide) (value_decimal threadId.toNat) hname
  exact row_of_opened (opened_timeSpan hus hhead startTime delta)

/-- A logged call with a tag is a row. -/
theorem rows_writeCallLoggingTag (htag : Plain tag) (threadId startTime delta : UInt64) :
    ∀ line ∈ writeCallLoggingTag us processId name tag threadId startTime delta, Row line :=
  rows_writeCallLogging hus processId (plain_tagged hname htag) threadId startTime delta

/-- A logged call with an id is a row, and so is the arrow of its flow. -/
theorem rows_writeCallLoggingId (threadId startTime delta id : UInt64) :
    ∀ line ∈ writeCallLoggingId us addFlowEvents processId name threadId startTime delta id,
      Row line := by
  intro line hline
  rcases List.mem_cons.mp hline with rfl | hline
  · have hhead :=
      opened_eventHead "X" name processId (by decide) (value_decimal threadId.toNat) hname
    exact row_of_opened (opened_idArgs (opened_timeSpan hus hhead startTime delta) id)
  · split at hline
    · rw [List.mem_singleton.mp hline]
      exact row_flowEvent hus (by decide) (value_decimal threadId.toNat) processId startTime id
    · exact absurd hline List.not_mem_nil

/-- A logged call with a tag and an id: the row and its arrow. -/
theorem rows_writeCallLoggingTagId (htag : Plain tag) (threadId startTime delta id : UInt64) :
    ∀ line ∈ writeCallLoggingTagId us addFlowEvents processId name tag threadId startTime delta id,
      Row line :=
  rows_writeCallLoggingId hus addFlowEvents processId (plain_tagged hname htag) threadId startTime
    delta id

/-- The line of a command, after the end of its flow. -/
theorem rows_timing {tid : String} (htid : Json.Value tid.toList) (startTime delta id : UInt64) :
    ∀ line ∈ (if addFlowEvents then [flowEvent us "f" processId tid startTime id] else []) ++
      [eventHead "X" processId tid name ++ timeSpan us startTime delta ++ idArgs id ++ eventEnd],
      Row line := by
  intro line hline
  rcases List.mem_append.mp hline with hline | hline
  · split at hline
    · rw [List.mem_singleton.mp hline]
      exact row_flowEvent hus (by decide) htid processId startTime id
    · exact absurd hline List.not_mem_nil
  · rw [List.mem_singleton.mp hline]
    have hhead := opened_eventHead "X" name processId (by decide) htid hname
    exact row_of_opened (opened_idArgs (opened_timeSpan hus hhead startTime delta) id)

/-- Each stage of a command is a row. -/
theorem rows_writeStages {tid : String} (htid : Json.Value tid.toList)
    (queuedTime submitTime startTime endTime id : UInt64) :
    ∀ line ∈ writeStages us processId tid name queuedTime submitTime startTime endTime id,
      Row line := by
  intro line hline
  obtain ⟨⟨⟨start, delta⟩, suffix, colour⟩, hmem, rfl⟩ := List.mem_map.mp hline
  have htexts := List.of_mem_zip hmem
  have hsuffix : Plain suffix := by
    have table : ∀ s ∈ suffixes, Plain s := by decide
    exact table suffix (List.of_mem_zip htexts.2).1
  have hcolour : Plain colour := by
    have table : ∀ s ∈ colours, Plain s := by decide
    exact table colour (List.of_mem_zip htexts.2).2
  have hhead := opened_eventHead "X" (name ++ " " ++ suffix) processId (by decide) htid
    ((hname.append (by decide)).append hsuffix)
  have hspan := opened_timeSpan hus hhead start delta
  have hcname := hspan.member (Json.key_plain ['c', 'n', 'a', 'm', 'e'] (by decide))
    (value_plain hcolour)
  have hcname' : Json.Opened (eventHead "X" processId tid (name ++ " " ++ suffix)
      ++ timeSpan us start delta ++ ",\"cname\":\"" ++ colour ++ "\"").toList := by
    simpa [Json.quote] using hcname
  exact row_of_opened (opened_idArgs hcname' id)

end

/-- A record of any kind is written as rows. -/
theorem rows_writeRecord {us : UInt64 → String} (hus : ∀ time, Json.Value (us time).toList)
    (addFlowEvents : Bool) (processId : UInt64) {r : Record} (hname : Plain r.name)
    (htag : Plain r.tag) :
    ∀ line ∈ writeRecord us addFlowEvents processId r, Row line := by
  unfold writeRecord
  have htiming (n : Nat) : Json.Value (decimal n ++ ".1").toList := by
    simpa using value_decimal_point n digits_one
  cases r.type with
  | CallLogging => exact rows_writeCallLogging hus processId hname _ _ _
  | CallLoggingTag => exact rows_writeCallLoggingTag hus processId hname htag _ _ _
  | CallLoggingId => exact rows_writeCallLoggingId hus addFlowEvents processId hname _ _ _ _
  | CallLoggingTagId =>
    exact rows_writeCallLoggingTagId hus addFlowEvents processId hname htag _ _ _ _
  | DeviceTiming => exact rows_timing hus addFlowEvents processId hname (htiming _) _ _ _
  | DeviceTimingPerKernel =>
    exact rows_timing hus addFlowEvents processId hname (value_quoted hname) _ _ _
  | DeviceTimingInStages =>
    exact rows_writeStages hus processId hname
      (value_decimal_point _ (Json.digits_number (by decide))) _ _ _ _ _
  | DeviceTimingInStagesPerKernel =>
    exact rows_writeStages hus processId hname (value_quoted hname) _ _ _ _ _

/-! ## The file is rows -/

section

variable {us : UInt64 → String}

/-- A tracer whose file is a bracket and rows, and whose records will be rows. -/
structure Rows (t : ChromeTracer) : Prop where
  traceFile : ∃ rows, t.traceFile = .other "[\n" :: rows ∧ ∀ piece ∈ rows, Row piece.text
  recordBuffer : ∀ r ∈ t.recordBuffer, Plain r.name ∧ Plain r.tag

/-- The two records at the head of the file. -/
theorem rows_init (processId : UInt64) (bufferSize : UInt32) (addFlowEvents : Bool) :
    Rows (init processId bufferSize addFlowEvents) :=
  ⟨⟨[], rfl, fun _ h => absurd h List.not_mem_nil⟩, fun _ h => absurd h List.not_mem_nil⟩

/-- Rows that are put behind rows. -/
theorem Rows.put {t : ChromeTracer} (h : Rows t) {pieces : List Piece}
    (hpieces : ∀ piece ∈ pieces, Row piece.text) : Rows (t.put pieces) := by
  obtain ⟨rows, hfile, hrows⟩ := h.traceFile
  refine ⟨⟨rows ++ pieces, ?_, ?_⟩, h.recordBuffer⟩
  · rw [ChromeTracer.put_traceFile, hfile, List.cons_append]
  · intro piece hpiece
    exact (List.mem_append.mp hpiece).elim (hrows piece) (hpieces piece)

/-- Lines that are written go through the same file. -/
theorem Rows.writeLines {t : ChromeTracer} (h : Rows t) {texts : List String}
    (htexts : ∀ line ∈ texts, Row line) : Rows (t.writeLines texts) := by
  refine h.put fun piece hpiece => ?_
  obtain ⟨line, hline, rfl⟩ := List.mem_map.mp hpiece
  exact htexts line hline

/-- The names of processes and threads are rows, whatever their arguments. -/
theorem row_metadata {name tid args : String} (t : ChromeTracer) (hname : Plain name)
    (htid : Json.Value tid.toList) (hargs : Json.Opened ('\x7b' :: args.toList)) :
    Row (metadata name t tid args).text := by
  have hph := Json.opened_member (Json.key_plain ['p', 'h'] (by decide))
    (value_plain (show Plain "M" by decide))
  have hname' := hph.member (Json.key_plain ['n', 'a', 'm', 'e'] (by decide)) (value_plain hname)
  have hpid := hname'.member (Json.key_plain ['p', 'i', 'd'] (by decide))
    (value_decimal t.processId.toNat)
  have htid' := hpid.member (Json.key_plain ['t', 'i', 'd'] (by decide)) htid
  have hargs' := htid'.member (Json.key_plain ['a', 'r', 'g', 's'] (by decide)) hargs.close
  refine ⟨_, hargs'.close, ?_⟩
  simp [metadata, Piece.text, Json.quote]

/-- One argument, a text. -/
theorem opened_argument {text key : String} (name : List Char) (h : Plain text)
    (hkey : key.toList = Json.quote name ++ [':', '"'])
    (hname : name.all Json.unescaped = true) :
    Json.Opened ('\x7b' :: (key ++ text ++ "\"").toList) := by
  have hmember := Json.opened_member (Json.key_plain name hname) (value_plain h)
  simpa [hkey, Json.quote] using hmember

variable (hus : ∀ time, Json.Value (us time).toList)
include hus

/-- A flush writes what the buffer holds, record by record. -/
theorem Rows.flushRecords {t : ChromeTracer} (h : Rows t) : Rows (flushRecords us t) := by
  have hwritten : Rows (writeRecords us t.recordBuffer t) := by
    rw [writeRecords_eq]
    refine h.writeLines fun line hline => ?_
    obtain ⟨r, hr, hmem⟩ := List.mem_flatMap.mp hline
    obtain ⟨hname, htag⟩ := h.recordBuffer r hr
    exact rows_writeRecord hus t.addFlowEvents t.processId hname htag line hmem
  exact ⟨hwritten.traceFile, fun _ hr => absurd hr List.not_mem_nil⟩

/-- The metadata behind it keeps the file in rows. -/
theorem Rows.flush {t : ChromeTracer} (h : Rows t) : Rows (flush us t) := by
  unfold Trace.flush
  split
  · exact h.flushRecords hus
  · exact h

/-- Every function that adds a record, with a buffer or without. -/
theorem Rows.record {t : ChromeTracer} (h : Rows t) {r : Record} (hname : Plain r.name)
    (htag : Plain r.tag) {texts : List String}
    (htexts : writeRecord us t.addFlowEvents t.processId r = texts) :
    Rows (if t.bufferSize = 0 then t.writeLines texts else emplaceRecord us r t) := by
  split
  · rw [← htexts]
    exact h.writeLines (rows_writeRecord hus t.addFlowEvents t.processId hname htag)
  · have hkept : Rows { t with recordBuffer := t.recordBuffer ++ [r] } := by
      refine ⟨h.traceFile, fun r' hr' => ?_⟩
      rcases List.mem_append.mp hr' with hr' | hr'
      · exact h.recordBuffer r' hr'
      · rw [List.mem_singleton.mp hr']
        exact ⟨hname, htag⟩
    unfold emplaceRecord checkFlushRecords
    split
    · exact hkept.flushRecords hus
    · exact hkept

/-- **One call** keeps the file rows. -/
theorem Rows.tracerStep {t : ChromeTracer} (h : Rows t) {call : TracerCall}
    (htexts : ∀ text ∈ call.texts, Plain text) : Rows (tracerStep us t call) := by
  have hempty : Plain "" := by decide
  cases call with
  | addCallLogging name threadId startTime delta =>
    exact h.record hus (htexts _ (.head _)) hempty rfl
  | addCallLoggingTag name tag threadId startTime delta =>
    exact h.record hus (htexts _ (.head _)) (htexts _ (.tail _ (.head _))) rfl
  | addCallLoggingId name threadId startTime delta id =>
    exact h.record hus (htexts _ (.head _)) hempty rfl
  | addCallLoggingTagId name tag threadId startTime delta id =>
    exact h.record hus (htexts _ (.head _)) (htexts _ (.tail _ (.head _))) rfl
  | addDeviceTiming name queueNumber startTime endTime id =>
    exact h.record hus (htexts _ (.head _)) hempty rfl
  | addDeviceTimingPerKernel name startTime endTime id =>
    exact h.record hus (htexts _ (.head _)) hempty rfl
  | addDeviceTimingInStages name count queueNumber queuedTime submitTime startTime endTime id =>
    exact h.record hus (htexts _ (.head _)) hempty rfl
  | addDeviceTimingInStagesPerKernel name queuedTime submitTime startTime endTime id =>
    exact h.record hus (htexts _ (.head _)) hempty rfl
  | flush => exact h.flush hus
  | addProcessMetadata processName =>
    refine h.put (List.forall_mem_singleton.mpr ?_)
    exact row_metadata t (by decide) value_zero
      (opened_argument ['n', 'a', 'm', 'e'] (htexts _ (.head _)) (by simp [Json.quote]) (by decide))
  | addThreadMetadata threadId threadNumber =>
    have htid := value_decimal threadId.toNat
    refine h.put (List.forall_mem_cons.mpr ⟨?_, List.forall_mem_singleton.mpr ?_⟩)
    · have hplain : Plain ("Host Thread " ++ decimal threadId.toNat) :=
        Plain.append (by decide) (plain_decimal _)
      have hname : Json.Opened ('\x7b' ::
          ("\"name\":\"" ++ ("Host Thread " ++ decimal threadId.toNat) ++ "\"").toList) :=
        opened_argument "name".toList hplain (by simp [Json.quote]) (by decide)
      exact row_metadata t (by decide) htid (by simpa using hname)
    · exact row_metadata t (by decide) htid
        (opened_argument "sort_index".toList (plain_decimal _) (by simp [Json.quote]) (by decide))
  | addStartTimeMetadata startTime =>
    refine h.put (List.forall_mem_singleton.mpr ?_)
    have hstart := Json.opened_member (Json.key_plain "start_time".toList (by decide))
      (value_decimal startTime.toNat)
    exact row_metadata t (by decide) value_zero (by simpa [Json.quote] using hstart)
  | addQueueMetadata queueNumber queueName =>
    have htid := value_decimal_point queueNumber.toNat digits_one
    refine h.put (List.forall_mem_cons.mpr ⟨?_, List.forall_mem_singleton.mpr ?_⟩)
    · exact row_metadata t (by decide) (by simpa using htid)
        (opened_argument "name".toList (htexts _ (.head _)) (by simp [Json.quote]) (by decide))
    · exact row_metadata t (by decide) (by simpa using htid)
        (opened_argument "sort_index".toList (plain_decimal _) (by simp [Json.quote]) (by decide))

/-- **Every call that the tracer is given leaves rows in the file.** -/
theorem Rows.foldl {t : ChromeTracer} (h : Rows t) {calls : List TracerCall}
    (htexts : ∀ call ∈ calls, ∀ text ∈ call.texts, Plain text) :
    Rows (calls.foldl (Trace.tracerStep us) t) := by
  induction calls generalizing t with
  | nil => exact h
  | cons call calls ih =>
    obtain ⟨hcall, hcalls⟩ := List.forall_mem_cons.mp htexts
    exact ih (h.tracerStep hus hcall) hcalls

omit hus in
/-- The last record closes the array. -/
theorem destroy_traceFile (t : ChromeTracer) :
    (destroy us t).traceFile =
      (Trace.flush us t).traceFile ++ [Piece.other (eofRecord t.processId ++ "\n]\n")] := by
  have hend : ",\"tid\":0\x7d" ++ "\n]\n" = ",\"tid\":0\x7d\n]\n" := by decide
  rw [destroy, ChromeTracer.put_traceFile, eofRecord_eq, ← hend, ← String.append_assoc]

/-- **A whole trace** is a bracket, rows and the record of the destructor. -/
theorem rows_traceOf (processId : UInt64) (addFlowEvents : Bool) (bufferSize : UInt32)
    {calls : List TracerCall} (htexts : ∀ call ∈ calls, ∀ text ∈ call.texts, Plain text) :
    ∃ rows, (traceOf us processId addFlowEvents bufferSize calls).traceFile =
        .other "[\n" :: rows ++ [Piece.other (eofRecord processId ++ "\n]\n")] ∧
      ∀ piece ∈ rows, Row piece.text := by
  have hrun := (rows_init processId bufferSize addFlowEvents).foldl hus htexts
  obtain ⟨rows, hfile, hrows⟩ := (hrun.flush hus).traceFile
  refine ⟨rows, ?_, hrows⟩
  unfold traceOf
  rw [destroy_traceFile, hfile,
    (foldl_tracerStep_adds us calls (init processId bufferSize addFlowEvents)).processId]
  unfold init
  rfl

end

/-! ## What is written -/

theorem length_utf8 (text : String) : (utf8 text).length = text.utf8ByteSize := rfl

/-- A line that fits the buffer is written as it is. -/
theorem written_of_short (beyond : Bytes) {line : String}
    (h : line.utf8ByteSize < stringBufferSize) : written beyond line = utf8 line :=
  if_pos h

/-- A longer one is cut, and what lies behind the buffer comes with it. -/
theorem written_of_long (beyond : Bytes) {line : String}
    (h : ¬ line.utf8ByteSize < stringBufferSize) :
    written beyond line =
      placed line ++ beyond.take (line.utf8ByteSize - stringBufferSize) := by
  have hwritten : written beyond line = (utf8 line).take (stringBufferSize - 1) ++
      0 :: beyond.take (line.utf8ByteSize - stringBufferSize) := if_neg h
  rw [hwritten, placed, List.append_assoc, List.singleton_append]

/-- **What is written of a line** is the line exactly when it is shorter than the string buffer. -/
theorem written_eq_utf8_iff (beyond : Bytes) {line : String} (h : '\x00' ∉ line.toList) :
    written beyond line = utf8 line ↔ line.utf8ByteSize < stringBufferSize := by
  constructor
  · intro hexact
    by_contra hlong
    refine zero_notMem_utf8 h ?_
    rw [← hexact, written_of_long beyond hlong]
    exact List.mem_append_left _ (List.mem_append_right _ (.head _))
  · exact written_of_short beyond

/-- What `snprintf` leaves, with its terminator. -/
theorem length_placed (line : String) :
    (placed line).length = min (stringBufferSize - 1) line.utf8ByteSize + 1 := by
  rw [placed, List.length_append, List.length_take, length_utf8, List.length_singleton]

/-- A row has no terminator inside. -/
theorem Row.noNul {text : String} (h : Row text) : '\x00' ∉ text.toList := by
  obtain ⟨record, hrecord, htext⟩ := h
  rw [htext, List.mem_append]
  intro hmem
  exact hmem.elim hrecord.noNul (by decide)

/-! ## The whole file -/

/-- The file, with every line as it was formatted. -/
def textOf : List Piece → String
  | [] => ""
  | piece :: rest => piece.text ++ textOf rest

/-- The text of a file is that of its pieces. -/
theorem textOf_append (pieces pieces' : List Piece) :
    textOf (pieces ++ pieces') = textOf pieces ++ textOf pieces' := by
  induction pieces with
  | nil => exact String.empty_append.symm
  | cons piece rest ih => rw [List.cons_append, textOf, textOf, ih, String.append_assoc]

/-- If every line fits, nothing of the memory behind the buffer shows. -/
theorem fileBytes_eq {pieces : List Piece}
    (h : ∀ line, .line line ∈ pieces → line.utf8ByteSize < stringBufferSize)
    (beyond : Nat → Bytes) : fileBytes beyond pieces = utf8 (textOf pieces) := by
  induction pieces generalizing beyond with
  | nil => rfl
  | cons piece rest ih =>
    have hrest := ih (fun line hline => h line (.tail _ hline)) fun i => beyond (i + 1)
    rw [textOf, utf8_append, ← hrest, fileBytes, List.mapIdx_cons, List.flatten_cons]
    congr 1
    cases piece with
    | line text => exact written_of_short _ (h text (.head _))
    | other text => rfl

/-- The record at the end is a value too. -/
theorem value_eofRecord (processId : UInt64) : Json.Value (eofRecord processId).toList := by
  have hph := Json.opened_member (Json.key_plain ['p', 'h'] (by decide))
    (value_plain (show Plain "M" by decide))
  have hname := hph.member (Json.key_plain ['n', 'a', 'm', 'e'] (by decide))
    (value_plain (show Plain "clintercept_eof" by decide))
  have hpid := hname.member (Json.key_plain ['p', 'i', 'd'] (by decide))
    (value_decimal processId.toNat)
  have htid := hpid.member (Json.key_plain ['t', 'i', 'd'] (by decide)) value_zero
  simpa [eofRecord_eq, Json.quote] using htid.close

/-- Rows are records with a comma behind each. -/
theorem exists_records {rows : List Piece} (h : ∀ piece ∈ rows, Row piece.text) :
    ∃ records : List (List Char), (∀ record ∈ records, Json.Value record) ∧
      (textOf rows).toList = records.flatMap (· ++ [',', '\n']) := by
  induction rows with
  | nil => exact ⟨[], fun _ hr => absurd hr List.not_mem_nil, rfl⟩
  | cons piece rest ih =>
    obtain ⟨⟨record, hrecord, htext⟩, hrest⟩ := List.forall_mem_cons.mp h
    obtain ⟨records, hrecords, htexts⟩ := ih hrest
    refine ⟨record :: records, List.forall_mem_cons.mpr ⟨hrecord, hrecords⟩, ?_⟩
    rw [textOf, String.toList_append, htext, htexts, List.flatMap_cons]

/-- **Rows are an array** when they stand between the bracket and the record of the destructor. -/
theorem arrayOf_textOf {rows : List Piece} (hrows : ∀ piece ∈ rows, Row piece.text)
    (processId : UInt64) : ∃ records,
      Json.ArrayOf (records ++ [(eofRecord processId).toList])
        (textOf (.other "[\n" :: rows ++ [Piece.other (eofRecord processId ++ "\n]\n")])).toList := by
  obtain ⟨records, hrecords, htext⟩ := exists_records hrows
  refine ⟨records, ?_⟩
  have harray := Json.arrayOf_lines hrecords (value_eofRecord processId)
  rw [textOf_append]
  simpa [textOf, Piece.text, htext] using harray

theorem mem_lines {line : String} {pieces : List Piece} :
    line ∈ lines pieces ↔ .line line ∈ pieces := by
  rw [lines, List.mem_filterMap]
  constructor
  · rintro ⟨piece, hpiece, hline⟩
    cases piece with
    | line text => exact Option.some.inj hline ▸ hpiece
    | other text => cases hline
  · intro hpiece
    exact ⟨.line line, hpiece, rfl⟩

section

variable (thousandths : UInt64 → Nat) (processId : UInt64) (addFlowEvents : Bool)
variable (bufferSize : UInt32) {calls : List TracerCall}

/-- The lines among the pieces of a trace are those of its calls. -/
theorem line_mem_traceOf {line : String} :
    .line line ∈
        (traceOf (microseconds thousandths) processId addFlowEvents bufferSize calls).traceFile ↔
      ∃ call ∈ calls, line ∈ linesOf (microseconds thousandths) addFlowEvents processId call := by
  rw [← mem_lines, lines_traceOf, List.mem_flatMap]

variable {thousandths processId addFlowEvents bufferSize}
variable (htexts : ∀ call ∈ calls, ∀ text ∈ call.texts, Plain text)
include htexts

/-- A line that is too long brings its terminator into the file, which JSON forbids everywhere. -/
theorem short_of_writesJson {beyond : Nat → Bytes}
    (h : WritesJson beyond processId
      (traceOf (microseconds thousandths) processId addFlowEvents bufferSize calls).traceFile) :
    ∀ call ∈ calls, ∀ line ∈ linesOf (microseconds thousandths) addFlowEvents processId call,
      line.utf8ByteSize < stringBufferSize := by
  intro call hcall line hline
  have hpiece := (line_mem_traceOf thousandths processId addFlowEvents bufferSize).mpr
    ⟨call, hcall, hline⟩
  obtain ⟨i, hi⟩ := List.mem_iff_getElem?.mp hpiece
  obtain ⟨rows, hfile, hrows⟩ :=
    rows_traceOf (value_microseconds thousandths) processId addFlowEvents bufferSize htexts
  have hrow : Row line := by
    rw [hfile] at hpiece
    simp only [List.cons_append, List.mem_cons, List.mem_append, List.not_mem_nil, or_false,
      reduceCtorEq, false_or] at hpiece
    exact hrows _ hpiece
  exact (written_eq_utf8_iff (beyond i) hrow.noNul).mp (h.emits i line hi)

/-- Where every line fits, the file is an array of the records and the last one. -/
theorem writesJson_of_short (beyond : Nat → Bytes)
    (h : ∀ call ∈ calls, ∀ line ∈ linesOf (microseconds thousandths) addFlowEvents processId call,
      line.utf8ByteSize < stringBufferSize) :
    WritesJson beyond processId
      (traceOf (microseconds thousandths) processId addFlowEvents bufferSize calls).traceFile := by
  have hshort : ∀ line, .line line ∈
      (traceOf (microseconds thousandths) processId addFlowEvents bufferSize calls).traceFile →
        line.utf8ByteSize < stringBufferSize := by
    intro line hpiece
    obtain ⟨call, hcall, hline⟩ :=
      (line_mem_traceOf thousandths processId addFlowEvents bufferSize).mp hpiece
    exact h call hcall line hline
  refine ⟨fun i line hi => ?_, fun line hpiece => ?_, ?_⟩
  · exact written_of_short _ (hshort line (List.mem_of_getElem? hi))
  · have hlength := hshort line hpiece
    rw [length_placed]
    omega
  · obtain ⟨rows, hfile, hrows⟩ :=
      rows_traceOf (value_microseconds thousandths) processId addFlowEvents bufferSize htexts
    obtain ⟨records, harray⟩ := arrayOf_textOf hrows processId
    refine ⟨_, records ++ [(eofRecord processId).toList], fileBytes_eq hshort beyond, ?_,
      List.getLast?_concat⟩
    rw [hfile]
    exact harray

end

/-- **Trace files**: in every trace of names and tags that JSON does not escape, each line is
written as it was formatted and the file is an array that ends with its own record, exactly when
every line is shorter than the string buffer. -/
theorem writesJson_iff (thousandths : UInt64 → Nat) (processId : UInt64) (addFlowEvents : Bool)
    (bufferSize : UInt32) {calls : List TracerCall}
    (htexts : ∀ call ∈ calls, ∀ text ∈ call.texts, Plain text) (beyond : Nat → Bytes) :
    WritesJson beyond processId
        (traceOf (microseconds thousandths) processId addFlowEvents bufferSize calls).traceFile ↔
      ∀ call ∈ calls, ∀ line ∈ linesOf (microseconds thousandths) addFlowEvents processId call,
        line.utf8ByteSize < stringBufferSize :=
  ⟨short_of_writesJson htexts, writesJson_of_short htexts beyond⟩

/-- A call with a tag and flow events, and the timing of its command. -/
theorem writesJson_small :
    WritesJson (fun _ => []) 1 (traceOf (microseconds UInt64.toNat) 1 true 8
      [.addCallLoggingTagId "clEnqueueNDRangeKernel" "k" 7 1000 2500 1,
        .addDeviceTimingPerKernel "k" 3000 9000 1]).traceFile :=
  (writesJson_iff UInt64.toNat 1 true 8 (by decide) fun _ => []).mpr (by decide)

/-- A name of any length may be plain. -/
theorem plain_longName (n : Nat) : Plain (longName n) := by
  induction n with
  | zero => decide
  | succ n ih =>
    intro c hc
    rw [longName, String.toList_push] at hc
    rcases List.mem_append.mp hc with hc | hc
    · exact ih c hc
    · rw [List.mem_singleton.mp hc]
      decide

/-- A kernel name of half the string buffer is printed twice, once as its own track. -/
theorem long_kernel_name_overruns :
    (∀ call ∈ [TracerCall.addDeviceTimingPerKernel (longName (stringBufferSize / 2)) 3000 9000 1],
        ∀ text ∈ call.texts, Plain text) ∧
      ¬ WritesJson (fun _ => []) 1 (traceOf (microseconds UInt64.toNat) 1 false 0
        [.addDeviceTimingPerKernel (longName (stringBufferSize / 2)) 3000 9000 1]).traceFile := by
  have htexts : ∀ call ∈
      [TracerCall.addDeviceTimingPerKernel (longName (stringBufferSize / 2)) 3000 9000 1],
        ∀ text ∈ call.texts, Plain text :=
    List.forall_mem_singleton.mpr (List.forall_mem_singleton.mpr (plain_longName _))
  refine ⟨htexts, fun h => ?_⟩
  have hshort := short_of_writesJson htexts h _ (.head _) _ (.head _)
  unfold eventHead quoted at hshort
  simp only [String.utf8ByteSize_append, utf8ByteSize_longName] at hshort
  have hhalf : stringBufferSize = stringBufferSize / 2 + stringBufferSize / 2 := by decide
  omega

end CLIntercept.Trace
