import RvcOrchestrator.Foundation.Base64
import RvcOrchestrator.Foundation.Uuid
import RvcOrchestrator.Manager.LogStream

/-! # Paging through the logs of a Job

A client is given the place of the last record of a page as a text, and gets the next page for it.
-/

namespace RvcOrchestrator.Manager

open RvcOrchestrator.Foundation RvcOrchestrator.Contracts

/-! ## Cursors of clients -/

structure TextCursor where
  attemptNumber : Nat
  sequence : Nat
  logId : String
deriving DecidableEq

def LogCursor.toText (cursor : LogCursor) : TextCursor where
  attemptNumber := cursor.attemptNumber
  sequence := cursor.sequence
  logId := uuidText cursor.logId

def cursorDocument (cursor : TextCursor) : Json :=
  .array [.str "v1", .int cursor.attemptNumber, .int cursor.sequence, .str cursor.logId]

def encodeLogCursor (cursor : TextCursor) : String :=
  let raw := (String.ofList (Json.render (cursorDocument cursor))).toUTF8.data.toList
  String.ofList ((Base64.encode raw).rdropWhile (· = '='))

/-! ### Reading a payload -/

inductive PayloadItem where
  | int (value : Int)
  | str (value : String)
deriving DecidableEq

def skipSpaces (text : List Char) : List Char :=
  text.dropWhile fun char => char ∈ [' ', '\t', '\n', '\r']

def expect (mark : Char) (text : List Char) : Option (List Char) :=
  match skipSpaces text with
  | char :: rest => if char = mark then some rest else none
  | [] => none

/-- A number without leading zeros. Where a fraction or an exponent follows it is a float. -/
def readNatural (text : List Char) : Option (Nat × List Char) :=
  let digits := text.takeWhile Char.isDigit
  let rest := text.dropWhile Char.isDigit
  let number := Nat.ofDigitChars 10 digits 0
  if Nat.toDigits 10 number ≠ digits ∨ rest.head?.any (· ∈ ['.', 'e', 'E']) = true then none
  else some (number, rest)

def readInteger : List Char → Option (PayloadItem × List Char)
  | '-' :: text => (readNatural text).map fun read => (.int (-read.1), read.2)
  | text => (readNatural text).map fun read => (.int read.1, read.2)

def simpleEscape (letter : Char) : Option Char :=
  [('"', '"'), ('\\', '\\'), ('/', '/'), ('b', '\x08'), ('f', '\x0c'), ('n', '\n'), ('r', '\r'),
    ('t', '\t')].lookup letter

/-- What stands before the closing quote. Half of a surrogate pair is read as a null character,
which is as little part of an accepted payload. -/
def readText : List Char → Option (List Char × List Char)
  | '"' :: rest => some ([], rest)
  | '\\' :: 'u' :: one :: two :: three :: four :: rest =>
      if [one, two, three, four].all isHexDigit then
        let code := [one, two, three, four].foldl
          (fun code digit => 16 * code + Json.hexValue digit.toLower) 0
        (readText rest).map fun read => (Char.ofNat code :: read.1, read.2)
      else none
  | '\\' :: letter :: rest =>
      match simpleEscape letter with
      | some char => (readText rest).map fun read => (char :: read.1, read.2)
      | none => none
  | char :: rest =>
      if char = '\\' ∨ char.toNat < 32 then none
      else (readText rest).map fun read => (char :: read.1, read.2)
  | [] => none

def readItem (text : List Char) : Option (PayloadItem × List Char) :=
  match skipSpaces text with
  | '"' :: rest => (readText rest).map fun read => (.str (String.ofList read.1), read.2)
  | text => readInteger text

/-- `json.loads`, for a list of four integers and texts. Whatever else a document holds is no
payload of a cursor. -/
def readPayload (text : List Char) :
    Option (PayloadItem × PayloadItem × PayloadItem × PayloadItem) := do
  let rest ← expect '[' text
  let (version, rest) ← readItem rest
  let rest ← expect ',' rest
  let (attemptNumber, rest) ← readItem rest
  let rest ← expect ',' rest
  let (sequence, rest) ← readItem rest
  let rest ← expect ',' rest
  let (logId, rest) ← readItem rest
  let rest ← expect ']' rest
  if skipSpaces rest = [] then pure (version, attemptNumber, sequence, logId) else none

/-- Nothing where the source raises `InvalidLogCursor`. Only documents in UTF-8 are read, and
numbers of more digits than any column has. -/
def decodeLogCursor (value : String) : Option TextCursor := do
  let decoded ← Base64.decode (Base64.pad value.toList)
  let text ← String.fromUTF8? ⟨decoded.toArray⟩
  match ← readPayload text.toList with
  | (.str version, .int attemptNumber, .int sequence, .str logId) =>
      if version ≠ "v1" ∨ attemptNumber < 1 ∨ sequence < 0 ∨ isUuid logId = false then none
      else some ⟨attemptNumber.toNat, sequence.toNat, logId⟩
  | _ => none

/-! ### The round trip -/

theorem skipSpaces_cons {char : Char} (text : List Char)
    (visible : char ∉ [' ', '\t', '\n', '\r']) : skipSpaces (char :: text) = char :: text := by
  rw [skipSpaces, List.dropWhile_cons_of_neg]
  rwa [decide_eq_true_eq]

theorem expect_cons {mark : Char} (text : List Char)
    (visible : mark ∉ [' ', '\t', '\n', '\r']) : expect mark (mark :: text) = some text := by
  rw [expect, skipSpaces_cons text visible]
  exact if_pos rfl

theorem readNatural_toDigits (number : Nat) {rest : List Char}
    (ends : ∀ char ∈ rest.head?, char.isDigit = false ∧ char ∉ ['.', 'e', 'E']) :
    readNatural (Nat.toDigits 10 number ++ rest) = some (number, rest) := by
  have digits : ∀ digit ∈ Nat.toDigits 10 number, digit.isDigit = true := fun digit member =>
    Nat.isDigit_of_mem_toDigits (by decide) (by decide) member
  have taken : (Nat.toDigits 10 number ++ rest).takeWhile Char.isDigit = Nat.toDigits 10 number := by
    rw [List.takeWhile_append_of_pos digits]
    cases rest with
    | nil => rw [List.takeWhile_nil, List.append_nil]
    | cons head tail =>
        rw [List.takeWhile_cons_of_neg (by simp [(ends head rfl).1]), List.append_nil]
  have dropped : (Nat.toDigits 10 number ++ rest).dropWhile Char.isDigit = rest := by
    rw [List.dropWhile_append_of_pos digits]
    cases rest with
    | nil => rfl
    | cons head tail => rw [List.dropWhile_cons_of_neg (by simp [(ends head rfl).1])]
  have whole : rest.head?.any (· ∈ ['.', 'e', 'E']) = false := by
    cases rest with
    | nil => rfl
    | cons head tail => simpa using (ends head rfl).2
  rw [readNatural, taken, dropped, Nat.ofDigitChars_ten_toDigits, whole, if_neg (by simp)]

theorem readText_plain {text : List Char}
    (plain : ∀ char ∈ text, char ≠ '"' ∧ char ≠ '\\' ∧ 32 ≤ char.toNat) (rest : List Char) :
    readText (text ++ '"' :: rest) = some (text, rest) := by
  induction text with
  | nil => rfl
  | cons char text induction =>
      have here := plain char List.mem_cons_self
      have read := induction fun other member => plain other (List.mem_cons_of_mem _ member)
      rw [List.cons_append, readText.eq_4 _ _ here.1 (by grind) (by grind), read,
        if_neg (by rintro (slash | control)
                   · exact here.2.1 slash
                   · omega)]
      rfl

def Unescaped (text : String) : Prop :=
  ∀ char ∈ text.toList, char ≠ '"' ∧ char ≠ '\\' ∧ 32 ≤ char.toNat

theorem escapeChar_unescaped {char : Char}
    (plain : char ≠ '"' ∧ char ≠ '\\' ∧ 32 ≤ char.toNat) : Json.escapeChar char = [char] := by
  unfold Json.escapeChar
  rw [if_neg plain.1, if_neg plain.2.1, if_neg (by omega), if_neg (by omega), if_neg (by omega),
    if_neg (by omega), if_neg (by omega), if_neg (by omega)]

theorem strText_unescaped {text : String} (plain : Unescaped text) :
    Json.strText text = '"' :: (text.toList ++ ['"']) := by
  rw [Json.strText, List.flatMap_congr fun char member => escapeChar_unescaped (plain char member)]
  simp

theorem readItem_strText {text : String} (plain : Unescaped text) (rest : List Char) :
    readItem (Json.strText text ++ rest) = some (.str text, rest) := by
  rw [strText_unescaped plain, List.cons_append, List.append_assoc, List.cons_append,
    List.nil_append, readItem, skipSpaces_cons _ (by decide)]
  simp only
  rw [readText_plain plain, Option.map_some, String.ofList_toList]

theorem readItem_intText (number : Nat) {rest : List Char}
    (ends : ∀ char ∈ rest.head?, char.isDigit = false ∧ char ∉ ['.', 'e', 'E']) :
    readItem (Json.intText number ++ rest) = some (.int number, rest) := by
  have text : Json.intText number = Nat.toDigits 10 number := by
    rw [Json.intText, if_neg (by omega), Int.natAbs_natCast]
  have read := readNatural_toDigits number ends
  rw [text]
  cases written : Nat.toDigits 10 number with
  | nil => exact absurd written Nat.toDigits_ne_nil
  | cons first digits =>
      have digit : first.isDigit = true :=
        Nat.isDigit_of_mem_toDigits (by decide) (by decide) (written ▸ List.mem_cons_self)
      have notQuote : first ≠ '"' := by
        rintro rfl
        cases digit
      have notMinus : first ≠ '-' := by
        rintro rfl
        cases digit
      have visible : first ∉ [' ', '\t', '\n', '\r'] := by
        intro space
        simp only [List.mem_cons, List.not_mem_nil, or_false] at space
        rcases space with rfl | rfl | rfl | rfl <;> cases digit
      rw [written] at read
      rw [List.cons_append, readItem, skipSpaces_cons _ visible]
      split
      · next same => exact absurd (List.cons.inj same).1 notQuote
      · rw [readInteger]
        · rw [← List.cons_append, read]
          rfl
        · rintro text same
          exact notMinus (List.cons.inj same).1

theorem readPayload_cursorDocument {cursor : TextCursor} (plain : Unescaped cursor.logId) :
    readPayload (Json.render (cursorDocument cursor)) =
      some (.str "v1", .int cursor.attemptNumber, .int cursor.sequence, .str cursor.logId) := by
  have version : Unescaped "v1" := by
    exact List.forall_iff_forall_mem.mp (by decide)
  have comma : ∀ text : List Char, ∀ char ∈ (',' :: text).head?,
      char.isDigit = false ∧ char ∉ ['.', 'e', 'E'] := by
    rintro text char ⟨⟩
    decide +kernel
  have written : Json.render (cursorDocument cursor) =
      '[' :: (Json.strText "v1" ++ ',' :: (Json.intText cursor.attemptNumber ++
        ',' :: (Json.intText cursor.sequence ++ ',' :: (Json.strText cursor.logId ++ [']'])))) := by
    simp only [cursorDocument, Json.render, Json.renderItems]
  simp only [readPayload, written, expect_cons _ (by decide : '[' ∉ [' ', '\t', '\n', '\r']),
    expect_cons _ (by decide : ',' ∉ [' ', '\t', '\n', '\r']),
    expect_cons _ (by decide : ']' ∉ [' ', '\t', '\n', '\r']),
    readItem_strText version, readItem_strText plain, readItem_intText _ (comma _),
    Option.bind_eq_bind, Option.bind_some]
  rfl

theorem unescaped_uuidText (identifier : Nat) : Unescaped (uuidText identifier) := by
  intro char member
  rw [uuidText, String.toList_ofList] at member
  rcases mem_hyphenate member with rfl | digit
  · decide
  · have plain : ∀ digit ∈ "0123456789abcdef".toList,
        digit ≠ '"' ∧ digit ≠ '\\' ∧ 32 ≤ digit.toNat :=
      List.forall_iff_forall_mem.mp (by decide)
    exact plain char (mem_hexDigits digit)

/-- A client that gives a cursor back is at the record it was taken from. -/
theorem decodeLogCursor_encodeLogCursor {cursor : LogCursor} (numbered : 1 ≤ cursor.attemptNumber) :
    decodeLogCursor (encodeLogCursor cursor.toText) = some cursor.toText := by
  have plain : Unescaped cursor.toText.logId := unescaped_uuidText cursor.logId
  generalize written : String.ofList (Json.render (cursorDocument cursor.toText)) = text
  have document : text.toList = Json.render (cursorDocument cursor.toText) := by
    rw [← written, String.toList_ofList]
  have bytes : (⟨text.toUTF8.data.toList.toArray⟩ : ByteArray) = text.toUTF8 := by
    rw [Array.toArray_toList]
  have read : String.fromUTF8? text.toUTF8 = some text := dif_pos text.isValidUTF8
  rw [decodeLogCursor, encodeLogCursor, String.toList_ofList, Base64.pad_strip,
    Base64.decode_encode]
  simp only [Option.bind_eq_bind, Option.bind_some, written, bytes, read, document,
    readPayload_cursorDocument plain]
  have uuid : isUuid cursor.toText.logId = true := isUuid_uuidText cursor.logId
  have attempt : ¬(cursor.toText.attemptNumber : Int) < 1 := by
    have := numbered
    simp only [LogCursor.toText]
    omega
  rw [if_neg (by simp [uuid, attempt])]
  simp

/-! ## Pages -/

/-- The columns of `ORDER BY`, with the text of the identifier. -/
def TextCursor.position (cursor : TextCursor) : ℕ ×ₗ ℕ ×ₗ String :=
  toLex (cursor.attemptNumber, toLex (cursor.sequence, cursor.logId))

def JobLogRecord.textPosition (record : JobLogRecord) : ℕ ×ₗ ℕ ×ₗ String :=
  record.cursor.toText.position

def afterTextCondition (cursor : TextCursor) (record : JobLogRecord) : Bool :=
  cursor.attemptNumber < record.attemptNumber ||
    (record.attemptNumber = cursor.attemptNumber && cursor.sequence < record.log.sequence) ||
    (record.attemptNumber = cursor.attemptNumber && record.log.sequence = cursor.sequence &&
      cursor.logId < uuidText record.log.id)

section

variable (ledger : Ledger) (jobId : JobId) (filters : JobLogFilters)

/-- `fetch_job_logs`, where a client has given the cursor. -/
def fetchLogPage (after : Option TextCursor) (limit : Nat) (tail : Bool) :
    List JobLogRecord × Bool :=
  let matching := (joinedLogs ledger).filter fun record =>
    filterConditions jobId filters record && after.all fun cursor => afterTextCondition cursor record
  let ordered :=
    if tail then matching.insertionSort fun left right => right.textPosition ≤ left.textPosition
    else matching.insertionSort fun left right => left.textPosition ≤ right.textPosition
  let rows := ordered.take (limit + 1)
  let records := rows.take limit
  (if tail then records.reverse else records, decide (limit < rows.length))

/-- `_decode_cursor_or_422`: nothing where the request is refused. -/
def decodeCursorOr422 : Option String → Option (Option TextCursor)
  | none => some none
  | some value => (decodeLogCursor value).map some

/-- A client asks for one page after the other, each time with the cursor it got last. Nothing
where a cursor is refused, or there are more pages than rounds. -/
def followPages (limit : Nat) : Nat → Option String → Option (List JobLogRecord)
  | 0, _ => none
  | rounds + 1, after =>
      match decodeCursorOr422 after with
      | none => none
      | some cursor =>
          let page := fetchLogPage ledger jobId filters cursor limit false
          if page.2 then
            match page.1.getLast? with
            | none => none
            | some last =>
                (followPages limit rounds (some (encodeLogCursor last.cursor.toText))).map
                  (page.1 ++ ·)
          else some page.1

end

def sortedLogs (ledger : Ledger) (jobId : JobId) (filters : JobLogFilters) : List JobLogRecord :=
  (shownLogs jobId filters ledger).insertionSort fun left right =>
    left.textPosition ≤ right.textPosition

structure LogTable (ledger : Ledger) : Prop where
  ids : (ledger.logs.map JobLog.id).Nodup
  uuids : ∀ log ∈ ledger.logs, log.id < 16 ^ 32
  numbered : ∀ record ∈ joinedLogs ledger, 1 ≤ record.attemptNumber

section

variable {ledger : Ledger} {jobId : JobId} {filters : JobLogFilters} {limit : Nat}

theorem mem_joinedLogs {record : JobLogRecord} (member : record ∈ joinedLogs ledger) :
    record.log ∈ ledger.logs := by
  rcases List.mem_filterMap.mp member with ⟨log, stored, joined⟩
  rcases Option.map_eq_some_iff.mp joined with ⟨attempt, -, rfl⟩
  exact stored

theorem mem_shownLogs {record : JobLogRecord} (member : record ∈ shownLogs jobId filters ledger) :
    record ∈ joinedLogs ledger :=
  (List.mem_filter.mp member).1

/-- The position of a text tells as much as that of the number. -/
theorem textPosition_lt_iff {left right : LogCursor} (leftUuid : left.logId < 16 ^ 32)
    (rightUuid : right.logId < 16 ^ 32) :
    left.toText.position < right.toText.position ↔ left.position < right.position := by
  simp only [TextCursor.position, LogCursor.position, LogCursor.toText, Prod.Lex.lt_iff, ofLex_toLex,
    uuidText_lt_iff leftUuid rightUuid]

theorem afterTextCondition_iff (cursor : TextCursor) (record : JobLogRecord) :
    afterTextCondition cursor record = true ↔ cursor.position < record.textPosition := by
  simp only [afterTextCondition, JobLogRecord.textPosition, TextCursor.position,
    LogCursor.toText, JobLogRecord.cursor, Prod.Lex.lt_iff, ofLex_toLex, Bool.or_eq_true,
    Bool.and_eq_true, decide_eq_true_eq]
  grind

theorem beyondText_iff (cursor : Option TextCursor) (record : JobLogRecord) :
    Beyond JobLogRecord.textPosition (cursor.map TextCursor.position) record ↔
      (cursor.all fun cursor => afterTextCondition cursor record) = true := by
  cases cursor with
  | none => simp [Beyond]
  | some cursor =>
      rw [Option.all_some, afterTextCondition_iff]
      rfl

theorem fetchLogPage_front (after : Option TextCursor) :
    fetchLogPage ledger jobId filters after limit false =
      let rows := pending JobLogRecord.textPosition (shownLogs jobId filters ledger)
        (after.map TextCursor.position)
      (rows.take limit, decide (limit < rows.length)) := by
  have matching : ((joinedLogs ledger).filter fun record => filterConditions jobId filters record &&
      after.all fun cursor => afterTextCondition cursor record) =
        (shownLogs jobId filters ledger).filter fun record =>
          Beyond JobLogRecord.textPosition (after.map TextCursor.position) record := by
    rw [shownLogs, List.filter_filter]
    apply List.filter_congr
    intro record _
    rw [Bool.and_comm, Bool.eq_iff_iff, Bool.and_eq_true, Bool.and_eq_true, decide_eq_true_eq,
      beyondText_iff]
  simp only [fetchLogPage, matching, Bool.false_eq_true, if_false, List.take_take, pending,
    List.length_take]
  rw [Nat.min_eq_left (Nat.le_succ limit)]
  congr 2
  simp only [lt_min_iff, Nat.lt_succ_self, true_and]

theorem position_of_textPosition (table : LogTable ledger) {left right : JobLogRecord}
    (leftMember : left ∈ shownLogs jobId filters ledger)
    (rightMember : right ∈ shownLogs jobId filters ledger)
    (same : left.textPosition = right.textPosition) : left.position = right.position := by
  have leftUuid := table.uuids left.log (mem_joinedLogs (mem_shownLogs leftMember))
  have rightUuid := table.uuids right.log (mem_joinedLogs (mem_shownLogs rightMember))
  simp only [JobLogRecord.textPosition, TextCursor.position, LogCursor.toText, JobLogRecord.cursor,
    toLex_inj, Prod.mk.injEq] at same
  rcases same with ⟨attempt, sequence, id⟩
  simp only [JobLogRecord.position, LogCursor.position, JobLogRecord.cursor, attempt, sequence,
    uuidText_injective leftUuid rightUuid id]

theorem nodup_textPosition (table : LogTable ledger) :
    ((shownLogs jobId filters ledger).map JobLogRecord.textPosition).Nodup := by
  have distinct := nodup_position_shownLogs jobId filters table.ids
  apply List.Nodup.map_on _ (List.Nodup.of_map _ distinct)
  intro left leftMember right rightMember same
  exact List.inj_on_of_nodup_map distinct leftMember rightMember
    (position_of_textPosition table leftMember rightMember same)

/-- Numbers of identifiers and their texts give the same pages. -/
theorem fetchLogPage_eq_fetchJobLogs (table : LogTable ledger) {after : Option LogCursor}
    (uuids : ∀ cursor ∈ after, cursor.logId < 16 ^ 32) (tail : Bool) :
    fetchLogPage ledger jobId filters (after.map LogCursor.toText) limit tail =
      fetchJobLogs ledger jobId filters after limit tail := by
  have stored : ∀ record ∈ joinedLogs ledger, record.cursor.logId < 16 ^ 32 := fun record member =>
    table.uuids record.log (mem_joinedLogs member)
  have matching : ((joinedLogs ledger).filter fun record => filterConditions jobId filters record &&
      (after.map LogCursor.toText).all fun cursor => afterTextCondition cursor record) =
        (joinedLogs ledger).filter fun record => filterConditions jobId filters record &&
          after.all fun cursor => afterCondition cursor record := by
    apply List.filter_congr
    intro record member
    cases after with
    | none => rfl
    | some cursor =>
        have same : afterTextCondition cursor.toText record = afterCondition cursor record := by
          rw [Bool.eq_iff_iff, afterTextCondition_iff, afterCondition_iff]
          exact textPosition_lt_iff (uuids cursor rfl) (stored record member)
        simp only [Option.map_some, Option.all_some, same]
  have ordered : ∀ left ∈ joinedLogs ledger, ∀ right ∈ joinedLogs ledger,
      left.textPosition ≤ right.textPosition ↔ left.position ≤ right.position := by
    intro left leftMember right rightMember
    rw [← not_lt, ← not_lt, not_iff_not]
    exact textPosition_lt_iff (stored right rightMember) (stored left leftMember)
  have ascending : ∀ rows ⊆ joinedLogs ledger,
      (rows.insertionSort fun left right => left.textPosition ≤ right.textPosition) =
        rows.insertionSort fun left right => left.position ≤ right.position :=
    fun rows within => insertionSort_congr fun left leftMember right rightMember =>
      ordered left (within leftMember) right (within rightMember)
  have descending : ∀ rows ⊆ joinedLogs ledger,
      (rows.insertionSort fun left right => right.textPosition ≤ left.textPosition) =
        rows.insertionSort fun left right => right.position ≤ left.position :=
    fun rows within => insertionSort_congr fun left leftMember right rightMember =>
      ordered right (within rightMember) left (within leftMember)
  simp only [fetchLogPage, fetchJobLogs, matching, ascending _ (List.filter_subset_self _),
    descending _ (List.filter_subset_self _)]

theorem sortedLogs_eq_pending :
    sortedLogs ledger jobId filters =
      pending JobLogRecord.textPosition (shownLogs jobId filters ledger) none := by
  have whole : (shownLogs jobId filters ledger).filter
      (fun record => Beyond JobLogRecord.textPosition none record) =
        shownLogs jobId filters ledger := by
    rw [List.filter_eq_self]
    intro record _
    rfl
  rw [pending, whole, sortedLogs]

theorem decodeCursorOr422_encode {after : Option LogCursor}
    (numbered : ∀ cursor ∈ after, 1 ≤ cursor.attemptNumber) :
    decodeCursorOr422 (after.map fun cursor => encodeLogCursor cursor.toText) =
      some (after.map LogCursor.toText) := by
  cases after with
  | none => rfl
  | some cursor =>
      rw [Option.map_some, decodeCursorOr422, decodeLogCursor_encodeLogCursor (numbered cursor rfl)]
      rfl

def remainingLogs (ledger : Ledger) (jobId : JobId) (filters : JobLogFilters)
    (after : Option LogCursor) : List JobLogRecord :=
  pending JobLogRecord.textPosition (shownLogs jobId filters ledger)
    (after.map fun cursor => cursor.toText.position)

theorem fetchLogPage_remaining (after : Option LogCursor) :
    fetchLogPage ledger jobId filters (after.map LogCursor.toText) limit false =
      ((remainingLogs ledger jobId filters after).take limit,
        decide (limit < (remainingLogs ledger jobId filters after).length)) := by
  rw [fetchLogPage_front, Option.map_map]
  rfl

theorem remainingLogs_page (table : LogTable ledger) {after : Option LogCursor}
    {last : JobLogRecord}
    (page : ((remainingLogs ledger jobId filters after).take limit).getLast? = some last) :
    remainingLogs ledger jobId filters (some last.cursor) =
      (remainingLogs ledger jobId filters after).drop limit :=
  pending_page (nodup_textPosition table) page

theorem mem_remainingLogs {after : Option LogCursor} {record : JobLogRecord}
    (member : record ∈ remainingLogs ledger jobId filters after) :
    record ∈ shownLogs jobId filters ledger :=
  (mem_pending_iff.mp member).1

/-- The pages from a record on are all rows beyond it. -/
theorem followPages_from (table : LogTable ledger) (some_ : 0 < limit) {rounds : Nat}
    {after : Option LogCursor} (numbered : ∀ cursor ∈ after, 1 ≤ cursor.attemptNumber)
    (enough : (remainingLogs ledger jobId filters after).length < rounds) :
    followPages ledger jobId filters limit rounds
        (after.map fun cursor => encodeLogCursor cursor.toText) =
      some (remainingLogs ledger jobId filters after) := by
  induction rounds generalizing after with
  | zero => omega
  | succ rounds induction =>
      rw [followPages, decodeCursorOr422_encode numbered]
      simp only [fetchLogPage_remaining, decide_eq_true_eq]
      split
      · next more =>
          cases page : ((remainingLogs ledger jobId filters after).take limit).getLast? with
          | none =>
              have empty := congrArg List.length (List.getLast?_eq_none_iff.mp page)
              rw [List.length_take, List.length_nil] at empty
              omega
          | some last =>
              have member := mem_remainingLogs (List.mem_of_mem_take (List.mem_of_getLast? page))
              have rest := remainingLogs_page table page
              have lastNumbered : ∀ cursor ∈ some last.cursor, 1 ≤ cursor.attemptNumber := by
                rintro cursor ⟨⟩
                exact table.numbered last (mem_shownLogs member)
              have fewer :
                  (remainingLogs ledger jobId filters (some last.cursor)).length < rounds := by
                rw [rest, List.length_drop]
                omega
              have followed : followPages ledger jobId filters limit rounds
                  (some (encodeLogCursor last.cursor.toText)) =
                  some (remainingLogs ledger jobId filters (some last.cursor)) :=
                @induction (some last.cursor) lastNumbered fewer
              simp only [followed, rest, Option.map_some, List.take_append_drop]
      · rw [List.take_of_length_le (by omega)]

theorem sortedLogs_eq_remaining :
    sortedLogs ledger jobId filters = remainingLogs ledger jobId filters none :=
  sortedLogs_eq_pending

theorem perm_sortedLogs :
    (sortedLogs ledger jobId filters).Perm (shownLogs jobId filters ledger) :=
  List.perm_insertionSort _ _

/-- Sorting the other way gives the reverse, as no two rows lie at one place. -/
theorem descending_eq_reverse (table : LogTable ledger) :
    ((shownLogs jobId filters ledger).insertionSort fun left right =>
      right.textPosition ≤ left.textPosition) = (sortedLogs ledger jobId filters).reverse := by
  have ascending : (sortedLogs ledger jobId filters).Pairwise fun left right =>
      left.textPosition ≤ right.textPosition :=
    List.pairwise_insertionSort (fun left right : JobLogRecord =>
      left.textPosition ≤ right.textPosition) _
  have descending : ((shownLogs jobId filters ledger).insertionSort fun left right =>
      right.textPosition ≤ left.textPosition).Pairwise fun left right =>
        right.textPosition ≤ left.textPosition :=
    List.pairwise_insertionSort (fun left right : JobLogRecord =>
      right.textPosition ≤ left.textPosition) _
  have permuted : ((shownLogs jobId filters ledger).insertionSort fun left right =>
      right.textPosition ≤ left.textPosition).Perm (shownLogs jobId filters ledger) :=
    List.perm_insertionSort _ _
  apply List.Perm.eq_of_pairwise _ descending (List.pairwise_reverse.mpr ascending)
  · exact permuted.trans (perm_sortedLogs.symm.trans (List.reverse_perm _).symm)
  · intro left right leftMember rightMember below above
    exact List.inj_on_of_nodup_map (nodup_textPosition table) (permuted.mem_iff.mp leftMember)
      (perm_sortedLogs.mem_iff.mp (List.mem_reverse.mp rightMember)) (le_antisymm above below)

theorem fetchLogPage_tail (table : LogTable ledger) :
    fetchLogPage ledger jobId filters none limit true =
      ((sortedLogs ledger jobId filters).drop
          ((sortedLogs ledger jobId filters).length - limit),
        decide (limit < (sortedLogs ledger jobId filters).length)) := by
  have matching : ((joinedLogs ledger).filter fun record => filterConditions jobId filters record &&
      (none : Option TextCursor).all fun cursor => afterTextCondition cursor record) =
        shownLogs jobId filters ledger := by
    simp only [Option.all_none, Bool.and_true, shownLogs]
  simp only [fetchLogPage, matching, if_true, descending_eq_reverse table, List.take_take,
    List.length_take, List.length_reverse]
  rw [Nat.min_eq_left (Nat.le_succ limit), List.take_reverse, List.reverse_reverse]
  congr 2
  simp only [lt_min_iff, Nat.lt_succ_self, true_and]

end

/-- A client that follows the cursors gets the filtered rows in their order, each once. The tail
is the end of them, and every cursor is read back as it was. -/
theorem log_pages {ledger : Ledger} (table : LogTable ledger) (jobId : JobId)
    (filters : JobLogFilters) {limit : Nat} (some_ : 0 < limit) :
    (∀ rounds, (sortedLogs ledger jobId filters).length < rounds →
      followPages ledger jobId filters limit rounds none =
        some (sortedLogs ledger jobId filters)) ∧
    fetchLogPage ledger jobId filters none limit true =
      ((sortedLogs ledger jobId filters).drop
          ((sortedLogs ledger jobId filters).length - limit),
        decide (limit < (sortedLogs ledger jobId filters).length)) ∧
    ∀ record ∈ sortedLogs ledger jobId filters,
      decodeLogCursor (encodeLogCursor record.cursor.toText) = some record.cursor.toText := by
  refine ⟨?_, fetchLogPage_tail table, ?_⟩
  · intro rounds enough
    rw [sortedLogs_eq_remaining] at enough ⊢
    have start : ∀ cursor ∈ (none : Option LogCursor), 1 ≤ cursor.attemptNumber := by simp
    exact followPages_from table some_ start enough
  · intro record member
    rw [sortedLogs_eq_remaining] at member
    exact decodeLogCursor_encodeLogCursor
      (table.numbered record (mem_shownLogs (mem_remainingLogs member)))

def twoLogLedger : Ledger := { heldLedger with logs := [0, 1].map sampleLog }

theorem logTable_twoLogs : LogTable twoLogLedger where
  ids := (by decide : [0, 1].Nodup)
  uuids := by
    intro log member
    rcases List.mem_map.mp member with ⟨sequence, listed, rfl⟩
    simp only [List.mem_cons, List.not_mem_nil, or_false] at listed
    rcases listed with rfl | rfl <;> norm_num [sampleLog]
  numbered := by
    intro record member
    rw [twoLogLedger, joinedLogs_held] at member
    rcases List.mem_map.mp member with ⟨sequence, -, rfl⟩
    exact le_refl 1

theorem log_pages_twoLogs :
    (∀ rounds, (sortedLogs twoLogLedger 1 {}).length < rounds →
      followPages twoLogLedger 1 {} 1 rounds none = some (sortedLogs twoLogLedger 1 {})) ∧
    fetchLogPage twoLogLedger 1 {} none 1 true =
      ((sortedLogs twoLogLedger 1 {}).drop ((sortedLogs twoLogLedger 1 {}).length - 1),
        decide (1 < (sortedLogs twoLogLedger 1 {}).length)) ∧
    ∀ record ∈ sortedLogs twoLogLedger 1 {},
      decodeLogCursor (encodeLogCursor record.cursor.toText) = some record.cursor.toText :=
  log_pages logTable_twoLogs 1 {} (by decide)

theorem fetchLogPage_eq_fetchJobLogs_twoLogs :
    fetchLogPage twoLogLedger 1 {} (some (LogCursor.toText ⟨1, 0, 0⟩)) 1 false =
      fetchJobLogs twoLogLedger 1 {} (some ⟨1, 0, 0⟩) 1 false :=
  @fetchLogPage_eq_fetchJobLogs _ _ _ _ logTable_twoLogs (some ⟨1, 0, 0⟩) (by simp) false

end RvcOrchestrator.Manager
