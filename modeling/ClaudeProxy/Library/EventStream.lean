/-
Module: ClaudeProxy.Library.EventStream
Layer: Library
Purpose: The event streams of the HTML standard, as a client reads them: one byte at a time, with all
  three line ends, the byte order mark, comments and the fields `event`, `data` and `id`. The chunks in
  which the bytes arrive do not matter. What `writeEvent` writes is read back exactly, for every type
  and data without a line end: nothing in them ends the event or begins another.
Trusted boundary: human-reviewed specification
Main exports: ServerEvent, EventReader, EventReader.readByte, readEvents, writeEvent, OneLine,
  readEvents_flatten, readEvents_write
-/
import ClaudeProxy.Library.LineReader
import ClaudeProxy.Library.Text
import Mathlib.Data.Bool.AllAny

namespace ClaudeProxy.Library

/-! ### Reading -/

/-- An event as it is dispatched. -/
structure ServerEvent where
  type : Bytes
  data : Bytes
  lastId : Bytes
deriving DecidableEq, Repr

/-- A reader between two bytes. -/
structure EventReader where
  /-- The bytes of the line that has not ended. -/
  line : Bytes := []
  /-- A line feed right after a carriage return ends no line. -/
  afterReturn : Bool := false
  /-- A line has ended already, so that no byte order mark can follow. -/
  begun : Bool := false
  type : Bytes := []
  data : Bytes := []
  lastId : Bytes := []
  dispatched : List ServerEvent := []
deriving DecidableEq, Repr

namespace EventReader

def byteOrderMark : Bytes := [0xEF, 0xBB, 0xBF]

/-- The end of an event. Without data nothing is dispatched. -/
def dispatch (reader : EventReader) : EventReader :=
  if reader.data = [] then { reader with type := [] }
  else
    { reader with
      type := []
      data := []
      dispatched := reader.dispatched ++
        [{ type := if reader.type = [] then utf8Bytes "message" else reader.type
           data := reader.data.dropLast
           lastId := reader.lastId }] }

/-- A field with its value. The reconnection time (`retry`) is no part of an event, and unknown fields
are ignored. -/
def field (reader : EventReader) (name value : Bytes) : EventReader :=
  if name = utf8Bytes "event" then { reader with type := value }
  else if name = utf8Bytes "data" then { reader with data := reader.data ++ value ++ [10] }
  else if name = utf8Bytes "id" then
    if 0 ∈ value then reader else { reader with lastId := value }
  else reader

/-- One space after the colon belongs to the syntax. -/
def dropSpace : Bytes → Bytes
  | 0x20 :: rest => rest
  | value => value

/-- A line that has ended: the end of an event, a comment or a field. -/
def endLine (reader : EventReader) (line : Bytes) : EventReader :=
  if line = [] then reader.dispatch
  else
    match cut 0x3A line with
    | some ([], _) => reader
    | some (name, value) => reader.field name (dropSpace value)
    | none => reader.field line []

/-- The line that has ended, without the byte order mark of the stream. -/
def ended (reader : EventReader) : Bytes :=
  if reader.begun = false ∧ byteOrderMark <+: reader.line then reader.line.drop 3 else reader.line

def readByte (reader : EventReader) (byte : UInt8) : EventReader :=
  if byte = 10 ∧ reader.afterReturn = true then { reader with afterReturn := false }
  else if byte = 10 ∨ byte = 13 then
    endLine { reader with line := [], begun := true, afterReturn := byte = 13 } reader.ended
  else { reader with line := reader.line ++ [byte], afterReturn := false }

def readChunk (reader : EventReader) (chunk : Bytes) : EventReader := chunk.foldl readByte reader

end EventReader

/-- The events of a stream that arrives in chunks. One that has not ended is dropped. -/
def readEvents (chunks : List Bytes) : List ServerEvent :=
  (chunks.foldl EventReader.readChunk {}).dispatched

/-- The chunks do not matter. -/
theorem readEvents_flatten (chunks : List Bytes) :
    readEvents chunks = (EventReader.readChunk {} chunks.flatten).dispatched := by
  unfold readEvents EventReader.readChunk
  rw [List.foldl_flatten]

example : readEvents [utf8Bytes "data: a\r", utf8Bytes "\ndata:b\r\r: c\n"] =
    [{ type := utf8Bytes "message", data := utf8Bytes "a\nb", lastId := [] }] := by decide

/-! ### Writing -/

/-- Free of both line ends. -/
def OneLine (bytes : Bytes) : Prop := ∀ byte ∈ bytes, byte ≠ 10 ∧ byte ≠ 13

instance (bytes : Bytes) : Decidable (OneLine bytes) :=
  decidable_of_iff _ List.all_iff_forall_prop

theorem OneLine.append {first second : Bytes} (firstOneLine : OneLine first)
    (secondOneLine : OneLine second) : OneLine (first ++ second) := by
  intro byte member
  rcases List.mem_append.mp member with inFirst | inSecond
  · exact firstOneLine byte inFirst
  · exact secondOneLine byte inSecond

/-- A byte below 128 stands in the encoding of one character only, as that character. -/
theorem toNat_of_mem_utf8EncodeChar {symbol : Char} {byte : UInt8}
    (member : byte ∈ String.utf8EncodeChar symbol) (ascii : byte.toNat < 128) :
    byte.toNat = symbol.toNat := by
  have marked : ∀ bits mark : UInt8, 128 ≤ mark.toNat → ¬ (bits ||| mark).toNat < 128 := by
    intro bits mark high low
    rw [UInt8.toNat_or] at low
    exact Nat.not_lt_of_le (Nat.le_trans high Nat.right_le_or) low
  rcases Char.utf8Size_eq symbol with one | two | three | four
  · rw [String.utf8EncodeChar_eq_singleton one, List.mem_singleton] at member
    have small : symbol.val.toNat ≤ 127 := UInt32.le_iff_toNat_le.mp (Char.utf8Size_eq_one_iff.mp one)
    rw [member, UInt32.toNat_toUInt8, Nat.mod_eq_of_lt (by omega)]
    rfl
  · rw [String.utf8EncodeChar_eq_cons_cons two] at member
    simp only [List.mem_cons, List.not_mem_nil, or_false] at member
    rcases member with rfl | rfl
    · exact absurd ascii (marked _ _ (by decide))
    · exact absurd ascii (marked _ _ (by decide))
  · rw [String.utf8EncodeChar_eq_cons_cons_cons three] at member
    simp only [List.mem_cons, List.not_mem_nil, or_false] at member
    rcases member with rfl | rfl | rfl
    · exact absurd ascii (marked _ _ (by decide))
    · exact absurd ascii (marked _ _ (by decide))
    · exact absurd ascii (marked _ _ (by decide))
  · rw [String.utf8EncodeChar_eq_cons_cons_cons_cons four] at member
    simp only [List.mem_cons, List.not_mem_nil, or_false] at member
    rcases member with rfl | rfl | rfl | rfl
    · exact absurd ascii (marked _ _ (by decide))
    · exact absurd ascii (marked _ _ (by decide))
    · exact absurd ascii (marked _ _ (by decide))
    · exact absurd ascii (marked _ _ (by decide))

/-- A text without line ends is one line. -/
theorem oneLine_utf8Bytes {text : String}
    (clean : ∀ symbol ∈ text.toList, symbol.toNat ≠ 10 ∧ symbol.toNat ≠ 13) :
    OneLine (utf8Bytes text) := by
  intro byte member
  rw [utf8Bytes_eq_flatMap] at member
  obtain ⟨symbol, inText, inSymbol⟩ := List.mem_flatMap.mp member
  have clean := clean symbol inText
  constructor
  · rintro rfl
    exact clean.1 (toNat_of_mem_utf8EncodeChar inSymbol (by decide)).symm
  · rintro rfl
    exact clean.2 (toNat_of_mem_utf8EncodeChar inSymbol (by decide)).symm

/-- An event in two lines and the empty line that ends it. -/
def writeEvent (type data : Bytes) : Bytes :=
  utf8Bytes "event: " ++ type ++ [10] ++ (utf8Bytes "data: " ++ data ++ [10]) ++ [10]

namespace EventReader

@[simp] theorem readChunk_nil (reader : EventReader) : reader.readChunk [] = reader := rfl

theorem readChunk_append (reader : EventReader) (first second : Bytes) :
    reader.readChunk (first ++ second) = (reader.readChunk first).readChunk second :=
  List.foldl_append

/-- A reader at the beginning of a line. -/
structure Between (reader : EventReader) : Prop where
  line : reader.line = []
  afterReturn : reader.afterReturn = false

/-- The bytes of a line gather until it ends. The induction is on the bytes. -/
theorem readChunk_oneLine {reader : EventReader} {bytes : Bytes} (oneLine : OneLine bytes)
    (afterReturn : reader.afterReturn = false) :
    reader.readChunk bytes = { reader with line := reader.line ++ bytes } := by
  induction bytes generalizing reader with
  | nil => rw [List.append_nil]; rfl
  | cons byte rest inductionHypothesis =>
      obtain ⟨noEnd, restOneLine⟩ := List.forall_mem_cons.mp oneLine
      have gathered : reader.readByte byte = { reader with line := reader.line ++ [byte] } := by
        unfold readByte
        rw [if_neg (fun isEnd => noEnd.1 isEnd.1), if_neg (not_or.mpr noEnd), ← afterReturn]
      have continued : (reader.readByte byte).readChunk rest =
          { reader with line := reader.line ++ [byte] ++ rest } := by
        rw [gathered]
        exact inductionHypothesis restOneLine afterReturn
      rw [List.append_assoc] at continued
      exact continued

/-- A line that a line feed ends. -/
theorem readChunk_line {reader : EventReader} (between : reader.Between) {bytes : Bytes}
    (oneLine : OneLine bytes) (noMark : ¬ byteOrderMark <+: bytes) :
    reader.readChunk (bytes ++ [10]) = { reader with begun := true }.endLine bytes := by
  rw [readChunk_append, readChunk_oneLine oneLine between.afterReturn, between.line,
    List.nil_append]
  have sameLine : ended { reader with line := bytes } = bytes := by
    unfold ended
    rw [if_neg fun marked => noMark marked.2]
  have lineFeed : readByte { reader with line := bytes } 10 =
      endLine { reader with line := [], begun := true, afterReturn := false } bytes := by
    unfold readByte
    rw [if_neg (by simp [between.afterReturn]), if_pos (.inl rfl), sameLine]
    rfl
  refine Eq.trans lineFeed ?_
  rw [← between.line, ← between.afterReturn]

/-! ### What is written -/

/-- A reader that has read whole events only. -/
structure Idle (reader : EventReader) : Prop extends Between reader where
  type : reader.type = []
  data : reader.data = []
  lastId : reader.lastId = []

theorem endLine_field (reader : EventReader) {name : Bytes} (present : name ≠ [])
    (noColon : 0x3A ∉ name) (value : Bytes) :
    reader.endLine (name ++ [0x3A, 0x20] ++ value) = reader.field name value := by
  have split : cut 0x3A (name ++ [0x3A, 0x20] ++ value) = some (name, 0x20 :: value) := by
    rw [List.append_assoc]
    exact cut_append_delimiter noColon (0x20 :: value)
  unfold endLine
  rw [if_neg (by simp [present]), split]
  cases name with
  | nil => exact absurd rfl present
  | cons byte rest => rfl

theorem field_event (reader : EventReader) (value : Bytes) :
    reader.field (utf8Bytes "event") value = { reader with type := value } :=
  if_pos rfl

theorem field_data (reader : EventReader) (value : Bytes) :
    reader.field (utf8Bytes "data") value =
      { reader with data := reader.data ++ value ++ [10] } := by
  unfold field
  rw [if_neg (by decide), if_pos rfl]

/-- The name of a field: it is no empty line, no comment and no byte order mark. -/
structure FieldName (name : Bytes) : Prop where
  present : name ≠ []
  noColon : 0x3A ∉ name
  oneLine : OneLine name
  noMark : name.head? ≠ some 0xEF

theorem fieldName_event : FieldName (utf8Bytes "event") := by
  constructor
  · decide
  · decide
  · decide
  · decide

theorem fieldName_data : FieldName (utf8Bytes "data") := by
  constructor
  · decide
  · decide
  · decide
  · decide

/-- The line of a field, with the space after the colon. -/
theorem readChunk_field {reader : EventReader} (between : reader.Between) {name value : Bytes}
    (isName : FieldName name) (oneLine : OneLine value) :
    reader.readChunk (name ++ [0x3A, 0x20] ++ value ++ [10]) =
      { reader with begun := true }.field name value := by
  have separatorOneLine : OneLine [0x3A, 0x20] := by decide
  have wholeOneLine := (isName.oneLine.append separatorOneLine).append oneLine
  have noMark : ¬ byteOrderMark <+: name ++ [0x3A, 0x20] ++ value := by
    rintro ⟨rest, marked⟩
    have firstByte := congrArg List.head? marked
    rw [List.append_assoc, List.head?_append_of_ne_nil _ isName.present] at firstByte
    exact isName.noMark firstByte.symm
  rw [readChunk_line between wholeOneLine noMark]
  exact endLine_field _ isName.present isName.noColon value

/-- An event that is written is dispatched, and the reader is idle again. -/
theorem readChunk_writeEvent {reader : EventReader} (idle : reader.Idle) {type data : Bytes}
    (typeOneLine : OneLine type) (present : type ≠ []) (dataOneLine : OneLine data) :
    reader.readChunk (writeEvent type data) =
      { reader with
        begun := true
        dispatched := reader.dispatched ++ [{ type := type, data := data, lastId := [] }] } := by
  have typeRead : reader.readChunk (utf8Bytes "event: " ++ type ++ [10]) =
      { reader with begun := true, type := type } :=
    (readChunk_field idle.toBetween fieldName_event typeOneLine).trans (field_event _ type)
  have dataRead : readChunk { reader with begun := true, type := type }
      (utf8Bytes "data: " ++ data ++ [10]) =
        { reader with begun := true, type := type, data := data ++ [10] } := by
    have between : Between { reader with begun := true, type := type } :=
      ⟨idle.line, idle.afterReturn⟩
    have read := readChunk_field between fieldName_data dataOneLine
    rw [field_data] at read
    refine Eq.trans read ?_
    rw [idle.data, List.nil_append]
  have blankRead : readChunk { reader with begun := true, type := type, data := data ++ [10] } [10] =
      dispatch { reader with begun := true, type := type, data := data ++ [10] } := by
    have between : Between { reader with begun := true, type := type, data := data ++ [10] } :=
      ⟨idle.line, idle.afterReturn⟩
    exact readChunk_line between (List.forall_mem_nil _) (by decide)
  unfold writeEvent
  rw [readChunk_append, readChunk_append, typeRead, dataRead, blankRead]
  unfold dispatch
  rw [if_neg (by simp)]
  simp only [present, if_false, List.dropLast_concat, idle.lastId]
  rw [idle.data, idle.type]

theorem idle_readChunk_writeEvent {reader : EventReader} (idle : reader.Idle) {type data : Bytes}
    (typeOneLine : OneLine type) (present : type ≠ []) (dataOneLine : OneLine data) :
    (reader.readChunk (writeEvent type data)).Idle := by
  rw [readChunk_writeEvent idle typeOneLine present dataOneLine]
  exact ⟨⟨idle.line, idle.afterReturn⟩, idle.type, idle.data, idle.lastId⟩

/-- All events that are written are dispatched in their order. -/
theorem dispatched_writeEvents {reader : EventReader} (idle : reader.Idle)
    {events : List (Bytes × Bytes)}
    (clean : ∀ event ∈ events, OneLine event.1 ∧ event.1 ≠ [] ∧ OneLine event.2) :
    (reader.readChunk (events.flatMap fun event => writeEvent event.1 event.2)).dispatched =
      reader.dispatched ++
        events.map fun event => { type := event.1, data := event.2, lastId := [] } := by
  induction events generalizing reader with
  | nil => simp
  | cons event rest inductionHypothesis =>
      obtain ⟨⟨typeOneLine, present, dataOneLine⟩, cleanRest⟩ := List.forall_mem_cons.mp clean
      have stillIdle := idle_readChunk_writeEvent idle typeOneLine present dataOneLine
      rw [List.flatMap_cons, readChunk_append, inductionHypothesis stillIdle cleanRest,
        readChunk_writeEvent idle typeOneLine present dataOneLine, List.append_assoc]
      rfl

end EventReader

/-- What is written is read back, however it is cut into chunks. -/
theorem readEvents_write {events : List (Bytes × Bytes)} {chunks : List Bytes}
    (sent : chunks.flatten = events.flatMap fun event => writeEvent event.1 event.2)
    (clean : ∀ event ∈ events, OneLine event.1 ∧ event.1 ≠ [] ∧ OneLine event.2) :
    readEvents chunks =
      events.map fun event => { type := event.1, data := event.2, lastId := [] } := by
  have idle : EventReader.Idle {} := ⟨⟨rfl, rfl⟩, rfl, rfl, rfl⟩
  rw [readEvents_flatten, sent, EventReader.dispatched_writeEvents idle clean]
  rfl

end ClaudeProxy.Library
