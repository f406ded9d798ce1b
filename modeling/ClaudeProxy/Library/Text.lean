/-
Module: ClaudeProxy.Library.Text
Layer: Library
Purpose: The string functions of the Rust standard library that the code relies on, over Lean's
  `String`: decoding bytes as UTF-8, stripping a prefix and trimming Unicode white space, with the
  facts about a trailing carriage return that line-based formats need.
Trusted boundary: none
Main exports: fromUtf8, stripPrefix, isWhitespace, trim, trim_trim, fromUtf8_append_carriageReturn
-/
import Mathlib.Data.List.DropRight
import Mathlib.Data.List.Infix

namespace ClaudeProxy.Library

abbrev Bytes := List UInt8

/-- `str::from_utf8`: the text the bytes encode, if they are valid UTF-8. -/
def fromUtf8 (bytes : Bytes) : Option String :=
  String.fromUTF8? ⟨bytes.toArray⟩

/-- The bytes of a text. -/
def utf8Bytes (text : String) : Bytes :=
  text.toByteArray.data.toList

/-- `str::strip_prefix`. -/
def stripPrefix (expected text : String) : Option String :=
  if expected.toList.isPrefixOf text.toList then
    some (String.ofList (text.toList.drop expected.length))
  else none

/-- `char::is_whitespace`: the Unicode property White_Space. -/
def isWhitespace (symbol : Char) : Bool :=
  let code := symbol.toNat
  (9 ≤ code && code ≤ 13) || code == 0x20 || code == 0x85 || code == 0xA0 || code == 0x1680 ||
    (0x2000 ≤ code && code ≤ 0x200A) || code == 0x2028 || code == 0x2029 || code == 0x202F ||
    code == 0x205F || code == 0x3000

/-- `str::trim`. -/
def trim (text : String) : String :=
  String.ofList ((text.toList.dropWhile isWhitespace).rdropWhile isWhitespace)

theorem fromUtf8_eq_some {bytes : Bytes} {text : String} :
    fromUtf8 bytes = some text ↔ bytes = utf8Bytes text := by
  unfold fromUtf8 utf8Bytes String.fromUTF8?
  constructor
  · intro decoded
    split at decoded
    · cases decoded; rfl
    · cases decoded
  · rintro rfl
    have valid : ByteArray.IsValidUTF8 ⟨text.toByteArray.data.toList.toArray⟩ := text.isValidUTF8
    rw [dif_pos valid]
    rfl

@[simp] theorem fromUtf8_utf8Bytes (text : String) : fromUtf8 (utf8Bytes text) = some text :=
  fromUtf8_eq_some.mpr rfl

theorem utf8Bytes_append (first second : String) :
    utf8Bytes (first ++ second) = utf8Bytes first ++ utf8Bytes second := by
  simp [utf8Bytes]

theorem utf8Bytes_eq_flatMap (text : String) :
    utf8Bytes text = text.toList.flatMap String.utf8EncodeChar := by
  unfold utf8Bytes
  rw [← String.utf8Encode_toList, List.utf8Encode]
  simp

/-- Only the character carriage return has 13 as the last byte of its encoding: every later byte of
a longer encoding is a continuation byte. -/
theorem utf8EncodeChar_getLast_carriageReturn {symbol : Char} {front : Bytes}
    (encoded : String.utf8EncodeChar symbol = front ++ [13]) : front = [] := by
  have inside : front.length < (String.utf8EncodeChar symbol).length := by
    rw [encoded]; simp
  have last : (String.utf8EncodeChar symbol)[front.length] = 13 := by
    simp [encoded]
  have isFirst : ((String.utf8EncodeChar symbol)[front.length]).IsUTF8FirstByte := by
    rw [last]; decide
  exact List.length_eq_zero_iff.mp (UInt8.isUTF8FirstByte_getElem_utf8EncodeChar.mp isFirst)

/-- A carriage return after some bytes decodes with them or not at all. -/
theorem fromUtf8_append_carriageReturn (bytes : Bytes) :
    fromUtf8 (bytes ++ [13]) = (fromUtf8 bytes).map (· ++ "\r") := by
  cases decoded : fromUtf8 bytes with
  | some text =>
      rw [fromUtf8_eq_some] at decoded
      subst decoded
      rw [Option.map_some, fromUtf8_eq_some, utf8Bytes_append]
      rfl
  | none =>
      rw [Option.map_none, Option.eq_none_iff_forall_ne_some]
      intro text whole
      rw [fromUtf8_eq_some, utf8Bytes_eq_flatMap] at whole
      rcases List.eq_nil_or_concat' text.toList with empty | ⟨front, symbol, textEq⟩
      · simp [empty] at whole
      · rw [textEq, List.flatMap_append, List.flatMap_singleton] at whole
        rcases List.eq_nil_or_concat' (String.utf8EncodeChar symbol) with none | ⟨head, byte, symbolEq⟩
        · exact String.utf8EncodeChar_ne_nil none
        · rw [symbolEq, ← List.append_assoc] at whole
          obtain ⟨bytesEq, byteEq⟩ := List.append_inj' whole rfl
          obtain rfl : byte = 13 := by simpa using byteEq.symm
          obtain rfl := utf8EncodeChar_getLast_carriageReturn symbolEq
          have partly : fromUtf8 bytes = some (String.ofList front) := by
            rw [fromUtf8_eq_some, bytesEq, utf8Bytes_eq_flatMap]
            simp
          rw [decoded] at partly
          cases partly

theorem mem_of_mem_trim {text : String} {symbol : Char} (member : symbol ∈ (trim text).toList) :
    symbol ∈ text.toList := by
  rw [trim, String.toList_ofList] at member
  have rest := (List.rdropWhile_prefix isWhitespace _).subset member
  exact (List.dropWhile_sublist isWhitespace).subset rest

/-- Trimming twice is trimming once. -/
theorem trim_trim (text : String) : trim (trim text) = trim text := by
  have front (symbols : List Char) :
      ((symbols.dropWhile isWhitespace).rdropWhile isWhitespace).dropWhile isWhitespace =
        (symbols.dropWhile isWhitespace).rdropWhile isWhitespace := by
    obtain ⟨tail, tailEq⟩ := List.rdropWhile_prefix isWhitespace (symbols.dropWhile isWhitespace)
    cases kept : (symbols.dropWhile isWhitespace).rdropWhile isWhitespace with
    | nil => rfl
    | cons head rest =>
        rw [kept, List.cons_append] at tailEq
        have visible : ¬ isWhitespace head = true := by
          have idempotent := @List.dropWhile_idempotent _ isWhitespace symbols
          rw [← tailEq] at idempotent
          intro white
          rw [List.dropWhile_cons_of_pos white] at idempotent
          have shorter := (List.dropWhile_sublist isWhitespace (l := rest ++ tail)).length_le
          rw [idempotent, List.length_cons] at shorter
          omega
        rw [List.dropWhile_cons_of_neg visible]
  rw [trim, trim, String.toList_ofList, front, List.rdropWhile_idempotent]

/-- A text that neither starts nor ends with white space is trimmed already. -/
theorem trim_of_visible {text : String} (first : text.toList.head?.any isWhitespace = false)
    (last : text.toList.getLast?.any isWhitespace = false) : trim text = text := by
  have front : text.toList.dropWhile isWhitespace = text.toList := by
    cases symbols : text.toList with
    | nil => rfl
    | cons symbol rest =>
        rw [symbols] at first
        exact List.dropWhile_cons_of_neg (by simpa using first)
  have back : text.toList.rdropWhile isWhitespace = text.toList := by
    rw [List.rdropWhile_eq_self_iff]
    intro present white
    rw [List.getLast?_eq_some_getLast present] at last
    simp [white] at last
  unfold trim
  rw [front, back, String.ofList_toList]

/-- Trimming removes a leading space. -/
theorem trim_space (text : String) : trim (" " ++ text) = trim text := by
  have white : isWhitespace ' ' = true := by decide
  unfold trim
  rw [String.toList_append, show " ".toList = [' '] from rfl, List.singleton_append,
    List.dropWhile_cons_of_pos white]

/-- Trimming removes a trailing carriage return. -/
theorem trim_append_carriageReturn (text : String) : trim (text ++ "\r") = trim text := by
  have white : isWhitespace '\r' = true := by decide
  unfold trim
  congr 1
  rw [String.toList_append, show "\r".toList = ['\r'] from rfl, List.dropWhile_append]
  split
  · next allWhite =>
      rw [List.isEmpty_iff.mp allWhite]
      simp [white]
  · rw [List.rdropWhile_concat_pos _ _ _ white]

theorem stripPrefix_append (expected text : String) :
    stripPrefix expected (expected ++ text) = some text := by
  unfold stripPrefix
  rw [String.toList_append, if_pos (List.isPrefixOf_iff_prefix.mpr (List.prefix_append _ _)),
    ← String.length_toList, List.drop_left, String.ofList_toList]

/-- A trailing carriage return does not change whether a text has a prefix free of it. -/
theorem stripPrefix_append_carriageReturn {expected : String} (clean : '\r' ∉ expected.toList)
    (text : String) :
    stripPrefix expected (text ++ "\r") = (stripPrefix expected text).map (· ++ "\r") := by
  unfold stripPrefix
  rw [String.toList_append, show "\r".toList = ['\r'] from rfl]
  by_cases starts : expected.toList <+: text.toList
  · have longer : expected.toList <+: text.toList ++ ['\r'] := starts.trans (List.prefix_append _ _)
    rw [if_pos (List.isPrefixOf_iff_prefix.mpr starts), if_pos (List.isPrefixOf_iff_prefix.mpr longer)]
    have short : expected.length ≤ text.toList.length := starts.length_le
    simp only [Option.map_some, Option.some.injEq]
    rw [List.drop_append_of_le_length short, String.ofList_append]
  · have notLonger : ¬ expected.toList <+: text.toList ++ ['\r'] := by
      intro longer
      rcases List.prefix_concat_iff.mp longer with same | before
      · exact clean (by rw [same]; simp)
      · exact starts before
    rw [if_neg (mt List.isPrefixOf_iff_prefix.mp starts),
      if_neg (mt List.isPrefixOf_iff_prefix.mp notLonger), Option.map_none]

/-! ### Concatenation -/

theorem join_foldl (start : String) (parts : List String) :
    parts.foldl (fun held part => held ++ part) start = start ++ String.join parts := by
  unfold String.join
  induction parts generalizing start with
  | nil => simp
  | cons part rest inductionHypothesis =>
      rw [List.foldl_cons, List.foldl_cons, inductionHypothesis, inductionHypothesis ("" ++ part),
        String.empty_append, String.append_assoc]

@[simp] theorem join_nil : String.join [] = "" := rfl

@[simp] theorem join_cons (part : String) (rest : List String) :
    String.join (part :: rest) = part ++ String.join rest := by
  have folded := join_foldl ("" ++ part) rest
  rw [String.empty_append] at folded
  exact folded

@[simp] theorem join_append (first second : List String) :
    String.join (first ++ second) = String.join first ++ String.join second := by
  induction first with
  | nil => simp
  | cons part rest inductionHypothesis =>
      rw [List.cons_append, join_cons, join_cons, inductionHypothesis, String.append_assoc]

theorem append_eq_empty {first second : String} :
    first ++ second = "" ↔ first = "" ∧ second = "" := by
  rw [← String.toList_eq_nil_iff, String.toList_append, List.append_eq_nil_iff,
    String.toList_eq_nil_iff, String.toList_eq_nil_iff]

/-- A concatenation is empty when every part of it is. -/
theorem join_eq_empty {parts : List String} :
    String.join parts = "" ↔ ∀ part ∈ parts, part = "" := by
  induction parts with
  | nil => simp
  | cons part rest inductionHypothesis =>
      rw [join_cons, append_eq_empty, inductionHypothesis, List.forall_mem_cons]

/-- Empty parts do not count. -/
theorem join_filter_nonempty (parts : List String) :
    String.join (parts.filter (· ≠ "")) = String.join parts := by
  induction parts with
  | nil => rfl
  | cons part rest inductionHypothesis =>
      by_cases empty : part = ""
      · subst empty
        rw [List.filter_cons_of_neg (by simp), inductionHypothesis, join_cons, String.empty_append]
      · rw [List.filter_cons_of_pos (by simpa using empty), join_cons, join_cons,
          inductionHypothesis]

end ClaudeProxy.Library
