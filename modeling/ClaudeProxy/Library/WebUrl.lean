/-
Module: ClaudeProxy.Library.WebUrl
Layer: Library
Purpose: The URL parser of the WHATWG standard, for the schemes `http` and `https`: what it strips from
  its input, where the authority, the path and the query begin and end, how dot segments are resolved
  and what is percent-encoded. The authority (credentials, host and port) is read by a parameter.
  Appending a segment to the input appends it to the path, as long as no query or fragment has begun.
Trusted boundary: human-reviewed specification
Main exports: AuthorityParser, WebUrl, readUrl, visible, stripped, directory, readPath, pathText,
  readPath_slash, readPath_slashes, trimmed_pathText_iff, HierParts.readHier_eq, readUrl_eq
-/
import Mathlib.Data.Bool.AllAny
import Mathlib.Data.List.DropRight
import Mathlib.Data.List.TakeWhile

namespace ClaudeProxy.Library

/-! ### Characters -/

/-- A C0 control or a space. -/
def isControlOrSpace (symbol : Char) : Bool := symbol.toNat ≤ 0x20

def isTabOrNewline (symbol : Char) : Bool := symbol = '\t' || symbol = '\n' || symbol = '\r'

/-- A backslash separates like a slash in the special schemes. -/
def isSlash (symbol : Char) : Bool := symbol = '/' || symbol = '\\'

/-- What ends the authority and the path. -/
def isMark (symbol : Char) : Bool := symbol = '?' || symbol = '#'

/-- Without tabs and newlines. -/
def visible (symbols : List Char) : List Char := symbols.filter fun symbol => !isTabOrNewline symbol

/-- What is left of an input. -/
def stripped (symbols : List Char) : List Char :=
  visible ((symbols.dropWhile isControlOrSpace).rdropWhile isControlOrSpace)

/-! ### Percent-encoding -/

def hexDigit (digit : Nat) : Char := Char.ofNat (if digit < 10 then 0x30 + digit else 0x37 + digit)

def percentByte (byte : UInt8) : List Char :=
  ['%', hexDigit (byte.toNat / 16), hexDigit (byte.toNat % 16)]

def percentEncode (isEncoded : Char → Bool) (symbol : Char) : List Char :=
  if isEncoded symbol = true then (String.utf8EncodeChar symbol).flatMap percentByte else [symbol]

def inControlSet (symbol : Char) : Bool := symbol.toNat < 0x20 || 0x7E < symbol.toNat

/-- The path percent-encode set. -/
def inPathSet (symbol : Char) : Bool :=
  inControlSet symbol ||
    [0x20, 0x22, 0x23, 0x3C, 0x3E, 0x3F, 0x5E, 0x60, 0x7B, 0x7D].contains symbol.toNat

/-- The special-query percent-encode set. -/
def inQuerySet (symbol : Char) : Bool :=
  inControlSet symbol || [0x20, 0x22, 0x23, 0x27, 0x3C, 0x3E].contains symbol.toNat

/-! ### Paths -/

def isSingleDot (segment : List Char) : Bool :=
  [".", "%2e"].contains (String.ofList (segment.map Char.toLower))

def isDoubleDot (segment : List Char) : Bool :=
  ["..", ".%2e", "%2e.", "%2e%2e"].contains (String.ofList (segment.map Char.toLower))

def encodeSegment (segment : List Char) : List Char := segment.flatMap (percentEncode inPathSet)

/-- A segment that a separator ends. -/
def walk (path : List (List Char)) (segment : List Char) : List (List Char) :=
  if isDoubleDot segment = true then path.dropLast
  else if isSingleDot segment = true then path
  else path ++ [encodeSegment segment]

/-- The last segment. A dot segment leaves an empty one in its place. -/
def walkLast (path : List (List Char)) (segment : List Char) : List (List Char) :=
  if isDoubleDot segment = true then path.dropLast ++ [[]]
  else if isSingleDot segment = true then path ++ [[]]
  else path ++ [encodeSegment segment]

/-- The segments of a text that is empty or begins with a separator. -/
def rawSegments (text : List Char) : List (List Char) := (text.splitOnP isSlash).tail

/-- The path of a text that goes on after a separator. -/
def directory (text : List Char) : List (List Char) := (rawSegments text).foldl walk []

/-- The path of a text that ends. -/
def readPath (text : List Char) : List (List Char) :=
  match (rawSegments text).getLast? with
  | none => [[]]
  | some last => walkLast ((rawSegments text).dropLast.foldl walk []) last

/-- A path as it is written. -/
def pathText (path : List (List Char)) : List Char := path.flatMap fun segment => '/' :: segment

/-! ### URLs -/

structure Authority where
  username : String
  password : Option String
  host : String
  port : Option Nat
deriving DecidableEq, Repr

/-- A parser of authorities. There must be a host, and neither a host nor a port ends in a control or
a space. -/
structure AuthorityParser where
  parse : String → List Char → Option Authority
  present : ∀ scheme, parse scheme [] = none
  noTrailing : ∀ scheme text symbol, text.getLast? = some symbol →
    isControlOrSpace symbol = true → parse scheme text = none

structure WebUrl where
  scheme : String
  authority : Authority
  path : List (List Char)
  query : Option (List Char)
deriving DecidableEq, Repr

/-- The authority in what follows the scheme. Any number of slashes may precede it. -/
def hierName (text : List Char) : List Char :=
  (text.dropWhile isSlash).takeWhile fun symbol => !isSlash symbol

/-- What follows the authority. -/
def hierPath (text : List Char) : List Char :=
  (text.dropWhile isSlash).dropWhile fun symbol => !isSlash symbol

/-- What follows the scheme, up to a query or a fragment. -/
def readHier (authorities : AuthorityParser) (scheme : String) (text : List Char) :
    Option (Authority × List (List Char)) :=
  (authorities.parse scheme (hierName text)).map fun authority =>
    (authority, readPath (hierPath text))

def readQuery : List Char → Option (List Char)
  | '?' :: text => some ((text.takeWhile (· ≠ '#')).flatMap (percentEncode inQuerySet))
  | _ => none

/-- What follows the colon of the scheme. -/
def readRest (authorities : AuthorityParser) (scheme : String) (text : List Char) : Option WebUrl :=
  (readHier authorities scheme (text.takeWhile fun symbol => !isMark symbol)).map fun parts =>
    { scheme := scheme
      authority := parts.1
      path := parts.2
      query := readQuery (text.dropWhile fun symbol => !isMark symbol) }

/-- The URL of an input, if its scheme is one of the two. -/
def readUrl (authorities : AuthorityParser) (input : List Char) : Option WebUrl :=
  let symbols := stripped input
  let scheme := String.ofList ((symbols.takeWhile (· ≠ ':')).map Char.toLower)
  match symbols.dropWhile (· ≠ ':') with
  | [] => none
  | _ :: rest =>
      if scheme = "http" ∨ scheme = "https" then readRest authorities scheme rest else none

/-! ### Segments -/

section Segments

variable {text more : List Char} {path : List (List Char)}

theorem rawSegments_slash (text : List Char) (clean : ∀ symbol ∈ more, isSlash symbol = false) :
    rawSegments (text ++ '/' :: more) = rawSegments text ++ [more] := by
  unfold rawSegments
  rw [List.splitOnP_append_cons text more rfl, List.splitOnP_eq_singleton clean,
    List.tail_append_of_ne_nil (List.splitOnP_ne_nil isSlash text)]

theorem directory_slash (text : List Char) (clean : ∀ symbol ∈ more, isSlash symbol = false) :
    directory (text ++ '/' :: more) = walk (directory text) more := by
  unfold directory
  rw [rawSegments_slash text clean, List.foldl_append]
  rfl

theorem readPath_slash (text : List Char) (clean : ∀ symbol ∈ more, isSlash symbol = false) :
    readPath (text ++ '/' :: more) = walkLast (directory text) more := by
  unfold readPath directory
  rw [rawSegments_slash text clean, List.getLast?_concat, List.dropLast_concat]

theorem readPath_eq_walkLast {front : List (List Char)} {last : List Char}
    (raw : rawSegments text = front ++ [last]) :
    readPath text = walkLast (front.foldl walk []) last := by
  unfold readPath
  rw [raw, List.getLast?_concat, List.dropLast_concat]

theorem directory_slashes (text : List Char) (count : Nat) :
    directory (text ++ List.replicate count '/') = directory text ++ List.replicate count [] := by
  induction count with
  | zero => simp
  | succ count inductionHypothesis =>
      rw [List.replicate_succ', List.replicate_succ', ← List.append_assoc, ← List.append_assoc,
        directory_slash _ (List.forall_mem_nil _), inductionHypothesis]
      rfl

/-- The end of a path adds nothing to the directory but empty segments. -/
theorem readPath_slashes (text : List Char) (count : Nat) :
    ∃ empty, readPath (text ++ List.replicate count '/') =
      directory text ++ List.replicate empty [] := by
  cases count with
  | zero =>
      rw [List.replicate_zero, List.append_nil]
      rcases List.eq_nil_or_concat' (rawSegments text) with none | ⟨front, last, raw⟩
      · refine ⟨1, ?_⟩
        unfold readPath directory
        rw [none]
        rfl
      · rw [readPath_eq_walkLast raw]
        unfold directory
        rw [raw, List.foldl_append, List.foldl_cons, List.foldl_nil]
        generalize front.foldl walk [] = path
        unfold walkLast walk
        split
        · exact ⟨1, rfl⟩
        · split
          · exact ⟨1, rfl⟩
          · exact ⟨0, (List.append_nil _).symm⟩
  | succ count =>
      refine ⟨count + 1, ?_⟩
      rw [List.replicate_succ', List.replicate_succ', ← List.append_assoc, ← List.append_assoc,
        readPath_slash _ (List.forall_mem_nil _), directory_slashes]
      rfl

/-- Symbols that are no separators lengthen the last segment. The induction is on the text. -/
theorem splitOnP_append_clean (text : List Char) (clean : ∀ symbol ∈ more, isSlash symbol = false) :
    ∃ front last, text.splitOnP isSlash = front ++ [last] ∧
      (text ++ more).splitOnP isSlash = front ++ [last ++ more] := by
  induction text with
  | nil => exact ⟨[], [], rfl, List.splitOnP_eq_singleton clean⟩
  | cons symbol rest inductionHypothesis =>
      obtain ⟨front, last, before, after⟩ := inductionHypothesis
      rw [List.cons_append, List.splitOnP_cons_eq_if_modifyHead, List.splitOnP_cons_eq_if_modifyHead,
        before, after]
      by_cases separates : isSlash symbol = true
      · rw [if_pos separates, if_pos separates]
        exact ⟨[] :: front, last, rfl, rfl⟩
      · rw [if_neg separates, if_neg separates]
        cases front with
        | nil => exact ⟨[], symbol :: last, rfl, rfl⟩
        | cons first others => exact ⟨(symbol :: first) :: others, last, rfl, rfl⟩

theorem rawSegments_append_clean (clean : ∀ symbol ∈ more, isSlash symbol = false)
    (present : rawSegments text ≠ []) :
    ∃ front last, rawSegments text = front ++ [last] ∧
      rawSegments (text ++ more) = front ++ [last ++ more] := by
  obtain ⟨front, last, before, after⟩ := splitOnP_append_clean text clean
  unfold rawSegments at present ⊢
  rw [before, after]
  rw [before] at present
  cases front with
  | nil => exact absurd rfl present
  | cons first others => exact ⟨others, last, rfl, rfl⟩

/-- No segment holds a separator. -/
theorem mem_splitOnP_clean (text : List Char) :
    ∀ segment ∈ text.splitOnP isSlash, '/' ∉ segment := by
  induction text with
  | nil => simp
  | cons symbol rest inductionHypothesis =>
      rw [List.splitOnP_cons_eq_if_modifyHead]
      split
      · intro segment member
        cases List.mem_cons.mp member with
        | inl here => simp [here]
        | inr later => exact inductionHypothesis segment later
      · rename_i kept
        have noSlash : '/' ≠ symbol := by
          rintro rfl
          exact kept rfl
        cases split : rest.splitOnP isSlash with
        | nil => exact List.forall_mem_nil _
        | cons first others =>
            rw [split, List.forall_mem_cons] at inductionHypothesis
            rw [List.modifyHead_cons, List.forall_mem_cons]
            exact ⟨by simp [noSlash, inductionHypothesis.1], inductionHypothesis.2⟩

theorem hexDigit_ne_slash : ∀ digit < 16, hexDigit digit ≠ '/' := by decide

theorem percentEncode_noSlash (isEncoded : Char → Bool) {symbol : Char} (noSlash : symbol ≠ '/') :
    '/' ∉ percentEncode isEncoded symbol := by
  unfold percentEncode
  split
  · intro member
    obtain ⟨byte, -, inByte⟩ := List.mem_flatMap.mp member
    have high := hexDigit_ne_slash (byte.toNat / 16) (by have := byte.toNat_lt; omega)
    have low := hexDigit_ne_slash (byte.toNat % 16) (by omega)
    unfold percentByte at inByte
    simp only [List.mem_cons, List.not_mem_nil, or_false] at inByte
    rcases inByte with percent | inHigh | inLow
    · exact absurd percent (by decide)
    · exact high inHigh.symm
    · exact low inLow.symm
  · intro member
    exact noSlash (List.mem_singleton.mp member).symm

theorem encodeSegment_noSlash {segment : List Char} (noSlash : '/' ∉ segment) :
    '/' ∉ encodeSegment segment := by
  intro member
  obtain ⟨symbol, inSegment, inEncoded⟩ := List.mem_flatMap.mp member
  have different : symbol ≠ '/' := by
    rintro rfl
    exact noSlash inSegment
  exact percentEncode_noSlash inPathSet different inEncoded

theorem walk_noSlash {segment : List Char} (clean : ∀ held ∈ path, '/' ∉ held)
    (noSlash : '/' ∉ segment) : ∀ held ∈ walk path segment, '/' ∉ held := by
  unfold walk
  split
  · intro held member
    exact clean held ((List.dropLast_sublist path).subset member)
  · split
    · exact clean
    · intro held member
      rcases List.mem_append.mp member with before | last
      · exact clean held before
      · rw [List.mem_singleton.mp last]
        exact encodeSegment_noSlash noSlash

theorem directory_noSlash (text : List Char) : ∀ held ∈ directory text, '/' ∉ held := by
  have walked : ∀ (segments path : List (List Char)), (∀ segment ∈ segments, '/' ∉ segment) →
      (∀ held ∈ path, '/' ∉ held) → ∀ held ∈ segments.foldl walk path, '/' ∉ held := by
    intro segments
    induction segments with
    | nil => intro path _ clean; exact clean
    | cons segment rest inductionHypothesis =>
        intro path noSlash clean
        rw [List.forall_mem_cons] at noSlash
        exact inductionHypothesis _ noSlash.2 (walk_noSlash clean noSlash.1)
  apply walked
  · intro segment member
    exact mem_splitOnP_clean text segment (List.mem_of_mem_tail member)
  · exact List.forall_mem_nil _

/-! ### Written paths -/

/-- Without the slashes at its end. -/
def trimmed (text : List Char) : List Char := text.rdropWhile (· = '/')

theorem pathText_append (first second : List (List Char)) :
    pathText (first ++ second) = pathText first ++ pathText second := List.flatMap_append

theorem pathText_empty (count : Nat) :
    pathText (List.replicate count []) = List.replicate count '/' := by
  induction count with
  | zero => rfl
  | succ count inductionHypothesis =>
      rw [List.replicate_succ, List.replicate_succ, ← inductionHypothesis]
      rfl

theorem trimmed_append_slashes (text : List Char) (count : Nat) :
    trimmed (text ++ List.replicate count '/') = trimmed text := by
  induction count with
  | zero => rw [List.replicate_zero, List.append_nil]
  | succ count inductionHypothesis =>
      rw [List.replicate_succ', ← List.append_assoc]
      unfold trimmed
      rw [List.rdropWhile_concat_pos _ _ _ (by decide)]
      exact inductionHypothesis

/-- Nothing is trimmed off a path that does not end in an empty segment. -/
theorem trimmed_pathText_iff (clean : ∀ segment ∈ path, '/' ∉ segment) :
    trimmed (pathText path) = pathText path ↔ path.getLast? ≠ some [] := by
  rcases List.eq_nil_or_concat' path with rfl | ⟨front, last, rfl⟩
  · simp [trimmed, pathText]
  · rw [List.getLast?_concat, pathText_append]
    rcases List.eq_nil_or_concat' last with rfl | ⟨symbols, symbol, rfl⟩
    · constructor
      · intro same
        have shorter : (trimmed (pathText front)).length ≤ (pathText front).length :=
          (List.rdropWhile_prefix _ _).length_le
        have oneSlash : trimmed (pathText front ++ pathText [[]]) = trimmed (pathText front) :=
          trimmed_append_slashes (pathText front) 1
        have lengths := congrArg List.length (oneSlash.symm.trans same)
        rw [List.length_append] at lengths
        have one : (pathText [[]]).length = 1 := rfl
        omega
      · intro notEmpty
        exact absurd rfl notEmpty
    · have inPath : symbols ++ [symbol] ∈ front ++ [symbols ++ [symbol]] :=
        List.mem_append_right _ List.mem_cons_self
      have different : symbol ≠ '/' := by
        rintro rfl
        exact clean _ inPath (List.mem_append_right _ List.mem_cons_self)
      have ends : pathText front ++ pathText [symbols ++ [symbol]] =
          (pathText front ++ '/' :: symbols) ++ [symbol] := by
        simp [pathText]
      unfold trimmed
      rw [ends, List.rdropWhile_concat_neg _ _ _ (by simpa using different)]
      simp

theorem rawSegments_ne_nil (begins : ∀ symbol, text.head? = some symbol → isSlash symbol = true)
    (present : text ≠ []) : rawSegments text ≠ [] := by
  cases text with
  | nil => exact absurd rfl present
  | cons symbol rest =>
      unfold rawSegments
      rw [List.splitOnP_cons_eq_if_modifyHead, if_pos (begins symbol rfl)]
      exact List.splitOnP_ne_nil isSlash rest

theorem toLower_of_isControlOrSpace {symbol : Char} (isControl : isControlOrSpace symbol = true) :
    symbol.toLower = symbol := by
  have small : symbol.val.toNat ≤ 0x20 := by simpa [isControlOrSpace] using isControl
  have notUpper : ¬ ('A'.val ≤ symbol.val ∧ symbol.val ≤ 'Z'.val) := by
    rintro ⟨above, -⟩
    have start : 'A'.val.toNat ≤ symbol.val.toNat := UInt32.le_iff_toNat_le.mp above
    have code : 'A'.val.toNat = 65 := rfl
    omega
  unfold Char.toLower
  rw [dif_neg notUpper]

/-- A segment with a control or a space is no dot segment. -/
theorem not_dot_of_mem {segment : List Char} {symbol : Char} (member : symbol ∈ segment)
    (isControl : isControlOrSpace symbol = true) :
    isDoubleDot segment = false ∧ isSingleDot segment = false := by
  have inLower : symbol ∈ segment.map Char.toLower := by
    rw [← toLower_of_isControlOrSpace isControl]
    exact List.mem_map_of_mem member
  have different : ∀ dots : String, dots.toList.any isControlOrSpace = false →
      String.ofList (segment.map Char.toLower) ≠ dots := by
    rintro dots visible rfl
    rw [String.toList_ofList] at visible
    exact List.any_eq_false.mp visible symbol inLower isControl
  constructor
  · simp [isDoubleDot, different ".." rfl, different ".%2e" rfl, different "%2e." rfl,
      different "%2e%2e" rfl]
  · simp [isSingleDot, different "." rfl, different "%2e" rfl]

theorem length_pathText_dropLast_le (path : List (List Char)) :
    (pathText path.dropLast).length ≤ (pathText path).length := by
  rcases List.eq_nil_or_concat' path with rfl | ⟨front, last, rfl⟩
  · exact Nat.le_refl _
  · rw [List.dropLast_concat, pathText_append, List.length_append]
    omega

/-- The last segment adds at most itself. -/
theorem length_walkLast_le (path : List (List Char)) (segment : List Char) :
    (pathText (walkLast path segment)).length ≤
      (pathText path).length + (encodeSegment segment).length + 1 := by
  have shorter := length_pathText_dropLast_le path
  have one : (pathText [[]]).length = 1 := rfl
  unfold walkLast
  split
  · rw [pathText_append, List.length_append, one]
    omega
  · split
    · rw [pathText_append, List.length_append, one]
      omega
    · rw [pathText_append, List.length_append]
      simp only [pathText, List.flatMap_cons, List.flatMap_nil, List.append_nil, List.length_cons]
      omega

theorem percentEncode_ne_nil (isEncoded : Char → Bool) (symbol : Char) :
    percentEncode isEncoded symbol ≠ [] := by
  unfold percentEncode
  split
  · cases bytes : String.utf8EncodeChar symbol with
    | nil => exact absurd bytes String.utf8EncodeChar_ne_nil
    | cons byte rest => simp [percentByte]
  · simp

theorem encodeSegment_append (first second : List Char) :
    encodeSegment (first ++ second) = encodeSegment first ++ encodeSegment second :=
  List.flatMap_append

theorem encodeSegment_ne_nil {segment : List Char} (present : segment ≠ []) :
    encodeSegment segment ≠ [] := by
  cases segment with
  | nil => exact absurd rfl present
  | cons symbol rest => simp [encodeSegment, percentEncode_ne_nil]

end Segments

/-! ### What is stripped -/

section Stripped

variable {input head text : List Char}

/-- Stripping stops at a symbol that stays. -/
theorem rdropWhile_append_of_getLast {stays : Char → Bool} {last : Char}
    (ends : head.getLast? = some last) (kept : ¬ stays last = true) (text : List Char) :
    (head ++ text).rdropWhile stays = head ++ text.rdropWhile stays := by
  induction text using List.reverseRecOn with
  | nil =>
      obtain ⟨front, rfl⟩ := List.getLast?_eq_some_iff.mp ends
      rw [List.append_nil, List.rdropWhile_nil, List.append_nil,
        List.rdropWhile_concat_neg _ _ _ kept]
  | append_singleton text symbol inductionHypothesis =>
      rw [← List.append_assoc]
      by_cases goes : stays symbol = true
      · rw [List.rdropWhile_concat_pos _ _ _ goes, List.rdropWhile_concat_pos _ _ _ goes,
          inductionHypothesis]
      · rw [List.rdropWhile_concat_neg _ _ _ goes, List.rdropWhile_concat_neg _ _ _ goes,
          List.append_assoc]

/-- The slashes at the end of a text. -/
theorem exists_trimmed_append (text : List Char) :
    ∃ count, text = trimmed text ++ List.replicate count '/' := by
  refine ⟨(text.rtakeWhile (· = '/')).length, ?_⟩
  have slashes : text.rtakeWhile (· = '/') =
      List.replicate (text.rtakeWhile (· = '/')).length '/' := by
    apply List.eq_replicate_iff.mpr
    refine ⟨rfl, ?_⟩
    intro symbol member
    simpa using List.mem_rtakeWhile_imp member
  rw [← slashes]
  exact List.rdropWhile_append_rtakeWhile.symm

/-- Trimming does not reach what is before another symbol. -/
theorem trimmed_append {last : Char} (ends : head.getLast? = some last) (other : last ≠ '/')
    (text : List Char) : trimmed (head ++ text) = head ++ trimmed text :=
  rdropWhile_append_of_getLast ends (by simpa using other) text

/-- A text cannot be what is left of it with more behind. -/
theorem ne_trimmed_append {suffix : List Char} {last : Char} (ends : suffix.getLast? = some last)
    (other : last ≠ '/') (text : List Char) : text ≠ trimmed text ++ suffix := by
  intro same
  have untouched : trimmed (trimmed text ++ suffix) = trimmed text ++ suffix := by
    obtain ⟨front, rfl⟩ := List.getLast?_eq_some_iff.mp ends
    rw [← List.append_assoc]
    exact List.rdropWhile_concat_neg _ _ _ (by simpa using other)
  rw [← same] at untouched
  rw [untouched] at same
  have lengths := congrArg List.length same
  rw [List.length_append] at lengths
  have present : suffix ≠ [] := by
    rintro rfl
    cases ends
  have positive := List.length_pos_iff.mpr present
  omega

/-- Trimming what is left of a text is trimming the text. -/
theorem trimmed_append_of_ne_nil (head : List Char) (present : trimmed text ≠ []) :
    trimmed (head ++ text) = head ++ trimmed text := by
  obtain ⟨count, whole⟩ := exists_trimmed_append text
  have other := List.rdropWhile_last_not (· = '/') text present
  have split := List.dropLast_concat_getLast present
  have untouched : trimmed (head ++ trimmed text) = head ++ trimmed text := by
    unfold trimmed at split present other ⊢
    rw [← split, ← List.append_assoc]
    exact List.rdropWhile_concat_neg _ _ _ other
  have behind : head ++ text = head ++ trimmed text ++ List.replicate count '/' := by
    rw [List.append_assoc, ← whole]
  rw [behind, trimmed_append_slashes, untouched]

theorem visible_append (first second : List Char) :
    visible (first ++ second) = visible first ++ visible second := List.filter_append ..

/-- A beginning that is visible stays. -/
theorem stripped_append {first last : Char} (begins : head.head? = some first)
    (ends : head.getLast? = some last) (firstKept : isControlOrSpace first = false)
    (lastKept : isControlOrSpace last = false) (text : List Char) :
    stripped (head ++ text) = visible head ++ visible (text.rdropWhile isControlOrSpace) := by
  have noneDropped : (head ++ text).dropWhile isControlOrSpace = head ++ text := by
    cases head with
    | nil => cases begins
    | cons symbol rest =>
        cases begins
        rw [List.cons_append, List.dropWhile_cons_of_neg (by simp [firstKept])]
  unfold stripped
  rw [noneDropped, rdropWhile_append_of_getLast ends (by simp [lastKept]), visible_append]

theorem isControlOrSpace_of_isTabOrNewline {symbol : Char} (isTab : isTabOrNewline symbol = true) :
    isControlOrSpace symbol = true := by
  simp only [isTabOrNewline, Bool.or_eq_true, decide_eq_true_eq] at isTab
  rcases isTab with (rfl | rfl) | rfl
  · rfl
  · rfl
  · rfl

/-- A text without trailing controls and spaces ends in a symbol that is visible and none of them. -/
theorem getLast?_visible_rdropWhile {text : List Char} {last : Char}
    (ends : (visible (text.rdropWhile isControlOrSpace)).getLast? = some last) :
    isControlOrSpace last = false := by
  rcases List.eq_nil_or_concat' (text.rdropWhile isControlOrSpace) with none | ⟨front, symbol, kept⟩
  · rw [none] at ends
    cases ends
  · have present : text.rdropWhile isControlOrSpace ≠ [] := by
      rw [kept]
      exact List.concat_ne_nil symbol front
    have stays := List.rdropWhile_last_not isControlOrSpace text present
    simp only [kept, List.getLast_concat] at stays
    have seen : visible [symbol] = [symbol] := by
      apply List.filter_eq_self.mpr
      intro held member
      rw [List.mem_singleton.mp member]
      cases isTab : isTabOrNewline symbol with
      | true => exact absurd (isControlOrSpace_of_isTabOrNewline isTab) stays
      | false => rfl
    rw [kept, visible_append, seen, List.getLast?_concat, Option.some.injEq] at ends
    rw [← ends]
    simpa using stays

/-- What stripping the end of a text leaves out is controls and spaces. -/
theorem visible_eq_append (text : List Char) :
    ∃ trailing, visible text = visible (text.rdropWhile isControlOrSpace) ++ trailing ∧
      (∀ symbol ∈ trailing, isControlOrSpace symbol = true) ∧
      (trailing = [] ↔ ∀ last, (visible text).getLast? = some last →
        isControlOrSpace last = false) := by
  refine ⟨visible (text.rtakeWhile isControlOrSpace), ?_, ?_, ?_⟩
  · rw [← visible_append, List.rdropWhile_append_rtakeWhile]
  · intro symbol member
    exact List.mem_rtakeWhile_imp (List.mem_of_mem_filter member)
  · have whole : visible text = visible (text.rdropWhile isControlOrSpace) ++
        visible (text.rtakeWhile isControlOrSpace) := by
      rw [← visible_append, List.rdropWhile_append_rtakeWhile]
    constructor
    · intro nothing last ends
      rw [whole, nothing, List.append_nil] at ends
      exact getLast?_visible_rdropWhile ends
    · intro clean
      rcases List.eq_nil_or_concat' (visible (text.rtakeWhile isControlOrSpace)) with
        nothing | ⟨front, last, trailing⟩
      · exact nothing
      · have isLast : last ∈ visible (text.rtakeWhile isControlOrSpace) := by
          rw [trailing]
          exact List.mem_append_right _ List.mem_cons_self
        have isControl := List.mem_rtakeWhile_imp (List.mem_of_mem_filter isLast)
        have notControl := clean last (by
          rw [whole, trailing, ← List.append_assoc, List.getLast?_concat])
        rw [isControl] at notControl
        cases notControl

end Stripped

/-! ### Reading -/

section Reading

variable {authorities : AuthorityParser} {scheme : String}

/-- The two schemes that are read. -/
def WebScheme (scheme : String) : Prop := scheme = "http" ∨ scheme = "https"

/-- The text of a URL that begins with its scheme and two slashes. -/
def webText (scheme : String) (rest : List Char) : List Char :=
  scheme.toList ++ "://".toList ++ rest

/-- What is read of an input that begins with its scheme and two slashes. -/
theorem readUrl_eq (isWeb : WebScheme scheme) (text : List Char) :
    readUrl authorities (webText scheme text) =
      readRest authorities scheme
        ("//".toList ++ visible (text.rdropWhile isControlOrSpace)) := by
  have input : stripped (webText scheme text) =
      scheme.toList ++ ':' :: ("//".toList ++ visible (text.rdropWhile isControlOrSpace)) := by
    rcases isWeb with rfl | rfl
    · exact @stripped_append "http://".toList 'h' '/' rfl rfl rfl rfl text
    · exact @stripped_append "https://".toList 'h' '/' rfl rfl rfl rfl text
  unfold readUrl
  rw [input]
  rcases isWeb with rfl | rfl
  · rfl
  · rfl

/-- The parts of what follows the scheme: slashes, the authority and the path. -/
structure HierParts (hier lead name path : List Char) : Prop where
  whole : hier = lead ++ (name ++ path)
  lead : ∀ symbol ∈ lead, isSlash symbol = true
  present : name ≠ []
  name : ∀ symbol ∈ name, isSlash symbol = false
  path : ∀ symbol, path.head? = some symbol → isSlash symbol = true

theorem dropWhile_of_head {text : List Char} {goes : Char → Bool}
    (stays : ∀ symbol, text.head? = some symbol → goes symbol = false) :
    text.dropWhile goes = text := by
  cases text with
  | nil => rfl
  | cons symbol rest => exact List.dropWhile_cons_of_neg (by simp [stays symbol rfl])

theorem takeWhile_of_head {text : List Char} {goes : Char → Bool}
    (stays : ∀ symbol, text.head? = some symbol → goes symbol = false) :
    text.takeWhile goes = [] := by
  cases text with
  | nil => rfl
  | cons symbol rest => exact List.takeWhile_cons_of_neg (by simp [stays symbol rfl])

section Parts

variable {hier lead name path : List Char} (parts : HierParts hier lead name path)

include parts

theorem HierParts.body : hier.dropWhile isSlash = name ++ path := by
  rw [parts.whole, List.dropWhile_append_of_pos parts.lead]
  apply dropWhile_of_head
  intro symbol first
  rw [List.head?_append_of_ne_nil _ parts.present] at first
  exact parts.name symbol (List.mem_of_head? first)

theorem HierParts.nameGoes : ∀ symbol ∈ name, (!isSlash symbol) = true := by
  intro symbol member
  rw [parts.name symbol member]
  rfl

theorem HierParts.pathStays : ∀ symbol, path.head? = some symbol → (!isSlash symbol) = false := by
  intro symbol first
  rw [parts.path symbol first]
  rfl

theorem HierParts.hierName_eq : hierName hier = name := by
  unfold hierName
  rw [parts.body, List.takeWhile_append_of_pos parts.nameGoes, takeWhile_of_head parts.pathStays,
    List.append_nil]

theorem HierParts.hierPath_eq : hierPath hier = path := by
  unfold hierPath
  rw [parts.body, List.dropWhile_append_of_pos parts.nameGoes, dropWhile_of_head parts.pathStays]

theorem HierParts.readHier_eq : readHier authorities scheme hier =
    (authorities.parse scheme name).map fun authority => (authority, readPath path) := by
  unfold readHier
  rw [parts.hierName_eq, parts.hierPath_eq]

end Parts

theorem HierParts.append {hier lead name path more : List Char}
    (parts : HierParts hier lead name path)
    (begins : path ≠ [] ∨ ∀ symbol, more.head? = some symbol → isSlash symbol = true) :
    HierParts (hier ++ more) lead name (path ++ more) := by
  constructor
  · rw [parts.whole]
    simp only [List.append_assoc]
  · exact parts.lead
  · exact parts.present
  · exact parts.name
  · intro symbol first
    cases path with
    | nil => exact begins.resolve_left (fun present => present rfl) symbol first
    | cons other rest => exact parts.path symbol first

/-- Without a path, what is no separator lengthens the authority. -/
theorem HierParts.append_name {hier lead name longer more : List Char}
    (parts : HierParts hier lead name []) (noSlash : ∀ symbol ∈ longer, isSlash symbol = false)
    (begins : more.head? = some '/') :
    HierParts (hier ++ (longer ++ more)) lead (name ++ longer) more := by
  constructor
  · rw [parts.whole, List.append_nil]
    simp only [List.append_assoc]
  · exact parts.lead
  · exact List.append_ne_nil_of_left_ne_nil parts.present _
  · intro symbol member
    rcases List.mem_append.mp member with inName | inLonger
    · exact parts.name symbol inName
    · exact noSlash symbol inLonger
  · intro symbol first
    rw [begins, Option.some.injEq] at first
    rw [← first]
    rfl

theorem exists_hierParts {hier : List Char} (present : ∃ symbol ∈ hier, isSlash symbol = false) :
    ∃ lead name path, HierParts hier lead name path := by
  refine ⟨hier.takeWhile isSlash, (hier.dropWhile isSlash).takeWhile fun symbol => !isSlash symbol,
    (hier.dropWhile isSlash).dropWhile fun symbol => !isSlash symbol, ?_, ?_, ?_, ?_, ?_⟩
  · rw [List.takeWhile_append_dropWhile, List.takeWhile_append_dropWhile]
  · intro symbol member
    exact List.mem_takeWhile_imp member
  · obtain ⟨symbol, member, noSlash⟩ := present
    have body : hier.dropWhile isSlash ≠ [] := by
      intro nothing
      have slash := List.dropWhile_eq_nil_iff.mp nothing symbol member
      rw [noSlash] at slash
      cases slash
    have first := List.head_dropWhile_not isSlash body
    rw [← List.cons_head_tail body, List.takeWhile_cons_of_pos (by simpa using first)]
    exact List.cons_ne_nil _ _
  · intro symbol member
    simpa using List.mem_takeWhile_imp member
  · intro symbol first
    have present : (hier.dropWhile isSlash).dropWhile (fun symbol => !isSlash symbol) ≠ [] := by
      intro nothing
      rw [nothing] at first
      cases first
    have stays := List.head_dropWhile_not (fun symbol => !isSlash symbol) present
    rw [List.head?_eq_some_head present, Option.some.injEq] at first
    rw [← first]
    simpa using stays

/-- Nothing in the text is a mark. -/
def Unmarked (text : List Char) : Prop := ∀ symbol ∈ text, isMark symbol = false

instance (text : List Char) : Decidable (Unmarked text) :=
  decidable_of_iff _ List.all_iff_forall_prop

theorem Unmarked.append {first second : List Char} (unmarked : Unmarked first)
    (unmarkedSecond : Unmarked second) : Unmarked (first ++ second) := by
  intro symbol member
  rcases List.mem_append.mp member with inFirst | inSecond
  · exact unmarked symbol inFirst
  · exact unmarkedSecond symbol inSecond

theorem Unmarked.visible {text : List Char} (unmarked : Unmarked text) :
    Unmarked (visible text) := fun symbol member => unmarked symbol (List.mem_of_mem_filter member)

/-- The first mark of a text. -/
theorem exists_first_mark {text : List Char} (marked : ¬ Unmarked text) :
    ∃ before mark after, text = before ++ mark :: after ∧ Unmarked before ∧ isMark mark = true := by
  cases rest : text.dropWhile fun symbol => !isMark symbol with
  | nil =>
      refine absurd ?_ marked
      intro symbol member
      simpa using List.dropWhile_eq_nil_iff.mp rest symbol member
  | cons mark after =>
      refine ⟨text.takeWhile fun symbol => !isMark symbol, mark, after, ?_, ?_, ?_⟩
      · rw [← rest, List.takeWhile_append_dropWhile]
      · intro symbol member
        simpa using List.mem_takeWhile_imp member
      · have present : text.dropWhile (fun symbol => !isMark symbol) ≠ [] := by
          rw [rest]
          exact List.cons_ne_nil mark after
        have stays := List.head_dropWhile_not (fun symbol => !isMark symbol) present
        simp only [rest, List.head_cons] at stays
        simpa using stays

/-- An authority is made of symbols that are no slashes. -/
theorem exists_of_readHier {text : List Char} {parts : Authority × List (List Char)}
    (read : readHier authorities scheme text = some parts) :
    ∃ symbol ∈ text, isSlash symbol = false := by
  obtain ⟨authority, parsed, -⟩ := Option.map_eq_some_iff.mp read
  cases named : hierName text with
  | nil =>
      rw [named, authorities.present] at parsed
      cases parsed
  | cons symbol others =>
      have inName : symbol ∈ hierName text := by
        rw [named]
        exact List.mem_cons_self
      have inBody := (List.takeWhile_sublist _).subset inName
      refine ⟨symbol, (List.dropWhile_sublist _).subset inBody, ?_⟩
      simpa using List.mem_takeWhile_imp inName

theorem exists_of_readRest {text : List Char} {url : WebUrl}
    (read : readRest authorities scheme text = some url) : ∃ symbol ∈ text, isSlash symbol = false := by
  obtain ⟨parts, hierRead, -⟩ := Option.map_eq_some_iff.mp read
  obtain ⟨symbol, member, noSlash⟩ := exists_of_readHier hierRead
  exact ⟨symbol, (List.takeWhile_sublist _).subset member, noSlash⟩

/-- An input without a mark has no query. -/
theorem readRest_unmarked {text : List Char} (unmarked : Unmarked text) :
    readRest authorities scheme text =
      (readHier authorities scheme text).map fun parts =>
        { scheme := scheme, authority := parts.1, path := parts.2, query := none } := by
  have goes : ∀ symbol ∈ text, (!isMark symbol) = true := by
    intro symbol member
    rw [unmarked symbol member]
    rfl
  have whole : text.takeWhile (fun symbol => !isMark symbol) = text :=
    List.takeWhile_eq_self_iff.mpr goes
  have nothing : text.dropWhile (fun symbol => !isMark symbol) = [] :=
    List.dropWhile_eq_nil_iff.mpr goes
  unfold readRest
  rw [whole, nothing]
  rfl

/-- An input with a mark: its path lies before the mark. -/
theorem readRest_marked {before after : List Char} {mark : Char} (unmarked : Unmarked before)
    (isMarked : isMark mark = true) :
    readRest authorities scheme (before ++ mark :: after) =
      (readHier authorities scheme before).map fun parts =>
        { scheme := scheme, authority := parts.1, path := parts.2, query := readQuery (mark :: after) } := by
  have goes : ∀ symbol ∈ before, (!isMark symbol) = true := by
    intro symbol member
    rw [unmarked symbol member]
    rfl
  have stays : ∀ symbol, (mark :: after).head? = some symbol → (!isMark symbol) = false := by
    intro symbol first
    cases first
    rw [isMarked]
    rfl
  unfold readRest
  rw [List.takeWhile_append_of_pos goes, List.dropWhile_append_of_pos goes,
    takeWhile_of_head stays, dropWhile_of_head stays, List.append_nil]

/-- What is read of an input to which a text has been appended that ends visibly. -/
theorem readUrl_append (isWeb : WebScheme scheme) {rest suffix : List Char} {last : Char}
    (ends : suffix.getLast? = some last) (kept : isControlOrSpace last = false) :
    readUrl authorities (webText scheme (rest ++ suffix)) =
      readRest authorities scheme ("//".toList ++ visible (rest ++ suffix)) := by
  have stays : (rest ++ suffix).rdropWhile isControlOrSpace = rest ++ suffix := by
    obtain ⟨front, rfl⟩ := List.getLast?_eq_some_iff.mp ends
    rw [← List.append_assoc]
    exact List.rdropWhile_concat_neg _ _ _ (by simp [kept])
  have read := @readUrl_eq authorities scheme isWeb (rest ++ suffix)
  rw [stays] at read
  exact read

end Reading

end ClaudeProxy.Library
