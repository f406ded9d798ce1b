/-
Module: ClaudeProxy.Proofs.UpstreamUrls
Layer: Proofs
Purpose: Which endpoints the upstream URLs follow. The URL of a request and the URL of a probe are
  strings appended to the endpoint; once parsed, both are the endpoint with a longer path exactly when
  the endpoint has neither a query nor a fragment, ends in no control or space that the parser would
  strip from it, and its path does not end in an empty segment behind what the constructor trims.
Trusted boundary: none
Main exports: WebUrl.Below, ConsistentUrls, PlainEndpoint, consistentUrls_iff, upstream_urls_iff
-/
import ClaudeProxy.Library.WebUrl
import ClaudeProxy.Proofs.StreamAdmission
import ClaudeProxy.Provider.Probe

namespace ClaudeProxy

open Library

/-! ### Consistency -/

/-- The same resource server, and the path of `base` without the slashes at its end, followed by
`suffix`. -/
structure WebUrl.Below (url base : WebUrl) (suffix : String) : Prop where
  scheme : url.scheme = base.scheme
  host : url.authority.host = base.authority.host
  port : url.authority.port = base.authority.port
  query : url.query = base.query
  path : pathText url.path = trimmed (pathText base.path) ++ suffix.toList

/-- The URLs of a request and of a probe, once parsed, are those of the endpoint with their paths. -/
def ConsistentUrls (authorities : AuthorityParser) (endpoint sent probed : String) : Prop :=
  ∃ base sentUrl probedUrl,
    readUrl authorities endpoint.toList = some base ∧
    readUrl authorities sent.toList = some sentUrl ∧
    readUrl authorities probed.toList = some probedUrl ∧
    WebUrl.Below sentUrl base "/chat/completions" ∧ WebUrl.Below probedUrl base "/models"

/-- What follows the colon of the scheme. -/
def afterScheme (symbols : List Char) : List Char := (symbols.dropWhile (· ≠ ':')).drop 1

/-- The endpoints that the URLs follow. -/
structure PlainEndpoint (endpoint : String) : Prop where
  noQuery : '?' ∉ endpoint.toList
  noFragment : '#' ∉ endpoint.toList
  noTrailing : ∀ last, (visible endpoint.toList).getLast? = some last →
    isControlOrSpace last = false
  noEmptyEnd : (directory (hierPath (afterScheme (visible (trimmed endpoint.toList))))).getLast? ≠
    some []

/-! ### Endpoints with a mark -/

section Rest

variable {authorities : AuthorityParser} {scheme : String} {rest : List Char}

/-- The two marks that end a path are plain symbols. -/
theorem isControlOrSpace_of_isMark {mark : Char} (isMarked : isMark mark = true) :
    isControlOrSpace mark = false ∧ mark ≠ '/' ∧ visible [mark] = [mark] := by
  simp only [isMark, Bool.or_eq_true, decide_eq_true_eq] at isMarked
  rcases isMarked with rfl | rfl
  · exact ⟨by decide, by decide, by decide⟩
  · exact ⟨by decide, by decide, by decide⟩

theorem unmarked_slashes : Unmarked "//".toList := by decide

/-- What is appended behind a mark does not reach the path. -/
theorem not_below_of_marked (isWeb : WebScheme scheme) (marked : ¬ Unmarked rest)
    {base probed : WebUrl} (baseRead : readUrl authorities (webText scheme rest) = some base)
    (probedRead : readUrl authorities (webText scheme (trimmed rest ++ "/models".toList)) =
      some probed) : ¬ WebUrl.Below probed base "/models" := by
  obtain ⟨before, mark, after, rfl, unmarked, isMarked⟩ := exists_first_mark marked
  obtain ⟨notControl, notSlash, seen⟩ := isControlOrSpace_of_isMark isMarked
  have split : before ++ mark :: after = (before ++ [mark]) ++ after := by simp
  have ends : (before ++ [mark]).getLast? = some mark := List.getLast?_concat
  have front : Unmarked ("//".toList ++ visible before) :=
    unmarked_slashes.append unmarked.visible
  rw [split] at baseRead probedRead
  rw [readUrl_eq isWeb, rdropWhile_append_of_getLast ends (by simp [notControl]), visible_append,
    visible_append, seen, List.append_assoc, List.singleton_append, ← List.append_assoc,
    readRest_marked front isMarked] at baseRead
  rw [readUrl_append isWeb (show "/models".toList.getLast? = some 's' from rfl) (by decide),
    trimmed_append ends notSlash, visible_append, visible_append, visible_append, seen,
    List.append_assoc, List.append_assoc, List.singleton_append, ← List.append_assoc,
    readRest_marked front isMarked] at probedRead
  obtain ⟨parts, partsRead, rfl⟩ := Option.map_eq_some_iff.mp baseRead
  obtain ⟨others, othersRead, rfl⟩ := Option.map_eq_some_iff.mp probedRead
  rw [partsRead] at othersRead
  cases othersRead
  intro below
  exact ne_trimmed_append (show "/models".toList.getLast? = some 's' from rfl) (by decide) _ below.path

/-! ### Endpoints with trailing controls or spaces -/

theorem not_slash_of_isControlOrSpace {symbol : Char} (isControl : isControlOrSpace symbol = true) :
    isSlash symbol = false := by
  cases slash : isSlash symbol with
  | false => rfl
  | true =>
      simp only [isSlash, Bool.or_eq_true, decide_eq_true_eq] at slash
      rcases slash with rfl | rfl
      · cases isControl
      · cases isControl

theorem visible_slashes (count : Nat) :
    visible (List.replicate count '/') = List.replicate count '/' := by
  apply List.filter_eq_self.mpr
  intro symbol member
  rw [(List.mem_replicate.mp member).2]
  rfl

/-- What is taken out of a text has no mark that the text has not. -/
theorem unmarked_of_sublist {text part : List Char} (unmarked : Unmarked text)
    (sublist : part.Sublist text) : Unmarked part := fun symbol member =>
  unmarked symbol (sublist.subset member)

/-- What is read of an endpoint without a mark. -/
theorem readUrl_unmarked (isWeb : WebScheme scheme) (unmarked : Unmarked rest) :
    readUrl authorities (webText scheme rest) =
      (readHier authorities scheme ("//".toList ++ visible (rest.rdropWhile isControlOrSpace))).map
        fun parts => { scheme := scheme, authority := parts.1, path := parts.2, query := none } := by
  rw [readUrl_eq isWeb]
  apply readRest_unmarked
  have kept := unmarked_of_sublist unmarked (List.rdropWhile_prefix isControlOrSpace rest).sublist
  exact unmarked_slashes.append kept.visible

/-- A path that is appended: the parser neither strips nor splits it. -/
structure PlainSuffix (suffix : List Char) : Prop where
  begins : suffix.head? = some '/'
  unmarked : Unmarked suffix
  seen : visible suffix = suffix
  ends : ∃ last, suffix.getLast? = some last ∧ isControlOrSpace last = false

theorem plainSuffix_models : PlainSuffix "/models".toList := by
  exact ⟨rfl, by decide, by decide, 's', rfl, by decide⟩

theorem plainSuffix_chatCompletions : PlainSuffix "/chat/completions".toList := by
  exact ⟨rfl, by decide, by decide, 's', rfl, by decide⟩

/-- What is read of it with a path appended. -/
theorem readUrl_unmarked_append (isWeb : WebScheme scheme) (unmarked : Unmarked rest)
    {suffix : List Char} (plain : PlainSuffix suffix) :
    readUrl authorities (webText scheme (trimmed rest ++ suffix)) =
      (readHier authorities scheme ("//".toList ++ visible (trimmed rest) ++ suffix)).map
        fun parts => { scheme := scheme, authority := parts.1, path := parts.2, query := none } := by
  have trimmedUnmarked : Unmarked (trimmed rest) :=
    unmarked_of_sublist unmarked (List.rdropWhile_prefix _ rest).sublist
  obtain ⟨last, ends, kept⟩ := plain.ends
  rw [readUrl_append isWeb ends kept, visible_append, plain.seen, ← List.append_assoc]
  exact readRest_unmarked ((unmarked_slashes.append trimmedUnmarked.visible).append plain.unmarked)

/-- The path with the trailing symbols in its last segment is longer than the one without them. -/
theorem pathText_ne_of_trailing {path trailing : List Char}
    (begins : ∀ symbol, path.head? = some symbol → isSlash symbol = true) (present : path ≠ [])
    (trailingPresent : trailing ≠ [])
    (control : ∀ symbol ∈ trailing, isControlOrSpace symbol = true) :
    pathText (directory (path ++ trailing)) ≠ trimmed (pathText (readPath path)) := by
  have clean : ∀ symbol ∈ trailing, isSlash symbol = false := fun symbol member =>
    not_slash_of_isControlOrSpace (control symbol member)
  obtain ⟨front, last, raw, rawTrailing⟩ :=
    rawSegments_append_clean clean (rawSegments_ne_nil begins present)
  obtain ⟨symbol, member⟩ := List.exists_mem_of_ne_nil trailing trailingPresent
  obtain ⟨notDouble, notSingle⟩ :=
    not_dot_of_mem (List.mem_append_right last member) (control symbol member)
  have walked : directory (path ++ trailing) =
      front.foldl walk [] ++ [encodeSegment (last ++ trailing)] := by
    unfold directory
    rw [rawTrailing, List.foldl_append, List.foldl_cons, List.foldl_nil, walk,
      if_neg (by simp [notDouble]), if_neg (by simp [notSingle])]
  intro same
  have lengths := congrArg List.length same
  have shorter : (trimmed (pathText (readPath path))).length ≤ (pathText (readPath path)).length :=
    (List.rdropWhile_prefix _ _).length_le
  have bounded := length_walkLast_le (front.foldl walk []) last
  have positive := List.length_pos_iff.mpr (encodeSegment_ne_nil trailingPresent)
  rw [walked, pathText_append, List.length_append] at lengths
  rw [readPath_eq_walkLast raw] at lengths shorter
  simp only [pathText, List.flatMap_cons, List.flatMap_nil, List.append_nil, List.length_cons,
    encodeSegment_append, List.length_append] at lengths shorter bounded
  omega

/-- The path to the models is one segment below that of the endpoint. -/
theorem readPath_models (path : List Char) :
    readPath (path ++ "/models".toList) = directory path ++ ["models".toList] := by
  have clean : ∀ symbol ∈ "models".toList, isSlash symbol = false :=
    List.all_iff_forall_prop.mp rfl
  exact readPath_slash path clean

/-- A text that ends in a control or a space, as far as it is visible, does not end in a slash. -/
theorem visible_trimmed_of_trailing {last : Char} (ends : (visible rest).getLast? = some last)
    (isControl : isControlOrSpace last = true) : visible (trimmed rest) = visible rest := by
  obtain ⟨count, split⟩ := exists_trimmed_append rest
  cases count with
  | zero =>
      rw [List.replicate_zero, List.append_nil] at split
      rw [← split]
  | succ count =>
      rw [split, visible_append, visible_slashes, List.replicate_succ', ← List.append_assoc,
        List.getLast?_concat, Option.some.injEq] at ends
      subst ends
      cases isControl

/-- What the parser would strip from the end of the endpoint becomes a part of its last segment, or of
its authority, once a path is appended. -/
theorem not_below_of_trailing (isWeb : WebScheme scheme) (unmarked : Unmarked rest)
    {last : Char} (ends : (visible rest).getLast? = some last)
    (isControl : isControlOrSpace last = true) {base probed : WebUrl}
    (baseRead : readUrl authorities (webText scheme rest) = some base)
    (probedRead : readUrl authorities (webText scheme (trimmed rest ++ "/models".toList)) =
      some probed) : ¬ WebUrl.Below probed base "/models" := by
  obtain ⟨trailing, whole, control, nothing⟩ := visible_eq_append rest
  have trailingPresent : trailing ≠ [] := by
    intro empty
    rw [nothing.mp empty last ends] at isControl
    cases isControl
  have noSlash : ∀ symbol ∈ trailing, isSlash symbol = false := fun symbol member =>
    not_slash_of_isControlOrSpace (control symbol member)
  rw [readUrl_unmarked isWeb unmarked] at baseRead
  rw [readUrl_unmarked_append isWeb unmarked plainSuffix_models,
    visible_trimmed_of_trailing ends isControl, whole, ← List.append_assoc, List.append_assoc]
    at probedRead
  obtain ⟨baseParts, baseHier, rfl⟩ := Option.map_eq_some_iff.mp baseRead
  obtain ⟨probedParts, probedHier, rfl⟩ := Option.map_eq_some_iff.mp probedRead
  obtain ⟨lead, name, path, parts⟩ := exists_hierParts (exists_of_readHier baseHier)
  rw [parts.readHier_eq] at baseHier
  obtain ⟨authority, parsed, rfl⟩ := Option.map_eq_some_iff.mp baseHier
  by_cases pathPresent : path = []
  · subst pathPresent
    have longer := parts.append_name noSlash (show "/models".toList.head? = some '/' from rfl)
    have rejected : authorities.parse scheme (name ++ trailing) = none := by
      rw [whole, List.getLast?_append_of_ne_nil _ trailingPresent] at ends
      apply authorities.noTrailing scheme _ last _ isControl
      rw [List.getLast?_append_of_ne_nil _ trailingPresent, ends]
    rw [longer.readHier_eq, rejected] at probedHier
    cases probedHier
  · have longer := @HierParts.append _ _ _ _ (trailing ++ "/models".toList) parts (.inl pathPresent)
    rw [longer.readHier_eq, parsed, Option.map_some, Option.some.injEq, ← List.append_assoc]
      at probedHier
    intro below
    have same := below.path
    rw [← probedHier] at same
    dsimp only at same
    rw [readPath_models, pathText_append] at same
    exact pathText_ne_of_trailing parts.path pathPresent trailingPresent control
      (List.append_cancel_right same)

/-! ### Other endpoints -/

/-- The URLs of an endpoint from which nothing is stripped: its own and those below it have one
authority, and their paths go on from one directory. -/
structure SharedParts (authorities : AuthorityParser) (scheme : String) (rest : List Char)
    (base : WebUrl) (authority : Authority) (path : List Char) : Prop where
  own : ∃ count, base =
    { scheme := scheme
      authority := authority
      path := readPath (path ++ List.replicate count '/')
      query := none }
  samePath : hierPath ("//".toList ++ visible (trimmed rest)) = path
  below : ∀ suffix, PlainSuffix suffix →
    readUrl authorities (webText scheme (trimmed rest ++ suffix)) =
      some { scheme := scheme, authority := authority, path := readPath (path ++ suffix), query := none }

/-- Both are read with the scheme and the authority of the endpoint. -/
theorem exists_sharedParts (isWeb : WebScheme scheme) (unmarked : Unmarked rest)
    (noTrailing : ∀ last, (visible rest).getLast? = some last → isControlOrSpace last = false)
    {base : WebUrl} (baseRead : readUrl authorities (webText scheme rest) = some base) :
    ∃ authority path, SharedParts authorities scheme rest base authority path := by
  obtain ⟨trailing, whole, -, nothing⟩ := visible_eq_append rest
  obtain ⟨count, split⟩ := exists_trimmed_append rest
  have kept : visible (rest.rdropWhile isControlOrSpace) =
      visible (trimmed rest) ++ List.replicate count '/' := by
    have sameText : visible rest = visible (trimmed rest) ++ List.replicate count '/' := by
      rw [← visible_slashes, ← visible_append, ← split]
    rw [nothing.mpr noTrailing, List.append_nil] at whole
    rw [← whole, sameText]
  rw [readUrl_unmarked isWeb unmarked, kept, ← List.append_assoc] at baseRead
  obtain ⟨baseParts, baseHier, rfl⟩ := Option.map_eq_some_iff.mp baseRead
  have present : ∃ symbol ∈ "//".toList ++ visible (trimmed rest), isSlash symbol = false := by
    obtain ⟨symbol, member, noSlash⟩ := exists_of_readHier baseHier
    rcases List.mem_append.mp member with before | slashes
    · exact ⟨symbol, before, noSlash⟩
    · rw [(List.mem_replicate.mp slashes).2] at noSlash
      cases noSlash
  obtain ⟨lead, name, path, parts⟩ := exists_hierParts present
  have slashesBegin : ∀ symbol, (List.replicate count '/').head? = some symbol →
      isSlash symbol = true := by
    intro symbol first
    rw [(List.mem_replicate.mp (List.mem_of_head? first)).2]
    rfl
  rw [(parts.append (.inr slashesBegin)).readHier_eq] at baseHier
  obtain ⟨authority, parsed, rfl⟩ := Option.map_eq_some_iff.mp baseHier
  refine ⟨authority, path, ⟨count, rfl⟩, parts.hierPath_eq, ?_⟩
  intro suffix plain
  have suffixBegins : ∀ symbol, suffix.head? = some symbol → isSlash symbol = true := by
    intro symbol first
    rw [plain.begins, Option.some.injEq] at first
    rw [← first]
    rfl
  rw [readUrl_unmarked_append isWeb unmarked plain, (parts.append (.inr suffixBegins)).readHier_eq,
    parsed]
  rfl

/-- That to the chat completions is two below it. -/
theorem readPath_chatCompletions (path : List Char) :
    readPath (path ++ "/chat/completions".toList) =
      directory path ++ ["chat".toList, "completions".toList] := by
  have split : path ++ "/chat/completions".toList =
      path ++ "/chat".toList ++ '/' :: "completions".toList := by
    rw [List.append_assoc]
    rfl
  have chatClean : ∀ symbol ∈ "chat".toList, isSlash symbol = false :=
    List.all_iff_forall_prop.mp rfl
  have completionsClean : ∀ symbol ∈ "completions".toList, isSlash symbol = false :=
    List.all_iff_forall_prop.mp rfl
  have walked : directory (path ++ "/chat".toList) = directory path ++ ["chat".toList] :=
    directory_slash path chatClean
  have ended : readPath (path ++ "/chat".toList ++ '/' :: "completions".toList) =
      directory (path ++ "/chat".toList) ++ ["completions".toList] :=
    readPath_slash _ completionsClean
  rw [split, ended, walked, List.append_assoc]
  rfl

section Shared

variable {base : WebUrl} {authority : Authority} {path : List Char}
  (shared : SharedParts authorities scheme rest base authority path)

include shared

/-- The path of the endpoint, trimmed, is that of its directory. -/
theorem SharedParts.trimmed_path :
    trimmed (pathText base.path) = trimmed (pathText (directory path)) := by
  obtain ⟨count, rfl⟩ := shared.own
  obtain ⟨empty, pathEq⟩ := readPath_slashes path count
  dsimp only
  rw [pathEq, pathText_append, pathText_empty, trimmed_append_slashes]

/-- A URL that goes on from the directory is below the endpoint, if the directory does not end in an
empty segment. -/
theorem SharedParts.below_iff {segments : List (List Char)} {suffix : String}
    (pathEq : pathText segments = pathText (directory path) ++ suffix.toList) :
    WebUrl.Below { scheme := scheme, authority := authority, path := segments, query := none } base
        suffix ↔
      (directory path).getLast? ≠ some [] := by
  rw [← trimmed_pathText_iff (directory_noSlash path)]
  have trimmedPath := shared.trimmed_path
  constructor
  · intro below
    have same := below.path
    dsimp only at same
    rw [pathEq, trimmedPath] at same
    exact (List.append_cancel_right same).symm
  · intro untouched
    obtain ⟨count, rfl⟩ := shared.own
    refine ⟨rfl, rfl, rfl, rfl, ?_⟩
    rw [trimmedPath, untouched]
    exact pathEq

/-- Where nothing is stripped, the URLs follow the endpoint unless its directory ends in an empty
segment. -/
theorem SharedParts.consistent_iff {sent probed : List Char}
    (sentText : sent = webText scheme (trimmed rest ++ "/chat/completions".toList))
    (probedText : probed = webText scheme (trimmed rest ++ "/models".toList)) :
    (∃ sentUrl probedUrl, readUrl authorities sent = some sentUrl ∧
        readUrl authorities probed = some probedUrl ∧
        WebUrl.Below sentUrl base "/chat/completions" ∧ WebUrl.Below probedUrl base "/models") ↔
      (directory path).getLast? ≠ some [] := by
  have sentPath : pathText (readPath (path ++ "/chat/completions".toList)) =
      pathText (directory path) ++ "/chat/completions".toList := by
    rw [readPath_chatCompletions, pathText_append]
    rfl
  have probedPath : pathText (readPath (path ++ "/models".toList)) =
      pathText (directory path) ++ "/models".toList := by
    rw [readPath_models, pathText_append]
    rfl
  rw [sentText, probedText, shared.below _ plainSuffix_chatCompletions,
    shared.below _ plainSuffix_models]
  constructor
  · rintro ⟨sentUrl, probedUrl, sentRead, probedRead, -, below⟩
    cases probedRead
    exact (shared.below_iff probedPath).mp below
  · intro noEmptyEnd
    exact ⟨_, _, rfl, rfl, (shared.below_iff sentPath).mpr noEmptyEnd,
      (shared.below_iff probedPath).mpr noEmptyEnd⟩

end Shared

end Rest

/-! ### Endpoints -/

section Endpoint

variable {authorities : AuthorityParser} {scheme endpoint : String} {rest : List Char}

/-- The scheme has no symbol that a URL drops. -/
theorem visible_webText (isWeb : WebScheme scheme) (text : List Char) :
    visible (webText scheme text) = webText scheme (visible text) := by
  rcases isWeb with rfl | rfl
  · rfl
  · rfl

/-- After the scheme comes the rest of the text. -/
theorem afterScheme_webText (isWeb : WebScheme scheme) (text : List Char) :
    afterScheme (webText scheme text) = "//".toList ++ text := by
  rcases isWeb with rfl | rfl
  · rfl
  · rfl

/-- An endpoint that can be read names an authority. -/
theorem exists_name (isWeb : WebScheme scheme) {base : WebUrl}
    (accepted : readUrl authorities (webText scheme rest) = some base) :
    visible rest ≠ [] ∧ trimmed rest ≠ [] := by
  rw [readUrl_eq isWeb] at accepted
  obtain ⟨symbol, member, noSlash⟩ := exists_of_readRest accepted
  have inRest : symbol ∈ visible (rest.rdropWhile isControlOrSpace) := by
    rcases List.mem_append.mp member with slashes | inRest
    · have isSlashes : symbol = '/' := by simpa using slashes
      rw [isSlashes] at noSlash
      cases noSlash
    · exact inRest
  have kept := (List.rdropWhile_prefix isControlOrSpace rest).sublist.subset
    (List.mem_of_mem_filter inRest)
  constructor
  · exact List.ne_nil_of_mem (List.mem_filter.mpr ⟨kept, (List.mem_filter.mp inRest).2⟩)
  · intro nothing
    obtain ⟨count, whole⟩ := exists_trimmed_append rest
    rw [nothing, List.nil_append] at whole
    rw [whole] at kept
    rw [(List.mem_replicate.mp kept).2] at noSlash
    cases noSlash

/-- The slashes at the end are not those of the scheme. -/
theorem trimmed_webText (present : trimmed rest ≠ []) :
    trimmed (webText scheme rest) = webText scheme (trimmed rest) :=
  trimmed_append_of_ne_nil _ present

/-- Strings are trimmed as their symbols are. -/
theorem trimSlashes_toList (endpoint : String) :
    (trimSlashes endpoint).toList = trimmed endpoint.toList := by
  unfold trimSlashes
  rw [String.toList_ofList]
  rfl

theorem modelsUrl_toList (endpoint : String) :
    (modelsUrl endpoint).toList = endpoint.toList ++ "/models".toList :=
  String.toList_append

/-- Without a query the suffix goes to the end. -/
theorem chatCompletionsUrl_toList (noQuery : '?' ∉ endpoint.toList) :
    (chatCompletionsUrl endpoint).toList = endpoint.toList ++ "/chat/completions".toList := by
  have goes : ∀ symbol ∈ endpoint.toList, decide (symbol ≠ '?') = true := by
    intro symbol member
    apply decide_eq_true
    rintro rfl
    exact noQuery member
  have whole : endpoint.toList.span (· ≠ '?') = (endpoint.toList, []) := by
    rw [List.span_eq_takeWhile_dropWhile, List.takeWhile_eq_self_iff.mpr goes,
      List.dropWhile_eq_nil_iff.mpr goes]
  unfold chatCompletionsUrl
  rw [whole]
  exact String.toList_append

/-- A text without marks has no query and no fragment. -/
theorem unmarked_iff (text : List Char) : Unmarked text ↔ '?' ∉ text ∧ '#' ∉ text := by
  constructor
  · intro unmarked
    constructor
    · intro member
      cases unmarked '?' member
    · intro member
      cases unmarked '#' member
  · rintro ⟨noQuery, noFragment⟩ symbol member
    simp only [isMark, Bool.or_eq_false_iff, decide_eq_false_iff_not]
    constructor
    · rintro rfl
      exact noQuery member
    · rintro rfl
      exact noFragment member

theorem unmarked_webText (isWeb : WebScheme scheme) :
    Unmarked (webText scheme rest) ↔ Unmarked rest := by
  constructor
  · intro unmarked
    exact unmarked_of_sublist unmarked (List.sublist_append_right _ rest)
  · intro unmarked
    refine Unmarked.append ?_ unmarked
    rcases isWeb with rfl | rfl
    · decide
    · decide

/-- The condition on an endpoint, by what follows the slashes of its scheme. -/
theorem plainEndpoint_iff (isWeb : WebScheme scheme) (text : endpoint.toList = webText scheme rest)
    (seen : visible rest ≠ []) (present : trimmed rest ≠ []) :
    PlainEndpoint endpoint ↔ Unmarked rest ∧
      (∀ last, (visible rest).getLast? = some last → isControlOrSpace last = false) ∧
      (directory (hierPath ("//".toList ++ visible (trimmed rest)))).getLast? ≠ some [] := by
  have sameEnd : (visible endpoint.toList).getLast? = (visible rest).getLast? := by
    rw [text, visible_webText isWeb]
    exact List.getLast?_append_of_ne_nil _ seen
  have samePath : afterScheme (visible (trimmed endpoint.toList)) =
      "//".toList ++ visible (trimmed rest) := by
    rw [text, trimmed_webText present, visible_webText isWeb, afterScheme_webText isWeb]
  rw [← unmarked_webText isWeb, ← text, unmarked_iff]
  constructor
  · intro plain
    refine ⟨⟨plain.noQuery, plain.noFragment⟩, ?_, ?_⟩
    · rw [← sameEnd]
      exact plain.noTrailing
    · rw [← samePath]
      exact plain.noEmptyEnd
  · rintro ⟨⟨noQuery, noFragment⟩, noTrailing, noEmptyEnd⟩
    rw [← sameEnd] at noTrailing
    rw [← samePath] at noEmptyEnd
    exact ⟨noQuery, noFragment, noTrailing, noEmptyEnd⟩

/-- The URLs follow an endpoint that can be read exactly when it is plain. -/
theorem consistentUrls_iff (isWeb : WebScheme scheme) (text : endpoint.toList = webText scheme rest)
    {base : WebUrl} (accepted : readUrl authorities endpoint.toList = some base) :
    ConsistentUrls authorities endpoint (chatCompletionsUrl (trimSlashes endpoint))
      (modelsUrl (trimSlashes endpoint)) ↔ PlainEndpoint endpoint := by
  have baseRead := accepted
  rw [text] at baseRead
  obtain ⟨seen, present⟩ := exists_name isWeb baseRead
  have trimmedText : (trimSlashes endpoint).toList = webText scheme (trimmed rest) := by
    rw [trimSlashes_toList, text, trimmed_webText present]
  have probedText : (modelsUrl (trimSlashes endpoint)).toList =
      webText scheme (trimmed rest ++ "/models".toList) := by
    rw [modelsUrl_toList, trimmedText]
    exact List.append_assoc ..
  rw [plainEndpoint_iff isWeb text seen present]
  by_cases unmarked : Unmarked rest
  · by_cases noTrailing : ∀ last, (visible rest).getLast? = some last → isControlOrSpace last = false
    · obtain ⟨authority, path, shared⟩ := exists_sharedParts isWeb unmarked noTrailing baseRead
      have noQuery : '?' ∉ (trimSlashes endpoint).toList := by
        rw [trimmedText]
        have trimmedUnmarked := unmarked_of_sublist unmarked
          (List.rdropWhile_prefix (· = '/') rest).sublist
        exact ((unmarked_iff _).mp ((unmarked_webText isWeb).mpr trimmedUnmarked)).1
      have sentText : (chatCompletionsUrl (trimSlashes endpoint)).toList =
          webText scheme (trimmed rest ++ "/chat/completions".toList) := by
        rw [chatCompletionsUrl_toList noQuery, trimmedText]
        exact List.append_assoc ..
      rw [shared.samePath, ← shared.consistent_iff sentText probedText]
      constructor
      · rintro ⟨base', sentUrl, probedUrl, read, consistent⟩
        rw [accepted] at read
        cases read
        exact ⟨unmarked, noTrailing, sentUrl, probedUrl, consistent⟩
      · rintro ⟨-, -, sentUrl, probedUrl, consistent⟩
        exact ⟨base, sentUrl, probedUrl, accepted, consistent⟩
    · constructor
      · rintro ⟨base', sentUrl, probedUrl, read, -, probedRead, -, below⟩
        rw [text] at read
        rw [probedText] at probedRead
        push Not at noTrailing
        obtain ⟨last, ends, isControl⟩ := noTrailing
        rw [Bool.ne_false_iff] at isControl
        exact absurd below (not_below_of_trailing isWeb unmarked ends isControl read probedRead)
      · rintro ⟨-, trailing, -⟩
        exact absurd trailing noTrailing
  · constructor
    · rintro ⟨base', sentUrl, probedUrl, read, -, probedRead, -, below⟩
      rw [text] at read
      rw [probedText] at probedRead
      exact absurd below (not_below_of_marked isWeb unmarked read probedRead)
    · rintro ⟨unmarked', -⟩
      exact absurd unmarked' unmarked

end Endpoint

/-! ### The endpoints of a configuration -/

section Configured

variable {crates : Crates} {environment : Environment} {authorities : AuthorityParser}

/-- The credentials of a URL, as the validation sees them. -/
def WebUrl.seen (url : WebUrl) : Url where
  scheme := url.scheme
  username := url.authority.username
  password := url.authority.password

/-- The crate parses URLs of the two schemes as the standard says. -/
structure StandardUrls (crates : Crates) (authorities : AuthorityParser) : Prop where
  agrees : ∀ scheme rest, WebScheme scheme →
    (crates.urlParse (String.ofList (webText scheme rest))).toOption =
      (readUrl authorities (webText scheme rest)).map WebUrl.seen

/-- The endpoint of each provider has been checked. -/
theorem ValidConfig.endpoint_checked (valid : ValidConfig crates environment)
    {provider : ProviderConfig} (isProvider : provider ∈ valid.config.providers) :
    checkEndpoint crates provider = .ok () := by
  obtain ⟨seen, next, checked⟩ := valid.checked.providers provider isProvider
  unfold checkProvider at checked
  simp only [Except.bind_eq_ok] at checked
  obtain ⟨_, _, _, endpointOk, _⟩ := checked
  exact endpointOk

/-- A text that begins with another goes on somehow. -/
theorem exists_of_stripPrefix {expected text : String}
    (begins : (stripPrefix expected text).isSome = true) :
    ∃ rest, text.toList = expected.toList ++ rest := by
  unfold stripPrefix at begins
  split at begins
  · rename_i isPrefix
    obtain ⟨rest, restEq⟩ := List.isPrefixOf_iff_prefix.mp isPrefix
    exact ⟨rest, restEq.symm⟩
  · cases begins

/-- An accepted endpoint begins with one of the two schemes and can be read. -/
theorem accepted_endpoint (standard : StandardUrls crates authorities) {provider : ProviderConfig}
    (checked : checkEndpoint crates provider = .ok ()) :
    ∃ scheme rest base, WebScheme scheme ∧ provider.endpoint.toList = webText scheme rest ∧
      readUrl authorities provider.endpoint.toList = some base := by
  unfold checkEndpoint at checked
  simp only [Except.bind_eq_ok, rejectIf_eq_ok, not_not] at checked
  obtain ⟨url, parsed, _, _, begins⟩ := checked
  have accepted : (crates.urlParse provider.endpoint).toOption = some url := by
    cases outcome : crates.urlParse provider.endpoint with
    | error problem =>
        rw [outcome] at parsed
        cases parsed
    | ok found =>
        rw [outcome] at parsed
        cases parsed
        rfl
  have written : ∃ scheme rest, WebScheme scheme ∧
      provider.endpoint.toList = webText scheme rest := by
    rcases begins with secure | ⟨-, insecure⟩
    · obtain ⟨rest, text⟩ := exists_of_stripPrefix secure
      exact ⟨"https", rest, .inr rfl, text⟩
    · obtain ⟨rest, text⟩ := exists_of_stripPrefix insecure
      exact ⟨"http", rest, .inl rfl, text⟩
  obtain ⟨scheme, rest, isWeb, text⟩ := written
  have read := standard.agrees scheme rest isWeb
  rw [← text, String.ofList_toList, accepted] at read
  obtain ⟨base, baseRead, -⟩ := Option.map_eq_some_iff.mp read.symm
  exact ⟨scheme, rest, base, isWeb, text, baseRead⟩

/-- A provider has the endpoint of its configuration, without the slashes at its end. -/
theorem Provider.new_endpoint {config : ProviderConfig} {limits : LimitsConfig} {provider : Provider}
    (built : Provider.new environment config limits = .ok provider) :
    provider.endpoint = trimSlashes config.endpoint := by
  unfold Provider.new at built
  simp only [Except.bind_eq_ok] at built
  obtain ⟨_, _, _, _, same⟩ := built
  cases same
  rfl

/-- Both requests of a provider can be made, and go to URLs built from its endpoint. -/
theorem ValidConfig.requests (valid : ValidConfig crates environment) {config : ProviderConfig}
    (isProvider : config ∈ valid.config.providers) {limits : LimitsConfig} {provider : Provider}
    (built : Provider.new environment config limits = .ok provider) (body : Value) :
    ∃ sent probe, provider.httpRequest environment body = .ok sent ∧
      provider.probeRequest environment = .ok probe ∧
      sent.url = chatCompletionsUrl (trimSlashes config.endpoint) ∧
      probe.url = modelsUrl (trimSlashes config.endpoint) := by
  obtain ⟨secret, resolves⟩ := valid.secret_resolves isProvider
  have sameEndpoint := Provider.new_endpoint built
  rw [← (Provider.new_fields built).2] at resolves
  unfold Provider.httpRequest Provider.probeRequest
  rw [resolves, ← sameEndpoint]
  exact ⟨_, _, rfl, rfl, rfl, rfl⟩

/-- The URLs of a request and of a probe follow a configured endpoint exactly when it is plain. -/
theorem upstream_urls_iff (standard : StandardUrls crates authorities)
    (valid : ValidConfig crates environment) {config : ProviderConfig}
    (isProvider : config ∈ valid.config.providers) {limits : LimitsConfig} {provider : Provider}
    (built : Provider.new environment config limits = .ok provider) (body : Value) :
    (∃ sent probe, provider.httpRequest environment body = .ok sent ∧
      provider.probeRequest environment = .ok probe ∧
      ConsistentUrls authorities config.endpoint sent.url probe.url) ↔
        PlainEndpoint config.endpoint := by
  obtain ⟨scheme, rest, base, isWeb, text, baseRead⟩ :=
    accepted_endpoint standard (valid.endpoint_checked isProvider)
  obtain ⟨sent, probe, sentEq, probeEq, sentUrl, probeUrl⟩ := valid.requests isProvider built body
  rw [← consistentUrls_iff isWeb text baseRead, ← sentUrl, ← probeUrl]
  constructor
  · rintro ⟨sent', probe', sentEq', probeEq', consistent⟩
    rw [sentEq] at sentEq'
    rw [probeEq] at probeEq'
    cases sentEq'
    cases probeEq'
    exact consistent
  · intro consistent
    exact ⟨sent, probe, sentEq, probeEq, consistent⟩

end Configured

/-! ### Sample -/

def isSmallLetter (symbol : Char) : Bool := 'a'.toNat ≤ symbol.toNat && symbol.toNat ≤ 'z'.toNat

/-- A host of small letters, and nothing else. -/
def letterAuthority (text : List Char) : Option Authority :=
  if (!text.isEmpty && text.all isSmallLetter) = true then
    some { username := "", password := none, host := String.ofList text, port := none }
  else none

/-- The sample's authorities have no space at their end. -/
theorem letterAuthority_noTrailing {text : List Char} {symbol : Char}
    (ends : text.getLast? = some symbol) (isControl : isControlOrSpace symbol = true) :
    letterAuthority text = none := by
  apply if_neg
  intro accepted
  have letters := (Bool.and_eq_true_iff.mp accepted).2
  have isLetter := List.all_eq_true.mp letters symbol (List.mem_of_getLast? ends)
  simp only [isSmallLetter, isControlOrSpace, decide_eq_true_eq, Bool.and_eq_true]
    at isLetter isControl
  have least : 'a'.toNat = 97 := rfl
  omega

def letterAuthorities : AuthorityParser where
  parse _ := letterAuthority
  present _ := rfl
  noTrailing _ _ _ := letterAuthority_noTrailing

def webCrates : Crates :=
  { officeCrates with
    urlParse := fun text =>
      match readUrl letterAuthorities text.toList with
      | some url => .ok (WebUrl.seen url)
      | none => .error "no URL" }

/-- The sample's parser is a standard one. -/
theorem standardUrls_web : StandardUrls webCrates letterAuthorities where
  agrees scheme rest _ := by
    dsimp only [webCrates]
    rw [String.toList_ofList]
    cases readUrl letterAuthorities (webText scheme rest) with
    | none => rfl
    | some url => rfl

/-- The provider of the office, behind a path that ends in a slash. -/
def slashedSource : ProviderConfig where
  id := "p"
  kind := .openaiChat
  endpoint := "https://h/openai/v1/"
  credential := .bearer (.env "KEY")

def slashedProvider : Provider := { officeProvider with endpoint := "https://h/openai/v1" }

/-- The endpoint of the sample is plain, with the slash at its end. -/
theorem plainEndpoint_slashed : PlainEndpoint "https://h/openai/v1/" where
  noQuery := by decide
  noFragment := by decide
  noTrailing := by
    rintro last ⟨⟩
    decide
  noEmptyEnd := by decide

/-- An endpoint with a path and a slash at its end: both URLs are those of the API below it. -/
theorem upstream_urls_iff_office :
    ∃ sent probe, slashedProvider.httpRequest officeEnvironment .null = .ok sent ∧
      slashedProvider.probeRequest officeEnvironment = .ok probe ∧
      ConsistentUrls letterAuthorities "https://h/openai/v1/" sent.url probe.url :=
  (@upstream_urls_iff webCrates officeEnvironment letterAuthorities standardUrls_web
    ⟨{ officeConfig with providers := [slashedSource] }, rfl⟩ slashedSource List.mem_cons_self {}
    slashedProvider rfl .null).mpr plainEndpoint_slashed

/-- The office's provider is asked for a version of its interface. -/
def versionedSource : ProviderConfig where
  id := "p"
  kind := .openaiChat
  endpoint := "https://h/v1?api-version=1"
  credential := .bearer (.env "KEY")

def versionedConfig : AppConfig := { officeConfig with providers := [versionedSource] }

def versionedProvider : Provider :=
  { officeProvider with endpoint := "https://h/v1?api-version=1" }

/-- The URL that the sample's parser reads. -/
def versionedUrl (path : List String) (query : String) : WebUrl where
  scheme := "https"
  authority := { username := "", password := none, host := "h", port := none }
  path := path.map String.toList
  query := some query.toList

/-- The request is sent below the endpoint; the probe appends its path to the query. -/
theorem probe_misses_endpoint :
    StandardUrls webCrates letterAuthorities ∧
      versionedConfig.validate webCrates officeEnvironment = .ok () ∧
      Provider.new officeEnvironment versionedSource versionedConfig.limits =
        .ok versionedProvider ∧
      ∃ sent probe, versionedProvider.httpRequest officeEnvironment .null = .ok sent ∧
        versionedProvider.probeRequest officeEnvironment = .ok probe ∧
        sent.url = "https://h/v1/chat/completions?api-version=1" ∧
        probe.url = "https://h/v1?api-version=1/models" ∧
        readUrl letterAuthorities versionedSource.endpoint.toList =
          some (versionedUrl ["v1"] "api-version=1") ∧
        readUrl letterAuthorities sent.url.toList =
          some (versionedUrl ["v1", "chat", "completions"] "api-version=1") ∧
        readUrl letterAuthorities probe.url.toList =
          some (versionedUrl ["v1"] "api-version=1/models") ∧
        ¬ ConsistentUrls letterAuthorities versionedSource.endpoint sent.url probe.url := by
  have baseRead : readUrl letterAuthorities versionedSource.endpoint.toList =
      some (versionedUrl ["v1"] "api-version=1") := by decide
  have probedRead : readUrl letterAuthorities "https://h/v1?api-version=1/models".toList =
      some (versionedUrl ["v1"] "api-version=1/models") := by decide
  have sentRead : readUrl letterAuthorities "https://h/v1/chat/completions?api-version=1".toList =
      some (versionedUrl ["v1", "chat", "completions"] "api-version=1") := by decide
  refine ⟨standardUrls_web, rfl, rfl, _, _, rfl, rfl, rfl, rfl, baseRead, sentRead, probedRead, ?_⟩
  rintro ⟨base, sentUrl, probed, read, -, readProbed, -, below⟩
  have sameBase := Option.some.inj (read.symm.trans baseRead)
  have sameProbed := Option.some.inj (readProbed.symm.trans probedRead)
  have sameQuery := below.query
  rw [sameBase, sameProbed] at sameQuery
  exact absurd sameQuery (by decide)

end ClaudeProxy
