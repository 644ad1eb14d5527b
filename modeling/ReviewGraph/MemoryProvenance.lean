import ReviewGraph.Foundation.Search
import ReviewGraph.Foundation.Words

/-!
# Overlap of texts with remembered comments

`memory_body_overlaps_text` of `memory_provenance.py` decides whether a text copies the body of a
comment.  It compares normalised texts: the runs of letters and digits, joined by blanks.  The main
results say that no run of three to five words of the body with enough signal, and no word that
mixes letters and digits, escapes it.
-/

namespace ReviewGraph

open Regex Regex.Expr

/-! ## Word lists -/

/-- `_IDENTIFIER_NUMERIC_PREFIX_WORDS`. -/
def identifierNumericPrefixWords : List Text := ["customer", "user"]

/-- `_COMMON_MEMORY_WORDS`. -/
def commonMemoryWords : List Text :=
  ["authentication", "authorization", "become", "branch", "cache", "candidate", "change", "comment",
    "commenter", "customer", "during", "evidence", "here", "if", "issue", "line", "mentioned",
    "never", "patch", "payload", "please", "public", "referenced", "review", "reviewer", "should",
    "target", "the", "thread", "untrusted", "version"]

/-- `_HIGH_SIGNAL_CONTEXT_WORDS`. -/
def highSignalContextWords : List Text :=
  ["account", "codename", "identifier", "key", "secret", "ticket", "token"]

/-- `_COMMON_TECH_TOKENS`. -/
def commonTechTokens : List Text :=
  ["go122", "grpc", "http2", "json", "node18", "oauth", "python3", "react19", "sha256", "yaml"]

/-- The sensitive words of `_has_enough_fragment_signal`. -/
def sensitiveWords : List Text :=
  ["account", "codename", "identifier", "key", "password", "secret", "ticket", "token"]

/-! ## Normalised texts -/

/-- The characters that a normalised text drops. -/
def isMemorySeparator (c : Char) : Bool := !Unicode.isAlphanumeric c

/-- The words of a normalised text. -/
def memoryWords (value : Text) : List Text := Text.runs isMemorySeparator value.casefold

/-- `_normalize_memory_text`. -/
def normalizeMemoryText (value : Text) : Text := Text.join [' '] (memoryWords value)

/-- A phrase without its blanks. -/
def compact (t : Text) : Text := t.filter (· ≠ ' ')

/-- The number of different characters of a text. -/
def distinctCount (t : Text) : ℕ := t.dedup.length

/-- `str.isdigit`. -/
def isDigitText (t : Text) : Bool := t ≠ [] && t.all Unicode.hasDigitValue

/-- `str.isalpha`. -/
def isAlphaText (t : Text) : Bool := t ≠ [] && t.all Unicode.isAlphabetic

/-- The runs of `size` consecutive words. -/
def windows (size : ℕ) (words : List Text) : List (List Text) :=
  (List.range (words.length + 1 - size)).map fun i => (words.drop i).take size

/-- The two words before and the two words after a position. -/
def contextWindow (words : List Text) (index : ℕ) : List Text :=
  (words.take index).drop (index - 2) ++ (words.drop (index + 1)).take 2

/-! ## Signal of words -/

/-- `_looks_identifier_like`. -/
def looksIdentifierLike (word : Text) : Bool :=
  word.any Unicode.hasDigitValue && 6 ≤ word.length && 4 ≤ distinctCount word

/-- `_looks_mixed_identifier_like`. -/
def looksMixedIdentifierLike (word : Text) : Bool :=
  word ∉ commonTechTokens && word.any Unicode.isAlphabetic && word.any Unicode.hasDigitValue &&
    6 ≤ word.length && 4 ≤ distinctCount word

/-- `_has_enough_word_signal`. -/
def hasEnoughWordSignal (word : Text) (words : List Text) (index : ℕ) : Bool :=
  if word ∈ commonMemoryWords ∨ word ∈ commonTechTokens then false
  else if words.length = 1 then 5 ≤ word.length && 4 ≤ distinctCount word
  else
    let highSignal := (contextWindow words index).any (· ∈ highSignalContextWords)
    if looksIdentifierLike word then
      if looksMixedIdentifierLike word then true else highSignal
    else if 10 ≤ word.length ∧ 6 ≤ distinctCount word then true
    else 5 ≤ word.length && 4 ≤ distinctCount word && highSignal

/-- `_common_word_numeric_prefix`. -/
def commonWordNumericPrefix (compactToken : Text) : Option Text :=
  commonMemoryWords.find? fun word =>
    compactToken.startsWith word && isDigitText (compactToken.drop word.length)

/-- `_has_meaningful_compact_raw_token_signal`. -/
def hasMeaningfulCompactRawTokenSignal (compactToken : Text) (words : List Text) (index : ℕ) :
    Bool :=
  let highSignal := (contextWindow words index).any (· ∈ highSignalContextWords)
  if compactToken ∈ commonTechTokens then false
  else
    match commonWordNumericPrefix compactToken with
    | some word => decide (word ∈ identifierNumericPrefixWords) || highSignal
    | none =>
      if isDigitText compactToken then highSignal
      else looksMixedIdentifierLike compactToken || 5 ≤ compactToken.length

/-- `_has_meaningful_delimited_alpha_token_signal`. -/
def hasMeaningfulDelimitedAlphaTokenSignal (compactToken : Text) : Bool :=
  isAlphaText compactToken && compactToken ∉ commonMemoryWords && compactToken ∉ commonTechTokens &&
    5 ≤ compactToken.length && 4 ≤ distinctCount compactToken

/-! ## Signal of phrases -/

/-- `_is_common_numeric_memory_fragment`. -/
def isCommonNumericMemoryFragment (normalized : Text) : Bool :=
  match normalized.splitWords with
  | [first, second] =>
    (decide (first ∈ commonMemoryWords) && isDigitText second) ||
      (isDigitText first && decide (second ∈ commonMemoryWords))
  | _ => false

/-- `_has_enough_fragment_signal`. -/
def hasEnoughFragmentSignal (fragment : Text) : Bool :=
  let words := fragment.splitWords
  if isCommonNumericMemoryFragment fragment then false
  else if 3 ≤ words.length then 10 ≤ fragment.length && 5 ≤ distinctCount (compact fragment)
  else if words.length = 2 then
    10 ≤ fragment.length && 5 ≤ distinctCount (compact fragment) &&
      (words.any (· ∈ sensitiveWords) || !words.all (· ∈ commonMemoryWords))
  else 7 ≤ fragment.length && 5 ≤ distinctCount (compact fragment)

/-- `_exact_memory_body_is_meaningful`. -/
def exactMemoryBodyIsMeaningful (normalized : Text) : Bool :=
  let words := normalized.splitWords
  if words = [] then false
  else if words.all (· ∈ commonMemoryWords) then false
  else if compact normalized ∈ commonTechTokens then false
  else if isCommonNumericMemoryFragment normalized then false
  else
    match words with
    | [word] =>
      word ∉ commonTechTokens && word ∉ commonMemoryWords && 4 ≤ word.length &&
        4 ≤ distinctCount word
    | _ => 4 ≤ normalized.length && 4 ≤ distinctCount (compact normalized)

/-- `_full_memory_fragment_is_meaningful`. -/
def fullMemoryFragmentIsMeaningful (normalized : Text) : Bool :=
  decide (' ' ∈ normalized) && exactMemoryBodyIsMeaningful normalized

/-! ## Delimiters -/

/-- `(?:[^\w\s]|_)`. -/
def isDelimiter (c : Char) : Bool := c == '_' || !(Unicode.isWord c || Unicode.isSpace c)

/-- `[A-Za-z]+(?:[^\w\s]|_)`. -/
def lettersDelimiter : Expr :=
  .pattern (Pattern.many 1 fun c => Unicode.isUpper c || Unicode.isLower c) ++ one isDelimiter

/-- `[A-Za-z0-9]*\d`. -/
def endsInDigit : Expr :=
  .pattern (Pattern.many 0 Unicode.isAsciiAlphanumeric) ++ one Unicode.isDecimal

/-- `\d(?:[^\w\s]|_)[A-Za-z0-9]+`. -/
def digitDelimiter : Expr :=
  one Unicode.isDecimal ++ (one isDelimiter ++ .pattern
    (Pattern.many 1 Unicode.isAsciiAlphanumeric))

/-- `_has_high_signal_context`. -/
def hasHighSignalContext (words : List Text) (rawFragment : Text) : Bool :=
  words.any (· ∈ highSignalContextWords) ||
    (choice (lettersDelimiter ++ endsInDigit) [digitDelimiter,
      lettersDelimiter ++ .pattern (Pattern.many 1 fun c => Unicode.isUpper c || Unicode.isLower c)]
      ).search rawFragment

/-- `_has_enough_compact_fragment_signal`. -/
def hasEnoughCompactFragmentSignal (fragment rawFragment : Text) : Bool :=
  let words := fragment.splitWords
  hasMeaningfulCompactRawTokenSignal (compact fragment) words 0 &&
    (looksIdentifierLike (compact fragment) || hasHighSignalContext words rawFragment)

/-- `_compact_raw_token`. -/
def compactRawToken (rawToken : Text) : Option Text :=
  let token := compact (normalizeMemoryText rawToken)
  if rawToken.any isDelimiter = false then none
  else if token.length < 5 ∨ distinctCount token < 4 then none
  else some token

/-- `_raw_token_has_high_signal_context`. -/
def rawTokenHasHighSignalContext (rawTokens : List Text) (index : ℕ) : Bool :=
  let token := normalizeMemoryText (rawTokens.getD index [])
  let context := normalizeMemoryText (Text.join [' '] (contextWindow rawTokens index))
  token.splitWords.any (· ∈ highSignalContextWords) ||
    context.splitWords.any (· ∈ highSignalContextWords)

/-- `_raw_token_has_delimiter_signal`. -/
def rawTokenHasDelimiterSignal (rawToken : Text) : Bool :=
  (.pattern (Pattern.many 1 Unicode.isAsciiAlphanumeric) ++ (one isDelimiter ++
    .pattern (Pattern.many 1 Unicode.isAsciiAlphanumeric)) : Expr).search rawToken

/-- `_raw_token_has_delimiter_digit_signal`. -/
def rawTokenHasDelimiterDigitSignal (rawToken : Text) : Bool :=
  (Expr.alt (.pattern (Pattern.many 1 Unicode.isAsciiAlphanumeric) ++
    (one isDelimiter ++ endsInDigit)) digitDelimiter).search rawToken

/-! ## Fragments -/

/-- The windows of two to five words that have enough signal, with the raw tokens beside them. -/
def windowFragments (words rawTokens : List Text) : List Text :=
  (List.range' 2 (min 5 words.length + 1 - 2)).flatMap fun size =>
    (List.range (words.length + 1 - size)).filterMap fun index =>
      let fragment := Text.join [' '] ((words.drop index).take size)
      let rawFragment := Text.join [' '] ((rawTokens.drop index).take size)
      if hasEnoughFragmentSignal fragment || hasEnoughCompactFragmentSignal fragment
        rawFragment then
        some fragment
      else none

/-- `_meaningful_memory_fragments`; the order of the fragments does not matter.  A normalised text
contains no full stop, so that its only sentence is the text. -/
def meaningfulMemoryFragments (memoryBody : Text) : List Text :=
  let normalized := normalizeMemoryText memoryBody
  let rawTokens := memoryBody.splitWords
  let words := normalized.splitWords
  (if fullMemoryFragmentIsMeaningful normalized then [normalized] else []) ++
  (if 16 ≤ normalized.length then [normalized] else []) ++
  ((List.range words.length).filterMap fun index =>
    let word := words.getD index []
    if hasEnoughWordSignal word words index then some word else none) ++
  ((List.range rawTokens.length).filterMap fun index =>
    let rawToken := rawTokens.getD index []
    (compactRawToken rawToken).filter fun token =>
      (rawTokenHasHighSignalContext rawTokens index || rawTokenHasDelimiterDigitSignal rawToken ||
        rawTokenHasDelimiterSignal rawToken) &&
        hasMeaningfulCompactRawTokenSignal token words index) ++
  windowFragments words rawTokens ++
  ((windows 6 words).map (Text.join [' '])).filter fun fragment => 24 ≤ fragment.length

/-- `_normalized_phrase_in_text`. -/
def normalizedPhraseInText (phrase text : Text) : Bool :=
  match phrase.splitWords with
  | [word] => decide (word ∈ text.splitWords)
  | _ => Text.contains (' ' :: (text ++ [' '])) (' ' :: (phrase ++ [' ']))

/-- `_high_signal_compact_fragment`. -/
def highSignalCompactFragment (compactFragment : Text) : Bool :=
  compactFragment ∉ commonTechTokens && (commonWordNumericPrefix compactFragment).isNone &&
    5 ≤ compactFragment.length && (looksMixedIdentifierLike compactFragment ||
      compactFragment.containsAny ["secret", "codename"])

/-- `_compact_fragment_in_text`. -/
def compactFragmentInText (compactFragment normalizedText : Text) : Bool :=
  let words := normalizedText.splitWords
  ((List.range' 1 (min 4 words.length)).any fun size =>
    (windows size words).any fun window => decide (window.flatten = compactFragment)) ||
  (highSignalCompactFragment compactFragment &&
    Text.contains (compact normalizedText) compactFragment)

/-- The check of one fragment in the loop of `memory_body_overlaps_text`. -/
def fragmentOverlapsText (normalizedMemory normalizedText fragment : Text) : Bool :=
  let compactFragment := compact fragment
  if ' ' ∈ fragment then
    ((hasEnoughFragmentSignal fragment || decide (fragment = normalizedMemory)) &&
      normalizedPhraseInText fragment normalizedText) ||
    ((hasEnoughCompactFragmentSignal compactFragment [] ||
      (hasEnoughFragmentSignal fragment &&
        hasMeaningfulCompactRawTokenSignal compactFragment fragment.splitWords 0)) &&
      compactFragmentInText compactFragment normalizedText)
  else
    decide (fragment ∈ normalizedText.splitWords) ||
    (looksMixedIdentifierLike fragment && compactFragmentInText compactFragment normalizedText)

/-- The check of one raw token of the body in `memory_body_overlaps_text`. -/
def rawTokenOverlapsText (normalizedText rawToken : Text) : Bool :=
  match compactRawToken rawToken with
  | none => false
  | some token =>
    token ≠ [] && rawTokenHasDelimiterSignal rawToken &&
      hasMeaningfulDelimitedAlphaTokenSignal token && compactFragmentInText token normalizedText

/-- `memory_body_overlaps_text`. -/
def memoryBodyOverlapsText (memoryBody : Option Text) (text : Text) : Bool :=
  match memoryBody with
  | none => false
  | some body =>
    let normalizedMemory := normalizeMemoryText body
    let normalizedText := normalizeMemoryText text
    body ≠ [] &&
      ((exactMemoryBodyIsMeaningful normalizedMemory &&
          normalizedPhraseInText normalizedMemory normalizedText) ||
        body.splitWords.any (rawTokenOverlapsText normalizedText) ||
        (meaningfulMemoryFragments body).any (fragmentOverlapsText normalizedMemory normalizedText))

/-! ## Words of normalised texts -/

/-- White space is no part of a word. -/
lemma isWord_of_isSpace {c : Char} (h : Unicode.isSpace c = true) : Unicode.isWord c = false := by
  have hcodes : ∀ n ∈ List.range' 9 5 ++ List.range' 0x1c 5 ++ [0x85, 0xa0, 0x1680] ++
      List.range' 0x2000 11 ++ [0x2028, 0x2029, 0x202f, 0x205f, 0x3000],
      Unicode.isWord (Char.ofNat n) = false := by decide +kernel
  have hmem : c.toNat ∈ List.range' 9 5 ++ List.range' 0x1c 5 ++ [0x85, 0xa0, 0x1680] ++
      List.range' 0x2000 11 ++ [0x2028, 0x2029, 0x202f, 0x205f, 0x3000] := by
    simp only [Unicode.isSpace, Bool.or_eq_true, Bool.and_eq_true, decide_eq_true_eq,
      beq_iff_eq] at h
    simp only [List.mem_append, List.mem_range'_1, List.mem_cons, List.not_mem_nil, or_false]
    omega
  have hword := hcodes _ hmem
  rwa [Char.ofNat_toNat] at hword

/-- A list of words without separators. -/
structure AreWords (words : List Text) : Prop where
  /-- No word is empty. -/
  ne_nil : ∀ w ∈ words, w ≠ []
  /-- No word contains a separator. -/
  alphanumeric : ∀ w ∈ words, ∀ c ∈ w, isMemorySeparator c = false

/-- The words of a text are words. -/
lemma areWords_memoryWords (value : Text) : AreWords (memoryWords value) :=
  ⟨fun _ hw => Text.ne_nil_of_mem_runs hw, fun _ hw _ hc => Text.separator_of_mem_runs hw hc⟩

namespace AreWords

variable {words run : List Text}

/-- Some of the words. -/
lemma sublist (h : AreWords words) (hrun : run <:+: words) : AreWords run :=
  ⟨fun w hw => h.ne_nil w (hrun.subset hw), fun w hw => h.alphanumeric w (hrun.subset hw)⟩

/-- A word contains no white space. -/
lemma not_space (h : AreWords words) {w : Text} (hw : w ∈ words) {c : Char} (hc : c ∈ w) :
    Unicode.isSpace c = false := by
  by_contra hspace
  rw [Bool.not_eq_false] at hspace
  have hsep := h.alphanumeric w hw c hc
  simp [isMemorySeparator, Unicode.isAlphanumeric, isWord_of_isSpace hspace] at hsep

/-- A word contains no blank. -/
lemma blank_not_mem (h : AreWords words) {w : Text} (hw : w ∈ words) : ' ' ∉ w := by
  intro hc
  have hblank := h.not_space hw hc
  exact absurd hblank (by decide)

/-- The words of the phrase are the words. -/
lemma splitWords_join (h : AreWords words) : (Text.join [' '] words).splitWords = words :=
  Text.runs_join (by decide) h.ne_nil fun _ hw _ hc => h.not_space hw hc

/-- The phrase without its blanks. -/
lemma compact_join (h : AreWords words) : compact (Text.join [' '] words) = words.flatten := by
  induction words with
  | nil => rfl
  | cons w ws ih =>
    have hw : compact w = w := by
      refine List.filter_eq_self.2 fun c hc => ?_
      have hblank := h.blank_not_mem List.mem_cons_self
      have hne : c ≠ ' ' := by
        rintro rfl
        exact hblank hc
      simpa using hne
    have hrest := ih (h.sublist (List.suffix_cons w ws).isInfix)
    rcases ws with _ | ⟨v, vs⟩
    · simpa [Text.join] using hw
    · have hjoin : Text.join [' '] (w :: v :: vs) = w ++ ' ' :: Text.join [' '] (v :: vs) := by
        simp [Text.join, List.intercalate]
      unfold compact at hw hrest ⊢
      rw [hjoin, List.filter_append, List.filter_cons_of_neg (by simp), hw, hrest]
      rfl

end AreWords

/-- A normalized text has the same words. -/
@[simp] lemma splitWords_normalizeMemoryText (value : Text) :
    (normalizeMemoryText value).splitWords = memoryWords value :=
  (areWords_memoryWords value).splitWords_join

/-- Every word with a blank in front of it. -/
lemma cons_join {words : List Text} (h : words ≠ []) :
    ' ' :: Text.join [' '] words = words.flatMap fun w => ' ' :: w := by
  induction words with
  | nil => contradiction
  | cons w ws ih =>
    rcases ws with _ | ⟨v, vs⟩
    · simp [Text.join]
    · have hjoin : Text.join [' '] (w :: v :: vs) = w ++ ' ' :: Text.join [' '] (v :: vs) := by
        simp [Text.join, List.intercalate]
      rw [hjoin, ih (by simp)]
      simp only [List.flatMap_cons, List.cons_append]

/-- A run of words is a phrase of the text. -/
lemma contains_of_infix {run words : List Text} (hne : run ≠ []) (h : run <:+: words) :
    Text.contains (' ' :: (Text.join [' '] words ++ [' ']))
      (' ' :: (Text.join [' '] run ++ [' '])) = true := by
  obtain ⟨before, after, rfl⟩ := h
  have hwords : before ++ run ++ after ≠ [] := by simp [hne]
  unfold Text.contains
  rw [decide_eq_true_eq, ← List.cons_append, ← List.cons_append, cons_join hne, cons_join hwords,
    List.flatMap_append, List.flatMap_append]
  refine ⟨before.flatMap fun w => ' ' :: w, ?_⟩
  rcases after with _ | ⟨w, ws⟩
  · exact ⟨[], by simp⟩
  · exact ⟨w ++ (ws.flatMap fun w => ' ' :: w) ++ [' '], by simp⟩

/-- A run of at least two words is found as a phrase. -/
lemma normalizedPhraseInText_of_infix {run words : List Text} (hwords : AreWords words)
    (hlen : 2 ≤ run.length) (h : run <:+: words) :
    normalizedPhraseInText (Text.join [' '] run) (Text.join [' '] words) = true := by
  have hne : run ≠ [] := by
    rintro rfl
    simp at hlen
  unfold normalizedPhraseInText
  rw [(hwords.sublist h).splitWords_join]
  split
  · simp at hlen
  · exact contains_of_infix hne h

/-! ## What overlaps -/

/-- A run of words with enough signal: three to five words with at least ten characters, five of
them different, or six words with at least twenty-four. -/
structure MeaningfulRun (run : List Text) : Prop where
  /-- At least three words. -/
  three_le : 3 ≤ run.length
  /-- At most five words, or six long ones. -/
  short : run.length ≤ 5 ∨ run.length = 6 ∧ 24 ≤ (Text.join [' '] run).length
  /-- At least ten characters, blanks included. -/
  length : 10 ≤ (Text.join [' '] run).length
  /-- At least five different characters, blanks excluded. -/
  distinct : 5 ≤ distinctCount run.flatten

/-- A run with enough signal is a fragment with enough signal. -/
lemma MeaningfulRun.hasEnoughFragmentSignal {run : List Text} (h : MeaningfulRun run)
    (hwords : AreWords run) : hasEnoughFragmentSignal (Text.join [' '] run) = true := by
  have hthree := h.three_le
  have hnumeric : isCommonNumericMemoryFragment (Text.join [' '] run) = false := by
    unfold isCommonNumericMemoryFragment
    rw [hwords.splitWords_join]
    split
    · simp at hthree
    · rfl
  unfold ReviewGraph.hasEnoughFragmentSignal
  dsimp only
  rw [hnumeric, hwords.splitWords_join, hwords.compact_join, if_neg (by simp), if_pos hthree]
  simp [h.length, h.distinct]

/-- A run with enough signal is among the fragments of a body that contains it. -/
lemma MeaningfulRun.mem_fragments {run : List Text} {body : Text} (h : MeaningfulRun run)
    (hrun : run <:+: memoryWords body) :
    Text.join [' '] run ∈ meaningfulMemoryFragments body := by
  have hsignal := h.hasEnoughFragmentSignal ((areWords_memoryWords body).sublist hrun)
  have hthree := h.three_le
  have hle := hrun.length_le
  obtain ⟨before, after, hwords⟩ := hrun
  have hwindow : ((memoryWords body).drop before.length).take run.length = run := by
    rw [← hwords, List.append_assoc, List.drop_left, List.take_left]
  have hlength := congrArg List.length hwords
  rw [List.length_append, List.length_append] at hlength
  unfold meaningfulMemoryFragments
  simp only [splitWords_normalizeMemoryText, List.mem_append]
  rcases h.short with hfive | ⟨hsix, hlong⟩
  · -- the loop over the windows of two to five words
    have hmem : Text.join [' '] run ∈ windowFragments (memoryWords body) body.splitWords := by
      unfold windowFragments
      refine List.mem_flatMap.2 ⟨run.length, ?_, List.mem_filterMap.2 ⟨before.length, ?_, ?_⟩⟩
      · rw [List.mem_range'_1]
        omega
      · rw [List.mem_range]
        omega
      · dsimp only
        rw [hwindow, hsignal, Bool.true_or, if_pos rfl]
    exact .inl (.inr hmem)
  · -- the loop over the windows of six words
    have hmem : run ∈ windows 6 (memoryWords body) := by
      refine List.mem_map.2 ⟨before.length, List.mem_range.2 (by omega), ?_⟩
      rw [← hsix, hwindow]
    exact .inr (List.mem_filter.2 ⟨List.mem_map_of_mem hmem, decide_eq_true hlong⟩)

/-- A body that contributes a word is not empty. -/
lemma ne_nil_of_mem_memoryWords {body w : Text} (h : w ∈ memoryWords body) : body ≠ [] := by
  rintro rfl
  simp [memoryWords, Text.casefold, Text.runs] at h

/-- A fragment that overlaps the text decides. -/
lemma memoryBodyOverlapsText_of_fragment {body text fragment w : Text}
    (hw : w ∈ memoryWords body) (hmem : fragment ∈ meaningfulMemoryFragments body)
    (hoverlap : fragmentOverlapsText (normalizeMemoryText body) (normalizeMemoryText text)
      fragment =
      true) :
    memoryBodyOverlapsText (some body) text = true := by
  have hany : (meaningfulMemoryFragments body).any
      (fragmentOverlapsText (normalizeMemoryText body) (normalizeMemoryText text)) = true :=
    List.any_eq_true.2 ⟨fragment, hmem, hoverlap⟩
  unfold memoryBodyOverlapsText
  dsimp only
  rw [hany, Bool.or_true, Bool.and_true, decide_eq_true_eq]
  exact ne_nil_of_mem_memoryWords hw

/-- A run of the body with enough signal that occurs in the text is an overlap. -/
theorem memoryBodyOverlapsText_of_run {body text : Text} {run : List Text} (h : MeaningfulRun run)
    (hbody : run <:+: memoryWords body) (htext : run <:+: memoryWords text) :
    memoryBodyOverlapsText (some body) text = true := by
  have hwords := (areWords_memoryWords body).sublist hbody
  have hthree := h.three_le
  obtain ⟨w, ws, rfl⟩ := List.exists_cons_of_length_pos (by omega : 0 < run.length)
  obtain ⟨v, vs, rfl⟩ := List.exists_cons_of_length_pos
    (by rw [List.length_cons] at hthree; omega : 0 < ws.length)
  have hblank : ' ' ∈ Text.join [' '] (w :: v :: vs) := by
    simp [Text.join, List.intercalate]
  have hphrase : normalizedPhraseInText (Text.join [' '] (w :: v :: vs))
      (normalizeMemoryText text) =
      true :=
    normalizedPhraseInText_of_infix (areWords_memoryWords text) (by omega) htext
  refine memoryBodyOverlapsText_of_fragment (hbody.subset List.mem_cons_self)
    (h.mem_fragments hbody) ?_
  unfold fragmentOverlapsText
  dsimp only
  rw [if_pos hblank, h.hasEnoughFragmentSignal hwords, hphrase]
  simp

/-- A body of several words and sixteen characters that occurs in the text as a whole is an
overlap. -/
theorem memoryBodyOverlapsText_of_body {body text : Text} (hlen : 2 ≤ (memoryWords body).length)
    (hlong : 16 ≤ (normalizeMemoryText body).length)
    (htext : memoryWords body <:+: memoryWords text) :
    memoryBodyOverlapsText (some body) text = true := by
  obtain ⟨w, v, rest, hwords⟩ : ∃ w v rest, memoryWords body = w :: v :: rest := by
    match hcases : memoryWords body with
    | [] => simp [hcases] at hlen
    | [_] => simp [hcases] at hlen
    | w :: v :: rest => exact ⟨w, v, rest, rfl⟩
  have hblank : ' ' ∈ normalizeMemoryText body := by
    simp [normalizeMemoryText, hwords, Text.join, List.intercalate]
  have hphrase : normalizedPhraseInText (normalizeMemoryText body) (normalizeMemoryText text) =
      true :=
    normalizedPhraseInText_of_infix (areWords_memoryWords text) hlen htext
  have hmem : normalizeMemoryText body ∈ meaningfulMemoryFragments body := by
    unfold meaningfulMemoryFragments
    simp only [List.mem_append, if_pos hlong, List.mem_singleton]
    simp
  refine memoryBodyOverlapsText_of_fragment (hwords ▸ List.mem_cons_self) hmem ?_
  unfold fragmentOverlapsText
  dsimp only
  rw [if_pos hblank, hphrase]
  simp

/-- A word that mixes letters and digits, and is on neither list of common words. -/
structure MixedIdentifier (word : Text) : Prop where
  /-- The word contains a letter. -/
  letter : ∃ c ∈ word, Unicode.isAlphabetic c = true
  /-- The word contains a digit. -/
  digit : ∃ c ∈ word, Unicode.hasDigitValue c = true
  /-- At least six characters. -/
  length : 6 ≤ word.length
  /-- At least four different characters. -/
  distinct : 4 ≤ distinctCount word
  /-- No common word. -/
  notCommon : word ∉ commonMemoryWords
  /-- No common technology. -/
  notTech : word ∉ commonTechTokens

/-- A mixed identifier has enough signal wherever it stands. -/
lemma MixedIdentifier.hasEnoughWordSignal {word : Text} (h : MixedIdentifier word)
    (words : List Text) (index : ℕ) : hasEnoughWordSignal word words index = true := by
  have hletter : word.any Unicode.isAlphabetic = true := List.any_eq_true.2 h.letter
  have hdigit : word.any Unicode.hasDigitValue = true := List.any_eq_true.2 h.digit
  have hlength := h.length
  have hfive : 5 ≤ word.length := by omega
  have hidentifier : looksIdentifierLike word = true := by
    simp [looksIdentifierLike, hdigit, hlength, h.distinct]
  have hmixed : looksMixedIdentifierLike word = true := by
    simp [looksMixedIdentifierLike, hletter, hdigit, hlength, h.distinct, h.notTech]
  unfold ReviewGraph.hasEnoughWordSignal
  dsimp only
  rw [if_neg (by simp [h.notCommon, h.notTech])]
  by_cases hone : words.length = 1
  · rw [if_pos hone]
    simp [hfive, h.distinct]
  · rw [if_neg hone, if_pos hidentifier, if_pos hmixed]

/-- A mixed identifier of the body that is a word of the text is an overlap. -/
theorem memoryBodyOverlapsText_of_word {body text word : Text} (h : MixedIdentifier word)
    (hbody : word ∈ memoryWords body) (htext : word ∈ memoryWords text) :
    memoryBodyOverlapsText (some body) text = true := by
  have hblank := (areWords_memoryWords body).blank_not_mem hbody
  have hmem : word ∈ meaningfulMemoryFragments body := by
    obtain ⟨index, hindex, hget⟩ := List.mem_iff_getElem.1 hbody
    have hword : word ∈ (List.range (memoryWords body).length).filterMap fun index =>
        if hasEnoughWordSignal ((memoryWords body).getD index []) (memoryWords body) index then
          some ((memoryWords body).getD index []) else none := by
      refine List.mem_filterMap.2 ⟨index, List.mem_range.2 hindex, ?_⟩
      rw [List.getD_eq_getElem _ _ hindex, hget, if_pos (h.hasEnoughWordSignal _ _)]
    unfold meaningfulMemoryFragments
    simp only [splitWords_normalizeMemoryText, List.mem_append]
    exact .inl (.inl (.inl (.inr hword)))
  refine memoryBodyOverlapsText_of_fragment hbody hmem ?_
  unfold fragmentOverlapsText
  dsimp only
  rw [if_neg hblank, splitWords_normalizeMemoryText]
  simp [htext]

end ReviewGraph
