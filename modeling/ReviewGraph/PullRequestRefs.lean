import ReviewGraph.ContextBudget
import ReviewGraph.MarkerParsers
import ReviewGraph.PagedReads
import ReviewGraph.PatchGrammar
import ReviewGraph.TextReaders

/-!
# References of pull requests

`parse_github_pr_ref` of `github.py` reads a reference `owner/repo#n` with a regular expression and
a URL with `urlparse`.  The address check of `urlparse` for hosts in brackets and the compatibility
normalization of hosts are parameters.
-/

namespace ReviewGraph

/-! ## Numbers -/

/-- `int` of a text of digits; it raises a `ValueError` for digits that are not decimal and for
texts that are too long. -/
def readNumber (t : Text) : Option ℕ :=
  if t.all Unicode.isDecimal then (intOfDigits t).toOption else none

/-! ## `urlparse` -/

/-- The parts of a URL that are read. -/
structure ParsedUrl where
  scheme : Text
  netloc : Text
  path : Text
  query : Text
  fragment : Text
  deriving DecidableEq

/-- The text without leading control characters and blanks, and without tabs and line breaks. -/
def cleanUrl (url : Text) : Text :=
  (url.dropWhile fun c => c.toNat ≤ 0x20).filter fun c => c ∉ ['\t', '\r', '\n']

/-- A character of a scheme. -/
def isSchemeChar (c : Char) : Bool := Unicode.isAsciiAlphanumeric c || c ∈ ['+', '-', '.']

/-- The scheme of a URL and what follows it. -/
def splitScheme (url : Text) : Text × Text :=
  let (scheme, rest) := splitFirst ':' url
  if ':' ∈ url ∧ (scheme.head?.any fun c => Unicode.isUpper c || Unicode.isLower c) ∧
      scheme.all isSchemeChar then (scheme.map asciiLower, rest)
  else ([], url)

/-- `_splitnetloc`, if the URL has an authority. -/
def splitNetloc (url : Text) : Text × Text :=
  match url with
  | '/' :: '/' :: rest =>
    (rest.takeWhile fun c => c ∉ ['/', '?', '#'], rest.dropWhile fun c => c ∉ ['/', '?', '#'])
  | _ => ([], url)

/-- `uses_params`. -/
def usesParams : List Text :=
  ["", "ftp", "hdl", "prospero", "http", "imap", "https", "shttp", "rtsp", "rtspu", "rtsps", "sip",
    "sips", "mms", "sftp", "tel"]

/-- `_splitparams`: the path without the parameters of its last segment. -/
def withoutParams (path : Text) : Text :=
  (path.reverse.dropWhile (· ≠ '/')).reverse ++
    (path.reverse.takeWhile (· ≠ '/')).reverse.takeWhile (· ≠ ';')

section Parser

variable (nfkc : Text → Text) (isBracketedNetloc : Text → Bool)

/-- `_checknetloc`. -/
def checkNetloc (netloc : Text) : Bool :=
  let bare := netloc.filter fun c => c ∉ ['@', ':', '#', '?']
  netloc.all (fun c => c.toNat < 128) || decide (bare = nfkc bare) ||
    (nfkc bare).all fun c => c ∉ ['/', '?', '#', '@', ':']

/-- The brackets of a host are paired and contain an address. -/
def checkBrackets (netloc : Text) : Bool :=
  decide ('[' ∈ netloc ↔ ']' ∈ netloc) && (decide ('[' ∉ netloc) || isBracketedNetloc netloc)

/-- `urlparse`; `none` stands for a `ValueError`. -/
def urlparse (value : Text) : Option ParsedUrl :=
  let (scheme, afterScheme) := splitScheme (cleanUrl value)
  let (netloc, afterNetloc) := splitNetloc afterScheme
  let (beforeFragment, fragment) := splitFirst '#' afterNetloc
  let (path, query) := splitFirst '?' beforeFragment
  if checkBrackets isBracketedNetloc netloc ∧ checkNetloc nfkc netloc then
    some {
      scheme, netloc, query, fragment
      path := if scheme ∈ usesParams then withoutParams path else path }
  else none

/-! ## `parse_github_pr_ref` -/

/-- A character of the name of an owner or a repository. -/
def isPartChar (c : Char) : Bool := Unicode.isAsciiAlphanumeric c || c ∈ ['_', '.', '-']

/-- A name of an owner or a repository. -/
def isPart (t : Text) : Bool := t ≠ [] && t.all isPartChar

/-- `_valid_owner_repo_part`; the pattern also matches in front of a final line break. -/
def validOwnerRepoPart (t : Text) : Bool :=
  isPart t || (decide (t.getLast? = some '\n') && isPart t.dropLast)

/-- The digits of a positive number. -/
def isNumeral (t : Text) : Bool :=
  t.all Unicode.isDigit && t.head?.any (· ≠ '0')

/-- The match of `_SHORT_REF_RE`: the owner, the repository, the number, and whether a line break
follows. -/
def shortRef (value : Text) : Option (Text × Text × Text × Bool) :=
  let (owner, afterOwner) := splitFirst '/' value
  let (repo, afterRepo) := splitFirst '#' afterOwner
  let number := afterRepo.takeWhile Unicode.isDigit
  let rest := afterRepo.dropWhile Unicode.isDigit
  if '/' ∈ value ∧ '#' ∈ afterOwner ∧ isPart owner ∧ isPart repo ∧ isNumeral number ∧
      (rest = [] ∨ rest = ['\n']) then some (owner, repo, number, decide (rest ≠ []))
  else none

/-- The exceptions of the parser. -/
inductive PRRefError
  | gitHubReadError (code message : Text)
  | valueError
  deriving DecidableEq

/-- `_raise_invalid_ref`. -/
def invalidRef : Except PRRefError GitHubPRRef :=
  .error (.gitHubReadError "invalid_pr_ref" "invalid GitHub PR reference")

/-- The segments of a path that are not empty. -/
def segments (path : Text) : List Text := (path.splitOn '/').filter (· ≠ [])

/-- `parse_github_pr_ref`. -/
def parseGithubPrRef (value : Text) : Except PRRefError GitHubPRRef :=
  match shortRef value with
  | some (owner, repo, number, _) =>
    match readNumber number with
    | some n => .ok ⟨owner, repo, n⟩
    | none => .error .valueError
  | none =>
    match urlparse nfkc isBracketedNetloc value with
    | none => .error .valueError
    | some parsed =>
      if parsed.scheme = "https" ∧ parsed.netloc = "github.com" ∧ parsed.query = [] ∧
          parsed.fragment = [] then
        match segments parsed.path with
        | [owner, repo, pull, number] =>
          if pull = "pull" ∧ number.all Unicode.hasDigitValue then
            match readNumber number with
            | none => .error .valueError
            | some n =>
              if 0 < n ∧ parsed.path.getLast? ≠ some '/' ∧ validOwnerRepoPart owner ∧
                  validOwnerRepoPart repo then .ok ⟨owner, repo, n⟩
              else invalidRef
          else invalidRef
        | _ => invalidRef
      else invalidRef

/-! ## The documented forms -/

/-- `owner/repo#n`. -/
def shortForm (owner repo number : Text) : Text := owner ++ '/' :: (repo ++ '#' :: number)

/-- `https://github.com/owner/repo/pull/n`. -/
def urlForm (owner repo number : Text) : Text :=
  "https://github.com/" ++ (owner ++ ("/" ++ (repo ++ ("/pull/" ++ number))))

/-- The text is one of the two documented forms of a reference. -/
def IsFormOf (ref : GitHubPRRef) (value : Text) : Prop :=
  isPart ref.owner = true ∧ isPart ref.repo = true ∧ 0 < ref.prNumber ∧
    ∃ number, isNumeral number = true ∧ decimalNat number = ref.prNumber ∧
      (value = shortForm ref.owner ref.repo number ∨ value = urlForm ref.owner ref.repo number)

/-- The parser returns a reference of which the text is a documented form, or raises a
`GitHubReadError`. -/
def IsLawful (value : Text) : Prop :=
  match parseGithubPrRef nfkc isBracketedNetloc value with
  | .ok ref => IsFormOf ref value
  | .error (.gitHubReadError _ _) => True
  | .error .valueError => False

/-- A URL of GitHub with four segments, the third of which is `pull` and the last of which consists
of digits. -/
def IsPullUrl (parsed : ParsedUrl) (owner repo number : Text) : Prop :=
  parsed.scheme = "https" ∧ parsed.netloc = "github.com" ∧ parsed.query = [] ∧
    parsed.fragment = [] ∧
    segments parsed.path = [owner, repo, "pull", number] ∧ number.all Unicode.hasDigitValue = true

/-- A match of the pattern has no line break behind it and no more digits than `int` reads.  Another
text can be parsed as a URL, and if it is one of a pull request, then `int` reads its number, and it
is refused for its number, for a slash behind it, or for a name, or it is the documented form. -/
def IsExact (value : Text) : Prop :=
  match shortRef value with
  | some (_, _, number, lineBreak) => lineBreak = false ∧ number.length ≤ maxIntDigits
  | none =>
    ∃ parsed, urlparse nfkc isBracketedNetloc value = some parsed ∧
      ∀ owner repo number, IsPullUrl parsed owner repo number →
        number.all Unicode.isDecimal = true ∧ number.length ≤ maxIntDigits ∧
        (decimalNat number = 0 ∨ parsed.path.getLast? = some '/' ∨
          validOwnerRepoPart owner = false ∨
          validOwnerRepoPart repo = false ∨
          (isPart owner = true ∧ isPart repo = true ∧ isNumeral number = true ∧
            value = urlForm owner repo number))

/-! ## Characters of names -/

/-- The characters that separate the parts of a reference or are removed from it. -/
def refSeparators : List Char := ['\t', '\r', '\n', '/', ':', '?', '#', ';']

/-- A character of a name is no separator. -/
lemma not_separator_of_isPartChar {c : Char} (h : isPartChar c = true) : c ∉ refSeparators := by
  intro hmem
  have hnone : refSeparators.all (fun d => !isPartChar d) = true := by rfl
  have hc := List.all_eq_true.1 hnone c hmem
  rw [h] at hc
  contradiction

/-- A digit is a character of a name. -/
lemma isPartChar_of_isDigit {c : Char} (h : Unicode.isDigit c = true) : isPartChar c = true := by
  simp [isPartChar, Unicode.isAsciiAlphanumeric, h]

/-- A name is not empty. -/
lemma isPart_ne_nil {t : Text} (h : isPart t = true) : t ≠ [] :=
  of_decide_eq_true (Bool.and_eq_true_iff.1 h).1

/-- A name has no separator. -/
lemma not_separator_of_isPart {t : Text} (h : isPart t = true) {c : Char} (hc : c ∈ t) :
    c ∉ refSeparators :=
  not_separator_of_isPartChar (List.all_eq_true.1 (Bool.and_eq_true_iff.1 h).2 c hc)

/-- A numeral has digits alone. -/
lemma isDigit_of_isNumeral {t : Text} (h : isNumeral t = true) {c : Char} (hc : c ∈ t) :
    Unicode.isDigit c = true :=
  List.all_eq_true.1 (Bool.and_eq_true_iff.1 h).1 c hc

/-- A numeral is not empty. -/
lemma isNumeral_ne_nil {t : Text} (h : isNumeral t = true) : t ≠ [] := by
  rintro rfl
  simp [isNumeral] at h

/-- A number is written with the characters of a name. -/
lemma isPart_of_isNumeral {t : Text} (h : isNumeral t = true) : isPart t = true := by
  refine Bool.and_eq_true_iff.2 ⟨decide_eq_true (isNumeral_ne_nil h), List.all_eq_true.2 ?_⟩
  exact fun c hc => isPartChar_of_isDigit (isDigit_of_isNumeral h hc)

/-- A separator is not in a name. -/
lemma not_mem_of_isPart {t : Text} (h : isPart t = true) {c : Char} (hc : c ∈ refSeparators) :
    c ∉ t :=
  fun hmem => not_separator_of_isPart h hmem hc

/-- A number is a text of decimal digits. -/
lemma isDecimal_of_isNumeral {t : Text} (h : isNumeral t = true) : t.all Unicode.isDecimal =
    true := by
  refine List.all_eq_true.2 fun c hc => ?_
  unfold Unicode.isDecimal
  rw [decimalValue?_digit (isDigit_of_isNumeral h hc)]
  rfl

/-- A numeral is positive. -/
lemma decimalNat_pos {t : Text} (h : isNumeral t = true) : 0 < decimalNat t := by
  have hmono : ∀ (t : Text) (m : ℕ), 0 < m →
      0 < t.foldl (fun n c => n * 10 + (Unicode.decimalValue? c).getD 0) m := by
    intro t
    induction t with
    | nil => exact fun m hm => hm
    | cons c t ih =>
      intro m hm
      have hstep : 0 < m * 10 + (Unicode.decimalValue? c).getD 0 := by omega
      exact ih _ hstep
  obtain ⟨c, rest, rfl⟩ := List.exists_cons_of_ne_nil (isNumeral_ne_nil h)
  have hdigit := isDigit_of_isNumeral h (List.mem_cons_self)
  have hne : c ≠ '0' := by
    have hhead := (Bool.and_eq_true_iff.1 h).2
    simpa using hhead
  have hvalue : 0 < (Unicode.decimalValue? c).getD 0 := by
    rw [decimalValue?_digit hdigit]
    simp only [Unicode.isDigit, Bool.and_eq_true, decide_eq_true_eq, Char.le_def,
      UInt32.le_iff_toNat_le] at hdigit
    have hlow : 48 ≤ c.toNat := hdigit.1
    have hnot : c.toNat ≠ 48 := fun heq => hne (Char.ext (UInt32.toNat_inj.1 heq))
    simp only [Option.getD_some]
    omega
  exact hmono rest _ (by simpa using hvalue)

/-- A number is read from decimal digits that are not too many. -/
lemma readNumber_eq_some {t : Text} {n : ℕ} :
    readNumber t = some n ↔ t.all Unicode.isDecimal = true ∧ t.length ≤ maxIntDigits ∧
      decimalNat t = n := by
  unfold readNumber intOfDigits
  by_cases hdecimal : t.all Unicode.isDecimal = true
  · rw [if_pos hdecimal]
    by_cases hlength : maxIntDigits < t.length
    · rw [if_pos hlength]
      exact iff_of_false (fun h => by contradiction) fun h => absurd h.2.1 (Nat.not_le.2 hlength)
    · rw [if_neg hlength]
      constructor
      · intro h
        exact ⟨hdecimal, Nat.not_lt.1 hlength, Option.some.inj h⟩
      · rintro ⟨-, -, rfl⟩
        rfl
  · rw [if_neg hdecimal]
    exact iff_of_false (fun h => by contradiction) fun h => hdecimal h.1

/-- Nothing is read from anything else. -/
lemma readNumber_eq_none {t : Text} :
    readNumber t = none ↔ ¬ (t.all Unicode.isDecimal = true ∧ t.length ≤ maxIntDigits) := by
  constructor
  · rintro h ⟨hdecimal, hlength⟩
    rw [readNumber_eq_some.2 ⟨hdecimal, hlength, rfl⟩] at h
    contradiction
  · intro h
    cases hread : readNumber t with
    | none => rfl
    | some n =>
      obtain ⟨hdecimal, hlength, -⟩ := readNumber_eq_some.1 hread
      exact absurd ⟨hdecimal, hlength⟩ h

/-! ## The pattern -/

/-- The text behind a match: nothing or a line break. -/
def lineBreak (b : Bool) : Text := if b then ['\n'] else []

/-- What the pattern matches. -/
lemma shortRef_eq_some {value owner repo number : Text} {b : Bool}
    (h : shortRef value = some (owner, repo, number, b)) :
    isPart owner = true ∧ isPart repo = true ∧ isNumeral number = true ∧
      value = shortForm owner repo number ++ lineBreak b := by
  unfold shortRef at h
  simp only [Option.ite_none_right_eq_some, Option.some.injEq, Prod.mk.injEq] at h
  obtain ⟨⟨hslash, hhash, howner, hrepo, hnumber, hrest⟩, rfl, rfl, rfl, rfl⟩ := h
  refine ⟨howner, hrepo, hnumber, ?_⟩
  set afterOwner := (splitFirst '/' value).2
  set afterRepo := (splitFirst '#' afterOwner).2
  have hbreak : afterRepo.dropWhile Unicode.isDigit =
      lineBreak (decide (afterRepo.dropWhile Unicode.isDigit ≠ [])) := by
    obtain hnil | hline := hrest
    · rw [hnil]
      rfl
    · rw [hline]
      rfl
  calc value = (splitFirst '/' value).1 ++ '/' :: afterOwner := splitFirst_eq hslash
    _ = (splitFirst '/' value).1 ++ '/' :: ((splitFirst '#' afterOwner).1 ++ '#' :: afterRepo) := by
        rw [← splitFirst_eq hhash]
    _ = (splitFirst '/' value).1 ++ '/' :: ((splitFirst '#' afterOwner).1 ++
          '#' :: (afterRepo.takeWhile Unicode.isDigit ++ afterRepo.dropWhile Unicode.isDigit)) := by
        rw [List.takeWhile_append_dropWhile]
    _ = _ := by
        rw [← hbreak]
        simp [shortForm]

/-- The pattern matches the short form. -/
lemma shortRef_shortForm {owner repo number : Text} (howner : isPart owner = true)
    (hrepo : isPart repo = true) (hnumber : isNumeral number = true) :
    shortRef (shortForm owner repo number) = some (owner, repo, number, false) := by
  have hsplit : splitFirst '/' (shortForm owner repo number) = (owner, repo ++ '#' :: number) :=
    splitFirst_append (not_mem_of_isPart howner (by decide))
  have hsplit' : splitFirst '#' (repo ++ '#' :: number) = (repo, number) :=
    splitFirst_append (not_mem_of_isPart hrepo (by decide))
  have htake : number.takeWhile Unicode.isDigit = number :=
    List.takeWhile_eq_self_iff.2 fun c hc => isDigit_of_isNumeral hnumber hc
  have hdrop : number.dropWhile Unicode.isDigit = [] :=
    List.dropWhile_eq_nil_iff.2 fun c hc => isDigit_of_isNumeral hnumber hc
  have hmem : '/' ∈ shortForm owner repo number := by simp [shortForm]
  have hmem' : '#' ∈ repo ++ '#' :: number := by simp
  simp only [shortRef, hsplit, hsplit', htake, hdrop]
  rw [if_pos ⟨hmem, hmem', howner, hrepo, hnumber, .inl trivial⟩]
  rfl

/-- No documented form ends with a line break. -/
lemma not_lineBreak_of_form {before number : Text} (hnumber : isNumeral number = true) :
    (before ++ number).getLast? ≠ some '\n' := by
  intro h
  rw [List.getLast?_append_of_ne_nil _ (isNumeral_ne_nil hnumber)] at h
  exact not_mem_of_isPart (isPart_of_isNumeral hnumber) (by decide) (List.mem_of_getLast? h)

/-- A documented form does not end with a line break. -/
lemma IsFormOf.not_lineBreak {ref : GitHubPRRef} {value : Text} (h : IsFormOf ref value) :
    value.getLast? ≠ some '\n' := by
  obtain ⟨-, -, -, number, hnumber, -, rfl | rfl⟩ := h
  · have happend : shortForm ref.owner ref.repo number =
        (ref.owner ++ '/' :: (ref.repo ++ ['#'])) ++ number := by
      simp [shortForm]
    rw [happend]
    exact not_lineBreak_of_form hnumber
  · have happend : urlForm ref.owner ref.repo number =
        (("https://github.com/" : Text) ++ (ref.owner ++ (("/" : Text) ++
          (ref.repo ++ ("/pull/" : Text))))) ++ number := by
      simp [urlForm]
    rw [happend]
    exact not_lineBreak_of_form hnumber

/-! ## The URL form is parsed -/

/-- The path of a pull request. -/
def pullPath (owner repo number : Text) : Text :=
  '/' :: (owner ++ '/' :: (repo ++ '/' :: (("pull" : Text) ++ '/' :: number)))

/-- The parts of the URL form. -/
lemma urlForm_eq (owner repo number : Text) :
    urlForm owner repo number = ("https" : Text) ++ ':' :: '/' :: '/' ::
      (("github.com" : Text) ++ pullPath owner repo number) := by
  simp [urlForm, pullPath, Text.ofString_eq]

/-- A path without parameters is kept. -/
lemma withoutParams_eq {path : Text} (h : ';' ∉ path) : withoutParams path = path := by
  have htake : (path.reverse.takeWhile (· ≠ '/')).reverse.takeWhile (· ≠ ';') =
      (path.reverse.takeWhile (· ≠ '/')).reverse := by
    refine List.takeWhile_eq_self_iff.2 fun c hc => ?_
    rw [decide_eq_true_eq]
    rintro rfl
    exact h (List.mem_reverse.1 ((List.takeWhile_prefix _).subset (List.mem_reverse.1 hc)))
  unfold withoutParams
  rw [htake, ← List.reverse_append, List.takeWhile_append_dropWhile, List.reverse_reverse]

section Names

variable {owner repo number : Text} (howner : isPart owner = true) (hrepo : isPart repo = true)
  (hnumber : isNumeral number = true)

include howner hrepo hnumber

/-- A separator other than the slash is not in the path. -/
lemma not_mem_pullPath {c : Char} (hc : c ∈ refSeparators) (hslash : c ≠ '/') :
    c ∉ pullPath owner repo number := by
  have hpull : c ∉ ("pull" : Text) := not_mem_of_isPart (by decide +kernel) hc
  simp [pullPath, hslash, not_mem_of_isPart howner hc, not_mem_of_isPart hrepo hc, hpull,
    not_mem_of_isPart (isPart_of_isNumeral hnumber) hc]

/-- There is nothing to clean in the URL form. -/
lemma cleanUrl_urlForm : cleanUrl (urlForm owner repo number) = urlForm owner repo number := by
  have hblank : (urlForm owner repo number).dropWhile (fun c => c.toNat ≤ 0x20) =
      urlForm owner repo number := by
    simp [urlForm_eq, Text.ofString_eq]
  unfold cleanUrl
  rw [hblank, List.filter_eq_self]
  intro c hc
  rw [decide_eq_true_eq]
  intro hmem
  have hseparator : c ∈ refSeparators ∧ c ≠ '/' ∧ c ∉ ("https" : Text) ∧ c ≠ ':' ∧
      c ∉ ("github.com" : Text) := by
    have hall : ['\t', '\r', '\n'].all (fun c => decide (c ∈ refSeparators ∧ c ≠ '/' ∧
        c ∉ ("https" : Text) ∧ c ≠ ':' ∧ c ∉ ("github.com" : Text))) = true := by decide +kernel
    exact of_decide_eq_true (List.all_eq_true.1 hall c hmem)
  obtain ⟨hrefs, hslash, hscheme, hcolon, hhost⟩ := hseparator
  rw [urlForm_eq] at hc
  simp [hscheme, hcolon, hslash, hhost, not_mem_pullPath howner hrepo hnumber hrefs hslash] at hc

/-- The segments of its path. -/
lemma segments_pullPath : segments (pullPath owner repo number) = [owner, repo, "pull",
    number] := by
  have hslash : '/' ∈ refSeparators := by decide +kernel
  have hpart := isPart_of_isNumeral hnumber
  have hpull : isPart ("pull" : Text) = true := by decide +kernel
  have hsplit : (pullPath owner repo number).splitOn '/' = [[], owner, repo, "pull", number] := by
    unfold pullPath
    rw [← List.nil_append ('/' :: _), List.splitOn_append_cons_self, List.splitOn_append_cons_self,
      List.splitOn_append_cons_self, List.splitOn_append_cons_self,
      List.splitOn_eq_singleton (not_mem_of_isPart howner hslash),
      List.splitOn_eq_singleton (not_mem_of_isPart hrepo hslash),
      List.splitOn_eq_singleton (not_mem_of_isPart hpull hslash),
      List.splitOn_eq_singleton (not_mem_of_isPart hpart hslash)]
    rfl
  unfold segments
  rw [hsplit]
  simp [isPart_ne_nil howner, isPart_ne_nil hrepo, isPart_ne_nil hpart, Text.ofString_eq]

/-- What `urlparse` makes of it. -/
lemma urlparse_urlForm : urlparse nfkc isBracketedNetloc (urlForm owner repo number) = some {
    scheme := "https"
    netloc := "github.com"
    path := pullPath owner repo number
    query := []
    fragment := [] } := by
  have hscheme : splitScheme (urlForm owner repo number) =
      (("https" : Text), '/' :: '/' :: (("github.com" : Text) ++ pullPath owner repo number)) := by
    rw [urlForm_eq]
    unfold splitScheme
    rw [splitFirst_append (by decide +kernel)]
    have hcond : ':' ∈ ("https" : Text) ++ ':' :: '/' :: '/' ::
        (("github.com" : Text) ++ pullPath owner repo number) := by simp
    simp only [hcond, true_and]
    rw [if_pos (by decide +kernel)]
    congr 1
    decide +kernel
  have hnetloc : splitNetloc ('/' :: '/' :: (("github.com" : Text) ++ pullPath owner repo number)) =
      (("github.com" : Text), pullPath owner repo number) := by
    have hhost : ∀ c ∈ ("github.com" : Text), decide (c ∉ ['/', '?', '#']) = true := by
      simp [Text.ofString_eq]
    simp only [splitNetloc]
    rw [List.takeWhile_append_of_pos hhost, List.dropWhile_append_of_pos hhost]
    simp [pullPath]
  have hfragment := splitFirst_of_not_mem
    (not_mem_pullPath howner hrepo hnumber (c := '#') (by decide +kernel) (by decide))
  have hquery := splitFirst_of_not_mem
    (not_mem_pullPath howner hrepo hnumber (c := '?') (by decide +kernel) (by decide))
  have hparams := withoutParams_eq
    (not_mem_pullPath howner hrepo hnumber (c := ';') (by decide +kernel) (by decide))
  have hchecks : checkBrackets isBracketedNetloc "github.com" = true ∧
      checkNetloc nfkc "github.com" = true := by
    have hbracket : '[' ∉ ("github.com" : Text) ∧ ']' ∉ ("github.com" : Text) := by decide +kernel
    have hascii : ("github.com" : Text).all (fun c => c.toNat < 128) = true := by decide +kernel
    refine ⟨?_, ?_⟩
    · simp [checkBrackets, hbracket.1, hbracket.2]
    · simp only [checkNetloc, hascii, Bool.true_or]
  have huses : ("https" : Text) ∈ usesParams := by decide +kernel
  unfold urlparse
  rw [cleanUrl_urlForm howner hrepo hnumber, hscheme]
  simp only [hnetloc, hfragment, hquery, if_pos hchecks, if_pos huses, hparams]

end Names

/-! ## The parser -/

/-- The pattern does not match the URL form: what stands in front of its first slash is no name. -/
lemma shortRef_urlForm (owner repo number : Text) : shortRef (urlForm owner repo number) =
    none := by
  have hsplit : splitFirst '/' (urlForm owner repo number) =
      (("https:" : Text), '/' :: (("github.com" : Text) ++ pullPath owner repo number)) := by
    have happend : urlForm owner repo number = ("https:" : Text) ++ '/' ::
        '/' :: (("github.com" : Text) ++ pullPath owner repo number) := by
      simp [urlForm_eq, Text.ofString_eq]
    rw [happend, splitFirst_append (by decide +kernel)]
  have hpart : isPart ("https:" : Text) = false := by decide +kernel
  unfold shortRef
  rw [hsplit]
  simp [hpart]

/-- A match of the pattern is read, unless its number is too long. -/
lemma parse_of_shortRef {value owner repo number : Text} {b : Bool}
    (h : shortRef value = some (owner, repo, number, b)) :
    parseGithubPrRef nfkc isBracketedNetloc value =
      if number.length ≤ maxIntDigits then .ok ⟨owner, repo, decimalNat number⟩
      else .error .valueError := by
  have hdecimal := isDecimal_of_isNumeral (shortRef_eq_some h).2.2.1
  unfold parseGithubPrRef
  simp only [h]
  by_cases hlength : number.length ≤ maxIntDigits
  · rw [if_pos hlength, readNumber_eq_some.2 ⟨hdecimal, hlength, rfl⟩]
  · rw [if_neg hlength, readNumber_eq_none.2 fun hread => hlength hread.2]

/-- A URL of a pull request is read, if `int` reads its number and nothing is wrong with it. -/
lemma parse_of_isPullUrl {value owner repo number : Text} {parsed : ParsedUrl}
    (hshort : shortRef value = none) (hparsed : urlparse nfkc isBracketedNetloc value = some parsed)
    (h : IsPullUrl parsed owner repo number) :
    parseGithubPrRef nfkc isBracketedNetloc value =
      match readNumber number with
      | none => .error .valueError
      | some n =>
        if 0 < n ∧ parsed.path.getLast? ≠ some '/' ∧ validOwnerRepoPart owner ∧
            validOwnerRepoPart repo then .ok ⟨owner, repo, n⟩
        else invalidRef := by
  obtain ⟨hscheme, hnetloc, hquery, hfragment, hsegments, hdigits⟩ := h
  unfold parseGithubPrRef
  simp only [hshort, hparsed]
  rw [if_pos ⟨hscheme, hnetloc, hquery, hfragment⟩]
  simp only [hsegments]
  rw [if_pos ⟨trivial, hdigits⟩]

/-- Every other URL is refused. -/
lemma parse_of_not_isPullUrl {value : Text} {parsed : ParsedUrl} (hshort : shortRef value = none)
    (hparsed : urlparse nfkc isBracketedNetloc value = some parsed)
    (h : ∀ owner repo number, ¬ IsPullUrl parsed owner repo number) :
    parseGithubPrRef nfkc isBracketedNetloc value = invalidRef := by
  unfold parseGithubPrRef
  simp only [hshort, hparsed]
  split
  · rename_i haddress
    obtain ⟨hscheme, hnetloc, hquery, hfragment⟩ := haddress
    split
    · rename_i owner repo pull number hsegments
      split
      · rename_i hpull
        obtain ⟨rfl, hdigits⟩ := hpull
        exact absurd ⟨hscheme, hnetloc, hquery, hfragment, hsegments, hdigits⟩ (h owner repo number)
      · rfl
    · rfl
  · rfl

/-- A match of the pattern is lawful exactly if no line break follows and its number is not too
long. -/
lemma isLawful_of_shortRef {value owner repo number : Text} {b : Bool}
    (h : shortRef value = some (owner, repo, number, b)) :
    IsLawful nfkc isBracketedNetloc value ↔ b = false ∧ number.length ≤ maxIntDigits := by
  obtain ⟨howner, hrepo, hnumber, hvalue⟩ := shortRef_eq_some h
  unfold IsLawful
  rw [parse_of_shortRef nfkc isBracketedNetloc h]
  by_cases hlength : number.length ≤ maxIntDigits
  · rw [if_pos hlength]
    constructor
    · intro hform
      refine ⟨?_, hlength⟩
      cases b with
      | false => rfl
      | true =>
        refine absurd ?_ hform.not_lineBreak
        rw [hvalue, lineBreak, if_pos rfl, List.getLast?_concat]
    · rintro ⟨rfl, -⟩
      refine ⟨howner, hrepo, decimalNat_pos hnumber, number, hnumber, rfl, .inl ?_⟩
      rw [hvalue]
      exact List.append_nil _
  · rw [if_neg hlength]
    exact iff_of_false id fun hexact => hlength hexact.2

/-- A URL of a pull request is lawful exactly if `int` reads its number, and it is refused or the
documented form. -/
lemma isLawful_of_isPullUrl {value owner repo number : Text} {parsed : ParsedUrl}
    (hshort : shortRef value = none) (hparsed : urlparse nfkc isBracketedNetloc value = some parsed)
    (h : IsPullUrl parsed owner repo number) :
    IsLawful nfkc isBracketedNetloc value ↔
      number.all Unicode.isDecimal = true ∧ number.length ≤ maxIntDigits ∧
        (decimalNat number = 0 ∨ parsed.path.getLast? = some '/' ∨
          validOwnerRepoPart owner = false ∨
          validOwnerRepoPart repo = false ∨
          (isPart owner = true ∧ isPart repo = true ∧ isNumeral number = true ∧
            value = urlForm owner repo number)) := by
  unfold IsLawful
  rw [parse_of_isPullUrl nfkc isBracketedNetloc hshort hparsed h]
  cases hread : readNumber number with
  | none => exact iff_of_false id fun hexact => readNumber_eq_none.1 hread ⟨hexact.1, hexact.2.1⟩
  | some n =>
    obtain ⟨hdecimal, hlength, rfl⟩ := readNumber_eq_some.1 hread
    dsimp only
    by_cases haccepted : 0 < decimalNat number ∧ parsed.path.getLast? ≠ some '/' ∧
        validOwnerRepoPart owner ∧ validOwnerRepoPart repo
    · rw [if_pos haccepted]
      obtain ⟨hpositive, hslash, howner, hrepo⟩ := haccepted
      constructor
      · intro hform
        refine ⟨hdecimal, hlength, .inr (.inr (.inr (.inr ?_)))⟩
        obtain ⟨hownerPart, hrepoPart, -, digits, hdigits, hvalue, hshortForm | hurlForm⟩ := hform
        · rw [hshortForm, shortRef_shortForm hownerPart hrepoPart hdigits] at hshort
          contradiction
        · -- the segments of the documented form are those that the parser has read
          rw [hurlForm, urlparse_urlForm nfkc isBracketedNetloc hownerPart hrepoPart
            hdigits] at hparsed
          obtain rfl := Option.some.inj hparsed
          have hsegments := h.2.2.2.2.1
          rw [segments_pullPath hownerPart hrepoPart hdigits] at hsegments
          simp only [List.cons.injEq, and_true, true_and] at hsegments
          subst hsegments
          exact ⟨hownerPart, hrepoPart, hdigits, hurlForm⟩
      · rintro ⟨-, -, hzero | hends | hbad | hbad | ⟨hownerPart, hrepoPart, hnumeral, hvalue⟩⟩
        · exact absurd hzero hpositive.ne'
        · exact absurd hends hslash
        · rw [hbad] at howner
          contradiction
        · rw [hbad] at hrepo
          contradiction
        · exact ⟨hownerPart, hrepoPart, hpositive, number, hnumeral, rfl, .inr hvalue⟩
    · rw [if_neg haccepted]
      refine iff_of_true trivial ⟨hdecimal, hlength, ?_⟩
      by_contra hnone
      push Not at hnone
      obtain ⟨hzero, hends, howner, hrepo, -⟩ := hnone
      exact haccepted ⟨Nat.pos_of_ne_zero hzero, hends, by simpa using howner, by simpa using hrepo⟩

/-- A text is read lawfully exactly if it is exact. -/
lemma isLawful_iff (value : Text) :
    IsLawful nfkc isBracketedNetloc value ↔ IsExact nfkc isBracketedNetloc value := by
  cases hshort : shortRef value with
  | some groups =>
    obtain ⟨owner, repo, number, b⟩ := groups
    rw [isLawful_of_shortRef nfkc isBracketedNetloc hshort]
    simp only [IsExact, hshort]
  | none =>
    simp only [IsExact, hshort]
    cases hparsed : urlparse nfkc isBracketedNetloc value with
    | none =>
      have hparse : parseGithubPrRef nfkc isBracketedNetloc value = .error .valueError := by
        simp only [parseGithubPrRef, hshort, hparsed]
      unfold IsLawful
      rw [hparse]
      exact iff_of_false id fun ⟨parsed, hsome, _⟩ => by contradiction
    | some parsed =>
      by_cases hpull : ∃ owner repo number, IsPullUrl parsed owner repo number
      · obtain ⟨owner, repo, number, hpull⟩ := hpull
        rw [isLawful_of_isPullUrl nfkc isBracketedNetloc hshort hparsed hpull]
        constructor
        · intro hexact
          refine ⟨parsed, rfl, fun owner' repo' number' hpull' => ?_⟩
          have hsegments := hpull.2.2.2.2.1.symm.trans hpull'.2.2.2.2.1
          simp only [List.cons.injEq, and_true, true_and] at hsegments
          obtain ⟨rfl, rfl, rfl⟩ := hsegments
          exact hexact
        · rintro ⟨parsed', hsome, hexact⟩
          obtain rfl := Option.some.inj hsome
          exact hexact owner repo number hpull
      · have hnone : ∀ owner repo number, ¬ IsPullUrl parsed owner repo number :=
          fun owner repo number h => hpull ⟨owner, repo, number, h⟩
        unfold IsLawful
        rw [parse_of_not_isPullUrl nfkc isBracketedNetloc hshort hparsed hnone]
        exact iff_of_true trivial ⟨parsed, rfl, fun owner repo number h =>
          absurd h (hnone owner repo number)⟩

/-- The URL form is read, unless its number is too long. -/
lemma parse_urlForm {owner repo number : Text} (howner : isPart owner = true)
    (hrepo : isPart repo = true)
    (hnumber : isNumeral number = true) :
    parseGithubPrRef nfkc isBracketedNetloc (urlForm owner repo number) =
      if number.length ≤ maxIntDigits then .ok ⟨owner, repo, decimalNat number⟩
      else .error .valueError := by
  have hdecimal := isDecimal_of_isNumeral hnumber
  have hpull : IsPullUrl {
      scheme := "https", netloc := "github.com", path := pullPath owner repo number, query := []
      fragment := [] } owner repo number :=
    ⟨rfl, rfl, rfl, rfl, segments_pullPath howner hrepo hnumber,
      List.all_eq_true.2 fun c hc => by
        have hc := List.all_eq_true.1 hdecimal c hc
        simp [Unicode.hasDigitValue, hc]⟩
  have hslash : (pullPath owner repo number).getLast? ≠ some '/' := by
    intro h
    have happend : pullPath owner repo number =
        ('/' :: (owner ++ '/' :: (repo ++ '/' :: (("pull" : Text) ++ ['/'])))) ++ number := by
      simp [pullPath]
    rw [happend, List.getLast?_append_of_ne_nil _ (isNumeral_ne_nil hnumber)] at h
    exact not_mem_of_isPart (isPart_of_isNumeral hnumber) (by decide +kernel)
      (List.mem_of_getLast? h)
  rw [parse_of_isPullUrl nfkc isBracketedNetloc (shortRef_urlForm owner repo number)
    (urlparse_urlForm nfkc isBracketedNetloc howner hrepo hnumber) hpull]
  by_cases hlength : number.length ≤ maxIntDigits
  · have hvalid : validOwnerRepoPart owner ∧ validOwnerRepoPart repo := by
      simp [validOwnerRepoPart, howner, hrepo]
    rw [if_pos hlength, readNumber_eq_some.2 ⟨hdecimal, hlength, rfl⟩]
    exact if_pos ⟨decimalNat_pos hnumber, hslash, hvalid.1, hvalid.2⟩
  · rw [if_neg hlength, readNumber_eq_none.2 fun hread => hlength hread.2]

/-- A text is read lawfully exactly if it is exact, and the two forms of a reference are read as the
same reference exactly if its number is not too long for `int`. -/
theorem parseGithubPrRef_lawful_iff :
    (∀ value, IsLawful nfkc isBracketedNetloc value ↔ IsExact nfkc isBracketedNetloc value) ∧
    ∀ owner repo number, isPart owner = true → isPart repo = true → isNumeral number = true →
      ((∃ ref, parseGithubPrRef nfkc isBracketedNetloc (shortForm owner repo number) = .ok ref ∧
          parseGithubPrRef nfkc isBracketedNetloc (urlForm owner repo number) = .ok ref) ↔
        number.length ≤ maxIntDigits) := by
  refine ⟨isLawful_iff nfkc isBracketedNetloc, fun owner repo number howner hrepo hnumber => ?_⟩
  rw [parse_of_shortRef nfkc isBracketedNetloc (shortRef_shortForm howner hrepo hnumber),
    parse_urlForm nfkc isBracketedNetloc howner hrepo hnumber]
  by_cases hlength : number.length ≤ maxIntDigits
  · rw [if_pos hlength]
    exact iff_of_true ⟨_, rfl, rfl⟩ hlength
  · rw [if_neg hlength]
    exact iff_of_false (fun ⟨ref, h, _⟩ => by contradiction) hlength

/-- A line break behind a short reference is accepted, and a superscript digit makes `int` raise. -/
theorem parseGithubPrRef_lawful_not :
    ¬ IsLawful id (fun _ => true) ("o/r#1\n" : Text) ∧
    ¬ IsLawful id (fun _ => true) ("https://github.com/o/r/pull/²" : Text) := by
  constructor
  · have hshort : shortRef ("o/r#1\n" : Text) =
        some (("o" : Text), ("r" : Text), ("1" : Text), true) := by decide +kernel
    rw [isLawful_of_shortRef id (fun _ => true) hshort]
    exact fun h => Bool.false_ne_true h.1.symm
  · have hshort : shortRef ("https://github.com/o/r/pull/²" : Text) = none := by decide +kernel
    have hparsed : urlparse id (fun _ => true) ("https://github.com/o/r/pull/²" : Text) = some {
        scheme := "https", netloc := "github.com", path := "/o/r/pull/²", query := []
        fragment := [] } := by decide +kernel
    have hpull : IsPullUrl {
        scheme := "https", netloc := "github.com", path := "/o/r/pull/²", query := []
        fragment := [] } "o" "r" "²" :=
      ⟨rfl, rfl, rfl, rfl, by decide +kernel, by decide +kernel⟩
    rw [isLawful_of_isPullUrl id (fun _ => true) hshort hparsed hpull]
    exact fun h => absurd h.1 (by decide +kernel)

end Parser

end ReviewGraph
