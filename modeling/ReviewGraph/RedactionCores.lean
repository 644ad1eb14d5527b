import ReviewGraph.RedactionEdits

/-!
# Secrets that redaction leaves

For each rule what it would still find, as a property of the text: `NoHit` for a pattern in front of
which nothing, or only a condition on what lies ahead, is required, and `HasKey` for private keys. 
A rule leaves nothing of its own behind, and no pass of another rule makes anything new: the token
has brackets around it, and every match has a character that the token does not have.
-/

namespace ReviewGraph

open Regex Pattern Unicode RedactionCategory

/-! ## Plain classes -/

/-- Brackets are no characters of a token. -/
lemma isTokenChar_bracket : isTokenChar '[' = false ∧ isTokenChar ']' = false := by
  rw [isTokenChar_eq]
  decide

/-- What the token does not contain. -/
lemma redactionToken_chars : redactionToken.all (fun c => !isSpace c && !isSeparator c && !isLower c
    &&
    c != '_' && c != '-' && c != '\n') = true := by
  rw [redactionToken_eq]
  decide

/-- These characters do not occur in the token. -/
lemma not_mem_redactionToken {c : Char}
    (h : isSpace c = true ∨ isSeparator c = true ∨ isLower c = true ∨ c = '_' ∨ c = '-' ∨
      c = '\n') :
    c ∉ redactionToken := by
  intro hmem
  have hchars := List.all_eq_true.1 redactionToken_chars c hmem
  simp only [Bool.and_eq_true, Bool.not_eq_true', bne_iff_ne] at hchars
  obtain ⟨⟨⟨⟨⟨hspace, hseparator⟩, hlower⟩, hlow⟩, hdash⟩, hnewline⟩ := hchars
  rcases h with h | h | h | rfl | rfl | rfl
  · rw [hspace] at h
    contradiction
  · rw [hseparator] at h
    contradiction
  · rw [hlower] at h
    contradiction
  · exact hlow rfl
  · exact hdash rfl
  · exact hnewline rfl

/-- A class of characters of a token is plain. -/
lemma plainClass_of_token {p : Char → Bool} (h : ∀ c, p c = true → isTokenChar c = true) :
    PlainClass p := by
  have hnot : ∀ c, isTokenChar c = false → p c = false := by
    intro c hc
    by_contra hp
    rw [h c (by simpa using hp)] at hc
    contradiction
  exact ⟨hnot _ isTokenChar_bracket.1, hnot _ isTokenChar_bracket.2, fun c hc _ => h c hc⟩

/-- A class without word characters and brackets is plain. -/
lemma plainClass_of_not_word {p : Char → Bool} (hopen : p '[' = false) (hclose : p ']' = false)
    (h : ∀ c, p c = true → isWord c = false) : PlainClass p := by
  refine ⟨hopen, hclose, ?_⟩
  intro c hc hword
  rw [h c hc] at hword
  contradiction

/-- Blanks. -/
lemma plainClass_isSpace : PlainClass isSpace :=
  plainClass_of_not_word (by decide) (by decide) fun _ => isWord_of_isSpace

/-- The characters of a token. -/
lemma plainClass_isTokenChar : PlainClass isTokenChar := plainClass_of_token fun _ hc => hc

/-- Quotation marks. -/
lemma plainClass_isQuote : PlainClass isQuote :=
  plainClass_of_not_word (by decide) (by decide) fun _ hc => (isQuote_plain hc).1

/-- The separators of a key and its value. -/
lemma plainClass_separator : PlainClass fun c => c == ':' || c == '=' :=
  plainClass_of_not_word (by decide) (by decide) fun _ => not_word_of_isSeparator

/-- The characters of a key. -/
lemma plainClass_key : PlainClass fun c => isAsciiAlphanumeric c || c == '_' || c == '-' := by
  refine plainClass_of_token fun c hc => ?_
  simp only [Bool.or_eq_true, beq_iff_eq] at hc
  exact isTokenChar_of_keyChar (by tauto)

/-- The characters of a GitHub token. -/
lemma plainClass_githubKey : PlainClass fun c => isAsciiAlphanumeric c || c == '_' := by
  refine plainClass_of_token fun c hc => ?_
  simp only [Bool.or_eq_true, beq_iff_eq] at hc
  exact isTokenChar_of_keyChar (by tauto)

/-- A dash or an underscore. -/
lemma plainClass_dash : PlainClass fun c => c == '_' || c == '-' := by
  refine plainClass_of_token fun c hc => ?_
  rw [Bool.or_eq_true, beq_iff_eq, beq_iff_eq] at hc
  exact isTokenChar_of_keyChar (.inr hc)

/-- The members of a short text that occurs in tokens. -/
lemma plainClass_mem {t : Text} (ht : t.all isTokenChar = true) :
    PlainClass fun c => decide (c ∈ t) :=
  plainClass_of_token fun c hc => List.all_eq_true.1 ht c (of_decide_eq_true hc)

/-- The keywords have plain characters. -/
lemma all_literalI {t : Text} (ht : t ∈ keywords) :
    (literalI t).All PlainClass BoundaryAssertion := by
  refine all_literalBy fun d hd => plainClass_of_token fun c hc => ?_
  exact isTokenChar_of_ignoreCase (List.all_eq_true.1 (keyword_letters t ht).2 d hd) hc

/-- A colon is no word character. -/
lemma isWord_colon : isWord ':' = false := by decide

/-- The literals have plain characters. -/
lemma all_literal {t : Text} (ht : t ∈ literals) :
    (literal t).All PlainClass BoundaryAssertion := by
  refine all_literalBy fun d hd => ?_
  have hchar := List.all_eq_true.1 (literal_chars t ht) d hd
  unfold isLiteralChar at hchar
  rw [Bool.or_eq_true, beq_iff_eq] at hchar
  rcases hchar with hchar | rfl
  · refine plainClass_of_token fun c hc => ?_
    obtain rfl : c = d := eq_of_beq hc
    exact hchar
  · refine plainClass_of_not_word (by decide) (by decide) fun c hc => ?_
    obtain rfl : c = ':' := eq_of_beq hc
    exact isWord_colon

/-! ## Patterns that tokens do not create -/

/-- The text has no match of the pattern in front of a text with a property. -/
def NoHit (core : Pattern) (ahead : Text → Prop) (t : Text) : Prop :=
  ∀ x m rest, t = x ++ (m ++ rest) → core.Matches (lastOr none x) m rest → ¬ ahead rest

/-- What lies ahead of a match also does so with a secret in place of the token. -/
def CarriesOver (core : Pattern) (ahead : Text → Prop) : Prop :=
  ∀ {before : Option Char} {left m z secret rest u : Text},
    core.Matches before m (z ++ (secret ++ rest)) → SecretIn (left ++ (m ++ z)) secret rest →
      ahead (z ++ (redactionToken ++ u)) → ahead (z ++ (secret ++ rest))

/-- A rule makes no hits of another pattern. -/
lemma NoHit.subn {core : Pattern} {ahead : Text → Prop} (hcore : IsCore core)
    (hahead : CarriesOver core ahead) {r : Rule}
    (hne : ∀ before rest, ¬ r.pattern.Matches before [] rest) (hsecrets : SecretsIn r) {t : Text}
    (h : NoHit core ahead t) : NoHit core ahead (r.subn redactionToken t).1 := by
  refine not_ahead_of_edits hcore hsecrets ?_ ?_ ?_ (r.subn_edits hne redactionToken t)
    (List.nil_append t) (.inl rfl)
  · intro left m rest hsplit hm _
    exact h left m rest hsplit.symm hm
  · intro left y kept m z secret rest u hsplit hregion hgap hm _ hout
    have hsecret := hregion.secretIn
    rw [List.append_assoc, hgap] at hsecret
    refine h left m (z ++ (secret ++ rest)) ?_ hm (hahead hm hsecret hout)
    rw [← hsplit, ← List.append_assoc y, hgap, List.append_assoc]
  · intro left x m z kept secret rest u hsplit hregion hkept hm hout
    have hsecret := hregion.secretIn
    rw [hkept, ← List.append_assoc] at hsecret
    refine h (left ++ x) m (z ++ (secret ++ rest)) ?_ hm (hahead hm hsecret hout)
    rw [← hsplit, hkept]
    simp only [List.append_assoc]

/-- A rule leaves no hits of its own. -/
lemma noHit_subn_self {core : Pattern} {ahead : Text → Prop} (hcore : IsCore core)
    (hahead : CarriesOver core ahead) {r : Rule}
    (hne : ∀ before rest, ¬ r.pattern.Matches before [] rest) (hsecrets : SecretsIn r)
    (hhit : ∀ before m rest, core.Matches before m rest → ahead rest →
      r.HasMatch before (m ++ rest))
    (hinside : ∀ before kept rest, r.kept.Matches before kept rest → ∀ x m z, kept = x ++ (m ++ z) →
      ∀ before' rest', ¬ core.Matches before' m rest') (t : Text) :
    NoHit core ahead (r.subn redactionToken t).1 := by
  refine not_ahead_of_edits hcore hsecrets ?_ ?_ ?_ (r.subn_edits hne redactionToken t)
    (List.nil_append t) (.inl rfl)
  · intro left m rest _ hm hnone hout
    exact hnone (hhit _ _ _ hm hout)
  · intro left y kept m z secret rest u _ hregion hgap hm hnone hout
    have hsecret := hregion.secretIn
    rw [List.append_assoc, hgap] at hsecret
    exact hnone (hhit _ _ _ hm (hahead hm hsecret hout))
  · intro left x m z kept secret rest u _ hregion hkept hm _
    exact hinside _ _ _ hregion.replaces.keeps x m z hkept _ _ hm

/-- Nothing is required of what lies ahead. -/
def Anything (_ : Text) : Prop := True

/-- Any condition on nothing carries over. -/
lemma carriesOver_anything (core : Pattern) : CarriesOver core Anything := fun _ _ _ => trivial

/-- A rule without matches leaves a text as it is. -/
lemma subn_of_noMatch {r : Rule} (hne : ∀ before rest, ¬ r.pattern.Matches before [] rest)
    {t : Text}
    (h : ∀ x y, t = x ++ y → y ≠ [] → ¬ r.HasMatch (lastOr none x) y) :
    (r.subn redactionToken t).1 = t := by
  have hedits := r.subn_edits hne redactionToken t
  generalize (r.subn redactionToken t).1 = u at hedits
  cases hedits with
  | last _ => rfl
  | region hskipped hreplaces hrest =>
    rename_i skipped kept secret rest u
    rw [List.nil_append] at hreplaces
    have hmatches : r.pattern.Matches (lastOr none skipped) (kept ++ secret) rest :=
      ⟨kept, secret, rfl, hreplaces.keeps, hreplaces.secret_matches⟩
    have hpart : kept ++ secret ≠ [] := by
      intro hnil
      rw [hnil] at hmatches
      exact hne _ _ hmatches
    refine absurd ⟨kept ++ secret, rest, by rw [List.append_assoc], hmatches⟩
      (h skipped (kept ++ (secret ++ rest)) rfl ?_)
    rw [← List.append_assoc]
    intro hnil
    exact hpart (List.append_eq_nil_iff.1 hnil).1

/-- A rule with a plain pattern is done after one pass, whatever other rules do then. -/
lemma subn_of_noHit {r : Rule} (hcore : IsCore r.pattern) {t : Text}
    (h : NoHit r.pattern Anything t) : (r.subn redactionToken t).1 = t := by
  refine subn_of_noMatch (fun _ _ hm => hcore.ne_nil hm rfl) ?_
  rintro x y hsplit - ⟨m, rest, rfl, hm⟩
  exact h x m rest hsplit hm trivial

/-- The marks of the literals. -/
lemma mark_mem : '_' ∈ ("_" : Text) ∧ '_' ∈ ("github_pat_" : Text) ∧ '-' ∈ ("-" : Text) := by
  simp only [Text.ofString_eq]
  decide

/-- The pattern of bearer tokens is a core. -/
lemma isCore_bearerToken : IsCore bearerToken.rule.pattern := by
  refine ⟨⟨trivial, .word, all_literalI (by simp [keywords]), plainClass_isSpace,
    plainClass_isTokenChar⟩, ?_⟩
  rintro before m rest ⟨m₁, m₂, rfl, -, m₃, m₄, rfl, -, m₅, m₆, rfl, -, m₇, m₈, rfl, h₇, -⟩
  obtain ⟨c, hc⟩ := List.exists_mem_of_ne_nil m₇ (List.ne_nil_of_length_pos h₇.2.1)
  exact ⟨c, by simp [hc], not_mem_redactionToken (.inl (h₇.1 c hc))⟩

/-- The pattern of GitHub tokens is a core. -/
lemma isCore_githubToken : IsCore githubToken.rule.pattern := by
  refine ⟨⟨trivial, .word, ⟨⟨all_literal (by simp [literals]), plainClass_mem letter_tokens.1,
    all_literal (by simp [literals]), plainClass_githubKey⟩, all_literal (by simp [literals]),
    plainClass_githubKey⟩, .word⟩, ?_⟩
  rintro before m rest ⟨m₁, m₂, rfl, -, m₃, m₄, rfl, -, m₅, m₆, rfl, h, -⟩
  have hmark : '_' ∈ m₅ := by
    rcases h with ⟨n₁, n₂, rfl, -, n₃, n₄, rfl, -, n₅, n₆, rfl, h, -⟩ | ⟨n₁, n₂, rfl, h, -⟩
    · rw [matches_literal.1 h]
      simp [mark_mem.1]
    · rw [matches_literal.1 h]
      simp [mark_mem.2.1]
  exact ⟨'_', by simp [hmark], not_mem_redactionToken (by simp)⟩

/-- The pattern of standalone keys is a core. -/
lemma isCore_standaloneApiKey : IsCore standaloneApiKey.rule.pattern := by
  have hlast : (choice (literal "sk") [literal "rk", literal "pk",
      literal "xox" ++ one (fun c => c ∈ ("baprs" : Text))]).All PlainClass BoundaryAssertion :=
    ⟨all_literal (by simp [literals]), all_literal (by simp [literals]),
      all_literal (by simp [literals]),
      all_literal (by simp [literals]), plainClass_mem letter_tokens.2⟩
  have hkinds : (choice (literal "live") [literal "test", literal "prod"]).All PlainClass
      BoundaryAssertion :=
    ⟨all_literal (by simp [literals]), all_literal (by simp [literals]),
      all_literal (by simp [literals])⟩
  refine ⟨⟨trivial, .word, ⟨⟨⟨hlast.1, hlast.2.1, hlast.2.2.1⟩, all_literal (by simp [literals]),
    hkinds,
    all_literal (by simp [literals]), plainClass_key⟩, ⟨hlast, all_literal (by simp [literals]),
    plainClass_key⟩⟩, .word⟩, ?_⟩
  rintro before m rest ⟨m₁, m₂, rfl, -, m₃, m₄, rfl, -, m₅, m₆, rfl, h, -⟩
  rcases h with ⟨n₁, n₂, rfl, -, n₃, n₄, rfl, h, -⟩ | ⟨n₁, n₂, rfl, -, n₃, n₄, rfl, h, -⟩
  · rw [matches_literal.1 h]
    exact ⟨'_', by simp [mark_mem.1], not_mem_redactionToken (by simp)⟩
  · rw [matches_literal.1 h]
    exact ⟨'-', by simp [mark_mem.2.2], not_mem_redactionToken (by simp)⟩

/-- The pattern of assigned keys is a core. -/
lemma isCore_apiKey : IsCore apiKey.rule.pattern := by
  refine ⟨⟨⟨plainClass_isQuote, .word, ⟨⟨all_literalI (by simp [keywords]), plainClass_dash,
    all_literalI (by simp [keywords])⟩, all_literalI (by simp [keywords]),
    all_literalI (by simp [keywords])⟩,
    plainClass_isQuote, plainClass_isSpace, plainClass_separator, plainClass_isSpace⟩,
    plainClass_isQuote, plainClass_isTokenChar, plainClass_isQuote⟩, ?_⟩
  rintro before m rest ⟨m₁, m₂, rfl, h, -⟩
  obtain ⟨y, c, w, rfl, -, hc, -⟩ := endsBlank_apiKey _ _ _ h
  exact ⟨c, by simp, not_mem_redactionToken (.inr (.inl hc))⟩

/-- What is kept contains no second match. -/
lemma not_matches_in_kept {p : Pattern} (hp : p.EndsBlank isSeparator)
    {before before' : Option Char}
    {kept rest rest' x m₁ m₂ z : Text} (hkept : p.Matches before kept rest)
    (hsplit : kept = x ++ ((m₁ ++ m₂) ++ z)) (hm₁ : p.Matches before' m₁ rest') :
    ∀ c ∈ m₂, isSpace c = true := by
  obtain ⟨y, c, w, rfl, hy, hc, hw⟩ := hp _ _ _ hkept
  obtain ⟨y', d, w', rfl, -, hd, -⟩ := hp _ _ _ hm₁
  have hsame : y ++ c :: w = (x ++ y') ++ d :: (w' ++ (m₂ ++ z)) := by
    rw [hsplit]
    simp only [List.append_assoc, List.cons_append]
  obtain ⟨-, -, rfl⟩ := blank_of_separator (fun _ => not_separator_of_isSpace) hy hw hd hsame
  intro e he
  exact hw e (by simp [he])

/-- Nothing is left to replace by the rule of assigned keys. -/
lemma noHit_apiKey (t : Text) :
    NoHit apiKey.rule.pattern Anything (apiKey.rule.subn redactionToken t).1 := by
  refine noHit_subn_self isCore_apiKey (carriesOver_anything _)
    (fun _ _ hm => isCore_apiKey.ne_nil hm rfl) secretsIn_apiKey
    (fun _ m rest hm _ => ⟨m, rest, rfl, hm⟩)
    ?_ t
  rintro before kept rest hkept x m z hsplit before' rest'
    ⟨m₁, m₂, rfl, h₁, m₃, m₄, rfl, -, m₅, m₆, rfl, h₅, -⟩
  have hblank := not_matches_in_kept endsBlank_apiKey hkept hsplit h₁
  have hlength := h₅.2.1
  obtain ⟨c, hc⟩ := List.exists_mem_of_ne_nil m₅ (List.ne_nil_of_length_pos (by omega))
  have hspace := hblank c (by simp [hc])
  rw [isSpace_of_isTokenChar (h₅.1 c hc)] at hspace
  contradiction

/-- A rule that keeps nothing leaves no hits of its own. -/
lemma noHit_of_kept_empty {r : Rule} (hcore : IsCore r.pattern) (hsecrets : SecretsIn r)
    (hkept : r.kept = .empty) (t : Text) : NoHit r.pattern Anything
    (r.subn redactionToken t).1 := by
  refine noHit_subn_self hcore (carriesOver_anything _) (fun _ _ hm => hcore.ne_nil hm rfl) hsecrets
    (fun _ m rest hm _ => ⟨m, rest, rfl, hm⟩) ?_ t
  intro before kept rest hkeeps x m z hsplit before' rest' hm
  rw [hkept] at hkeeps
  obtain rfl : kept = [] := hkeeps
  have hnil := (List.append_eq_nil_iff.1 (List.append_eq_nil_iff.1 hsplit.symm).2).1
  exact hcore.ne_nil hm hnil

/-! ## Authorization headers -/

/-- A header up to its credentials. -/
def authorizationCore : Pattern :=
  authorizationHeader.rule.kept ++ (choice (literalI "bearer") [literalI "basic"] ++ many 1 isSpace)

/-- The text does not begin with white space. -/
def BeginsVisible (t : Text) : Prop := ∃ c, t.head? = some c ∧ isSpace c = false

/-- A keyword in any case ends with a character of a token. -/
lemma exists_last_of_literalI {t : Text} (ht : t ∈ keywords) {before : Option Char} {m rest : Text}
    (h : (literalI t).Matches before m rest) :
    ∃ y c, m = y ++ [c] ∧ isSeparator c = false ∧ isSpace c = false := by
  obtain ⟨hne, hall⟩ := keyword_letters t ht
  obtain rfl := matches_literalBy.1 h
  have hm : m ≠ [] := by simpa using hne
  have hletter : isAsciiAlphanumeric (ignoreCase (m.getLast hm)) = true :=
    List.all_eq_true.1 hall _ (List.mem_map_of_mem (List.getLast_mem hm))
  exact ⟨m.dropLast, m.getLast hm, (List.dropLast_append_getLast hm).symm,
    not_separator_of_ignoreCase hletter BEq.rfl,
    isSpace_of_isTokenChar (isTokenChar_of_ignoreCase hletter BEq.rfl)⟩

/-- A header ends with a letter and white space. -/
lemma authorizationCore_ends {before : Option Char} {m rest : Text}
    (h : authorizationCore.Matches before m rest) :
    ∃ y c w, m = y ++ c :: w ∧ isSeparator c = false ∧ isSpace c = false ∧
      ∀ d ∈ w, isSpace d = true := by
  obtain ⟨m₁, m₂, rfl, -, m₃, m₄, rfl, h₃, h₄⟩ := h
  obtain ⟨y, c, rfl, hsep, hspace⟩ : ∃ y c, m₃ = y ++ [c] ∧ isSeparator c = false ∧
      isSpace c = false := by
    rcases h₃ with h₃ | h₃
    · exact exists_last_of_literalI (by simp [keywords]) h₃
    · exact exists_last_of_literalI (by simp [keywords]) h₃
  exact ⟨m₁ ++ y, c, m₄, by simp, hsep, hspace, h₄.1⟩

/-- The name of the header is a core. -/
lemma isCore_authorizationCore : IsCore authorizationCore := by
  constructor
  · exact ⟨⟨.line, plainClass_isSpace, all_literalI (by simp [keywords]), plainClass_isSpace,
      all_literal (by simp [literals]), plainClass_isSpace⟩, ⟨all_literalI (by simp [keywords]),
      all_literalI (by simp [keywords])⟩, plainClass_isSpace⟩
  · rintro before m rest ⟨m₁, m₂, rfl, h₁, -⟩
    obtain ⟨y, c, w, rfl, -, hc, -⟩ := endsBlank_authorizationHeader _ _ _ h₁
    exact ⟨c, by simp, not_mem_redactionToken (.inr (.inl hc))⟩

/-- Its condition carries over. -/
lemma carriesOver_authorizationCore : CarriesOver authorizationCore BeginsVisible := by
  rintro before left m x secret rest u hm hsecret ⟨c, hc, hvisible⟩
  by_cases hx : x = []
  · subst hx
    obtain ⟨d, hd⟩ := Option.isSome_iff_exists.1 (List.isSome_head?.2 hsecret.ne_nil)
    refine ⟨d, ?_, ?_⟩
    · rw [List.nil_append, List.head?_append_of_ne_nil _ hsecret.ne_nil, hd]
    · by_contra hspace
      rw [Bool.not_eq_false] at hspace
      obtain ⟨y, w, hleft, hw⟩ := hsecret.space d hd hspace
      obtain ⟨y', e, w', rfl, hsep, he, hw'⟩ := authorizationCore_ends hm
      rw [List.append_nil, ← List.append_assoc] at hleft
      have hsame := visible_unique hw' hw he (by decide) hleft
      rw [hsame] at hsep
      exact absurd hsep (by decide)
  · rw [List.head?_append_of_ne_nil _ hx] at hc
    exact ⟨c, by rw [List.head?_append_of_ne_nil _ hx, hc], hvisible⟩

/-- Credentials behind a header are a match. -/
lemma hasMatch_authorizationHeader {before : Option Char} {m rest : Text}
    (hm : authorizationCore.Matches before m rest) (hvisible : BeginsVisible rest) :
    authorizationHeader.rule.HasMatch before (m ++ rest) := by
  obtain ⟨m₁, m₂, rfl, h₁, m₃, m₄, rfl, h₃, h₄⟩ := hm
  obtain ⟨c, hc, hvisible⟩ := hvisible
  obtain ⟨rest, rfl⟩ := List.head?_eq_some_iff.1 hc
  refine ⟨m₁ ++ (m₃ ++ (m₄ ++ [c])), rest, by simp, m₁, _, rfl, ?_, m₃, _, rfl, ?_, m₄, [c], rfl,
    ?_, ?_⟩
  · simpa using h₁
  · simpa using h₃
  · simpa using h₄
  · refine ⟨?_, le_rfl, fun k hk => absurd hk (by simp)⟩
    intro d hd
    obtain rfl := List.mem_singleton.1 hd
    simp [hvisible]

/-- A match has a header with credentials behind it. -/
lemma exists_of_hasMatch_authorizationHeader {before : Option Char} {t : Text}
    (h : authorizationHeader.rule.HasMatch before t) :
    ∃ m rest, t = m ++ rest ∧ authorizationCore.Matches before m rest ∧ BeginsVisible rest := by
  obtain ⟨m, rest, rfl, m₁, m₂, rfl, h₁, m₃, m₄, rfl, h₃, m₅, m₆, rfl, h₅, h₆⟩ := h
  refine ⟨m₁ ++ (m₃ ++ m₅), m₆ ++ rest, by simp, ⟨m₁, _, rfl, ?_, m₃, m₅, rfl, ?_, h₅⟩, ?_⟩
  · simpa using h₁
  · simpa using h₃
  · have hne : m₆ ≠ [] := List.ne_nil_of_length_pos h₆.2.1
    obtain ⟨c, hc⟩ := Option.isSome_iff_exists.1 (List.isSome_head?.2 hne)
    refine ⟨c, by rw [List.head?_append_of_ne_nil _ hne, hc], ?_⟩
    simpa using h₆.1 c (List.mem_of_head? hc)

/-- A header is not empty. -/
lemma authorizationHeader_ne_nil (before : Option Char) (rest : Text) :
    ¬ authorizationHeader.rule.pattern.Matches before [] rest := by
  rintro ⟨m₁, m₂, hnil, h₁, -⟩
  obtain ⟨y, c, w, rfl, -⟩ := endsBlank_authorizationHeader _ _ _ h₁
  simp at hnil

/-- Nothing is left to replace by the rule of headers. -/
lemma noHit_authorizationHeader (t : Text) :
    NoHit authorizationCore BeginsVisible (authorizationHeader.rule.subn redactionToken t).1 := by
  refine noHit_subn_self isCore_authorizationCore carriesOver_authorizationCore
    authorizationHeader_ne_nil
    secretsIn_authorizationHeader (fun _ _ _ => hasMatch_authorizationHeader) ?_ t
  rintro before kept rest hkept x m z hsplit before' rest' hm
  obtain ⟨m₁, m₂, rfl, h₁, m₃, m₄, rfl, h₃, h₄⟩ := hm
  have hblank := not_matches_in_kept endsBlank_authorizationHeader hkept hsplit h₁
  obtain ⟨y, c, rfl, -, hspace⟩ : ∃ y c, m₃ = y ++ [c] ∧ isSeparator c = false ∧
      isSpace c = false := by
    rcases h₃ with h₃ | h₃
    · exact exists_last_of_literalI (by simp [keywords]) h₃
    · exact exists_last_of_literalI (by simp [keywords]) h₃
  rw [hblank c (by simp)] at hspace
  contradiction

/-- Then the rule of headers changes nothing. -/
lemma subn_authorizationHeader {t : Text} (h : NoHit authorizationCore BeginsVisible t) :
    (authorizationHeader.rule.subn redactionToken t).1 = t := by
  refine subn_of_noMatch authorizationHeader_ne_nil ?_
  intro x y hsplit _ hmatch
  obtain ⟨m, rest, rfl, hm, hvisible⟩ := exists_of_hasMatch_authorizationHeader hmatch
  exact h x m rest hsplit hm hvisible

/-! ## Private keys -/

/-- The first line of a private key. -/
def keyBegins : Pattern :=
  literal "-----BEGIN " ++ (many 0 (fun c => isUpper c || c == ' ') ++ literal "PRIVATE KEY-----")

/-- The last line of a private key. -/
def keyEnds : Pattern :=
  literal "-----END " ++ (many 0 (fun c => isUpper c || c == ' ') ++ literal "PRIVATE KEY-----")

/-- A private key: a first line, and a last line somewhere behind it. -/
lemma privateKey_matches_iff {before : Option Char} {m rest : Text} :
    privateKey.rule.pattern.Matches before m rest ↔ ∃ b x e, m = b ++ (x ++ e) ∧
      keyBegins.Matches none b [] ∧ keyEnds.Matches none e [] := by
  constructor
  · rintro ⟨m₁, m₂, rfl, rfl, m₃, m₄, rfl, h₃, m₅, m₆, rfl, h₅, m₇, m₈, rfl, h₇, m₉, m₁₀, rfl, h₉,
      m₁₁,
      m₁₂, rfl, h₁₁, m₁₃, m₁₄, rfl, h₁₃, h₁₄⟩
    refine ⟨m₃ ++ (m₅ ++ m₇), m₉, m₁₁ ++ (m₁₃ ++ m₁₄), by
      simp, ⟨m₃, _, rfl, ?_, m₅, m₇, rfl, h₅, ?_⟩,
      m₁₁, _, rfl, ?_, m₁₃, m₁₄, rfl, h₁₃, ?_⟩
    · exact matches_literal.2 (matches_literal.1 h₃)
    · exact matches_literal.2 (matches_literal.1 h₇)
    · exact matches_literal.2 (matches_literal.1 h₁₁)
    · exact matches_literal.2 (matches_literal.1 h₁₄)
  · rintro ⟨b, x, e, rfl, ⟨m₃, m₄, rfl, h₃, m₅, m₇, rfl, h₅, h₇⟩, m₁₁, m₁₂, rfl, h₁₁, m₁₃, m₁₄, rfl,
      h₁₃,
      h₁₄⟩
    refine ⟨[], _, rfl, rfl, m₃, m₅ ++ (m₇ ++ (x ++ (m₁₁ ++ (m₁₃ ++ m₁₄)))), by
      simp, ?_, m₅, _, rfl, h₅,
      m₇, _, rfl, ?_, x, _, rfl, ⟨fun _ _ => rfl, Nat.zero_le _, fun k hk => absurd hk (by simp)⟩,
      m₁₁, _,
      rfl, ?_, m₁₃, _, rfl, h₁₃, ?_⟩
    · exact matches_literal.2 (matches_literal.1 h₃)
    · exact matches_literal.2 (matches_literal.1 h₇)
    · exact matches_literal.2 (matches_literal.1 h₁₁)
    · exact matches_literal.2 (matches_literal.1 h₁₄)

/-- The text has a private key. -/
def HasKey (t : Text) : Prop :=
  ∃ p b x e q, t = p ++ (b ++ (x ++ (e ++ q))) ∧ keyBegins.Matches none b [] ∧
    keyEnds.Matches none e []

/-- The beginnings of the lines around a private key. -/
def keyLines : List Text := ["-----BEGIN ", "-----END "]

/-- The lines around a private key have no brackets. -/
lemma keyLine_chars : ∀ t ∈ ("PRIVATE KEY-----" : Text) :: keyLines,
    t.all (fun c => c != '[' && c != ']') = true ∧ '-' ∈ t := by
  unfold keyLines
  simp only [Text.ofString_eq]
  decide

/-- A line around a private key is foreign to the token. -/
lemma foreignText_of_keyLine {t b : Text} (ht : t ∈ keyLines)
    (h : (literal t ++ (many 0 (fun c => isUpper c || c == ' ') ++
      literal "PRIVATE KEY-----")).Matches
      none b []) : ForeignText b := by
  have hliteral : ∀ {s : Text}, s.all (fun c => c != '[' && c != ']') = true →
      (literal s).All (fun p => p '[' = false ∧ p ']' = false) fun _ => True := by
    intro s hs
    refine all_literalBy fun d hd => ?_
    have hd := List.all_eq_true.1 hs d hd
    rw [Bool.and_eq_true, bne_iff_ne, bne_iff_ne] at hd
    constructor
    · simpa using hd.1.symm
    · simpa using hd.2.symm
  have hall : (literal t ++ (many 0 (fun c => isUpper c || c == ' ') ++
      literal "PRIVATE KEY-----")).All
      (fun p => p '[' = false ∧ p ']' = false) fun _ => True :=
    ⟨hliteral (keyLine_chars t (List.mem_cons_of_mem _ ht)).1, ⟨by decide, by decide⟩,
      hliteral (keyLine_chars _ List.mem_cons_self).1⟩
  refine ⟨?_, ?_, '-', ?_, not_mem_redactionToken (by simp)⟩
  · intro hmem
    obtain ⟨p, hp, hbracket⟩ := h.exists_class hall _ hmem
    rw [hp.1] at hbracket
    contradiction
  · intro hmem
    obtain ⟨p, hp, hbracket⟩ := h.exists_class hall _ hmem
    rw [hp.2] at hbracket
    contradiction
  · obtain ⟨m₁, m₂, rfl, h₁, -⟩ := h
    rw [matches_literal.1 h₁]
    exact List.mem_append_left _ (keyLine_chars t (List.mem_cons_of_mem _ ht)).2

/-- The beginning of a key is foreign. -/
lemma foreignText_of_keyBegins {b : Text} (h : keyBegins.Matches none b []) : ForeignText b :=
  foreignText_of_keyLine (by simp [keyLines]) h

/-- So is its end. -/
lemma foreignText_of_keyEnds {e : Text} (h : keyEnds.Matches none e []) : ForeignText e :=
  foreignText_of_keyLine (by simp [keyLines]) h

/-- A foreign text in the output is one in the input. -/
lemma exists_of_edits {r : Rule} {done t u m : Text} (hm : ForeignText m)
    (h : r.Edits redactionToken done t u) :
    ∀ p q, u = p ++ (m ++ q) → ∃ p' q', t = p' ++ (m ++ q') := by
  induction h with
  | last _ => exact fun p q hsplit => ⟨p, q, hsplit⟩
  | @region done skipped kept secret rest u _ _ _ ih =>
    intro p q hsplit
    rw [← List.append_assoc] at hsplit
    rcases hm.cases hsplit with ⟨z, hgap, -⟩ | ⟨v, -, hu⟩
    · refine ⟨p, z ++ (secret ++ rest), ?_⟩
      rw [← List.append_assoc, hgap]
      simp only [List.append_assoc]
    · obtain ⟨p', q', rfl⟩ := ih v q hu
      exact ⟨skipped ++ (kept ++ (secret ++ p')), q', by simp only [List.append_assoc]⟩

/-- Edits make no private key. -/
lemma hasKey_of_edits {r : Rule} {done t u : Text} (h : r.Edits redactionToken done t u)
    (hkey : HasKey u) : HasKey t := by
  induction h with
  | last _ => exact hkey
  | @region done skipped kept secret rest u _ _ hrest ih =>
    obtain ⟨p, b, x, e, q, hsplit, hb, he⟩ := hkey
    rw [← List.append_assoc] at hsplit
    rcases (foreignText_of_keyBegins hb).cases hsplit with ⟨z, hgap, hz⟩ | ⟨v, -, hu⟩
    · rcases (foreignText_of_keyEnds he).cases hz.symm with ⟨z', rfl, -⟩ | ⟨v, -, hu⟩
      · refine ⟨p, b, x, e, z' ++ (secret ++ rest), ?_, hb, he⟩
        rw [← List.append_assoc, hgap]
        simp only [List.append_assoc]
      · obtain ⟨p', q', rfl⟩ := exists_of_edits (foreignText_of_keyEnds he) hrest v q hu
        refine ⟨p, b, z ++ (secret ++ p'), e, q', ?_, hb, he⟩
        rw [← List.append_assoc, hgap]
        simp only [List.append_assoc]
    · obtain ⟨p', b', x', e', q', rfl, hb', he'⟩ := ih ⟨v, b, x, e, q, hu, hb, he⟩
      exact ⟨skipped ++ (kept ++ (secret ++ p')), b', x', e',
        q', by simp only [List.append_assoc], hb',
        he'⟩

/-- A beginning and an end make a private key. -/
lemma hasMatch_of_key {before : Option Char} {b x e q : Text} (hb : keyBegins.Matches none b [])
    (he : keyEnds.Matches none e []) : privateKey.rule.HasMatch before (b ++ (x ++ (e ++ q))) :=
  ⟨b ++ (x ++ e),
    q, by simp only [List.append_assoc], privateKey_matches_iff.2 ⟨b, x, e, rfl, hb, he⟩⟩

/-- A private key is not empty. -/
lemma privateKey_ne_nil (before : Option Char) (rest : Text) :
    ¬ privateKey.rule.pattern.Matches before [] rest := by
  intro h
  obtain ⟨b, x, e, hnil, hb, -⟩ := privateKey_matches_iff.1 h
  obtain ⟨c, hc, -⟩ := (foreignText_of_keyBegins hb).foreign
  rw [(List.append_eq_nil_iff.1 hnil.symm).1] at hc
  cases hc

/-- No private key is left. -/
lemma not_hasKey_of_edits {done t u : Text} (h : privateKey.rule.Edits redactionToken done t u) :
    ¬ HasKey u := by
  induction h with
  | @last done t hnone =>
    rintro ⟨p, b, x, e, q, rfl, hb, he⟩
    obtain ⟨c, hc, -⟩ := (foreignText_of_keyBegins hb).foreign
    exact hnone p _ rfl (by simp [List.ne_nil_of_mem hc]) (hasMatch_of_key hb he)
  | @region done skipped kept secret rest u hskipped hreplaces _ ih =>
    rintro ⟨p, b, x, e, q, hsplit, hb, he⟩
    obtain rfl : kept = [] := hreplaces.keeps
    rw [← List.append_assoc, List.append_nil] at hsplit
    rcases (foreignText_of_keyBegins hb).cases hsplit with ⟨z, rfl, -⟩ | ⟨v, -, hu⟩
    · -- the last line of the key that is replaced ends this key, too
      have hpattern : privateKey.rule.pattern.Matches (lastOr none (done ++ (p ++ (b ++ z)))) secret
          rest :=
        ⟨[], secret, rfl, rfl, hreplaces.secret_matches⟩
      obtain ⟨b', x', e', rfl, -, he'⟩ := privateKey_matches_iff.1 hpattern
      obtain ⟨c, hc, -⟩ := (foreignText_of_keyBegins hb).foreign
      refine hskipped p (b ++ z) rfl (by simp [List.ne_nil_of_mem hc]) ?_
      have hmatch : privateKey.rule.HasMatch (lastOr none (done ++ p))
          (b ++ ((z ++ (b' ++ x')) ++ (e' ++ rest))) := hasMatch_of_key hb he'
      simpa using hmatch
    · exact ih ⟨v, b, x, e, q, hu, hb, he⟩

/-- Without a private key the rule changes nothing. -/
lemma subn_privateKey {t : Text} (h : ¬ HasKey t) : (privateKey.rule.subn redactionToken t).1 =
    t := by
  refine subn_of_noMatch privateKey_ne_nil ?_
  rintro x y rfl - ⟨m, rest, rfl, hm⟩
  obtain ⟨b, z, e, rfl, hb, he⟩ := privateKey_matches_iff.1 hm
  exact h ⟨x, b, z, e, rest, by simp only [List.append_assoc], hb, he⟩

end ReviewGraph
