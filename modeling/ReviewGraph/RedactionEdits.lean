import ReviewGraph.Foundation.Matches
import ReviewGraph.MemoryProvenance
import ReviewGraph.Redaction

/-!
# Redaction as a sequence of edits

What stands next to a token after a pass: `SecretIn` describes the secret that was there before,
with the neighbours that the rules see.  A match of a core, a pattern of plain classes, neither
overlaps a token nor depends on it, so that `not_ahead_of_edits` traces it back to the text before
the pass.
-/

namespace ReviewGraph

open Regex Pattern Unicode

/-! ## Secrets and the text around them -/

/-- A class of characters without brackets, all of whose word characters occur in tokens. -/
structure PlainClass (p : Char → Bool) : Prop where
  /-- No opening bracket. -/
  openBracket : p '[' = false
  /-- No closing bracket. -/
  closeBracket : p ']' = false
  /-- Word characters occur in tokens. -/
  word : ∀ c, p c = true → isWord c = true → isTokenChar c = true

/-- The assertions at the beginning of a line and at the boundary of a word. -/
inductive BoundaryAssertion : (Option Char → Option Char → Bool) → Prop
  | word : BoundaryAssertion fun before after => before.any isWord != after.any isWord
  | line : BoundaryAssertion fun before _ => before.all (· == '\n')

/-- The characters of plain patterns are no brackets, and the word characters occur in tokens. -/
lemma plain_chars {p : Pattern} {before : Option Char} {m rest : Text} (h : p.Matches before m rest)
    (hall : p.All PlainClass BoundaryAssertion) {c : Char} (hc : c ∈ m) :
    c ≠ '[' ∧ c ≠ ']' ∧ (isWord c = true → isTokenChar c = true) := by
  obtain ⟨q, hq, hqc⟩ := h.exists_class hall c hc
  refine ⟨?_, ?_, hq.word c hqc⟩
  · rintro rfl
    rw [hq.openBracket] at hqc
    contradiction
  · rintro rfl
    rw [hq.closeBracket] at hqc
    contradiction

/-- A secret between the texts around it. -/
structure SecretIn (left secret rest : Text) : Prop where
  /-- The secret is not empty. -/
  ne_nil : secret ≠ []
  /-- The secret does not begin with a newline. -/
  newline : ∀ d ∈ secret.head?, d ≠ '\n'
  /-- The secret does not begin inside a word. -/
  first : ∀ c ∈ lastOr none left, ∀ d ∈ secret.head?, isWord c = true → isWord d = false
  /-- The secret does not end in front of a character of a token, inside a word. -/
  last : ∀ c ∈ secret.getLast?, ∀ d ∈ rest.head?, isWord c = true → isWord d = true →
    isTokenChar d = false
  /-- A secret that begins with white space stands behind an equality sign. -/
  space : ∀ d ∈ secret.head?, isSpace d = true →
    ∃ y w, left = y ++ '=' :: w ∧ ∀ c ∈ w, isSpace c = true

/-- The character in front of a text, in the input and in the output, where it can be a bracket. -/
def BeforeOk (before before' : Option Char) (after : Option Char) : Prop :=
  before = before' ∨ before = some ']' ∧
    ∀ c ∈ before', ∀ d ∈ after, isWord c = true → isWord d = true → isTokenChar d = false

/-- The text behind a match, in the input and in the output, where it can be a token. -/
def AfterOk (m rest rest' : Text) : Prop :=
  rest.head? = rest'.head? ∨ rest.head? = some '[' ∧
    ∃ d, rest'.head? = some d ∧ ∀ c ∈ m.getLast?, isWord c = true → isWord d = false

/-- A text that is not empty has its own last character. -/
lemma lastOr_of_ne_nil (before before' : Option Char) {t : Text} (h : t ≠ []) :
    lastOr before t = lastOr before' t := by
  unfold lastOr
  obtain ⟨c, hc⟩ := Option.isSome_iff_exists.1 (List.getLast?_isSome.2 h)
  rw [hc]
  rfl

/-- So it is what stands in front of what follows. -/
lemma lastOr_eq_getLast? {before : Option Char} {t : Text} (h : t ≠ []) :
    lastOr before t = t.getLast? := by
  unfold lastOr
  obtain ⟨c, hc⟩ := Option.isSome_iff_exists.1 (List.getLast?_isSome.2 h)
  rw [hc]
  rfl

/-- The characters of the token. -/
lemma redactionToken_eq : redactionToken = ['[', 'R', 'E', 'D', 'A', 'C', 'T', 'E', 'D', ']'] := by
  unfold redactionToken
  rw [Text.ofString_eq]
  decide

/-- Behind the token there is a closing bracket. -/
lemma lastOr_redactionToken (before : Option Char) : lastOr before redactionToken = some ']' := by
  rw [redactionToken_eq, lastOr_eq_getLast? (List.cons_ne_nil _ _)]
  rfl

/-- What holds in front of a match behind a bracket holds behind the character of the input. -/
lemma boundary_before {q : Option Char → Option Char → Bool} (hq : BoundaryAssertion q)
    {before before' : Option Char} {d : Char} (htoken : isWord d = true → isTokenChar d = true)
    (hbefore : BeforeOk before before' (some d)) (htrue : q before (some d) = true) :
    q before' (some d) = true := by
  rcases hbefore with rfl | ⟨rfl, hword⟩
  · exact htrue
  cases hq with
  | line =>
    dsimp only at htrue
    rw [Option.all_some] at htrue
    exact absurd htrue (by decide)
  | word =>
    dsimp only at htrue ⊢
    have hbracket : isWord ']' = false := by decide
    rw [Option.any_some, Option.any_some, hbracket] at htrue
    have hwordD : isWord d = true := by simpa using htrue
    rw [Option.any_some, hwordD]
    cases hb : before' with
    | none => rfl
    | some c =>
      have hnot : isWord c = false := by
        by_contra hc
        rw [Bool.not_eq_false] at hc
        have hfalse := hword c hb d rfl hc hwordD
        rw [htoken hwordD] at hfalse
        contradiction
      rw [Option.any_some, hnot]
      rfl

/-- What holds behind a match in front of a token holds in front of the text of the input. -/
lemma boundary_after {q : Option Char → Option Char → Bool} (hq : BoundaryAssertion q)
    {before : Option Char} {m rest rest' : Text} (hm : m ≠ []) (hafter : AfterOk m rest rest')
    (htrue : q (lastOr before m) rest.head? = true) : q (lastOr before m) rest'.head? = true := by
  cases hq with
  | line => exact htrue
  | word =>
    dsimp only at htrue ⊢
    rcases hafter with hsame | ⟨hopen, d, hd, hword⟩
    · rw [← hsame]
      exact htrue
    · have hbracket : isWord '[' = false := by decide
      rw [hopen, Option.any_some, hbracket] at htrue
      have hlast : (lastOr before m).any isWord = true := by simpa using htrue
      rw [lastOr_eq_getLast? hm] at hlast ⊢
      obtain ⟨c, hc⟩ := Option.isSome_iff_exists.1 (List.getLast?_isSome.2 hm)
      rw [hc, Option.any_some] at hlast
      rw [hd, hc, Option.any_some, Option.any_some, hlast, hword c hc hlast]
      rfl

/-- A plain pattern matches the same in the input and in the output. -/
lemma matches_of_context {p : Pattern} (hall : p.All PlainClass BoundaryAssertion)
    {before before' : Option Char} {m rest rest' : Text} (hne : m ≠ [])
    (hbefore : BeforeOk before before' m.head?) (hafter : AfterOk m rest rest')
    (h : p.Matches before m rest) : p.Matches before' m rest' := by
  refine h.transfer hall fun q hq x y hsplit htrue => ?_
  by_cases hx : x = []
  · subst hx
    rw [List.nil_append] at hsplit
    subst hsplit
    obtain ⟨d, hd⟩ := Option.isSome_iff_exists.1 (List.isSome_head?.2 hne)
    rw [lastOr_nil, List.head?_append_of_ne_nil _ hne, hd] at htrue ⊢
    rw [hd] at hbefore
    exact boundary_before hq (plain_chars h hall (List.mem_of_head? hd)).2.2 hbefore htrue
  · rw [lastOr_of_ne_nil _ before hx]
    by_cases hy : y = []
    · subst hy
      rw [List.append_nil] at hsplit
      subst hsplit
      exact boundary_after hq hx hafter htrue
    · rw [List.head?_append_of_ne_nil _ hy] at htrue ⊢
      exact htrue

/-! ## Matches in front of a token -/

/-- A text without brackets that is foreign to the token. -/
structure ForeignText (m : Text) : Prop where
  /-- No opening bracket. -/
  openBracket : '[' ∉ m
  /-- No closing bracket. -/
  closeBracket : ']' ∉ m
  /-- A character that the token does not have. -/
  foreign : ∃ c ∈ m, c ∉ redactionToken

/-- The token begins with an opening bracket. -/
lemma redactionToken_eq_cons : redactionToken = '[' :: redactionToken.tail := by
  rw [redactionToken_eq, List.tail_cons]

/-- A foreign text begins with a character that is not inside a token. -/
lemma ForeignText.not_in_token {m rest v w u : Text} (h : ForeignText m)
    (htoken : redactionToken = v ++ w) (hw : w ≠ []) : m ++ rest ≠ w ++ u := by
  intro hsplit
  have hlast : w.getLast hw = ']' := by
    have hend : redactionToken.getLast? = some ']' := by
      rw [redactionToken_eq]
      rfl
    rw [htoken, List.getLast?_append_of_ne_nil _ hw, List.getLast?_eq_some_getLast hw] at hend
    exact Option.some.inj hend
  have hw' : w = w.dropLast ++ [']'] := by
    rw [← hlast, List.dropLast_append_getLast]
  rw [hw', List.append_assoc] at hsplit
  obtain ⟨z, hz, -⟩ := split_of_not_mem h.closeBracket hsplit
  obtain ⟨c, hc, hnot⟩ := h.foreign
  refine hnot ?_
  rw [htoken]
  refine List.mem_append_right _ (List.dropLast_subset w ?_)
  rw [hz]
  exact List.mem_append_left _ hc

/-- A foreign text stands in front of a token or behind it. -/
lemma ForeignText.cases {m rest x g u : Text} (h : ForeignText m)
    (hsplit : g ++ (redactionToken ++ u) = x ++ (m ++ rest)) :
    (∃ z, g = x ++ (m ++ z) ∧ rest = z ++ (redactionToken ++ u)) ∨
      ∃ v, x = g ++ (redactionToken ++ v) ∧ u = v ++ (m ++ rest) := by
  rcases List.append_eq_append_iff.1 hsplit with ⟨z, rfl, hz⟩ | ⟨z, rfl, hz⟩
  · rcases List.append_eq_append_iff.1 hz with ⟨v, rfl, hu⟩ | ⟨v, htoken, hv⟩
    · exact .inr ⟨v, rfl, hu⟩
    · by_cases hne : v = []
      · subst hne
        rw [List.append_nil] at htoken
        exact .inr ⟨[], by rw [List.append_nil, htoken], hv.symm⟩
      · exact absurd hv (h.not_in_token htoken hne)
  · rw [redactionToken_eq_cons, List.cons_append] at hz
    obtain ⟨v, rfl, hv⟩ := split_of_not_mem h.openBracket hz
    refine .inl ⟨v, rfl, ?_⟩
    rw [hv, redactionToken_eq_cons]
    rfl

/-- A pattern whose matches are not created by tokens. -/
structure IsCore (core : Pattern) : Prop where
  /-- The pattern has no brackets. -/
  plain : core.All PlainClass BoundaryAssertion
  /-- Every match has a character that the token does not have. -/
  foreign : ∀ before m rest, core.Matches before m rest → ∃ c ∈ m, c ∉ redactionToken

namespace IsCore

variable {core : Pattern}

/-- A match of a core is foreign. -/
lemma foreignText (h : IsCore core) {before : Option Char} {m rest : Text}
    (hm : core.Matches before m rest) : ForeignText m :=
  ⟨fun hc => (plain_chars hm h.plain hc).1 rfl, fun hc => (plain_chars hm h.plain hc).2.1 rfl,
    h.foreign _ _ _ hm⟩

/-- A match of a core is not empty. -/
lemma ne_nil (h : IsCore core) {before : Option Char} {m rest : Text}
    (hm : core.Matches before m rest) : m ≠ [] := by
  obtain ⟨c, hc, -⟩ := h.foreign _ _ _ hm
  exact List.ne_nil_of_mem hc

/-- The character in front does not matter. -/
lemma matches_before (h : IsCore core) {before before' : Option Char} {m rest : Text}
    (hbefore : BeforeOk before before' (m ++ rest).head?) (hm : core.Matches before m rest) :
    core.Matches before' m rest := by
  have hne := h.ne_nil hm
  rw [List.head?_append_of_ne_nil _ hne] at hbefore
  exact matches_of_context h.plain hne hbefore (.inl rfl) hm

/-- A match in front of a token is one in front of the secret. -/
lemma matches_gap (h : IsCore core) {before before' : Option Char} {left m z secret rest u : Text}
    (hsecret : SecretIn (left ++ (m ++ z)) secret rest)
    (hbefore : BeforeOk before before' (m ++ z).head?)
    (hm : core.Matches before m (z ++ (redactionToken ++ u))) :
    core.Matches before' m (z ++ (secret ++ rest)) := by
  have hne := h.ne_nil hm
  rw [List.head?_append_of_ne_nil _ hne] at hbefore
  refine matches_of_context h.plain hne hbefore ?_ hm
  by_cases hz : z = []
  · subst hz
    obtain ⟨d, hd⟩ := Option.isSome_iff_exists.1 (List.isSome_head?.2 hsecret.ne_nil)
    refine .inr ⟨by rw [redactionToken_eq_cons]; rfl, d, ?_, ?_⟩
    · rw [List.nil_append, List.head?_append_of_ne_nil _ hsecret.ne_nil]
      exact hd
    · intro c hc hword
      refine hsecret.first c ?_ d hd hword
      rw [List.append_nil, ← lastOr_append, lastOr_eq_getLast? hne]
      exact hc
  · refine .inl ?_
    rw [List.head?_append_of_ne_nil _ hz, List.head?_append_of_ne_nil _ hz]

end IsCore

/-- Every secret of the rule stands in its surroundings as it should. -/
def SecretsIn (r : Rule) : Prop := ∀ {left kept secret rest : Text},
  r.Replaces (lastOr none left) kept secret rest → SecretIn (left ++ kept) secret rest

/-- The character in front of a later position. -/
lemma BeforeOk.lastOr {before : Option Char} {done x y : Text}
    (h : BeforeOk before (lastOr none done) (x ++ y).head?) :
    BeforeOk (Pattern.lastOr before x) (Pattern.lastOr none (done ++ x)) y.head? := by
  by_cases hx : x = []
  · subst hx
    rw [List.append_nil]
    exact h
  · refine .inl ?_
    rw [← lastOr_append]
    exact lastOr_of_ne_nil _ _ hx

/-- A region that a rule replaces, and the output behind it. -/
structure Region (r : Rule) (left kept secret rest u : Text) : Prop where
  /-- The match. -/
  replaces : r.Replaces (lastOr none left) kept secret rest
  /-- The secret in its surroundings. -/
  secretIn : SecretIn (left ++ kept) secret rest
  /-- What follows. -/
  edits : r.Edits redactionToken (left ++ (kept ++ secret)) rest u

/-- What lies ahead of the matches of another pattern in the output, by the three kinds of
positions: behind all matches of the rule, in front of one, and in what is kept of one. -/
theorem not_ahead_of_edits {core : Pattern} {ahead : Text → Prop} (hcore : IsCore core) {r : Rule}
    (hsecrets : SecretsIn r) {whole : Text}
    (hlast : ∀ left m rest, left ++ (m ++ rest) = whole → core.Matches (lastOr none left) m rest →
      ¬ r.HasMatch (lastOr none left) (m ++ rest) → ¬ ahead rest)
    (hskipped : ∀ left y kept m z secret rest u, left ++ (y ++ (kept ++ (secret ++ rest))) = whole →
      Region r (left ++ y) kept secret rest u → y ++ kept = m ++ z →
        core.Matches (lastOr none left) m (z ++ (secret ++ rest)) →
          ¬ r.HasMatch (lastOr none left) (m ++ (z ++ (secret ++ rest))) →
            ¬ ahead (z ++ (redactionToken ++ u)))
    (hkept : ∀ left x m z kept secret rest u, left ++ (kept ++ (secret ++ rest)) = whole →
      Region r left kept secret rest u → kept = x ++ (m ++ z) →
        core.Matches (lastOr none (left ++ x)) m (z ++ (secret ++ rest)) →
          ¬ ahead (z ++ (redactionToken ++ u)))
    {done t u : Text} (h : r.Edits redactionToken done t u) (hwhole : done ++ t = whole)
    {before : Option Char} (hbefore : BeforeOk before (lastOr none done) t.head?) :
    ∀ x m rest, u = x ++ (m ++ rest) → core.Matches (lastOr before x) m rest → ¬ ahead rest := by
  induction h generalizing before with
  | @last done t hnone =>
    rintro x m rest rfl hm
    have hne := hcore.ne_nil hm
    rw [← List.append_assoc] at hwhole
    exact hlast (done ++ x) m rest hwhole (hcore.matches_before hbefore.lastOr hm)
      (hnone x (m ++ rest) rfl (by simp [hne]))
  | @region done skipped kept secret rest' u hnone hreplaces hrest ih =>
    intro x m rest hsplit hm
    have hsecret : SecretIn ((done ++ skipped) ++ kept) secret rest' := hsecrets hreplaces
    have hregion : Region r (done ++ skipped) kept secret rest' u := by
      refine ⟨hreplaces, hsecret, ?_⟩
      rw [List.append_assoc]
      exact hrest
    have hne := hcore.ne_nil hm
    rw [← List.append_assoc] at hsplit
    rcases (hcore.foreignText hm).cases hsplit with ⟨z, hgap, rfl⟩ | ⟨v, rfl, hu⟩
    · -- in front of the token
      have hbefore' : BeforeOk (lastOr before x) (lastOr none (done ++ x)) (m ++ z).head? := by
        refine BeforeOk.lastOr ?_
        have hhead : (skipped ++ (kept ++ (secret ++ rest'))).head? = (x ++ (m ++ z)).head? := by
          rw [← List.append_assoc, hgap, List.head?_append_of_ne_nil]
          simp [hne]
        rw [hhead] at hbefore
        exact hbefore
      have hsecret' : SecretIn ((done ++ x) ++ (m ++ z)) secret rest' := by
        rw [List.append_assoc, ← hgap, ← List.append_assoc]
        exact hsecret
      have hinput := hcore.matches_gap hsecret' hbefore' hm
      rcases List.append_eq_append_iff.1 hgap with ⟨w, rfl, hw⟩ | ⟨w, rfl, hw⟩
      · -- in what is kept of the match
        rw [← List.append_assoc] at hinput hwhole
        exact hkept (done ++ skipped) w m z kept secret rest' u hwhole hregion hw hinput
      · by_cases hw0 : w = []
        · subst hw0
          rw [List.append_nil] at hregion hwhole
          rw [List.nil_append] at hw
          refine hkept (done ++ x) [] m z kept secret rest' u ?_ hregion hw.symm ?_
          · rw [List.append_assoc]
            exact hwhole
          · rw [List.append_nil]
            exact hinput
        · -- in front of the match
          have hskip := hnone x w rfl hw0
          have htext : w ++ (kept ++ (secret ++ rest')) = m ++ (z ++ (secret ++ rest')) := by
            rw [← List.append_assoc, ← hw, List.append_assoc]
          rw [htext] at hskip
          rw [← List.append_assoc] at hregion
          refine hskipped (done ++ x) w kept m z secret rest' u ?_ hregion hw.symm hinput hskip
          rw [← hwhole]
          simp only [List.append_assoc]
    · -- behind the token
      have hwhole' : (done ++ (skipped ++ (kept ++ secret))) ++ rest' = whole := by
        rw [← hwhole]
        simp only [List.append_assoc]
      have hend : lastOr none (done ++ (skipped ++ (kept ++ secret))) = secret.getLast? := by
        rw [← List.append_assoc, ← List.append_assoc, ← lastOr_append,
          lastOr_eq_getLast? hsecret.ne_nil]
      have hbehind : BeforeOk (some ']') (lastOr none (done ++ (skipped ++ (kept ++ secret))))
          rest'.head? := by
        refine .inr ⟨rfl, ?_⟩
        rw [hend]
        exact hsecret.last
      refine ih hwhole' hbehind v m rest hu ?_
      · have hlast' : lastOr before ((skipped ++ kept) ++ (redactionToken ++ v)) =
            lastOr (some ']') v := by
          rw [← lastOr_append, ← lastOr_append, lastOr_redactionToken]
        rw [← hlast']
        exact hm

/-! ## Keywords and literals -/

/-- The characters of a token one by one. -/
lemma isTokenChar_eq : isTokenChar = fun c => isAsciiAlphanumeric (ignoreCase c) ||
    decide (c ∈ ['.', '_', '~', '+', '/', '=', '-']) := by
  unfold isTokenChar
  rw [Text.ofString_eq]
  rfl

/-- The keywords of the patterns. -/
def keywords : List Text :=
  ["authorization", "bearer", "basic", "api", "key", "token", "secret", "password"]

/-- Keywords consist of letters. -/
lemma keyword_letters : ∀ t ∈ keywords, t ≠ [] ∧ t.all isAsciiAlphanumeric = true := by
  unfold keywords
  simp only [Text.ofString_eq]
  decide

/-- The characters of a literal. -/
def isLiteralChar (c : Char) : Bool := isTokenChar c || c == ':'

/-- The literals of the patterns, and the letters that stand for one character. -/
def literals : List Text :=
  [":", "=", "gh", "_", "github_pat_", "sk", "rk", "pk", "live", "test", "prod", "-", "xox"]

/-- The characters of the literals. -/
lemma literal_chars : ∀ t ∈ literals, t.all isLiteralChar = true := by
  unfold literals isLiteralChar
  simp only [Text.ofString_eq, isTokenChar_eq]
  decide

/-- The letters of a prefix are characters of a token. -/
lemma letter_tokens :
    ("psuor" : Text).all isTokenChar = true ∧ ("baprs" : Text).all isTokenChar = true := by
  simp only [Text.ofString_eq, isTokenChar_eq]
  decide

/-- The beginnings of keys. -/
def keyBeginnings : List Text := ["gh", "github_pat_", "sk", "rk", "pk", "xox"]

/-- The beginnings of keys begin with small letters. -/
lemma keyBeginning_lower : ∀ t ∈ keyBeginnings, t ≠ [] ∧ t.head?.all isLower = true := by
  unfold keyBeginnings
  simp only [Text.ofString_eq]
  decide

/-! ## Characters of tokens -/

/-- White space occurs in no token. -/
lemma isTokenChar_of_isSpace {c : Char} (h : isSpace c = true) : isTokenChar c = false := by
  have hcodes : ∀ n ∈ List.range' 9 5 ++ List.range' 0x1c 5 ++ [0x85, 0xa0, 0x1680] ++
      List.range' 0x2000 11 ++ [0x2028, 0x2029, 0x202f, 0x205f, 0x3000],
      isTokenChar (Char.ofNat n) = false := by
    rw [isTokenChar_eq]
    decide
  have hmem : c.toNat ∈ List.range' 9 5 ++ List.range' 0x1c 5 ++ [0x85, 0xa0, 0x1680] ++
      List.range' 0x2000 11 ++ [0x2028, 0x2029, 0x202f, 0x205f, 0x3000] := by
    simp only [isSpace, Bool.or_eq_true, Bool.and_eq_true, decide_eq_true_eq, beq_iff_eq] at h
    simp only [List.mem_append, List.mem_range'_1, List.mem_cons, List.not_mem_nil, or_false]
    omega
  have htoken := hcodes _ hmem
  rwa [Char.ofNat_toNat] at htoken

/-- A character of a token is no blank. -/
lemma isSpace_of_isTokenChar {c : Char} (h : isTokenChar c = true) : isSpace c = false := by
  by_contra hspace
  rw [isTokenChar_of_isSpace (by simpa using hspace)] at h
  contradiction

/-- A letter, in any case, occurs in tokens. -/
lemma isTokenChar_of_ignoreCase {c d : Char} (hd : isAsciiAlphanumeric d = true)
    (h : (ignoreCase c == d) = true) : isTokenChar c = true := by
  unfold isTokenChar
  rw [eq_of_beq h, hd]
  rfl

/-- The code of a character of a range. -/
lemma toNat_bounds {c d e : Char} (h : (decide (d ≤ c) && decide (c ≤ e)) = true) :
    d.toNat ≤ c.toNat ∧ c.toNat ≤ e.toNat := by
  rw [Bool.and_eq_true, decide_eq_true_eq, decide_eq_true_eq] at h
  exact ⟨h.1, h.2⟩

/-- ASCII letters and digits occur in tokens. -/
lemma isTokenChar_of_isAsciiAlphanumeric {c : Char} (h : isAsciiAlphanumeric c = true) :
    isTokenChar c = true := by
  have hcodes : ∀ n ∈ List.range' 48 10 ++ List.range' 65 26 ++ List.range' 97 26,
      isTokenChar (Char.ofNat n) = true := by decide
  have hmem : c.toNat ∈ List.range' 48 10 ++ List.range' 65 26 ++ List.range' 97 26 := by
    unfold isAsciiAlphanumeric isUpper isLower isDigit at h
    rw [Bool.or_eq_true, Bool.or_eq_true] at h
    rw [List.mem_append, List.mem_append, List.mem_range'_1, List.mem_range'_1, List.mem_range'_1]
    rcases h with (h | h) | h
    · obtain ⟨hlow, hhigh⟩ := toNat_bounds h
      have hA : ('A' : Char).toNat = 65 := rfl
      have hZ : ('Z' : Char).toNat = 90 := rfl
      omega
    · obtain ⟨hlow, hhigh⟩ := toNat_bounds h
      have ha : ('a' : Char).toNat = 97 := rfl
      have hz : ('z' : Char).toNat = 122 := rfl
      omega
    · obtain ⟨hlow, hhigh⟩ := toNat_bounds h
      have h0 : ('0' : Char).toNat = 48 := rfl
      have h9 : ('9' : Char).toNat = 57 := rfl
      omega
  have htoken := hcodes _ hmem
  rwa [Char.ofNat_toNat] at htoken

/-- The two marks of keys occur in tokens. -/
lemma isTokenChar_mark : isTokenChar '_' = true ∧ isTokenChar '-' = true := by
  rw [isTokenChar_eq]
  decide

/-- ASCII letters, digits and the two marks of keys occur in tokens. -/
lemma isTokenChar_of_keyChar {c : Char} (h : isAsciiAlphanumeric c = true ∨ c = '_' ∨ c = '-') :
    isTokenChar c = true := by
  rcases h with h | rfl | rfl
  · exact isTokenChar_of_isAsciiAlphanumeric h
  · exact isTokenChar_mark.1
  · exact isTokenChar_mark.2

/-- A small letter is alphanumeric. -/
lemma isAsciiAlphanumeric_of_isLower {c : Char} (h : isLower c = true) :
    isAsciiAlphanumeric c = true := by
  unfold isAsciiAlphanumeric
  rw [h]
  simp

/-- What is no blank is no newline. -/
lemma ne_newline_of_isSpace_eq_false {c : Char} (h : isSpace c = false) : c ≠ '\n' := by
  rintro rfl
  exact absurd h (by decide)

/-! ## The secrets of the rules -/

/-- Behind a separator and white space no secret begins inside a word. -/
lemma first_of_endsBlank {separator : Char → Bool} (hsep : ∀ c, separator c = true →
    isWord c = false)
    {p : Pattern} (hp : p.EndsBlank separator) (left : Text) {kept rest : Text}
    {before : Option Char}
    (h : p.Matches before kept rest) (after : Option Char) : ∀ c ∈ lastOr none (left ++ kept),
      ∀ d ∈ after, isWord c = true → isWord d = false := by
  obtain ⟨y, c, w, rfl, -, hc, hw⟩ := hp _ _ _ h
  intro d hd e _ hword
  rw [lastOr_eq_getLast? (by simp)] at hd
  have hmem : d ∈ c :: w := by
    rw [← List.append_assoc, List.getLast?_append_of_ne_nil _ (List.cons_ne_nil c w)] at hd
    exact List.mem_of_getLast? hd
  have hnot : isWord d = false := by
    rcases List.mem_cons.1 hmem with rfl | hmem
    · exact hsep d hc
    · exact isWord_of_isSpace (hw d hmem)
  rw [hnot] at hword
  contradiction

/-- The word boundary in front of a secret. -/
lemma not_word_of_wordBoundary {before : Option Char} {m rest : Text} (hne : m ≠ [])
    (h : wordBoundary.Matches before [] (m ++ rest)) :
    ∀ c ∈ before, ∀ d ∈ m.head?, isWord c = true → isWord d = false := by
  intro c hc d hd hword
  obtain ⟨-, hq⟩ := h
  rw [List.head?_append_of_ne_nil _ hne] at hq
  by_contra hd'
  rw [Bool.not_eq_false] at hd'
  rw [Option.mem_def.1 hc, Option.mem_def.1 hd] at hq
  simp [hword, hd'] at hq

open RedactionCategory

/-- Private keys are secrets. -/
lemma secretsIn_privateKey : SecretsIn privateKey.rule := by
  intro left kept secret rest h
  obtain rfl : kept = [] := h.keeps
  obtain ⟨m₁, m₂, rfl, h₁, h₂⟩ := h.secret_matches
  obtain rfl := matches_literal.1 h₁
  obtain ⟨m₃, m₄, rfl, -, h₂⟩ := h₂
  obtain ⟨m₅, m₆, rfl, -, h₂⟩ := h₂
  obtain ⟨m₇, m₈, rfl, -, h₂⟩ := h₂
  obtain ⟨m₉, m₁₀, rfl, -, h₂⟩ := h₂
  obtain ⟨m₁₁, m₁₂, rfl, -, h₂⟩ := h₂
  obtain rfl := matches_literal.1 h₂
  have hhead : ∀ t : Text, ((("-----BEGIN " : Text) ++ t).head?) = some '-' := by
    intro t
    rw [Text.ofString_eq]
    rfl
  have hlast : ∀ t : Text, (t ++ ("PRIVATE KEY-----" : Text)).getLast? = some '-' := by
    intro t
    rw [List.getLast?_append_of_ne_nil _ (by simp), Text.ofString_eq]
    decide
  have hword : isWord '-' = false := by decide
  constructor
  · simp
  · rw [hhead]
    rintro d ⟨⟩
    decide
  · rw [hhead]
    rintro c - d ⟨⟩ -
    exact hword
  · simp only [← List.append_assoc]
    rw [hlast]
    rintro c ⟨⟩ d - hc
    rw [hword] at hc
    contradiction
  · rw [hhead]
    rintro d ⟨⟩ hspace
    exact absurd hspace (by decide)

/-- The first character of a secret that begins with a letter of a keyword. -/
structure BeginsWithLetter (secret : Text) : Prop where
  ne_nil : secret ≠ []
  token : ∀ d ∈ secret.head?, isTokenChar d = true

/-- A letter is no blank. -/
lemma BeginsWithLetter.not_space {secret : Text} (h : BeginsWithLetter secret) :
    ∀ d ∈ secret.head?, isSpace d = false :=
  fun d hd => isSpace_of_isTokenChar (h.token d hd)

/-- A longer text begins with the same letter. -/
lemma BeginsWithLetter.append {s t : Text} (h : BeginsWithLetter s) : BeginsWithLetter
    (s ++ t) := by
  refine ⟨by simp [h.ne_nil], ?_⟩
  rw [List.head?_append_of_ne_nil _ h.ne_nil]
  exact h.token

/-- A keyword begins with a letter. -/
lemma beginsWithLetter_of_literalI {t : Text} (ht : t ∈ keywords) {before : Option Char}
    {m rest : Text} (h : (literalI t).Matches before m rest) : BeginsWithLetter m := by
  obtain ⟨hne, hletters⟩ := keyword_letters t ht
  obtain rfl := matches_literalBy.1 h
  refine ⟨by simpa using hne, ?_⟩
  intro d hd
  have hletter := List.all_eq_true.1 hletters _ (List.mem_map_of_mem (List.mem_of_head? hd))
  exact isTokenChar_of_ignoreCase hletter BEq.rfl

/-- A key begins with a letter. -/
lemma beginsWithLetter_of_literal {t : Text} (ht : t ∈ keyBeginnings) {before : Option Char}
    {m rest : Text} (h : (literal t).Matches before m rest) : BeginsWithLetter m := by
  obtain ⟨hne, hlower⟩ := keyBeginning_lower t ht
  obtain rfl := matches_literal.1 h
  refine ⟨hne, ?_⟩
  intro d hd
  rw [Option.mem_def.1 hd] at hlower
  exact isTokenChar_of_isAsciiAlphanumeric (isAsciiAlphanumeric_of_isLower hlower)

/-- A secret that begins with a letter, inside no word. -/
lemma secretIn_of_beginsWithLetter {left secret rest : Text} (h : BeginsWithLetter secret)
    (hfirst : ∀ c ∈ lastOr none left, ∀ d ∈ secret.head?, isWord c = true → isWord d = false)
    (hlast : ∀ c ∈ secret.getLast?, ∀ d ∈ rest.head?, isWord c = true → isWord d = true →
      isTokenChar d = false) : SecretIn left secret rest := by
  refine ⟨h.ne_nil, fun d hd => ne_newline_of_isSpace_eq_false (h.not_space d hd), hfirst, hlast,
    ?_⟩
  intro d hd hspace
  rw [h.not_space d hd] at hspace
  contradiction

/-- The separators of the rules. -/
def isSeparator (c : Char) : Bool := c == ':' || c == '='

/-- A separator is no word character. -/
lemma not_word_of_isSeparator {c : Char} (h : isSeparator c = true) : isWord c = false := by
  unfold isSeparator at h
  rw [Bool.or_eq_true, beq_iff_eq, beq_iff_eq] at h
  rcases h with rfl | rfl <;> decide

/-- A class that contains neither separator. -/
lemma not_separator {p : Char → Bool} (hcolon : p ':' = false) (hequals : p '=' = false) {c : Char}
    (hc : p c = true) : isSeparator c = false := by
  by_contra hsep
  rw [Bool.not_eq_false] at hsep
  unfold isSeparator at hsep
  rw [Bool.or_eq_true, beq_iff_eq, beq_iff_eq] at hsep
  rcases hsep with rfl | rfl
  · rw [hcolon] at hc
    contradiction
  · rw [hequals] at hc
    contradiction

/-- A blank is no separator. -/
lemma not_separator_of_isSpace {c : Char} (h : isSpace c = true) : isSeparator c = false :=
  not_separator (by decide) (by decide) h

/-- Letters in any case are no separators. -/
lemma ignoreCase_separator : isAsciiAlphanumeric (ignoreCase ':') = false ∧
    isAsciiAlphanumeric (ignoreCase '=') = false := by decide

/-- The letters of a keyword are no separators. -/
lemma not_separator_of_ignoreCase {c d : Char} (hd : isAsciiAlphanumeric d = true)
    (h : (ignoreCase c == d) = true) : isSeparator c = false := by
  rw [← eq_of_beq h] at hd
  exact @not_separator (fun c => isAsciiAlphanumeric (ignoreCase c)) ignoreCase_separator.1
    ignoreCase_separator.2 c hd

/-- The keywords have no separator. -/
lemma all_literalI_not_separator {t : Text} (ht : t ∈ keywords) :
    (literalI t).All (fun p => ∀ c, p c = true → isSeparator c = false) fun _ => True :=
  all_literalBy fun _ hd _ hc =>
    not_separator_of_ignoreCase (List.all_eq_true.1 (keyword_letters t ht).2 _ hd) hc

/-- The colon as a text. -/
lemma colon_literal : (":" : Text) = [':'] := by
  rw [Text.ofString_eq]
  decide

/-- The equality sign as a text. -/
lemma equals_literal : ("=" : Text) = ['='] := by
  rw [Text.ofString_eq]
  decide

/-- The name of a header ends with a separator and blanks. -/
lemma endsBlank_authorizationHeader : authorizationHeader.rule.kept.EndsBlank isSeparator := by
  refine endsBlank_append (by exact trivial) (endsBlank_append ?_ (endsBlank_append ?_
    (endsBlank_append ?_ (endsBlank_base ?_))))
  · exact fun c hc => not_separator_of_isSpace hc
  · exact all_literalI_not_separator (by simp [keywords])
  · exact fun c hc => not_separator_of_isSpace hc
  · intro before m rest hm
    obtain rfl := matches_literal.1 hm
    exact ⟨':', colon_literal, by decide⟩

/-- A quotation mark is no separator. -/
lemma isSeparator_quote {c : Char} (h : isQuote c = true) : isSeparator c = false := by
  unfold isQuote at h
  rw [Bool.or_eq_true, beq_iff_eq, beq_iff_eq] at h
  rcases h with rfl | rfl <;> decide

/-- The name of a key ends with a separator and blanks. -/
lemma endsBlank_apiKey : apiKey.rule.kept.EndsBlank isSeparator := by
  refine endsBlank_append ?_ (endsBlank_append (by exact trivial) (endsBlank_append ?_
    (endsBlank_append ?_ (endsBlank_append ?_ (endsBlank_base ?_)))))
  · exact fun c hc => isSeparator_quote hc
  · refine ⟨⟨all_literalI_not_separator (by simp [keywords]), ?_,
      all_literalI_not_separator (by simp [keywords])⟩, all_literalI_not_separator
      (by simp [keywords]),
      all_literalI_not_separator (by simp [keywords])⟩
    intro c hc
    rw [Bool.or_eq_true, beq_iff_eq, beq_iff_eq] at hc
    rcases hc with rfl | rfl <;> decide
  · exact fun c hc => isSeparator_quote hc
  · exact fun c hc => not_separator_of_isSpace hc
  · intro before m rest hm
    exact matches_one.1 hm

/-- So does that of an environment variable. -/
lemma endsBlank_envAssignment : envAssignment.rule.kept.EndsBlank isSeparator := by
  refine endsBlank_append (by exact trivial) (endsBlank_append ?_ (endsBlank_append ?_
    (endsBlank_append ?_ (endsBlank_append ?_ (endsBlank_append ?_ (endsBlank_append ?_
      (endsBlank_append ?_ (endsBlank_base ?_))))))))
  · exact fun c hc => not_separator_of_isSpace hc
  · intro c hc
    rw [Bool.or_eq_true, Bool.or_eq_true, beq_iff_eq, beq_iff_eq, beq_iff_eq] at hc
    rcases hc with (rfl | rfl) | rfl <;> decide
  · exact fun c hc => not_separator_of_isSpace hc
  · exact fun c hc => @not_separator (fun c => isLower (ignoreCase c)) (by decide) (by decide) c hc
  · exact fun c hc => not_separator (by decide) (by decide) hc
  · exact ⟨all_literalI_not_separator (by simp [keywords]),
      all_literalI_not_separator (by simp [keywords]), all_literalI_not_separator
      (by simp [keywords]),
      all_literalI_not_separator (by simp [keywords])⟩
  · exact fun c hc => not_separator_of_isSpace hc
  · intro before m rest hm
    obtain rfl := matches_literal.1 hm
    exact ⟨'=', equals_literal, by decide⟩

/-- Headers have secrets. -/
lemma secretsIn_authorizationHeader : SecretsIn authorizationHeader.rule := by
  intro left kept secret rest h
  have hkept := first_of_endsBlank (fun _ => not_word_of_isSeparator) endsBlank_authorizationHeader
    left h.keeps secret.head?
  obtain ⟨s₁, s₂, rfl, h₁, h₂⟩ := Prefers.append h.prefers
  obtain ⟨s₃, s₄, rfl, -, h₃⟩ := h₂.append
  obtain ⟨hall, hmin, hnext⟩ := h₃.many
  have hs₄ : s₄ ≠ [] := List.ne_nil_of_length_pos hmin
  have hletter : BeginsWithLetter s₁ := by
    rcases h₁ with h₁ | h₁
    · exact beginsWithLetter_of_literalI (by simp [keywords]) h₁
    · exact beginsWithLetter_of_literalI (by simp [keywords]) h₁
  refine secretIn_of_beginsWithLetter hletter.append hkept ?_
  intro c _ d hd _ hword
  have hspace := hnext d hd
  rw [Bool.not_eq_false'] at hspace
  rw [isWord_of_isSpace hspace] at hword
  contradiction

/-- Bearer tokens are secrets. -/
lemma secretsIn_bearerToken : SecretsIn bearerToken.rule := by
  intro left kept secret rest h
  obtain rfl : kept = [] := h.keeps
  obtain ⟨s₁, s₂, rfl, h₁, h₂⟩ := Prefers.append h.prefers
  obtain rfl : s₁ = [] := h₁.1
  obtain ⟨s₃, s₄, rfl, h₃, h₄⟩ := h₂.append
  obtain ⟨s₅, s₆, rfl, -, h₆⟩ := h₄.append
  obtain ⟨hall, hmin, hnext⟩ := h₆.many
  have hletter : BeginsWithLetter s₃ :=
    beginsWithLetter_of_literalI (by simp [keywords]) h₃
  rw [List.nil_append]
  refine secretIn_of_beginsWithLetter hletter.append ?_ fun c _ d hd _ _ => hnext d hd
  rw [List.append_nil]
  exact not_word_of_wordBoundary hletter.append.ne_nil h₁

/-- A secret between two word boundaries. -/
lemma secretIn_of_wordBoundaries {left secret rest : Text} {p : Pattern}
    (h : (wordBoundary ++ (p ++ wordBoundary)).Matches (lastOr none left) secret rest)
    (hletter : ∀ before m rest, p.Matches before m rest → BeginsWithLetter m) :
    SecretIn left secret rest := by
  obtain ⟨m₁, m₂, rfl, h₁, m₃, m₄, rfl, h₃, h₄⟩ := h
  obtain rfl : m₁ = [] := h₁.1
  obtain rfl : m₄ = [] := h₄.1
  have hbegins := hletter _ _ _ h₃
  rw [List.nil_append, List.append_nil] at *
  refine secretIn_of_beginsWithLetter hbegins (not_word_of_wordBoundary hbegins.ne_nil h₁) ?_
  intro c hc d hd hwordC hwordD
  have hq := h₄.2
  rw [lastOr_append, List.nil_append, lastOr_eq_getLast? hbegins.ne_nil, Option.mem_def.1 hc,
    Option.mem_def.1 hd] at hq
  simp [hwordC, hwordD] at hq

/-- GitHub tokens are secrets. -/
lemma secretsIn_githubToken : SecretsIn githubToken.rule := by
  intro left kept secret rest h
  obtain rfl : kept = [] := h.keeps
  rw [List.append_nil]
  refine secretIn_of_wordBoundaries h.secret_matches ?_
  rintro before m rest (⟨m₁, m₂, rfl, h₁, -⟩ | ⟨m₁, m₂, rfl, h₁, -⟩)
  · exact (beginsWithLetter_of_literal (by simp [keyBeginnings]) h₁).append
  · exact (beginsWithLetter_of_literal (by simp [keyBeginnings]) h₁).append

/-- Standalone keys are secrets. -/
lemma secretsIn_standaloneApiKey : SecretsIn standaloneApiKey.rule := by
  intro left kept secret rest h
  obtain rfl : kept = [] := h.keeps
  rw [List.append_nil]
  refine secretIn_of_wordBoundaries h.secret_matches ?_
  have hthree : ∀ {before : Option Char} {m rest : Text},
      (choice (literal "sk") [literal "rk", literal "pk"]).Matches before m rest →
        BeginsWithLetter m := by
    intro before m rest hm
    rcases hm with h | h | h
    · exact beginsWithLetter_of_literal (by simp [keyBeginnings]) h
    · exact beginsWithLetter_of_literal (by simp [keyBeginnings]) h
    · exact beginsWithLetter_of_literal (by simp [keyBeginnings]) h
  rintro before m rest (⟨m₁, m₂, rfl, h₁, -⟩ | ⟨m₁, m₂, rfl, h₁, -⟩)
  · exact (hthree h₁).append
  · rcases h₁ with h₁ | h₁ | h₁ | ⟨m₃, m₄, rfl, h₃, -⟩
    · exact (hthree (.inl h₁)).append
    · exact (hthree (.inr (.inl h₁))).append
    · exact (hthree (.inr (.inr h₁))).append
    · exact (beginsWithLetter_of_literal (by simp [keyBeginnings]) h₃).append.append

/-- A quotation mark is neither a word character nor a blank. -/
lemma isQuote_plain {c : Char} (h : isQuote c = true) : isWord c = false ∧ isSpace c = false := by
  unfold isQuote at h
  rw [Bool.or_eq_true, beq_iff_eq, beq_iff_eq] at h
  rcases h with rfl | rfl <;> exact ⟨by decide, by decide⟩

/-- Assigned keys are secrets. -/
lemma secretsIn_apiKey : SecretsIn apiKey.rule := by
  intro left kept secret rest h
  have hkept := first_of_endsBlank (fun _ => not_word_of_isSeparator) endsBlank_apiKey
    left h.keeps secret.head?
  obtain ⟨s₁, s₂, rfl, h₁, h₂⟩ := Prefers.append h.prefers
  obtain ⟨s₃, s₄, rfl, h₃, h₄⟩ := h₂.append_of_total lengths_opt_ne_nil
  obtain ⟨hall, hmin, hnext⟩ := h₃.many
  have hs₃ : s₃ ≠ [] := List.ne_nil_of_length_pos (by omega)
  have hhead : ∀ d ∈ (s₁ ++ (s₃ ++ s₄)).head?, isSpace d = false := by
    intro d hd
    rcases s₁ with _ | ⟨e, s₁⟩
    · rw [List.nil_append, List.head?_append_of_ne_nil _ hs₃] at hd
      exact isSpace_of_isTokenChar (hall d (List.mem_of_head? hd))
    · obtain rfl : e = d := by simpa using hd
      exact (isQuote_plain (h₁.1 e List.mem_cons_self)).2
  refine ⟨by simp [hs₃], fun d hd => ne_newline_of_isSpace_eq_false (hhead d hd), hkept, ?_, ?_⟩
  · intro c hc d hd hwordC hwordD
    by_cases hs₄ : s₄ = []
    · subst hs₄
      exact hnext d hd
    · rw [← List.append_assoc, List.getLast?_append_of_ne_nil _ hs₄] at hc
      rw [(isQuote_plain (h₄.matches.1 c (List.mem_of_getLast? hc))).1] at hwordC
      contradiction
  · intro d hd hspace
    rw [hhead d hd] at hspace
    contradiction

end ReviewGraph
