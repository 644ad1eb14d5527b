import ReviewGraph.RedactionCores

/-!
# Redaction twice

Assignments are the exception among the rules: a redacted value is still a value, and is replaced
again, by itself.  With them every pass of a second run leaves the text as it is.
-/

namespace ReviewGraph

open Regex Pattern Unicode RedactionCategory

/-! ## Assignments -/

/-- An assignment up to its equality sign. -/
def assignmentCore : Pattern :=
  lineStart ++ (many 0 isSpace ++ (opt (fun c => c == '+' || c == '-' || c == ' ') ++
    (many 0 isSpace ++ (one (fun c => isLower (ignoreCase c)) ++ (many 0 isEnvNameChar ++
      (choice (literalI "key") [literalI "token", literalI "secret", literalI "password"] ++
        (many 0 isSpace ++ literal "=")))))))

/-- The rest of a pattern stands at its end. -/
def EndsWith (p core last : Pattern) : Prop :=
  (∀ before k rest, p.Matches before k rest ↔ ∃ m w, k = m ++ w ∧
    core.Matches before m (w ++ rest) ∧
    last.Matches (lastOr before m) w rest) ∧
  ∀ before k rest, p.Prefers before k rest → ∃ m w, k = m ++ w ∧ core.Matches before m (w ++ rest) ∧
    last.Prefers (lastOr before m) w rest

/-- A sequence ends with its second part. -/
lemma endsWith_base {a last : Pattern} : EndsWith (a ++ last) a last :=
  ⟨fun _ _ _ => Iff.rfl, fun _ _ _ h => h.append⟩

/-- A pattern in front does not change the end. -/
lemma EndsWith.append {a p core last : Pattern} (h : EndsWith p core last) :
    EndsWith (a ++ p) (a ++ core) last := by
  constructor
  · intro before k rest
    constructor
    · rintro ⟨m₁, m₂, rfl, h₁, h₂⟩
      obtain ⟨m, w, rfl, hm, hw⟩ := (h.1 _ _ _).1 h₂
      refine ⟨m₁ ++ m, w, by rw [List.append_assoc], ⟨m₁, m, rfl, ?_, hm⟩, ?_⟩
      · rw [← List.append_assoc]
        exact h₁
      · rw [← lastOr_append]
        exact hw
    · rintro ⟨m, w, rfl, ⟨m₁, m₂, rfl, h₁, h₂⟩, hw⟩
      refine ⟨m₁, m₂ ++ w, by rw [List.append_assoc], ?_, (h.1 _ _ _).2 ⟨m₂, w, rfl, h₂, ?_⟩⟩
      · rw [List.append_assoc]
        exact h₁
      · rw [lastOr_append]
        exact hw
  · intro before k rest hk
    obtain ⟨m₁, m₂, rfl, h₁, h₂⟩ := hk.append
    obtain ⟨m, w, rfl, hm, hw⟩ := h.2 _ _ _ h₂
    refine ⟨m₁ ++ m, w, by rw [List.append_assoc], ⟨m₁, m, rfl, ?_, hm⟩, ?_⟩
    · rw [← List.append_assoc]
      exact h₁
    · rw [← lastOr_append]
      exact hw

/-- An assignment ends with blanks. -/
lemma endsWith_envAssignment : EndsWith envAssignment.rule.kept assignmentCore (many 0 isSpace) :=
  endsWith_base.append.append.append.append.append.append.append.append

/-- With white space behind it, an assignment is what the rule keeps. -/
lemma kept_of_assignmentCore {before : Option Char} {m w rest : Text}
    (h : assignmentCore.Matches before m (w ++ rest)) (hw : ∀ d ∈ w, isSpace d = true) :
    envAssignment.rule.kept.Matches before (m ++ w) rest :=
  (endsWith_envAssignment.1 _ _ _).2 ⟨m, w, rfl, h, hw, Nat.zero_le _, fun k hk =>
    absurd hk (by simp)⟩

/-- The name of an assignment is a core. -/
lemma isCore_assignmentCore : IsCore assignmentCore := by
  have hletter : ∀ c, isLower (ignoreCase c) = true → isTokenChar c = true := by
    intro c hc
    unfold isTokenChar isAsciiAlphanumeric
    rw [hc]
    simp
  constructor
  · refine ⟨.line, plainClass_isSpace, ?_, plainClass_isSpace, plainClass_of_token hletter,
      plainClass_of_token ?_, ⟨all_literalI (by simp [keywords]), all_literalI (by simp [keywords]),
      all_literalI (by simp [keywords]), all_literalI (by simp [keywords])⟩, plainClass_isSpace,
      all_literal (by simp [literals])⟩
    · refine plainClass_of_not_word (by decide) (by decide) fun c hc => ?_
      rw [Bool.or_eq_true, Bool.or_eq_true, beq_iff_eq, beq_iff_eq, beq_iff_eq] at hc
      rcases hc with (rfl | rfl) | rfl <;> decide
    · intro c hc
      unfold isEnvNameChar at hc
      rw [Bool.or_eq_true, Bool.or_eq_true, beq_iff_eq] at hc
      rcases hc with (hc | hc) | rfl
      · exact hletter c hc
      · refine isTokenChar_of_keyChar (.inl ?_)
        unfold isAsciiAlphanumeric
        rw [hc]
        simp
      · exact isTokenChar_of_keyChar (.inr (.inl rfl))
  · rintro before m rest hm
    have hkept : envAssignment.rule.kept.Matches before (m ++ []) rest :=
      kept_of_assignmentCore hm (by simp)
    rw [List.append_nil] at hkept
    obtain ⟨y, c, w, rfl, -, hc, -⟩ := endsBlank_envAssignment _ _ _ hkept
    exact ⟨c, by simp, not_mem_redactionToken (.inr (.inl hc))⟩

/-- An assignment ends with its only separator. -/
lemma assignmentCore_ends {before : Option Char} {m rest : Text}
    (h : assignmentCore.Matches before m rest) :
    ∃ y, m = y ++ ['='] ∧ ∀ d ∈ y, isSeparator d = false := by
  have hkept : envAssignment.rule.kept.Matches before (m ++ []) rest :=
    kept_of_assignmentCore h (by simp)
  rw [List.append_nil] at hkept
  obtain ⟨y, c, w, hm, hy, hc, hw⟩ := endsBlank_envAssignment _ _ _ hkept
  obtain ⟨v, hv⟩ : ∃ v, m = v ++ ['='] := by
    obtain ⟨m₁, m₂, rfl, -, m₃, m₄, rfl, -, m₅, m₆, rfl, -, m₇, m₈, rfl, -, m₉, m₁₀, rfl, -, m₁₁,
        m₁₂, rfl,
      -, m₁₃, m₁₄, rfl, -, m₁₅, m₁₆, rfl, -, h₁₆⟩ := h
    refine ⟨m₁ ++ (m₃ ++ (m₅ ++ (m₇ ++ (m₉ ++ (m₁₁ ++ (m₁₃ ++ m₁₅)))))), ?_⟩
    rw [matches_literal.1 h₁₆, equals_literal]
    simp only [List.append_assoc]
  obtain ⟨rfl, -, rfl⟩ := blank_of_separator (fun _ => not_separator_of_isSpace) hy hw
    (by decide : isSeparator '=' = true) (hm.symm.trans hv)
  exact ⟨v, hv, hy⟩

/-- Assignments have secrets. -/
lemma secretsIn_envAssignment : SecretsIn envAssignment.rule := by
  intro left kept secret rest h
  have hkept := first_of_endsBlank (fun _ => not_word_of_isSeparator) endsBlank_envAssignment
    left h.keeps secret.head?
  obtain ⟨s₁, s₂, rfl, h₁, h₂⟩ := h.secret_matches
  obtain ⟨rfl, hend⟩ := h₂
  obtain ⟨hall, hmin, -⟩ := h₁
  have hs₁ : s₁ ≠ [] := List.ne_nil_of_length_pos hmin
  rw [List.append_nil] at *
  refine ⟨hs₁, ?_, hkept, ?_, ?_⟩
  · intro d hd
    simpa using hall d (List.mem_of_head? hd)
  · intro c _ d hd _ hword
    dsimp only at hend
    rw [Option.mem_def.1 hd] at hend
    obtain rfl : d = '\n' := by simpa using hend
    exact absurd hword (by decide)
  · intro d _ _
    obtain ⟨m, w, hkeeps, hm, hw⟩ := (endsWith_envAssignment.1 _ _ _).1 h.keeps
    obtain ⟨y, rfl, -⟩ := assignmentCore_ends hm
    refine ⟨left ++ y, w, ?_, hw.1⟩
    rw [hkeeps]
    simp only [List.append_assoc, List.cons_append, List.nil_append]

/-! ## Values -/

/-- A value follows: a character of the line, behind white space. -/
def HasValue (rest : Text) : Prop :=
  ∃ w c v, rest = w ++ c :: v ∧ (∀ d ∈ w, isSpace d = true) ∧ c ≠ '\n'

/-- The value that follows is the token, and nothing else. -/
def IsRedacted (rest : Text) : Prop :=
  ∃ w v, rest = w ++ (redactionToken ++ v) ∧ (∀ d ∈ w, isSpace d = true) ∧
    v.head?.all (· == '\n') = true

/-- A value follows that is not the token. -/
def IsUnredacted (rest : Text) : Prop := HasValue rest ∧ ¬ IsRedacted rest

/-- A secret is a value. -/
lemma hasValue_of_secret {z secret rest : Text} (hne : secret ≠ [])
    (hnewline : ∀ d ∈ secret.head?, d ≠ '\n') : HasValue (z ++ (secret ++ rest)) := by
  by_cases hz : ∀ d ∈ z, isSpace d = true
  · obtain ⟨c, s, rfl⟩ := List.exists_cons_of_ne_nil hne
    exact ⟨z, c, s ++ rest, rfl, hz, hnewline c rfl⟩
  · push Not at hz
    obtain ⟨d, hd, hspace⟩ := hz
    have hdrop : z.dropWhile isSpace ≠ [] := by
      intro hnil
      have hall := List.dropWhile_eq_nil_iff.1 hnil d hd
      exact hspace hall
    obtain ⟨c, s, hcs⟩ := List.exists_cons_of_ne_nil hdrop
    have hc : isSpace c = false := by
      have hhead := List.head?_dropWhile_not isSpace z
      rw [hcs] at hhead
      simpa using hhead
    refine ⟨z.takeWhile isSpace, c, s ++ (secret ++ rest), ?_, fun e he =>
      List.mem_takeWhile_imp he,
      ne_newline_of_isSpace_eq_false hc⟩
    rw [← List.cons_append, ← hcs, ← List.append_assoc (z.takeWhile isSpace),
      List.takeWhile_append_dropWhile]

/-- Behind a line there is a newline or nothing. -/
lemma head?_dropWhile_newline (v : Text) :
    (v.dropWhile (fun c => c != '\n')).head?.all (· == '\n') = true := by
  have hhead := List.head?_dropWhile_not (fun c => c != '\n') v
  cases hd : (v.dropWhile (fun c => c != '\n')).head? with
  | none => rfl
  | some d =>
    rw [hd] at hhead
    simpa using hhead

/-- A line is a secret of an assignment. -/
lemma envAssignment_secret {before : Option Char} {s rest : Text} (hne : s ≠ [])
    (hs : ∀ c ∈ s, c ≠ '\n') (hrest : rest.head?.all (· == '\n') = true) :
    envAssignment.rule.secret.Matches before s rest := by
  refine ⟨s, [], (List.append_nil s).symm, ⟨?_, List.length_pos_of_ne_nil hne, ?_⟩, rfl, hrest⟩
  · intro c hc
    simpa using hs c hc
  · intro k hk
    cases hk

/-- The secret of an assignment is a line. -/
lemma line_of_envAssignment_secret {before : Option Char} {s rest : Text}
    (h : envAssignment.rule.secret.Matches before s rest) :
    s ≠ [] ∧ (∀ c ∈ s, c ≠ '\n') ∧ rest.head?.all (· == '\n') = true := by
  obtain ⟨m₁, m₂, rfl, ⟨hall, hmin, -⟩, rfl, hend⟩ := h
  rw [List.append_nil]
  refine ⟨List.ne_nil_of_length_pos hmin, ?_, hend⟩
  intro c hc
  simpa using hall c hc

/-- An assignment with a value is a match. -/
lemma hasMatch_envAssignment {before : Option Char} {m rest : Text}
    (hm : assignmentCore.Matches before m rest) (hvalue : HasValue rest) :
    envAssignment.rule.HasMatch before (m ++ rest) := by
  obtain ⟨w, c, v, rfl, hw, hc⟩ := hvalue
  have hline : w ++ c :: v = w ++ ((c :: v.takeWhile (fun c => c != '\n')) ++
      v.dropWhile (fun c => c != '\n')) := by
    rw [List.cons_append, List.takeWhile_append_dropWhile]
  rw [hline] at hm ⊢
  refine ⟨m ++ (w ++ (c :: v.takeWhile (fun c => c != '\n'))), v.dropWhile (fun c => c != '\n'), by
    simp,
    m ++ w, c :: v.takeWhile (fun c => c != '\n'), by simp, ?_, ?_⟩
  · exact kept_of_assignmentCore hm hw
  · refine envAssignment_secret (List.cons_ne_nil _ _) ?_ (head?_dropWhile_newline v)
    intro d hd
    rcases List.mem_cons.1 hd with rfl | hd
    · exact hc
    · simpa using List.mem_takeWhile_imp hd

/-- What is kept and replaced in an assignment. -/
structure IsAssignment (before : Option Char) (kept secret rest m w : Text) : Prop where
  /-- The kept part. -/
  kept_eq : kept = m ++ w
  /-- The assignment. -/
  core : assignmentCore.Matches before m (w ++ (secret ++ rest))
  /-- The white space behind the sign. -/
  space : ∀ d ∈ w, isSpace d = true
  /-- There is a value. -/
  ne_nil : secret ≠ []
  /-- The value is on one line. -/
  line : ∀ c ∈ secret, c ≠ '\n'
  /-- The value is the rest of the line. -/
  lineEnd : rest.head?.all (· == '\n') = true

/-- What the rule replaces is an assignment. -/
lemma exists_isAssignment {before : Option Char} {kept secret rest : Text}
    (h : envAssignment.rule.Replaces before kept secret rest) :
    ∃ m w, IsAssignment before kept secret rest m w := by
  obtain ⟨m, w, rfl, hm, hw⟩ := (endsWith_envAssignment.1 _ _ _).1 h.keeps
  obtain ⟨hne, hline, hend⟩ := line_of_envAssignment_secret h.secret_matches
  exact ⟨m, w, rfl, hm, hw.1, hne, hline, hend⟩

/-- An assignment has a value. -/
lemma IsAssignment.hasValue {before : Option Char} {kept secret rest m w : Text}
    (h : IsAssignment before kept secret rest m w) : HasValue (w ++ (secret ++ rest)) := by
  obtain ⟨c, s, rfl⟩ := List.exists_cons_of_ne_nil h.ne_nil
  exact ⟨w, c, s ++ rest, rfl, h.space, h.line c List.mem_cons_self⟩

/-- An assignment is not empty. -/
lemma envAssignment_ne_nil (before : Option Char) (rest : Text) :
    ¬ envAssignment.rule.pattern.Matches before [] rest := by
  rintro ⟨m₁, m₂, hnil, h₁, -⟩
  obtain ⟨y, c, w, rfl, -⟩ := endsBlank_envAssignment _ _ _ h₁
  simp at hnil

/-- Assignments keep the first character of a text. -/
lemma head?_of_edits_envAssignment {done t u : Text}
    (h : envAssignment.rule.Edits redactionToken done t u) : u.head? = t.head? := by
  cases h with
  | last _ => rfl
  | @region _ skipped kept secret rest u _ hreplaces _ =>
    obtain ⟨y, c, w, rfl, -⟩ := endsBlank_envAssignment _ _ _ hreplaces.keeps
    have hne : skipped ++ (y ++ c :: w) ≠ [] := by simp
    rw [← List.append_assoc skipped (y ++ c :: w), ← List.append_assoc skipped (y ++ c :: w),
      List.head?_append_of_ne_nil _ hne, List.head?_append_of_ne_nil _ hne]

/-- Behind an assignment that is replaced the token follows. -/
lemma isRedacted_of_region {left kept secret rest u x m z : Text}
    (hregion : Region envAssignment.rule left kept secret rest u) (hkept : kept = x ++ (m ++ z))
    {before : Option Char} {rest' : Text} (hm : assignmentCore.Matches before m rest') :
    IsRedacted (z ++ (redactionToken ++ u)) := by
  obtain ⟨y, c, w, rfl, hy, hc, hw⟩ := endsBlank_envAssignment _ _ _ hregion.replaces.keeps
  obtain ⟨v, rfl, -⟩ := assignmentCore_ends hm
  have hsame : y ++ c :: w = (x ++ v) ++ '=' :: z := by
    rw [hkept]
    simp only [List.append_assoc, List.cons_append, List.nil_append]
  obtain ⟨-, -, rfl⟩ := blank_of_separator (fun _ => not_separator_of_isSpace) hy hw
      (by decide) hsame
  refine ⟨z, u, rfl, hw, ?_⟩
  rw [head?_of_edits_envAssignment hregion.edits]
  exact (line_of_envAssignment_secret hregion.replaces.secret_matches).2.2

/-- Every value is redacted. -/
lemma noHit_envAssignment (t : Text) :
    NoHit assignmentCore IsUnredacted (envAssignment.rule.subn redactionToken t).1 := by
  refine not_ahead_of_edits isCore_assignmentCore secretsIn_envAssignment ?_ ?_ ?_
    (envAssignment.rule.subn_edits envAssignment_ne_nil redactionToken t) (List.nil_append t)
    (.inl rfl)
  · intro left m rest _ hm hnone hout
    exact hnone (hasMatch_envAssignment hm hout.1)
  · intro left y kept m z secret rest u _ hregion _ hm hnone hout
    have hsecret := hregion.secretIn
    exact hnone (hasMatch_envAssignment hm (hasValue_of_secret hsecret.ne_nil hsecret.newline))
  · intro left x m z kept secret rest u _ hregion hkept hm hout
    exact hout.2 (isRedacted_of_region hregion hkept hm)

/-- The beginning of a key begins with a small letter. -/
lemma head?_keyBeginning {t : Text} (ht : t ∈ keyBeginnings) {before : Option Char} {m rest : Text}
    (h : (literal t).Matches before m rest) (s : Text) : ∀ d ∈ (m ++ s).head?,
      isLower d = true := by
  obtain ⟨hne, hlower⟩ := keyBeginning_lower t ht
  intro d hd
  rw [matches_literal.1 h, List.head?_append_of_ne_nil _ hne] at hd
  rw [Option.mem_def.1 hd] at hlower
  exact hlower

/-- A standalone key begins with a lowercase letter. -/
lemma head?_standaloneApiKey {before : Option Char} {s rest : Text}
    (h : standaloneApiKey.rule.secret.Matches before s rest) : ∀ d ∈ s.head?, isLower d = true := by
  obtain ⟨m₁, m₂, rfl, ⟨rfl, -⟩, m₃, m₄, rfl, h₃, -⟩ := h
  rw [List.nil_append]
  rcases h₃ with ⟨n₁, n₂, rfl, h, -⟩ | ⟨n₁, n₂, rfl, h, -⟩
  · rw [List.append_assoc]
    rcases h with h | h | h
    · exact head?_keyBeginning (by simp [keyBeginnings]) h _
    · exact head?_keyBeginning (by simp [keyBeginnings]) h _
    · exact head?_keyBeginning (by simp [keyBeginnings]) h _
  · rw [List.append_assoc]
    rcases h with h | h | h | ⟨n₃, n₄, rfl, h, -⟩
    · exact head?_keyBeginning (by simp [keyBeginnings]) h _
    · exact head?_keyBeginning (by simp [keyBeginnings]) h _
    · exact head?_keyBeginning (by simp [keyBeginnings]) h _
    · rw [List.append_assoc]
      exact head?_keyBeginning (by simp [keyBeginnings]) h _

/-- A redacted value in front of a standalone key stays one in front of the token. -/
lemma isRedacted_of_lower {z secret rest u : Text} (hne : secret ≠ [])
    (hlower : ∀ d ∈ secret.head?, isLower d = true) (h : IsRedacted (z ++ (secret ++ rest))) :
    IsRedacted (z ++ (redactionToken ++ u)) := by
  obtain ⟨w, v, hsplit, hw, hv⟩ := h
  obtain ⟨c, s, rfl⟩ := List.exists_cons_of_ne_nil hne
  have hc := hlower c rfl
  have hspace : isSpace c = false := by
    exact isSpace_of_isTokenChar (isTokenChar_of_keyChar (.inl (isAsciiAlphanumeric_of_isLower hc)))
  have htoken : c ∉ redactionToken := not_mem_redactionToken (.inr (.inr (.inl hc)))
  have hfront : c ∉ w ++ redactionToken := by
    intro hmem
    rcases List.mem_append.1 hmem with hmem | hmem
    · rw [hw c hmem] at hspace
      contradiction
    · exact htoken hmem
  rw [← List.append_assoc w, List.cons_append] at hsplit
  obtain ⟨v₁, rfl, rfl⟩ := split_of_not_mem hfront hsplit.symm
  refine ⟨w, v₁ ++ (redactionToken ++ u), by simp only [List.append_assoc], hw, ?_⟩
  rcases v₁ with _ | ⟨d, v₁⟩
  · have hnewline : c = '\n' := by simpa using hv
    rw [hnewline] at hspace
    exact absurd hspace (by decide)
  · exact hv

/-- Standalone keys leave redacted values. -/
lemma NoHit.subn_standaloneApiKey {t : Text} (h : NoHit assignmentCore IsUnredacted t) :
    NoHit assignmentCore IsUnredacted (standaloneApiKey.rule.subn redactionToken t).1 := by
  have hne : ∀ before rest, ¬ standaloneApiKey.rule.pattern.Matches before [] rest :=
    fun _ _ hm => isCore_standaloneApiKey.ne_nil hm rfl
  refine not_ahead_of_edits isCore_assignmentCore secretsIn_standaloneApiKey ?_ ?_ ?_
    (standaloneApiKey.rule.subn_edits hne redactionToken t) (List.nil_append t) (.inl rfl)
  · intro left m rest hsplit hm _
    exact h left m rest hsplit.symm hm
  · intro left y kept m z secret rest u hsplit hregion hgap hm _ hout
    have hsecret := hregion.secretIn
    have hvalue : HasValue (z ++ (secret ++ rest)) :=
        hasValue_of_secret hsecret.ne_nil hsecret.newline
    have hwhole : t = left ++ (m ++ (z ++ (secret ++ rest))) := by
      rw [← hsplit, ← List.append_assoc y, hgap, List.append_assoc]
    have hdone : IsRedacted (z ++ (secret ++ rest)) := by
      by_contra hnot
      exact h left m _ hwhole hm ⟨hvalue, hnot⟩
    exact hout.2 (isRedacted_of_lower hsecret.ne_nil
      (head?_standaloneApiKey hregion.replaces.secret_matches) hdone)
  · intro left x m z kept secret rest u _ hregion hkept hm _
    obtain rfl : kept = [] := hregion.replaces.keeps
    have hnil := (List.append_eq_nil_iff.1 (List.append_eq_nil_iff.1 hkept.symm).2).1
    exact isCore_assignmentCore.ne_nil hm hnil

/-- The token is what is replaced in a redacted assignment. -/
lemma secret_eq_token {before : Option Char} {kept secret rest : Text}
    (h : envAssignment.rule.Replaces before kept secret rest)
    (hredacted : ∀ m w, IsAssignment before kept secret rest m w →
      IsRedacted (w ++ (secret ++ rest))) :
    secret = redactionToken := by
  obtain ⟨m, w₀, hassign⟩ := exists_isAssignment h
  obtain ⟨w, v, hw, hspace, hv⟩ := hredacted m w₀ hassign
  have htext : kept ++ (secret ++ rest) = m ++ (w ++ (redactionToken ++ v)) := by
    rw [hassign.kept_eq, List.append_assoc, hw]
  -- the match that is tried first keeps all the white space
  obtain ⟨n, hn⟩ : ∃ n, (envAssignment.rule.kept.lengths before
      (kept ++ (secret ++ rest))).head? = some n := by
    have hmem := List.ne_nil_of_mem (length_mem_lengths.2 h.keeps)
    exact Option.isSome_iff_exists.1 (List.isSome_head?.2 hmem)
  obtain ⟨k, tail, hsplit, rfl, -⟩ := exists_of_mem_lengths (List.mem_of_head? hn)
  rw [hsplit] at hn
  obtain ⟨p, w₁, rfl, hp, hw₁⟩ := endsWith_envAssignment.2 before k tail hn
  obtain ⟨hspace₁, -, htail⟩ := hw₁.many
  obtain ⟨y, rfl, hy⟩ := assignmentCore_ends hassign.core
  obtain ⟨y', rfl, hy'⟩ := assignmentCore_ends hp
  have hnot : ∀ {y : Text}, (∀ d ∈ y, isSeparator d = false) → ∀ d ∈ y,
      (!isSeparator d) = true := by
    intro y hy d hd
    rw [hy d hd]
    rfl
  have hsame : y ++ ('=' :: (w ++ (redactionToken ++ v))) = y' ++ ('=' :: (w₁ ++ tail)) := by
    have hboth := htext.symm.trans hsplit
    simpa using hboth
  have heq : ∀ s : Text, ∀ d ∈ ('=' :: s).head?, (!isSeparator d) = false := by
    rintro s d ⟨⟩
    decide
  obtain ⟨rfl, hbehind⟩ := run_unique (hnot hy) (hnot hy') (heq _) (heq _) hsame
  have htoken : ∀ d ∈ (redactionToken ++ v).head?, isSpace d = false := by
    rw [redactionToken_eq_cons]
    rintro d ⟨⟩
    decide
  obtain ⟨rfl, rfl⟩ := run_unique hspace hspace₁ htoken htail (List.cons.inj hbehind).2
  have hline : ∀ c ∈ redactionToken, c ≠ '\n' := by
    rintro c hmem rfl
    exact not_mem_redactionToken (by simp) hmem
  have hsecret :
      envAssignment.rule.secret.Matches (lastOr before ((y ++ ['=']) ++ w)) redactionToken v :=
    envAssignment_secret (by rw [redactionToken_eq_cons]; exact List.cons_ne_nil _ _) hline hv
  have hkept := h.first _ _ hsplit hn (List.ne_nil_of_mem (length_mem_lengths.2 hsecret))
  rw [hkept] at hsplit
  have hlines := List.append_cancel_left hsplit
  have hnewline : ∀ {s : Text}, (∀ c ∈ s, c ≠ '\n') → ∀ c ∈ s, (c != '\n') = true :=
    fun hs c hc => by simpa using hs c hc
  have hstop : ∀ {s : Text}, s.head?.all (· == '\n') = true → ∀ d ∈ s.head?,
      (d != '\n') = false := by
    intro s hs d hd
    rw [Option.mem_def.1 hd] at hs
    simpa using hs
  exact (run_unique (hnewline hassign.line) (hnewline hline) (hstop hassign.lineEnd)
    (hstop hv) hlines).1

/-- A text whose values are redacted is left as it is. -/
lemma eq_of_edits_envAssignment {whole : Text} (hno : NoHit assignmentCore IsUnredacted whole)
    {done t u : Text} (h : envAssignment.rule.Edits redactionToken done t u)
    (hwhole : done ++ t = whole) : u = t := by
  induction h with
  | last _ => rfl
  | @region done skipped kept secret rest u _ hreplaces _ ih =>
    have hsecret : secret = redactionToken := by
      refine secret_eq_token hreplaces fun m w hassign => ?_
      by_contra hnot
      refine hno (done ++ skipped) m (w ++ (secret ++ rest)) ?_ hassign.core ⟨hassign.hasValue,
        hnot⟩
      rw [← hwhole, hassign.kept_eq]
      simp only [List.append_assoc]
    have hrest : u = rest := by
      refine ih ?_
      rw [← hwhole]
      simp only [List.append_assoc]
    rw [hrest, hsecret]

/-- Where every assignment is redacted the rule changes nothing. -/
lemma subn_envAssignment {t : Text} (h : NoHit assignmentCore IsUnredacted t) :
    (envAssignment.rule.subn redactionToken t).1 = t :=
  eq_of_edits_envAssignment h (envAssignment.rule.subn_edits envAssignment_ne_nil redactionToken t)
    rfl

/-! ## All passes -/

/-- No rule has an empty match. -/
lemma rule_ne_nil (category : RedactionCategory) (before : Option Char) (rest : Text) :
    ¬ category.rule.pattern.Matches before [] rest := by
  cases category with
  | privateKey => exact privateKey_ne_nil before rest
  | authorizationHeader => exact authorizationHeader_ne_nil before rest
  | bearerToken => exact fun hm => isCore_bearerToken.ne_nil hm rfl
  | githubToken => exact fun hm => isCore_githubToken.ne_nil hm rfl
  | apiKey => exact fun hm => isCore_apiKey.ne_nil hm rfl
  | envAssignment => exact envAssignment_ne_nil before rest
  | standaloneApiKey => exact fun hm => isCore_standaloneApiKey.ne_nil hm rfl

/-- What a rule replaces is a secret. -/
lemma secretsIn_rule (category : RedactionCategory) : SecretsIn category.rule := by
  cases category with
  | privateKey => exact secretsIn_privateKey
  | authorizationHeader => exact secretsIn_authorizationHeader
  | bearerToken => exact secretsIn_bearerToken
  | githubToken => exact secretsIn_githubToken
  | apiKey => exact secretsIn_apiKey
  | envAssignment => exact secretsIn_envAssignment
  | standaloneApiKey => exact secretsIn_standaloneApiKey

/-- The text after the pass of a category. -/
def pass (category : RedactionCategory) (t : Text) : Text := (category.rule.subn redactionToken t).1

/-- The text behind a pass. -/
lemma redactCategory_text (r : RedactionResult) (category : RedactionCategory) :
    (redactCategory r category).text = pass category r.text := by
  unfold redactCategory pass
  generalize category.rule.subn redactionToken r.text = edited
  rfl

/-- The seven passes one after the other. -/
lemma redactText_text (t : Text) : (redactText t).text =
    pass standaloneApiKey (pass envAssignment (pass apiKey (pass githubToken (pass bearerToken
      (pass authorizationHeader (pass privateKey t)))))) := by
  unfold redactText RedactionCategory.all
  simp only [List.foldl_cons, List.foldl_nil, redactCategory_text]

/-- No pass makes a private key. -/
lemma not_hasKey_pass (category : RedactionCategory) {t : Text} (h : ¬ HasKey t) :
    ¬ HasKey (pass category t) :=
  fun hkey => h (hasKey_of_edits (category.rule.subn_edits (rule_ne_nil category) redactionToken t)
    hkey)

/-- No pass makes a match of a plain pattern. -/
lemma NoHit.pass {core : Pattern} {ahead : Text → Prop} (hcore : IsCore core)
    (hahead : CarriesOver core ahead) (category : RedactionCategory) {t : Text}
    (h : NoHit core ahead t) : NoHit core ahead (ReviewGraph.pass category t) :=
  h.subn hcore hahead (rule_ne_nil category) (secretsIn_rule category)

/-- A text on which no rule has anything left to do. -/
structure IsRedactedText (t : Text) : Prop where
  /-- No private key. -/
  privateKey : ¬ HasKey t
  /-- No credentials in a header. -/
  authorizationHeader : NoHit authorizationCore BeginsVisible t
  /-- No bearer token. -/
  bearerToken : NoHit bearerToken.rule.pattern Anything t
  /-- No GitHub token. -/
  githubToken : NoHit githubToken.rule.pattern Anything t
  /-- No named key. -/
  apiKey : NoHit apiKey.rule.pattern Anything t
  /-- No value of a variable other than the token. -/
  envAssignment : NoHit assignmentCore IsUnredacted t
  /-- No standalone key. -/
  standaloneApiKey : NoHit standaloneApiKey.rule.pattern Anything t

/-- After the seven passes nothing is left. -/
lemma isRedactedText_redactText (t : Text) : IsRedactedText (redactText t).text := by
  rw [redactText_text]
  constructor
  · have hfirst : ¬ HasKey (pass privateKey t) :=
      not_hasKey_of_edits (privateKey.rule.subn_edits privateKey_ne_nil redactionToken t)
    have hthird := not_hasKey_pass bearerToken (not_hasKey_pass authorizationHeader hfirst)
    have hfifth := not_hasKey_pass apiKey (not_hasKey_pass githubToken hthird)
    exact not_hasKey_pass standaloneApiKey (not_hasKey_pass envAssignment hfifth)
  · have hcarries : CarriesOver authorizationCore BeginsVisible := carriesOver_authorizationCore
    have hcore := isCore_authorizationCore
    have hsecond :
        NoHit authorizationCore BeginsVisible (pass authorizationHeader (pass privateKey t)) :=
      noHit_authorizationHeader _
    have hfourth := (hsecond.pass hcore hcarries bearerToken).pass hcore hcarries githubToken
    have hsixth := (hfourth.pass hcore hcarries apiKey).pass hcore hcarries envAssignment
    exact hsixth.pass hcore hcarries standaloneApiKey
  · have hcarries : CarriesOver bearerToken.rule.pattern Anything := carriesOver_anything _
    have hcore := isCore_bearerToken
    have hthird : NoHit bearerToken.rule.pattern Anything
        (pass bearerToken (pass authorizationHeader (pass privateKey t))) :=
      noHit_of_kept_empty hcore secretsIn_bearerToken rfl _
    have hfifth := (hthird.pass hcore hcarries githubToken).pass hcore hcarries apiKey
    exact (hfifth.pass hcore hcarries envAssignment).pass hcore hcarries standaloneApiKey
  · have hcarries : CarriesOver githubToken.rule.pattern Anything := carriesOver_anything _
    have hcore := isCore_githubToken
    have hfourth : NoHit githubToken.rule.pattern Anything
        (pass githubToken (pass bearerToken (pass authorizationHeader (pass privateKey t)))) :=
      noHit_of_kept_empty hcore secretsIn_githubToken rfl _
    have hsixth := (hfourth.pass hcore hcarries apiKey).pass hcore hcarries envAssignment
    exact hsixth.pass hcore hcarries standaloneApiKey
  · have hcarries : CarriesOver apiKey.rule.pattern Anything := carriesOver_anything _
    have hcore := isCore_apiKey
    have hfifth : NoHit apiKey.rule.pattern Anything
        (pass apiKey (pass githubToken (pass bearerToken
        (pass authorizationHeader (pass privateKey t))))) := noHit_apiKey _
    exact (hfifth.pass hcore hcarries envAssignment).pass hcore hcarries standaloneApiKey
  · exact (noHit_envAssignment _).subn_standaloneApiKey
  · exact noHit_of_kept_empty isCore_standaloneApiKey secretsIn_standaloneApiKey rfl _

/-- A redacted text is left as it is. -/
lemma IsRedactedText.redactText_eq {t : Text} (h : IsRedactedText t) : (redactText t).text = t := by
  have hprivate : pass .privateKey t = t := subn_privateKey h.privateKey
  have hauthorization : pass .authorizationHeader t = t :=
    subn_authorizationHeader h.authorizationHeader
  have hbearer : pass .bearerToken t = t := subn_of_noHit isCore_bearerToken h.bearerToken
  have hgithub : pass .githubToken t = t := subn_of_noHit isCore_githubToken h.githubToken
  have hapi : pass .apiKey t = t := subn_of_noHit isCore_apiKey h.apiKey
  have henv : pass .envAssignment t = t := subn_envAssignment h.envAssignment
  have hstandalone : pass .standaloneApiKey t = t :=
    subn_of_noHit isCore_standaloneApiKey h.standaloneApiKey
  rw [redactText_text, hprivate, hauthorization, hbearer, hgithub, hapi, henv, hstandalone]

/-- Redaction is idempotent. -/
theorem redactText_idempotent (s : Text) :
    (redactText (redactText s).text).text = (redactText s).text :=
  (isRedactedText_redactText s).redactText_eq

end ReviewGraph
