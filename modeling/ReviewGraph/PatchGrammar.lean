import ReviewGraph.Foundation.JsonDecoding
import ReviewGraph.PatchParser

/-!
# Well-formed diffs

A well-formed unified diff is a sequence of hunks of lines that line feeds separate.  The parser
cuts its text with `str.splitlines()` instead, so it accepts the diff exactly if the lines that this
yields are still hunks with the right counts.
-/

namespace ReviewGraph

/-! ## Diffs -/

/-- A hunk of a diff: the numbers of its header and its lines. -/
structure DiffHunk where
  numbers : HunkHeader
  body : List Text
  deriving DecidableEq

namespace DiffHunk

/-- The digits of a number. -/
def digits (n : ℕ) : Text := Nat.toDigits 10 n

/-- The header line of a hunk. -/
def headerLine (hunk : DiffHunk) : Text :=
  "@@ -" ++ (digits hunk.numbers.sourceStart ++ ("," ++ (digits hunk.numbers.sourceCount ++
    (" +" ++ (digits hunk.numbers.targetStart ++
      ("," ++ (digits hunk.numbers.targetCount ++ " @@")))))))

/-- The lines of a hunk. -/
def lines (hunk : DiffHunk) : List Text := hunk.headerLine :: hunk.body

/-- A hunk whose counts are right. -/
structure WellFormed (hunk : DiffHunk) : Prop where
  /-- The source lines have numbers from one on, if there are any. -/
  sourceStart : 0 < hunk.numbers.sourceStart ∨ hunk.numbers.sourceCount = 0
  /-- The target lines have numbers from one on. -/
  targetStart : 0 < hunk.numbers.targetStart
  /-- There are target lines. -/
  targetCount : 0 < hunk.numbers.targetCount
  /-- The source lines are counted. -/
  sourceLineCount : sourceLineCount hunk.body = hunk.numbers.sourceCount
  /-- The target lines are counted. -/
  targetLineCount : targetLineCount hunk.body = hunk.numbers.targetCount
  /-- The body consists of lines of a body. -/
  body : ∀ line ∈ hunk.body, IsBodyLine line ∧ '\n' ∉ line

/-- A hunk without line boundaries inside its lines, apart from a carriage return at their end, and
with numbers that `int` reads. -/
structure Plain (hunk : DiffHunk) : Prop where
  /-- No line has a boundary inside. -/
  body : ∀ line ∈ hunk.body, ∀ c ∈ Text.dropCr line, Text.isLineBoundary c = false
  /-- The numbers are short. -/
  numbers : ∀ n ∈ [hunk.numbers.sourceStart, hunk.numbers.sourceCount, hunk.numbers.targetStart,
    hunk.numbers.targetCount], (digits n).length ≤ maxIntDigits

end DiffHunk

/-- The text of a diff. -/
def diffText (hunks : List DiffHunk) : Text := Text.unlines (hunks.flatMap DiffHunk.lines)

/-- A diff of well-formed hunks, one of which adds something. -/
structure WellFormedDiff (hunks : List DiffHunk) : Prop where
  /-- Every hunk is well formed. -/
  wellFormed : ∀ hunk ∈ hunks, hunk.WellFormed
  /-- A hunk adds something. -/
  addition : ∃ hunk ∈ hunks, hasAddition hunk.body = true

/-! ## Headers -/

/-- A digit has its value. -/
lemma decimalValue?_digit {c : Char} (h : Unicode.isDigit c = true) :
    Unicode.decimalValue? c = some (c.toNat - 48) := by
  simp only [Unicode.isDigit, Bool.and_eq_true, decide_eq_true_eq, Char.le_def,
    UInt32.le_iff_toNat_le] at h
  have hlow : 0x30 ≤ c.toNat := h.1
  have hhigh : c.toNat ≤ 0x30 + 9 := h.2
  unfold Unicode.decimalValue? Unicode.decimalZeros
  rw [List.find?_cons_of_pos (by simpa using ⟨hlow, hhigh⟩)]
  rfl

/-- The number that the digits of a number stand for. -/
lemma decimalNat_digits (n : ℕ) : decimalNat (DiffHunk.digits n) = n := by
  have hfold : ∀ (t : Text) (m : ℕ), (∀ c ∈ t, Unicode.isDigit c = true) →
      t.foldl (fun n c => n * 10 + (Unicode.decimalValue? c).getD 0) m = Nat.ofDigitChars 10 t
        m := by
    intro t
    induction t with
    | nil => intro m _; rfl
    | cons c t ih =>
      intro m hdigits
      rw [List.foldl_cons, Nat.ofDigitChars_cons, ih _ fun d hd =>
        hdigits d (List.mem_cons_of_mem _ hd),
        decimalValue?_digit (hdigits c List.mem_cons_self), Nat.mul_comm]
      rfl
  unfold decimalNat DiffHunk.digits
  rw [hfold _ _ fun c hc => Json.isDigit_of_mem_toDigits hc]
  exact Nat.ofDigitChars_toDigits (by norm_num) le_rfl

/-- The digits of a number are decimal. -/
lemma isDecimal_of_mem_digits {n : ℕ} {c : Char} (h : c ∈ DiffHunk.digits n) :
    Unicode.isDecimal c = true := by
  unfold Unicode.isDecimal
  rw [decimalValue?_digit (Json.isDigit_of_mem_toDigits h)]
  rfl

/-- A number has a digit. -/
lemma digits_ne_nil (n : ℕ) : DiffHunk.digits n ≠ [] := Nat.toDigits_ne_nil

/-- The digits of a number are read up to a character that is no digit. -/
lemma takeNumber_digits (n : ℕ) {c : Char} (hc : Unicode.isDecimal c = false) (rest : Text) :
    takeNumber (DiffHunk.digits n ++ c :: rest) = some (DiffHunk.digits n, c :: rest) := by
  have htake : (DiffHunk.digits n ++ c :: rest).takeWhile Unicode.isDecimal = DiffHunk.digits
      n := by
    rw [List.takeWhile_append_of_pos fun d hd => isDecimal_of_mem_digits hd,
      List.takeWhile_cons_of_neg (by simp [hc]), List.append_nil]
  have hdrop : (DiffHunk.digits n ++ c :: rest).dropWhile Unicode.isDecimal = c :: rest := by
    rw [List.dropWhile_append_of_pos fun d hd => isDecimal_of_mem_digits hd,
      List.dropWhile_cons_of_neg (by simp [hc])]
  unfold takeNumber
  rw [htake, hdrop, if_neg (digits_ne_nil n)]

/-- The count of a header is read. -/
lemma takeCount_digits (n : ℕ) {c : Char} (hc : Unicode.isDecimal c = false) (rest : Text) :
    takeCount (("," : Text) ++ (DiffHunk.digits n ++ c :: rest)) =
      (some (DiffHunk.digits n), c :: rest) := by
  unfold takeCount
  rw [Text.isPrefixOf?_append]
  dsimp only
  rw [takeNumber_digits n hc]

/-- The header of a diff is matched with its numbers. -/
lemma matchHunk_headerLine (hunk : DiffHunk) : matchHunk hunk.headerLine =
    some ⟨DiffHunk.digits hunk.numbers.sourceStart, some (DiffHunk.digits hunk.numbers.sourceCount),
      DiffHunk.digits hunk.numbers.targetStart,
      some (DiffHunk.digits hunk.numbers.targetCount)⟩ := by
  have hcomma : ∀ t : Text, ("," : Text) ++ t = ',' :: t := by simp [Text.ofString_eq]
  have hplus : ∀ t : Text, (" +" : Text) ++ t = ' ' :: '+' :: t := by simp [Text.ofString_eq]
  have hend : (" @@" : Text) = ' ' :: ['@', '@'] := by simp [Text.ofString_eq]
  have hcommaDigit : Unicode.isDecimal ',' = false := by decide
  have hblankDigit : Unicode.isDecimal ' ' = false := by decide
  have hnumber : ∀ (n : ℕ) (t : Text), takeNumber (DiffHunk.digits n ++ (("," : Text) ++ t)) =
      some (DiffHunk.digits n, ("," : Text) ++ t) := by
    intro n t
    rw [hcomma]
    exact takeNumber_digits n hcommaDigit t
  have hsource : ∀ (n : ℕ) (t : Text), takeCount (("," : Text) ++ (DiffHunk.digits n ++
      ((" +" : Text) ++ t))) = (some (DiffHunk.digits n), (" +" : Text) ++ t) := by
    intro n t
    rw [hplus]
    exact takeCount_digits n hblankDigit _
  have htarget : ∀ n : ℕ, takeCount (("," : Text) ++ (DiffHunk.digits n ++ (" @@" : Text))) =
      (some (DiffHunk.digits n), (" @@" : Text)) := by
    intro n
    rw [hend]
    exact takeCount_digits n hblankDigit _
  have hlast : (" @@" : Text).isPrefixOf? (" @@" : Text) = some [] := by
    rw [Text.isPrefixOf?_eq_some_iff, List.append_nil]
  unfold matchHunk DiffHunk.headerLine
  simp only [Text.isPrefixOf?_append, Option.bind_eq_bind, Option.bind_some, hnumber, hsource,
    htarget,
    hlast, true_or, if_true]

/-- The numbers of the header are read, if they are short. -/
lemma header_of_plain {hunk : DiffHunk} (h : hunk.Plain) (body : List Text) :
    Hunk.header ⟨hunk.headerLine, body⟩ = some hunk.numbers := by
  have hread : ∀ n ∈ [hunk.numbers.sourceStart, hunk.numbers.sourceCount, hunk.numbers.targetStart,
      hunk.numbers.targetCount], intOfDigits (DiffHunk.digits n) = .ok n := by
    intro n hn
    unfold intOfDigits
    rw [if_neg (not_lt.2 (h.numbers n hn)), decimalNat_digits]
  unfold Hunk.header
  rw [matchHunk_headerLine, Option.bind_some]
  unfold readHunkHeader
  simp only [Option.getD_some]
  rw [hread _ (by simp), ok_bind, hread _ (by simp), ok_bind, hread _ (by simp), ok_bind,
    hread _ (by simp), ok_bind]
  rfl

/-! ## Lines that stay whole -/

/-- A header line is one. -/
lemma isHeaderLine_headerLine (hunk : DiffHunk) : isHeaderLine hunk.headerLine = true :=
  isHeaderLine_of_matchHunk (matchHunk_headerLine hunk)

/-- A body line is no header line. -/
lemma isHeaderLine_of_isBodyLine {line : Text} (h : IsBodyLine line) : isHeaderLine line =
    false := by
  obtain ⟨c, hc, hhead⟩ := h
  obtain ⟨rest, rfl⟩ : ∃ rest, line = c :: rest := by
    cases line with
    | nil => simp at hhead
    | cons d rest => exact ⟨rest, by simpa using hhead⟩
  have hne : c ≠ '@' := by
    rintro rfl
    simp at hc
  have hbeq : ('@' == c) = false := by simpa using hne.symm
  unfold isHeaderLine Text.startsWith
  simp [Text.ofString_eq, List.isPrefixOf, hbeq]

/-- A line of a body without its carriage return has the same first character. -/
lemma head?_dropCr {line : Text} (h : IsBodyLine line) : (Text.dropCr line).head? = line.head? := by
  obtain ⟨c, hc, hhead⟩ := h
  unfold Text.dropCr
  split
  · rename_i hcr
    cases line with
    | nil => rfl
    | cons d rest =>
      cases rest with
      | nil =>
        simp only [List.head?_cons, Option.some.injEq, List.getLast?_singleton] at hhead hcr
        subst hhead hcr
        simp at hc
      | cons e rest => rfl
  · rfl

/-- The hunks of the lines of a diff. -/
lemma patchHunks_lines {hunks : List (Text × List Text)}
    (h : ∀ hunk ∈ hunks, isHeaderLine hunk.1 = true ∧ ∀ line ∈ hunk.2, isHeaderLine line = false) :
    patchHunks (hunks.flatMap fun hunk => hunk.1 :: hunk.2) = hunks.map fun hunk =>
      ⟨hunk.1, hunk.2⟩ := by
  have hskip : ∀ body lines : List Text, (∀ line ∈ body, isHeaderLine line = false) →
      patchHunks (body ++ lines) = patchHunks lines := by
    intro body lines hbody
    induction body with
    | nil => rfl
    | cons line body ih =>
      rw [List.cons_append, patchHunks_body (hbody line List.mem_cons_self),
        ih fun l hl => hbody l (List.mem_cons_of_mem _ hl)]
  induction hunks with
  | nil => rfl
  | cons hunk hunks ih =>
    obtain ⟨hheader, hbody⟩ := h hunk List.mem_cons_self
    have hrest := fun x hx => h x (List.mem_cons_of_mem hunk hx)
    have hnext : bodyLines (hunks.flatMap fun hunk => hunk.1 :: hunk.2) = [] := by
      cases hunks with
      | nil => rfl
      | cons next hunks =>
        have hstart := (hrest next List.mem_cons_self).1
        unfold bodyLines
        rw [List.flatMap_cons, List.cons_append, List.takeWhile_cons_of_neg (by simp [hstart])]
    have htake : bodyLines (hunk.2 ++ hunks.flatMap fun hunk => hunk.1 :: hunk.2) = hunk.2 := by
      unfold bodyLines at hnext ⊢
      rw [List.takeWhile_append_of_pos fun line hline => by simp [hbody line hline], hnext,
        List.append_nil]
    rw [List.flatMap_cons, List.cons_append, patchHunks_header hheader, htake, hskip _ _ hbody,
      ih hrest]
    rfl

/-- No line ends inside a header. -/
lemma isLineBoundary_headerLine {hunk : DiffHunk} {c : Char} (h : c ∈ hunk.headerLine) :
    Text.isLineBoundary c = false := by
  have hdigits : ∀ n, ∀ c ∈ DiffHunk.digits n, Text.isLineBoundary c = false := by
    intro n c hc
    have hdigit : Unicode.isDigit c = true := Json.isDigit_of_mem_toDigits hc
    simp only [Unicode.isDigit, Bool.and_eq_true, decide_eq_true_eq, Char.le_def,
      UInt32.le_iff_toNat_le] at hdigit
    have hlow : 48 ≤ c.toNat := hdigit.1
    have hhigh : c.toNat ≤ 57 := hdigit.2
    unfold Text.isLineBoundary
    rw [decide_eq_false_iff_not]
    simp only [List.mem_cons, List.not_mem_nil, or_false]
    omega
  have hliterals : ∀ t ∈ (["@@ -", ",", " +", " @@"] : List Text), ∀ c ∈ t,
      Text.isLineBoundary c = false := by
    simp [Text.ofString_eq, Text.isLineBoundary]
  unfold DiffHunk.headerLine at h
  simp only [List.mem_append] at h
  rcases h with h | h | h | h | h | h | h | h | h
  · exact hliterals _ (by simp) c h
  · exact hdigits _ c h
  · exact hliterals _ (by simp) c h
  · exact hdigits _ c h
  · exact hliterals _ (by simp) c h
  · exact hdigits _ c h
  · exact hliterals _ (by simp) c h
  · exact hdigits _ c h
  · exact hliterals _ (by simp) c h

/-- A header line has no carriage return. -/
lemma dropCr_headerLine (hunk : DiffHunk) : Text.dropCr hunk.headerLine = hunk.headerLine := by
  unfold Text.dropCr
  rw [if_neg]
  intro hlast
  have hboundary := isLineBoundary_headerLine (List.mem_of_getLast? hlast)
  exact absurd hboundary (by decide)

/-- A body line is not empty. -/
lemma ne_nil_of_isBodyLine {line : Text} (h : IsBodyLine line) : line ≠ [] := by
  rintro rfl
  obtain ⟨c, -, hhead⟩ := h
  cases hhead

/-- The text of a diff of plain hunks is cut into its lines. -/
lemma splitLines_diffText {hunks : List DiffHunk} (hwell : WellFormedDiff hunks)
    (hplain : ∀ hunk ∈ hunks, hunk.Plain) : (diffText hunks).splitLines =
      hunks.flatMap fun hunk => hunk.headerLine :: hunk.body.map Text.dropCr := by
  have hheaderNe : ∀ hunk : DiffHunk, hunk.headerLine ≠ [] := by
    intro hunk
    simp [DiffHunk.headerLine]
  unfold diffText
  rw [Text.splitLines_unlines]
  · rw [List.map_flatMap]
    refine List.flatMap_congr fun hunk _ => ?_
    unfold DiffHunk.lines
    rw [List.map_cons, dropCr_headerLine]
  · obtain ⟨hunk, hhunk, -⟩ := hwell.addition
    exact List.ne_nil_of_mem (List.mem_flatMap.2 ⟨hunk, hhunk, List.mem_cons_self⟩)
  · intro line hline
    obtain ⟨hunk, hhunk, hline⟩ := List.mem_flatMap.1 hline
    rcases List.mem_cons.1 hline with rfl | hline
    · exact hheaderNe hunk
    · exact ne_nil_of_isBodyLine ((hwell.wellFormed hunk hhunk).body line hline).1
  · intro line hline c hc
    obtain ⟨hunk, hhunk, hline⟩ := List.mem_flatMap.1 hline
    rcases List.mem_cons.1 hline with rfl | hline
    · rw [dropCr_headerLine] at hc
      exact isLineBoundary_headerLine hc
    · exact (hplain hunk hhunk).body line hline c hc

/-- The counts of a body do not depend on its carriage returns. -/
lemma counts_dropCr {body : List Text} (h : ∀ line ∈ body, IsBodyLine line) :
    (∀ line ∈ body.map Text.dropCr, IsBodyLine line) ∧
      sourceLineCount (body.map Text.dropCr) = sourceLineCount body ∧
      targetLineCount (body.map Text.dropCr) = targetLineCount body := by
  refine ⟨?_, ?_, ?_⟩
  · intro line hline
    obtain ⟨line', hline', rfl⟩ := List.mem_map.1 hline
    obtain ⟨c, hc, hhead⟩ := h line' hline'
    exact ⟨c, hc, by rw [head?_dropCr (h line' hline'), hhead]⟩
  · unfold sourceLineCount
    rw [List.countP_map]
    refine List.countP_congr fun line hline => ?_
    simp [head?_dropCr (h line hline)]
  · unfold targetLineCount
    rw [List.countP_map]
    refine List.countP_congr fun line hline => ?_
    simp [head?_dropCr (h line hline)]

/-- The lines of a diff of plain hunks are valid hunks. -/
lemma validHunks_of_plain {hunks : List DiffHunk} (hwell : WellFormedDiff hunks)
    (hplain : ∀ hunk ∈ hunks, hunk.Plain) : ValidHunks (diffText hunks).splitLines := by
  have hlines : (diffText hunks).splitLines =
      (hunks.map fun hunk => (hunk.headerLine, hunk.body.map Text.dropCr)).flatMap
        fun hunk => hunk.1 :: hunk.2 := by
    rw [splitLines_diffText hwell hplain, List.flatMap_map]
  have hbody : ∀ hunk ∈ hunks, ∀ line ∈ hunk.body, IsBodyLine line :=
    fun hunk hhunk line hline => ((hwell.wellFormed hunk hhunk).body line hline).1
  have hhunks := @patchHunks_lines (hunks.map fun hunk =>
    (hunk.headerLine, hunk.body.map Text.dropCr)) (by
      intro hunk hhunk
      obtain ⟨diff, hdiff, rfl⟩ := List.mem_map.1 hhunk
      refine ⟨isHeaderLine_headerLine diff, ?_⟩
      intro line hline
      exact isHeaderLine_of_isBodyLine ((counts_dropCr (hbody diff hdiff)).1 line hline))
  unfold ValidHunks
  rw [hlines, hhunks, List.map_map]
  intro hunk hhunk
  obtain ⟨diff, hdiff, rfl⟩ := List.mem_map.1 hhunk
  obtain ⟨hcounts, hsource, htarget⟩ := counts_dropCr (hbody diff hdiff)
  have hformed := hwell.wellFormed diff hdiff
  exact ⟨diff.numbers, header_of_plain (hplain diff hdiff) _, hformed.sourceStart,
    hformed.targetStart, hformed.targetCount, hcounts, hsource.trans hformed.sourceLineCount,
    htarget.trans hformed.targetLineCount⟩


/-! ## Additions -/

/-- An added line behind a header belongs to a hunk. -/
lemma exists_hasAddition {header line : Text} {lines : List Text} (hheader : isHeaderLine header =
    true)
    (hline : line ∈ lines) (hplus : line.head? = some '+') :
    ∃ hunk ∈ patchHunks (header :: lines), hasAddition hunk.body = true := by
  have hbody : isHeaderLine line = false := isHeaderLine_of_isBodyLine ⟨'+', by simp, hplus⟩
  induction lines generalizing header with
  | nil => cases hline
  | cons next lines ih =>
    rw [patchHunks_header hheader]
    by_cases hnext : isHeaderLine next = true
    · have hmem : line ∈ lines := by
        rcases List.mem_cons.1 hline with rfl | hmem
        · rw [hnext] at hbody
          contradiction
        · exact hmem
      obtain ⟨hunk, hhunk, hadds⟩ := ih hnext hmem
      exact ⟨hunk, List.mem_cons_of_mem _ hhunk, hadds⟩
    · rw [Bool.not_eq_true] at hnext
      have htake : bodyLines (next :: lines) = next :: bodyLines lines := by
        unfold bodyLines
        rw [List.takeWhile_cons_of_pos (by simp [hnext])]
      rw [htake, patchHunks_body hnext]
      rcases List.mem_cons.1 hline with rfl | hmem
      · exact ⟨_, List.mem_cons_self, by simp [hasAddition, hplus]⟩
      · obtain ⟨hunk, hhunk, hadds⟩ := ih hheader hmem
        rw [patchHunks_header hheader] at hhunk
        rcases List.mem_cons.1 hhunk with rfl | hhunk
        · refine ⟨_, List.mem_cons_self, ?_⟩
          unfold hasAddition at hadds ⊢
          rw [List.any_cons, hadds, Bool.or_true]
        · exact ⟨hunk, List.mem_cons_of_mem _ hhunk, hadds⟩

/-- The lines before and after a line feed. -/
lemma unlines_append {before after : List Text} (hbefore : before ≠ []) (hafter : after ≠ []) :
    Text.unlines (before ++ after) = Text.unlines before ++ '\n' :: Text.unlines after := by
  induction before with
  | nil => exact absurd rfl hbefore
  | cons line before ih =>
    by_cases hnil : before = []
    · subst hnil
      obtain ⟨next, rest, rfl⟩ := List.exists_cons_of_ne_nil hafter
      simp [Text.unlines, List.intercalate]
    · obtain ⟨next, rest, rfl⟩ := List.exists_cons_of_ne_nil hnil
      have hcons : ∀ rest : List Text, Text.unlines (line :: next :: rest) =
          line ++ '\n' :: Text.unlines (next :: rest) := by
        intro rest
        simp [Text.unlines, List.intercalate]
      have htail := ih hnil
      rw [List.cons_append] at htail
      rw [List.cons_append, List.cons_append, hcons, hcons, htail]
      simp

/-- The lines that the parser sees of a diff still add something. -/
lemma additionSpans_diffText {hunks : List DiffHunk} (hwell : WellFormedDiff hunks)
    (hvalid : ValidHunks (diffText hunks).splitLines) :
    additionSpans (diffText hunks).splitLines ≠ [] := by
  obtain ⟨hunk, hhunk, hadds⟩ := hwell.addition
  obtain ⟨line, hline, hplus⟩ := List.any_eq_true.1 hadds
  have hplus : line.head? = some '+' := by simpa using hplus
  obtain ⟨first, rest, rfl⟩ := List.exists_cons_of_ne_nil (List.ne_nil_of_mem hhunk)
  have hlines : (first :: rest).flatMap DiffHunk.lines =
      first.headerLine :: (first.body ++ rest.flatMap DiffHunk.lines) := by
    simp [DiffHunk.lines]
  have hmem : line ∈ first.body ++ rest.flatMap DiffHunk.lines := by
    rcases List.mem_cons.1 hhunk with rfl | hhunk
    · exact List.mem_append_left _ hline
    · exact List.mem_append_right _ (List.mem_flatMap.2 ⟨hunk, hhunk, List.mem_cons_of_mem _ hline⟩)
  obtain ⟨before, after, hsplit⟩ := List.append_of_mem hmem
  -- The text is cut behind the first header and before the added line.
  have htext : diffText (first :: rest) = Text.unlines (first.headerLine :: before) ++
      '\n' :: Text.unlines (line :: after) := by
    unfold diffText
    rw [hlines, hsplit, ← List.cons_append]
    exact unlines_append (by simp) (by simp)
  obtain ⟨tail, hhead⟩ : ∃ tail, Text.splitLines (Text.unlines (first.headerLine :: before) ++
      ['\n']) =
      first.headerLine :: tail := by
    have hboundary : ∀ c ∈ first.headerLine, Text.isLineBoundary c = false :=
      fun c hc => isLineBoundary_headerLine hc
    cases before with
    | nil => exact ⟨_, by simpa [Text.unlines] using Text.splitLines_append_newline hboundary []⟩
    | cons next before =>
      have hcons : Text.unlines (first.headerLine :: next :: before) ++ ['\n'] =
          first.headerLine ++ '\n' :: (Text.unlines (next :: before) ++ ['\n']) := by
        simp [Text.unlines, List.intercalate]
      exact ⟨_, by rw [hcons, Text.splitLines_append_newline hboundary]⟩
  obtain ⟨added, others, hadded, haddedPlus⟩ : ∃ added others,
      Text.splitLines (Text.unlines (line :: after)) = added :: others ∧
        added.head? = some '+' := by
    obtain ⟨content, rfl⟩ : ∃ content, line = '+' :: content := by
      cases line with
      | nil => cases hplus
      | cons c content => exact ⟨content, by rw [Option.some.inj hplus]⟩
    obtain ⟨u, hu⟩ : ∃ u, Text.unlines (('+' :: content) :: after) = '+' :: u := by
      cases after <;> simp [Text.unlines, List.intercalate]
    rw [hu, Text.splitLines_cons (by decide)]
    cases Text.splitLines u with
    | nil => exact ⟨_, _, rfl, rfl⟩
    | cons l ls => exact ⟨_, _, rfl, rfl⟩
  rw [htext, Text.splitLines_append, hhead, hadded, List.cons_append] at hvalid ⊢
  obtain ⟨found, hfound, hfoundAdds⟩ := exists_hasAddition (isHeaderLine_headerLine first)
    (show added ∈ tail ++ added :: others by simp) haddedPlus
  obtain ⟨numbers, hnumbers⟩ := hvalid found hfound
  have hspan : Hunk.span numbers ∈ found.additionSpans := by
    unfold Hunk.additionSpans
    rw [if_pos hfoundAdds, hnumbers.header]
    simp
  exact List.ne_nil_of_mem (List.mem_flatMap.2 ⟨found, hfound, hspan⟩)

/-! ## Which diffs are accepted -/

/-- A well-formed diff is accepted exactly if its lines, cut at every line boundary, are still valid
hunks.  They are if no line has a boundary inside and the numbers are short. -/
theorem changedRangesFromPatch_diff_iff (path : Text) {status : Text}
    (hstatus : status ∈ inlineableFileStatuses) {hunks : List DiffHunk}
    (hwell : WellFormedDiff hunks) :
    ((∃ ranges, changedRangesFromPatch path (some (diffText hunks)) status "available" =
        .ok (ranges, none)) ↔ ValidHunks (diffText hunks).splitLines) ∧
      ((∀ hunk ∈ hunks, hunk.Plain) → ValidHunks (diffText hunks).splitLines) := by
  refine ⟨?_, validHunks_of_plain hwell⟩
  unfold changedRangesFromPatch
  rw [if_neg (not_not.2 hstatus)]
  dsimp only
  rw [if_neg (not_not.2 rfl)]
  constructor
  · rintro ⟨ranges, h⟩
    split at h
    · contradiction
    · simp at h
    · rename_i ranges' hparse
      exact (parsePatchLines_eq_ok.1 hparse).1
  · intro hvalid
    refine ⟨coalesceChangedRanges (additionSpans (diffText hunks).splitLines), ?_⟩
    rw [parsePatchLines_eq_ok.2 ⟨hvalid, additionSpans_diffText hwell hvalid, rfl⟩]

/-- A diff of one hunk, whose added line contains a form feed. -/
def formFeedHunk : DiffHunk :=
  ⟨⟨1, 1, 1, 2⟩, [[' ', 'a'], ['+', 'b', Char.ofNat 12, 'c']]⟩

/-- The hunk is well-formed. -/
lemma formFeedHunk_wellFormed : WellFormedDiff [formFeedHunk] where
  wellFormed := by
    intro hunk hhunk
    obtain rfl := List.mem_singleton.1 hhunk
    refine ⟨by decide, by decide, by decide, by decide, by decide, ?_⟩
    intro line hline
    simp only [formFeedHunk, List.mem_cons, List.not_mem_nil, or_false] at hline
    rcases hline with rfl | rfl
    · exact ⟨⟨' ', by simp, rfl⟩, by decide⟩
    · exact ⟨⟨'+', by simp, rfl⟩, by decide⟩
  addition := ⟨formFeedHunk, by simp, by decide⟩

/-- The diff with a form feed in a line is refused. -/
theorem changedRangesFromPatch_formFeed : WellFormedDiff [formFeedHunk] ∧
    ¬ ∃ ranges, changedRangesFromPatch "a.py" (some (diffText [formFeedHunk])) "modified"
      "available" =
      .ok (ranges, none) := by
  refine ⟨formFeedHunk_wellFormed, ?_⟩
  rintro ⟨ranges, h⟩
  have hrefused : changedRangesFromPatch "a.py" (some (diffText [formFeedHunk])) "modified"
      "available" = .ok ([], some ("unsupported hunk body line in " ++ ("a.py" : Text))) := by
    decide +kernel
  rw [hrefused] at h
  simp at h

/-- What is known of the diff with a form feed. -/
theorem changedRangesFromPatch_diff_iff_formFeed :
    ((∃ ranges, changedRangesFromPatch "a.py" (some (diffText [formFeedHunk])) "modified"
      "available" =
        .ok (ranges, none)) ↔ ValidHunks (diffText [formFeedHunk]).splitLines) ∧
      ((∀ hunk ∈ [formFeedHunk], hunk.Plain) → ValidHunks (diffText [formFeedHunk]).splitLines) :=
  changedRangesFromPatch_diff_iff "a.py" (by simp [inlineableFileStatuses]) formFeedHunk_wellFormed

end ReviewGraph
