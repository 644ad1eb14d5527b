import ReviewGraph.Quality

/-!
# Passive memory in published findings

The comments of a pull request that are not actionable must not reappear in the text of a published
finding.  `RepeatsNothing` says what is compared: short runs of words with enough signal, the body
as a whole, and single words that mix letters and digits.  Longer runs are found through the shorter
runs in them; a run of six or more very short words is not found.
-/

namespace ReviewGraph

/-! ## Words of the parts of a text -/

/-- The words of two lines are the words of the first and those of the second. -/
lemma memoryWords_append_newline (a b : Text) :
    memoryWords (a ++ '\n' :: b) = memoryWords a ++ memoryWords b := by
  have hfold : (a ++ '\n' :: b).casefold = a.casefold ++ '\n' :: b.casefold := by
    unfold Text.casefold
    rw [List.flatMap_append, List.flatMap_cons]
    rfl
  unfold memoryWords
  rw [hfold, Text.runs_append_cons (by decide +kernel)]

/-- The words of lines, one line after the other. -/
lemma memoryWords_unlines (lines : List Text) :
    memoryWords (Text.unlines lines) = lines.flatMap memoryWords := by
  induction lines with
  | nil => rfl
  | cons first rest ih =>
    rcases rest with _ | ⟨second, rest⟩
    · simp [Text.unlines]
    · have hsplit : Text.unlines (first :: second :: rest) =
          first ++ '\n' :: Text.unlines (second :: rest) := by
        simp [Text.unlines, List.intercalate]
      rw [hsplit, memoryWords_append_newline, ih]
      rfl

/-- The words of every line are words of the text, in order. -/
lemma memoryWords_infix_unlines {line : Text} {lines : List Text} (h : line ∈ lines) :
    memoryWords line <:+: memoryWords (Text.unlines lines) := by
  obtain ⟨before, after, rfl⟩ := List.append_of_mem h
  rw [memoryWords_unlines]
  exact ⟨before.flatMap memoryWords, after.flatMap memoryWords, by simp⟩

/-! ## What is not repeated -/

/-- Nothing of the body that has enough signal is repeated in the text. -/
structure RepeatsNothing (body text : Text) : Prop where
  /-- No run of words. -/
  run : ∀ run, MeaningfulRun run → run <:+: memoryWords body → ¬ run <:+: memoryWords text
  /-- Not the whole body. -/
  whole : 2 ≤ (memoryWords body).length → 16 ≤ (normalizeMemoryText body).length →
    ¬ memoryWords body <:+: memoryWords text
  /-- No identifier. -/
  word : ∀ word, MixedIdentifier word → word ∈ memoryWords body → word ∉ memoryWords text

/-- A text that the comparison lets through repeats nothing. -/
lemma repeatsNothing_of_not_overlaps {body text : Text}
    (h : memoryBodyOverlapsText (some body) text = false) : RepeatsNothing body text := by
  constructor
  · intro run hrun hbody htext
    have hoverlap := memoryBodyOverlapsText_of_run hrun hbody htext
    rw [h] at hoverlap
    contradiction
  · intro hlen hlong htext
    have hoverlap := memoryBodyOverlapsText_of_body hlen hlong htext
    rw [h] at hoverlap
    contradiction
  · intro word hword hbody htext
    have hoverlap := memoryBodyOverlapsText_of_word hword hbody htext
    rw [h] at hoverlap
    contradiction

/-- What is not repeated in a text is repeated in no part of it. -/
lemma RepeatsNothing.of_infix {body text part : Text} (h : RepeatsNothing body text)
    (hpart : memoryWords part <:+: memoryWords text) : RepeatsNothing body part := by
  constructor
  · intro run hrun hbody hin
    exact h.run run hrun hbody (hin.trans hpart)
  · intro hlen hlong hin
    exact h.whole hlen hlong (hin.trans hpart)
  · intro word hword hbody hmem
    exact h.word word hword hbody (hpart.subset hmem)

/-- The published texts of a finding: each alone, and one after the other. -/
def publishedTexts (finding : ClassifiedFinding) : List Text :=
  [finding.title, finding.body, finding.evidence,
    Text.unlines [finding.title, finding.body, finding.evidence]]

/-- A finding with safe evidence does not overlap passive memory. -/
lemma QualityArguments.PassesGate.not_overlaps {args : QualityArguments}
    {raw : RawReviewerFinding} (h : args.PassesGate raw) {m : Checked MemoryReference}
    (hm : m ∈ args.memoryReferences) (hpassive : m.val.actionable = false) {body : Text}
    (hbody : m.val.body = some body) :
    memoryBodyOverlapsText (some body) (Text.unlines [raw.title, raw.rationale, raw.evidence]) =
      false := by
  have hsafe := h.safe
  have hcopies : textCopiesPassiveMemoryStrict [raw.title, raw.rationale, raw.evidence]
      args.memoryReferences = false := by
    unfold findingHasUnsafeEvidenceProvenance unsafeEvidenceProvenance at hsafe
    rw [Bool.false_and, Bool.false_and, Bool.false_and] at hsafe
    split at hsafe
    · contradiction
    split at hsafe
    · contradiction
    split at hsafe
    · contradiction
    split at hsafe
    · contradiction
    exact hsafe
  have hoverlap := List.any_eq_false.1 hcopies m hm
  rw [hpassive, hbody] at hoverlap
  simpa using hoverlap

/-- A finding with safe evidence repeats no passive memory. -/
lemma QualityArguments.PassesGate.repeatsNothing {args : QualityArguments}
    {raw : RawReviewerFinding} (h : args.PassesGate raw) {m : Checked MemoryReference}
    (hm : m ∈ args.memoryReferences) (hpassive : m.val.actionable = false) {body : Text}
    (hbody : m.val.body = some body) :
    RepeatsNothing body (Text.unlines [raw.title, raw.rationale, raw.evidence]) :=
  repeatsNothing_of_not_overlaps (h.not_overlaps hm hpassive hbody)

/-- No published finding repeats passive memory, in any of its texts or across them. -/
theorem classifyReviewQuality_repeatsNothing (args : QualityArguments) :
    ∃ q, classifyReviewQuality args = .ok q ∧ ∀ finding ∈ q.findings,
      ∀ m ∈ args.memoryReferences, m.val.actionable = false → ∀ body, m.val.body = some body →
        ∀ text ∈ publishedTexts finding.val, RepeatsNothing body text := by
  obtain ⟨q, kept, dropped, droppedRequests, hq, hsplit⟩ := classifyReviewQuality_ok args
  refine ⟨q, hq, ?_⟩
  intro finding hfinding m hm hpassive body hbody text htext
  obtain ⟨raw, -, hpasses, hval⟩ := hsplit.classified.exists_of_mem_right hfinding
  have hnothing := hpasses.repeatsNothing hm hpassive hbody
  rw [hval] at htext
  refine hnothing.of_infix ?_
  unfold publishedTexts classifiedFields at htext
  rcases List.mem_cons.1 htext with rfl | htext
  · exact memoryWords_infix_unlines (by simp)
  rcases List.mem_cons.1 htext with rfl | htext
  · exact memoryWords_infix_unlines (by simp)
  rcases List.mem_cons.1 htext with rfl | htext
  · exact memoryWords_infix_unlines (by simp)
  obtain rfl := List.mem_singleton.1 htext
  exact List.infix_refl _

/-! ## Short words -/

/-- A comment by an untrusted author with six words of one letter each. -/
def lettersMemory : Checked MemoryReference :=
  ⟨{ id := "m1"
     trustLabel := "untrusted"
     resolvedStatus := "unresolved"
     sourceType := "issue_comment"
     body := some "a b c d e f z"
     author := none
     authorAssociation := none
     authorType := none
     createdAt := none
     url := none
     path := none
     line := none
     actionable := false
     passiveReason := none
     sourceProvider := none
     sourceId := none
     threadId := none }, by decide +kernel⟩

/-- The fields of the run key are valid. -/
lemma lettersRunKey_valid : Record.postInit
    (⟨"t", "c", .specializedReview, "bugs", 1, none, none⟩ : ReviewerRunKey) = .ok () := by
  decide +kernel

/-- A reviewer that repeats the six words in its evidence. -/
def lettersResult : ReviewerResult where
  runKey := ⟨⟨"t", "c", .specializedReview, "bugs", 1, none, none⟩, lettersRunKey_valid⟩
  findings := [
    ⟨{ id := "f1"
       severity := .warning
       confidence := .high
       path := "src/cache.py"
       line := 3
       title := "Cache key is dropped"
       rationale := "The new branch drops the key when it is empty."
       evidence := "Changed line 3 now drops the flags a b c d e f here."
       lineEnd := none
       suggestedFix := none
       evidenceSources := [("diff" : Text)]
       evidenceMemoryIds := [] }, by decide +kernel⟩]
  clarificationRequests := []
  localNotes := []
  suggestedReplies := []
  suppressedOutputs := []

/-- The finding of that reviewer, next to that comment. -/
def lettersArguments : QualityArguments where
  changedFiles := [.github ⟨"src/cache.py", [⟨1, 5⟩], "modified", none, "available"⟩]
  reviewerResult := lettersResult
  memoryReferences := [lettersMemory]
  omittedFilePaths := []
  omittedMemoryIds := []

/-- The six words of the comment. -/
def lettersRun : List Text := ["a", "b", "c", "d", "e", "f"]

/-- The finding is published with the words of the comment. -/
lemma lettersArguments_publishes : (do
    let q ← classifyReviewQuality lettersArguments
    return q.findings.map fun finding : Checked ClassifiedFinding =>
      decide (lettersRun <:+: memoryWords finding.val.evidence)) = .ok [true] := by
  decide +kernel

/-- The finding is published, and repeats nothing of the comment that is looked for. -/
theorem classifyReviewQuality_repeatsNothing_letters :
    ∃ q, classifyReviewQuality lettersArguments = .ok q ∧ q.findings ≠ [] ∧
      ∀ finding ∈ q.findings, RepeatsNothing "a b c d e f z" finding.val.evidence := by
  obtain ⟨q, hq, hnothing⟩ := classifyReviewQuality_repeatsNothing lettersArguments
  obtain ⟨q', hq', hfindings⟩ := bind_eq_ok.1 lettersArguments_publishes
  obtain rfl : q = q' := Except.ok.inj (hq.symm.trans hq')
  refine ⟨q, hq, ?_, ?_⟩
  · intro hnil
    have hmap := pure_eq_ok.1 hfindings
    rw [hnil] at hmap
    contradiction
  · intro finding hfinding
    exact hnothing finding hfinding lettersMemory (List.mem_singleton_self _) rfl _ rfl _
      (by simp [publishedTexts])

/-- A published finding repeats six consecutive words of a comment that is not actionable, eleven
characters of which six are different. -/
theorem lettersRun_is_published : ∃ q, classifyReviewQuality lettersArguments = .ok q ∧
    ∃ finding ∈ q.findings, ∃ m ∈ lettersArguments.memoryReferences, m.val.actionable = false ∧
      ∃ body, m.val.body = some body ∧ 3 ≤ lettersRun.length ∧
        10 ≤ (Text.join [' '] lettersRun).length ∧ 5 ≤ distinctCount lettersRun.flatten ∧
        lettersRun <:+: memoryWords body ∧ lettersRun <:+: memoryWords finding.val.evidence := by
  obtain ⟨q, hq, hfindings⟩ := bind_eq_ok.1 lettersArguments_publishes
  have hmap := pure_eq_ok.1 hfindings
  obtain ⟨finding, hfinding, hdecide⟩ := List.mem_map.1 (hmap ▸ List.mem_singleton_self true)
  exact ⟨q, hq, finding, hfinding, lettersMemory, List.mem_singleton_self _, rfl, _, rfl,
    by decide +kernel, by decide +kernel, by decide +kernel, by decide +kernel,
    of_decide_eq_true hdecide⟩

end ReviewGraph
