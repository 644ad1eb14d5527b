import ReviewGraph.DiffAnchors
import ReviewGraph.PassiveMemory
import ReviewGraph.Posting

/-!
# The preview of a candidate payload

`_candidate_payload_preview` of `render.py` looks for passive memory in the text of all published
findings together, where the quality gate has looked at each finding alone.  A longer text repeats
whatever a part of it repeats, so that the preview can only find more: exactly the runs of words
that no single finding contains.
-/

namespace ReviewGraph

/-! ## Overlaps in the words of a text -/

/-- `memory_body_overlaps_text`, of a text with the given words. -/
def memoryBodyOverlapsWords (body : Text) (words : List Text) : Bool :=
  let normalizedMemory := normalizeMemoryText body
  let normalizedText := Text.join [' '] words
  body ≠ [] &&
    ((exactMemoryBodyIsMeaningful normalizedMemory &&
        normalizedPhraseInText normalizedMemory normalizedText) ||
      body.splitWords.any (rawTokenOverlapsText normalizedText) ||
      (meaningfulMemoryFragments body).any (fragmentOverlapsText normalizedMemory normalizedText))

/-- The overlap with a text is the overlap with its words. -/
lemma memoryBodyOverlapsText_eq_words (body text : Text) :
    memoryBodyOverlapsText (some body) text = memoryBodyOverlapsWords body (memoryWords text) := rfl

/-- The windows of a list are its runs of the given length. -/
lemma mem_windows {size : ℕ} {words window : List Text} :
    window ∈ windows size words ↔ window <:+: words ∧ window.length = size := by
  unfold windows
  constructor
  · intro h
    obtain ⟨index, hindex, rfl⟩ := List.mem_map.1 h
    have hlt := List.mem_range.1 hindex
    have htake := List.take_prefix size (words.drop index)
    refine ⟨htake.isInfix.trans (List.drop_suffix _ _).isInfix, ?_⟩
    rw [List.length_take, List.length_drop]
    omega
  · rintro ⟨⟨before, after, rfl⟩, rfl⟩
    refine List.mem_map.2 ⟨before.length, List.mem_range.2 ?_, ?_⟩
    · simp only [List.length_append]
      omega
    · rw [List.append_assoc, List.drop_left, List.take_left]

section Monotone

variable {run words : List Text}

/-- A phrase of a part of the words is a phrase of the words. -/
lemma normalizedPhraseInText_mono (hwords : AreWords words) (hrun : run <:+: words) {phrase : Text}
    (hphrase : phrase ≠ []) (h : normalizedPhraseInText phrase (Text.join [' '] run) = true) :
    normalizedPhraseInText phrase (Text.join [' '] words) = true := by
  unfold normalizedPhraseInText at h ⊢
  rw [(hwords.sublist hrun).splitWords_join] at h
  rw [hwords.splitWords_join]
  split at h
  · have hmem := of_decide_eq_true h
    exact decide_eq_true (hrun.subset hmem)
  · by_cases hne : run = []
    · have hlength := (of_decide_eq_true h).length_le
      rw [hne] at hlength
      have hpos := List.length_pos_of_ne_nil hphrase
      simp [Text.join] at hlength
      contradiction
    · have hcontains := contains_of_infix hne hrun
      exact decide_eq_true ((of_decide_eq_true h).trans (of_decide_eq_true hcontains))

/-- A compact fragment in a part of the words is one in the words. -/
lemma compactFragmentInText_mono (hwords : AreWords words) (hrun : run <:+: words) {fragment : Text}
    (h : compactFragmentInText fragment (Text.join [' '] run) = true) :
    compactFragmentInText fragment (Text.join [' '] words) = true := by
  have hpart := hwords.sublist hrun
  unfold compactFragmentInText at h ⊢
  rw [hpart.splitWords_join, hpart.compact_join, Bool.or_eq_true, Bool.and_eq_true] at h
  rw [hwords.splitWords_join, hwords.compact_join, Bool.or_eq_true, Bool.and_eq_true]
  rcases h with h | ⟨hsignal, h⟩
  · obtain ⟨size, hsize, h⟩ := List.any_eq_true.1 h
    obtain ⟨window, hwindow, h⟩ := List.any_eq_true.1 h
    obtain ⟨hin, hlength⟩ := mem_windows.1 hwindow
    have hle := hrun.length_le
    have hsize' : size ∈ List.range' 1 (min 4 words.length) := by
      rw [List.mem_range'_1] at hsize ⊢
      omega
    exact .inl (List.any_eq_true.2 ⟨size, hsize',
      List.any_eq_true.2 ⟨window, mem_windows.2 ⟨hin.trans hrun, hlength⟩, h⟩⟩)
  · obtain ⟨before, after, rfl⟩ := hrun
    have hflatten : run.flatten <:+: (before ++ run ++ after).flatten :=
      ⟨before.flatten, after.flatten, by simp⟩
    exact .inr ⟨hsignal, decide_eq_true ((of_decide_eq_true h).trans hflatten)⟩

/-- A fragment that overlaps a part of the words overlaps the words. -/
lemma fragmentOverlapsText_mono (hwords : AreWords words) (hrun : run <:+: words)
    {memory fragment : Text}
    (h : fragmentOverlapsText memory (Text.join [' '] run) fragment = true) :
    fragmentOverlapsText memory (Text.join [' '] words) fragment = true := by
  have hcompact : ∀ t, compactFragmentInText t (Text.join [' '] run) = true →
      compactFragmentInText t (Text.join [' '] words) = true :=
    fun _ => compactFragmentInText_mono hwords hrun
  unfold fragmentOverlapsText at h ⊢
  dsimp only at h ⊢
  split at h
  · rename_i hblank
    have hne : fragment ≠ [] := List.ne_nil_of_mem hblank
    rw [if_pos hblank]
    rw [Bool.or_eq_true, Bool.and_eq_true, Bool.and_eq_true] at h ⊢
    rcases h with ⟨hsignal, h⟩ | ⟨hsignal, h⟩
    · exact .inl ⟨hsignal, normalizedPhraseInText_mono hwords hrun hne h⟩
    · exact .inr ⟨hsignal, hcompact _ h⟩
  · rename_i hblank
    rw [if_neg hblank]
    rw [(hwords.sublist hrun).splitWords_join, Bool.or_eq_true, Bool.and_eq_true,
      decide_eq_true_eq] at h
    rw [hwords.splitWords_join, Bool.or_eq_true, Bool.and_eq_true, decide_eq_true_eq]
    rcases h with h | ⟨hmixed, h⟩
    · exact .inl (hrun.subset h)
    · exact .inr ⟨hmixed, hcompact _ h⟩

/-- A token of the body that overlaps a part of the words overlaps the words. -/
lemma rawTokenOverlapsText_mono (hwords : AreWords words) (hrun : run <:+: words) {rawToken : Text}
    (h : rawTokenOverlapsText (Text.join [' '] run) rawToken = true) :
    rawTokenOverlapsText (Text.join [' '] words) rawToken = true := by
  unfold rawTokenOverlapsText at h ⊢
  split at h
  · contradiction
  · rw [Bool.and_eq_true] at h ⊢
    exact ⟨h.1, compactFragmentInText_mono hwords hrun h.2⟩

/-- An exact body that is meaningful is not empty. -/
lemma ne_nil_of_exactMemoryBodyIsMeaningful {normalized : Text}
    (h : exactMemoryBodyIsMeaningful normalized = true) : normalized ≠ [] := by
  rintro rfl
  have hfalse : exactMemoryBodyIsMeaningful [] = false := by decide +kernel
  rw [hfalse] at h
  contradiction

/-- What is repeated in a part of the words is repeated in the words. -/
lemma memoryBodyOverlapsWords_mono (hwords : AreWords words) (hrun : run <:+: words) {body : Text}
    (h : memoryBodyOverlapsWords body run = true) : memoryBodyOverlapsWords body words = true := by
  unfold memoryBodyOverlapsWords at h ⊢
  dsimp only at h ⊢
  rw [Bool.and_eq_true, Bool.or_eq_true, Bool.or_eq_true, Bool.and_eq_true] at h ⊢
  obtain ⟨hbody, h⟩ := h
  refine ⟨hbody, ?_⟩
  rcases h with (⟨hexact, h⟩ | h) | h
  · have hne := ne_nil_of_exactMemoryBodyIsMeaningful hexact
    exact .inl (.inl ⟨hexact, normalizedPhraseInText_mono hwords hrun hne h⟩)
  · obtain ⟨rawToken, hmem, h⟩ := List.any_eq_true.1 h
    exact .inl (.inr (List.any_eq_true.2 ⟨rawToken, hmem, rawTokenOverlapsText_mono hwords hrun h⟩))
  · obtain ⟨fragment, hmem, h⟩ := List.any_eq_true.1 h
    exact .inr (List.any_eq_true.2 ⟨fragment, hmem, fragmentOverlapsText_mono hwords hrun h⟩)

end Monotone

/-- No compact fragment is in an empty text. -/
lemma compactFragmentInText_nil (fragment : Text) : compactFragmentInText fragment [] = false := by
  rw [← Bool.not_eq_true]
  intro h
  unfold compactFragmentInText at h
  rw [Bool.or_eq_true, Bool.and_eq_true] at h
  rcases h with h | ⟨hsignal, h⟩
  · simp [Text.splitWords, Text.runs] at h
  · have hnil : fragment = [] := by simpa [Text.contains, compact] using h
    rw [hnil] at hsignal
    exact absurd hsignal (by decide +kernel)

/-- No phrase is in an empty text. -/
lemma normalizedPhraseInText_nil {phrase : Text} (hphrase : phrase ≠ []) :
    normalizedPhraseInText phrase [] = false := by
  rw [← Bool.not_eq_true]
  intro h
  unfold normalizedPhraseInText at h
  split at h
  · simp [Text.splitWords, Text.runs] at h
  · have hlength := (of_decide_eq_true h).length_le
    have hpos := List.length_pos_of_ne_nil hphrase
    simp at hlength
    contradiction

/-- Nothing is repeated without words. -/
lemma memoryBodyOverlapsWords_nil (body : Text) : memoryBodyOverlapsWords body [] = false := by
  rw [← Bool.not_eq_true]
  intro h
  have hjoin : Text.join [' '] [] = [] := rfl
  unfold memoryBodyOverlapsWords at h
  dsimp only at h
  rw [hjoin, Bool.and_eq_true, Bool.or_eq_true, Bool.or_eq_true, Bool.and_eq_true] at h
  rcases h.2 with (⟨hexact, h⟩ | h) | h
  · have hne := ne_nil_of_exactMemoryBodyIsMeaningful hexact
    rw [normalizedPhraseInText_nil hne] at h
    contradiction
  · obtain ⟨rawToken, -, h⟩ := List.any_eq_true.1 h
    unfold rawTokenOverlapsText at h
    split at h
    · contradiction
    · rw [compactFragmentInText_nil, Bool.and_false] at h
      contradiction
  · obtain ⟨fragment, -, h⟩ := List.any_eq_true.1 h
    unfold fragmentOverlapsText at h
    dsimp only at h
    split at h
    · rename_i hblank
      rw [normalizedPhraseInText_nil (List.ne_nil_of_mem hblank), compactFragmentInText_nil] at h
      simp at h
    · rw [compactFragmentInText_nil] at h
      simp [Text.splitWords, Text.runs] at h

/-! ## The preview -/

/-- The exceptions of the preview, with their messages. -/
inductive RenderException
  | redactionPolicyError (message : Text)
  | renderError (message : Text)
  | raised (error : PyError)
  deriving DecidableEq

/-- Raise a `RenderError` unless the condition holds. -/
def requireRender (c : Prop) [Decidable c] (message : Text) : Except RenderException Unit :=
  if c then .ok () else .error (.renderError message)

/-- An exception of the posting module goes through. -/
def raising {α : Type} : Result α → Except RenderException α
  | .ok a => .ok a
  | .error e => .error (.raised e)

/-- `_RenderContext`. -/
structure RenderContext where
  redacted : Bool
  replacementCount : ℤ
  categories : List Text
  candidatePayloadStatusAbsorbed : Bool

namespace RenderContext

/-- `_RenderContext.redact`. -/
def redact (context : RenderContext) (value : Text) : Text × RenderContext :=
  let result := redactText value
  (result.text,
    { context with
      redacted := context.redacted || result.redacted
      replacementCount := context.replacementCount + result.replacementCount
      categories := context.categories ++ result.categories.map RedactionCategory.value })

/-- A value is redacted as a text. -/
@[simp] lemma redact_fst (context : RenderContext) (value : Text) :
    (context.redact value).1 = (redactText value).text := by
  unfold redact
  dsimp only

/-- Redact the texts of a list, one after the other. -/
def redactAll (context : RenderContext) : List Text → List Text × RenderContext
  | [] => ([], context)
  | value :: values =>
    let (text, context) := context.redact value
    let (texts, context) := context.redactAll values
    (text :: texts, context)

/-- `_RenderContext.absorb_candidate_payload_status`. -/
def absorbCandidatePayloadStatus (context : RenderContext) (status : RedactionStatus) :
    RenderContext :=
  if context.candidatePayloadStatusAbsorbed then context
  else {
    redacted := context.redacted || status.redacted
    replacementCount := context.replacementCount + status.replacementCount
    categories := context.categories ++ status.categories
    candidatePayloadStatusAbsorbed := true }

end RenderContext

/-- The fields of `_review_target_json`. -/
def reviewTargetJson (target : ReviewTarget) (context : RenderContext) :
    ReviewTarget × RenderContext :=
  let (ownerRepo, context) := context.redact target.ownerRepo
  let (baseSha, context) := context.redact target.baseSha
  let (headSha, context) := context.redact target.headSha
  let (mergeBaseSha, context) := mergeBase context
  let (diffBasis, context) := context.redact target.diffBasis
  (⟨ownerRepo, target.prNumber, baseSha, headSha, mergeBaseSha, diffBasis⟩, context)
where
  /-- The merge base, if there is one. -/
  mergeBase (context : RenderContext) : Option Text × RenderContext :=
    match target.mergeBaseSha with
    | none => (none, context)
    | some sha =>
      if sha = [] then (none, context)
      else
        let (text, context) := context.redact sha
        (some text, context)

/-- The fields of the preview of a candidate payload. -/
structure CandidatePreview where
  artifactKind : Text
  reviewTarget : ReviewTarget
  body : Text
  visibleBodyHash : Text
  findingsHash : Text
  itemFingerprints : List Text
  redacted : Bool
  replacementCount : ℤ
  categories : List Text

/-- `_validate_candidate_payload_binding`. -/
def validateCandidatePayloadBinding (candidatePayload : Checked CandidateIssueCommentPayload)
    (reviewTarget : Checked ReviewTarget) (postingPlan : Option (Checked PostingPlan))
    (findings : List (Checked ClassifiedFinding)) : Except RenderException Unit := do
  let payload := candidatePayload.val
  requireRender (payload.reviewTarget = reviewTarget)
    "candidate payload target does not match rendered review target"
  requireRender (payload.visibleBodyHash = visibleBodyHash payload.body)
    "candidate payload visible body hash does not match body"
  let expectedHash ← raising (postingFindingsHash payload.itemFingerprints)
  requireRender (payload.findingsHash = expectedHash)
    "candidate payload findings hash does not match item fingerprints"
  match postingPlan with
  | none => .error (.renderError "candidate payload requires a posting plan")
  | some plan => do
    let items := plan.val.publicPayloadItems.map Subtype.val
    requireRender (∀ item ∈ items, item.id ≠ "summary" → item.fingerprint ≠ none)
      "public payload item is missing a fingerprint"
    requireRender (Text.sorted (items.filterMap PostingPlanItem.fingerprint) =
      payload.itemFingerprints)
      "candidate payload item fingerprints do not match posting plan"
    let expectedPayload ← raising (buildCandidateIssueCommentPayload reviewTarget plan findings none
      false ArtifactKind.issueComment.value)
    requireRender (candidatePayload = expectedPayload)
      "candidate payload does not match current rendered findings"

/-- `_is_unsafe_memory`. -/
def isUnsafeMemory (memory : MemoryReference) : Bool := !memory.actionable

/-- The findings of the public items of a plan. -/
def publicFindings (plan : PostingPlan) (findings : List (Checked ClassifiedFinding)) :
    List (Checked ClassifiedFinding) :=
  plan.publicPayloadItems.filterMap fun item : Checked PostingPlanItem =>
    if item.val.id = ("summary" : Text) then none else findingById findings item.val.id

/-- `_public_finding_text`. -/
def publicFindingText (postingPlan : Option (Checked PostingPlan))
    (findings : List (Checked ClassifiedFinding)) : Text :=
  match postingPlan with
  | none => []
  | some plan =>
    Text.unlines ((publicFindings plan.val findings).flatMap fun f => [f.val.title, f.val.body])

/-- The message about a passive comment. -/
def untrustedMemoryMessage (id : Text) : Text :=
  "candidate payload contains untrusted memory body: " ++ id

/-- The round of the loop of `_candidate_payload_preview` for one comment. -/
def checkMemory (publicText : Text) (memory : Checked MemoryReference) :
    Except RenderException Unit :=
  requireRender
    (isUnsafeMemory memory.val = true → memoryBodyOverlapsText memory.val.body publicText = false)
    (untrustedMemoryMessage memory.val.id)

/-- `require_passing_redaction_status`. -/
def requirePassingRedactionStatus (status : RedactionStatus) (surface : Text) :
    Except RenderException Unit :=
  if status.status = .pass then .ok ()
  else .error (.redactionPolicyError
    (surface ++ " redaction status must pass before payload validation"))

/-- The end of `_candidate_payload_preview`. -/
def renderPreview (payload : CandidateIssueCommentPayload) (body : Text) (context : RenderContext) :
    Except RenderException (Option CandidatePreview × RenderContext) := do
  let status := payload.redactionStatus.val
  let (itemFingerprints, context) := context.redactAll payload.itemFingerprints
  requireRender (itemFingerprints = payload.itemFingerprints)
    "candidate payload item fingerprints require redaction after hash binding"
  let context := context.absorbCandidatePayloadStatus status
  let (target, context) := reviewTargetJson payload.reviewTarget.val context
  return (some {
    artifactKind := payload.artifactKind.value
    reviewTarget := target
    body
    visibleBodyHash := payload.visibleBodyHash
    findingsHash := payload.findingsHash
    itemFingerprints
    redacted := status.redacted
    replacementCount := status.replacementCount
    categories := status.categories }, context)

/-- `_candidate_payload_preview`. -/
def candidatePayloadPreview (candidatePayload : Option (Checked CandidateIssueCommentPayload))
    (reviewTarget : Checked ReviewTarget) (postingPlan : Option (Checked PostingPlan))
    (findings : List (Checked ClassifiedFinding))
    (memoryReferences : List (Checked MemoryReference))
    (context : RenderContext) : Except RenderException (Option CandidatePreview × RenderContext) :=
  match candidatePayload with
  | none => .ok (none, context)
  | some candidatePayload => do
    let payload := candidatePayload.val
    requirePassingRedactionStatus payload.redactionStatus.val "candidate_payload"
    validateCandidatePayloadBinding candidatePayload reviewTarget postingPlan findings
    let body := context.redact payload.body
    requireRender (body.1 = payload.body) "candidate payload requires redaction after hash binding"
    memoryReferences.forM (checkMemory (publicFindingText postingPlan findings))
    renderPreview payload body.1 body.2

/-! ## Which exceptions are about memory -/

/-- The exception says that passive memory is published. -/
def RenderException.IsUntrustedMemory (e : RenderException) : Prop :=
  ∃ id, e = .renderError (untrustedMemoryMessage id)

/-- A sequence fails if its first or its second part does. -/
lemma bind_eq_error {ε α β : Type} {x : Except ε α} {f : α → Except ε β} {e : ε} :
    (x >>= f) = .error e ↔ x = .error e ∨ ∃ a, x = .ok a ∧ f a = .error e := by
  cases x with
  | error e' => simp [bind, Except.bind]
  | ok a => simp [bind, Except.bind]

/-- A first part that succeeds is passed on. -/
lemma ok_bind_eq {ε α β : Type} (a : α) (f : α → Except ε β) : ((.ok a : Except ε α) >>= f) = f a :=
  rfl

/-- A check with another message is not about memory. -/
lemma not_isUntrustedMemory_of_requireRender {c : Prop} [Decidable c] {message : Text}
    (hmessage : message.startsWith (untrustedMemoryMessage []) = false) {e : RenderException}
    (h : requireRender c message = .error e) : ¬ e.IsUntrustedMemory := by
  rintro ⟨id, rfl⟩
  unfold requireRender at h
  split at h
  · contradiction
  · have hsame := RenderException.renderError.inj (Except.error.inj h)
    have hprefix : untrustedMemoryMessage [] <+: message := by
      rw [hsame]
      exact ⟨id, by simp [untrustedMemoryMessage]⟩
    rw [Text.startsWith_iff.2 hprefix] at hmessage
    contradiction

/-- A check of the renderer passes exactly if its condition holds. -/
@[simp] lemma requireRender_eq_ok {c : Prop} [Decidable c] {message : Text} :
    requireRender c message = .ok () ↔ c := by
  unfold requireRender
  split <;> simp_all

/-- A redaction status passes exactly if it says so. -/
@[simp] lemma requirePassingRedactionStatus_eq_ok {status : RedactionStatus} {surface : Text} :
    requirePassingRedactionStatus status surface = .ok () ↔ status.status = .pass := by
  unfold requirePassingRedactionStatus
  split <;> simp_all

/-- The check of the redaction status says nothing about memory. -/
lemma not_isUntrustedMemory_of_status {status : RedactionStatus} {surface : Text}
    {e : RenderException} (h : requirePassingRedactionStatus status surface = .error e) :
    ¬ e.IsUntrustedMemory := by
  rintro ⟨id, rfl⟩
  unfold requirePassingRedactionStatus at h
  split at h
  · contradiction
  · have hsame := Except.error.inj h
    contradiction

/-- An exception of the posting module is not about memory. -/
lemma not_isUntrustedMemory_of_raising {α : Type} {x : Result α} {e : RenderException}
    (h : raising x = .error e) : ¬ e.IsUntrustedMemory := by
  rintro ⟨id, rfl⟩
  unfold raising at h
  split at h
  · contradiction
  · have hsame := Except.error.inj h
    contradiction

/-- The checks of the binding say nothing about memory. -/
lemma not_isUntrustedMemory_of_binding {payload : Checked CandidateIssueCommentPayload}
    {target : Checked ReviewTarget} {plan : Option (Checked PostingPlan)}
    {findings : List (Checked ClassifiedFinding)} {e : RenderException}
    (h : validateCandidatePayloadBinding payload target plan findings = .error e) :
    ¬ e.IsUntrustedMemory := by
  unfold validateCandidatePayloadBinding at h
  rcases bind_eq_error.1 h with h | ⟨-, -, h⟩
  · exact not_isUntrustedMemory_of_requireRender (by decide +kernel) h
  rcases bind_eq_error.1 h with h | ⟨-, -, h⟩
  · exact not_isUntrustedMemory_of_requireRender (by decide +kernel) h
  rcases bind_eq_error.1 h with h | ⟨expectedHash, -, h⟩
  · exact not_isUntrustedMemory_of_raising h
  rcases bind_eq_error.1 h with h | ⟨-, -, h⟩
  · exact not_isUntrustedMemory_of_requireRender (by decide +kernel) h
  cases plan with
  | none =>
    have hmissing : requireRender False "candidate payload requires a posting plan" = .error e := h
    exact not_isUntrustedMemory_of_requireRender (by decide +kernel) hmissing
  | some plan =>
    rcases bind_eq_error.1 h with h | ⟨-, -, h⟩
    · exact not_isUntrustedMemory_of_requireRender (by decide +kernel) h
    rcases bind_eq_error.1 h with h | ⟨-, -, h⟩
    · exact not_isUntrustedMemory_of_requireRender (by decide +kernel) h
    rcases bind_eq_error.1 h with h | ⟨expectedPayload, -, h⟩
    · exact not_isUntrustedMemory_of_raising h
    · exact not_isUntrustedMemory_of_requireRender (by decide +kernel) h

/-- The end of the preview says nothing about memory. -/
lemma not_isUntrustedMemory_of_renderPreview {payload : CandidateIssueCommentPayload} {body : Text}
    {context : RenderContext} {e : RenderException}
    (h : renderPreview payload body context = .error e) : ¬ e.IsUntrustedMemory := by
  unfold renderPreview at h
  rcases bind_eq_error.1 h with h | ⟨-, -, h⟩
  · exact not_isUntrustedMemory_of_requireRender (by decide +kernel) h
  · contradiction

/-- A comment stops the preview if it is passive and overlaps the published text. -/
lemma checkMemory_cases (publicText : Text) (memory : Checked MemoryReference) :
    ((memory.val.actionable = false → memoryBodyOverlapsText memory.val.body publicText = false) ∧
        checkMemory publicText memory = .ok ()) ∨
      (memory.val.actionable = false ∧ memoryBodyOverlapsText memory.val.body publicText = true ∧
        checkMemory publicText memory = .error
          (.renderError (untrustedMemoryMessage memory.val.id))) := by
  unfold checkMemory requireRender isUnsafeMemory
  split
  · rename_i hsafe
    rw [Bool.not_eq_true'] at hsafe
    exact .inl ⟨hsafe, rfl⟩
  · rename_i hpassive
    rw [Bool.not_eq_true', Classical.not_imp, Bool.not_eq_false] at hpassive
    exact .inr ⟨hpassive.1, hpassive.2, rfl⟩

/-- The loop over the comments stops exactly for a passive comment that overlaps the published
text. -/
lemma forM_checkMemory_iff {publicText : Text} {memory : List (Checked MemoryReference)} :
    (∃ e, memory.forM (checkMemory publicText) = .error e ∧ e.IsUntrustedMemory) ↔
      ∃ m ∈ memory, m.val.actionable = false ∧
        memoryBodyOverlapsText m.val.body publicText = true := by
  induction memory with
  | nil =>
    constructor
    · rintro ⟨e, he, -⟩
      contradiction
    · rintro ⟨m, hm, -⟩
      cases hm
  | cons m ms ih =>
    have hcons : (m :: ms).forM (checkMemory publicText) =
        (do checkMemory publicText m; ms.forM (checkMemory publicText)) := rfl
    rw [hcons]
    rcases checkMemory_cases publicText m with ⟨hsafe, hcheck⟩ | ⟨hpassive, hoverlap, hcheck⟩
    · have hskip : (do checkMemory publicText m; ms.forM (checkMemory publicText)) =
          ms.forM (checkMemory publicText) := by
        rw [hcheck]
        rfl
      rw [hskip, ih]
      constructor
      · rintro ⟨m', hm', hfound⟩
        exact ⟨m', List.mem_cons_of_mem _ hm', hfound⟩
      · rintro ⟨m', hm', hpassive, hoverlap⟩
        rcases List.mem_cons.1 hm' with rfl | hm'
        · rw [hsafe hpassive] at hoverlap
          contradiction
        · exact ⟨m', hm', hpassive, hoverlap⟩
    · constructor
      · rintro -
        exact ⟨m, List.mem_cons_self, hpassive, hoverlap⟩
      · rintro -
        refine ⟨_, ?_, m.val.id, rfl⟩
        rw [hcheck]
        rfl

/-- The checks of the preview in front of the loop over the comments. -/
structure PreviewReachesMemory (payload : Checked CandidateIssueCommentPayload)
    (target : Checked ReviewTarget) (plan : Option (Checked PostingPlan))
    (findings : List (Checked ClassifiedFinding)) : Prop where
  /-- The redaction has passed. -/
  status : payload.val.redactionStatus.val.status = .pass
  /-- The payload is the one of the plan and the findings. -/
  binding : validateCandidatePayloadBinding payload target plan findings = .ok ()
  /-- Nothing is left to redact. -/
  redacted : (redactText payload.val.body).text = payload.val.body

/-- The preview says that passive memory is published exactly if it reaches the loop over the
comments and one of them is passive and overlaps the published text. -/
lemma candidatePayloadPreview_untrusted_iff {payload : Checked CandidateIssueCommentPayload}
    {target : Checked ReviewTarget} {plan : Option (Checked PostingPlan)}
    {findings : List (Checked ClassifiedFinding)} {memory : List (Checked MemoryReference)}
    {context : RenderContext} :
    (∃ e, candidatePayloadPreview (some payload) target plan findings memory context = .error e ∧
        e.IsUntrustedMemory) ↔
      PreviewReachesMemory payload target plan findings ∧ ∃ m ∈ memory, m.val.actionable = false ∧
        memoryBodyOverlapsText m.val.body (publicFindingText plan findings) = true := by
  rw [← forM_checkMemory_iff]
  unfold candidatePayloadPreview
  constructor
  · rintro ⟨e, he, huntrusted⟩
    rcases bind_eq_error.1 he with he | ⟨_, hstatus, he⟩
    · exact absurd huntrusted (not_isUntrustedMemory_of_status he)
    rcases bind_eq_error.1 he with he | ⟨_, hbinding, he⟩
    · exact absurd huntrusted (not_isUntrustedMemory_of_binding he)
    rcases bind_eq_error.1 he with he | ⟨_, hredacted, he⟩
    · exact absurd huntrusted (not_isUntrustedMemory_of_requireRender (by decide +kernel) he)
    rcases bind_eq_error.1 he with he | ⟨-, -, he⟩
    · have hbody := requireRender_eq_ok.1 hredacted
      rw [RenderContext.redact_fst] at hbody
      exact ⟨⟨requirePassingRedactionStatus_eq_ok.1 hstatus, hbinding, hbody⟩, e, he, huntrusted⟩
    · exact absurd huntrusted (not_isUntrustedMemory_of_renderPreview he)
  · rintro ⟨hreaches, e, he, huntrusted⟩
    have hstatus : requirePassingRedactionStatus payload.val.redactionStatus.val
        "candidate_payload" =
        .ok () := requirePassingRedactionStatus_eq_ok.2 hreaches.status
    have hredacted : requireRender ((context.redact payload.val.body).1 = payload.val.body)
        "candidate payload requires redaction after hash binding" = .ok () := by
      rw [requireRender_eq_ok, RenderContext.redact_fst]
      exact hreaches.redacted
    refine ⟨e, ?_, huntrusted⟩
    dsimp only
    rw [hstatus, ok_bind_eq, hreaches.binding, ok_bind_eq, hredacted, ok_bind_eq]
    exact bind_eq_error.2 (.inl he)

/-! ## Words of several findings -/

/-- The published words of a finding. -/
def findingWords (finding : Checked ClassifiedFinding) : List Text :=
  memoryWords finding.val.title ++ memoryWords finding.val.body

/-- The words of the published text are those of the public findings. -/
lemma memoryWords_publicFindingText (plan : Checked PostingPlan)
    (findings : List (Checked ClassifiedFinding)) :
    memoryWords (publicFindingText (some plan) findings) =
      (publicFindings plan.val findings).flatMap findingWords := by
  unfold publicFindingText
  dsimp only
  rw [memoryWords_unlines, List.flatMap_assoc]
  refine List.flatMap_congr fun finding _ => ?_
  simp [findingWords]

/-- A shortest run of the published words that repeats a body, and that no single finding
contains. -/
structure StraddlingRun (body : Text) (published : List (Checked ClassifiedFinding))
    (run : List Text) : Prop where
  /-- The run is published. -/
  within : run <:+: published.flatMap findingWords
  /-- The run repeats the body, and no shorter one at its place does. -/
  shortest : List.ShortestRun (fun words => memoryBodyOverlapsWords body words = true) run
  /-- The run begins in one finding and ends in another. -/
  straddles : ∀ finding ∈ published, ¬ run <:+: findingWords finding

/-- The public findings are among the findings. -/
lemma mem_of_mem_publicFindings {plan : PostingPlan} {findings : List (Checked ClassifiedFinding)}
    {finding : Checked ClassifiedFinding} (h : finding ∈ publicFindings plan findings) :
    finding ∈ findings := by
  obtain ⟨item, -, hitem⟩ := List.mem_filterMap.1 h
  split at hitem
  · contradiction
  · exact (findingById_eq_some hitem).1

/-- A finding that the gate lets through repeats no passive body. -/
lemma not_overlaps_of_classified {args : QualityArguments} {q : QualityClassificationResult}
    (hq : classifyReviewQuality args = .ok q) {finding : Checked ClassifiedFinding}
    (hfinding : finding ∈ q.findings) {m : Checked MemoryReference} (hm : m ∈ args.memoryReferences)
    (hpassive : m.val.actionable = false) {body : Text} (hbody : m.val.body = some body) :
    memoryBodyOverlapsWords body (findingWords finding) = false := by
  obtain ⟨q', kept, dropped, droppedRequests, hq', hsplit⟩ := classifyReviewQuality_ok args
  obtain rfl : q = q' := Except.ok.inj (hq.symm.trans hq')
  obtain ⟨raw, -, hpasses, hval⟩ := hsplit.classified.exists_of_mem_right hfinding
  have hgate := hpasses.not_overlaps hm hpassive hbody
  rw [memoryBodyOverlapsText_eq_words, memoryWords_unlines] at hgate
  have hwords : findingWords finding <:+:
      [raw.val.title, raw.val.rationale, raw.val.evidence].flatMap memoryWords := by
    unfold findingWords
    rw [hval]
    exact ⟨[], memoryWords raw.val.evidence, by simp [classifiedFields]⟩
  rw [← Bool.not_eq_true] at hgate ⊢
  intro hoverlap
  refine hgate (memoryBodyOverlapsWords_mono ?_ hwords hoverlap)
  rw [← memoryWords_unlines]
  exact areWords_memoryWords _

/-- The published words repeat a body that no finding repeats exactly if a run straddles. -/
lemma overlaps_iff_straddlingRun {body : Text} {plan : Checked PostingPlan}
    {findings : List (Checked ClassifiedFinding)}
    (hsingle : ∀ finding ∈ publicFindings plan.val findings,
      memoryBodyOverlapsWords body (findingWords finding) = false) :
    memoryBodyOverlapsText (some body) (publicFindingText (some plan) findings) = true ↔
      ∃ run, StraddlingRun body (publicFindings plan.val findings) run := by
  have hare : AreWords ((publicFindings plan.val findings).flatMap findingWords) := by
    rw [← memoryWords_publicFindingText]
    exact areWords_memoryWords _
  rw [memoryBodyOverlapsText_eq_words, memoryWords_publicFindingText]
  constructor
  · intro h
    have hnil : ¬ memoryBodyOverlapsWords body [] = true := by
      rw [memoryBodyOverlapsWords_nil]
      exact Bool.false_ne_true
    obtain ⟨run, hrun, hshort⟩ := List.exists_shortestRun
      (P := fun words => memoryBodyOverlapsWords body words = true) hnil h
    refine ⟨run, hrun, hshort, ?_⟩
    intro finding hfinding hin
    have hwords : AreWords (findingWords finding) := by
      refine hare.sublist ?_
      obtain ⟨before, after, hsplit⟩ := List.append_of_mem hfinding
      rw [hsplit]
      exact ⟨before.flatMap findingWords, after.flatMap findingWords, by simp⟩
    have hoverlap := memoryBodyOverlapsWords_mono hwords hin hshort.holds
    rw [hsingle finding hfinding] at hoverlap
    contradiction
  · rintro ⟨run, hrun⟩
    exact memoryBodyOverlapsWords_mono hare hrun.within hrun.shortest.holds

/-- The findings have passed the quality gate against the comments, in any reviews. -/
def AcceptedAgainst (memory : List (Checked MemoryReference))
    (findings : List (Checked ClassifiedFinding)) : Prop :=
  ∀ finding ∈ findings, ∃ args q, args.memoryReferences = memory ∧
    classifyReviewQuality args = .ok q ∧ finding ∈ q.findings

/-- For findings that have passed the quality gate, the preview says that passive memory is
published exactly if it gets as far as the comments and a run of published words that repeats one of
them straddles two findings. -/
theorem candidatePayloadPreview_straddles {memory : List (Checked MemoryReference)}
    {findings : List (Checked ClassifiedFinding)} (haccepted : AcceptedAgainst memory findings)
    (payload : Checked CandidateIssueCommentPayload) (target : Checked ReviewTarget)
    (plan : Checked PostingPlan) (context : RenderContext) :
    (∃ id, candidatePayloadPreview (some payload) target (some plan) findings memory context =
        .error (.renderError (untrustedMemoryMessage id))) ↔
      PreviewReachesMemory payload target (some plan) findings ∧
        ∃ m ∈ memory, m.val.actionable = false ∧ ∃ body, m.val.body = some body ∧
          ∃ run, StraddlingRun body (publicFindings plan.val findings) run := by
  have herror : (∃ id, candidatePayloadPreview (some payload) target (some plan) findings memory
        context = .error (.renderError (untrustedMemoryMessage id))) ↔
      ∃ e, candidatePayloadPreview (some payload) target (some plan) findings memory context =
        .error e ∧ e.IsUntrustedMemory := by
    constructor
    · rintro ⟨id, h⟩
      exact ⟨_, h, id, rfl⟩
    · rintro ⟨e, h, id, rfl⟩
      exact ⟨id, h⟩
  rw [herror, candidatePayloadPreview_untrusted_iff]
  refine and_congr_right fun _ => exists_congr fun m => and_congr_right fun hm =>
    and_congr_right fun hpassive => ?_
  have hsingle : ∀ body, m.val.body = some body → ∀ finding ∈ publicFindings plan.val findings,
      memoryBodyOverlapsWords body (findingWords finding) = false := by
    intro body hbody finding hfinding
    obtain ⟨args, q, rfl, hq, hmem⟩ := haccepted finding (mem_of_mem_publicFindings hfinding)
    exact not_overlaps_of_classified hq hmem hm hpassive hbody
  cases hbody : m.val.body with
  | none =>
    constructor
    · intro h
      contradiction
    · rintro ⟨body, h, -⟩
      contradiction
  | some body =>
    rw [overlaps_iff_straddlingRun (hsingle body hbody)]
    constructor
    · rintro ⟨run, hrun⟩
      exact ⟨body, rfl, run, hrun⟩
    · rintro ⟨body', hsame, run, hrun⟩
      obtain rfl := Option.some.inj hsame
      exact ⟨run, hrun⟩

/-! ## Two findings -/

/-- The fields of the stored comment are valid. -/
lemma bravoMemory_valid :
    Record.postInit { lettersMemory.val with body := some "bravo charlie" } = .ok () := by
  decide +kernel

/-- A comment of two words by an untrusted author. -/
def bravoMemory : Checked MemoryReference := ⟨_, bravoMemory_valid⟩

/-- A finding on the third line of the changed file. -/
def bravoFinding (id title rationale : Text) : RawReviewerFinding where
  id := id
  severity := .warning
  confidence := .high
  path := "src/cache.py"
  line := 3
  title := title
  rationale := rationale
  evidence := "Changed line 3 now drops the flags when the key is empty."
  lineEnd := none
  suggestedFix := none
  evidenceSources := [("diff" : Text)]
  evidenceMemoryIds := []

/-- The fields of both findings are valid. -/
lemma bravoFindings_valid :
    Record.postInit (bravoFinding "f1" "Cache is dropped" "The new branch sets bravo") = .ok () ∧
      Record.postInit (bravoFinding "f2" "Charlie is lost" "The empty case is wrong.") = .ok
        () := by
  decide +kernel

/-- The first finding ends with one word of the comment, the second begins with the other. -/
def bravoArguments : QualityArguments where
  changedFiles := lettersArguments.changedFiles
  reviewerResult := { lettersResult with
    findings := [⟨_, bravoFindings_valid.1⟩, ⟨_, bravoFindings_valid.2⟩] }
  memoryReferences := [bravoMemory]
  omittedFilePaths := []
  omittedMemoryIds := []

/-- The fields of the target are valid. -/
lemma bravoTarget_valid : Record.postInit
    (⟨"owner/repo", 1, "base", "head", none, "merge_base"⟩ : ReviewTarget) = .ok () := by
  decide +kernel

/-- The target of the two findings. -/
def bravoTarget : Checked ReviewTarget := ⟨_, bravoTarget_valid⟩

/-- A context in which nothing has been redacted. -/
def freshRenderContext : RenderContext := ⟨false, 0, [], false⟩

/-- The preview of the accepted findings. -/
def bravoPreview : Result (Except RenderException Unit) := do
  let q ← classifyReviewQuality bravoArguments
  let plan ← buildPostingPlan q.findings (some bravoTarget) [] [] [] [] [] false
  let payload ← buildCandidateIssueCommentPayload bravoTarget plan q.findings none false
    ArtifactKind.issueComment.value
  return (candidatePayloadPreview (some payload) bravoTarget (some plan) q.findings [bravoMemory]
    freshRenderContext).map fun _ => ()

/-- The preview is refused because of the comment. -/
lemma bravoPreview_error : (match bravoPreview with
    | .ok (.error e) => decide (e = .renderError (untrustedMemoryMessage "m1"))
    | _ => false) = true := by
  decide +kernel

/-- Both findings pass the quality gate, and their plan and payload do not pass the preview. -/
lemma bravo_rejected : ∃ q plan payload, classifyReviewQuality bravoArguments = .ok q ∧
    buildPostingPlan q.findings (some bravoTarget) [] [] [] [] [] false = .ok plan ∧
      buildCandidateIssueCommentPayload bravoTarget plan q.findings none false
          ArtifactKind.issueComment.value = .ok payload ∧
        candidatePayloadPreview (some payload) bravoTarget (some plan) q.findings [bravoMemory]
          freshRenderContext = .error (.renderError (untrustedMemoryMessage "m1")) := by
  have hpreview := bravoPreview_error
  split at hpreview
  · rename_i e hok
    obtain ⟨q, hq, hok⟩ := bind_eq_ok.1 hok
    obtain ⟨plan, hplan, hok⟩ := bind_eq_ok.1 hok
    obtain ⟨payload, hpayload, hok⟩ := bind_eq_ok.1 hok
    refine ⟨q, plan, payload, hq, hplan, hpayload, ?_⟩
    have hmap := pure_eq_ok.1 hok
    rw [← of_decide_eq_true hpreview]
    cases hresult : candidatePayloadPreview (some payload) bravoTarget (some plan) q.findings
        [bravoMemory] freshRenderContext with
    | error e' =>
      rw [hresult] at hmap
      rw [Except.error.inj hmap]
    | ok result =>
      rw [hresult] at hmap
      contradiction
  · contradiction

/-- The findings of a review are accepted against its comments. -/
lemma acceptedAgainst_findings {args : QualityArguments} {q : QualityClassificationResult}
    (hq : classifyReviewQuality args = .ok q) :
    AcceptedAgainst args.memoryReferences q.findings :=
  fun _ hfinding => ⟨args, q, rfl, hq, hfinding⟩

/-- The run of the two findings. -/
theorem candidatePayloadPreview_straddles_bravo : ∃ q plan,
    classifyReviewQuality bravoArguments = .ok q ∧
      ∃ m ∈ bravoArguments.memoryReferences, m.val.actionable = false ∧
        ∃ body, m.val.body = some body ∧
          ∃ run, StraddlingRun body (publicFindings plan q.findings) run := by
  obtain ⟨q, plan, payload, hq, -, -, herror⟩ := bravo_rejected
  have hstraddles := (candidatePayloadPreview_straddles (acceptedAgainst_findings hq) payload
      bravoTarget
    plan freshRenderContext).1 ⟨_, herror⟩
  exact ⟨q, plan.val, hq, hstraddles.2⟩

/-- Accepted findings can fail in the preview of the payload that is built from them. -/
theorem candidatePayloadPreview_rejects_accepted :
    ¬ ∀ (memory : List (Checked MemoryReference)) (findings : List (Checked ClassifiedFinding)),
      AcceptedAgainst memory findings →
        ∀ (target : Checked ReviewTarget) (plan : Checked PostingPlan)
        (payload : Checked CandidateIssueCommentPayload),
        buildPostingPlan findings (some target) [] [] [] [] [] false = .ok plan →
        buildCandidateIssueCommentPayload target plan findings none false
            ArtifactKind.issueComment.value = .ok payload →
        ∀ context id, candidatePayloadPreview (some payload) target (some plan) findings memory
          context ≠
          .error (.renderError (untrustedMemoryMessage id)) := by
  intro hall
  obtain ⟨q, plan, payload, hq, hplan, hpayload, herror⟩ := bravo_rejected
  exact hall [bravoMemory] q.findings (acceptedAgainst_findings hq) bravoTarget plan payload hplan
    hpayload freshRenderContext "m1" herror

end ReviewGraph
