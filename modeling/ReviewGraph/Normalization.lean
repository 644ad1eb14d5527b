import ReviewGraph.Models.Reviewers
import ReviewGraph.Foundation.Lists

/-!
# Normalized reviewer outputs

`normalize_reviewer_output` of `findings.py`: the items of a raw output become findings, notes,
requests, replies and suppressed outputs.  An item that sets a field of the graph is suppressed; an
item that is malformed makes the whole output fail.
-/

namespace ReviewGraph

/-! ## Records -/

/-- `ClarificationState`. -/
inductive ClarificationState
  | pending
  | answered
  | inReview
  | resolved
  | rejected
  | timedOut
  deriving DecidableEq, Repr

/-- `ClarificationRequest` with the fields that the quality gate passes on unread. -/
structure SourcedClarificationRequest where
  request : ClarificationRequest
  sourceStage : Option Text
  sourceRunKey : Option (Checked ReviewerRunKey)
  status : Option ClarificationState
  resumeTargetStage : Option ReviewStage
  resumeTargetReviewers : List Text
  deriving DecidableEq

instance : Record SourcedClarificationRequest where
  postInit r := do
    requireNonEmpty r.request.id "clarification request id"
    requireNonEmpty r.request.reviewer "clarification request reviewer"
    requireNonEmpty r.request.question "clarification request question"
    requireNonEmpty r.request.whyItMatters "clarification request why_it_matters"
    requireOptionalNonEmpty r.sourceStage "clarification request source_stage"
    requireStringTuple r.resumeTargetReviewers "clarification request resume_target_reviewers" true
    requireAllowedStrTuple r.request.evidenceSources "clarification request evidence_sources"
      allowedRawFindingEvidenceSources
    requireStringTuple r.request.evidenceMemoryIds "clarification request evidence_memory_ids" true

/-- `NormalizationError`. -/
structure NormalizationError where
  code : Text
  message : Text
  runKey : Checked ReviewerRunKey
  repairable : Bool
  fatal : Bool
  itemId : Option Text
  itemIndex : Option ℕ
  rejectedFields : List Text
  deriving DecidableEq

instance : Record NormalizationError where
  postInit e := do
    requireNonEmpty e.code "normalization error code"
    requireNonEmpty e.message "normalization error message"
    requireOptionalNonEmpty e.itemId "normalization error item_id"
    requireStringTuple e.rejectedFields "normalization error rejected_fields" true

/-- `NormalizationResult`. -/
structure NormalizationResult where
  rawOutput : List (Text × Json)
  runKey : Checked ReviewerRunKey
  findings : List (Checked RawReviewerFinding) := []
  clarificationRequests : List (Checked SourcedClarificationRequest) := []
  localNotes : List (Checked LocalNote) := []
  suggestedReplies : List (Checked SuggestedReply) := []
  suppressedOutputs : List (Checked SuppressedOutput) := []
  errors : List (Checked NormalizationError) := []

/-- `NormalizationResult.fatal_errors`. -/
def NormalizationResult.fatalErrors (r : NormalizationResult) : List (Checked NormalizationError) :=
  r.errors.filter fun e => e.val.fatal

/-! ## Fields that belong to the graph -/

/-- `GRAPH_OWNED_REVIEWER_FIELDS`. -/
def graphOwnedReviewerFields : List Text :=
  ["approved", "blocking", "classification", "destination", "diff_anchor", "final_priority",
    "fingerprint", "github_destination", "github_payload", "posting_destination", "posting_plan",
    "priority", "public_payload_eligible", "review_event", "target_commit_sha", "verdict"]

/-- `RAW_ITEM_GRAPH_OWNED_FIELDS`. -/
def rawItemGraphOwnedFields : List Text :=
  graphOwnedReviewerFields ++ (["reviewer", "resume_target", "resume_target_reviewers",
    "resume_target_stage", "source_run_key", "source_stage", "stage", "status"] : List Text)

/-- The fields of a set that are keys of an item, in order. -/
def ownedFields (owned : List Text) (item : List (Text × Json)) : List Text :=
  Text.sorted (owned.filter (· ∈ item.map Prod.fst))

/-! ## Reading fields -/

/-- `_required_str_value`. -/
def requiredStrValue (item : List (Text × Json)) (field label : Text) : Result Text :=
  match Json.lookup item field with
  | some (.str value) =>
    if value ≠ [] then .ok value
    else .error (.valueError (label ++ ("." ++ (field ++ " is required"))))
  | _ => .error (.valueError (label ++ ("." ++ (field ++ " is required"))))

/-- A non-empty text. -/
def nonEmptyText? : Json → Option Text
  | .str value => if value ≠ [] then some value else none
  | _ => none

/-- `_optional_str_tuple`. -/
def optionalStrTuple (item : List (Text × Json)) (field label : Text) : Result (List Text) :=
  match Json.lookup item field with
  | none => .ok []
  | some (.arr entries) =>
    match entries.mapM nonEmptyText? with
    | some values => .ok values
    | none =>
      .error (.valueError (label ++ ("." ++ (field ++ " must be an array of non-empty strings"))))
  | some _ =>
    .error (.valueError (label ++ ("." ++ (field ++ " must be an array of non-empty strings"))))

/-- `_optional_bool`. -/
def optionalBool (item : List (Text × Json)) (field : Text) (default : Bool) : Result Bool :=
  match Json.lookup item field with
  | none => .ok default
  | some (.bool value) => .ok value
  | some _ => .error (.valueError ("clarification_request." ++ (field ++ " must be a boolean")))

/-- `_optional_item_id`. -/
def optionalItemId (item : List (Text × Json)) : Option Text :=
  (Json.lookup item "id").bind nonEmptyText?

/-- `_required_mapping_str`. -/
def requiredMappingStr (data : List (Text × Json)) (field label : Text) : Result Text :=
  match (Json.lookup data field).bind nonEmptyText? with
  | some value => .ok value
  | none => .error (.valueError (label ++ (" " ++ (field ++ " must be a non-empty string"))))

/-- `_optional_mapping_str`. -/
def optionalMappingStr (data : List (Text × Json)) (field label : Text) : Result (Option Text) :=
  if (Json.lookup data field).isNone then .ok none
  else (requiredMappingStr data field label).map some

/-- `_optional_mapping_str_tuple`. -/
def optionalMappingStrTuple (data : List (Text × Json)) (field label : Text) : Result (List Text) :=
  match Json.lookup data field with
  | none => .ok []
  | some (.arr entries) =>
    match entries.mapM nonEmptyText? with
    | some values => .ok values
    | none =>
      .error (.valueError (label ++ (" " ++ (field ++ " must be an array of non-empty strings"))))
  | some _ =>
    .error (.valueError (label ++ (" " ++ (field ++ " must be an array of non-empty strings"))))

/-! ## Raw findings -/

section Findings

variable (repr : Text → Text)

/-- `Severity(value)`; the message shows the representation of the text. -/
def readSeverity (value : Text) : Result Severity :=
  match ([.critical, .warning, .suggestion, .nit] : List Severity).find? fun s =>
    s.value = value with
  | some severity => .ok severity
  | none => .error (.valueError (repr value ++ " is not a valid Severity"))

/-- `Confidence(value)`. -/
def readConfidence (value : Text) : Result Confidence :=
  match ([.high, .medium, .low] : List Confidence).find? fun c => c.value = value with
  | some confidence => .ok confidence
  | none => .error (.valueError (repr value ++ " is not a valid Confidence"))

/-- The data of `from_mapping`, whose body stands in for a missing rationale. -/
def withRationale (data : List (Text × Json)) : List (Text × Json) :=
  match Json.lookup data "rationale", Json.lookup data "body" with
  | none, some body => data ++ [(("rationale" : Text), body)]
  | _, _ => data

/-- The line of a raw finding. -/
def readLine (data : List (Text × Json)) : Result ℤ :=
  match Json.lookup data "line" with
  | some (.int line) =>
    if 0 < line then .ok line
    else .error (.valueError "raw reviewer finding line must be a positive integer")
  | _ => .error (.valueError "raw reviewer finding line must be a positive integer")

/-- The last line of a raw finding. -/
def readLineEnd (data : List (Text × Json)) (line : ℤ) : Result (Option ℤ) :=
  match Json.lookup data "line_end" with
  | none => .ok none
  | some .null => .ok none
  | some (.int lineEnd) =>
    if line ≤ lineEnd then .ok (some lineEnd)
    else .error (.valueError
      "raw reviewer finding line_end must be an integer greater than or equal to line")
  | some _ => .error (.valueError
      "raw reviewer finding line_end must be an integer greater than or equal to line")

/-- The fields that a raw finding must have. -/
def requiredFindingFields : List Text :=
  ["id", "severity", "confidence", "path", "line", "title", "rationale", "evidence"]

/-- `RawReviewerFinding.from_mapping`. -/
def rawReviewerFindingFromMapping (item : List (Text × Json)) :
    Result (Checked RawReviewerFinding) := do
  let label : Text := "raw reviewer finding"
  require (ownedFields graphOwnedReviewerFields item = [])
    ("raw reviewer finding contains graph-owned fields: " ++
      Text.join ", " (ownedFields graphOwnedReviewerFields item))
  let data := withRationale item
  require (∀ type ∈ (Json.lookup data "type").toList, isFindingType type = true)
    "raw reviewer finding type must be finding"
  requiredFindingFields.forM fun name =>
    require ((Json.lookup data name).isSome = true)
      ("raw reviewer finding " ++ (name ++ " is required"))
  let line ← readLine data
  let lineEnd ← readLineEnd data line
  let id ← requiredMappingStr data "id" label
  let severity ← requiredMappingStr data "severity" label
  let severity ← readSeverity repr severity
  let confidence ← requiredMappingStr data "confidence" label
  let confidence ← readConfidence repr confidence
  let path ← requiredMappingStr data "path" label
  let title ← requiredMappingStr data "title" label
  let rationale ← requiredMappingStr data "rationale" label
  let evidence ← requiredMappingStr data "evidence" label
  let suggestedFix ← optionalMappingStr data "suggested_fix" label
  let evidenceSources ← optionalMappingStrTuple data "evidence_sources" label
  let evidenceMemoryIds ← optionalMappingStrTuple data "evidence_memory_ids" label
  construct {
    id, severity, confidence, path, line, title, rationale, evidence, lineEnd, suggestedFix,
    evidenceSources, evidenceMemoryIds }
where
  /-- The type of the data is one of a finding. -/
  isFindingType : Json → Bool
    | .str type => type ∈ (["finding", "raw_finding"] : List Text)
    | _ => false

/-! ## The other artifacts -/

/-- The note of an item. -/
def readLocalNote (item : List (Text × Json)) : Result (Checked LocalNote) := do
  let id ← requiredStrValue item "id" "local_note"
  let title ← requiredStrValue item "title" "local_note"
  let body ← requiredStrValue item "body" "local_note"
  let evidence ← requiredStrValue item "evidence" "local_note"
  construct { id, title, body, evidence, classification := .localNote }

/-- The request of an item. -/
def readClarificationRequest (runKey : Checked ReviewerRunKey) (item : List (Text × Json)) :
    Result (Checked SourcedClarificationRequest) := do
  let evidenceSources ← optionalStrTuple item "evidence_sources" "clarification_request"
  let evidenceMemoryIds ← optionalStrTuple item "evidence_memory_ids" "clarification_request"
  let id ← requiredStrValue item "id" "clarification_request"
  let question ← requiredStrValue item "question" "clarification_request"
  let whyItMatters ← requiredStrValue item "why_it_matters" "clarification_request"
  let blocksVerdict ← optionalBool item "blocks_verdict" true
  construct {
    request := {
      id, reviewer := runKey.val.reviewer, question, whyItMatters, blocksVerdict, evidenceSources,
      evidenceMemoryIds }
    sourceStage := some runKey.val.stage.value
    sourceRunKey := some runKey
    status := some .pending
    resumeTargetStage := some .clarificationReview
    resumeTargetReviewers := [runKey.val.reviewer] }

/-- The reply of an item. -/
def readSuggestedReply (item : List (Text × Json)) : Result (Checked SuggestedReply) := do
  let id ← requiredStrValue item "id" "suggested_reply"
  let sourceCommentId ← requiredStrValue item "source_comment_id" "suggested_reply"
  let proposedBody ← requiredStrValue item "proposed_body" "suggested_reply"
  construct { id, sourceCommentId, proposedBody }

/-- The suppressed output of an item. -/
def readSuppressedOutput (item : List (Text × Json)) : Result (Checked SuppressedOutput) := do
  let id ← requiredStrValue item "id" "suppressed"
  let reason ← requiredStrValue item "reason" "suppressed"
  construct { id, reason }

/-! ## Items -/

/-- What becomes of an item. -/
inductive ItemOutcome
  | finding (finding : Checked RawReviewerFinding)
  | localNote (note : Checked LocalNote)
  | clarificationRequest (request : Checked SourcedClarificationRequest)
  | suggestedReply (reply : Checked SuggestedReply)
  | suppressed (output : Checked SuppressedOutput)
  | rejected (output : Checked SuppressedOutput) (error : Checked NormalizationError)
  | fatal (error : Checked NormalizationError)
  deriving DecidableEq

/-- The error of `_fatal_result`. -/
def fatalError (runKey : Checked ReviewerRunKey) (code message : Text) (itemId : Option Text)
    (itemIndex : Option ℕ) : Result (Checked NormalizationError) :=
  construct {
    code, message, runKey, repairable := true, fatal := true, itemId, itemIndex, rejectedFields :=
      [] }

/-- `GRAPH_OWNED_SUPPRESSION_REASON`. -/
def graphOwnedSuppressionReason : Text :=
  "Raw reviewer finding attempted to set graph-owned fields and was suppressed."

/-- The identifier of the output in whose place an item is suppressed. -/
def suppressedItemId (item : List (Text × Json)) : Text :=
  (optionalItemId item).elim "suppressed-invalid-raw-item" fun id => "suppressed-" ++ id

/-- `_graph_owned_artifact` of an item with fields of the graph. -/
def rejectItem (runKey : Checked ReviewerRunKey) (index : ℕ) (item : List (Text × Json)) :
    Result ItemOutcome := do
  let fields := ownedFields rawItemGraphOwnedFields item
  let suppressed ← construct { id := suppressedItemId item, reason := graphOwnedSuppressionReason }
  let error ← construct {
    code := "graph_owned_reviewer_fields"
    message := "raw reviewer output item contains graph-owned fields: " ++ Text.join ", " fields
    runKey, repairable := false, fatal := false, itemId := optionalItemId item, itemIndex :=
      some index
    rejectedFields := fields }
  return .rejected suppressed error

/-- One of the builders `_finding`, `_local_note`, `_clarification_request`, `_suggested_reply` and
`_suppressed_output`: items with fields of the graph are rejected, and a `ValueError` is fatal. -/
def buildItem {α : Type} (runKey : Checked ReviewerRunKey) (index : ℕ) (item : List (Text × Json))
    (code : Text) (read : List (Text × Json) → Result α) (artifact : α → ItemOutcome) :
    Result ItemOutcome :=
  if ownedFields rawItemGraphOwnedFields item ≠ [] then rejectItem runKey index item
  else
    match read item with
    | .ok a => .ok (artifact a)
    | .error (.valueError message) =>
      (fatalError runKey code message (optionalItemId item) (some index)).map .fatal
    | .error e => .error e

/-- The round of the loop over the items for one item. -/
def normalizeItem (runKey : Checked ReviewerRunKey) (index : ℕ) (item : Json) :
    Result ItemOutcome :=
  match item with
  | .obj fields =>
    match requiredStrValue fields "type" "raw reviewer output item" with
    | .error (.valueError message) =>
      (fatalError runKey "invalid_type" message (optionalItemId fields) (some index)).map .fatal
    | .error e => .error e
    | .ok itemType =>
      if itemType = "finding" then
        buildItem runKey index fields "invalid_finding" (rawReviewerFindingFromMapping repr)
          .finding
      else if itemType = "local_note" then
        buildItem runKey index fields "invalid_local_note" readLocalNote .localNote
      else if itemType = "clarification_request" then
        buildItem runKey index fields "invalid_clarification_request"
          (readClarificationRequest runKey)
          .clarificationRequest
      else if itemType = "suggested_reply" then
        buildItem runKey index fields "invalid_suggested_reply" readSuggestedReply .suggestedReply
      else if itemType = "suppressed" ∨ itemType = "non_finding" then
        buildItem runKey index fields "invalid_non_finding" readSuppressedOutput .suppressed
      else
        (fatalError runKey "unsupported_item_type"
          ("unsupported raw reviewer output type: " ++ itemType) (optionalItemId fields)
          (some index)).map .fatal
  | _ => (fatalError runKey "invalid_item" "raw reviewer output items must be objects" none
      (some index)).map .fatal

/-! ## Outputs -/

/-- `_fatal_result`. -/
def fatalResult (rawOutput : List (Text × Json)) (runKey : Checked ReviewerRunKey)
    (error : Checked NormalizationError) : NormalizationResult where
  rawOutput := rawOutput
  runKey := runKey
  errors := [error]

/-- The result with one more artifact. -/
def NormalizationResult.add (r : NormalizationResult) : ItemOutcome → NormalizationResult
  | .finding finding => { r with findings := r.findings ++ [finding] }
  | .localNote note => { r with localNotes := r.localNotes ++ [note] }
  | .clarificationRequest request =>
    { r with clarificationRequests := r.clarificationRequests ++ [request] }
  | .suggestedReply reply => { r with suggestedReplies := r.suggestedReplies ++ [reply] }
  | .suppressed output => { r with suppressedOutputs := r.suppressedOutputs ++ [output] }
  | .rejected output error =>
    { r with suppressedOutputs := r.suppressedOutputs ++ [output], errors := r.errors ++ [error] }
  | .fatal error => fatalResult r.rawOutput r.runKey error

/-- The loop over the items from an index on; a fatal item discards what was collected. -/
def normalizeItems (runKey : Checked ReviewerRunKey) :
    ℕ → List Json → NormalizationResult → Result NormalizationResult
  | _, [], r => .ok r
  | index, item :: items, r => do
    match ← normalizeItem repr runKey index item with
    | .fatal error => .ok (fatalResult r.rawOutput r.runKey error)
    | outcome => normalizeItems runKey (index + 1) items (r.add outcome)

/-- `normalize_reviewer_output`. -/
def normalizeReviewerOutput (rawOutput : List (Text × Json)) (runKey : Checked ReviewerRunKey) :
    Result NormalizationResult :=
  match Json.lookup rawOutput "items" with
  | some (.arr items) => normalizeItems repr runKey 0 items { rawOutput, runKey }
  | _ => (fatalError runKey "invalid_items" "fake reviewer output requires an items list" none
      none).map (fatalResult rawOutput runKey)

/-! ## Errors of the readers -/

/-- If the computation raises, then a `ValueError` with a message. -/
def RaisesValueError {α : Type} (x : Result α) : Prop :=
  ∀ e, x = .error e → ∃ message, e = .valueError message ∧ message ≠ []

namespace RaisesValueError

variable {α β : Type}

/-- A value raises nothing. -/
lemma ok (a : α) : RaisesValueError (.ok a : Result α) := fun _ h => by contradiction

/-- A `ValueError` with a message. -/
lemma error {message : Text} (h : message ≠ []) :
    RaisesValueError (.error (.valueError message) : Result α) := fun _ he =>
  ⟨message, (Except.error.inj he).symm, h⟩

/-- A sequence raises what its parts raise. -/
lemma bind {x : Result α} {f : α → Result β} (hx : RaisesValueError x)
    (hf : ∀ a, RaisesValueError (f a)) : RaisesValueError (x >>= f) := by
  cases x with
  | error e =>
    intro e' he'
    exact hx e' (congrArg Except.error (Except.error.inj he'))
  | ok a => exact hf a

/-- A mapped result raises what the result raises. -/
lemma map {x : Result α} (f : α → β) (hx : RaisesValueError x) : RaisesValueError (x.map f) := by
  cases x with
  | error e =>
    intro e' he'
    exact hx e' (congrArg Except.error (Except.error.inj he'))
  | ok a => exact ok (f a)

/-- A check with a message. -/
lemma require {c : Prop} [Decidable c] {message : Text} (h : message ≠ []) :
    RaisesValueError (ReviewGraph.require c message) := by
  unfold ReviewGraph.require
  split
  · exact ok ()
  · exact error h

/-- A constructor raises what its checks raise. -/
lemma construct [Record α] {a : α} (h : RaisesValueError (Record.postInit a)) :
    RaisesValueError (ReviewGraph.construct a) := by
  unfold ReviewGraph.construct
  split
  · exact ok _
  · rename_i e he
    intro e' he'
    exact h e' (he.trans (congrArg Except.error (Except.error.inj he')))

/-- A loop raises what its rounds raise. -/
lemma forM {as : List β} {f : β → Result Unit} (h : ∀ b, RaisesValueError (f b)) :
    RaisesValueError (as.forM f) := by
  induction as with
  | nil => exact ok ()
  | cons a as ih => exact bind (h a) fun _ => ih

end RaisesValueError

/-- A text with an end is not empty. -/
lemma append_ne_nil_of_right {s t : Text} (h : t ≠ []) : s ++ t ≠ [] := by simp [h]

/-- The check of a text. -/
lemma requireNonEmpty_raises (value fieldName : Text) :
    RaisesValueError (requireNonEmpty value fieldName) :=
  .require (append_ne_nil_of_right (by simp [Text.ofString_eq]))

/-- The check of an optional text. -/
lemma requireOptionalNonEmpty_raises (value : Option Text) (fieldName : Text) :
    RaisesValueError (requireOptionalNonEmpty value fieldName) := by
  cases value with
  | none => exact .ok ()
  | some value => exact requireNonEmpty_raises value fieldName

/-- The check of texts. -/
lemma requireStringTuple_raises (value : List Text) (fieldName : Text) (allowEmpty : Bool) :
    RaisesValueError (requireStringTuple value fieldName allowEmpty) :=
  .bind (.require (append_ne_nil_of_right (by simp [Text.ofString_eq]))) fun _ =>
    .require (append_ne_nil_of_right (by simp [Text.ofString_eq]))

/-- The check of allowed texts. -/
lemma requireAllowedStrTuple_raises (value : List Text) (fieldName : Text) (allowed : List Text) :
    RaisesValueError (requireAllowedStrTuple value fieldName allowed) :=
  .bind (requireStringTuple_raises _ _ _) fun _ =>
    .require (by simp [Text.ofString_eq])

/-- Reading a required text. -/
lemma requiredStrValue_raises (item : List (Text × Json)) (field label : Text) :
    RaisesValueError (requiredStrValue item field label) := by
  have hmessage : label ++ (("." : Text) ++ (field ++ (" is required" : Text))) ≠ [] :=
    append_ne_nil_of_right (by simp [Text.ofString_eq])
  unfold requiredStrValue
  split
  · split
    · exact .ok _
    · exact .error hmessage
  · exact .error hmessage

/-- Reading optional texts. -/
lemma optionalStrTuple_raises (item : List (Text × Json)) (field label : Text) :
    RaisesValueError (optionalStrTuple item field label) := by
  have hmessage :
      label ++ (("." : Text) ++
      (field ++ (" must be an array of non-empty strings" : Text))) ≠ [] :=
    append_ne_nil_of_right (by simp [Text.ofString_eq])
  unfold optionalStrTuple
  split
  · exact .ok _
  · split
    · exact .ok _
    · exact .error hmessage
  · exact .error hmessage

/-- Reading an optional truth value. -/
lemma optionalBool_raises (item : List (Text × Json)) (field : Text) (default : Bool) :
    RaisesValueError (optionalBool item field default) := by
  unfold optionalBool
  split
  · exact .ok _
  · exact .ok _
  · exact .error (by simp [Text.ofString_eq])

/-- Reading a required text of a finding. -/
lemma requiredMappingStr_raises (data : List (Text × Json)) (field label : Text) :
    RaisesValueError (requiredMappingStr data field label) := by
  unfold requiredMappingStr
  split
  · exact .ok _
  · exact .error (append_ne_nil_of_right (by simp [Text.ofString_eq]))

/-- Reading an optional text of a finding. -/
lemma optionalMappingStr_raises (data : List (Text × Json)) (field label : Text) :
    RaisesValueError (optionalMappingStr data field label) := by
  unfold optionalMappingStr
  split
  · exact .ok _
  · exact .map _ (requiredMappingStr_raises data field label)

/-- Reading optional texts of a finding. -/
lemma optionalMappingStrTuple_raises (data : List (Text × Json)) (field label : Text) :
    RaisesValueError (optionalMappingStrTuple data field label) := by
  have hmessage :
      label ++ ((" " : Text) ++
      (field ++ (" must be an array of non-empty strings" : Text))) ≠ [] :=
    append_ne_nil_of_right (by simp [Text.ofString_eq])
  unfold optionalMappingStrTuple
  split
  · exact .ok _
  · split
    · exact .ok _
    · exact .error hmessage
  · exact .error hmessage

/-- Reading a severity. -/
lemma readSeverity_raises (value : Text) : RaisesValueError (readSeverity repr value) := by
  unfold readSeverity
  split
  · exact .ok _
  · exact .error (append_ne_nil_of_right (by simp [Text.ofString_eq]))

/-- Reading a confidence. -/
lemma readConfidence_raises (value : Text) : RaisesValueError (readConfidence repr value) := by
  unfold readConfidence
  split
  · exact .ok _
  · exact .error (append_ne_nil_of_right (by simp [Text.ofString_eq]))

/-- Reading a line. -/
lemma readLine_raises (data : List (Text × Json)) : RaisesValueError (readLine data) := by
  unfold readLine
  split
  · split
    · exact .ok _
    · exact .error (by simp [Text.ofString_eq])
  · exact .error (by simp [Text.ofString_eq])

/-- Reading the end of a span. -/
lemma readLineEnd_raises (data : List (Text × Json)) (line : ℤ) :
    RaisesValueError (readLineEnd data line) := by
  unfold readLineEnd
  split
  · exact .ok _
  · exact .ok _
  · split
    · exact .ok _
    · exact .error (by simp [Text.ofString_eq])
  · exact .error (by simp [Text.ofString_eq])

/-- The readers of items raise nothing but a `ValueError`. -/
lemma rawReviewerFindingFromMapping_raises (item : List (Text × Json)) :
    RaisesValueError (rawReviewerFindingFromMapping repr item) := by
  unfold rawReviewerFindingFromMapping
  refine .bind (.require (by simp [Text.ofString_eq])) fun _ => ?_
  refine .bind (.require (by simp [Text.ofString_eq])) fun _ => ?_
  refine .bind (.forM fun _ => .require (by simp [Text.ofString_eq])) fun _ => ?_
  refine .bind (readLine_raises _) fun line => .bind (readLineEnd_raises _ _) fun lineEnd => ?_
  refine .bind (requiredMappingStr_raises _ _ _) fun id => ?_
  refine .bind (requiredMappingStr_raises _ _ _) fun _ =>
    .bind (readSeverity_raises repr _) fun _ => ?_
  refine .bind (requiredMappingStr_raises _ _ _) fun _ =>
    .bind (readConfidence_raises repr _) fun _ => ?_
  refine .bind (requiredMappingStr_raises _ _ _) fun path => ?_
  refine .bind (requiredMappingStr_raises _ _ _) fun title => ?_
  refine .bind (requiredMappingStr_raises _ _ _) fun rationale => ?_
  refine .bind (requiredMappingStr_raises _ _ _) fun evidence => ?_
  refine .bind (optionalMappingStr_raises _ _ _) fun suggestedFix => ?_
  refine .bind (optionalMappingStrTuple_raises _ _ _) fun evidenceSources => ?_
  refine .bind (optionalMappingStrTuple_raises _ _ _) fun evidenceMemoryIds => ?_
  refine .construct ?_
  refine .bind (requireNonEmpty_raises _ _) fun _ => .bind (requireNonEmpty_raises _ _) fun _ => ?_
  refine .bind (requireNonEmpty_raises _ _) fun _ => .bind (requireNonEmpty_raises _ _) fun _ => ?_
  refine .bind (requireNonEmpty_raises _ _) fun _ => ?_
  refine .bind (.require (by simp [Text.ofString_eq])) fun _ => ?_
  refine .bind (.require (by simp [Text.ofString_eq])) fun _ => ?_
  refine .bind (requireOptionalNonEmpty_raises _ _) fun _ => ?_
  exact .bind (requireAllowedStrTuple_raises _ _ _) fun _ => requireStringTuple_raises _ _ _

/-- Reading a note. -/
lemma readLocalNote_raises (item : List (Text × Json)) : RaisesValueError (readLocalNote item) := by
  unfold readLocalNote
  refine .bind (requiredStrValue_raises _ _ _) fun _ =>
    .bind (requiredStrValue_raises _ _ _) fun _ => ?_
  refine .bind (requiredStrValue_raises _ _ _) fun _ =>
    .bind (requiredStrValue_raises _ _ _) fun _ => ?_
  refine .construct ?_
  refine .bind (requireNonEmpty_raises _ _) fun _ => .bind (requireNonEmpty_raises _ _) fun _ => ?_
  refine .bind (requireNonEmpty_raises _ _) fun _ => .bind (requireNonEmpty_raises _ _) fun _ => ?_
  exact .require (by simp [Text.ofString_eq])

/-- Reading a request. -/
lemma readClarificationRequest_raises (runKey : Checked ReviewerRunKey)
    (item : List (Text × Json)) :
    RaisesValueError (readClarificationRequest runKey item) := by
  unfold readClarificationRequest
  refine .bind (optionalStrTuple_raises _ _ _) fun _ =>
    .bind (optionalStrTuple_raises _ _ _) fun _ => ?_
  refine .bind (requiredStrValue_raises _ _ _) fun _ =>
    .bind (requiredStrValue_raises _ _ _) fun _ => ?_
  refine .bind (requiredStrValue_raises _ _ _) fun _ => .bind (optionalBool_raises _ _ _) fun _ =>
    ?_
  refine .construct ?_
  refine .bind (requireNonEmpty_raises _ _) fun _ => .bind (requireNonEmpty_raises _ _) fun _ => ?_
  refine .bind (requireNonEmpty_raises _ _) fun _ => .bind (requireNonEmpty_raises _ _) fun _ => ?_
  refine .bind (requireOptionalNonEmpty_raises _ _) fun _ => ?_
  refine .bind (requireStringTuple_raises _ _ _) fun _ => ?_
  exact .bind (requireAllowedStrTuple_raises _ _ _) fun _ => requireStringTuple_raises _ _ _

/-- Reading a reply. -/
lemma readSuggestedReply_raises (item : List (Text × Json)) :
    RaisesValueError (readSuggestedReply item) := by
  unfold readSuggestedReply
  refine .bind (requiredStrValue_raises _ _ _) fun _ =>
    .bind (requiredStrValue_raises _ _ _) fun _ => ?_
  refine .bind (requiredStrValue_raises _ _ _) fun _ => .construct ?_
  refine .bind (requireNonEmpty_raises _ _) fun _ => .bind (requireNonEmpty_raises _ _) fun _ => ?_
  exact requireNonEmpty_raises _ _

/-- Reading an output that is no finding. -/
lemma readSuppressedOutput_raises (item : List (Text × Json)) :
    RaisesValueError (readSuppressedOutput item) := by
  unfold readSuppressedOutput
  refine .bind (requiredStrValue_raises _ _ _) fun _ =>
    .bind (requiredStrValue_raises _ _ _) fun _ => ?_
  exact .construct (.bind (requireNonEmpty_raises _ _) fun _ => requireNonEmpty_raises _ _)

/-! ## One item -/

/-- The codes of the errors that make a whole output fail. -/
def fatalCodes : List Text :=
  ["invalid_items", "invalid_item", "invalid_type", "unsupported_item_type", "invalid_finding",
    "invalid_local_note", "invalid_clarification_request", "invalid_suggested_reply",
    "invalid_non_finding"]

/-- The error makes a whole output fail, and the output may be repaired. -/
structure MakesFail (e : Checked NormalizationError) : Prop where
  fatal : e.val.fatal = true
  repairable : e.val.repairable = true
  code : e.val.code ∈ fatalCodes

/-- No code is empty. -/
lemma fatalCodes_ne_empty : ∀ code ∈ fatalCodes, code ≠ [] := by
  decide +kernel

/-- A fatal error with a known code can be built. -/
lemma fatalError_ok (runKey : Checked ReviewerRunKey) {code message : Text} {itemId : Option Text}
    (itemIndex : Option ℕ) (hcode : code ∈ fatalCodes) (hmessage : message ≠ [])
    (hid : itemId ≠ some []) :
    ∃ e, fatalError runKey code message itemId itemIndex = .ok e ∧ MakesFail e := by
  have hne := fatalCodes_ne_empty code hcode
  have hpost : Record.postInit ({
      code, message, runKey, repairable := true, fatal := true, itemId, itemIndex,
      rejectedFields := [] } : NormalizationError) = .ok () := by
    simp [Record.postInit, hne, hmessage, hid]
  exact ⟨_, construct_of_postInit hpost, rfl, rfl, hcode⟩

/-- An identifier that is read is not empty. -/
lemma optionalItemId_ne_empty (item : List (Text × Json)) : optionalItemId item ≠ some [] := by
  intro h
  obtain ⟨value, -, hvalue⟩ := Option.bind_eq_some_iff.1 h
  unfold nonEmptyText? at hvalue
  split at hvalue
  · split at hvalue
    · rename_i hne
      exact hne (Option.some.inj hvalue)
    · contradiction
  · contradiction

/-- No field of the graph has an empty name. -/
lemma graphOwnedFields_ne_empty : ∀ field ∈ rawItemGraphOwnedFields, field ≠ [] := by
  decide +kernel

/-- The fields of the graph are distinct. -/
lemma graphOwnedFields_nodup : rawItemGraphOwnedFields.Nodup := by
  decide +kernel

/-- The fields of the graph that an item sets. -/
@[simp] lemma mem_ownedFields {owned : List Text} {item : List (Text × Json)} {key : Text} :
    key ∈ ownedFields owned item ↔ key ∈ owned ∧ key ∈ item.map Prod.fst := by
  simp [ownedFields]

/-- They are distinct. -/
lemma nodup_ownedFields {owned : List Text} (h : owned.Nodup) (item : List (Text × Json)) :
    (ownedFields owned item).Nodup :=
  Text.nodup_sorted.2 (h.filter _)

/-- What an item that is not fatal yields: the artifact of its type if it sets no field of the
graph, and otherwise one suppressed output with an error that names the fields of the graph it
sets. -/
inductive Yields (runKey : Checked ReviewerRunKey) (index : ℕ) : Json → ItemOutcome → Prop
  | finding {fields : List (Text × Json)} {finding : Checked RawReviewerFinding}
      (type : Json.lookup fields "type" = some (.str "finding"))
      (unowned : ∀ key ∈ fields.map Prod.fst, key ∉ rawItemGraphOwnedFields)
      (read : rawReviewerFindingFromMapping repr fields = .ok finding) :
      Yields runKey index (.obj fields) (.finding finding)
  | localNote {fields : List (Text × Json)} {note : Checked LocalNote}
      (type : Json.lookup fields "type" = some (.str "local_note"))
      (unowned : ∀ key ∈ fields.map Prod.fst, key ∉ rawItemGraphOwnedFields)
      (read : readLocalNote fields = .ok note) :
      Yields runKey index (.obj fields) (.localNote note)
  | clarificationRequest {fields : List (Text × Json)}
    {request : Checked SourcedClarificationRequest}
      (type : Json.lookup fields "type" = some (.str "clarification_request"))
      (unowned : ∀ key ∈ fields.map Prod.fst, key ∉ rawItemGraphOwnedFields)
      (read : readClarificationRequest runKey fields = .ok request) :
      Yields runKey index (.obj fields) (.clarificationRequest request)
  | suggestedReply {fields : List (Text × Json)} {reply : Checked SuggestedReply}
      (type : Json.lookup fields "type" = some (.str "suggested_reply"))
      (unowned : ∀ key ∈ fields.map Prod.fst, key ∉ rawItemGraphOwnedFields)
      (read : readSuggestedReply fields = .ok reply) :
      Yields runKey index (.obj fields) (.suggestedReply reply)
  | suppressed {fields : List (Text × Json)} {output : Checked SuppressedOutput}
      (type : Json.lookup fields "type" = some (.str "suppressed") ∨
        Json.lookup fields "type" = some (.str "non_finding"))
      (unowned : ∀ key ∈ fields.map Prod.fst, key ∉ rawItemGraphOwnedFields)
      (read : readSuppressedOutput fields = .ok output) :
      Yields runKey index (.obj fields) (.suppressed output)
  | rejected {fields : List (Text × Json)} {output : Checked SuppressedOutput}
      {error : Checked NormalizationError}
      (owned : ∃ key ∈ fields.map Prod.fst, key ∈ rawItemGraphOwnedFields)
      (id : output.val.id = suppressedItemId fields)
      (nonFatal : error.val.fatal = false)
      (position : error.val.itemIndex = some index)
      (nodup : error.val.rejectedFields.Nodup)
      (named : ∀ key, key ∈ error.val.rejectedFields ↔
        key ∈ rawItemGraphOwnedFields ∧ key ∈ fields.map Prod.fst) :
      Yields runKey index (.obj fields) (.rejected output error)

/-- The outcome of an item is fatal. -/
def ItemOutcome.IsFatal (outcome : ItemOutcome) : Prop := ∃ e, outcome = .fatal e ∧ MakesFail e

/-- What an item yields is no fatal error. -/
lemma Yields.not_fatal {runKey : Checked ReviewerRunKey} {index : ℕ} {item : Json}
    {outcome : ItemOutcome} (h : Yields repr runKey index item outcome)
    (e : Checked NormalizationError) : outcome ≠ .fatal e := by
  cases h <;> exact fun he => by contradiction

/-- A fatal error is an outcome that makes the output fail. -/
lemma map_fatal_ok {x : Result (Checked NormalizationError)} {e : Checked NormalizationError}
    (hx : x = .ok e) (he : MakesFail e) :
    ∃ outcome, x.map ItemOutcome.fatal = .ok outcome ∧ outcome.IsFatal :=
  ⟨.fatal e, congrArg (Except.map ItemOutcome.fatal) hx, e, rfl, he⟩

/-- An item with fields of the graph is suppressed. -/
lemma rejectItem_ok (runKey : Checked ReviewerRunKey) (index : ℕ) {item : List (Text × Json)}
    (howned : ownedFields rawItemGraphOwnedFields item ≠ []) :
    ∃ outcome, rejectItem runKey index item = .ok outcome ∧
      Yields repr runKey index (.obj item) outcome := by
  have hid : suppressedItemId item ≠ [] := by
    unfold suppressedItemId
    cases optionalItemId item <;> simp [Text.ofString_eq]
  have houtput : Record.postInit ({
      id := suppressedItemId item, reason := graphOwnedSuppressionReason } : SuppressedOutput) =
      .ok () := by
    simp [Record.postInit, hid, graphOwnedSuppressionReason, Text.ofString_eq]
  have herror : Record.postInit ({
      code := "graph_owned_reviewer_fields"
      message := "raw reviewer output item contains graph-owned fields: " ++
        Text.join ", " (ownedFields rawItemGraphOwnedFields item)
      runKey, repairable := false, fatal := false, itemId := optionalItemId item
      itemIndex := some index
      rejectedFields := ownedFields rawItemGraphOwnedFields item } : NormalizationError) = .ok
        () := by
    have hfields : ∀ field ∈ ownedFields rawItemGraphOwnedFields item, field ≠ [] :=
        fun field hfield =>
      graphOwnedFields_ne_empty field (mem_ownedFields.1 hfield).1
    simp only [Record.postInit, check_bind_eq_ok, requireNonEmpty_eq_ok,
      requireOptionalNonEmpty_eq_ok, requireStringTuple_eq_ok]
    exact ⟨by
      simp [Text.ofString_eq], by simp [Text.ofString_eq], optionalItemId_ne_empty item, hfields,
      .inl trivial⟩
  obtain ⟨key, hkey⟩ := List.exists_mem_of_ne_nil _ howned
  refine ⟨.rejected ⟨_, houtput⟩ ⟨_, herror⟩, ?_, ?_⟩
  · unfold rejectItem
    rw [construct_of_postInit houtput]
    simp only [ok_bind]
    rw [construct_of_postInit herror]
    rfl
  · refine .rejected ⟨key, (mem_ownedFields.1 hkey).2, (mem_ownedFields.1 hkey).1⟩ rfl rfl rfl ?_ ?_
    · exact nodup_ownedFields graphOwnedFields_nodup item
    · exact fun key => mem_ownedFields

/-- An item without such fields sets none. -/
lemma not_owned_of_ownedFields {item : List (Text × Json)}
    (h : ownedFields rawItemGraphOwnedFields item = []) :
    ∀ key ∈ item.map Prod.fst, key ∉ rawItemGraphOwnedFields := by
  intro key hkey howned
  have hmem := mem_ownedFields.2 ⟨howned, hkey⟩
  rw [h] at hmem
  contradiction

/-- A builder rejects the item, builds its artifact or reports it. -/
lemma buildItem_ok {α : Type} (runKey : Checked ReviewerRunKey) (index : ℕ)
    {item : List (Text × Json)} {code : Text} {read : List (Text × Json) → Result α}
    {artifact : α → ItemOutcome} (hcode : code ∈ fatalCodes) (hread : RaisesValueError (read item))
    (hartifact : (∀ key ∈ item.map Prod.fst, key ∉ rawItemGraphOwnedFields) →
      ∀ a, read item = .ok a → Yields repr runKey index (.obj item) (artifact a)) :
    ∃ outcome, buildItem runKey index item code read artifact = .ok outcome ∧
      (outcome.IsFatal ∨ Yields repr runKey index (.obj item) outcome) := by
  unfold buildItem
  split
  · rename_i howned
    obtain ⟨outcome, hreject, hyields⟩ := rejectItem_ok repr runKey index howned
    exact ⟨outcome, hreject, .inr hyields⟩
  · rename_i howned
    have hunowned := not_owned_of_ownedFields (not_not.1 howned)
    cases hitem : read item with
    | ok a => exact ⟨artifact a, rfl, .inr (hartifact hunowned a hitem)⟩
    | error e =>
      obtain ⟨message, rfl, hmessage⟩ := hread e hitem
      obtain ⟨e, he, hfatal⟩ := fatalError_ok runKey (some index) hcode hmessage
        (optionalItemId_ne_empty item)
      obtain ⟨outcome, houtcome, hfatal⟩ := map_fatal_ok he hfatal
      exact ⟨outcome, houtcome, .inl hfatal⟩

/-- A required text is found and not empty. -/
lemma requiredStrValue_eq_ok {item : List (Text × Json)} {field label value : Text} :
    requiredStrValue item field label = .ok value ↔
      Json.lookup item field = some (.str value) ∧ value ≠ [] := by
  unfold requiredStrValue
  split
  · rename_i v hv
    split
    · grind
    · grind
  · rename_i hne
    constructor
    · intro h
      contradiction
    · intro h
      exact absurd h.1 (hne value)

/-- Every item is reported or yields its artifact; no exception escapes. -/
lemma normalizeItem_ok (runKey : Checked ReviewerRunKey) (index : ℕ) (item : Json) :
    ∃ outcome, normalizeItem repr runKey index item = .ok outcome ∧
      (outcome.IsFatal ∨ Yields repr runKey index item outcome) := by
  have hinvalid : ∃ outcome, (fatalError runKey "invalid_item"
      "raw reviewer output items must be objects" none (some index)).map .fatal = .ok outcome ∧
      (outcome.IsFatal ∨ Yields repr runKey index item outcome) := by
    obtain ⟨e, he, hfatal⟩ := @fatalError_ok runKey _ _ none (some index)
      (show ("invalid_item" : Text) ∈ fatalCodes by simp [fatalCodes])
      (show ("raw reviewer output items must be objects" : Text) ≠ [] by simp [Text.ofString_eq])
      (by simp)
    obtain ⟨outcome, houtcome, hfatal⟩ := map_fatal_ok he hfatal
    exact ⟨outcome, houtcome, .inl hfatal⟩
  cases item with
  | obj fields =>
    unfold normalizeItem
    cases htype : requiredStrValue fields "type" "raw reviewer output item" with
    | error e =>
      simp only [htype]
      obtain ⟨message, rfl, hmessage⟩ := requiredStrValue_raises _ _ _ e htype
      obtain ⟨e, he, hfatal⟩ := fatalError_ok runKey (some index)
        (show ("invalid_type" : Text) ∈ fatalCodes by simp [fatalCodes]) hmessage
        (optionalItemId_ne_empty fields)
      obtain ⟨outcome, houtcome, hfatal⟩ := map_fatal_ok he hfatal
      exact ⟨outcome, houtcome, .inl hfatal⟩
    | ok itemType =>
      have hlookup := (requiredStrValue_eq_ok.1 htype).1
      simp only [htype]
      split_ifs with hfinding hnote hrequest hreply hsuppressed
      · subst hfinding
        exact buildItem_ok repr runKey index (by simp [fatalCodes])
          (rawReviewerFindingFromMapping_raises repr fields) fun howned _ hread =>
            .finding hlookup howned hread
      · subst hnote
        exact buildItem_ok repr runKey index (by simp [fatalCodes])
          (readLocalNote_raises fields) fun howned _ hread => .localNote hlookup howned hread
      · subst hrequest
        exact buildItem_ok repr runKey index (by simp [fatalCodes])
          (readClarificationRequest_raises runKey fields) fun howned _ hread =>
            .clarificationRequest hlookup howned hread
      · subst hreply
        exact buildItem_ok repr runKey index (by simp [fatalCodes])
          (readSuggestedReply_raises fields) fun howned _ hread =>
            .suggestedReply hlookup howned hread
      · refine buildItem_ok repr runKey index (by simp [fatalCodes])
          (readSuppressedOutput_raises fields) fun howned _ hread => .suppressed ?_ howned hread
        obtain rfl | rfl := hsuppressed
        · exact .inl hlookup
        · exact .inr hlookup
      · obtain ⟨e, he, hfatal⟩ := fatalError_ok runKey (some index)
          (show ("unsupported_item_type" : Text) ∈ fatalCodes by simp [fatalCodes])
          (show ("unsupported raw reviewer output type: " : Text) ++ itemType ≠ [] by
            simp [Text.ofString_eq])
          (optionalItemId_ne_empty fields)
        obtain ⟨outcome, houtcome, hfatal⟩ := map_fatal_ok he hfatal
        exact ⟨outcome, houtcome, .inl hfatal⟩
  | null => exact hinvalid
  | bool b => exact hinvalid
  | int n => exact hinvalid
  | float lexeme => exact hinvalid
  | str s => exact hinvalid
  | arr items => exact hinvalid

/-! ## All items -/

/-- The finding of an outcome. -/
def ItemOutcome.finding? : ItemOutcome → Option (Checked RawReviewerFinding)
  | .finding raw => some raw
  | _ => none

/-- The note of an outcome. -/
def ItemOutcome.localNote? : ItemOutcome → Option (Checked LocalNote)
  | .localNote note => some note
  | _ => none

/-- The request of an outcome. -/
def ItemOutcome.clarificationRequest? : ItemOutcome → Option (Checked SourcedClarificationRequest)
  | .clarificationRequest request => some request
  | _ => none

/-- The reply of an outcome. -/
def ItemOutcome.suggestedReply? : ItemOutcome → Option (Checked SuggestedReply)
  | .suggestedReply reply => some reply
  | _ => none

/-- The suppressed output of an outcome. -/
def ItemOutcome.suppressedOutput? : ItemOutcome → Option (Checked SuppressedOutput)
  | .suppressed output => some output
  | .rejected output _ => some output
  | _ => none

/-- The error of an outcome. -/
def ItemOutcome.error? : ItemOutcome → Option (Checked NormalizationError)
  | .rejected _ error => some error
  | .fatal error => some error
  | _ => none

/-- The result that collects outcomes in their order. -/
def collected (rawOutput : List (Text × Json)) (runKey : Checked ReviewerRunKey)
    (outcomes : List ItemOutcome) : NormalizationResult where
  rawOutput := rawOutput
  runKey := runKey
  findings := outcomes.filterMap ItemOutcome.finding?
  clarificationRequests := outcomes.filterMap ItemOutcome.clarificationRequest?
  localNotes := outcomes.filterMap ItemOutcome.localNote?
  suggestedReplies := outcomes.filterMap ItemOutcome.suggestedReply?
  suppressedOutputs := outcomes.filterMap ItemOutcome.suppressedOutput?
  errors := outcomes.filterMap ItemOutcome.error?

/-- One more outcome is collected. -/
lemma collected_add (rawOutput : List (Text × Json)) (runKey : Checked ReviewerRunKey)
    (outcomes : List ItemOutcome) {outcome : ItemOutcome} (h : ∀ e, outcome ≠ .fatal e) :
    (collected rawOutput runKey outcomes).add outcome =
      collected rawOutput runKey (outcomes ++ [outcome]) := by
  cases outcome with
  | fatal e => exact absurd rfl (h e)
  | _ => simp [NormalizationResult.add, collected, ItemOutcome.finding?, ItemOutcome.localNote?,
      ItemOutcome.clarificationRequest?, ItemOutcome.suggestedReply?, ItemOutcome.suppressedOutput?,
      ItemOutcome.error?]

/-- None of the items, from an index on, is reported. -/
def AllReadable (runKey : Checked ReviewerRunKey) (index : ℕ) (items : List Json) : Prop :=
  ∀ entry ∈ items.zipIdx index, ∀ e, normalizeItem repr runKey entry.2 entry.1 ≠ .ok (.fatal e)

/-- From what has been collected, the loop reports one item or collects one outcome for each. -/
lemma normalizeItems_ok (rawOutput : List (Text × Json)) (runKey : Checked ReviewerRunKey)
    (index : ℕ)
    (items : List Json) (outcomes : List ItemOutcome) :
    ∃ r, normalizeItems repr runKey index items (collected rawOutput runKey outcomes) = .ok r ∧
      ((¬ AllReadable repr runKey index items ∧
          ∃ e, MakesFail e ∧ r = fatalResult rawOutput runKey e) ∨
        AllReadable repr runKey index items ∧
          ∃ rest, List.Forall₂ (fun entry outcome => Yields repr runKey entry.2 entry.1 outcome)
            (items.zipIdx index) rest ∧ r = collected rawOutput runKey (outcomes ++ rest)) := by
  induction items generalizing index outcomes with
  | nil =>
    exact ⟨_, rfl, .inr ⟨fun _ h => absurd h List.not_mem_nil, [], .nil, by rw [List.append_nil]⟩⟩
  | cons item items ih =>
    have hcons : (item :: items).zipIdx index = (item, index) :: items.zipIdx (index + 1) := rfl
    obtain ⟨outcome, hitem, hfatal | hyields⟩ := normalizeItem_ok repr runKey index item
    · obtain ⟨e, rfl, he⟩ := hfatal
      refine ⟨fatalResult rawOutput runKey e, ?_, .inl ⟨fun hall => ?_, e, he, rfl⟩⟩
      · rw [normalizeItems, hitem]
        rfl
      · exact hall (item, index) (hcons ▸ List.mem_cons_self) e hitem
    · obtain ⟨r, hr, hcases⟩ := ih (index + 1) (outcomes ++ [outcome])
      have hnot := hyields.not_fatal
      refine ⟨r, ?_, ?_⟩
      · rw [normalizeItems, hitem, ok_bind]
        rw [← collected_add rawOutput runKey outcomes hnot] at hr
        cases outcome with
        | fatal e => exact absurd rfl (hnot e)
        | _ => exact hr
      · obtain ⟨hnot, hfatal⟩ | ⟨hall, rest, hrest, rfl⟩ := hcases
        · refine .inl ⟨fun hall => hnot fun entry hentry => ?_, hfatal⟩
          exact hall entry (hcons ▸ List.mem_cons_of_mem _ hentry)
        · refine .inr ⟨?_, outcome :: rest, .cons hyields hrest, by rw [List.append_assoc]; rfl⟩
          intro entry hentry e he
          rw [hcons] at hentry
          rcases List.mem_cons.1 hentry with rfl | hentry
          · exact hnot e (Except.ok.inj (hitem.symm.trans he))
          · exact hall entry hentry e he

/-- Without a list of items there is nothing to normalize. -/
lemma invalidItems_ok (rawOutput : List (Text × Json)) (runKey : Checked ReviewerRunKey) :
    ∃ e, (fatalError runKey "invalid_items" "fake reviewer output requires an items list" none
      none).map
      (fatalResult rawOutput runKey) = .ok (fatalResult rawOutput runKey e) ∧ MakesFail e := by
  obtain ⟨e, he, hfail⟩ := @fatalError_ok runKey _ _ none none
    (show ("invalid_items" : Text) ∈ fatalCodes by simp [fatalCodes])
    (show ("fake reviewer output requires an items list" : Text) ≠ [] by simp [Text.ofString_eq])
    (by simp)
  exact ⟨e, congrArg (Except.map (fatalResult rawOutput runKey)) he, hfail⟩

/-- A raw output is normalized without an exception, either to one fatal error and no artifact, or
to one artifact for each item, in the order of the items. -/
theorem normalizeReviewerOutput_conserves (rawOutput : List (Text × Json))
    (runKey : Checked ReviewerRunKey) :
    ∃ r, normalizeReviewerOutput repr rawOutput runKey = .ok r ∧
      ((∃ e, MakesFail e ∧ r = fatalResult rawOutput runKey e) ∨
        ∃ items outcomes, Json.lookup rawOutput "items" = some (.arr items) ∧
          List.Forall₂ (fun entry outcome => Yields repr runKey entry.2 entry.1 outcome)
            items.zipIdx outcomes ∧
          r = collected rawOutput runKey outcomes) := by
  unfold normalizeReviewerOutput
  split
  · rename_i items hitems
    obtain ⟨r, hr, hcases⟩ := normalizeItems_ok repr rawOutput runKey 0 items []
    refine ⟨r, hr, ?_⟩
    obtain ⟨-, hfatal⟩ | ⟨-, outcomes, houtcomes, rfl⟩ := hcases
    · exact .inl hfatal
    · exact .inr ⟨items, outcomes, hitems, houtcomes, rfl⟩
  · obtain ⟨e, he, hfail⟩ := invalidItems_ok rawOutput runKey
    exact ⟨_, he, .inl ⟨e, hfail, rfl⟩⟩

/-- The errors of items that yield something are not fatal. -/
lemma fatalErrors_collected (rawOutput : List (Text × Json)) (runKey : Checked ReviewerRunKey)
    {entries : List (Json × ℕ)} {outcomes : List ItemOutcome}
    (h : List.Forall₂ (fun entry outcome => Yields repr runKey entry.2 entry.1 outcome) entries
      outcomes) :
    (collected rawOutput runKey outcomes).fatalErrors = [] := by
  unfold NormalizationResult.fatalErrors collected
  rw [List.filter_eq_nil_iff]
  intro e he
  obtain ⟨outcome, houtcome, herror⟩ := List.mem_filterMap.1 he
  obtain ⟨⟨item, index⟩, -, hyields⟩ := List.Forall₂.exists_of_mem_right h houtcome
  dsimp only at hyields
  cases hyields with
  | rejected owned id nonFatal position nodup named =>
    obtain rfl := Option.some.inj herror
    rw [nonFatal]
    exact Bool.false_ne_true
  | _ => contradiction

/-- A normalized output has one fatal error, which can be repaired, or none. -/
lemma normalizeReviewerOutput_ok (rawOutput : List (Text × Json))
    (runKey : Checked ReviewerRunKey) :
    ∃ r, normalizeReviewerOutput repr rawOutput runKey = .ok r ∧ r.runKey = runKey ∧
      ((∃ e, MakesFail e ∧ r = fatalResult rawOutput runKey e) ∨ r.fatalErrors = []) := by
  unfold normalizeReviewerOutput
  split
  · rename_i items hitems
    obtain ⟨r, hr, hcases⟩ := normalizeItems_ok repr rawOutput runKey 0 items []
    obtain ⟨-, e, hfail, rfl⟩ | ⟨-, outcomes, houtcomes, rfl⟩ := hcases
    · exact ⟨_, hr, rfl, .inl ⟨e, hfail, rfl⟩⟩
    · exact ⟨_, hr, rfl, .inr (fatalErrors_collected repr rawOutput runKey houtcomes)⟩
  · obtain ⟨e, he, hfail⟩ := invalidItems_ok rawOutput runKey
    exact ⟨_, he, rfl, .inl ⟨e, hfail, rfl⟩⟩

end Findings

end ReviewGraph
