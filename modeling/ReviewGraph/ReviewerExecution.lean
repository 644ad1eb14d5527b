import ReviewGraph.Normalization
import ReviewGraph.Redaction
import ReviewGraph.Foundation.JsonDecoding

/-!
# Executions of a reviewer

The three ways in which the output of a reviewer becomes a result: an adapter returns it
(`execute_fake_reviewer`), it repairs an output that cannot be used
(`_repair_fake_reviewer_output`), or a provider responds with it (`_result_from_provider_text`).
-/

namespace ReviewGraph

/-! ## Records -/

/-- The values of `ReviewerRunStatusValue` that an execution ends with. -/
inductive ReviewerRunStatusValue
  | completed
  | failed
  deriving DecidableEq, Repr

/-- `ReviewerRepairRecord`; a repair is attempted once. -/
structure ReviewerRepairRecord where
  status : ReviewerRunStatusValue
  originalOutput : Json
  repairedOutput : Json
  errors : List (Checked NormalizationError)

/-- `ReviewerResult` without the evidence of a live call. -/
structure ReviewerExecution where
  runKey : Checked ReviewerRunKey
  status : ReviewerRunStatusValue
  rawOutput : Json := .null
  errors : List Text := []
  findings : List (Checked RawReviewerFinding) := []
  clarificationRequests : List (Checked SourcedClarificationRequest) := []
  localNotes : List (Checked LocalNote) := []
  suggestedReplies : List (Checked SuggestedReply) := []
  suppressedOutputs : List (Checked SuppressedOutput) := []
  normalizationErrors : List (Checked NormalizationError) := []
  repairRecord : Option ReviewerRepairRecord := none

/-- The result that completes with the artifacts of a normalized output. -/
def NormalizationResult.completed (n : NormalizationResult) (rawOutput : Json)
    (repairRecord : Option ReviewerRepairRecord) : ReviewerExecution where
  runKey := n.runKey
  status := .completed
  rawOutput := rawOutput
  findings := n.findings
  clarificationRequests := n.clarificationRequests
  localNotes := n.localNotes
  suggestedReplies := n.suggestedReplies
  suppressedOutputs := n.suppressedOutputs
  normalizationErrors := n.errors
  repairRecord := repairRecord

/-! ## Outputs of an adapter -/

/-- `REPAIRABLE_REVIEWER_OUTPUT_ERROR_CODES`. -/
def repairableReviewerOutputErrorCodes : List Text :=
  ["invalid_json", "invalid_output_type", "invalid_items", "invalid_item", "invalid_type",
    "unsupported_item_type", "invalid_finding", "invalid_local_note",
    "invalid_clarification_request",
    "invalid_suggested_reply", "invalid_non_finding", "normalizer_exception"]

/-- `_normalization_error`. -/
def outputError (runKey : Checked ReviewerRunKey) (code message : Text) (repairable : Bool) :
    Result (Checked NormalizationError) :=
  construct {
    code, message, runKey, repairable, fatal := true, itemId := none, itemIndex := none
    rejectedFields := [] }

/-- `_optional_error`. -/
def optionalError (output : List (Text × Json)) (default : Text) : Text :=
  ((Json.lookup output "error").bind nonEmptyText?).getD default

/-- The failure that an output declares. -/
def hasFailure (output : List (Text × Json)) : Bool :=
  match Json.lookup output "failure" with
  | some (.bool true) => true
  | _ => false

section Paths

variable (repr : Json → Text)

/-- The text of an exception. -/
def errorText : PyError → Text
  | .valueError message => message
  | .postingPlanError message => message
  | .keyError key => repr (.str key)

/-- `normalize_reviewer_output` with the representation of texts. -/
def normalizeOutput (output : List (Text × Json)) (runKey : Checked ReviewerRunKey) :
    Result NormalizationResult :=
  normalizeReviewerOutput (fun text => repr (.str text)) output runKey

/-- `_raw_output_for_result`. -/
def rawOutputForResult : Json → Json
  | .null => .null
  | .obj fields => .obj fields
  | .str text => .str text
  | output => .obj [("value", .str (repr output))]

/-- The output cannot be used at all. -/
def unusable (runKey : Checked ReviewerRunKey) (rawOutput : Json) (code message : Text)
    (repairable : Bool) : Result ReviewerExecution := do
  let error ← outputError runKey code message repairable
  return {
    runKey, status := .failed, rawOutput, errors := [message], normalizationErrors := [error] }

/-- `_execute_parsed_reviewer_output`. -/
def executeParsedReviewerOutput (output rawOutput : Json) (parsedFromJsonString : Bool)
    (runKey : Checked ReviewerRunKey) : Result ReviewerExecution :=
  match output with
  | .obj fields =>
    if hasFailure fields then
      .ok {
        runKey, status := .failed, rawOutput := rawOutputForResult repr rawOutput
        errors := [optionalError fields "fake reviewer failed"] }
    else
      match normalizeOutput repr fields runKey with
      | .error e => unusable runKey (rawOutputForResult repr rawOutput) "normalizer_exception"
          ("fake reviewer output malformed: " ++ errorText repr e) true
      | .ok normalized =>
        if normalized.fatalErrors ≠ [] then
          .ok {
            runKey, status := .failed, rawOutput := rawOutputForResult repr rawOutput
            errors := normalized.fatalErrors.map fun e => e.val.message
            normalizationErrors := normalized.errors }
        else .ok (normalized.completed (rawOutputForResult repr rawOutput) none)
  | _ => unusable runKey (rawOutputForResult repr rawOutput) "invalid_output_type"
      "fake reviewer output must be a mapping" !parsedFromJsonString

/-- `_execute_unrepaired_fake_output`. -/
def executeUnrepairedFakeOutput (output : Json) (runKey : Checked ReviewerRunKey) :
    Result ReviewerExecution :=
  match output with
  | .null => unusable runKey .null "missing_output" "fake reviewer output is missing" true
  | .str text =>
    match Json.loads text with
    | .error .invalid =>
      unusable runKey (.str text) "invalid_json" "fake reviewer output is not valid JSON" true
    | .error e => .error (.valueError e.message)
    | .ok parsed => executeParsedReviewerOutput repr parsed (.str text) true runKey
  | _ => executeParsedReviewerOutput repr output output false runKey

/-! ## Repairs -/

/-- `_should_attempt_repair`. -/
def shouldAttemptRepair (r : ReviewerExecution) : Prop :=
  r.repairRecord.isNone = true ∧ (r.normalizationErrors.filter fun e => e.val.fatal) ≠ [] ∧
    ∀ e ∈ r.normalizationErrors.filter fun e => e.val.fatal,
      e.val.repairable = true ∧ e.val.code ∈ repairableReviewerOutputErrorCodes

instance (r : ReviewerExecution) : Decidable (shouldAttemptRepair r) :=
  inferInstanceAs (Decidable (_ ∧ _ ∧ _))

/-- `_repair_output_mapping`. -/
def repairOutputMapping (output : Json) (runKey : Checked ReviewerRunKey) :
    Result (List (Text × Json) ⊕ Checked NormalizationError) :=
  match output with
  | .str text =>
    match Json.loads text with
    | .error .invalid =>
      (outputError runKey "repair_invalid_json" "fake reviewer repair output is not valid JSON"
        false).map .inr
    | .error e => .error (.valueError e.message)
    | .ok parsed => mappingOf parsed
  | output => mappingOf output
where
  /-- The fields of an object, or the error of another value. -/
  mappingOf : Json → Result (List (Text × Json) ⊕ Checked NormalizationError)
    | .obj fields => .ok (.inl fields)
    | _ => (outputError runKey "repair_invalid_output_type"
        "fake reviewer repair output must be a mapping" false).map .inr

/-- `_failed_repair_result`. -/
def failedRepairResult (original : ReviewerExecution) (originalOutput repairedOutput : Json)
    (repairErrors : List (Checked NormalizationError)) : ReviewerExecution where
  runKey := original.runKey
  status := .failed
  rawOutput := original.rawOutput
  errors := ["fake reviewer output repair failed"]
  normalizationErrors := repairErrors
  repairRecord := some {
    status := .failed, originalOutput, repairedOutput, errors := repairErrors }

/-- `_repair_normalization_error`. -/
def repairNormalizationError (e : Checked NormalizationError) :
    Result (Checked NormalizationError) :=
  construct { e.val with
    code := "repair_" ++ e.val.code
    message := "fake reviewer repair output malformed: " ++ e.val.message
    repairable := false }

/-- `_repair_fake_reviewer_output`. -/
def repairFakeReviewerOutput (original : ReviewerExecution) (originalOutput repairOutput : Json)
    (runKey : Checked ReviewerRunKey) : Result ReviewerExecution := do
  let mapping ← repairOutputMapping repairOutput runKey
  match mapping with
  | .inr error =>
    .ok (failedRepairResult original originalOutput repairOutput
      (original.normalizationErrors ++ [error]))
  | .inl repaired =>
    match normalizeOutput repr repaired runKey with
    | .error e => do
      let error ← outputError runKey "repair_normalizer_exception"
        ("fake reviewer repair output malformed: " ++ errorText repr e) false
      return failedRepairResult original originalOutput (.obj repaired)
        (original.normalizationErrors ++ [error])
    | .ok normalized =>
      if normalized.fatalErrors ≠ [] then do
        let errors ← normalized.fatalErrors.mapM repairNormalizationError
        return failedRepairResult original originalOutput (.obj repaired)
          (original.normalizationErrors ++ errors)
      else
        .ok (normalized.completed original.rawOutput (some {
          status := .completed, originalOutput, repairedOutput := .obj repaired
          errors := original.normalizationErrors }))

/-- The fields of a repair envelope. -/
def envelopeFields : List Text := ["reviewer", "stage", "raw_output", "repair_output"]

/-- `_required_str`. -/
def requiredOutputStr (item : List (Text × Json)) (field : Text) : Result Text :=
  match (Json.lookup item field).bind nonEmptyText? with
  | some value => .ok value
  | none => .error (.valueError (field ++ " must be a non-empty string"))

/-- `_validate_repair_envelope`. -/
def validateRepairEnvelope (output : List (Text × Json)) (expectedReviewer expectedStage : Text) :
    Result Unit := do
  require (∀ key ∈ output.map Prod.fst, key ∈ envelopeFields)
    ("fake reviewer repair envelope contains unsupported fields: " ++
      Text.join ", " (Text.sorted ((output.map Prod.fst).filter (· ∉ envelopeFields))))
  let reviewer ← requiredOutputStr output "reviewer"
  let stage ← requiredOutputStr output "stage"
  require (reviewer = expectedReviewer ∧ stage = expectedStage)
    "fake reviewer repair envelope reviewer/stage must match the selected reviewer"
  require ((Json.lookup output "raw_output").isSome = true)
    "fake reviewer repair envelope requires raw_output"
  require ((Json.lookup output "repair_output").isSome = true)
    "fake reviewer repair envelope requires repair_output"

/-- The output asks for a repair. -/
def isEnvelope (fields : List (Text × Json)) : Bool :=
  (Json.lookup fields "raw_output").isSome || (Json.lookup fields "repair_output").isSome

/-- `execute_fake_reviewer`, behind `validate_reviewer_adapter_input`, by which the reviewer and the
stage of the package are those of the run key; the output is that of the adapter, if it has one. -/
def executeFakeReviewer (output : Option Json) (runKey : Checked ReviewerRunKey) :
    Result ReviewerExecution :=
  match output with
  | none => .ok {
      runKey, status := .failed
      errors := ["missing raw reviewer output for selected reviewer: " ++
        (runKey.val.reviewer ++ ("/" ++ runKey.val.stage.value))] }
  | some (.obj fields) =>
    if isEnvelope fields then do
      validateRepairEnvelope fields runKey.val.reviewer runKey.val.stage.value
      let rawOutput := (Json.lookup fields "raw_output").getD .null
      let repairOutput := (Json.lookup fields "repair_output").getD .null
      let r ← executeUnrepairedFakeOutput repr rawOutput runKey
      if shouldAttemptRepair r then repairFakeReviewerOutput repr r rawOutput repairOutput runKey
      else return r
    else executeUnrepairedFakeOutput repr (.obj fields) runKey
  | some output => executeUnrepairedFakeOutput repr output runKey

/-! ## Responses of a provider -/

/-- `_unique_key` for texts: the key itself, or with the first suffix that is free. -/
def uniqueKey (keys : List Text) (key : Text) : Text :=
  if key ∉ keys then key
  else
    (((List.range (keys.length + 1)).map fun i => key ++ ("#" ++ Text.ofNat (i + 2))).find?
      (· ∉ keys)).getD key

mutual

/-- The data of `redact_data`. -/
def redactData : Json → Json
  | .str text => .str (redactText text).text
  | .arr items => .arr (redactItems items)
  | .obj fields => .obj (redactFields fields [])
  | value => value

/-- The redacted items of a list. -/
def redactItems : List Json → List Json
  | [] => []
  | item :: items => redactData item :: redactItems items

/-- The redacted fields of an object, behind those that have been redacted. -/
def redactFields : List (Text × Json) → List (Text × Json) → List (Text × Json)
  | [], redacted => redacted
  | (key, value) :: fields, redacted =>
    redactFields fields (redacted ++
      [(uniqueKey (redacted.map Prod.fst) (redactText key).text, redactData value)])

end

/-- `_result_from_provider_text`. -/
def resultFromProviderText (text : Text) (runKey : Checked ReviewerRunKey) :
    Result ReviewerExecution :=
  match Json.loads text with
  | .error .invalid =>
    unusableResponse "invalid_json" "live LLM provider response is not valid JSON"
  | .error e => .error (.valueError e.message)
  | .ok (.obj fields) => do
    let redacted := match redactData (.obj fields) with
      | .obj fields => fields
      | data => [("value", .str (repr data))]
    let normalized ← normalizeOutput repr redacted runKey
    if normalized.fatalErrors ≠ [] then
      return {
        runKey, status := .failed, rawOutput := .obj redacted
        errors := normalized.fatalErrors.map fun e => e.val.message
        normalizationErrors := normalized.errors }
    else return normalized.completed (.obj redacted) none
  | .ok _ =>
    unusableResponse "invalid_output_type" "live LLM provider response must be a JSON object"
where
  /-- The response cannot be used, and is not retained. -/
  unusableResponse (code message : Text) : Result ReviewerExecution :=
    unusable runKey .null code message false

/-! ## What becomes of a value -/

variable (runKey : Checked ReviewerRunKey)

/-- The value that an output of an adapter stands for: a text is decoded. -/
def readOutput : Json → Option Json
  | .str text => (Json.loads text).toOption
  | output => some output

/-- The output is no text that is refused for the length of an integer. -/
def withinDigitLimit : Json → Bool
  | .str text =>
    match Json.loads text with
    | .error (.digitLimit _) => false
    | _ => true
  | _ => true

/-- The normalized output of a value, if it is an object whose items are all well formed. -/
def accepted : Json → Option NormalizationResult
  | .obj fields =>
    match normalizeOutput repr fields runKey with
    | .ok normalized => if normalized.fatalErrors = [] then some normalized else none
    | .error _ => none
  | _ => none

/-- The value is an object that declares a failure. -/
def declaresFailure : Json → Bool
  | .obj fields => hasFailure fields
  | _ => false

/-- The normalized output of a value that does not declare a failure. -/
def acceptedUnlessFailure (output : Json) : Option NormalizationResult :=
  if declaresFailure output then none else accepted repr runKey output

/-- A value that fails can be repaired: it is malformed and does not declare a failure. -/
def isRepairableValue (parsedFromJsonString : Bool) : Json → Bool
  | .obj fields => !declaresFailure (.obj fields) && (accepted repr runKey (.obj fields)).isNone
  | _ => !parsedFromJsonString

/-- An output that fails can be repaired. -/
def isRepairable : Json → Bool
  | .null => false
  | .str text => (Json.loads text).toOption.all (isRepairableValue repr runKey true)
  | output => isRepairableValue repr runKey false output

/-- The normalized output of an envelope. -/
def acceptedEnvelope (fields : List (Text × Json)) : Option NormalizationResult :=
  let rawOutput := (Json.lookup fields "raw_output").getD .null
  let repairOutput := (Json.lookup fields "repair_output").getD .null
  if isRepairable repr runKey rawOutput then (readOutput repairOutput).bind (accepted repr runKey)
  else (readOutput rawOutput).bind (acceptedUnlessFailure repr runKey)

/-- What an envelope is executed with is within the limit. -/
def envelopeWithinDigitLimit (fields : List (Text × Json)) : Bool :=
  let rawOutput := (Json.lookup fields "raw_output").getD .null
  withinDigitLimit rawOutput &&
    (!isRepairable repr runKey rawOutput ||
      withinDigitLimit ((Json.lookup fields "repair_output").getD .null))

/-- The result completes with the artifacts of a normalized output, or fails. -/
def Reports (r : ReviewerExecution) : Option NormalizationResult → Prop
  | some n => r.status = .completed ∧ r.findings = n.findings ∧
      r.clarificationRequests = n.clarificationRequests ∧ r.localNotes = n.localNotes ∧
      r.suggestedReplies = n.suggestedReplies ∧ r.suppressedOutputs = n.suppressedOutputs
  | none => r.status = .failed

/-- A completed execution reports its output. -/
lemma reports_completed (n : NormalizationResult) (rawOutput : Json)
    (repairRecord : Option ReviewerRepairRecord) :
    Reports (n.completed rawOutput repairRecord) (some n) := ⟨rfl, rfl, rfl, rfl, rfl, rfl⟩

/-! ## One output -/

/-- The error of an output can be built, and is fatal. -/
lemma outputError_ok {code message : Text} (repairable : Bool) (hcode : code ≠ [])
    (hmessage : message ≠ []) :
    ∃ e, outputError runKey code message repairable = .ok e ∧ e.val.fatal = true ∧
      e.val.repairable = repairable ∧ e.val.code = code := by
  have hpost : Record.postInit ({
      code, message, runKey, repairable, fatal := true, itemId := none, itemIndex := none
      rejectedFields := [] } : NormalizationError) = .ok () := by
    simp [Record.postInit, hcode, hmessage]
  exact ⟨_, construct_of_postInit hpost, rfl, rfl, rfl⟩

/-- A result without a repair and with one fatal error. -/
lemma shouldAttemptRepair_iff {r : ReviewerExecution} {e : Checked NormalizationError}
    (hrecord : r.repairRecord = none) (herrors : r.normalizationErrors = [e])
    (hfatal : e.val.fatal = true) :
    shouldAttemptRepair r ↔
      e.val.repairable = true ∧ e.val.code ∈ repairableReviewerOutputErrorCodes := by
  unfold shouldAttemptRepair
  rw [hrecord, herrors, List.filter_cons_of_pos (by exact hfatal)]
  simp

/-- Without a fatal error nothing is repaired. -/
lemma not_shouldAttemptRepair {r : ReviewerExecution}
    (hnone : (r.normalizationErrors.filter fun e => e.val.fatal) = []) : ¬ shouldAttemptRepair r :=
  fun h => h.2.1 hnone

/-- The execution of an unusable output can be built. -/
lemma unusable_ok {code message : Text} (rawOutput : Json) (repairable : Bool) (hcode : code ≠ [])
    (hmessage : message ≠ []) :
    ∃ r, unusable runKey rawOutput code message repairable = .ok r ∧ r.status = .failed ∧
      (shouldAttemptRepair r ↔
        repairable = true ∧ code ∈ repairableReviewerOutputErrorCodes) := by
  obtain ⟨e, he, hfatal, hrepairable, hecode⟩ := outputError_ok runKey repairable hcode hmessage
  refine ⟨_, by rw [unusable, he]; rfl, rfl, ?_⟩
  rw [shouldAttemptRepair_iff rfl rfl hfatal, hrepairable, hecode]

/-- The fatal codes can be repaired. -/
lemma fatalCodes_subset : ∀ code ∈ fatalCodes, code ∈ repairableReviewerOutputErrorCodes := by
  decide +kernel

/-- The normalized output of an object, and whether it is accepted. -/
lemma normalizeOutput_ok (fields : List (Text × Json)) :
    ∃ n, normalizeOutput repr fields runKey = .ok n ∧
      ((∃ e, MakesFail e ∧ n = fatalResult fields runKey e ∧ n.fatalErrors = [e] ∧
          accepted repr runKey (.obj fields) = none) ∨
        n.fatalErrors = [] ∧ accepted repr runKey (.obj fields) = some n) := by
  obtain ⟨n, hn, -, hcases⟩ := normalizeReviewerOutput_ok (fun text => repr (.str text)) fields
      runKey
  refine ⟨n, hn, ?_⟩
  have haccepted : accepted repr runKey (.obj fields) =
      if n.fatalErrors = [] then some n else none := by
    simp only [accepted, normalizeOutput, hn]
  obtain ⟨e, hfail, rfl⟩ | hnone := hcases
  · have herrors : (fatalResult fields runKey e).fatalErrors = [e] :=
      List.filter_cons_of_pos hfail.fatal
    refine .inl ⟨e, hfail, rfl, herrors, ?_⟩
    rw [haccepted, herrors]
    rfl
  · exact .inr ⟨hnone, by rw [haccepted, if_pos hnone]⟩

/-- A parsed output is reported unless it declares a failure. -/
lemma executeParsedReviewerOutput_ok (output rawOutput : Json) (parsed : Bool) :
    ∃ r, executeParsedReviewerOutput repr output rawOutput parsed runKey = .ok r ∧
      Reports r (acceptedUnlessFailure repr runKey output) ∧
      (shouldAttemptRepair r ↔ isRepairableValue repr runKey parsed output = true) := by
  have hother : ∃ r, unusable runKey (rawOutputForResult repr rawOutput) "invalid_output_type"
      "fake reviewer output must be a mapping" (!parsed) = .ok r ∧ r.status = .failed ∧
      (shouldAttemptRepair r ↔ (!parsed) = true) := by
    obtain ⟨r, hr, hstatus, hrepair⟩ := unusable_ok runKey (rawOutputForResult repr rawOutput)
        (!parsed)
      (show ("invalid_output_type" : Text) ≠ [] by simp [Text.ofString_eq])
      (show ("fake reviewer output must be a mapping" : Text) ≠ [] by simp [Text.ofString_eq])
    refine ⟨r, hr, hstatus, hrepair.trans (and_iff_left ?_)⟩
    simp [repairableReviewerOutputErrorCodes]
  cases output with
  | obj fields =>
    have hrepair : isRepairableValue repr runKey parsed (.obj fields) =
        (!hasFailure fields && (accepted repr runKey (.obj fields)).isNone) := rfl
    simp only [executeParsedReviewerOutput]
    by_cases hfailure : hasFailure fields = true
    · have hnone : acceptedUnlessFailure repr runKey (.obj fields) = none := if_pos hfailure
      rw [if_pos hfailure]
      refine ⟨_, rfl, ?_, ?_⟩
      · rw [hnone]
        rfl
      · rw [hrepair, hfailure]
        exact iff_of_false (not_shouldAttemptRepair rfl) Bool.false_ne_true
    · have heq : acceptedUnlessFailure repr runKey (.obj fields) = accepted repr runKey
          (.obj fields) :=
        if_neg hfailure
      rw [if_neg hfailure, heq, hrepair, Bool.eq_false_of_not_eq_true hfailure]
      obtain ⟨n, hn, hcases⟩ := normalizeOutput_ok repr runKey fields
      simp only [hn]
      obtain ⟨e, hfail, rfl, herrors, haccepted⟩ | ⟨hnone, haccepted⟩ := hcases
      · rw [herrors, if_pos (List.cons_ne_nil e []), haccepted]
        refine ⟨_, rfl, rfl, ?_⟩
        rw [shouldAttemptRepair_iff rfl rfl hfail.fatal]
        exact iff_of_true ⟨hfail.repairable, fatalCodes_subset e.val.code hfail.code⟩ rfl
      · rw [if_neg (not_not.2 hnone), haccepted]
        refine ⟨_, rfl, reports_completed n _ none, ?_⟩
        exact iff_of_false (not_shouldAttemptRepair hnone) Bool.false_ne_true
  | null => exact hother
  | bool b => exact hother
  | int n => exact hother
  | float lexeme => exact hother
  | str s => exact hother
  | arr items => exact hother

/-- So is one that is not repaired. -/
lemma executeUnrepairedFakeOutput_ok {output : Json} (hlimit : withinDigitLimit output = true) :
    ∃ r, executeUnrepairedFakeOutput repr output runKey = .ok r ∧
      Reports r ((readOutput output).bind (acceptedUnlessFailure repr runKey)) ∧
      (shouldAttemptRepair r ↔ isRepairable repr runKey output = true) := by
  cases output with
  | null =>
    obtain ⟨r, hr, hstatus, hrepair⟩ := unusable_ok runKey .null true
      (show ("missing_output" : Text) ≠ [] by simp [Text.ofString_eq])
      (show ("fake reviewer output is missing" : Text) ≠ [] by simp [Text.ofString_eq])
    refine ⟨r, hr, hstatus, hrepair.trans (iff_of_false ?_ Bool.false_ne_true)⟩
    simp [repairableReviewerOutputErrorCodes, Text.ofString_eq]
  | str text =>
    simp only [executeUnrepairedFakeOutput, readOutput, isRepairable]
    cases hloads : Json.loads text with
    | error e =>
      cases e with
      | digitLimit n => simp [withinDigitLimit, hloads] at hlimit
      | invalid =>
      obtain ⟨r, hr, hstatus, hrepair⟩ := unusable_ok runKey (.str text) true
        (show ("invalid_json" : Text) ≠ [] by simp [Text.ofString_eq])
        (show ("fake reviewer output is not valid JSON" : Text) ≠ [] by simp [Text.ofString_eq])
      refine ⟨r, hr, hstatus, hrepair.trans (iff_of_true ?_ rfl)⟩
      simp [repairableReviewerOutputErrorCodes]
    | ok parsed =>
      exact executeParsedReviewerOutput_ok repr runKey parsed (.str text) true
  | bool b => exact executeParsedReviewerOutput_ok repr runKey (.bool b) (.bool b) false
  | int n => exact executeParsedReviewerOutput_ok repr runKey (.int n) (.int n) false
  | float lexeme =>
    exact executeParsedReviewerOutput_ok repr runKey (.float lexeme) (.float lexeme) false
  | arr items => exact executeParsedReviewerOutput_ok repr runKey (.arr items) (.arr items) false
  | obj fields => exact executeParsedReviewerOutput_ok repr runKey (.obj fields) (.obj fields) false

/-! ## Repairs and responses -/

/-- The computation returns a result that reports a normalized output, or a failure. -/
def EndsReporting (x : Result ReviewerExecution) (outcome : Option NormalizationResult) : Prop :=
  ∃ r, x = .ok r ∧ Reports r outcome

/-- The error of a repair can be built. -/
lemma repairNormalizationError_ok (e : Checked NormalizationError) :
    ∃ e', repairNormalizationError e = .ok e' := by
  have hchecks := e.property
  simp only [Record.postInit, check_bind_eq_ok, requireNonEmpty_eq_ok,
    requireOptionalNonEmpty_eq_ok,
    requireStringTuple_eq_ok] at hchecks
  have hpost : Record.postInit ({ e.val with
      code := "repair_" ++ e.val.code
      message := "fake reviewer repair output malformed: " ++ e.val.message
      repairable := false } : NormalizationError) = .ok () := by
    simp only [Record.postInit, check_bind_eq_ok, requireNonEmpty_eq_ok,
      requireOptionalNonEmpty_eq_ok, requireStringTuple_eq_ok]
    exact ⟨by simp [Text.ofString_eq], by simp [Text.ofString_eq], hchecks.2.2⟩
  exact ⟨_, construct_of_postInit hpost⟩

/-- A repair is a mapping, or an error. -/
lemma repairOutputMapping_ok {output : Json} (hlimit : withinDigitLimit output = true) :
    (∃ fields, readOutput output = some (.obj fields) ∧
      repairOutputMapping output runKey = .ok (.inl fields)) ∨
    ((readOutput output).bind (accepted repr runKey) = none ∧
      ∃ e, repairOutputMapping output runKey = .ok (.inr e)) := by
  have htype : ∃ e, (outputError runKey "repair_invalid_output_type"
      "fake reviewer repair output must be a mapping" false).map
        (Sum.inr : _ → List (Text × Json) ⊕ Checked NormalizationError) = .ok (.inr e) := by
    obtain ⟨e, he, -⟩ := outputError_ok runKey false
      (show ("repair_invalid_output_type" : Text) ≠ [] by simp [Text.ofString_eq])
      (show ("fake reviewer repair output must be a mapping" : Text) ≠ [] by
        simp [Text.ofString_eq])
    exact ⟨e, congrArg (Except.map Sum.inr) he⟩
  have hmapping : ∀ value, (∃ fields, value = Json.obj fields ∧
      repairOutputMapping.mappingOf runKey value = .ok (.inl fields)) ∨
      (accepted repr runKey value = none ∧
        ∃ e, repairOutputMapping.mappingOf runKey value = .ok (.inr e)) := by
    intro value
    cases value with
    | obj fields => exact .inl ⟨fields, rfl, rfl⟩
    | null => exact .inr ⟨rfl, htype⟩
    | bool b => exact .inr ⟨rfl, htype⟩
    | int n => exact .inr ⟨rfl, htype⟩
    | float lexeme => exact .inr ⟨rfl, htype⟩
    | str s => exact .inr ⟨rfl, htype⟩
    | arr items => exact .inr ⟨rfl, htype⟩
  cases output with
  | str text =>
    simp only [readOutput, repairOutputMapping]
    cases hloads : Json.loads text with
    | error e =>
      cases e with
      | digitLimit n => simp [withinDigitLimit, hloads] at hlimit
      | invalid =>
      obtain ⟨e, he, -⟩ := outputError_ok runKey false
        (show ("repair_invalid_json" : Text) ≠ [] by simp [Text.ofString_eq])
        (show ("fake reviewer repair output is not valid JSON" : Text) ≠ [] by
          simp [Text.ofString_eq])
      exact .inr ⟨rfl, e, congrArg (Except.map Sum.inr) he⟩
    | ok parsed =>
      obtain ⟨fields, rfl, hfields⟩ | hother := hmapping parsed
      · exact .inl ⟨fields, rfl, hfields⟩
      · exact .inr hother
  | null => exact .inr ⟨rfl, htype⟩
  | bool b => exact .inr ⟨rfl, htype⟩
  | int n => exact .inr ⟨rfl, htype⟩
  | float lexeme => exact .inr ⟨rfl, htype⟩
  | arr items => exact .inr ⟨rfl, htype⟩
  | obj fields => exact .inl ⟨fields, rfl, rfl⟩

/-- A repair ends with a report. -/
lemma repairFakeReviewerOutput_ok (original : ReviewerExecution) (originalOutput : Json)
    {repairOutput : Json} (hlimit : withinDigitLimit repairOutput = true) :
    EndsReporting (repairFakeReviewerOutput repr original originalOutput repairOutput runKey)
      ((readOutput repairOutput).bind (accepted repr runKey)) := by
  unfold repairFakeReviewerOutput
  obtain ⟨fields, hread, hmapping⟩ | ⟨hnone, e, hmapping⟩ :=
    repairOutputMapping_ok repr runKey hlimit
  · rw [hmapping, ok_bind, hread]
    obtain ⟨n, hn, hcases⟩ := normalizeOutput_ok repr runKey fields
    simp only [hn, Option.bind_some]
    obtain ⟨e, hfail, rfl, herrors, haccepted⟩ | ⟨hnone, haccepted⟩ := hcases
    · obtain ⟨e', he'⟩ := repairNormalizationError_ok e
      have hmap : [e].mapM repairNormalizationError = .ok [e'] :=
        mapM_eq_ok.2 (.cons he' .nil)
      rw [herrors, if_pos (List.cons_ne_nil e []), hmap, ok_bind, haccepted]
      exact ⟨_, rfl, rfl⟩
    · rw [if_neg (not_not.2 hnone), haccepted]
      exact ⟨_, rfl, reports_completed n _ _⟩
  · rw [hmapping, ok_bind, hnone]
    exact ⟨_, rfl, rfl⟩

/-- The text of a provider ends with a report. -/
lemma resultFromProviderText_ok {text : Text} {value : Json} (hloads : Json.loads text = .ok value)
    (hredact : redactData value = value) :
    EndsReporting (resultFromProviderText repr text runKey) (accepted repr runKey value) := by
  have hother : ∃ r, resultFromProviderText.unusableResponse runKey "invalid_output_type"
      "live LLM provider response must be a JSON object" = .ok r ∧ r.status = .failed := by
    obtain ⟨r, hr, hstatus, -⟩ := unusable_ok runKey .null false
      (show ("invalid_output_type" : Text) ≠ [] by simp [Text.ofString_eq])
      (show ("live LLM provider response must be a JSON object" : Text) ≠ [] by
        simp [Text.ofString_eq])
    exact ⟨r, hr, hstatus⟩
  unfold resultFromProviderText
  rw [hloads]
  cases value with
  | obj fields =>
    obtain ⟨n, hn, hcases⟩ := normalizeOutput_ok repr runKey fields
    simp only [hredact, hn, ok_bind]
    obtain ⟨e, hfail, rfl, herrors, haccepted⟩ | ⟨hnone, haccepted⟩ := hcases
    · rw [herrors, if_pos (List.cons_ne_nil e []), haccepted]
      exact ⟨_, rfl, rfl⟩
    · rw [if_neg (not_not.2 hnone), haccepted]
      exact ⟨_, rfl, reports_completed n _ _⟩
  | null => exact hother
  | bool b => exact hother
  | int n => exact hother
  | float lexeme => exact hother
  | str s => exact hother
  | arr items => exact hother

/-- A text beyond the limit is refused. -/
lemma loads_of_not_withinDigitLimit {output : Json} (h : withinDigitLimit output = false) :
    ∃ text n, output = .str text ∧ Json.loads text = .error (.digitLimit n) := by
  cases output with
  | str text =>
    cases hloads : Json.loads text with
    | ok parsed => simp [withinDigitLimit, hloads] at h
    | error e =>
      cases e with
      | invalid => simp [withinDigitLimit, hloads] at h
      | digitLimit n => exact ⟨text, n, rfl, hloads⟩
  | _ => contradiction

/-- A text with too many digits raises. -/
lemma executeUnrepairedFakeOutput_ne_ok {output : Json} (h : withinDigitLimit output = false)
    (r : ReviewerExecution) : executeUnrepairedFakeOutput repr output runKey ≠ .ok r := by
  obtain ⟨text, n, rfl, hloads⟩ := loads_of_not_withinDigitLimit h
  simp [executeUnrepairedFakeOutput, hloads]

/-- So does a repair with too many digits. -/
lemma repairOutputMapping_ne_ok {output : Json} (h : withinDigitLimit output = false)
    (mapping : List (Text × Json) ⊕ Checked NormalizationError) :
    repairOutputMapping output runKey ≠ .ok mapping := by
  obtain ⟨text, n, rfl, hloads⟩ := loads_of_not_withinDigitLimit h
  simp [repairOutputMapping, hloads]

/-- A valid envelope ends with its output, or with the repair if its output can be repaired. -/
lemma executeFakeReviewer_envelope {fields : List (Text × Json)} (henvelope : isEnvelope fields =
    true)
    (hvalid : validateRepairEnvelope fields runKey.val.reviewer runKey.val.stage.value = .ok ())
    (hlimit : envelopeWithinDigitLimit repr runKey fields = true) :
    EndsReporting (executeFakeReviewer repr (some (.obj fields)) runKey)
      (acceptedEnvelope repr runKey fields) := by
  simp only [envelopeWithinDigitLimit, Bool.and_eq_true, Bool.or_eq_true,
    Bool.not_eq_true'] at hlimit
  obtain ⟨hraw, hrepairLimit⟩ := hlimit
  obtain ⟨r, hr, hreports, hrepair⟩ := executeUnrepairedFakeOutput_ok repr runKey hraw
  simp only [executeFakeReviewer, acceptedEnvelope]
  rw [if_pos henvelope, hvalid, ok_bind, hr, ok_bind]
  by_cases hrepairable : isRepairable repr runKey ((Json.lookup fields "raw_output").getD .null) =
    true
  · rw [if_pos (hrepair.2 hrepairable), if_pos hrepairable]
    exact repairFakeReviewerOutput_ok repr runKey r _
      (hrepairLimit.resolve_left (by simp [hrepairable]))
  · rw [if_neg (fun h => hrepairable (hrepair.1 h)), if_neg hrepairable]
    exact ⟨r, rfl, hreports⟩

/-- An envelope beyond the limit ends in an exception. -/
lemma executeFakeReviewer_ne_ok {fields : List (Text × Json)} (henvelope : isEnvelope fields = true)
    (hlimit : ¬ envelopeWithinDigitLimit repr runKey fields = true) (r : ReviewerExecution) :
    executeFakeReviewer repr (some (.obj fields)) runKey ≠ .ok r := by
  intro h
  simp only [executeFakeReviewer, if_pos henvelope] at h
  obtain ⟨original, horiginal, h⟩ := bind_eq_ok.1 (check_bind_eq_ok.1 h).2
  by_cases hraw : withinDigitLimit ((Json.lookup fields "raw_output").getD .null) = true
  · obtain ⟨original', horiginal', -, hrepair⟩ := executeUnrepairedFakeOutput_ok repr runKey hraw
    obtain rfl := Except.ok.inj (horiginal.symm.trans horiginal')
    simp only [envelopeWithinDigitLimit, hraw, Bool.true_and, Bool.or_eq_true, Bool.not_eq_true',
      not_or, Bool.not_eq_false, Bool.not_eq_true] at hlimit
    rw [if_pos (hrepair.2 hlimit.1)] at h
    obtain ⟨mapping, hmapping, -⟩ := bind_eq_ok.1 h
    exact repairOutputMapping_ne_ok runKey hlimit.2 mapping hmapping
  · exact executeUnrepairedFakeOutput_ne_ok repr runKey (Bool.eq_false_of_not_eq_true hraw) original
      horiginal

/-! ## Agreement of the paths -/

/-- A repair envelope of the reviewer, with a first output that is no JSON. -/
structure IsRepairOf (fields : List (Text × Json)) (output : Json) : Prop where
  keys : ∀ key ∈ fields.map Prod.fst, key ∈ envelopeFields
  reviewer : Json.lookup fields "reviewer" = some (.str runKey.val.reviewer)
  stage : Json.lookup fields "stage" = some (.str runKey.val.stage.value)
  rawOutput : ∃ text, Json.lookup fields "raw_output" = some (.str text) ∧
    Json.loads text = .error .invalid
  repairOutput : Json.lookup fields "repair_output" = some output

/-- The executions in which a value is the output of the reviewer: an adapter returns it, an adapter
repairs an output with it, or a provider responds with it. -/
inductive ExecutionOf (value : Json) : Result ReviewerExecution → Prop
  | direct {output : Json} (read : readOutput output = some value) :
      ExecutionOf value (executeFakeReviewer repr (some output) runKey)
  | repaired {fields : List (Text × Json)} {output : Json} (read : readOutput output = some value)
      (envelope : IsRepairOf runKey fields output) :
      ExecutionOf value (executeFakeReviewer repr (some (.obj fields)) runKey)
  | live {text : Text} (decoded : Json.loads text = .ok value) :
      ExecutionOf value (resultFromProviderText repr text runKey)

/-- Both executions complete with the same artifacts, or both fail. -/
def SameExecution (x y : Result ReviewerExecution) : Prop :=
  ∃ a b, x = .ok a ∧ y = .ok b ∧
    ((a.status = .completed ∧ b.status = .completed ∧ a.findings = b.findings ∧
        a.localNotes = b.localNotes ∧ a.clarificationRequests = b.clarificationRequests ∧
        a.suggestedReplies = b.suggestedReplies ∧ a.suppressedOutputs = b.suppressedOutputs) ∨
      (a.status = .failed ∧ b.status = .failed))

/-- All executions of a value have the same outcome. -/
def PathsAgree (value : Json) : Prop :=
  ∀ x y, ExecutionOf repr runKey value x → ExecutionOf repr runKey value y → SameExecution x y

/-- The value is no object that declares a failure beside well-formed items, and if it asks for a
repair, it is a valid envelope within the limit for integers that is not accepted. -/
def AgreesOn (value : Json) : Prop :=
  match value with
  | .obj fields =>
    if isEnvelope fields then
      validateRepairEnvelope fields runKey.val.reviewer runKey.val.stage.value = .ok () ∧
        envelopeWithinDigitLimit repr runKey fields = true ∧ acceptedEnvelope repr runKey fields =
          none
    else ¬ (hasFailure fields = true ∧ (accepted repr runKey (.obj fields)).isSome = true)
  | _ => True

/-- Executions that report the same are the same. -/
lemma EndsReporting.sameExecution {x y : Result ReviewerExecution}
    {outcome : Option NormalizationResult}
    (hx : EndsReporting x outcome) (hy : EndsReporting y outcome) : SameExecution x y := by
  obtain ⟨a, ha, hareports⟩ := hx
  obtain ⟨b, hb, hbreports⟩ := hy
  refine ⟨a, b, ha, hb, ?_⟩
  cases outcome with
  | none => exact .inr ⟨hareports, hbreports⟩
  | some n =>
    obtain ⟨hastatus, haf, hac, han, har, has⟩ := hareports
    obtain ⟨hbstatus, hbf, hbc, hbn, hbr, hbs⟩ := hbreports
    exact .inl ⟨hastatus, hbstatus, haf.trans hbf.symm, han.trans hbn.symm, hac.trans hbc.symm,
      har.trans hbr.symm, has.trans hbs.symm⟩

/-- Executions with one outcome both complete or both fail. -/
lemma SameExecution.isSome_eq {x y : Result ReviewerExecution} {o o' : Option NormalizationResult}
    (h : SameExecution x y) (hx : EndsReporting x o) (hy : EndsReporting y o') :
      o.isSome = o'.isSome := by
  obtain ⟨a, b, ha, hb, hcases⟩ := h
  obtain ⟨r, hr, hreports⟩ := hx
  obtain ⟨r', hr', hreports'⟩ := hy
  obtain rfl := Except.ok.inj (ha.symm.trans hr)
  obtain rfl := Except.ok.inj (hb.symm.trans hr')
  cases o with
  | none =>
    cases o' with
    | none => rfl
    | some n' =>
      obtain ⟨hstatus, -⟩ | ⟨-, hstatus⟩ := hcases
      · exact absurd (hstatus.symm.trans hreports) (by decide)
      · exact absurd (hstatus.symm.trans hreports'.1) (by decide)
  | some n =>
    cases o' with
    | some n' => rfl
    | none =>
      obtain ⟨-, hstatus, -⟩ | ⟨hstatus, -⟩ := hcases
      · exact absurd (hstatus.symm.trans hreports') (by decide)
      · exact absurd (hstatus.symm.trans hreports.1) (by decide)

/-- A text of an envelope is read. -/
lemma requiredOutputStr_eq_ok {item : List (Text × Json)} {field value : Text}
    (h : Json.lookup item field = some (.str value)) (hne : value ≠ []) :
    requiredOutputStr item field = .ok value := by
  simp [requiredOutputStr, h, nonEmptyText?, hne]

/-- The value of a stage is not empty. -/
lemma stage_value_ne_nil (stage : ReviewStage) : stage.value ≠ [] := by
  cases stage <;> simp [ReviewStage.value, Text.ofString_eq]

/-- A text that stands for a value is within the limit. -/
lemma withinDigitLimit_of_readOutput {output value : Json} (h : readOutput output = some value) :
    withinDigitLimit output = true := by
  cases output with
  | str text =>
    cases hloads : Json.loads text with
    | ok parsed => simp [withinDigitLimit, hloads]
    | error e => simp [readOutput, hloads, Except.toOption] at h
  | _ => rfl

/-- A repair of the reviewer ends with the value that it is repaired with. -/
lemma IsRepairOf.endsReporting {fields : List (Text × Json)} {output value : Json}
    (h : IsRepairOf runKey fields output) (hread : readOutput output = some value) :
    EndsReporting (executeFakeReviewer repr (some (.obj fields)) runKey)
      (accepted repr runKey value) := by
  obtain ⟨text, hraw, hloads⟩ := h.rawOutput
  have henvelope : isEnvelope fields = true := by simp [isEnvelope, hraw]
  have hvalid : validateRepairEnvelope fields runKey.val.reviewer runKey.val.stage.value = .ok
      () := by
    unfold validateRepairEnvelope
    rw [require_eq_ok.2 h.keys, ok_bind,
      requiredOutputStr_eq_ok h.reviewer (ReviewerRunKey.reviewer_ne_nil runKey), ok_bind,
      requiredOutputStr_eq_ok h.stage (stage_value_ne_nil _), ok_bind, require_eq_ok.2 ⟨rfl, rfl⟩,
      ok_bind,
      require_eq_ok.2 (by rw [hraw]; rfl), ok_bind, require_eq_ok.2 (by rw [h.repairOutput]; rfl)]
  have hlimit : envelopeWithinDigitLimit repr runKey fields = true := by
    have htext : withinDigitLimit (.str text) = true := by simp [withinDigitLimit, hloads]
    unfold envelopeWithinDigitLimit
    rw [hraw, h.repairOutput]
    simp only [Option.getD_some, htext, withinDigitLimit_of_readOutput hread, Bool.or_true,
      Bool.and_self]
  have hends := executeFakeReviewer_envelope repr runKey henvelope hvalid hlimit
  unfold acceptedEnvelope at hends
  rw [hraw, h.repairOutput] at hends
  simp only [Option.getD_some, isRepairable, hloads, Except.toOption, Option.all_none, if_true,
    hread,
    Option.bind_some] at hends
  exact hends

/-- A valid envelope has no items. -/
lemma accepted_of_validateRepairEnvelope {fields : List (Text × Json)} {reviewer stage : Text}
    (hvalid : validateRepairEnvelope fields reviewer stage = .ok ()) :
    accepted repr runKey (.obj fields) = none := by
  have hkeys : ∀ key ∈ fields.map Prod.fst, key ∈ envelopeFields := by
    unfold validateRepairEnvelope at hvalid
    exact require_eq_ok.1 (check_bind_eq_ok.1 hvalid).1
  have hitems : Json.lookup fields "items" = none := by
    unfold Json.lookup
    rw [Option.map_eq_none_iff, List.find?_eq_none]
    intro field hfield hkey
    have hmem := hkeys field.1 (List.mem_map_of_mem hfield)
    rw [beq_iff_eq.1 hkey] at hmem
    exact absurd hmem (by decide +kernel)
  obtain ⟨e, he, hfail⟩ := invalidItems_ok fields runKey
  have hn : normalizeOutput repr fields runKey = .ok (fatalResult fields runKey e) := by
    unfold normalizeOutput normalizeReviewerOutput
    rw [hitems]
    exact he
  have herrors : (fatalResult fields runKey e).fatalErrors ≠ [] := by
    unfold NormalizationResult.fatalErrors fatalResult
    rw [List.filter_cons_of_pos (by exact hfail.fatal)]
    exact List.cons_ne_nil e _
  simp only [accepted, hn, if_neg herrors]

/-- Where the condition holds, a value that declares a failure is not accepted either way. -/
lemma AgreesOn.acceptedUnlessFailure {value : Json} (h : AgreesOn repr runKey value) :
    acceptedUnlessFailure repr runKey value = accepted repr runKey value := by
  cases value with
  | obj fields =>
    by_cases hfailure : hasFailure fields = true
    · have hnone : ReviewGraph.acceptedUnlessFailure repr runKey (.obj fields) = none :=
        if_pos hfailure
      rw [hnone]
      by_cases henvelope : isEnvelope fields = true
      · simp only [AgreesOn, if_pos henvelope] at h
        exact (accepted_of_validateRepairEnvelope repr runKey h.1).symm
      · simp only [AgreesOn, if_neg henvelope, not_and, Option.isSome_iff_ne_none, not_not] at h
        exact (h hfailure).symm
    · exact if_neg hfailure
  | _ => rfl

/-- Where the condition holds, every execution of a value ends alike. -/
lemma ExecutionOf.endsReporting {value : Json} {x : Result ReviewerExecution}
    (hredact : redactData value = value) (h : AgreesOn repr runKey value)
    (hx : ExecutionOf repr runKey value x) : EndsReporting x (accepted repr runKey value) := by
  cases hx with
  | repaired read envelope => exact envelope.endsReporting repr runKey read
  | live decoded => exact resultFromProviderText_ok repr runKey decoded hredact
  | @direct output read =>
    have hdirect : EndsReporting (executeUnrepairedFakeOutput repr output runKey)
        (accepted repr runKey value) := by
      obtain ⟨r, hr, hreports, -⟩ := executeUnrepairedFakeOutput_ok repr runKey
        (withinDigitLimit_of_readOutput read)
      rw [read, Option.bind_some, h.acceptedUnlessFailure] at hreports
      exact ⟨r, hr, hreports⟩
    cases output with
    | obj fields =>
      obtain rfl := Option.some.inj read
      by_cases henvelope : isEnvelope fields = true
      · unfold AgreesOn at h
        simp only [if_pos henvelope] at h
        have hends := executeFakeReviewer_envelope repr runKey henvelope h.1 h.2.1
        rw [h.2.2] at hends
        rw [accepted_of_validateRepairEnvelope repr runKey h.1]
        exact hends
      · simp only [executeFakeReviewer, if_neg henvelope]
        exact hdirect
    | null => exact hdirect
    | bool b => exact hdirect
    | int n => exact hdirect
    | float lexeme => exact hdirect
    | str s => exact hdirect
    | arr items => exact hdirect

/-- The repair of an output that is empty. -/
def repairEnvelope (output : Json) : List (Text × Json) :=
  [("reviewer", .str runKey.val.reviewer), ("stage", .str runKey.val.stage.value),
    ("raw_output", .str []), ("repair_output", output)]

/-- The envelope has the output as its repair. -/
lemma isRepairOf_repairEnvelope (output : Json) :
    IsRepairOf runKey (repairEnvelope runKey output) output where
  keys := by simp [repairEnvelope, envelopeFields]
  reviewer := by simp [repairEnvelope, Json.lookup]
  stage := by simp [repairEnvelope, Json.lookup, Text.ofString_eq]
  rawOutput := ⟨[], by simp [repairEnvelope, Json.lookup, Text.ofString_eq], by decide +kernel⟩
  repairOutput := by simp [repairEnvelope, Json.lookup, Text.ofString_eq]

/-- Where all executions of a value agree, the condition holds. -/
lemma PathsAgree.agreesOn {value : Json} (h : PathsAgree repr runKey value) :
    AgreesOn repr runKey value := by
  cases value with
  | obj fields =>
    have hsame := h _ _ (.direct (rfl : readOutput (.obj fields) = some (.obj fields)))
      (.repaired (rfl : readOutput (.obj fields) = some (.obj fields))
        (isRepairOf_repairEnvelope runKey (.obj fields)))
    have hrepaired := (isRepairOf_repairEnvelope runKey (.obj fields)).endsReporting repr runKey rfl
    by_cases henvelope : isEnvelope fields = true
    · simp only [AgreesOn, if_pos henvelope]
      have hvalid :
          validateRepairEnvelope fields runKey.val.reviewer runKey.val.stage.value = .ok () := by
        obtain ⟨a, b, ha, -⟩ := hsame
        simp only [executeFakeReviewer, if_pos henvelope] at ha
        exact (check_bind_eq_ok.1 ha).1
      have hlimit : envelopeWithinDigitLimit repr runKey fields = true := by
        by_contra hlimit
        obtain ⟨a, b, ha, -⟩ := hsame
        exact executeFakeReviewer_ne_ok repr runKey henvelope hlimit a ha
      have hdirect := executeFakeReviewer_envelope repr runKey henvelope hvalid hlimit
      rw [accepted_of_validateRepairEnvelope repr runKey hvalid] at hrepaired
      have hnone := hsame.isSome_eq hdirect hrepaired
      exact ⟨hvalid, hlimit, Option.isSome_eq_false_iff.1 hnone |> Option.isNone_iff_eq_none.1⟩
    · simp only [AgreesOn, if_neg henvelope]
      rintro ⟨hfailure, haccepted⟩
      obtain ⟨r, hr, hreports, -⟩ := @executeUnrepairedFakeOutput_ok repr runKey (.obj fields) rfl
      have hnone : acceptedUnlessFailure repr runKey (.obj fields) = none := if_pos hfailure
      have hdirect : EndsReporting (executeFakeReviewer repr (some (.obj fields)) runKey) none := by
        simp only [executeFakeReviewer, if_neg henvelope]
        refine ⟨r, hr, ?_⟩
        simp only [readOutput, Option.bind_some, hnone] at hreports
        exact hreports
      have hsome := hsame.isSome_eq hdirect hrepaired
      rw [haccepted] at hsome
      exact Bool.false_ne_true hsome
  | _ => trivial

/-- For a value without secrets, the ways to execute it agree exactly if it is no object that
declares a failure beside well-formed items, and no envelope that is invalid or accepted. -/
theorem pathsAgree_iff {value : Json} (hredact : redactData value = value) :
    PathsAgree repr runKey value ↔ AgreesOn repr runKey value := by
  constructor
  · intro h
    exact h.agreesOn
  · intro h x y hx hy
    exact (hx.endsReporting repr runKey hredact h).sameExecution
      (hy.endsReporting repr runKey hredact h)

end Paths

/-- A run of a first reviewer. -/
def firstRunKey : Checked ReviewerRunKey :=
  ⟨⟨['t'], ['c'], .initialTriage, ['r'], 1, none, none⟩, by decide +kernel⟩

/-- A finding and a note. -/
def twoItems : Json :=
  .arr [
    .obj [("type", .str "finding"), ("id", .str "f1"), ("severity", .str "warning"),
      ("confidence", .str "high"), ("path", .str "src/cache.py"), ("line", .int 3),
      ("title", .str "Cache key is dropped"), ("rationale", .str "The branch drops the key."),
      ("evidence", .str "Changed line 3."), ("evidence_sources", .arr [.str "diff"])],
    .obj [("type", .str "local_note"), ("id", .str "n1"), ("title", .str "Cache"),
      ("body", .str "The cache is shared."), ("evidence", .str "See line 3.")]]

/-- An output with a finding and a note. -/
def twoItemsOutput : Json := .obj [("items", twoItems)]

/-- Nothing in the output is secret, and both items are reported. -/
lemma twoItemsOutput_accepted : redactData twoItemsOutput = twoItemsOutput ∧
    ((accepted (fun _ => []) firstRunKey twoItemsOutput).map fun n =>
      (n.findings.map fun f => f.val.id, n.localNotes.map fun l => l.val.id)) =
        some ([("f1" : Text)], [("n1" : Text)]) := by
  decide +kernel

/-- All executions of the output agree, and complete with its finding and its note. -/
theorem pathsAgree_twoItems : redactData twoItemsOutput = twoItemsOutput ∧
    PathsAgree (fun _ => []) firstRunKey twoItemsOutput ∧
    ∃ n, accepted (fun _ => []) firstRunKey twoItemsOutput = some n ∧
      (n.findings.map fun f => f.val.id) = [("f1" : Text)] ∧
      (n.localNotes.map fun l => l.val.id) = [("n1" : Text)] := by
  obtain ⟨hredact, haccepted⟩ := twoItemsOutput_accepted
  obtain ⟨n, hn, hids⟩ := Option.map_eq_some_iff.1 haccepted
  refine ⟨hredact, (pathsAgree_iff (fun _ => []) firstRunKey hredact).2 ?_, n, hn, Prod.mk.inj hids⟩
  have henvelope : ¬ isEnvelope [("items", twoItems)] = true := by decide +kernel
  simp only [twoItemsOutput, AgreesOn, if_neg henvelope]
  rintro ⟨hfailure, -⟩
  simp [hasFailure, Json.lookup, Text.ofString_eq] at hfailure

/-- An output that declares a failure beside its items. -/
def failingOutput : Json := .obj [(("failure" : Text), .bool true), (("items" : Text), .arr [])]

/-- An adapter that returns the output fails, and one that repairs an output with it completes. -/
theorem pathsAgree_not : redactData failingOutput = failingOutput ∧
    ¬ PathsAgree (fun _ => []) firstRunKey failingOutput := by
  refine ⟨by decide +kernel, fun h => ?_⟩
  have hagrees := h.agreesOn
  have henvelope : ¬ isEnvelope [(("failure" : Text), .bool true), (("items" : Text), .arr [])] =
      true := by
    decide +kernel
  simp only [failingOutput, AgreesOn, if_neg henvelope] at hagrees
  exact hagrees ⟨by decide +kernel, by decide +kernel⟩

end ReviewGraph
