import ReviewGraph.Foundation.JsonStrings
import ReviewGraph.Foundation.Matches
import ReviewGraph.Foundation.Words
import ReviewGraph.Models.ReviewerContext

/-!
# The policy of live calls

`evaluate_live_llm_policy` of `llm_policy.py` decides whether a reviewer may call a provider, and
reserves the call in a ledger.  Its audit record contains data of the package that has been redacted
as JSON text, `redactedData`.
-/

namespace ReviewGraph

open ReviewTarget

/-! ## Inputs and results -/

/-- `LiveLLMBlockedReasonCode`. -/
inductive LiveLLMBlockedReasonCode
  | missingLiveOptIn
  | missingProvider
  | missingModel
  | reviewerRunKeyMismatch
  | reviewerAdapterBoundaryFailed
  | liveCallBudgetExceeded
  | liveCallReservationConflict
  | rawProviderNotApproved
  | rawTraceNotApproved
  deriving DecidableEq, Repr

/-- The string value of a reason. -/
def LiveLLMBlockedReasonCode.value : LiveLLMBlockedReasonCode → Text
  | missingLiveOptIn => "missing_live_opt_in"
  | missingProvider => "missing_provider"
  | missingModel => "missing_model"
  | reviewerRunKeyMismatch => "reviewer_run_key_mismatch"
  | reviewerAdapterBoundaryFailed => "reviewer_adapter_boundary_failed"
  | liveCallBudgetExceeded => "live_call_budget_exceeded"
  | liveCallReservationConflict => "live_call_reservation_conflict"
  | rawProviderNotApproved => "raw_provider_not_approved"
  | rawTraceNotApproved => "raw_trace_not_approved"

/-- `LiveLLMPolicyInput`. -/
structure LiveLLMPolicyInput where
  reviewerRunKey : Checked ReviewerRunKey
  liveLlmEnabled : Bool
  provider : Option Text
  model : Option Text
  liveLlmOptInSource : Option Text
  rawProviderSubmissionEnabled : Bool
  rawProviderSubmissionApproved : Bool
  rawProviderSubmissionOptInSource : Option Text
  rawTracePersistenceEnabled : Bool
  rawTracePersistenceApproved : Bool
  rawTracePersistenceOptInSource : Option Text
  deriving DecidableEq

instance : Record LiveLLMPolicyInput where
  postInit i := do
    requireOptionalNonEmpty i.provider "provider"
    requireOptionalNonEmpty i.model "model"
    requireOptionalNonEmpty i.liveLlmOptInSource "live_llm_opt_in_source"
    requireOptionalNonEmpty i.rawProviderSubmissionOptInSource
      "raw_provider_submission_opt_in_source"
    requireOptionalNonEmpty i.rawTracePersistenceOptInSource "raw_trace_persistence_opt_in_source"

/-- `LiveLLMReservation`. -/
structure LiveLLMReservation where
  runKeyStable : Text
  reservationKey : Text
  provider : Text
  model : Text
  targetHash : Text
  configHash : Text
  requestHash : Text
  requestByteCount : ℕ
  packageFingerprint : Text
  deriving DecidableEq

/-- `LiveLLMBudgetLedger`. -/
structure LiveLLMBudgetLedger where
  reservations : List LiveLLMReservation
  deriving DecidableEq

namespace LiveLLMBudgetLedger

/-- `reserved_live_calls`. -/
def reservedLiveCalls (ledger : LiveLLMBudgetLedger) : ℕ := ledger.reservations.length

/-- `reservation_for_run_key`. -/
def reservationForRunKey (ledger : LiveLLMBudgetLedger) (runKeyStable : Text) :
    Option LiveLLMReservation :=
  ledger.reservations.find? fun r => r.runKeyStable = runKeyStable

/-- `reserve`. -/
def reserve (ledger : LiveLLMBudgetLedger) (reservation : LiveLLMReservation) :
    LiveLLMBudgetLedger := ⟨ledger.reservations ++ [reservation]⟩

end LiveLLMBudgetLedger

/-- The status of a reservation. -/
inductive ReservationStatus
  | notReserved
  | new
  | existing
  | conflict
  | blocked
  deriving DecidableEq, Repr

/-- `LiveLLMProviderExecutionPlan`. -/
structure LiveLLMProviderExecutionPlan where
  provider : Text
  model : Text
  reviewer : Text
  reviewerRunKey : Checked ReviewerRunKey
  reservationKey : Text
  reservationStatus : ReservationStatus
  targetHash : Text
  contextPolicy : Option Text
  requestText : Text
  requestHash : Text
  requestByteCount : ℕ
  packageFingerprint : Text
  redactionStatus : Checked RedactionStatus
  rawProviderSubmissionEnabled : Bool
  rawProviderSubmissionApproved : Bool
  rawProviderSubmissionOptInSource : Option Text
  rawTracePersistenceEnabled : Bool
  rawTracePersistenceApproved : Bool
  rawTracePersistenceOptInSource : Option Text
  liveCallBudgetCost : ℕ
  budgetBefore : ℕ
  budgetAfter : ℕ
  preview : ProviderRequestPreview
  deriving DecidableEq

/-- `LiveLLMPolicyAuditRecord`. -/
structure LiveLLMPolicyAuditRecord where
  approved : Bool
  reasonCode : Option LiveLLMBlockedReasonCode
  provider : Option Text
  model : Option Text
  reviewer : Text
  reviewerRunKey : Text
  reservationKey : Option Text
  reservationStatus : ReservationStatus
  target : Json
  targetHash : Text
  context : Json
  redactionStatus : Checked RedactionStatus
  rawProviderSubmission : Json
  rawTracePersistence : Json
  optIn : Json
  budgetLimit : ℕ
  budgetBefore : ℕ
  budgetAfter : ℕ
  budgetCost : ℕ
  packageFingerprint : Text
  requestHash : Option Text
  requestByteCount : Option ℕ
  traceRequestText : Option Text

/-- `LiveLLMPolicyResult`; the status is whether the call is approved. -/
structure LiveLLMPolicyResult where
  approved : Bool
  reasonCode : Option LiveLLMBlockedReasonCode
  executionPlan : Option LiveLLMProviderExecutionPlan
  ledger : LiveLLMBudgetLedger
  auditRecord : LiveLLMPolicyAuditRecord

/-! ## Hashes -/

/-- `ReviewerRunKey.stable_key`. -/
def ReviewerRunKey.stableKey (k : ReviewerRunKey) : Text :=
  Json.asciiDumps (.obj [("attempt", .int k.attempt),
    ("clarification_id", optionalJson k.clarificationId), ("config_hash", .str k.configHash),
    ("retry_of", optionalJson k.retryOf), ("reviewer", .str k.reviewer),
    ("stage", .str k.stage.value), ("target_hash", .str k.targetHash)])

/-- `_domain_json_hash` of `llm_policy.py`. -/
def policyJsonHash (domain : Text) (data : Json) : Text :=
  sha256Text (Json.asciiDumps (.obj [("domain", .str domain), ("data", data)]))

/-- `_context_budget_fingerprint`. -/
def contextBudgetFingerprint (budget : ContextBudget) : Json :=
  .obj [("max_changed_files", .int budget.maxChangedFiles),
    ("max_live_calls", .int budget.maxLiveCalls), ("max_memory_bytes", .int budget.maxMemoryBytes),
    ("max_patch_bytes", .int budget.maxPatchBytes), ("max_reviewers", .int budget.maxReviewers),
    ("original_changed_file_count", .int budget.originalChangedFileCount),
    ("retained_changed_file_count", .int budget.retainedChangedFileCount),
    ("original_patch_bytes", .int budget.originalPatchBytes),
    ("retained_patch_bytes", .int budget.retainedPatchBytes),
    ("original_memory_count", .int budget.originalMemoryCount),
    ("retained_memory_count", .int budget.retainedMemoryCount),
    ("original_memory_bytes", .int budget.originalMemoryBytes),
    ("retained_memory_bytes", .int budget.retainedMemoryBytes),
    ("original_reviewer_count", .int budget.originalReviewerCount),
    ("retained_reviewer_count", .int budget.retainedReviewerCount),
    ("omitted_file_paths", textsJson budget.omittedFilePaths),
    ("omitted_memory_ids", textsJson budget.omittedMemoryIds),
    ("planned_live_calls", .int budget.plannedLiveCalls), ("reasons", textsJson budget.reasons),
    ("retained_file_paths", textsJson budget.retainedFilePaths),
    ("retained_memory_ids", textsJson budget.retainedMemoryIds),
    ("retained_reviewer_ids", textsJson budget.retainedReviewerIds),
    ("deferred_reviewer_ids", textsJson budget.deferredReviewerIds),
    ("retained_live_call_reviewer_ids", textsJson budget.retainedLiveCallReviewerIds),
    ("deferred_live_call_reviewer_ids", textsJson budget.deferredLiveCallReviewerIds),
    ("generated_local_note_ids", textsJson budget.generatedLocalNoteIds),
    ("truncation", .arr (budget.truncation.map fun notice => truncationDict notice.val)),
    ("omitted_context", .arr (budget.omittedContext.map fun marker =>
      .obj [("affected_id", .str marker.val.affectedId), ("dimension", .str marker.val.dimension),
        ("id", .str marker.val.id), ("original_bytes", optionalCount marker.val.originalBytes),
        ("original_count", optionalCount marker.val.originalCount),
        ("reason_code", .str marker.val.reasonCode),
        ("retained_bytes", optionalCount marker.val.retainedBytes),
        ("retained_count", optionalCount marker.val.retainedCount),
        ("source", .str marker.val.source)]))]

/-- The data of `live_llm_package_fingerprint`. -/
def packageFingerprintData (package : ReviewerContextPackage) : Json :=
  .obj [("active_stage", .str package.activeStage),
    ("capability_policy", package.trace.capabilityPolicy),
    ("changed_files", .arr (package.changedFiles.map fun file => changedFileDict file.val)),
    ("config", package.trace.config),
    ("context_budget", contextBudgetFingerprint package.contextBudget.val),
    ("local_notes", .arr (package.localNotes.map fun note =>
      .obj [("body", .str note.val.body), ("evidence", .str note.val.evidence),
        ("id", .str note.val.id), ("title", .str note.val.title)])),
    ("memory", .arr (package.memoryReferences.map fun m =>
      .obj [("actionable", .bool m.val.actionable), ("body", optionalJson m.val.body),
        ("id", .str m.val.id), ("passive_reason", optionalJson m.val.passiveReason),
        ("resolved_status", .str m.val.resolvedStatus),
        ("source_id", optionalJson m.val.sourceId),
        ("source_provider", optionalJson m.val.sourceProvider),
        ("source_type", .str m.val.sourceType), ("thread_id", optionalJson m.val.threadId),
        ("trust_label", .str m.val.trustLabel)])),
    ("omitted_context", .arr package.trace.omittedContext),
    ("review_target", .obj package.reviewTarget.val.toOrderedDict),
    ("reviewer", .obj [("name", .str package.reviewer.val.name),
      ("reasons", textsJson package.reviewer.val.reasons),
      ("stage", .str package.reviewer.val.stage)]),
    ("truncation", .arr package.trace.truncation)]

/-- `live_llm_package_fingerprint`. -/
def liveLlmPackageFingerprint (package : ReviewerContextPackage) : Text :=
  policyJsonHash "reviewgraph.live_llm.package.v1" (packageFingerprintData package)

/-- `_reservation_key`. -/
def reservationKey (input : LiveLLMPolicyInput) (provider model requestHash : Text) : Text :=
  policyJsonHash "reviewgraph.live_llm.reservation.v1"
    (.obj [("config_hash", .str input.reviewerRunKey.val.configHash), ("model", .str model),
      ("provider", .str provider), ("request_hash", .str requestHash),
      ("run_key", .str input.reviewerRunKey.val.stableKey),
      ("target_hash", .str input.reviewerRunKey.val.targetHash)])

/-! ## The audit record -/

/-- `LIVE_LLM_CALL_COST`. -/
def liveLlmCallCost : ℕ := 1

/-- `_redacted_data`: the data is encoded, redacted as a text, and decoded. -/
def redactedData (data : Json) : Result Json :=
  match Json.loads (redactText (Json.asciiDumps data)).text with
  | .ok redacted => .ok redacted
  | .error e => .error (.valueError e.message)

/-- `_redacted_scalar`. -/
def redactedScalar (value : Text) : Text := (redactText value).text

/-- `_context_audit`. -/
def contextAudit (package : ReviewerContextPackage) : Json :=
  let budget := package.contextBudget.val
  .obj [("active_stage", .str package.activeStage),
    ("context_policy", optionalJson package.reviewerConfig.contextPolicy),
    ("capabilities", textsJson package.reviewerConfig.capabilities),
    ("retained_file_paths", textsJson (if budget.retainedFilePaths = [] then
      package.changedFiles.map fun file => file.val.path else budget.retainedFilePaths)),
    ("retained_memory_ids", textsJson (if budget.retainedMemoryIds = [] then
      package.memoryReferences.map fun memory => memory.val.id else budget.retainedMemoryIds)),
    ("omitted_file_paths", textsJson budget.omittedFilePaths),
    ("omitted_memory_ids", textsJson budget.omittedMemoryIds),
    ("omitted_context", .arr package.trace.omittedContext),
    ("truncation", .arr package.trace.truncation)]

/-- The audited data of a raw submission or of the persistence of raw traces. -/
def rawOptionAudit (enabled approved : Bool) (optInSource : Option Text) : Json :=
  .obj [("enabled", .bool enabled), ("approved", .bool approved),
    ("opt_in_source", optionalJson optInSource)]

/-- The audited data of a raw submission. -/
def rawProviderAudit (input : LiveLLMPolicyInput) : Json :=
  rawOptionAudit input.rawProviderSubmissionEnabled input.rawProviderSubmissionApproved
    input.rawProviderSubmissionOptInSource

/-- The audited data of the persistence of raw traces. -/
def rawTraceAudit (input : LiveLLMPolicyInput) : Json :=
  rawOptionAudit input.rawTracePersistenceEnabled input.rawTracePersistenceApproved
    input.rawTracePersistenceOptInSource

/-- The audited data of the opt-in. -/
def optInAudit (input : LiveLLMPolicyInput) : Json :=
  .obj [("live_llm_enabled", .bool input.liveLlmEnabled),
    ("source", optionalJson input.liveLlmOptInSource)]

/-- The arguments of `_audit_record` besides the package and the policy input. -/
structure AuditArguments where
  approved : Bool
  reasonCode : Option LiveLLMBlockedReasonCode
  provider : Option Text
  model : Option Text
  reservationKey : Option Text := none
  reservationStatus : ReservationStatus := .notReserved
  budgetBefore : ℕ
  budgetAfter : ℕ
  requestHash : Option Text := none
  requestByteCount : Option ℕ := none
  packageFingerprint : Text
  redactionStatus : Checked RedactionStatus
  requestText : Option Text := none

/-- `_audit_record`. -/
def auditRecord (package : ReviewerContextPackage) (input : LiveLLMPolicyInput)
    (args : AuditArguments) : Result LiveLLMPolicyAuditRecord := do
  let target ← redactedData (.obj package.reviewTarget.val.toOrderedDict)
  let context ← redactedData (contextAudit package)
  let rawProviderSubmission ← redactedData (rawProviderAudit input)
  let rawTracePersistence ← redactedData (rawTraceAudit input)
  let optIn ← redactedData (optInAudit input)
  return {
    approved := args.approved
    reasonCode := args.reasonCode
    provider := args.provider.map redactedScalar
    model := args.model.map redactedScalar
    reviewer := package.reviewer.val.name
    reviewerRunKey := input.reviewerRunKey.val.stableKey
    reservationKey := args.reservationKey
    reservationStatus := args.reservationStatus
    target
    targetHash := package.reviewTarget.val.targetHash
    context
    redactionStatus := args.redactionStatus
    rawProviderSubmission
    rawTracePersistence
    optIn
    budgetLimit := package.contextBudget.val.maxLiveCalls
    budgetBefore := args.budgetBefore
    budgetAfter := args.budgetAfter
    budgetCost := liveLlmCallCost
    packageFingerprint := args.packageFingerprint
    requestHash := args.requestHash
    requestByteCount := args.requestByteCount
    traceRequestText :=
      if input.rawTracePersistenceEnabled && input.rawTracePersistenceApproved then args.requestText
      else none }

/-! ## The evaluation -/

/-- `_normalized_non_empty`. -/
def normalizedNonEmpty (value : Option Text) : Option Text :=
  (value.map Text.strip).filter (· ≠ [])

/-- The status of a redaction that finds nothing is valid. -/
lemma emptyRedactionStatus_valid :
    Record.postInit (⟨false, 0, [], .pass⟩ : RedactionStatus) = .ok () := by
  decide +kernel

/-- `_empty_redaction_status`. -/
def emptyRedactionStatus : Checked RedactionStatus :=
  ⟨⟨false, 0, [], .pass⟩, emptyRedactionStatus_valid⟩

/-- What is known of a request when it is blocked or approved. -/
structure RequestFacts where
  provider : Text
  model : Text
  preview : ProviderRequestPreview
  requestHash : Text
  requestByteCount : ℕ
  packageFingerprint : Text
  reservationKey : Text
  deriving DecidableEq

/-- The request of a package that passes the first checks. -/
def requestFacts (package : ReviewerContextPackage) (input : LiveLLMPolicyInput)
    (provider model : Text) : RequestFacts :=
  let preview := { buildProviderRequestPreview package (some provider)
      input.rawProviderSubmissionEnabled input.rawTracePersistenceEnabled with
    model := some model
    liveCallBudgetCost := liveLlmCallCost }
  let requestHash := policyJsonHash "reviewgraph.live_llm.request.v1"
    (.obj [("request_text", .str preview.requestText)])
  { provider
    model
    preview
    requestHash
    requestByteCount := utf8Length preview.requestText
    packageFingerprint := liveLlmPackageFingerprint package
    reservationKey := reservationKey input provider model requestHash }

/-- `_blocked` before there is a request. -/
def blockedEarly (package : ReviewerContextPackage) (input : LiveLLMPolicyInput)
    (ledger : LiveLLMBudgetLedger) (reasonCode : LiveLLMBlockedReasonCode) :
    Result LiveLLMPolicyResult := do
  let auditRecord ← auditRecord package input {
    approved := false
    reasonCode := some reasonCode
    provider := normalizedNonEmpty input.provider
    model := normalizedNonEmpty input.model
    budgetBefore := ledger.reservedLiveCalls
    budgetAfter := ledger.reservedLiveCalls
    packageFingerprint := liveLlmPackageFingerprint package
    redactionStatus := emptyRedactionStatus }
  return {
    approved := false, reasonCode := some reasonCode, executionPlan := none, ledger, auditRecord }

/-- `_blocked` with a request. -/
def blockedRequest (package : ReviewerContextPackage) (input : LiveLLMPolicyInput)
    (ledger : LiveLLMBudgetLedger) (facts : RequestFacts) (reasonCode : LiveLLMBlockedReasonCode)
    (reservationStatus : ReservationStatus) : Result LiveLLMPolicyResult := do
  let auditRecord ← auditRecord package input {
    approved := false
    reasonCode := some reasonCode
    provider := some facts.provider
    model := some facts.model
    reservationKey := some facts.reservationKey
    reservationStatus
    budgetBefore := ledger.reservedLiveCalls
    budgetAfter := ledger.reservedLiveCalls
    requestHash := some facts.requestHash
    requestByteCount := some facts.requestByteCount
    packageFingerprint := facts.packageFingerprint
    redactionStatus := facts.preview.redactionStatus }
  return {
    approved := false, reasonCode := some reasonCode, executionPlan := none, ledger, auditRecord }

/-- The plan of an approved call. -/
def executionPlan (package : ReviewerContextPackage) (input : LiveLLMPolicyInput)
    (facts : RequestFacts) (reservationStatus : ReservationStatus) (budgetBefore budgetAfter : ℕ) :
    LiveLLMProviderExecutionPlan where
  provider := facts.provider
  model := facts.model
  reviewer := package.reviewer.val.name
  reviewerRunKey := input.reviewerRunKey
  reservationKey := facts.reservationKey
  reservationStatus
  targetHash := package.reviewTarget.val.targetHash
  contextPolicy := package.reviewerConfig.contextPolicy
  requestText := facts.preview.requestText
  requestHash := facts.requestHash
  requestByteCount := facts.requestByteCount
  packageFingerprint := facts.packageFingerprint
  redactionStatus := facts.preview.redactionStatus
  rawProviderSubmissionEnabled := input.rawProviderSubmissionEnabled
  rawProviderSubmissionApproved := input.rawProviderSubmissionApproved
  rawProviderSubmissionOptInSource := input.rawProviderSubmissionOptInSource
  rawTracePersistenceEnabled := input.rawTracePersistenceEnabled
  rawTracePersistenceApproved := input.rawTracePersistenceApproved
  rawTracePersistenceOptInSource := input.rawTracePersistenceOptInSource
  liveCallBudgetCost := liveLlmCallCost
  budgetBefore
  budgetAfter
  preview := facts.preview

/-- `_approved`. -/
def approvedRequest (package : ReviewerContextPackage) (input : LiveLLMPolicyInput)
    (ledger : LiveLLMBudgetLedger) (facts : RequestFacts) (reservationStatus : ReservationStatus)
    (budgetBefore budgetAfter : ℕ) : Result LiveLLMPolicyResult := do
  let auditRecord ← auditRecord package input {
    approved := true
    reasonCode := none
    provider := some facts.provider
    model := some facts.model
    reservationKey := some facts.reservationKey
    reservationStatus
    budgetBefore
    budgetAfter
    requestHash := some facts.requestHash
    requestByteCount := some facts.requestByteCount
    packageFingerprint := facts.packageFingerprint
    redactionStatus := facts.preview.redactionStatus
    requestText := some facts.preview.requestText }
  return {
    approved := true
    reasonCode := none
    executionPlan := some
      (executionPlan package input facts reservationStatus budgetBefore budgetAfter)
    ledger
    auditRecord }

/-- The reservation of a request. -/
def newReservation (input : LiveLLMPolicyInput) (facts : RequestFacts) : LiveLLMReservation where
  runKeyStable := input.reviewerRunKey.val.stableKey
  reservationKey := facts.reservationKey
  provider := redactedScalar facts.provider
  model := redactedScalar facts.model
  targetHash := input.reviewerRunKey.val.targetHash
  configHash := input.reviewerRunKey.val.configHash
  requestHash := facts.requestHash
  requestByteCount := facts.requestByteCount
  packageFingerprint := facts.packageFingerprint

/-- The part of `evaluate_live_llm_policy` that looks at the ledger. -/
def evaluateLedger (package : ReviewerContextPackage) (input : LiveLLMPolicyInput)
    (ledger : LiveLLMBudgetLedger) (facts : RequestFacts) : Result LiveLLMPolicyResult :=
  let budgetBefore := ledger.reservedLiveCalls
  match ledger.reservationForRunKey input.reviewerRunKey.val.stableKey with
  | some existing =>
    if existing.reservationKey ≠ facts.reservationKey then
      blockedRequest package input ledger facts .liveCallReservationConflict .conflict
    else if existing.packageFingerprint ≠ facts.packageFingerprint then
      blockedRequest package input ledger facts .liveCallReservationConflict .conflict
    else if package.contextBudget.val.maxLiveCalls < ledger.reservedLiveCalls then
      blockedRequest package input ledger facts .liveCallBudgetExceeded .blocked
    else approvedRequest package input ledger facts .existing budgetBefore budgetBefore
  | none =>
    if package.contextBudget.val.maxLiveCalls < budgetBefore + liveLlmCallCost then
      blockedRequest package input ledger facts .liveCallBudgetExceeded .blocked
    else
      let nextLedger := ledger.reserve (newReservation input facts)
      approvedRequest package input nextLedger facts .new budgetBefore nextLedger.reservedLiveCalls

/-- `evaluate_live_llm_policy`. -/
def evaluateLiveLlmPolicy (package : ReviewerContextPackage) (input : LiveLLMPolicyInput)
    (ledger : LiveLLMBudgetLedger) : Result LiveLLMPolicyResult :=
  match validateReviewerAdapterInput package input.reviewerRunKey.val with
  | .error exc => blockedEarly package input ledger
      (if exc.message.contains "run key" then .reviewerRunKeyMismatch
        else .reviewerAdapterBoundaryFailed)
  | .ok () =>
  if input.liveLlmEnabled = false ∨ normalizedNonEmpty input.liveLlmOptInSource = none then
    blockedEarly package input ledger .missingLiveOptIn
  else
  match normalizedNonEmpty input.provider with
  | none => blockedEarly package input ledger .missingProvider
  | some provider =>
  match normalizedNonEmpty input.model with
  | none => blockedEarly package input ledger .missingModel
  | some model =>
  if input.rawProviderSubmissionEnabled = true ∧ input.rawProviderSubmissionApproved = false ∨
      input.rawProviderSubmissionApproved = true ∧
        normalizedNonEmpty input.rawProviderSubmissionOptInSource = none then
    blockedEarly package input ledger .rawProviderNotApproved
  else if input.rawTracePersistenceEnabled = true ∧ input.rawTracePersistenceApproved = false ∨
      input.rawTracePersistenceApproved = true ∧
        normalizedNonEmpty input.rawTracePersistenceOptInSource = none then
    blockedEarly package input ledger .rawTraceNotApproved
  else evaluateLedger package input ledger (requestFacts package input provider model)

/-! ## What an evaluation does -/

/-- The possible results of an evaluation. -/
inductive PolicyOutcome (package : ReviewerContextPackage) (input : LiveLLMPolicyInput)
    (ledger : LiveLLMBudgetLedger) (r : LiveLLMPolicyResult) : Prop
  /-- The call is not allowed; for want of budget only if the ledger is full. -/
  | blocked (approved : r.approved = false) (plan : r.executionPlan = none)
      (ledger_eq : r.ledger = ledger)
      (budget : r.reasonCode = some .liveCallBudgetExceeded →
        package.contextBudget.val.maxLiveCalls ≤ ledger.reservedLiveCalls)
  /-- The key has a reservation for this request. -/
  | existing (reservation : LiveLLMReservation) (plan : LiveLLMProviderExecutionPlan)
      (approved : r.approved = true) (plan_eq : r.executionPlan = some plan)
      (reason : r.reasonCode = none)
      (key : plan.reviewerRunKey = input.reviewerRunKey) (ledger_eq : r.ledger = ledger)
      (reserved : ledger.reservationForRunKey input.reviewerRunKey.val.stableKey = some reservation)
      (same : reservation.reservationKey = plan.reservationKey)
  /-- A new call is reserved. -/
  | new (reservation : LiveLLMReservation) (plan : LiveLLMProviderExecutionPlan)
      (approved : r.approved = true) (plan_eq : r.executionPlan = some plan)
      (reason : r.reasonCode = none)
      (key : plan.reviewerRunKey = input.reviewerRunKey)
      (fresh : ledger.reservationForRunKey input.reviewerRunKey.val.stableKey = none)
      (within : ledger.reservedLiveCalls < package.contextBudget.val.maxLiveCalls)
      (stable : reservation.runKeyStable = input.reviewerRunKey.val.stableKey)
      (same : reservation.reservationKey = plan.reservationKey)
      (ledger_eq : r.ledger = ledger.reserve reservation)

/-- A computation that makes an audit record and then has one of the possible results. -/
def Audited (package : ReviewerContextPackage) (input : LiveLLMPolicyInput)
    (ledger : LiveLLMBudgetLedger) (x : Result LiveLLMPolicyResult) : Prop :=
  ∃ (args : AuditArguments) (finish : LiveLLMPolicyAuditRecord → LiveLLMPolicyResult),
    x = (do let record ← auditRecord package input args; return finish record) ∧
      ∀ record, PolicyOutcome package input ledger (finish record)

section
variable (package : ReviewerContextPackage) (input : LiveLLMPolicyInput)
  (ledger : LiveLLMBudgetLedger)

/-- A call that is blocked early is audited. -/
lemma audited_blockedEarly {reasonCode : LiveLLMBlockedReasonCode}
    (h : reasonCode ≠ .liveCallBudgetExceeded) :
    Audited package input ledger (blockedEarly package input ledger reasonCode) := by
  refine ⟨_, _, rfl, fun record => .blocked rfl rfl rfl ?_⟩
  intro hreason
  exact absurd (Option.some.inj hreason) h

/-- So is one whose request is blocked. -/
lemma audited_blockedRequest (facts : RequestFacts) {reasonCode : LiveLLMBlockedReasonCode}
    {status : ReservationStatus} (h : reasonCode = .liveCallBudgetExceeded →
      package.contextBudget.val.maxLiveCalls ≤ ledger.reservedLiveCalls) :
    Audited package input ledger
      (blockedRequest package input ledger facts reasonCode status) := by
  refine ⟨_, _, rfl, fun record => .blocked rfl rfl rfl ?_⟩
  intro hreason
  exact h (Option.some.inj hreason)

/-- So is one that the ledger decides. -/
lemma audited_evaluateLedger (facts : RequestFacts) :
    Audited package input ledger (evaluateLedger package input ledger facts) := by
  unfold evaluateLedger
  dsimp only
  split
  · rename_i reservation hreserved
    split
    · exact audited_blockedRequest package input ledger facts (by simp)
    rename_i hkey
    split
    · exact audited_blockedRequest package input ledger facts (by simp)
    split
    · rename_i hfull
      exact audited_blockedRequest package input ledger facts fun _ => hfull.le
    · exact ⟨_, _, rfl, fun record =>
        .existing reservation _ rfl rfl rfl rfl rfl hreserved (not_not.1 hkey)⟩
  · rename_i hfresh
    split
    · rename_i hfull
      exact audited_blockedRequest package input ledger facts fun _ => Nat.lt_succ_iff.1 hfull
    · rename_i hwithin
      exact ⟨_, _, rfl, fun record =>
        .new _ _ rfl rfl rfl rfl hfresh (Nat.lt_of_succ_le (not_lt.1 hwithin)) rfl rfl rfl⟩

/-- Every evaluation makes an audit record of the same data. -/
lemma audited_evaluateLiveLlmPolicy :
    Audited package input ledger (evaluateLiveLlmPolicy package input ledger) := by
  unfold evaluateLiveLlmPolicy
  split
  · refine audited_blockedEarly package input ledger ?_
    split <;> simp
  split
  · exact audited_blockedEarly package input ledger (by simp)
  split
  · exact audited_blockedEarly package input ledger (by simp)
  split
  · exact audited_blockedEarly package input ledger (by simp)
  split
  · exact audited_blockedEarly package input ledger (by simp)
  split
  · exact audited_blockedEarly package input ledger (by simp)
  · exact audited_evaluateLedger package input ledger _

variable {package input ledger}

/-- What an evaluation that returns has done. -/
theorem policyOutcome_of_ok {r : LiveLLMPolicyResult}
    (h : evaluateLiveLlmPolicy package input ledger = .ok r) :
    PolicyOutcome package input ledger r := by
  obtain ⟨args, finish, heq, houtcome⟩ := audited_evaluateLiveLlmPolicy package input ledger
  rw [heq] at h
  obtain ⟨record, -, hret⟩ := bind_eq_ok.1 h
  exact pure_eq_ok.1 hret ▸ houtcome record

/-- An evaluation that does not allow the call leaves the ledger as it was. -/
lemma PolicyOutcome.ledger_of_blocked {r : LiveLLMPolicyResult}
    (h : PolicyOutcome package input ledger r) (hblocked : r.approved = false) :
    r.ledger = ledger := by
  cases h with
  | blocked _ _ hledger _ => exact hledger
  | existing _ _ happroved =>
    rw [happroved] at hblocked
    contradiction
  | new _ _ happroved =>
    rw [happroved] at hblocked
    contradiction

/-! ## When an evaluation returns -/

/-- Data whose encoding is still JSON after secrets have been replaced in it. -/
def SurvivesRedaction (data : Json) : Prop :=
  (Json.loads (redactText (Json.asciiDumps data)).text).toOption.isSome = true

instance (data : Json) : Decidable (SurvivesRedaction data) :=
  inferInstanceAs (Decidable (_ = true))

/-- The data of an audit record that is redacted. -/
def auditedData (package : ReviewerContextPackage) (input : LiveLLMPolicyInput) : List Json :=
  [.obj package.reviewTarget.val.toOrderedDict, contextAudit package, rawProviderAudit input,
    rawTraceAudit input, optInAudit input]

/-- Data is redacted exactly if it survives. -/
lemma redactedData_ok_iff {data : Json} :
    (∃ redacted, redactedData data = .ok redacted) ↔ SurvivesRedaction data := by
  unfold redactedData SurvivesRedaction
  cases Json.loads (redactText (Json.asciiDumps data)).text with
  | error e => simp [Except.toOption]
  | ok redacted => simp [Except.toOption]

/-- An audit record is made exactly of data that survives its redaction. -/
lemma auditRecord_ok_iff (args : AuditArguments) :
    (∃ record, auditRecord package input args = .ok record) ↔
      ∀ data ∈ auditedData package input, SurvivesRedaction data := by
  unfold auditedData
  simp only [List.forall_mem_cons, ← redactedData_ok_iff]
  unfold auditRecord
  constructor
  · rintro ⟨record, h⟩
    obtain ⟨target, htarget, h⟩ := bind_eq_ok.1 h
    obtain ⟨context, hcontext, h⟩ := bind_eq_ok.1 h
    obtain ⟨submission, hsubmission, h⟩ := bind_eq_ok.1 h
    obtain ⟨persistence, hpersistence, h⟩ := bind_eq_ok.1 h
    obtain ⟨optIn, hoptIn, -⟩ := bind_eq_ok.1 h
    exact ⟨⟨target, htarget⟩, ⟨context, hcontext⟩, ⟨submission, hsubmission⟩,
      ⟨persistence, hpersistence⟩, ⟨optIn, hoptIn⟩, by simp⟩
  · rintro ⟨⟨target, htarget⟩, ⟨context, hcontext⟩, ⟨submission, hsubmission⟩,
      ⟨persistence, hpersistence⟩, ⟨optIn, hoptIn⟩, -⟩
    rw [htarget, ok_bind, hcontext, ok_bind, hsubmission, ok_bind, hpersistence, ok_bind, hoptIn,
      ok_bind]
    exact ⟨_, rfl⟩

end

/-! ## Data that survives -/

/-- No pattern of the redaction matches anywhere in a text. -/
def HasNoSecret (t : Text) : Prop :=
  ∀ (category : RedactionCategory) (left rest : Text), t = left ++ rest →
    ¬ category.rule.HasMatch (Regex.Pattern.lastOr none left) rest

/-- A text without secrets is left as it is. -/
lemma HasNoSecret.redactText_eq {t : Text} (h : HasNoSecret t) : (redactText t).text = t := by
  have hpass : ∀ category, redactCategory ⟨t, 0, []⟩ category = ⟨t, 0, []⟩ := by
    intro category
    have hsubn : category.rule.subn redactionToken t = (t, 0) :=
      Regex.Rule.substitute_of_matchless (Regex.Rule.matchless_of_not_hasMatch (h category))
    unfold redactCategory
    rw [hsubn]
    rfl
  have hpasses : ∀ categories : List RedactionCategory,
      categories.foldl redactCategory ⟨t, 0, []⟩ = ⟨t, 0, []⟩ := by
    intro categories
    induction categories with
    | nil => rfl
    | cons category categories ih => rw [List.foldl_cons, hpass, ih]
  exact congrArg RedactionResult.text (hpasses _)

/-- Data whose encoding has no secret, or has secrets inside its strings alone: the redaction changes
the encoding only to one with other contents of its strings. -/
structure SafelyRedacted (data : Json) : Prop where
  plain : data.Plain
  inStrings : HasNoSecret (Json.asciiDumps data) ∨
    Json.Reshapes (Json.asciiDumps data) (redactText (Json.asciiDumps data)).text

/-- Such data survives its redaction. -/
lemma SafelyRedacted.survives {data : Json} (h : SafelyRedacted data) : SurvivesRedaction data := by
  have hshape : Json.Reshapes (Json.asciiDumps data) (redactText (Json.asciiDumps data)).text := by
    rcases h.inStrings with hnone | hshape
    · rw [hnone.redactText_eq]
      exact (Json.reshapes_asciiDumps h.plain).refl_right
    · exact hshape
  obtain ⟨redacted, hredacted⟩ := Json.loads_of_reshapes_asciiDumps h.plain hshape
  unfold SurvivesRedaction
  rw [hredacted]
  rfl

/-- An evaluation returns, and leaves the ledger as it was unless the call is allowed, exactly if all
data of the audit record survives its redaction; and so it does if the redaction finds nothing in the
encodings of the data, or changes them inside their strings alone. -/
theorem evaluateLiveLlmPolicy_ok_iff (package : ReviewerContextPackage)
    (input : Checked LiveLLMPolicyInput) (ledger : LiveLLMBudgetLedger) :
    ((∃ r, evaluateLiveLlmPolicy package input.val ledger = .ok r ∧
        (r.approved = false → r.ledger = ledger)) ↔
      ∀ data ∈ auditedData package input.val, SurvivesRedaction data) ∧
    ((∀ data ∈ auditedData package input.val, SafelyRedacted data) →
      ∃ r, evaluateLiveLlmPolicy package input.val ledger = .ok r ∧
        (r.approved = false → r.ledger = ledger)) := by
  obtain ⟨args, finish, heq, -⟩ := audited_evaluateLiveLlmPolicy package input.val ledger
  have hreturns : (∀ data ∈ auditedData package input.val, SurvivesRedaction data) →
      ∃ r, evaluateLiveLlmPolicy package input.val ledger = .ok r ∧
        (r.approved = false → r.ledger = ledger) := by
    intro hsurvives
    obtain ⟨record, hrecord⟩ := (auditRecord_ok_iff args).2 hsurvives
    have hok : evaluateLiveLlmPolicy package input.val ledger = .ok (finish record) := by
      rw [heq, hrecord]
      rfl
    exact ⟨_, hok, (policyOutcome_of_ok hok).ledger_of_blocked⟩
  refine ⟨⟨?_, hreturns⟩, fun hsafe => hreturns fun data hdata => (hsafe data hdata).survives⟩
  rintro ⟨r, h, -⟩
  rw [heq] at h
  obtain ⟨record, hrecord, -⟩ := bind_eq_ok.1 h
  exact (auditRecord_ok_iff args).1 ⟨record, hrecord⟩

/-- The fields of the target are valid. -/
lemma keyPathTarget_valid :
    Record.postInit (⟨"o/r", 1, "b", "h", none, "d"⟩ : ReviewTarget) = .ok () := by
  decide +kernel

/-- A package with one changed file, whose path ends with what looks like a key. -/
def keyPathPackage : ReviewerContextPackage where
  reviewTarget := ⟨⟨"o/r", 1, "b", "h", none, "d"⟩, keyPathTarget_valid⟩
  activeStage := "initial_triage"
  reviewer := ⟨⟨"bugs", "initial_triage", [("always" : Text)]⟩, by decide +kernel⟩
  changedFiles := [⟨⟨"docs/api_key=0123456789ab", some "+x", 1, 0, "modified", none, "available"⟩,
    by decide +kernel⟩]
  memoryReferences := []
  truncationNotices := []
  omittedContext := []
  localNotes := []
  contextBudget := ⟨{
    maxChangedFiles := 1
    maxPatchBytes := 9
    maxMemoryBytes := 9
    maxReviewers := 1
    maxLiveCalls := 2 }, by decide +kernel⟩
  reviewerConfig := ⟨none, [], none, [("diff_context" : Text)], false, "comment"⟩
  capabilityPolicy := ⟨[("diff_context" : Text)], [], false, false, false⟩
  trace := ⟨[], [], [], .obj [], .obj []⟩

/-- The policy input of a live call that is enabled. -/
def enabledInput : Checked LiveLLMPolicyInput :=
  ⟨{ reviewerRunKey := ⟨⟨"t", "c", .initialTriage, "bugs", 1, none, none⟩, by decide +kernel⟩
     liveLlmEnabled := true
     provider := some "p"
     model := some "m"
     liveLlmOptInSource := some "cli"
     rawProviderSubmissionEnabled := false
     rawProviderSubmissionApproved := false
     rawProviderSubmissionOptInSource := none
     rawTracePersistenceEnabled := false
     rawTracePersistenceApproved := false
     rawTracePersistenceOptInSource := none }, by decide +kernel⟩

/-- The same package with a path in which a GitHub token follows the name of a key. -/
def tokenPathPackage : ReviewerContextPackage :=
  { keyPathPackage with
    changedFiles := [⟨⟨"docs/token=ghp_aaaaaaaaaaaaaaaaaaaaaaaa", some "+x", 1, 0, "modified", none,
      "available"⟩, by decide +kernel⟩] }

/-- The token is replaced inside the path, and the evaluation returns. -/
theorem evaluateLiveLlmPolicy_ok_tokenPath :
    redactedData (contextAudit tokenPathPackage) ≠ .ok (contextAudit tokenPathPackage) ∧
    ∃ r, evaluateLiveLlmPolicy tokenPathPackage enabledInput.val ⟨[]⟩ = .ok r ∧
      (r.approved = false → r.ledger = ⟨[]⟩) := by
  have hfacts : redactedData (contextAudit tokenPathPackage) ≠ .ok (contextAudit tokenPathPackage) ∧
      ∀ data ∈ auditedData tokenPathPackage enabledInput.val, SurvivesRedaction data := by
    decide +kernel
  exact ⟨hfacts.1, (evaluateLiveLlmPolicy_ok_iff tokenPathPackage enabledInput ⟨[]⟩).1.2 hfacts.2⟩

/-- The path loses its closing quotation mark. -/
lemma keyPathPackage_not_survives : ¬ SurvivesRedaction (contextAudit keyPathPackage) := by
  decide +kernel

/-- The evaluation of that package raises. -/
theorem keyPathPackage_raises :
    ¬ ∃ r, evaluateLiveLlmPolicy keyPathPackage enabledInput.val ⟨[]⟩ = .ok r := by
  rintro ⟨r, h⟩
  obtain ⟨args, finish, heq, -⟩ :=
    audited_evaluateLiveLlmPolicy keyPathPackage enabledInput.val ⟨[]⟩
  rw [heq] at h
  obtain ⟨record, hrecord, -⟩ := bind_eq_ok.1 h
  have hsurvives := (auditRecord_ok_iff args).1 ⟨record, hrecord⟩
  exact keyPathPackage_not_survives (hsurvives _ (by simp [auditedData]))

end ReviewGraph
