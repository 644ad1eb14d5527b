import ReviewGraph.Normalization
import ReviewGraph.ReviewerBudget
import ReviewGraph.Routing

/-!
# The stages of a review

The loop of `_run_review_stages` of `runner.py`, with the selection of reviewers for the active
stage, the clarification gate and the ingestion of answers.  What a reviewer answers comes from
outside, so that a run is a relation: each of its rounds has the answers that the reviewers give in
it.  Which reviewers the run keys of earlier attempts hold back is left open as well.
-/

namespace ReviewGraph

/-! ## Clarifications -/

/-- A request is pending, by its status or for want of one. -/
def SourcedClarificationRequest.isPending (request : SourcedClarificationRequest) : Bool :=
  request.status.getD .pending = .pending

/-- `ClarificationGateResult`. -/
structure ClarificationGateResult where
  pendingIds : List Text
  blockingPendingIds : List Text
  blocksPosting : Bool
  deriving DecidableEq

/-- `evaluate_clarification_gate`. -/
def evaluateClarificationGate (requests : List (Checked SourcedClarificationRequest)) :
    ClarificationGateResult :=
  let pending := requests.filter fun request => request.val.isPending
  let blocking := pending.filter fun request => request.val.request.blocksVerdict
  { pendingIds := pending.map fun request => request.val.request.id
    blockingPendingIds := blocking.map fun request => request.val.request.id
    blocksPosting := !blocking.isEmpty }

/-! ## The variables of the loop -/

/-- A local note, and whether the graph has generated it. -/
structure StageNote where
  generated : Bool
  note : Checked LocalNote
  deriving DecidableEq

/-- The variables of the loop of `_run_review_stages` that decide its course and its notes. -/
structure StageRunState where
  cursor : StageCursor
  clarificationRequests : List (Checked SourcedClarificationRequest)
  localNotes : List StageNote
  retainedReviewerCount : ℕ
  plannedLiveCalls : ℕ
  clarificationNeeded : Bool
  deriving DecidableEq

/-- The variables before the loop. -/
def initialStageRunState : StageRunState where
  cursor := initialStageCursor
  clarificationRequests := []
  localNotes := []
  retainedReviewerCount := 0
  plannedLiveCalls := 0
  clarificationNeeded := false

/-- The notes that the graph has generated. -/
def StageRunState.generatedNotes (st : StageRunState) : List (Checked LocalNote) :=
  (st.localNotes.filter fun note => note.generated).map fun note => note.note

/-- The state with one more note of the graph. -/
def StageRunState.addGenerated (st : StageRunState) (note : Checked LocalNote) : StageRunState :=
  { st with localNotes := st.localNotes ++ [⟨true, note⟩] }

/-- The arguments of `_run_review_stages`: the agents that are required, the costs of an attempt
when live reviewers are enabled, and the identifiers of the requests for which there are answers. -/
structure StageRunArguments where
  languages : PatternLanguages
  config : ReviewConfig
  requiredAgents : List Text
  pr : PullRequestContext
  memoryReferences : List MemoryReference
  risk : Option RiskAssessment
  limits : Checked ContextBudget
  liveAttemptCost : Option ℕ
  answeredIds : List Text

/-- `ingest_clarification_answer`: the first request with the identifier is answered, and becomes
ready for a review. -/
def ingestClarificationAnswer (st : StageRunState) (id : Text) : Result StageRunState :=
  match st.clarificationRequests.findIdx? fun request => request.val.request.id = id with
  | none => .error (.valueError ("clarification request " ++ (id ++ " was not found")))
  | some index =>
    match st.clarificationRequests[index]? with
    | none => .error (.valueError ("clarification request " ++ (id ++ " was not found")))
    | some request => do
      require (request.val.isPending = true)
        ("clarification request " ++ (id ++ " is not pending"))
      let answered ← construct { request.val with status := some .answered }
      return { st with
        clarificationRequests := st.clarificationRequests.set index answered
        cursor := { st.cursor with
          readyClarificationIds :=
            if id ∈ st.cursor.readyClarificationIds then st.cursor.readyClarificationIds
            else st.cursor.readyClarificationIds ++ [id] } }

namespace StageRunArguments

variable (args : StageRunArguments)

/-- The end of a round: the blocking requests for which there are answers are answered, and without
one the run ends. -/
def closeRound (st : StageRunState) : Result StageRunState :=
  let gate := evaluateClarificationGate st.clarificationRequests
  let answerable := gate.blockingPendingIds.filter fun id => id ∈ args.answeredIds
  if gate.blocksPosting = false then .ok st
  else if answerable = [] then .ok { st with clarificationNeeded := true }
  else answerable.foldlM ingestClarificationAnswer st

/-! ## Selection -/

/-- `_select_clarification_resume_reviewers`, up to the run keys. -/
def selectClarificationResumeReviewers (st : StageRunState) :
    Result (List (Checked SelectedReviewer)) := do
  match st.cursor.activeClarificationId with
  | none =>
    .error (.valueError "active_clarification_id is required during clarification_review")
  | some id =>
    -- The requests at the last ingestion are a prefix of these, and have the one that is ready.
    match st.clarificationRequests.find? fun request => request.val.request.id = id with
    | none => .error (.valueError ("clarification request " ++ (id ++ " was not found")))
    | some request =>
      let names := request.val.resumeTargetReviewers
      require (names ≠ [])
        ("clarification request " ++ (id ++ " has no resume target reviewers"))
      let missing := names.filter fun name => name ∉ args.config.agents.map fun agent =>
        agent.val.name
      require (missing = []) ("clarification request " ++
        (id ++ (" resume reviewers unavailable: " ++
        Text.join ", " (Text.sorted missing))))
      names.mapM fun name => construct {
        name
        stage := ReviewStage.clarificationReview.value
        reasons := ["clarification_review resume.clarification_id=" ++ id] }

/-- `select_reviewers_for_active_stage`, up to the run keys. -/
def selectReviewersForActiveStage (st : StageRunState) : Result (List (Checked SelectedReviewer)) :=
  match st.cursor.activeStage with
  | none => .ok []
  | some .clarificationReview => args.selectClarificationResumeReviewers st
  | some stage => selectReviewersForStage args.languages args.config args.pr stage.value
      args.memoryReferences args.risk

/-- The budget of a round for the selected reviewers. -/
def roundBudget (st : StageRunState) (selected : List (Checked SelectedReviewer)) :
    ReviewerBudgetArguments where
  reviewers := selected
  limits := args.limits
  liveCallCosts := fun key =>
    if key ∈ selected.map (fun r => reviewerKey r.val) then args.liveAttemptCost.map Int.ofNat
    else none
  retainedReviewerCount := st.retainedReviewerCount
  plannedLiveCalls := st.plannedLiveCalls

end StageRunArguments

/-! ## Reviewers -/

/-- What comes of running a reviewer: its output is classified, or the classification raises, or the
reviewer fails, which it may have reported or not. -/
inductive ReviewerOutcome
  | classified (localNotes : List (Checked LocalNote))
      (requests : List (Checked SourcedClarificationRequest))
  | unclassified (reason : Text)
  | failed (reason : Text) (reported : Bool)
  deriving DecidableEq

/-- `_optional_reviewer_failure_note`. -/
def optionalReviewerFailureNote (reviewer : SelectedReviewer) : Result (Checked LocalNote) :=
  construct {
    id := "note-reviewer-failure-" ++ (reviewer.stage ++ ("-" ++ reviewer.name))
    title := "Optional reviewer failed"
    body := reviewer.name ++ (" was selected for " ++ (reviewer.stage ++
      " but failed before producing usable output."))
    evidence := "Trigger reasons: " ++ Text.join ", " reviewer.reasons
    classification := .localNote }

/-- `_required_reviewer_failure_note`. -/
def requiredReviewerFailureNote (reviewer : SelectedReviewer) (reason : Text) :
    Result (Checked LocalNote) :=
  construct {
    id := "note-required-reviewer-failure-" ++ (reviewer.stage ++ ("-" ++ reviewer.name))
    title := "Required reviewer failed"
    body := reviewer.name ++ (" was selected for " ++
      (reviewer.stage ++ (" but failed: " ++ reason)))
    evidence := "Trigger reasons: " ++ Text.join ", " reviewer.reasons
    classification := .localNote }

namespace StageRunArguments

variable (args : StageRunArguments)

/-- The round of the loop over the reviewers of a stage for one of them.  A failure is fatal if the
reviewer is required and has not reported it. -/
def recordOutcome (st : StageRunState) (run : Checked SelectedReviewer × ReviewerOutcome) :
    Result StageRunState :=
  match run.2 with
  | .classified localNotes requests =>
    .ok { st with
      localNotes := st.localNotes ++ localNotes.map fun note => ⟨false, note⟩
      clarificationRequests := st.clarificationRequests ++ requests }
  | .unclassified reason =>
    if run.1.val.name ∈ args.requiredAgents then .error (.valueError reason)
    else (optionalReviewerFailureNote run.1.val).map st.addGenerated
  | .failed reason reported =>
    if run.1.val.name ∉ args.requiredAgents then
      (optionalReviewerFailureNote run.1.val).map st.addGenerated
    else if reported then (requiredReviewerFailureNote run.1.val reason).map st.addGenerated
    else .error (.valueError reason)

end StageRunArguments

/-! ## Rounds -/

/-- One round of the loop in which reviewers are selected: the stage, the arguments of the reviewer
budget, and the reviewers that are run with what comes of them. -/
structure StageRound where
  stage : ReviewStage
  budget : ReviewerBudgetArguments
  runs : List (Checked SelectedReviewer × ReviewerOutcome)

/-- The loop has something to do. -/
def StageRunState.IsOpen (st : StageRunState) : Prop :=
  st.cursor.stageQueue ≠ [] ∧ st.clarificationNeeded = false

/-- The reason of a transition that restores a suspended stage. -/
def restoreReason : Text := "finish_clarification_review_restore_"

/-- The runs of `_run_review_stages`: the loop restores a suspended stage, or it selects reviewers,
applies the budget, runs the reviewers that are kept and closes the round. -/
inductive StageRun (args : StageRunArguments) : List StageRound → StageRunState → Prop
  | start : StageRun args [] initialStageRunState
  | restore {rounds : List StageRound} {st : StageRunState} {t : StageCursorTransition}
      (run : StageRun args rounds st) (isOpen : st.IsOpen)
      (step : advanceOrFinishStage st.cursor = .ok t)
      (reason : restoreReason <+: t.transitionReason) :
      StageRun args rounds { st with cursor := t.after }
  | round {rounds : List StageRound} {st : StageRunState} {t : StageCursorTransition}
      {stage : ReviewStage} {selected kept : List (Checked SelectedReviewer)}
      {budgeted : BudgetedReviewers} {runs : List (Checked SelectedReviewer × ReviewerOutcome)}
      {st₁ st₂ : StageRunState}
      (run : StageRun args rounds st) (isOpen : st.IsOpen)
      (step : advanceOrFinishStage st.cursor = .ok t)
      (reason : ¬ restoreReason <+: t.transitionReason) (active : t.after.activeStage = some stage)
      (select : args.selectReviewersForActiveStage { st with cursor := t.after } = .ok selected)
      (keep : kept.Sublist selected) (eligible : stage = .initialTriage → kept ≠ [])
      (budget : (args.roundBudget st kept).applyReviewerBudget = .ok budgeted)
      (answers : runs.map Prod.fst = budgeted.retainedReviewers)
      (record : runs.foldlM args.recordOutcome {
        cursor := t.after
        clarificationRequests := st.clarificationRequests
        localNotes := st.localNotes ++ budgeted.localNotes.map fun note => ⟨true, note⟩
        retainedReviewerCount := st.retainedReviewerCount + budgeted.retainedReviewers.length
        plannedLiveCalls := st.plannedLiveCalls + budgeted.contextBudget.val.plannedLiveCalls
        clarificationNeeded := false } = .ok st₁)
      (close : args.closeRound st₁ = .ok st₂) :
      StageRun args (rounds ++ [⟨stage, args.roundBudget st kept, runs⟩]) st₂

end ReviewGraph
