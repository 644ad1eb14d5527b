import ReviewGraph.Foundation.Text

/-!
# The stage cursor

`state.py`: the cursor over the review stages.  A normal stage is interrupted by a clarification
review whenever a clarification has become ready during it, and is restored afterwards.

A cursor that satisfies `validateStageCursor` is always at one of four kinds of places,
`StageCursor.At`; every step leads from such a place to another one.  A run of the cursor is a list
of steps, and the main result `stageCursor_run` is about all runs.
-/

namespace ReviewGraph

/-! ## Cursors -/

/-- `ReviewStage`. -/
inductive ReviewStage
  | initialTriage
  | specializedReview
  | logicReview
  | clarificationReview
  deriving DecidableEq, Repr

/-- The string value of a stage. -/
def ReviewStage.value : ReviewStage → Text
  | initialTriage => "initial_triage"
  | specializedReview => "specialized_review"
  | logicReview => "logic_review"
  | clarificationReview => "clarification_review"

/-- `NORMAL_REVIEW_STAGES`. -/
def normalReviewStages : List ReviewStage := [.initialTriage, .specializedReview, .logicReview]

/-- The message of a `StageCursorError`. -/
abbrev StageCursorError : Type := Text

/-- `StageCursor`. -/
structure StageCursor where
  activeStage : Option ReviewStage
  suspendedStage : Option ReviewStage
  stageQueue : List ReviewStage
  completedStages : List ReviewStage
  readyClarificationIds : List Text
  activeClarificationId : Option Text
  deriving DecidableEq

/-- `initial_stage_cursor`. -/
def initialStageCursor : StageCursor where
  activeStage := none
  suspendedStage := none
  stageQueue := normalReviewStages
  completedStages := []
  readyClarificationIds := []
  activeClarificationId := none

/-! ## Validation -/

/-- Raise a `StageCursorError` unless the condition holds. -/
def requireCursor (c : Prop) [Decidable c] (message : Text) : Except StageCursorError Unit :=
  if c then .ok () else .error message

/-- `_validate_normal_stage_order`. -/
def validateNormalStageOrder (active suspended : Option ReviewStage)
    (queue completed : List ReviewStage) : Except StageCursorError Unit := do
  let completedCount := completed.length
  requireCursor (completed = normalReviewStages.take completedCount)
    "completed_stages must be an ordered normal-stage prefix"
  match active with
  | some .clarificationReview => do
    requireCursor (completedCount < normalReviewStages.length)
      "clarification_review cannot follow completed normal stages"
    requireCursor (suspended = normalReviewStages[completedCount]?)
      "suspended_stage must be the current normal stage"
    requireCursor (queue = normalReviewStages.drop (completedCount + 1))
      "stage_queue must preserve normal-stage order during clarification_review"
  | none => do
    requireCursor (completedCount = 0 ∨ completedCount = normalReviewStages.length)
      "active_stage cannot be None between normal stages"
    requireCursor (queue = if completedCount = 0 then normalReviewStages else [])
      "stage_queue must preserve normal-stage order"
  | some active => do
    requireCursor (completedCount < normalReviewStages.length)
      "active_stage cannot follow completed normal stages"
    requireCursor (some active = normalReviewStages[completedCount]? ∧
        queue = normalReviewStages.drop (completedCount + 1))
      "stage cursor must preserve normal-stage order"

/-- `validate_stage_cursor`. -/
def validateStageCursor (cursor : StageCursor) : Except StageCursorError Unit := do
  let active := cursor.activeStage
  let suspended := cursor.suspendedStage
  let queue := cursor.stageQueue
  let completed := cursor.completedStages
  requireCursor (∀ id ∈ cursor.readyClarificationIds, id ≠ [])
    "ready_clarification_ids must contain non-empty strings"
  requireCursor (cursor.activeClarificationId ≠ some [])
    "active_clarification_id must be a non-empty string or None"
  requireCursor (.clarificationReview ∉ queue) "clarification_review must not be in stage_queue"
  requireCursor (∀ stage ∈ queue, stage ∈ normalReviewStages)
    "stage_queue may contain only normal review stages"
  requireCursor (∀ stage ∈ completed, stage ∈ normalReviewStages)
    "completed_stages may contain only normal review stages"
  requireCursor (∀ stage ∈ active, stage ∉ queue) "stage_queue must contain only future stages"
  requireCursor (∀ stage ∈ active, stage ∉ completed)
    "active_stage must not already be completed"
  if active = some .clarificationReview then do
    requireCursor (suspended ≠ none) "clarification_review requires suspended_stage"
    requireCursor (cursor.activeClarificationId ≠ none)
      "clarification_review requires active_clarification_id"
  else do
    requireCursor (suspended = none)
      "suspended_stage is only valid during clarification_review"
    requireCursor (cursor.activeClarificationId = none)
      "active_clarification_id is only valid during clarification_review"
  requireCursor (∀ stage ∈ queue, stage ∉ completed)
    "stage_queue must not contain completed stages"
  requireCursor queue.Nodup "stage_queue must not contain duplicate stages"
  requireCursor completed.Nodup "completed_stages must not contain duplicate stages"
  validateNormalStageOrder active suspended queue completed

/-! ## Steps -/

/-- The change of a cursor, with its `transition_reason`. -/
def StageCursor.move (cursor : StageCursor) : Except StageCursorError (StageCursor × Text) :=
  match cursor.activeStage with
  | none =>
    match cursor.stageQueue with
    | [] => .ok (cursor, "finish_review_stages")
    | stage :: queue =>
      .ok ({ cursor with activeStage := some stage, stageQueue := queue }, "start_" ++ stage.value)
  | some .clarificationReview =>
    match cursor.suspendedStage with
    | none => .error "clarification_review requires suspended_stage"
    | some suspended =>
      .ok ({ cursor with
          activeStage := some suspended
          suspendedStage := none
          activeClarificationId := none },
        "finish_clarification_review_restore_" ++ suspended.value)
  | some active =>
    match cursor.readyClarificationIds with
    | id :: ready =>
      .ok ({ cursor with
          activeStage := some .clarificationReview
          suspendedStage := some active
          readyClarificationIds := ready
          activeClarificationId := some id }, "enter_clarification_review")
    | [] =>
      match cursor.stageQueue with
      | stage :: queue =>
        .ok ({ cursor with
            activeStage := some stage
            stageQueue := queue
            completedStages := cursor.completedStages ++ [active] },
          "complete_" ++ (active.value ++ ("_start_" ++ stage.value)))
      | [] =>
        .ok ({ cursor with
            activeStage := none
            completedStages := cursor.completedStages ++ [active] }, "finish_review_stages")

/-- `StageCursorTransition`: the cursor before and after the step, and the reason. -/
structure StageCursorTransition where
  before : StageCursor
  after : StageCursor
  transitionReason : Text
  deriving DecidableEq

/-- `advance_or_finish_stage`. -/
def advanceOrFinishStage (cursor : StageCursor) :
    Except StageCursorError StageCursorTransition := do
  validateStageCursor cursor
  let (after, transitionReason) ← cursor.move
  validateStageCursor after
  return { before := cursor, after, transitionReason }

/-! ## The places of a cursor -/

/-- The places of a cursor: before the first stage, in a normal stage, in a clarification review
that interrupts a normal stage, or behind the last stage.  The number is that of the completed
stages. -/
inductive StageCursor.At : StageCursor → Prop
  | start : At initialStageCursor
  | stage (n : Fin 3) (ready : List Text) (hready : ∀ id ∈ ready, id ≠ []) :
      At ⟨normalReviewStages[n]?, none, normalReviewStages.drop (n + 1), normalReviewStages.take n,
        ready, none⟩
  | clarification (n : Fin 3) (ready : List Text) (hready : ∀ id ∈ ready, id ≠ []) (id : Text)
      (hid : id ≠ []) :
      At ⟨some .clarificationReview, normalReviewStages[n]?, normalReviewStages.drop (n + 1),
        normalReviewStages.take n, ready, some id⟩
  | finish : At ⟨none, none, [], normalReviewStages, [], none⟩

/-- A cursor at a place is valid. -/
lemma StageCursor.At.validate {cursor : StageCursor} (h : cursor.At) :
    validateStageCursor cursor = .ok () := by
  cases h with
  | start => decide +kernel
  | finish => decide +kernel
  | stage n ready hready =>
    have hsome : ∀ (b : Prop) [Decidable b] (m : Text), b → requireCursor b m = .ok () := by
      intro b _ m hb
      exact if_pos hb
    unfold validateStageCursor
    dsimp only
    rw [hsome _ _ hready]
    fin_cases n <;> rfl
  | clarification n ready hready id hid =>
    have hsome : ∀ (b : Prop) [Decidable b] (m : Text), b → requireCursor b m = .ok () := by
      intro b _ m hb
      exact if_pos hb
    unfold validateStageCursor
    dsimp only
    rw [hsome _ _ hready, hsome (some id ≠ some []) _ (by simpa using hid)]
    fin_cases n <;> rfl

/-- The normal stage that is under way: the active one, or the one that a clarification review
suspends. -/
def StageCursor.currentStage (cursor : StageCursor) : Option ReviewStage :=
  if cursor.activeStage = some .clarificationReview then cursor.suspendedStage
  else cursor.activeStage

/-- The completed stages, the stage under way and the queue are the stages in their order. -/
lemma StageCursor.At.partition {cursor : StageCursor} (h : cursor.At) :
    cursor.completedStages ++ cursor.currentStage.toList ++ cursor.stageQueue =
      normalReviewStages := by
  cases h with
  | start => rfl
  | finish => rfl
  | stage n => fin_cases n <;> rfl
  | clarification n => fin_cases n <;> rfl

/-- A stage that is active is not completed. -/
lemma StageCursor.At.not_mem_completed {cursor : StageCursor} (h : cursor.At) {stage : ReviewStage}
    (hactive : cursor.activeStage = some stage) : stage ∉ cursor.completedStages := by
  cases h with
  | start => contradiction
  | finish => contradiction
  | stage n =>
    fin_cases n <;>
    · obtain rfl := Option.some.inj hactive
      simp [normalReviewStages]
  | clarification n =>
    obtain rfl := Option.some.inj hactive
    fin_cases n <;> simp [normalReviewStages]

/-! ## What a step does -/

/-- What one step does to a cursor. -/
inductive StageCursor.Advances : StageCursor → StageCursor → Prop
  /-- Nothing is left to do. -/
  | idle (cursor : StageCursor) (hactive : cursor.activeStage = none) : Advances cursor cursor
  /-- The first stage starts. -/
  | start (cursor : StageCursor) (stage : ReviewStage) (queue : List ReviewStage)
      (hactive : cursor.activeStage = none) (hnormal : stage ≠ .clarificationReview) :
      Advances cursor { cursor with activeStage := some stage, stageQueue := queue }
  /-- The suspended stage is restored. -/
  | restore (cursor : StageCursor) (suspended : ReviewStage)
      (hactive : cursor.activeStage = some .clarificationReview)
      (hsuspended : cursor.suspendedStage = some suspended)
      (hnormal : suspended ≠ .clarificationReview) :
      Advances cursor { cursor with
        activeStage := some suspended
        suspendedStage := none
        activeClarificationId := none }
  /-- A clarification review starts. -/
  | enter (cursor : StageCursor) (active : ReviewStage) (id : Text) (ready : List Text)
      (hactive : cursor.activeStage = some active) (hnormal : active ≠ .clarificationReview)
      (hready : cursor.readyClarificationIds = id :: ready) :
      Advances cursor { cursor with
        activeStage := some .clarificationReview
        suspendedStage := some active
        readyClarificationIds := ready
        activeClarificationId := some id }
  /-- The active stage is completed. -/
  | complete (cursor : StageCursor) (active : ReviewStage) (next : Option ReviewStage)
      (queue : List ReviewStage) (hactive : cursor.activeStage = some active)
      (hnormal : active ≠ .clarificationReview) (hready : cursor.readyClarificationIds = [])
      (hnext : next ≠ some .clarificationReview) :
      Advances cursor { cursor with
        activeStage := next
        stageQueue := queue
        completedStages := cursor.completedStages ++ [active] }

/-- A step from a place does not raise and leads to a place. -/
theorem StageCursor.At.advance {cursor : StageCursor} (h : cursor.At) :
    ∃ t, advanceOrFinishStage cursor = .ok t ∧ t.before = cursor ∧ t.after.At ∧
      cursor.Advances t.after := by
  -- It suffices that the change of the cursor leads to a place.
  have hmove : ∃ after reason, cursor.move = .ok (after, reason) ∧ after.At ∧
      cursor.Advances after := by
    cases h with
    | start =>
      exact ⟨_, _, rfl, .stage 0 [] (by simp), .start initialStageCursor _ _ rfl (by decide)⟩
    | finish => exact ⟨_, _, rfl, .finish, .idle _ rfl⟩
    | clarification n ready hready id hid =>
      fin_cases n
      · exact ⟨_, _, rfl, .stage 0 ready hready, .restore _ .initialTriage rfl rfl (by decide)⟩
      · exact ⟨_, _, rfl, .stage 1 ready hready, .restore _ .specializedReview rfl rfl (by decide)⟩
      · exact ⟨_, _, rfl, .stage 2 ready hready, .restore _ .logicReview rfl rfl (by decide)⟩
    | stage n ready hready =>
      cases ready with
      | nil =>
        fin_cases n
        · exact ⟨_, _, rfl, .stage 1 [] hready,
            .complete _ .initialTriage (some .specializedReview) _ rfl (by decide) rfl (by decide)⟩
        · exact ⟨_, _, rfl, .stage 2 [] hready,
            .complete _ .specializedReview (some .logicReview) _ rfl (by decide) rfl (by decide)⟩
        · exact ⟨_, _, rfl, .finish, .complete _ .logicReview none [] rfl (by decide) rfl
            (by decide)⟩
      | cons id ready =>
        have hid : id ≠ [] := hready id (by simp)
        have hrest : ∀ i ∈ ready, i ≠ [] := fun i hi => hready i (List.mem_cons_of_mem _ hi)
        fin_cases n
        · exact ⟨_, _, rfl, .clarification 0 ready hrest id hid,
            .enter _ .initialTriage id ready rfl (by decide) rfl⟩
        · exact ⟨_, _, rfl, .clarification 1 ready hrest id hid,
            .enter _ .specializedReview id ready rfl (by decide) rfl⟩
        · exact ⟨_, _, rfl, .clarification 2 ready hrest id hid,
            .enter _ .logicReview id ready rfl (by decide) rfl⟩
  obtain ⟨after, reason, heq, hafter, hadvances⟩ := hmove
  refine ⟨⟨cursor, after, reason⟩, ?_, rfl, hafter, hadvances⟩
  unfold advanceOrFinishStage
  rw [h.validate, heq]
  simp only [bind, Except.bind]
  rw [hafter.validate]
  rfl

/-- A clarification that becomes ready during a normal stage leaves the cursor at a place. -/
lemma StageCursor.At.ready {cursor : StageCursor} (h : cursor.At) {stage : ReviewStage}
    (hactive : cursor.activeStage = some stage) {id : Text} (hid : id ≠ []) :
    At { cursor with readyClarificationIds := cursor.readyClarificationIds ++ [id] } := by
  have hall : ∀ ready : List Text, (∀ i ∈ ready, i ≠ []) → ∀ i ∈ ready ++ [id], i ≠ [] := by
    intro ready hready i hi
    rcases List.mem_append.1 hi with hi | hi
    · exact hready i hi
    · rw [List.mem_singleton.1 hi]
      exact hid
  cases h with
  | start => contradiction
  | finish => contradiction
  | stage n ready hready => exact .stage n _ (hall ready hready)
  | clarification n ready hready id' hid' => exact .clarification n _ (hall ready hready) id' hid'

/-! ## Runs -/

/-- What is done to a cursor: a step, or a clarification becomes ready. -/
inductive CursorAction
  | advance
  | ready (id : Text)
  deriving DecidableEq

/-- One action in a run. -/
structure CursorStep where
  before : StageCursor
  action : CursorAction
  after : StageCursor
  deriving DecidableEq

/-- The stage during which a clarification became ready, with its identifier. -/
def CursorStep.becameReady? (step : CursorStep) : Option (ReviewStage × Text) :=
  match step.action, step.before.activeStage with
  | .ready id, some stage => some (stage, id)
  | _, _ => none

/-- The clarification whose review the action starts. -/
def CursorStep.entered? (step : CursorStep) : Option Text :=
  if step.action = .advance ∧ step.after.activeStage = some .clarificationReview then
    step.after.activeClarificationId
  else none

/-- The clarifications that became ready, in order, with the stages during which they did. -/
def becameReady (trace : List CursorStep) : List (ReviewStage × Text) :=
  trace.filterMap CursorStep.becameReady?

/-- The clarifications whose reviews have started, in order. -/
def enteredClarifications (trace : List CursorStep) : List Text :=
  trace.filterMap CursorStep.entered?

/-- The runs of a cursor: steps, and fresh clarifications that become ready while a normal stage is
active, in any order. -/
inductive CursorRun : List CursorStep → StageCursor → Prop
  | start : CursorRun [] initialStageCursor
  | advance {trace : List CursorStep} {cursor : StageCursor} {t : StageCursorTransition}
      (h : CursorRun trace cursor) (hstep : advanceOrFinishStage cursor = .ok t) :
      CursorRun (trace ++ [⟨cursor, .advance, t.after⟩]) t.after
  | ready {trace : List CursorStep} {cursor : StageCursor} {stage : ReviewStage} {id : Text}
      (h : CursorRun trace cursor) (hactive : cursor.activeStage = some stage)
      (hnormal : stage ∈ normalReviewStages) (hid : id ≠ [])
      (hfresh : id ∉ (becameReady trace).map Prod.snd) :
      CursorRun (trace ++ [⟨cursor, .ready id,
          { cursor with readyClarificationIds := cursor.readyClarificationIds ++ [id] }⟩])
        { cursor with readyClarificationIds := cursor.readyClarificationIds ++ [id] }

/-- What holds after every run. -/
structure CursorRun.Invariant (trace : List CursorStep) (cursor : StageCursor) : Prop where
  /-- The cursor is at a place. -/
  place : cursor.At
  /-- No clarification becomes ready twice. -/
  nodup : ((becameReady trace).map Prod.snd).Nodup
  /-- The clarifications are reviewed in the order in which they became ready. -/
  fifo : enteredClarifications trace ++ cursor.readyClarificationIds =
    (becameReady trace).map Prod.snd
  /-- The clarifications of a completed stage have been reviewed. -/
  reviewed : ∀ r ∈ becameReady trace, r.1 ∈ cursor.completedStages →
    r.2 ∈ enteredClarifications trace

/-- An advance makes no clarification ready. -/
lemma becameReady_concat_advance (trace : List CursorStep) (before after : StageCursor) :
    becameReady (trace ++ [⟨before, .advance, after⟩]) = becameReady trace := by
  simp [becameReady, CursorStep.becameReady?]

/-- One more step may enter one more clarification. -/
lemma enteredClarifications_concat (trace : List CursorStep) (step : CursorStep) :
    enteredClarifications (trace ++ [step]) =
      enteredClarifications trace ++ step.entered?.toList := by
  unfold enteredClarifications
  rw [List.filterMap_append]
  cases h : step.entered? <;> simp [h]

/-- A step preserves the invariant. -/
lemma CursorRun.Invariant.advance {trace : List CursorStep} {cursor after : StageCursor}
    (h : Invariant trace cursor) (hafter : after.At) (hadvances : cursor.Advances after) :
    Invariant (trace ++ [⟨cursor, .advance, after⟩]) after := by
  have hready := becameReady_concat_advance trace cursor after
  have hentered := enteredClarifications_concat trace ⟨cursor, .advance, after⟩
  -- Unless a review starts, no clarification is entered.
  have hsame : after.activeStage ≠ some .clarificationReview →
      enteredClarifications (trace ++ [⟨cursor, .advance, after⟩]) = enteredClarifications
        trace := by
    intro hne
    have hstep : CursorStep.entered? ⟨cursor, .advance, after⟩ = none := if_neg fun h => hne h.2
    rw [hentered, hstep]
    simp
  -- While the completed stages stay the same, their clarifications remain reviewed.
  have hkeep : after.completedStages = cursor.completedStages →
      ∀ r ∈ becameReady trace, r.1 ∈ after.completedStages →
        r.2 ∈ enteredClarifications (trace ++ [⟨cursor, .advance, after⟩]) := by
    intro heq r hr hcompleted
    rw [hentered]
    exact List.mem_append_left _ (h.reviewed r hr (heq ▸ hcompleted))
  refine ⟨hafter, hready ▸ h.nodup, ?fifo, ?reviewed⟩
  case fifo =>
    rw [hready, ← h.fifo]
    cases hadvances with
    | idle hactive => rw [hsame (by simp [hactive])]
    | start stage queue hactive hnormal => rw [hsame (by simpa using hnormal)]
    | restore suspended hactive hsuspended hnormal => rw [hsame (by simpa using hnormal)]
    | complete active next queue hactive hnormal hids hnext => rw [hsame hnext]
    | enter active id ready hactive hnormal hids =>
      rw [hentered, hids]
      simp [CursorStep.entered?]
  case reviewed =>
    rw [hready]
    cases hadvances with
    | idle hactive => exact hkeep rfl
    | start stage queue hactive hnormal => exact hkeep rfl
    | restore suspended hactive hsuspended hnormal => exact hkeep rfl
    | enter active id ready hactive hnormal hids => exact hkeep rfl
    | complete active next queue hactive hnormal hids hnext =>
      -- A stage is completed only when no clarification is ready any more.
      intro r hr _
      rw [hsame hnext]
      have hall := h.fifo
      rw [hids, List.append_nil] at hall
      rw [hall]
      exact List.mem_map_of_mem hr

/-- A clarification that becomes ready preserves the invariant. -/
lemma CursorRun.Invariant.ready {trace : List CursorStep} {cursor : StageCursor}
    (h : Invariant trace cursor) {stage : ReviewStage} (hactive : cursor.activeStage = some stage)
    {id : Text} (hid : id ≠ []) (hfresh : id ∉ (becameReady trace).map Prod.snd) :
    Invariant (trace ++ [⟨cursor, .ready id,
        { cursor with readyClarificationIds := cursor.readyClarificationIds ++ [id] }⟩])
      { cursor with readyClarificationIds := cursor.readyClarificationIds ++ [id] } := by
  let step : CursorStep := ⟨cursor, .ready id,
    { cursor with readyClarificationIds := cursor.readyClarificationIds ++ [id] }⟩
  have hstep : step.becameReady? = some (stage, id) := by
    simp [step, CursorStep.becameReady?, hactive]
  have hready : becameReady (trace ++ [step]) = becameReady trace ++ [(stage, id)] := by
    unfold becameReady
    rw [List.filterMap_append]
    simp [hstep]
  have hentered : enteredClarifications (trace ++ [step]) = enteredClarifications trace := by
    rw [enteredClarifications_concat]
    simp [step, CursorStep.entered?]
  refine ⟨h.place.ready hactive hid, ?_, ?_, ?_⟩
  · rw [hready, List.map_append]
    refine List.nodup_append.2 ⟨h.nodup, by simp, ?_⟩
    rintro i hi j hj rfl
    obtain rfl : i = id := by simpa using hj
    exact hfresh hi
  · rw [hready, hentered, List.map_append, ← h.fifo]
    simp
  · intro r hr hcompleted
    rw [hready] at hr
    rw [hentered]
    rcases List.mem_append.1 hr with hr | hr
    · exact h.reviewed r hr hcompleted
    · obtain rfl : r = (stage, id) := by simpa using hr
      exact absurd hcompleted (h.place.not_mem_completed hactive)

/-- Every run satisfies the invariant. -/
theorem CursorRun.invariant {trace : List CursorStep} {cursor : StageCursor}
    (h : CursorRun trace cursor) : Invariant trace cursor := by
  induction h with
  | start => exact ⟨.start, by simp [becameReady], rfl, by simp [becameReady]⟩
  | advance h hstep ih =>
    obtain ⟨t, ht, -, hafter, hadvances⟩ := ih.place.advance
    obtain rfl := Except.ok.inj (hstep.symm.trans ht)
    exact ih.advance hafter hadvances
  | ready h hactive hnormal hid hfresh ih => exact ih.ready hactive hid hfresh

/-- After every run of the cursor, the cursor is valid and the next step does not raise; the stages
are neither lost nor duplicated; the clarifications are reviewed in the order in which they became
ready, each once and before the stage is completed during which it became ready; and a clarification
review is left for exactly the stage that it suspended. -/
theorem stageCursor_run {trace : List CursorStep} {cursor : StageCursor}
    (h : CursorRun trace cursor) :
    validateStageCursor cursor = .ok () ∧
    cursor.completedStages ++ cursor.currentStage.toList ++ cursor.stageQueue =
      normalReviewStages ∧
    (enteredClarifications trace ++ cursor.readyClarificationIds =
        (becameReady trace).map Prod.snd ∧
      ((becameReady trace).map Prod.snd).Nodup ∧
      ∀ r ∈ becameReady trace, r.1 ∈ cursor.completedStages → r.2 ∈ enteredClarifications trace) ∧
    ∃ t, advanceOrFinishStage cursor = .ok t ∧ validateStageCursor t.after = .ok () ∧
      (∀ stage id ready, cursor.activeStage = some stage → stage ≠ .clarificationReview →
        cursor.readyClarificationIds = id :: ready →
        t.after = { cursor with
          activeStage := some .clarificationReview
          suspendedStage := some stage
          readyClarificationIds := ready
          activeClarificationId := some id }) ∧
      (cursor.activeStage = some .clarificationReview →
        ∃ suspended ∈ normalReviewStages, cursor.suspendedStage = some suspended ∧
          t.after = { cursor with
            activeStage := some suspended
            suspendedStage := none
            activeClarificationId := none }) := by
  have hinvariant := h.invariant
  obtain ⟨t, ht, -, hafter, hadvances⟩ := hinvariant.place.advance
  refine ⟨hinvariant.place.validate, hinvariant.place.partition,
    ⟨hinvariant.fifo, hinvariant.nodup, hinvariant.reviewed⟩, t, ht, hafter.validate, ?_⟩
  generalize t.after = after at hadvances
  constructor
  · intro stage id ready hactive hnormal hids
    cases hadvances with
    | idle hnone => rw [hactive] at hnone; contradiction
    | start stage queue hnone => rw [hactive] at hnone; contradiction
    | restore suspended hclarification =>
      exact absurd (Option.some.inj (hactive.symm.trans hclarification)) hnormal
    | complete active next queue hactive' hnormal' hnil => rw [hids] at hnil; contradiction
    | enter active id' ready' hactive' hnormal' hids' =>
      obtain rfl := Option.some.inj (hactive.symm.trans hactive')
      obtain ⟨rfl, rfl⟩ := List.cons.inj (hids.symm.trans hids')
      rfl
  · intro hactive
    cases hadvances with
    | idle hnone => rw [hactive] at hnone; contradiction
    | start stage queue hnone => rw [hactive] at hnone; contradiction
    | complete active next queue hactive' hnormal =>
      exact absurd (Option.some.inj (hactive.symm.trans hactive')).symm hnormal
    | enter active id ready hactive' hnormal =>
      exact absurd (Option.some.inj (hactive.symm.trans hactive')).symm hnormal
    | restore suspended hactive' hsuspended hnormal =>
      refine ⟨suspended, ?_, hsuspended, rfl⟩
      cases suspended with
      | clarificationReview => exact absurd rfl hnormal
      | initialTriage | specializedReview | logicReview => decide

/-- A clarification becomes ready during the first stage, is reviewed, and the stage is restored. -/
theorem stageCursor_run_clarification : ∃ trace cursor, CursorRun trace cursor ∧
    cursor.activeStage = some .initialTriage ∧
    enteredClarifications trace = (["clarify-cache"] : List Text) ∧
    validateStageCursor cursor = .ok () := by
  have hready : CursorRun _ ⟨some .initialTriage, none, [.specializedReview, .logicReview], [],
      ["clarify-cache"], none⟩ := (@CursorRun.advance _ _ ⟨_, _, _⟩ .start rfl).ready rfl
    (by decide) (by simp) (by simp [becameReady, CursorStep.becameReady?])
  have hreview : CursorRun _ ⟨some .clarificationReview, some .initialTriage,
      [.specializedReview, .logicReview], [], [], some "clarify-cache"⟩ :=
    hready.advance (t := ⟨⟨some .initialTriage, none, [.specializedReview, .logicReview], [],
      ["clarify-cache"], none⟩, _, "enter_clarification_review"⟩) (by decide +kernel)
  have hrestored : CursorRun _ ⟨some .initialTriage, none, [.specializedReview, .logicReview], [],
      [],
      none⟩ :=
    hreview.advance (t := ⟨⟨some .clarificationReview, some .initialTriage,
      [.specializedReview, .logicReview], [], [], some "clarify-cache"⟩, _,
      "finish_clarification_review_restore_initial_triage"⟩) (by decide +kernel)
  exact ⟨_, _, hrestored, rfl, rfl, (stageCursor_run hrestored).1⟩

end ReviewGraph
