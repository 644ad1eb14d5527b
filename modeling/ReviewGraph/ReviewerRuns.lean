import ReviewGraph.Foundation.Tables
import ReviewGraph.LlmPolicy
import ReviewGraph.PermissionGate
import ReviewGraph.StageNotes

/-!
# Runs of reviewers

`reviewer_runs.py` keeps the runs of the reviewers as a list of run keys and a table of their
statuses under the stable keys.  A reviewer is selected for a first attempt, the status of an
attempt is recorded, and an attempt that failed is retried.
-/

namespace ReviewGraph

/-! ## Stable keys -/

/-- The stable key as its fields with the texts between them. -/
lemma ReviewerRunKey.stableKey_eq : ∃ t₀ t₁ t₂ t₃ t₄ t₅ t₆ t₇ : Text, ∀ k : ReviewerRunKey,
    k.stableKey = t₀ ++ (Json.asciiDumps (.int k.attempt) ++ ',' :: (t₁ ++
      (Json.asciiDumps (k.clarificationId.elim .null .str) ++ (t₂ ++
      (Json.asciiDumps (.str k.configHash) ++ (t₃ ++
      (Json.asciiDumps (k.retryOf.elim .null .str) ++ (t₄ ++
      (Json.asciiDumps (.str k.reviewer) ++ (t₅ ++
      (Json.asciiDumps (.str k.stage.value) ++ (t₆ ++
      (Json.asciiDumps (.str k.targetHash) ++ t₇)))))))))))))  := by
  have hcomma : Json.asciiEscape ',' = [','] := Json.asciiEscape_of_lt (by decide)
  let field (key : Text) : Text := (Json.quote key ++ [':']).flatMap Json.asciiEscape
  refine ⟨'\x7b' :: field "attempt", field "clarification_id", ',' :: field "config_hash",
    ',' :: field "retry_of", ',' :: field "reviewer", ',' :: field "stage",
    ',' :: field "target_hash",
    ['\x7d'], fun k => ?_⟩
  have hbrace : Json.asciiEscape '\x7b' = ['\x7b'] := Json.asciiEscape_of_lt (by decide)
  have hbrace' : Json.asciiEscape '\x7d' = ['\x7d'] := Json.asciiEscape_of_lt (by decide)
  unfold ReviewerRunKey.stableKey Json.asciiDumps
  rw [Json.dumps_obj, Json.sortFields_of_pairwise (by simp [Text.ofString_eq]; decide)]
  simp [Json.commaSeparated, Json.encodeField, field, hcomma, hbrace, hbrace',
    ReviewTarget.optionalJson, Json.dumpsField]

/-- Different runs have different stable keys. -/
lemma ReviewerRunKey.stableKey_injective : Function.Injective ReviewerRunKey.stableKey := by
  intro k k' h
  obtain ⟨t₀, t₁, t₂, t₃, t₄, t₅, t₆, t₇, hkey⟩ := ReviewerRunKey.stableKey_eq
  rw [hkey, hkey] at h
  obtain ⟨hattempt, h⟩ := Json.asciiDumps_int_append_inj (List.append_cancel_left h)
  obtain ⟨hclarification, h⟩ := Json.asciiDumps_optional_append_inj (List.append_cancel_left h)
  obtain ⟨hconfig, h⟩ := Json.asciiDumps_str_append_inj (List.append_cancel_left h)
  obtain ⟨hretry, h⟩ := Json.asciiDumps_optional_append_inj (List.append_cancel_left h)
  obtain ⟨hreviewer, h⟩ := Json.asciiDumps_str_append_inj (List.append_cancel_left h)
  obtain ⟨hstage, h⟩ := Json.asciiDumps_str_append_inj (List.append_cancel_left h)
  obtain ⟨htarget, -⟩ := Json.asciiDumps_str_append_inj (List.append_cancel_left h)
  cases k
  cases k'
  simp only [ReviewerRunKey.mk.injEq]
  exact ⟨htarget, hconfig, ReviewStage.value_injective hstage, hreviewer, hattempt, hretry,
    hclarification⟩

/-! ## Records -/

/-- `ReviewerRunStatusValue`. -/
inductive RunStatusValue
  | selected
  | running
  | completed
  | failed
  | skipped
  deriving DecidableEq, Repr

/-- `ReviewerRunStatus`. -/
structure ReviewerRunStatus where
  status : RunStatusValue
  runKey : Checked ReviewerRunKey
  reason : Option Text

instance : Record ReviewerRunStatus where
  postInit s := requireOptionalNonEmpty s.reason "reviewer run status reason"

/-- `RetryPolicy`. -/
structure RetryPolicy where
  maxAttempts : ℤ

instance : Record RetryPolicy where
  postInit policy := require (0 < policy.maxAttempts) "max_attempts must be a positive integer"

/-- `RetryDecision`. -/
structure RetryDecision where
  runKey : Option (Checked ReviewerRunKey)
  exhausted : Bool
  reason : Text

/-- The fields of `ReviewState` that belong to the runs of reviewers. -/
structure RunState where
  reviewTarget : Checked ReviewTarget
  configHash : Text
  reviewerRunKeys : List (Checked ReviewerRunKey)
  reviewerRunStatus : List (Text × Checked ReviewerRunStatus)
  selectedReviewers : List (Checked SelectedReviewer)

/-! ## Statuses -/

/-- `is_retry_exhausted_failure`. -/
def isRetryExhaustedFailure (s : ReviewerRunStatus) : Bool :=
  s.status = .failed && s.reason.any fun reason => Text.ofString "retry exhausted:" <+: reason

/-- `suppresses_rerun`; the other statuses are `TERMINAL_SUPPRESSING_STATUSES`. -/
def suppressesRerun (s : ReviewerRunStatus) : Bool :=
  s.status = .completed || s.status = .skipped || isRetryExhaustedFailure s

/-- `_same_reviewer_identity`. -/
def sameReviewerIdentity (left right : ReviewerRunKey) : Bool :=
  if left.clarificationId.isSome || right.clarificationId.isSome then
    left.targetHash = right.targetHash && left.configHash = right.configHash &&
      left.stage = right.stage && left.reviewer = right.reviewer &&
      left.clarificationId = right.clarificationId
  else
    left.targetHash = right.targetHash && left.configHash = right.configHash &&
      left.stage = right.stage && left.reviewer = right.reviewer

/-- `has_suppressing_status_for_reviewer`. -/
def hasSuppressingStatusForReviewer (st : RunState) (runKey : ReviewerRunKey) : Bool :=
  st.reviewerRunStatus.any fun entry =>
    sameReviewerIdentity entry.2.val.runKey.val runKey && suppressesRerun entry.2.val

/-! ## Operations -/

/-- `ReviewStage(value)`; the message has the value itself where the source has its `repr`. -/
def reviewStageOfValue (value : Text) : Result ReviewStage :=
  match [ReviewStage.initialTriage, .specializedReview, .logicReview, .clarificationReview].find?
    fun stage => stage.value = value with
  | some stage => .ok stage
  | none => .error (.valueError ("'" ++ value ++ "' is not a valid ReviewStage"))

/-- `make_reviewer_run_key`. -/
def makeReviewerRunKey (st : RunState) (reviewer : SelectedReviewer) (attempt : ℤ)
    (retryOf clarificationId : Option Text) : Result (Checked ReviewerRunKey) := do
  let stage ← reviewStageOfValue reviewer.stage
  construct {
    targetHash := st.reviewTarget.val.targetHash
    configHash := st.configHash
    stage := stage
    reviewer := reviewer.name
    attempt := attempt
    retryOf := retryOf
    clarificationId := clarificationId }

/-- `record_reviewer_run_status`. -/
def recordReviewerRunStatus (st : RunState) (runKey : Checked ReviewerRunKey)
    (status : RunStatusValue) (reason : Text) : Result (Checked ReviewerRunStatus × RunState) := do
  let runStatus : Checked ReviewerRunStatus ← construct ⟨status, runKey, some reason⟩
  return (runStatus, { st with
    reviewerRunStatus := Table.set st.reviewerRunStatus runKey.val.stableKey runStatus
    reviewerRunKeys :=
      if runKey ∈ st.reviewerRunKeys then st.reviewerRunKeys else st.reviewerRunKeys ++ [runKey] })

/-- `register_selected_reviewer`. -/
def registerSelectedReviewer (st : RunState) (reviewer : Checked SelectedReviewer)
    (clarificationId : Option Text) : Result (Option (Checked ReviewerRunKey) × RunState) := do
  let runKey ← makeReviewerRunKey st reviewer.val 1 none clarificationId
  if hasSuppressingStatusForReviewer st runKey.val then return (none, st)
  else if (Table.get? st.reviewerRunStatus runKey.val.stableKey).isSome then return (some runKey,
    st)
  else
    let runStatus : Checked ReviewerRunStatus ←
      construct ⟨.selected, runKey, some "selected by active-stage routing"⟩
    return (some runKey, { st with
      reviewerRunKeys := st.reviewerRunKeys ++ [runKey]
      reviewerRunStatus := Table.set st.reviewerRunStatus runKey.val.stableKey runStatus
      selectedReviewers := st.selectedReviewers ++ [reviewer] })

/-- `retry_after_failure`. -/
def retryAfterFailure (st : RunState) (runKey : Checked ReviewerRunKey)
    (policy : Checked RetryPolicy) (reason : Text) : Result (RetryDecision × RunState) :=
  if policy.val.maxAttempts ≤ runKey.val.attempt then do
    let (_, st) ← recordReviewerRunStatus st runKey .failed ("retry exhausted: " ++ reason)
    return (⟨none, true, "retry exhausted after attempt " ++ Text.ofInt runKey.val.attempt⟩, st)
  else do
    let nextKey ← construct { runKey.val with
      attempt := runKey.val.attempt + 1
      retryOf := some runKey.val.stableKey }
    let (_, st) ← recordReviewerRunStatus st nextKey .selected
      ("retry selected after failure: " ++ reason)
    return (⟨some nextKey, false, "retry attempt " ++ Text.ofInt nextKey.val.attempt ++
      " selected"⟩,
      st)

/-! ## Runs -/

/-- A call of one of the three operations. -/
inductive RunCall
  | register (reviewer : Checked SelectedReviewer) (clarificationId : Option Text)
  | record (runKey : Checked ReviewerRunKey) (status : RunStatusValue) (reason : Text)
  | retry (runKey : Checked ReviewerRunKey) (reason : Text)

namespace RunState

/-- The result of a call, where it does not raise. -/
def call (st : RunState) (policy : Checked RetryPolicy) : RunCall → Result RunState
  | .register reviewer clarificationId =>
    (registerSelectedReviewer st reviewer clarificationId).map Prod.snd
  | .record runKey status reason => (recordReviewerRunStatus st runKey status reason).map Prod.snd
  | .retry runKey reason => (retryAfterFailure st runKey policy reason).map Prod.snd

/-- The status of a run key. -/
def statusOf (st : RunState) (runKey : Checked ReviewerRunKey) :
    Option (Checked ReviewerRunStatus) :=
  Table.get? st.reviewerRunStatus runKey.val.stableKey

end RunState

/-- An attempt that has not ended. -/
def ReviewerRunStatus.IsActive (s : ReviewerRunStatus) : Prop :=
  s.status = .selected ∨ s.status = .running

/-- A status is recorded for a registered attempt that has not ended, and a registered attempt that
has failed is retried. -/
def RunCall.Admissible (st : RunState) : RunCall → Prop
  | .register _ _ => True
  | .record runKey _ _ =>
    runKey ∈ st.reviewerRunKeys ∧ ∃ s, st.statusOf runKey = some s ∧ s.val.IsActive
  | .retry runKey _ =>
    runKey ∈ st.reviewerRunKeys ∧ ∃ s, st.statusOf runKey = some s ∧ s.val.status = .failed

/-- The attempts of the identity of a run key, with their statuses. -/
def RunState.attempts (st : RunState) (runKey : ReviewerRunKey) :
    List (Checked ReviewerRunStatus) :=
  (st.reviewerRunStatus.map Prod.snd).filter fun s => sameReviewerIdentity s.val.runKey.val runKey

/-- A retry is in order while no attempt but the next one is selected or running and, if another
attempt is allowed, none suppresses it. -/
def RunCall.InOrder (policy : Checked RetryPolicy) (st : RunState) : RunCall → Prop
  | .retry runKey _ => ∀ s ∈ st.attempts runKey.val,
    (s.val.IsActive → runKey.val.attempt < policy.val.maxAttempts ∧
      s.val.runKey.val.attempt = runKey.val.attempt + 1) ∧
    (runKey.val.attempt < policy.val.maxAttempts → suppressesRerun s.val = false)
  | _ => True

/-- A call that is allowed; one that raises leaves the state as it is. -/
inductive RunStep (policy : Checked RetryPolicy) (allowed : RunState → RunCall → Prop) :
    RunState → RunState → Prop
  | ok {st st' : RunState} (call : RunCall) (hadmissible : call.Admissible st)
      (hallowed : allowed st call) (hcall : st.call policy call = .ok st') :
      RunStep policy allowed st st'
  | error {st : RunState} {e : PyError} (call : RunCall) (hadmissible : call.Admissible st)
      (hallowed : allowed st call) (hcall : st.call policy call = .error e) :
      RunStep policy allowed st st

/-- A sequence of calls that are allowed. -/
def Reaches (policy : Checked RetryPolicy) (allowed : RunState → RunCall → Prop) :
    RunState → RunState → Prop :=
  Relation.ReflTransGen (RunStep policy allowed)

/-! ## Invariants -/

/-- The run keys and the statuses correspond to each other, the attempts of an identity are numbered
from one up to the allowed number, and at most one of them has not ended. -/
structure RunsConsistent (policy : Checked RetryPolicy) (st : RunState) : Prop where
  nodup : st.reviewerRunKeys.Nodup
  stableKeys : st.reviewerRunStatus.map Prod.fst =
    st.reviewerRunKeys.map fun runKey => runKey.val.stableKey
  stableKeys_nodup : (st.reviewerRunStatus.map Prod.fst).Nodup
  runKeys : ∀ entry ∈ st.reviewerRunStatus, entry.2.val.runKey.val.stableKey = entry.1
  bounds : ∀ runKey ∈ st.reviewerRunKeys,
    1 ≤ runKey.val.attempt ∧ runKey.val.attempt ≤ policy.val.maxAttempts
  consecutive : ∀ runKey ∈ st.reviewerRunKeys, ∀ n, 1 ≤ n → n ≤ runKey.val.attempt →
    ∃! earlier, earlier ∈ st.reviewerRunKeys ∧
      sameReviewerIdentity earlier.val runKey.val = true ∧ earlier.val.attempt = n
  active : ∀ runKey, ∀ s ∈ st.attempts runKey, ∀ s' ∈ st.attempts runKey,
    s.val.IsActive → s'.val.IsActive → s = s'

/-- The attempts that suppress others keep their statuses, and no attempt of their identities is
selected. -/
def Settled (st st' : RunState) : Prop :=
  ∀ entry ∈ st.reviewerRunStatus, suppressesRerun entry.2.val = true →
    (∃ s, (entry.1, s) ∈ st'.reviewerRunStatus ∧ s.val.status = entry.2.val.status ∧
      suppressesRerun s.val = true) ∧
    ∀ s ∈ st'.attempts entry.2.val.runKey.val, s.val.status ≠ .selected

/-! ## Identities -/

/-- What the attempts of a reviewer have in common. -/
def ReviewerRunKey.identity (k : ReviewerRunKey) : Text × Text × ReviewStage × Text × Option Text :=
  (k.targetHash, k.configHash, k.stage, k.reviewer, k.clarificationId)

/-- Two keys are of the same reviewer exactly if their identities are the same. -/
lemma sameReviewerIdentity_iff {left right : ReviewerRunKey} :
    sameReviewerIdentity left right = true ↔ left.identity = right.identity := by
  unfold sameReviewerIdentity ReviewerRunKey.identity
  split
  · simp [and_assoc]
  · rename_i hnone
    simp only [Bool.or_eq_true, not_or, Option.not_isSome_iff_eq_none] at hnone
    simp [hnone, and_assoc]

/-- The identity, the attempt and the retried run determine a run key. -/
lemma ReviewerRunKey.eq_of_identity {k k' : Checked ReviewerRunKey}
    (hidentity : k.val.identity = k'.val.identity) (hattempt : k.val.attempt = k'.val.attempt)
    (hretry : k.val.retryOf = k'.val.retryOf) : k = k' := by
  obtain ⟨⟨targetHash, configHash, stage, reviewer, attempt, retryOf, clarificationId⟩, hk⟩ := k
  obtain ⟨⟨targetHash', configHash', stage', reviewer', attempt', retryOf', clarificationId'⟩,
      hk'⟩ := k'
  simp only [identity, Prod.mk.injEq] at hidentity hattempt hretry
  obtain ⟨rfl, rfl, rfl, rfl, rfl⟩ := hidentity
  subst hattempt hretry
  rfl

/-- Attempts are counted from one. -/
lemma ReviewerRunKey.attempt_pos (k : Checked ReviewerRunKey) : 0 < k.val.attempt := by
  have hchecks := k.property
  simp only [Record.postInit, check_bind_eq_ok, require_eq_ok] at hchecks
  exact hchecks.2.2.2.1

/-- A status that suppresses another run is not active. -/
lemma ReviewerRunStatus.not_isActive_of_suppressesRerun {s : ReviewerRunStatus}
    (h : suppressesRerun s = true) : ¬ s.IsActive := by
  rintro (hactive | hactive) <;> simp [suppressesRerun, isRetryExhaustedFailure, hactive] at h

/-! ## The invariant of the calls -/

/-- An attempt retries the one before it, the first one retries none, and an identity has an attempt
that has not ended or one that suppresses others, but not both. -/
structure RunsInvariant (policy : Checked RetryPolicy) (st : RunState) : Prop where
  keys : st.reviewerRunKeys = st.reviewerRunStatus.map fun entry => entry.2.val.runKey
  own : ∀ entry ∈ st.reviewerRunStatus, entry.2.val.runKey.val.stableKey = entry.1
  nodup : (st.reviewerRunStatus.map Prod.fst).Nodup
  bound : ∀ entry ∈ st.reviewerRunStatus, entry.2.val.runKey.val.attempt ≤ policy.val.maxAttempts
  first : ∀ entry ∈ st.reviewerRunStatus, entry.2.val.runKey.val.attempt = 1 →
    entry.2.val.runKey.val.retryOf = none
  later : ∀ entry ∈ st.reviewerRunStatus, 1 < entry.2.val.runKey.val.attempt →
    ∃ earlier ∈ st.reviewerRunStatus,
      earlier.2.val.runKey.val.identity = entry.2.val.runKey.val.identity ∧
      earlier.2.val.runKey.val.attempt + 1 = entry.2.val.runKey.val.attempt ∧
      entry.2.val.runKey.val.retryOf = some earlier.1
  active : ∀ entry ∈ st.reviewerRunStatus, ∀ entry' ∈ st.reviewerRunStatus,
    entry.2.val.runKey.val.identity = entry'.2.val.runKey.val.identity →
    entry.2.val.IsActive → entry'.2.val.IsActive → entry.1 = entry'.1
  settled : ∀ entry ∈ st.reviewerRunStatus, ∀ entry' ∈ st.reviewerRunStatus,
    entry.2.val.runKey.val.identity = entry'.2.val.runKey.val.identity →
    suppressesRerun entry.2.val = true → ¬ entry'.2.val.IsActive

namespace RunsInvariant

variable {policy : Checked RetryPolicy} {st st' : RunState}

/-- A state without runs. -/
lemma of_nil (hkeys : st.reviewerRunKeys = []) (hstatus : st.reviewerRunStatus = []) :
    RunsInvariant policy st := by
  constructor <;> simp [hkeys, hstatus]

/-- The stable key of an entry determines it. -/
lemma entry_eq (h : RunsInvariant policy st) {entry entry' : Text × Checked ReviewerRunStatus}
    (hmem : entry ∈ st.reviewerRunStatus) (hmem' : entry' ∈ st.reviewerRunStatus)
    (hkey : entry.1 = entry'.1) : entry = entry' :=
  List.inj_on_of_nodup_map h.nodup hmem hmem' hkey

/-- A run key is registered if there is a status under its stable key. -/
lemma mem_keys_iff (h : RunsInvariant policy st) {runKey : Checked ReviewerRunKey} :
    runKey ∈ st.reviewerRunKeys ↔ runKey.val.stableKey ∈ st.reviewerRunStatus.map Prod.fst := by
  rw [h.keys, List.mem_map, List.mem_map]
  constructor
  · rintro ⟨entry, hentry, rfl⟩
    exact ⟨entry, hentry, (h.own entry hentry).symm⟩
  · rintro ⟨entry, hentry, hkey⟩
    exact ⟨entry, hentry, Subtype.ext (ReviewerRunKey.stableKey_injective
      ((h.own entry hentry).trans hkey))⟩

/-- The entry of a registered run key. -/
lemma exists_entry (h : RunsInvariant policy st) {runKey : Checked ReviewerRunKey}
    (hmem : runKey ∈ st.reviewerRunKeys) : ∃ s, (runKey.val.stableKey, s) ∈ st.reviewerRunStatus ∧
      s.val.runKey = runKey := by
  rw [h.keys] at hmem
  obtain ⟨⟨key, s⟩, hentry, rfl⟩ := List.mem_map.1 hmem
  exact ⟨s, by rw [h.own _ hentry]; exact hentry, rfl⟩

/-- The attempts of an identity have different numbers. -/
lemma runKey_eq (h : RunsInvariant policy st) {entry entry' : Text × Checked ReviewerRunStatus}
    (hmem : entry ∈ st.reviewerRunStatus) (hmem' : entry' ∈ st.reviewerRunStatus)
    (hidentity : entry.2.val.runKey.val.identity = entry'.2.val.runKey.val.identity)
    (hattempt : entry.2.val.runKey.val.attempt = entry'.2.val.runKey.val.attempt) :
    entry.2.val.runKey = entry'.2.val.runKey := by
  -- The attempts before them are the same by induction, so that both retry the same run.
  obtain ⟨n, hn⟩ : ∃ n : ℕ, entry.2.val.runKey.val.attempt = n + 1 :=
    ⟨(entry.2.val.runKey.val.attempt - 1).toNat, by
      have hpos := ReviewerRunKey.attempt_pos entry.2.val.runKey
      omega⟩
  induction n generalizing entry entry' with
  | zero =>
    have hone : entry.2.val.runKey.val.attempt = 1 := by omega
    exact ReviewerRunKey.eq_of_identity hidentity hattempt
      ((h.first entry hmem hone).trans (h.first entry' hmem' (hattempt ▸ hone)).symm)
  | succ n ih =>
    obtain ⟨earlier, hearlier, hsame, hnext, hretry⟩ := h.later entry hmem (by omega)
    obtain ⟨earlier', hearlier', hsame', hnext', hretry'⟩ := h.later entry' hmem' (by omega)
    have heq := ih hearlier hearlier' (hsame.trans (hidentity.trans hsame'.symm)) (by omega)
      (by omega)
    refine ReviewerRunKey.eq_of_identity hidentity hattempt ?_
    rw [hretry, hretry', ← h.own earlier hearlier, ← h.own earlier' hearlier', heq]

/-- Every smaller number is that of an attempt of the identity. -/
lemma exists_earlier (h : RunsInvariant policy st) {entry : Text × Checked ReviewerRunStatus}
    (hmem : entry ∈ st.reviewerRunStatus) {n : ℤ} (hpos : 1 ≤ n)
    (hle : n ≤ entry.2.val.runKey.val.attempt) : ∃ earlier ∈ st.reviewerRunStatus,
      earlier.2.val.runKey.val.identity = entry.2.val.runKey.val.identity ∧
      earlier.2.val.runKey.val.attempt = n := by
  obtain ⟨d, hd⟩ : ∃ d : ℕ, entry.2.val.runKey.val.attempt = n + d :=
    ⟨(entry.2.val.runKey.val.attempt - n).toNat, by omega⟩
  induction d generalizing entry with
  | zero => exact ⟨entry, hmem, rfl, by omega⟩
  | succ d ih =>
    obtain ⟨earlier, hearlier, hsame, hnext, -⟩ := h.later entry hmem (by omega)
    obtain ⟨first, hfirst, hsame', hattempt⟩ := ih hearlier (by omega) (by omega)
    exact ⟨first, hfirst, hsame'.trans hsame, hattempt⟩

/-- A status that is set under the stable key of its run keeps the invariant, if the run continues
its identity. -/
lemma set (h : RunsInvariant policy st) {s : Checked ReviewerRunStatus}
    (hstatus : st'.reviewerRunStatus =
      Table.set st.reviewerRunStatus s.val.runKey.val.stableKey s)
    (hkeys : st'.reviewerRunKeys = if s.val.runKey ∈ st.reviewerRunKeys then st.reviewerRunKeys
      else st.reviewerRunKeys ++ [s.val.runKey])
    (hbound : s.val.runKey.val.attempt ≤ policy.val.maxAttempts)
    (hfirst : s.val.runKey.val.attempt = 1 → s.val.runKey.val.retryOf = none)
    (hlater : 1 < s.val.runKey.val.attempt → ∃ earlier ∈ st.reviewerRunStatus,
      earlier.2.val.runKey.val.identity = s.val.runKey.val.identity ∧
      earlier.2.val.runKey.val.attempt + 1 = s.val.runKey.val.attempt ∧
      s.val.runKey.val.retryOf = some earlier.1)
    (hothers : ∀ entry ∈ st.reviewerRunStatus, entry.1 ≠ s.val.runKey.val.stableKey →
      entry.2.val.runKey.val.identity = s.val.runKey.val.identity →
      (s.val.IsActive → ¬ entry.2.val.IsActive ∧ suppressesRerun entry.2.val = false) ∧
      (suppressesRerun s.val = true → ¬ entry.2.val.IsActive)) : RunsInvariant policy st' := by
  have hmem : ∀ entry, entry ∈ st'.reviewerRunStatus ↔
      entry = (s.val.runKey.val.stableKey, s) ∨
        entry ∈ st.reviewerRunStatus ∧ entry.1 ≠ s.val.runKey.val.stableKey := by
    intro entry
    rw [hstatus, Table.mem_set]
  -- An entry of the old table has one with the same run in the new table.
  have hkept : ∀ entry ∈ st.reviewerRunStatus, ∃ kept ∈ st'.reviewerRunStatus,
      kept.1 = entry.1 ∧ kept.2.val.runKey = entry.2.val.runKey := by
    intro entry hentry
    by_cases hkey : entry.1 = s.val.runKey.val.stableKey
    · refine ⟨_, (hmem _).2 (.inl rfl), hkey.symm, ?_⟩
      exact Subtype.ext (ReviewerRunKey.stableKey_injective
        (hkey.symm.trans (h.own entry hentry).symm))
    · exact ⟨entry, (hmem _).2 (.inr ⟨hentry, hkey⟩), rfl, rfl⟩
  have hlater' : ∀ (runKey : Checked ReviewerRunKey),
      (∃ earlier ∈ st.reviewerRunStatus,
        earlier.2.val.runKey.val.identity = runKey.val.identity ∧
        earlier.2.val.runKey.val.attempt + 1 = runKey.val.attempt ∧
        runKey.val.retryOf = some earlier.1) →
      ∃ earlier ∈ st'.reviewerRunStatus,
        earlier.2.val.runKey.val.identity = runKey.val.identity ∧
        earlier.2.val.runKey.val.attempt + 1 = runKey.val.attempt ∧
        runKey.val.retryOf = some earlier.1 := by
    rintro runKey ⟨earlier, hearlier, hsame, hnext, hretry⟩
    obtain ⟨kept, hkeptMem, hkey, hrun⟩ := hkept earlier hearlier
    exact ⟨kept, hkeptMem, by
      rw [hrun]; exact hsame, by rw [hrun]; exact hnext, by rw [hkey]; exact hretry⟩
  constructor
  case keys =>
    simp only [hkeys, h.mem_keys_iff, hstatus]
    unfold Table.set
    split
    · rw [h.keys, List.map_map]
      refine List.map_congr_left fun entry hentry => ?_
      rw [Function.comp_apply]
      split
      · rename_i hkey
        exact Subtype.ext (ReviewerRunKey.stableKey_injective ((h.own entry hentry).trans hkey))
      · rfl
    · rw [h.keys, List.map_append]
      rfl
  case own =>
    intro entry hentry
    rcases (hmem entry).1 hentry with rfl | ⟨hold, -⟩
    · rfl
    · exact h.own entry hold
  case nodup =>
    rw [hstatus]
    exact Table.nodup_keys_set h.nodup _ _
  case bound =>
    intro entry hentry
    rcases (hmem entry).1 hentry with rfl | ⟨hold, -⟩
    · exact hbound
    · exact h.bound entry hold
  case first =>
    intro entry hentry
    rcases (hmem entry).1 hentry with rfl | ⟨hold, -⟩
    · exact hfirst
    · exact h.first entry hold
  case later =>
    intro entry hentry hattempt
    rcases (hmem entry).1 hentry with rfl | ⟨hold, -⟩
    · exact hlater' _ (hlater hattempt)
    · exact hlater' _ (h.later entry hold hattempt)
  case active =>
    intro entry hentry entry' hentry' hidentity hactive hactive'
    rcases (hmem entry).1 hentry with rfl | ⟨hold, hne⟩
    · rcases (hmem entry').1 hentry' with rfl | ⟨hold', hne'⟩
      · rfl
      · exact absurd hactive' ((hothers entry' hold' hne' hidentity.symm).1 hactive).1
    · rcases (hmem entry').1 hentry' with rfl | ⟨hold', -⟩
      · exact absurd hactive ((hothers entry hold hne hidentity).1 hactive').1
      · exact h.active entry hold entry' hold' hidentity hactive hactive'
  case settled =>
    intro entry hentry entry' hentry' hidentity hsuppresses hactive
    rcases (hmem entry).1 hentry with rfl | ⟨hold, hne⟩
    · rcases (hmem entry').1 hentry' with rfl | ⟨hold', hne'⟩
      · exact ReviewerRunStatus.not_isActive_of_suppressesRerun hsuppresses hactive
      · exact (hothers entry' hold' hne' hidentity.symm).2 hsuppresses hactive
    · rcases (hmem entry').1 hentry' with rfl | ⟨hold', -⟩
      · rw [((hothers entry hold hne hidentity).1 hactive).2] at hsuppresses
        contradiction
      · exact h.settled entry hold entry' hold' hidentity hsuppresses hactive

end RunsInvariant

/-! ## Steps -/

/-- What it takes to record a status, and what is recorded. -/
lemma recordReviewerRunStatus_eq_ok {st st' : RunState} {runKey : Checked ReviewerRunKey}
    {status : RunStatusValue} {reason : Text} {s : Checked ReviewerRunStatus}
    (h : recordReviewerRunStatus st runKey status reason = .ok (s, st')) :
    s.val = ⟨status, runKey, some reason⟩ ∧
      st'.reviewerRunStatus = Table.set st.reviewerRunStatus runKey.val.stableKey s ∧
      st'.reviewerRunKeys = if runKey ∈ st.reviewerRunKeys then st.reviewerRunKeys
        else st.reviewerRunKeys ++ [runKey] := by
  unfold recordReviewerRunStatus at h
  simp only [bind_eq_ok, construct_eq_ok, pure_eq_ok, Prod.mk.injEq] at h
  obtain ⟨s', hs', rfl, rfl⟩ := h
  exact ⟨hs', rfl, rfl⟩

/-- The attempts that suppress others keep their statuses. -/
def Kept (st st' : RunState) : Prop :=
  ∀ entry ∈ st.reviewerRunStatus, suppressesRerun entry.2.val = true →
    ∃ s, (entry.1, s) ∈ st'.reviewerRunStatus ∧ s.val.status = entry.2.val.status ∧
      suppressesRerun s.val = true

/-- A state keeps its own attempts. -/
lemma Kept.refl (st : RunState) : Kept st st := fun entry hentry h => ⟨entry.2, hentry, rfl, h⟩

/-- What is kept twice is kept. -/
lemma Kept.trans {st st' st'' : RunState} (h : Kept st st') (h' : Kept st' st'') :
    Kept st st'' := by
  intro entry hentry hsuppresses
  obtain ⟨s, hs, hstatus, hsuppresses'⟩ := h entry hentry hsuppresses
  obtain ⟨s', hs', hstatus', hsuppresses''⟩ := h' _ hs hsuppresses'
  exact ⟨s', hs', hstatus'.trans hstatus, hsuppresses''⟩

/-- A status that is set keeps the statuses that suppress others, if it replaces none of them. -/
lemma Kept.set {st st' : RunState} {key : Text} {s : Checked ReviewerRunStatus}
    (hstatus : st'.reviewerRunStatus = Table.set st.reviewerRunStatus key s)
    (hsame : ∀ entry ∈ st.reviewerRunStatus, entry.1 = key → suppressesRerun entry.2.val = true →
      s.val.status = entry.2.val.status ∧ suppressesRerun s.val = true) : Kept st st' := by
  intro entry hentry hsuppresses
  rw [hstatus]
  by_cases hkey : entry.1 = key
  · exact ⟨s, Table.mem_set.2 (.inl (by rw [hkey])), hsame entry hentry hkey hsuppresses⟩
  · exact ⟨entry.2, Table.mem_set.2 (.inr ⟨hentry, hkey⟩), rfl, hsuppresses⟩

/-- The attempts of a reviewer are those recorded for its identity. -/
lemma mem_attempts {st : RunState} {runKey : ReviewerRunKey} {s : Checked ReviewerRunStatus} :
    s ∈ st.attempts runKey ↔ (∃ key, (key, s) ∈ st.reviewerRunStatus) ∧
      s.val.runKey.val.identity = runKey.identity := by
  unfold RunState.attempts
  rw [List.mem_filter, sameReviewerIdentity_iff, List.mem_map]
  constructor
  · rintro ⟨⟨entry, hentry, rfl⟩, hidentity⟩
    exact ⟨⟨entry.1, hentry⟩, hidentity⟩
  · rintro ⟨⟨key, hentry⟩, hidentity⟩
    exact ⟨⟨_, hentry, rfl⟩, hidentity⟩

namespace RunsInvariant

variable {policy : Checked RetryPolicy} {st st' : RunState}

/-- The status of a registered run key is its entry. -/
lemma statusOf_eq_some (h : RunsInvariant policy st) {runKey : Checked ReviewerRunKey}
    {s : Checked ReviewerRunStatus} (hs : st.statusOf runKey = some s) :
    (runKey.val.stableKey, s) ∈ st.reviewerRunStatus ∧ s.val.runKey = runKey := by
  unfold RunState.statusOf at hs
  rw [Table.get?_eq_some_iff h.nodup] at hs
  have hown := h.own _ hs
  exact ⟨hs, Subtype.ext (ReviewerRunKey.stableKey_injective hown)⟩

/-- A selection keeps the invariant. -/
lemma register (h : RunsInvariant policy st) {reviewer : Checked SelectedReviewer}
    {clarificationId : Option Text} {result : Option (Checked ReviewerRunKey)}
    (hcall : registerSelectedReviewer st reviewer clarificationId = .ok (result, st')) :
    RunsInvariant policy st' ∧ Kept st st' := by
  unfold registerSelectedReviewer at hcall
  obtain ⟨runKey, hkey, hcall⟩ := bind_eq_ok.1 hcall
  split at hcall
  · simp only [pure_eq_ok, Prod.mk.injEq] at hcall
    obtain ⟨-, rfl⟩ := hcall
    exact ⟨h, .refl st⟩
  split at hcall
  · simp only [pure_eq_ok, Prod.mk.injEq] at hcall
    obtain ⟨-, rfl⟩ := hcall
    exact ⟨h, .refl st⟩
  rename_i hnone
  simp only [bind_eq_ok, construct_eq_ok, pure_eq_ok, Prod.mk.injEq] at hcall
  obtain ⟨s, hs, -, rfl⟩ := hcall
  have hfields : runKey.val.attempt = 1 ∧ runKey.val.retryOf = none := by
    unfold makeReviewerRunKey at hkey
    simp only [bind_eq_ok, construct_eq_ok] at hkey
    obtain ⟨stage, -, hval⟩ := hkey
    simp [hval]
  have hget : runKey.val.stableKey ∉ st.reviewerRunStatus.map Prod.fst := by
    rw [← Table.get?_eq_none_iff]
    simpa using hnone
  have hrunKey : s.val.runKey = runKey := by rw [hs]
  -- Without its first attempt an identity has no attempts.
  have hfresh : ∀ entry ∈ st.reviewerRunStatus,
      entry.2.val.runKey.val.identity ≠ runKey.val.identity := by
    intro entry hentry hidentity
    obtain ⟨first, hfirst, hsame, hattempt⟩ := h.exists_earlier hentry le_rfl
      (Int.lt_iff_add_one_le.1 (ReviewerRunKey.attempt_pos entry.2.val.runKey))
    have heq : first.2.val.runKey = runKey := ReviewerRunKey.eq_of_identity (hsame.trans hidentity)
      (hattempt.trans hfields.1.symm) ((h.first first hfirst hattempt).trans hfields.2.symm)
    refine hget (List.mem_map.2 ⟨first, hfirst, ?_⟩)
    rw [← h.own first hfirst, heq]
  have hunregistered : runKey ∉ st.reviewerRunKeys := fun hmem => hget (h.mem_keys_iff.1 hmem)
  constructor
  · refine h.set (s := s) (by rw [hrunKey]) ?_ ?_ ?_ ?_ ?_
    · rw [hrunKey, if_neg hunregistered]
    · have hpolicy := policy.property
      simp only [Record.postInit, require_eq_ok] at hpolicy
      rw [hrunKey, hfields.1]
      omega
    · rw [hrunKey]
      exact fun _ => hfields.2
    · rw [hrunKey, hfields.1]
      exact fun hlt => absurd hlt (lt_irrefl _)
    · rw [hrunKey]
      exact fun entry hentry _ hidentity => absurd hidentity (hfresh entry hentry)
  · refine Kept.set rfl fun entry hentry hkey => ?_
    exact absurd (List.mem_map.2 ⟨entry, hentry, hkey⟩) hget

/-- A status that is recorded for an attempt that has not ended keeps the invariant. -/
lemma record (h : RunsInvariant policy st) {runKey : Checked ReviewerRunKey}
    {status : RunStatusValue} {reason : Text} {result : Checked ReviewerRunStatus}
    (hadmissible : (RunCall.record runKey status reason).Admissible st)
    (hcall : recordReviewerRunStatus st runKey status reason = .ok (result, st')) :
    RunsInvariant policy st' ∧ Kept st st' := by
  obtain ⟨hregistered, old, hold, hactive⟩ := hadmissible
  obtain ⟨hentry, hrun⟩ := h.statusOf_eq_some hold
  obtain ⟨hresult, hstatus, hkeys⟩ := recordReviewerRunStatus_eq_ok hcall
  have hrunKey : result.val.runKey = runKey := by rw [hresult]
  constructor
  · refine h.set (s := result) (by rw [hrunKey]; exact hstatus) (by rw [hrunKey]; exact hkeys)
      ?_ ?_ ?_ ?_
    · rw [hrunKey, ← hrun]
      exact h.bound _ hentry
    · rw [hrunKey, ← hrun]
      exact h.first _ hentry
    · rw [hrunKey, ← hrun]
      exact h.later _ hentry
    · rw [hrunKey]
      intro entry hentry' hne hidentity
      -- The other attempts have ended, and none suppresses others.
      have hidentity' : entry.2.val.runKey.val.identity = old.val.runKey.val.identity := by
        rw [hrun]
        exact hidentity
      have hended : ¬ entry.2.val.IsActive := fun hactive' =>
        hne (h.active entry hentry' _ hentry hidentity' hactive' hactive)
      refine ⟨fun _ => ⟨hended, ?_⟩, fun _ => hended⟩
      rw [← Bool.not_eq_true]
      exact fun hsuppresses => h.settled entry hentry' _ hentry hidentity' hsuppresses hactive
  · refine Kept.set hstatus fun entry hentry' hkey hsuppresses => ?_
    obtain rfl := h.entry_eq hentry' hentry hkey
    exact absurd hactive (ReviewerRunStatus.not_isActive_of_suppressesRerun hsuppresses)

/-- A retry in order keeps the invariant. -/
lemma retry (h : RunsInvariant policy st) {runKey : Checked ReviewerRunKey} {reason : Text}
    {decision : RetryDecision} (hadmissible : (RunCall.retry runKey reason).Admissible st)
    (horder : (RunCall.retry runKey reason).InOrder policy st)
    (hcall : retryAfterFailure st runKey policy reason = .ok (decision, st')) :
    RunsInvariant policy st' ∧ Kept st st' := by
  obtain ⟨hregistered, old, hold, hfailed⟩ := hadmissible
  obtain ⟨hentry, hrun⟩ := h.statusOf_eq_some hold
  have horder' : ∀ entry ∈ st.reviewerRunStatus,
      entry.2.val.runKey.val.identity = runKey.val.identity →
      (entry.2.val.IsActive → runKey.val.attempt < policy.val.maxAttempts ∧
        entry.2.val.runKey.val.attempt = runKey.val.attempt + 1) ∧
      (runKey.val.attempt < policy.val.maxAttempts → suppressesRerun entry.2.val = false) :=
    fun entry hmem hidentity => horder entry.2 (mem_attempts.2 ⟨⟨entry.1, hmem⟩, hidentity⟩)
  unfold retryAfterFailure at hcall
  split at hcall
  · rename_i hmax
    obtain ⟨⟨result, st₁⟩, hrecord, hcall⟩ := bind_eq_ok.1 hcall
    simp only [pure_eq_ok, Prod.mk.injEq] at hcall
    obtain ⟨-, rfl⟩ := hcall
    obtain ⟨hresult, hstatus, hkeys⟩ := recordReviewerRunStatus_eq_ok hrecord
    have hrunKey : result.val.runKey = runKey := by rw [hresult]
    have hexhausted : suppressesRerun result.val = true := by
      rw [hresult]
      simp [suppressesRerun, isRetryExhaustedFailure, Text.ofString_eq]
    constructor
    · refine h.set (s := result) (by rw [hrunKey]; exact hstatus) (by rw [hrunKey]; exact hkeys)
        ?_ ?_ ?_ ?_
      · rw [hrunKey, ← hrun]
        exact h.bound _ hentry
      · rw [hrunKey, ← hrun]
        exact h.first _ hentry
      · rw [hrunKey, ← hrun]
        exact h.later _ hentry
      · rw [hrunKey]
        intro entry hentry' hne hidentity
        have hended : ¬ entry.2.val.IsActive := fun hactive =>
          absurd ((horder' entry hentry' hidentity).1 hactive).1 (not_lt.2 hmax)
        exact ⟨fun hactive => absurd hactive
          (ReviewerRunStatus.not_isActive_of_suppressesRerun hexhausted), fun _ => hended⟩
    · refine Kept.set hstatus fun entry hentry' hkey hsuppresses => ?_
      obtain rfl := h.entry_eq hentry' hentry hkey
      exact ⟨by rw [hresult]; exact hfailed.symm, hexhausted⟩
  · rename_i hmax
    rw [not_le] at hmax
    obtain ⟨nextKey, hnext, hcall⟩ := bind_eq_ok.1 hcall
    rw [construct_eq_ok] at hnext
    obtain ⟨⟨result, st₁⟩, hrecord, hcall⟩ := bind_eq_ok.1 hcall
    simp only [pure_eq_ok, Prod.mk.injEq] at hcall
    obtain ⟨-, rfl⟩ := hcall
    obtain ⟨hresult, hstatus, hkeys⟩ := recordReviewerRunStatus_eq_ok hrecord
    have hrunKey : result.val.runKey = nextKey := by rw [hresult]
    have hidentity : nextKey.val.identity = runKey.val.identity := by
      rw [hnext]
      rfl
    have hpos := ReviewerRunKey.attempt_pos runKey
    have hattempt : nextKey.val.attempt = runKey.val.attempt + 1 := by rw [hnext]
    constructor
    · refine h.set (s := result) (by rw [hrunKey]; exact hstatus) (by rw [hrunKey]; exact hkeys)
        ?_ ?_ ?_ ?_
      · rw [hrunKey, hattempt]
        omega
      · rw [hrunKey, hattempt]
        intro hone
        omega
      · rw [hrunKey]
        intro _
        refine ⟨_, hentry, ?_, ?_, ?_⟩
        · rw [hrun, hidentity]
        · rw [hrun, hattempt]
        · rw [hnext]
      · rw [hrunKey]
        intro entry hentry' hne hsame
        obtain ⟨hactive, hsuppresses⟩ := horder' entry hentry' (hsame.trans hidentity)
        have hended : ¬ entry.2.val.IsActive := by
          intro hactive'
          -- The attempt with the next number retries this one, so that it is the next attempt.
          have hnumber := (hactive hactive').2
          obtain ⟨earlier, hearlier, hsame', hbefore, hretry⟩ := h.later entry hentry' (by omega)
          have hthis : earlier.2.val.runKey = old.val.runKey :=
            h.runKey_eq hearlier hentry (by rw [hsame', hsame, hidentity, hrun]) (by
              rw [hrun]
              omega)
          refine hne ?_
          have heq : entry.2.val.runKey = nextKey := by
            refine ReviewerRunKey.eq_of_identity hsame (hnumber.trans hattempt.symm) ?_
            rw [hretry, ← h.own earlier hearlier, hthis, hrun, hnext]
          rw [← h.own entry hentry', heq]
        exact ⟨fun _ => ⟨hended, hsuppresses hmax⟩, fun _ => hended⟩
    · refine Kept.set hstatus fun entry hentry' hkey hsuppresses => ?_
      have hsame : entry.2.val.runKey = nextKey :=
        Subtype.ext (ReviewerRunKey.stableKey_injective ((h.own entry hentry').trans hkey))
      have hnot := (horder' entry hentry' (by rw [hsame, hidentity])).2 hmax
      rw [hnot] at hsuppresses
      contradiction

/-- A result without its first part. -/
lemma map_snd_eq_ok {α β : Type} {x : Result (α × β)} {b : β} (h : x.map Prod.snd = .ok b) :
    ∃ a, x = .ok (a, b) := by
  cases x with
  | error e => contradiction
  | ok p =>
    obtain rfl := Except.ok.inj h
    exact ⟨p.1, rfl⟩

/-- A step in order keeps the invariant. -/
lemma step (h : RunsInvariant policy st) (hstep : RunStep policy (RunCall.InOrder policy) st st') :
    RunsInvariant policy st' ∧ Kept st st' := by
  cases hstep with
  | error => exact ⟨h, .refl st⟩
  | ok call hadmissible hallowed hcall =>
    cases call with
    | register reviewer clarificationId =>
      obtain ⟨_, hresult⟩ := map_snd_eq_ok hcall
      exact h.register hresult
    | record runKey status reason =>
      obtain ⟨_, hresult⟩ := map_snd_eq_ok hcall
      exact h.record hadmissible hresult
    | retry runKey reason =>
      obtain ⟨_, hresult⟩ := map_snd_eq_ok hcall
      exact h.retry hadmissible hallowed hresult

/-- So does a run in order. -/
lemma reaches (h : RunsInvariant policy st) (hrun : Reaches policy (RunCall.InOrder policy) st
    st') :
    RunsInvariant policy st' ∧ Kept st st' := by
  induction hrun with
  | refl => exact ⟨h, .refl st⟩
  | tail _ hstep ih =>
    obtain ⟨hinv, hkept⟩ := ih
    obtain ⟨hinv', hkept'⟩ := hinv.step hstep
    exact ⟨hinv', hkept.trans hkept'⟩

/-- The invariant implies what the operations promise about a state. -/
lemma consistent (h : RunsInvariant policy st) : RunsConsistent policy st := by
  have hstable : st.reviewerRunStatus.map Prod.fst =
      st.reviewerRunKeys.map fun runKey => runKey.val.stableKey := by
    rw [h.keys, List.map_map]
    exact List.map_congr_left fun entry hentry => (h.own entry hentry).symm
  constructor
  case nodup =>
    have hnodup := h.nodup
    rw [hstable] at hnodup
    exact hnodup.of_map
  case stableKeys => exact hstable
  case stableKeys_nodup => exact h.nodup
  case runKeys => exact h.own
  case bounds =>
    intro runKey hmem
    obtain ⟨s, hentry, rfl⟩ := h.exists_entry hmem
    exact ⟨ReviewerRunKey.attempt_pos _, h.bound _ hentry⟩
  case consecutive =>
    intro runKey hmem n hpos hle
    obtain ⟨s, hentry, rfl⟩ := h.exists_entry hmem
    obtain ⟨earlier, hearlier, hidentity, hattempt⟩ := h.exists_earlier hentry hpos hle
    refine ⟨earlier.2.val.runKey, ⟨?_, sameReviewerIdentity_iff.2 hidentity, hattempt⟩, ?_⟩
    · rw [h.keys]
      exact List.mem_map_of_mem (f := fun entry => entry.2.val.runKey) hearlier
    · rintro other ⟨hother, hsame, hnumber⟩
      obtain ⟨s', hentry', rfl⟩ := h.exists_entry hother
      exact h.runKey_eq hentry' hearlier ((sameReviewerIdentity_iff.1 hsame).trans hidentity.symm)
        (hnumber.trans hattempt.symm)
  case active =>
    intro runKey s hs s' hs' hactive hactive'
    obtain ⟨⟨key, hentry⟩, hidentity⟩ := mem_attempts.1 hs
    obtain ⟨⟨key', hentry'⟩, hidentity'⟩ := mem_attempts.1 hs'
    have hkey := h.active _ hentry _ hentry' (hidentity.trans hidentity'.symm) hactive hactive'
    exact congrArg Prod.snd (h.entry_eq hentry hentry' hkey)

/-- No attempt of an identity is selected beside one that suppresses others. -/
lemma settled_of_kept (h : RunsInvariant policy st) (h' : RunsInvariant policy st')
    (hkept : Kept st st') : Settled st st' := by
  intro entry hentry hsuppresses
  obtain ⟨s, hs, hstatus, hsuppresses'⟩ := hkept entry hentry hsuppresses
  refine ⟨⟨s, hs, hstatus, hsuppresses'⟩, fun other hother hselected => ?_⟩
  obtain ⟨⟨key, hentry'⟩, hidentity⟩ := mem_attempts.1 hother
  have hrun : s.val.runKey = entry.2.val.runKey :=
    Subtype.ext (ReviewerRunKey.stableKey_injective ((h'.own _ hs).trans (h.own entry hentry).symm))
  exact h'.settled _ hs _ hentry' (by rw [hrun, hidentity]) hsuppresses' (.inl hselected)

end RunsInvariant

/-- If every retry is in order, the runs of the reviewers stay consistent, and what has settled
stays settled. -/
theorem runs_of_inOrder {policy : Checked RetryPolicy} {st st' st'' : RunState}
    (hkeys : st.reviewerRunKeys = []) (hstatus : st.reviewerRunStatus = [])
    (hrun : Reaches policy (RunCall.InOrder policy) st st')
    (hlater : Reaches policy (RunCall.InOrder policy) st' st'') :
    RunsConsistent policy st' ∧ Settled st' st'' := by
  obtain ⟨hinv, -⟩ := (RunsInvariant.of_nil hkeys hstatus).reaches hrun
  obtain ⟨hinv', hkept⟩ := hinv.reaches hlater
  exact ⟨hinv.consistent, hinv.settled_of_kept hinv' hkept⟩

/-! ## A retry out of order -/

/-- Two attempts. -/
def twoAttempts : Checked RetryPolicy := ⟨⟨2⟩, by decide +kernel⟩

/-- A reviewer of the first stage. -/
def triageReviewer : Checked SelectedReviewer :=
  ⟨⟨['c'], "initial_triage", [['a']]⟩, by simp [Record.postInit, Text.ofString_eq]⟩

/-- The state of a review before its reviewers run. -/
def noRuns : RunState := ⟨gateTarget, ['h'], [], [], []⟩

/-- The status of an attempt, with a reason. -/
def attemptStatus (runKey : Checked ReviewerRunKey) (status : RunStatusValue) (reason : Text)
    (h : reason ≠ []) : Checked ReviewerRunStatus :=
  ⟨⟨status, runKey, some reason⟩, by
    simp [Record.postInit, requireOptionalNonEmpty, requireNonEmpty, h]⟩

/-- The status of an attempt with a reason can be built. -/
lemma construct_attemptStatus (runKey : Checked ReviewerRunKey) (status : RunStatusValue)
    {reason : Text} (h : reason ≠ []) :
    construct ⟨status, runKey, some reason⟩ = .ok (attemptStatus runKey status reason h) :=
  construct_eq_ok.2 rfl

/-- A status with a reason is recorded. -/
lemma recordReviewerRunStatus_eq (st : RunState) (runKey : Checked ReviewerRunKey)
    (status : RunStatusValue) {reason : Text} (h : reason ≠ []) :
    recordReviewerRunStatus st runKey status reason = .ok (attemptStatus runKey status reason h,
      { st with
        reviewerRunStatus := Table.set st.reviewerRunStatus runKey.val.stableKey
          (attemptStatus runKey status reason h)
        reviewerRunKeys := if runKey ∈ st.reviewerRunKeys then st.reviewerRunKeys
          else st.reviewerRunKeys ++ [runKey] }) := by
  unfold recordReviewerRunStatus
  rw [construct_attemptStatus runKey status h]
  rfl

/-- The hash of a target is not empty. -/
lemma ReviewTarget.targetHash_ne_nil (t : ReviewTarget) : t.targetHash ≠ [] :=
  t.isStrictSha256_targetHash.ne_nil

/-- The key of a run is not empty. -/
lemma ReviewerRunKey.stableKey_ne_nil (k : ReviewerRunKey) : k.stableKey ≠ [] := by
  have hbrace : Json.asciiEscape '\x7b' = ['\x7b'] := Json.asciiEscape_of_lt (by decide)
  unfold stableKey Json.asciiDumps
  rw [Json.dumps_obj, List.flatMap_cons, hbrace]
  exact List.cons_ne_nil _ _

/-- The first attempt of the reviewer. -/
def firstAttempt : Checked ReviewerRunKey :=
  ⟨⟨gateTarget.val.targetHash, ['h'], .initialTriage, ['c'], 1, none, none⟩, by
    simp [Record.postInit, requireOptionalNonEmpty, requireNonEmpty,
      ReviewTarget.targetHash_ne_nil]⟩

/-- Its second attempt. -/
def secondAttempt : Checked ReviewerRunKey :=
  ⟨{ firstAttempt.val with attempt := 1 + 1, retryOf := some firstAttempt.val.stableKey }, by
    simp [Record.postInit, requireOptionalNonEmpty, requireNonEmpty, ReviewTarget.targetHash_ne_nil,
      ReviewerRunKey.stableKey_ne_nil, firstAttempt]⟩

/-- The state behind the first attempt. -/
def oneAttempt (s : Checked ReviewerRunStatus) : RunState :=
  ⟨gateTarget, ['h'], [firstAttempt], [(firstAttempt.val.stableKey, s)], [triageReviewer]⟩

/-- The state behind the second attempt. -/
def bothAttempts (s t : Checked ReviewerRunStatus) : RunState :=
  ⟨gateTarget, ['h'], [firstAttempt, secondAttempt],
    [(firstAttempt.val.stableKey, s), (secondAttempt.val.stableKey, t)], [triageReviewer]⟩

/-- The two attempts differ. -/
lemma firstAttempt_ne : firstAttempt ≠ secondAttempt := by
  intro h
  exact absurd (congrArg (fun k => k.val.attempt) h) (by decide)

/-- So do their keys. -/
lemma stableKey_firstAttempt_ne : firstAttempt.val.stableKey ≠ secondAttempt.val.stableKey :=
  fun h => firstAttempt_ne (Subtype.ext (ReviewerRunKey.stableKey_injective h))

/-- The reviewer is selected for a first attempt. -/
lemma noRuns_register : ∃ s, s.val.status = .selected ∧ s.val.runKey = firstAttempt ∧
    noRuns.call twoAttempts (.register triageReviewer none) = .ok (oneAttempt s) := by
  have hkey : makeReviewerRunKey noRuns triageReviewer.val 1 none none = .ok firstAttempt := by
    unfold makeReviewerRunKey
    have hstage : reviewStageOfValue triageReviewer.val.stage = .ok .initialTriage := by
      simp [reviewStageOfValue, triageReviewer, ReviewStage.value]
    rw [hstage, ok_bind]
    exact construct_eq_ok.2 rfl
  have hreason : Text.ofString "selected by active-stage routing" ≠ [] := by simp
  refine ⟨attemptStatus firstAttempt .selected _ hreason, rfl, rfl, ?_⟩
  have hnone : hasSuppressingStatusForReviewer noRuns firstAttempt.val = false := rfl
  have hget : (Table.get? noRuns.reviewerRunStatus firstAttempt.val.stableKey).isSome = false := rfl
  simp only [RunState.call, registerSelectedReviewer, hkey, ok_bind, hnone, hget,
    construct_attemptStatus firstAttempt .selected hreason, Bool.false_eq_true, if_false]
  rfl

/-- The first attempt fails. -/
lemma oneAttempt_record (s : Checked ReviewerRunStatus) : ∃ t, t.val.status = .failed ∧
    suppressesRerun t.val = false ∧
    (oneAttempt s).call twoAttempts (.record firstAttempt .failed ['x']) = .ok (oneAttempt t) := by
  refine ⟨attemptStatus firstAttempt .failed ['x'] (List.cons_ne_nil _ _), rfl, ?_, ?_⟩
  · simp [suppressesRerun, isRetryExhaustedFailure, attemptStatus, Text.ofString_eq]
  simp only [RunState.call, recordReviewerRunStatus_eq _ _ _ (List.cons_ne_nil 'x' []), Except.map]
  simp [oneAttempt, Table.set]

/-- The second attempt is selected by a retry of the first one. -/
lemma oneAttempt_retry (s : Checked ReviewerRunStatus) : ∃ t, t.val.status = .selected ∧
    t.val.runKey = secondAttempt ∧
    (oneAttempt s).call twoAttempts (.retry firstAttempt ['x']) = .ok (bothAttempts s t) := by
  have hreason : Text.ofString "retry selected after failure: " ++ ['x'] ≠ [] := by simp
  refine ⟨attemptStatus secondAttempt .selected _ hreason, rfl, rfl, ?_⟩
  have hnext : construct { firstAttempt.val with
      attempt := firstAttempt.val.attempt + 1
      retryOf := some firstAttempt.val.stableKey } = .ok secondAttempt := construct_eq_ok.2 rfl
  have hmax : ¬ twoAttempts.val.maxAttempts ≤ firstAttempt.val.attempt := by decide
  simp only [RunState.call, retryAfterFailure, if_neg hmax, hnext, ok_bind,
    recordReviewerRunStatus_eq _ _ _ hreason]
  simp [oneAttempt, bothAttempts, Table.set, firstAttempt_ne.symm, stableKey_firstAttempt_ne.symm,
    Except.map, pure, Except.pure]

/-- The second attempt completes. -/
lemma bothAttempts_record (s t : Checked ReviewerRunStatus) : ∃ t', t'.val.status = .completed ∧
    t'.val.runKey = secondAttempt ∧ (bothAttempts s t).call twoAttempts
      (.record secondAttempt .completed ['x']) = .ok (bothAttempts s t') := by
  refine ⟨attemptStatus secondAttempt .completed ['x'] (List.cons_ne_nil _ _), rfl, rfl, ?_⟩
  simp only [RunState.call, recordReviewerRunStatus_eq _ _ _ (List.cons_ne_nil 'x' []), Except.map]
  simp [bothAttempts, Table.set, stableKey_firstAttempt_ne]

/-- The second attempt is selected again by another retry of the first one. -/
lemma bothAttempts_retry (s t : Checked ReviewerRunStatus) : ∃ t', t'.val.status = .selected ∧
    t'.val.runKey = secondAttempt ∧ (bothAttempts s t).call twoAttempts
      (.retry firstAttempt ['x']) =
      .ok (bothAttempts s t') := by
  have hreason : Text.ofString "retry selected after failure: " ++ ['x'] ≠ [] := by simp
  refine ⟨attemptStatus secondAttempt .selected _ hreason, rfl, rfl, ?_⟩
  have hnext : construct { firstAttempt.val with
      attempt := firstAttempt.val.attempt + 1
      retryOf := some firstAttempt.val.stableKey } = .ok secondAttempt := construct_eq_ok.2 rfl
  have hmax : ¬ twoAttempts.val.maxAttempts ≤ firstAttempt.val.attempt := by decide
  simp only [RunState.call, retryAfterFailure, if_neg hmax, hnext, ok_bind,
    recordReviewerRunStatus_eq _ _ _ hreason]
  simp [bothAttempts, Table.set, stableKey_firstAttempt_ne, Except.map, pure, Except.pure]

/-- The status of the only attempt. -/
lemma oneAttempt_statusOf (s : Checked ReviewerRunStatus) :
    (oneAttempt s).statusOf firstAttempt = some s := by
  simp [RunState.statusOf, Table.get?, oneAttempt]

/-- The statuses of both attempts. -/
lemma bothAttempts_statusOf (s t : Checked ReviewerRunStatus) :
    (bothAttempts s t).statusOf firstAttempt = some s ∧
      (bothAttempts s t).statusOf secondAttempt = some t := by
  simp [RunState.statusOf, Table.get?, bothAttempts, stableKey_firstAttempt_ne]

/-- A reviewer whose second attempt has completed is not selected again. -/
lemma bothAttempts_register (s t : Checked ReviewerRunStatus)
    (hcompleted : t.val.status = .completed)
    (hrunKey : t.val.runKey = secondAttempt) :
    (bothAttempts s t).call twoAttempts (.register triageReviewer none) = .ok
    (bothAttempts s t) := by
  have hkey : makeReviewerRunKey (bothAttempts s t) triageReviewer.val 1 none none =
      .ok firstAttempt := by
    unfold makeReviewerRunKey
    have hstage : reviewStageOfValue triageReviewer.val.stage = .ok .initialTriage := by
      simp [reviewStageOfValue, triageReviewer, ReviewStage.value]
    rw [hstage, ok_bind]
    exact construct_eq_ok.2 rfl
  have hidentity : sameReviewerIdentity secondAttempt.val firstAttempt.val = true := by
    simp [sameReviewerIdentity, secondAttempt, firstAttempt]
  have hsuppresses : hasSuppressingStatusForReviewer (bothAttempts s t) firstAttempt.val =
      true := by
    simp [hasSuppressingStatusForReviewer, bothAttempts, hrunKey, hidentity, suppressesRerun,
      hcompleted]
  simp only [RunState.call, registerSelectedReviewer, hkey, ok_bind, hsuppresses, if_true]
  rfl

/-- The runs stay consistent over a reviewer that fails, is retried and completes, and it stays
settled when it is selected again. -/
theorem runs_of_inOrder_retried : ∃ s t, s.val.status = .failed ∧ t.val.status = .completed ∧
    Reaches twoAttempts (RunCall.InOrder twoAttempts) noRuns (bothAttempts s t) ∧
    Reaches twoAttempts (RunCall.InOrder twoAttempts) (bothAttempts s t) (bothAttempts s t) ∧
    RunsConsistent twoAttempts (bothAttempts s t) ∧ Settled (bothAttempts s t)
      (bothAttempts s t) := by
  obtain ⟨s₁, hselected, -, hregister⟩ := noRuns_register
  obtain ⟨s₂, hfailed, hopen, hrecord⟩ := oneAttempt_record s₁
  obtain ⟨t₁, hselected', -, hretry⟩ := oneAttempt_retry s₂
  obtain ⟨t₂, hcompleted, hrunKey, hrecord'⟩ := bothAttempts_record s₂ t₁
  have hstep₁ : RunStep twoAttempts (RunCall.InOrder twoAttempts) noRuns (oneAttempt s₁) :=
    .ok (.register triageReviewer none) trivial trivial hregister
  have hstep₂ : RunStep twoAttempts (RunCall.InOrder twoAttempts) (oneAttempt s₁) (oneAttempt s₂) :=
    .ok (.record firstAttempt .failed ['x'])
      ⟨List.mem_singleton_self _, s₁, oneAttempt_statusOf s₁, .inl hselected⟩ trivial hrecord
  have horder : RunCall.InOrder twoAttempts (oneAttempt s₂) (.retry firstAttempt ['x']) := by
    intro s hs
    obtain rfl : s = s₂ := by
      have hmem := (List.mem_filter.1 hs).1
      simpa [oneAttempt] using hmem
    refine ⟨fun hactive => ?_, fun _ => hopen⟩
    rcases hactive with hactive | hactive <;> rw [hfailed] at hactive <;> contradiction
  have hstep₃ : RunStep twoAttempts (RunCall.InOrder twoAttempts) (oneAttempt s₂)
      (bothAttempts s₂ t₁) :=
    .ok (.retry firstAttempt ['x']) ⟨List.mem_singleton_self _, s₂, oneAttempt_statusOf s₂, hfailed⟩
      horder hretry
  have hstep₄ : RunStep twoAttempts (RunCall.InOrder twoAttempts) (bothAttempts s₂ t₁)
      (bothAttempts s₂ t₂) :=
    .ok (.record secondAttempt .completed ['x'])
      ⟨by simp [bothAttempts], t₁, (bothAttempts_statusOf s₂ t₁).2, .inl hselected'⟩ trivial
        hrecord'
  have hbefore : Reaches twoAttempts (RunCall.InOrder twoAttempts) noRuns (bothAttempts s₂ t₂) :=
    (((Relation.ReflTransGen.single hstep₁).tail hstep₂).tail hstep₃).tail hstep₄
  have hafter : Reaches twoAttempts (RunCall.InOrder twoAttempts) (bothAttempts s₂ t₂)
      (bothAttempts s₂ t₂) :=
    .single (.ok (.register triageReviewer none) trivial trivial
      (bothAttempts_register s₂ t₂ hcompleted hrunKey))
  exact ⟨s₂, t₂, hfailed, hcompleted, hbefore, hafter, runs_of_inOrder rfl rfl hbefore hafter⟩

/-- An attempt that is retried again after the next one has completed selects the next one again. -/
theorem runs_not_settled : ¬ ∀ (policy : Checked RetryPolicy) (st st' st'' : RunState),
    st.reviewerRunKeys = [] → st.reviewerRunStatus = [] → Reaches policy (fun _ _ => True) st st' →
    Reaches policy (fun _ _ => True) st' st'' → RunsConsistent policy st' ∧ Settled st' st'' := by
  intro hclaim
  obtain ⟨s₁, hselected, -, hregister⟩ := noRuns_register
  obtain ⟨s₂, hfailed, -, hrecord⟩ := oneAttempt_record s₁
  obtain ⟨t₁, hselected', -, hretry⟩ := oneAttempt_retry s₂
  obtain ⟨t₂, hcompleted, hrun, hrecord'⟩ := bothAttempts_record s₂ t₁
  obtain ⟨t₃, hagain, hrun', hretry'⟩ := bothAttempts_retry s₂ t₂
  have hstep₁ : RunStep twoAttempts (fun _ _ => True) noRuns (oneAttempt s₁) :=
    .ok (.register triageReviewer none) trivial trivial hregister
  have hstep₂ : RunStep twoAttempts (fun _ _ => True) (oneAttempt s₁) (oneAttempt s₂) :=
    .ok (.record firstAttempt .failed ['x'])
      ⟨List.mem_singleton_self _, s₁, oneAttempt_statusOf s₁, .inl hselected⟩ trivial hrecord
  have hstep₃ : RunStep twoAttempts (fun _ _ => True) (oneAttempt s₂) (bothAttempts s₂ t₁) :=
    .ok (.retry firstAttempt ['x']) ⟨List.mem_singleton_self _, s₂, oneAttempt_statusOf s₂, hfailed⟩
      trivial hretry
  have hstep₄ : RunStep twoAttempts (fun _ _ => True) (bothAttempts s₂ t₁) (bothAttempts s₂ t₂) :=
    .ok (.record secondAttempt .completed ['x'])
      ⟨by simp [bothAttempts], t₁, (bothAttempts_statusOf s₂ t₁).2, .inl hselected'⟩ trivial
        hrecord'
  have hstep₅ : RunStep twoAttempts (fun _ _ => True) (bothAttempts s₂ t₂) (bothAttempts s₂ t₃) :=
    .ok (.retry firstAttempt ['x'])
      ⟨by simp [bothAttempts], s₂, (bothAttempts_statusOf s₂ t₂).1, hfailed⟩ trivial hretry'
  have hbefore : Reaches twoAttempts (fun _ _ => True) noRuns (bothAttempts s₂ t₂) :=
    (((Relation.ReflTransGen.single hstep₁).tail hstep₂).tail hstep₃).tail hstep₄
  have hafter : Reaches twoAttempts (fun _ _ => True) (bothAttempts s₂ t₂) (bothAttempts s₂ t₃) :=
    .single hstep₅
  obtain ⟨-, hsettled⟩ := hclaim twoAttempts noRuns _ _ rfl rfl hbefore hafter
  have hentry : (secondAttempt.val.stableKey, t₂) ∈ (bothAttempts s₂ t₂).reviewerRunStatus := by
    simp [bothAttempts]
  have hsuppresses : suppressesRerun t₂.val = true := by simp [suppressesRerun, hcompleted]
  refine (hsettled _ hentry hsuppresses).2 t₃ (mem_attempts.2 ⟨⟨secondAttempt.val.stableKey, ?_⟩,
    ?_⟩)
    hagain
  · simp [bothAttempts]
  · rw [hrun, hrun']

end ReviewGraph
