import ReviewGraph.Foundation.Interaction
import ReviewGraph.LlmPolicy
import ReviewGraph.ReviewerBudget

/-!
# Live calls and their ledger

`run_live_llm_reviewer_with_retries` of `llm.py` evaluates the policy before each attempt and calls
the provider if the attempt is approved.  The trace events of the policy and the calls of the
provider are the exchanges of a run, so that their order can be read off its trace.

`LedgerInvariant` is kept by every evaluation, `PolicyOutcome.invariant`, hence by every run and by
every sequence of evaluations and runs that share a ledger.  The reviewers that the budget of live
calls has kept never find the ledger full, because each of them adds at most as many reservations as
it has been counted with.
-/

namespace ReviewGraph

open Interaction

/-! ## Attempts -/

/-- `LiveLLMProviderRequest`. -/
structure LiveLLMProviderRequest where
  provider : Text
  model : Text
  reviewer : Text
  targetHash : Text
  requestText : Text
  requestHash : Text
  timeoutSeconds : ℤ
  attempt : ℤ
  runKeyStable : Text
  deriving DecidableEq

/-- `ProviderFailureReasonCode`. -/
inductive ProviderFailureReasonCode
  | missingCredentials
  | timeout
  | rateLimited
  | retryExhausted
  | malformedResponse
  | providerUnavailable
  | unknownProviderError
  deriving DecidableEq, Repr

/-- What a call of the provider transport can do: return a response, raise a provider error, or
raise another exception. -/
inductive ProviderOutcome
  | response (text : Text) (requestId : Option Text)
  | providerError (reasonCode : ProviderFailureReasonCode) (message : Text)
      (requestId : Option Text)
  | otherError (message : Text)
  deriving DecidableEq

/-- What a run does besides computing: it records the policy result of an attempt in its trace
events, and it calls the provider. -/
inductive LiveCall
  | policyTrace (runKey : Checked ReviewerRunKey) (result : LiveLLMPolicyResult)
  | provider (request : LiveLLMProviderRequest)

/-- The answers to these calls. -/
abbrev LiveCall.Answer : LiveCall → Type
  | policyTrace _ _ => Unit
  | provider _ => ProviderOutcome

/-- `validate_live_policy_adapter_input`; it yields the execution plan. -/
def validateLivePolicyAdapterInput (result : LiveLLMPolicyResult) (package : ReviewerContextPackage)
    (runKey : Checked ReviewerRunKey) (ledger : LiveLLMBudgetLedger) :
    Except ReviewerAdapterBoundaryError LiveLLMProviderExecutionPlan :=
  match validateReviewerAdapterInput package runKey.val, result.executionPlan,
      ledger.reservationForRunKey runKey.val.stableKey with
  | .error exc, _, _ => .error exc
  | .ok (), none, _ =>
    .error ⟨"live reviewer adapter requires approved policy result with execution plan"⟩
  | .ok (), some plan, reservation =>
    if result.approved = false then
      .error ⟨"live reviewer adapter requires approved policy result with execution plan"⟩
    else if plan.reviewerRunKey ≠ runKey then
      .error ⟨"live reviewer adapter run key does not match policy result"⟩
    else if plan.packageFingerprint ≠ liveLlmPackageFingerprint package then
      .error ⟨"live reviewer adapter policy result does not match package"⟩
    else
      match reservation with
      | none => .error ⟨"live reviewer adapter ledger is missing reservation"⟩
      | some reservation =>
        if reservation.reservationKey ≠ plan.reservationKey ∨
            reservation.packageFingerprint ≠ plan.packageFingerprint ∨
            reservation.requestHash ≠ plan.requestHash ∨
            reservation.requestByteCount ≠ plan.requestByteCount then
          .error ⟨"live reviewer adapter ledger reservation does not match policy result"⟩
        else if (buildProviderRequestPreview package (some plan.provider)
            plan.rawProviderSubmissionEnabled plan.rawTracePersistenceEnabled).requestText ≠
              plan.requestText then
          .error ⟨"live reviewer adapter policy result does not match package"⟩
        else .ok plan

/-- What the loop of a run reads of a reviewer result: whether it is completed, and whether its
evidence says that the failure can be retried. -/
structure AttemptEnd where
  completed : Bool
  retryable : Bool
  deriving DecidableEq

/-- The arguments of `run_live_llm_reviewer_with_retries` besides the ledger and the transport. -/
structure RetryArguments where
  package : ReviewerContextPackage
  initialRunKey : Checked ReviewerRunKey
  policyInput : Checked LiveLLMPolicyInput
  maxAttempts : ℤ
  timeoutSeconds : ℤ
  totalTimeoutSeconds : ℤ

namespace RetryArguments

variable (args : RetryArguments)

/-- `effective_max_attempts`. -/
def effectiveMaxAttempts : ℤ :=
  min args.maxAttempts (args.totalTimeoutSeconds / args.timeoutSeconds)

/-- The checks of the arguments. -/
def check : Result Unit := do
  require (0 < args.maxAttempts) "max_attempts must be a positive integer"
  require (0 < args.timeoutSeconds) "timeout_seconds must be a positive integer"
  require (0 < args.totalTimeoutSeconds) "total_timeout_seconds must be a positive integer"
  require (args.timeoutSeconds ≤ args.totalTimeoutSeconds)
    "total_timeout_seconds must be greater than or equal to timeout_seconds"
  require (args.effectiveMaxAttempts ≤ args.package.contextBudget.val.maxLiveCalls)
    "live LLM budget must cover effective max attempts before provider execution"

/-- The key of an attempt. -/
def attemptRunKey (attempt : ℕ) : Result (Checked ReviewerRunKey) :=
  construct { args.initialRunKey.val with
    attempt
    retryOf := if attempt = 1 then none else some args.initialRunKey.val.stableKey }

/-- The evaluation of the policy for an attempt. -/
def evaluateAttempt (attempt : ℕ) (ledger : LiveLLMBudgetLedger) :
    Result (Checked ReviewerRunKey × LiveLLMPolicyResult) := do
  let runKey ← args.attemptRunKey attempt
  let input : Checked LiveLLMPolicyInput ←
    construct { args.policyInput.val with reviewerRunKey := runKey }
  let result ← evaluateLiveLlmPolicy args.package input.val ledger
  return (runKey, result)

/-- The request of an attempt. -/
def request (plan : LiveLLMProviderExecutionPlan) (runKey : Checked ReviewerRunKey) :
    LiveLLMProviderRequest where
  provider := plan.provider
  model := plan.model
  reviewer := plan.reviewer
  targetHash := plan.targetHash
  requestText := plan.requestText
  requestHash := plan.requestHash
  timeoutSeconds := args.timeoutSeconds
  attempt := runKey.val.attempt
  runKeyStable := runKey.val.stableKey

/- How the outcome of a provider call becomes the result of the reviewer: parsing, redaction and
normalisation of the answer, or the summary of the failure.  The ledger does not depend on it. -/
variable (settle : LiveLLMPolicyResult → Checked ReviewerRunKey → LiveLLMBudgetLedger →
  ProviderOutcome → Result AttemptEnd)

/-- The loop over the attempts, given how many are left and the number of the next one; it yields
the ledger. -/
def attemptsFrom : ℕ → ℕ → LiveLLMBudgetLedger →
    Prog LiveCall LiveCall.Answer (Result LiveLLMBudgetLedger)
  | 0, _, ledger => .ret (.ok ledger)
  | remaining + 1, attempt, ledger =>
    match args.evaluateAttempt attempt ledger with
    | .error e => .ret (.error e)
    | .ok (runKey, result) => .call (.policyTrace runKey result) fun _ =>
      if result.approved = false then .ret (.ok result.ledger)
      else
        match validateLivePolicyAdapterInput result args.package runKey result.ledger with
        | .error exc => .ret (.error (.valueError exc.message))
        | .ok plan => .call (.provider (args.request plan runKey)) fun outcome =>
          match settle result runKey result.ledger outcome with
          | .error e => .ret (.error e)
          | .ok ended =>
            if ended.completed || !ended.retryable then .ret (.ok result.ledger)
            else attemptsFrom remaining (attempt + 1) result.ledger

/-- `run_live_llm_reviewer_with_retries`. -/
def run (ledger : LiveLLMBudgetLedger) :
    Prog LiveCall LiveCall.Answer (Result LiveLLMBudgetLedger) :=
  match args.check with
  | .error e => .ret (.error e)
  | .ok () => args.attemptsFrom settle args.effectiveMaxAttempts.toNat 1 ledger

end RetryArguments

/-! ## The ledger -/

/-- What holds of a ledger between evaluations. -/
structure LedgerInvariant (maxLiveCalls : ℕ) (ledger : LiveLLMBudgetLedger) : Prop where
  /-- The budget is respected. -/
  within : ledger.reservedLiveCalls ≤ maxLiveCalls
  /-- No key has two reservations. -/
  nodup : (ledger.reservations.map fun r => r.runKeyStable).Nodup

/-- The empty ledger satisfies the invariant. -/
lemma LedgerInvariant.empty (maxLiveCalls : ℕ) : LedgerInvariant maxLiveCalls ⟨[]⟩ :=
  ⟨Nat.zero_le _, List.nodup_nil⟩

/-- A reservation is one more reserved call. -/
lemma reservedLiveCalls_reserve (ledger : LiveLLMBudgetLedger) (reservation : LiveLLMReservation) :
    (ledger.reserve reservation).reservedLiveCalls = ledger.reservedLiveCalls + 1 := by
  simp [LiveLLMBudgetLedger.reserve, LiveLLMBudgetLedger.reservedLiveCalls]

namespace PolicyOutcome

variable {package : ReviewerContextPackage} {input : LiveLLMPolicyInput}
  {ledger : LiveLLMBudgetLedger} {r : LiveLLMPolicyResult}

/-- An evaluation keeps the invariant. -/
lemma invariant (h : PolicyOutcome package input ledger r)
    (hinv : LedgerInvariant package.contextBudget.val.maxLiveCalls ledger) :
    LedgerInvariant package.contextBudget.val.maxLiveCalls r.ledger := by
  cases h with
  | blocked _ _ hledger _ => rwa [hledger]
  | existing _ _ _ _ _ _ hledger => rwa [hledger]
  | new reservation _ _ _ _ _ hfresh hwithin hstable _ hledger =>
    rw [hledger]
    constructor
    · rw [reservedLiveCalls_reserve]
      omega
    · have hnot : reservation.runKeyStable ∉ ledger.reservations.map fun r => r.runKeyStable := by
        intro hmem
        obtain ⟨other, hother, hkey⟩ := List.mem_map.1 hmem
        have hnone := List.find?_eq_none.1 hfresh other hother
        rw [hkey, hstable] at hnone
        simp at hnone
      unfold LiveLLMBudgetLedger.reserve
      rw [List.map_append, List.map_singleton]
      exact List.nodup_append.2 ⟨hinv.nodup, List.nodup_singleton _, by
        intro a ha b hb
        rw [List.mem_singleton.1 hb]
        rintro rfl
        exact hnot ha⟩

/-- An evaluation reserves at most one call. -/
lemma reserved_le (h : PolicyOutcome package input ledger r) :
    r.ledger.reservedLiveCalls ≤ ledger.reservedLiveCalls + 1 := by
  cases h with
  | blocked _ _ hledger _ =>
    rw [hledger]
    omega
  | existing _ _ _ _ _ _ hledger =>
    rw [hledger]
    omega
  | new _ _ _ _ _ _ _ _ _ _ hledger => rw [hledger, reservedLiveCalls_reserve]

/-- The evaluation of a key that has a reservation leaves the ledger as it was. -/
lemma ledger_of_reserved (h : PolicyOutcome package input ledger r)
    (hreserved : ledger.reservationForRunKey input.reviewerRunKey.val.stableKey ≠ none) :
    r.ledger = ledger := by
  cases h with
  | blocked _ _ hledger _ => exact hledger
  | existing _ _ _ _ _ _ hledger => exact hledger
  | new _ _ _ _ _ _ hfresh => contradiction

/-- A call is refused for want of budget only if the ledger is full. -/
lemma full_of_refused (h : PolicyOutcome package input ledger r)
    (hrefused : r.reasonCode = some .liveCallBudgetExceeded) :
    package.contextBudget.val.maxLiveCalls ≤ ledger.reservedLiveCalls := by
  cases h with
  | blocked _ _ _ hbudget => exact hbudget hrefused
  | existing _ _ _ _ hreason =>
    rw [hreason] at hrefused
    contradiction
  | new _ _ _ _ hreason =>
    rw [hreason] at hrefused
    contradiction

end PolicyOutcome

/-! ## One run -/

/-- A call of the provider. -/
def isProviderCall (e : Event LiveCall LiveCall.Answer) : Bool :=
  match e with
  | ⟨.provider _, _⟩ => true
  | _ => false

/-- The call was approved by the evaluation before it, whose ledger reserves exactly this
attempt. -/
structure AllowedBy (runKey : Checked ReviewerRunKey) (result : LiveLLMPolicyResult)
    (request : LiveLLMProviderRequest) : Prop where
  /-- The evaluation allowed the call. -/
  approved : result.approved = true
  /-- The ledger has a reservation for the key, made for the request of the plan. -/
  reserved : ∃ reservation plan,
    result.ledger.reservationForRunKey runKey.val.stableKey = some reservation ∧
      result.executionPlan = some plan ∧ plan.reviewerRunKey = runKey ∧
      reservation.reservationKey = plan.reservationKey ∧
        reservation.requestHash = plan.requestHash ∧
      request.requestHash = plan.requestHash ∧ request.requestText = plan.requestText
  /-- The call is for this key. -/
  stable : request.runKeyStable = runKey.val.stableKey
  /-- The call is for this attempt. -/
  attempt : request.attempt = runKey.val.attempt

/-- Every call of the provider comes directly after an evaluation that allows it; the first argument
is the evaluation before the trace. -/
def Permitted : Option (Checked ReviewerRunKey × LiveLLMPolicyResult) →
    List (Event LiveCall LiveCall.Answer) → Prop
  | _, [] => True
  | _, ⟨.policyTrace runKey result, _⟩ :: tr => Permitted (some (runKey, result)) tr
  | none, ⟨.provider _, _⟩ :: _ => False
  | some (runKey, result), ⟨.provider request, _⟩ :: tr =>
    AllowedBy runKey result request ∧ Permitted none tr

/-- The evaluations of a trace keep the ledger, which the first argument is before the trace: every
one of them leaves the invariant, and one that does not allow the call, or whose key is reserved,
leaves the ledger as it was. -/
def EvaluationsKeep (maxLiveCalls : ℕ) : LiveLLMBudgetLedger →
    List (Event LiveCall LiveCall.Answer) → Prop
  | _, [] => True
  | ledger, ⟨.provider _, _⟩ :: tr => EvaluationsKeep maxLiveCalls ledger tr
  | ledger, ⟨.policyTrace runKey result, _⟩ :: tr =>
    LedgerInvariant maxLiveCalls result.ledger ∧
      (result.approved = false → result.ledger = ledger) ∧
      (ledger.reservationForRunKey runKey.val.stableKey ≠ none → result.ledger = ledger) ∧
      EvaluationsKeep maxLiveCalls result.ledger tr

namespace RetryArguments

variable {args : RetryArguments}
  {settle : LiveLLMPolicyResult → Checked ReviewerRunKey → LiveLLMBudgetLedger →
    ProviderOutcome → Result AttemptEnd}

/-- What the evaluation for an attempt has done. -/
lemma evaluateAttempt_ok {attempt : ℕ} {ledger : LiveLLMBudgetLedger}
    {runKey : Checked ReviewerRunKey} {result : LiveLLMPolicyResult}
    (h : args.evaluateAttempt attempt ledger = .ok (runKey, result)) :
    ∃ input : LiveLLMPolicyInput, input.reviewerRunKey = runKey ∧
      runKey.val.attempt = attempt ∧ PolicyOutcome args.package input ledger result := by
  obtain ⟨key, hkey, h⟩ := bind_eq_ok.1 h
  obtain ⟨input, hinput, h⟩ := bind_eq_ok.1 h
  obtain ⟨policy, hpolicy, h⟩ := bind_eq_ok.1 h
  obtain ⟨rfl, rfl⟩ := Prod.mk.inj (pure_eq_ok.1 h)
  have hval := construct_eq_ok.1 hinput
  have hkeyVal := construct_eq_ok.1 hkey
  exact ⟨input.val, by rw [hval], by rw [hkeyVal], policyOutcome_of_ok hpolicy⟩

/-- An input that the adapter accepts allows the call. -/
lemma allowedBy_of_validate {result : LiveLLMPolicyResult} {runKey : Checked ReviewerRunKey}
    {plan : LiveLLMProviderExecutionPlan}
    (h : validateLivePolicyAdapterInput result args.package runKey result.ledger = .ok plan) :
    AllowedBy runKey result (args.request plan runKey) := by
  unfold validateLivePolicyAdapterInput at h
  split at h
  · contradiction
  · contradiction
  rename_i plan' _ hplan
  split at h
  · contradiction
  rename_i happroved
  split at h
  · contradiction
  rename_i hkey
  split at h
  · contradiction
  split at h
  · contradiction
  rename_i reservation' hreservation
  split at h
  · contradiction
  rename_i hsame
  split at h
  · contradiction
  obtain rfl := Except.ok.inj h
  simp only [not_or, not_not] at hsame
  exact ⟨by simpa using happroved, ⟨reservation', plan', hreservation, hplan, not_not.1 hkey,
    hsame.1, hsame.2.2.1, rfl, rfl⟩, rfl, rfl⟩

/-- The ways of the loop, with what remains of it and the number of the next attempt. -/
inductive Attempts (args : RetryArguments) : ℕ → ℕ → LiveLLMBudgetLedger →
    List (Event LiveCall LiveCall.Answer) → Result LiveLLMBudgetLedger → Prop
  /-- No attempt is left. -/
  | done {attempt : ℕ} {ledger : LiveLLMBudgetLedger} : Attempts args 0 attempt ledger []
    (.ok ledger)
  /-- The evaluation raises. -/
  | raised {remaining attempt : ℕ} {ledger : LiveLLMBudgetLedger} {e : PyError} :
      Attempts args (remaining + 1) attempt ledger [] (.error e)
  /-- The run ends with the evaluation. -/
  | evaluated {remaining attempt : ℕ} {ledger : LiveLLMBudgetLedger}
      {runKey : Checked ReviewerRunKey} {result : LiveLLMPolicyResult}
      {res : Result LiveLLMBudgetLedger}
      (evaluation : args.evaluateAttempt attempt ledger = .ok (runKey, result))
      (ends : ∀ next, res = .ok next → next = result.ledger) :
      Attempts args (remaining + 1) attempt ledger [⟨.policyTrace runKey result, ()⟩] res
  /-- The run ends with the call. -/
  | called {remaining attempt : ℕ} {ledger : LiveLLMBudgetLedger}
      {runKey : Checked ReviewerRunKey} {result : LiveLLMPolicyResult}
      {request : LiveLLMProviderRequest} {outcome : ProviderOutcome}
      {res : Result LiveLLMBudgetLedger}
      (evaluation : args.evaluateAttempt attempt ledger = .ok (runKey, result))
      (allowed : AllowedBy runKey result request)
      (ends : ∀ next, res = .ok next → next = result.ledger) :
      Attempts args (remaining + 1) attempt ledger
        [⟨.policyTrace runKey result, ()⟩, ⟨.provider request, outcome⟩] res
  /-- The failure is retried. -/
  | retried {remaining attempt : ℕ} {ledger : LiveLLMBudgetLedger}
      {runKey : Checked ReviewerRunKey} {result : LiveLLMPolicyResult}
      {request : LiveLLMProviderRequest} {outcome : ProviderOutcome}
      {tr : List (Event LiveCall LiveCall.Answer)} {res : Result LiveLLMBudgetLedger}
      (evaluation : args.evaluateAttempt attempt ledger = .ok (runKey, result))
      (allowed : AllowedBy runKey result request)
      (rest : Attempts args remaining (attempt + 1) result.ledger tr res) :
      Attempts args (remaining + 1) attempt ledger
        (⟨.policyTrace runKey result, ()⟩ :: ⟨.provider request, outcome⟩ :: tr) res

/-- Every run of the loop goes one of these ways. -/
lemma attempts_of_runs {remaining attempt : ℕ} {ledger : LiveLLMBudgetLedger}
    {tr : List (Event LiveCall LiveCall.Answer)} {res : Result LiveLLMBudgetLedger}
    (h : Runs (args.attemptsFrom settle remaining attempt ledger) tr res) :
    Attempts args remaining attempt ledger tr res := by
  induction remaining generalizing attempt ledger tr with
  | zero =>
    obtain ⟨rfl, rfl⟩ := runs_ret_iff.1 h
    exact .done
  | succ remaining ih =>
    unfold attemptsFrom at h
    split at h
    · obtain ⟨rfl, rfl⟩ := runs_ret_iff.1 h
      exact .raised
    rename_i runKey result hevaluation
    obtain ⟨⟨⟩, tr, rfl, hrest⟩ := runs_call_iff.1 h
    clear h
    split at hrest
    · obtain ⟨rfl, rfl⟩ := runs_ret_iff.1 hrest
      exact .evaluated hevaluation fun next heq => (Except.ok.inj heq).symm
    split at hrest
    · obtain ⟨rfl, rfl⟩ := runs_ret_iff.1 hrest
      exact .evaluated hevaluation fun next heq => by cases heq
    rename_i plan hplan
    have hallowed := allowedBy_of_validate hplan
    obtain ⟨outcome, tr, rfl, hended⟩ := runs_call_iff.1 hrest
    clear hrest
    split at hended
    · obtain ⟨rfl, rfl⟩ := runs_ret_iff.1 hended
      exact .called hevaluation hallowed fun next heq => by cases heq
    split at hended
    · obtain ⟨rfl, rfl⟩ := runs_ret_iff.1 hended
      exact .called hevaluation hallowed fun next heq => (Except.ok.inj heq).symm
    · exact .retried hevaluation hallowed (ih hended)

namespace Attempts

variable {remaining attempt : ℕ} {ledger : LiveLLMBudgetLedger}
  {tr : List (Event LiveCall LiveCall.Answer)} {res : Result LiveLLMBudgetLedger}

/-- There is at most one call for each attempt. -/
lemma countP_isProviderCall (h : Attempts args remaining attempt ledger tr res) :
    tr.countP isProviderCall ≤ remaining := by
  induction h with
  | done => simp
  | raised => simp
  | evaluated => simp [isProviderCall]
  | called => simp [isProviderCall]
  | retried _ _ _ ih =>
    rw [List.countP_cons_of_neg (by simp [isProviderCall]),
      List.countP_cons_of_pos (by simp [isProviderCall])]
    omega

/-- Every call is allowed by the evaluation before it. -/
lemma permitted (h : Attempts args remaining attempt ledger tr res) : Permitted none tr := by
  induction h with
  | done => trivial
  | raised => trivial
  | evaluated => trivial
  | called _ hallowed => exact ⟨hallowed, trivial⟩
  | retried _ hallowed _ ih => exact ⟨hallowed, ih⟩

/-- Every evaluation of a run keeps the ledger. -/
lemma evaluationsKeep (h : Attempts args remaining attempt ledger tr res)
    (hinv : LedgerInvariant args.package.contextBudget.val.maxLiveCalls ledger) :
    EvaluationsKeep args.package.contextBudget.val.maxLiveCalls ledger tr := by
  induction h with
  | done => trivial
  | raised => trivial
  | evaluated hevaluation _ =>
    obtain ⟨input, rfl, -, houtcome⟩ := evaluateAttempt_ok hevaluation
    exact ⟨houtcome.invariant hinv, houtcome.ledger_of_blocked, houtcome.ledger_of_reserved,
      trivial⟩
  | called hevaluation _ _ =>
    obtain ⟨input, rfl, -, houtcome⟩ := evaluateAttempt_ok hevaluation
    exact ⟨houtcome.invariant hinv, houtcome.ledger_of_blocked, houtcome.ledger_of_reserved,
      trivial⟩
  | retried hevaluation _ _ ih =>
    obtain ⟨input, rfl, -, houtcome⟩ := evaluateAttempt_ok hevaluation
    have hafter := houtcome.invariant hinv
    exact ⟨hafter, houtcome.ledger_of_blocked, houtcome.ledger_of_reserved, ih hafter⟩

/-- A run keeps the invariant of the ledger. -/
lemma invariant (h : Attempts args remaining attempt ledger tr res)
    (hinv : LedgerInvariant args.package.contextBudget.val.maxLiveCalls ledger) :
    ∀ next, res = .ok next →
      LedgerInvariant args.package.contextBudget.val.maxLiveCalls next := by
  induction h with
  | done =>
    intro next heq
    obtain rfl := Except.ok.inj heq
    exact hinv
  | raised =>
    intro next heq
    cases heq
  | evaluated hevaluation hends =>
    intro next heq
    obtain ⟨input, -, -, houtcome⟩ := evaluateAttempt_ok hevaluation
    rw [hends next heq]
    exact houtcome.invariant hinv
  | called hevaluation _ hends =>
    intro next heq
    obtain ⟨input, -, -, houtcome⟩ := evaluateAttempt_ok hevaluation
    rw [hends next heq]
    exact houtcome.invariant hinv
  | retried hevaluation _ _ ih =>
    obtain ⟨input, -, -, houtcome⟩ := evaluateAttempt_ok hevaluation
    exact ih (houtcome.invariant hinv)

/-- A run reserves at most one call for each attempt. -/
lemma reserved_le (h : Attempts args remaining attempt ledger tr res) :
    ∀ next, res = .ok next → next.reservedLiveCalls ≤ ledger.reservedLiveCalls + remaining := by
  induction h with
  | done =>
    intro next heq
    obtain rfl := Except.ok.inj heq
    omega
  | raised =>
    intro next heq
    cases heq
  | evaluated hevaluation hends =>
    intro next heq
    obtain ⟨input, -, -, houtcome⟩ := evaluateAttempt_ok hevaluation
    have hle := houtcome.reserved_le
    rw [hends next heq]
    omega
  | called hevaluation _ hends =>
    intro next heq
    obtain ⟨input, -, -, houtcome⟩ := evaluateAttempt_ok hevaluation
    have hle := houtcome.reserved_le
    rw [hends next heq]
    omega
  | retried hevaluation _ _ ih =>
    intro next heq
    obtain ⟨input, -, -, houtcome⟩ := evaluateAttempt_ok hevaluation
    have hle := houtcome.reserved_le
    have hrest := ih next heq
    omega

/-- A run that fits into the rest of the budget is not refused for want of budget. -/
lemma not_refused (h : Attempts args remaining attempt ledger tr res)
    (hfits : ledger.reservedLiveCalls + remaining ≤
      args.package.contextBudget.val.maxLiveCalls) {runKey : Checked ReviewerRunKey}
    {result : LiveLLMPolicyResult} (hmem : ⟨.policyTrace runKey result, ()⟩ ∈ tr) :
    result.reasonCode ≠ some .liveCallBudgetExceeded := by
  induction h with
  | done => cases hmem
  | raised => cases hmem
  | evaluated hevaluation _ =>
    obtain ⟨input, -, -, houtcome⟩ := evaluateAttempt_ok hevaluation
    cases List.mem_singleton.1 hmem
    intro hrefused
    have hfull := houtcome.full_of_refused hrefused
    omega
  | called hevaluation _ _ =>
    obtain ⟨input, -, -, houtcome⟩ := evaluateAttempt_ok hevaluation
    rcases List.mem_cons.1 hmem with heq | hmem
    · cases heq
      intro hrefused
      have hfull := houtcome.full_of_refused hrefused
      omega
    · cases List.mem_singleton.1 hmem
  | retried hevaluation _ _ ih =>
    obtain ⟨input, -, -, houtcome⟩ := evaluateAttempt_ok hevaluation
    have hle := houtcome.reserved_le
    rcases List.mem_cons.1 hmem with heq | hmem
    · cases heq
      intro hrefused
      have hfull := houtcome.full_of_refused hrefused
      omega
    rcases List.mem_cons.1 hmem with heq | hmem
    · cases heq
    · exact ih (by omega) hmem

end Attempts

/-- A run fails the checks of its arguments, or goes one of the ways of the loop. -/
lemma run_cases {ledger : LiveLLMBudgetLedger} {tr : List (Event LiveCall LiveCall.Answer)}
    {res : Result LiveLLMBudgetLedger} (h : Runs (args.run settle ledger) tr res) :
    (∃ e, args.check = .error e ∧ tr = [] ∧ res = .error e) ∨
      args.check = .ok () ∧ Attempts args args.effectiveMaxAttempts.toNat 1 ledger tr res := by
  unfold run at h
  split at h
  · rename_i e hcheck
    obtain ⟨rfl, rfl⟩ := runs_ret_iff.1 h
    exact .inl ⟨e, hcheck, rfl, rfl⟩
  · rename_i hcheck
    exact .inr ⟨hcheck, attempts_of_runs h⟩

end RetryArguments

/-! ## Evaluations and runs that share a ledger -/

/-- What is done with a ledger. -/
inductive LedgerAction
  | evaluate (package : ReviewerContextPackage) (input : Checked LiveLLMPolicyInput)
      (res : Result LiveLLMPolicyResult)
  | retry (args : RetryArguments) (tr : List (Event LiveCall LiveCall.Answer))
      (res : Result LiveLLMBudgetLedger)

namespace LedgerAction

/-- The ledger after an action; an exception leaves the caller with the ledger it had. -/
def next (ledger : LiveLLMBudgetLedger) : LedgerAction → LiveLLMBudgetLedger
  | .evaluate _ _ (.ok r) => r.ledger
  | .retry _ _ (.ok after) => after
  | .evaluate _ _ (.error _) => ledger
  | .retry _ _ (.error _) => ledger

/-- What is promised of a single action: an evaluation that does not allow the call, or whose key is
reserved, leaves the ledger as it was; a run does so in all its evaluations, and it calls the
provider only when allowed, and at most once for each of its effective attempts. -/
def Keeps (maxLiveCalls : ℕ) (ledger : LiveLLMBudgetLedger) : LedgerAction → Prop
  | .evaluate _ input res => ∀ r, res = .ok r → (r.approved = false → r.ledger = ledger) ∧
      (ledger.reservationForRunKey input.val.reviewerRunKey.val.stableKey ≠ none →
        r.ledger = ledger)
  | .retry args tr _ => EvaluationsKeep maxLiveCalls ledger tr ∧ Permitted none tr ∧
      (args.check ≠ .ok () → tr = []) ∧
      (args.check = .ok () → (tr.countP isProviderCall : ℤ) ≤
        min args.maxAttempts (args.totalTimeoutSeconds / args.timeoutSeconds))

end LedgerAction

section
variable (settle : LiveLLMPolicyResult → Checked ReviewerRunKey → LiveLLMBudgetLedger →
  ProviderOutcome → Result AttemptEnd)

/-- One action on a ledger, with a given limit of live calls. -/
inductive LedgerStep (maxLiveCalls : ℕ) (ledger : LiveLLMBudgetLedger) : LedgerAction → Prop
  | evaluate {package : ReviewerContextPackage} {input : Checked LiveLLMPolicyInput}
      (limit : package.contextBudget.val.maxLiveCalls = maxLiveCalls) :
      LedgerStep maxLiveCalls ledger
        (.evaluate package input (evaluateLiveLlmPolicy package input.val ledger))
  | retry {args : RetryArguments} {tr : List (Event LiveCall LiveCall.Answer)}
      {res : Result LiveLLMBudgetLedger}
      (limit : args.package.contextBudget.val.maxLiveCalls = maxLiveCalls)
      (runs : Runs (args.run settle ledger) tr res) :
      LedgerStep maxLiveCalls ledger (.retry args tr res)

/-- Actions on one ledger, each with the ledger it starts from. -/
inductive LedgerRun (maxLiveCalls : ℕ) :
    List (LiveLLMBudgetLedger × LedgerAction) → LiveLLMBudgetLedger → Prop
  | initial : LedgerRun maxLiveCalls [] ⟨[]⟩
  | step {log : List (LiveLLMBudgetLedger × LedgerAction)} {ledger : LiveLLMBudgetLedger}
      {action : LedgerAction} (h : LedgerRun maxLiveCalls log ledger)
      (hstep : LedgerStep settle maxLiveCalls ledger action) :
      LedgerRun maxLiveCalls (log ++ [(ledger, action)]) (action.next ledger)

variable {settle}

/-- What the checks of the arguments establish for the number of attempts. -/
lemma RetryArguments.effectiveMaxAttempts_nonneg {args : RetryArguments} (h : args.check = .ok ()) :
    0 ≤ args.effectiveMaxAttempts ∧
      args.effectiveMaxAttempts ≤ args.package.contextBudget.val.maxLiveCalls := by
  simp only [check, check_bind_eq_ok, require_eq_ok] at h
  obtain ⟨hattempts, htimeout, htotal, -, hbudget⟩ := h
  refine ⟨?_, hbudget⟩
  have hdiv : 0 ≤ args.totalTimeoutSeconds / args.timeoutSeconds :=
    Int.ediv_nonneg htotal.le htimeout.le
  exact le_min hattempts.le hdiv

/-- An action keeps its promises. -/
lemma LedgerStep.keeps {maxLiveCalls : ℕ} {ledger : LiveLLMBudgetLedger} {action : LedgerAction}
    (h : LedgerStep settle maxLiveCalls ledger action)
    (hinv : LedgerInvariant maxLiveCalls ledger) :
    action.Keeps maxLiveCalls ledger := by
  cases h with
  | evaluate _ =>
    intro r heq
    have houtcome := policyOutcome_of_ok heq
    exact ⟨houtcome.ledger_of_blocked, houtcome.ledger_of_reserved⟩
  | retry hlimit hruns =>
    subst hlimit
    rcases RetryArguments.run_cases hruns with ⟨e, hcheck, rfl, -⟩ | ⟨hcheck, hattempts⟩
    · refine ⟨trivial, trivial, fun _ => rfl, ?_⟩
      intro hok
      rw [hok] at hcheck
      contradiction
    · refine ⟨hattempts.evaluationsKeep hinv, hattempts.permitted, fun hnot => absurd hcheck hnot,
        ?_⟩
      intro _
      have hcount := hattempts.countP_isProviderCall
      obtain ⟨hnonneg, -⟩ := RetryArguments.effectiveMaxAttempts_nonneg hcheck
      unfold RetryArguments.effectiveMaxAttempts at hcount hnonneg
      omega

/-- An action keeps the invariant of the ledger. -/
lemma LedgerStep.invariant {maxLiveCalls : ℕ} {ledger : LiveLLMBudgetLedger} {action : LedgerAction}
    (h : LedgerStep settle maxLiveCalls ledger action)
    (hinv : LedgerInvariant maxLiveCalls ledger) :
    LedgerInvariant maxLiveCalls (action.next ledger) := by
  cases h with
  | @evaluate package input hlimit =>
    cases hres : evaluateLiveLlmPolicy package input.val ledger with
    | error e => exact hinv
    | ok r =>
      subst hlimit
      exact (policyOutcome_of_ok hres).invariant hinv
  | @retry args tr res hlimit hruns =>
    cases res with
    | error e => exact hinv
    | ok next =>
      subst hlimit
      rcases RetryArguments.run_cases hruns with ⟨e, -, -, heq⟩ | ⟨-, hattempts⟩
      · cases heq
      · exact hattempts.invariant hinv next rfl

/-- After any actions the invariant holds, and every action has kept its promises. -/
lemma LedgerRun.invariant {maxLiveCalls : ℕ} {log : List (LiveLLMBudgetLedger × LedgerAction)}
    {ledger : LiveLLMBudgetLedger} (h : LedgerRun settle maxLiveCalls log ledger) :
    LedgerInvariant maxLiveCalls ledger ∧ ∀ p ∈ log, LedgerInvariant maxLiveCalls p.1 ∧
      p.2.Keeps maxLiveCalls p.1 := by
  induction h with
  | initial => exact ⟨.empty maxLiveCalls, by simp⟩
  | step _ hstep ih =>
    obtain ⟨hinv, hlog⟩ := ih
    refine ⟨hstep.invariant hinv, ?_⟩
    intro p hp
    rcases List.mem_append.1 hp with hp | hp
    · exact hlog p hp
    · rw [List.mem_singleton.1 hp]
      exact ⟨hinv, hstep.keeps hinv⟩

/-! ## Reviewers that the budget has kept -/

variable (settle)

/-- The runs of reviewers, one after the other on one ledger; an exception ends them all. -/
inductive RetainedRuns (maxLiveCalls attempts : ℕ) : List (Checked SelectedReviewer) →
    LiveLLMBudgetLedger → List (RetryArguments × List (Event LiveCall LiveCall.Answer)) → Prop
  | nil {ledger : LiveLLMBudgetLedger} : RetainedRuns maxLiveCalls attempts [] ledger []
  | returns {reviewers : List (Checked SelectedReviewer)} {args : RetryArguments}
      {ledger next : LiveLLMBudgetLedger} {tr : List (Event LiveCall LiveCall.Answer)}
      {log : List (RetryArguments × List (Event LiveCall LiveCall.Answer))}
      (limit : args.package.contextBudget.val.maxLiveCalls = maxLiveCalls)
      (effective : args.effectiveMaxAttempts = attempts)
      (runs : Runs (args.run settle ledger) tr (.ok next))
      (rest : RetainedRuns maxLiveCalls attempts reviewers next log) :
      RetainedRuns maxLiveCalls attempts (args.package.reviewer :: reviewers) ledger
        ((args, tr) :: log)
  | raises {reviewers : List (Checked SelectedReviewer)} {args : RetryArguments}
      {ledger : LiveLLMBudgetLedger} {tr : List (Event LiveCall LiveCall.Answer)} {e : PyError}
      (limit : args.package.contextBudget.val.maxLiveCalls = maxLiveCalls)
      (effective : args.effectiveMaxAttempts = attempts)
      (runs : Runs (args.run settle ledger) tr (.error e)) :
      RetainedRuns maxLiveCalls attempts (args.package.reviewer :: reviewers) ledger [(args, tr)]

/-- A run is not refused for want of budget, neither before it starts nor in an evaluation. -/
structure NotRefused (maxLiveCalls : ℕ) (args : RetryArguments)
    (tr : List (Event LiveCall LiveCall.Answer)) : Prop where
  /-- The budget covers all attempts. -/
  covered : args.effectiveMaxAttempts ≤ maxLiveCalls
  /-- No evaluation finds the budget exceeded. -/
  evaluations : ∀ runKey result, ⟨.policyTrace runKey result, ()⟩ ∈ tr →
    result.reasonCode ≠ some .liveCallBudgetExceeded

variable {settle}

/-- A run that fits into the rest of the budget is not refused. -/
lemma notRefused_of_fits {maxLiveCalls attempts : ℕ} {args : RetryArguments}
    {ledger : LiveLLMBudgetLedger} {tr : List (Event LiveCall LiveCall.Answer)}
    {res : Result LiveLLMBudgetLedger}
    (hlimit : args.package.contextBudget.val.maxLiveCalls = maxLiveCalls)
    (heffective : args.effectiveMaxAttempts = attempts)
    (hruns : Runs (args.run settle ledger) tr res)
    (hfits : ledger.reservedLiveCalls + attempts ≤ maxLiveCalls) :
    NotRefused maxLiveCalls args tr := by
  constructor
  · omega
  · intro runKey result hmem
    rcases RetryArguments.run_cases hruns with ⟨e, -, rfl, -⟩ | ⟨-, hattempts⟩
    · cases hmem
    · exact hattempts.not_refused (by omega) hmem

/-- The runs of reviewers that fit into the rest of the budget together are not refused. -/
lemma RetainedRuns.notRefused {maxLiveCalls attempts : ℕ}
    {reviewers : List (Checked SelectedReviewer)} {ledger : LiveLLMBudgetLedger}
    {log : List (RetryArguments × List (Event LiveCall LiveCall.Answer))}
    (h : RetainedRuns settle maxLiveCalls attempts reviewers ledger log)
    (hfits : ledger.reservedLiveCalls + reviewers.length * attempts ≤ maxLiveCalls) :
    ∀ p ∈ log, NotRefused maxLiveCalls p.1 p.2 := by
  induction h with
  | nil => simp
  | @returns reviewers args ledger next tr log hlimit heffective hruns _ ih =>
    rw [List.length_cons, Nat.add_mul, Nat.one_mul] at hfits
    have hreserved : next.reservedLiveCalls ≤ ledger.reservedLiveCalls + attempts := by
      rcases RetryArguments.run_cases hruns with ⟨e, -, -, heq⟩ | ⟨-, hattempts⟩
      · cases heq
      · have hle := hattempts.reserved_le next rfl
        omega
    intro p hp
    rcases List.mem_cons.1 hp with rfl | hp
    · exact notRefused_of_fits hlimit heffective hruns (by omega)
    · exact ih (by omega) p hp
  | raises hlimit heffective hruns =>
    rw [List.length_cons, Nat.add_mul, Nat.one_mul] at hfits
    intro p hp
    rw [List.mem_singleton.1 hp]
    exact notRefused_of_fits hlimit heffective hruns (by omega)

/-- The selection of a stage in a live run: every selected reviewer costs the effective attempts. -/
def liveStage (attempts : ℕ) (reviewers : List (Checked SelectedReviewer)) : StageSelection where
  reviewers
  liveCallCosts := fun key =>
    if key ∈ reviewers.map fun r => reviewerKey r.val then some attempts else none

/-- The costs of the stage are valid. -/
lemma liveStage_valid (attempts : ℕ) (reviewers : List (Checked SelectedReviewer)) :
    (liveStage attempts reviewers).liveCallCosts.Valid := by
  intro key cost hcost
  unfold liveStage at hcost
  dsimp only at hcost
  split at hcost
  · obtain rfl := Option.some.inj hcost
    exact Int.natCast_nonneg _
  · contradiction

/-- The calls that a stage plans for the reviewers it keeps. -/
lemma StageKeeps.planned_liveStage {limits : Checked ContextBudget} {attempts : ℕ}
    {reviewers : List (Checked SelectedReviewer)} {b : BudgetedReviewers}
    (h : StageKeeps limits (liveStage attempts reviewers) b) :
    b.contextBudget.val.plannedLiveCalls = b.retainedReviewers.length * attempts := by
  have hcost : ∀ r ∈ b.retainedReviewers,
      (liveStage attempts reviewers).liveCallCosts.cost r.val = attempts := by
    intro r hr
    have hmem : r ∈ reviewers := h.interleaving.sublist_left.subset hr
    have hkey : reviewerKey r.val ∈ reviewers.map fun r => reviewerKey r.val :=
      List.mem_map_of_mem hmem
    unfold LiveCallCosts.cost liveStage
    dsimp only
    rw [if_pos hkey]
    simp
  rw [h.planned, List.map_congr_left hcost, List.map_const', List.sum_replicate, smul_eq_mul]

/-- The reviewers that a run keeps fit into the budget of live calls together. -/
lemma retained_fit {limits : Checked ContextBudget} {attempts : ℕ}
    {selections : List (List (Checked SelectedReviewer))} {bs : List BudgetedReviewers}
    (h : budgetStages limits 0 0 (selections.map (liveStage attempts)) = .ok bs) :
    (bs.flatMap fun b => b.retainedReviewers).length * attempts ≤ limits.val.maxLiveCalls := by
  have hvalid : ∀ stage ∈ selections.map (liveStage attempts), stage.liveCallCosts.Valid := by
    intro stage hstage
    obtain ⟨reviewers, -, rfl⟩ := List.mem_map.1 hstage
    exact liveStage_valid attempts reviewers
  obtain ⟨bs', hbs, -, hcalls, hall⟩ :=
    budgetStages_ok limits hvalid 0 0 (Nat.zero_le _) (Nat.zero_le _)
  obtain rfl : bs = bs' := Except.ok.inj (h.symm.trans hbs)
  have hplanned : (bs.flatMap fun b => b.retainedReviewers).length * attempts =
      (bs.map fun b => b.contextBudget.val.plannedLiveCalls).sum := by
    rw [List.forall₂_map_left_iff] at hall
    clear h hbs hcalls hvalid
    induction hall with
    | nil => simp
    | cons hstage _ ih =>
      rw [List.flatMap_cons, List.length_append, Nat.add_mul, ih, List.map_cons, List.sum_cons,
        hstage.planned_liveStage]
  omega

end

/-- The ledger of live calls, for any handling of the provider's outcomes.  In every sequence of
evaluations and runs the reservations respect the limit, no key is reserved twice, and every action
keeps its promises; and the reviewers that the budget has kept, each counted with its effective
attempts, are never refused for want of budget. -/
theorem liveCallLedger_run (settle : LiveLLMPolicyResult → Checked ReviewerRunKey →
    LiveLLMBudgetLedger → ProviderOutcome → Result AttemptEnd) (maxLiveCalls : ℕ) :
    (∀ log ledger, LedgerRun settle maxLiveCalls log ledger →
      LedgerInvariant maxLiveCalls ledger ∧
        ∀ p ∈ log, LedgerInvariant maxLiveCalls p.1 ∧ p.2.Keeps maxLiveCalls p.1) ∧
    ∀ (limits : Checked ContextBudget) (attempts : ℕ)
      (selections : List (List (Checked SelectedReviewer))) (bs : List BudgetedReviewers)
      (log : List (RetryArguments × List (Event LiveCall LiveCall.Answer))),
      limits.val.maxLiveCalls = maxLiveCalls →
      budgetStages limits 0 0 (selections.map (liveStage attempts)) = .ok bs →
      RetainedRuns settle maxLiveCalls attempts (bs.flatMap fun b => b.retainedReviewers) ⟨[]⟩ log →
      ∀ p ∈ log, NotRefused maxLiveCalls p.1 p.2 := by
  constructor
  · intro log ledger h
    exact h.invariant
  · intro limits attempts selections bs log hlimit hbs hruns
    have hfits := retained_fit hbs
    refine hruns.notRefused ?_
    have hempty : (⟨[]⟩ : LiveLLMBudgetLedger).reservedLiveCalls = 0 := rfl
    omega

/-- A package with one changed file. -/
def patchPackage : ReviewerContextPackage :=
  { keyPathPackage with
    changedFiles := [⟨⟨"docs/a.md", some "+x", 1, 0, "modified", none, "available"⟩,
      by decide +kernel⟩] }

def patchRunKey : Checked ReviewerRunKey :=
  ⟨⟨patchPackage.reviewTarget.val.targetHash, "c", .initialTriage, "bugs", 1, none, none⟩,
    by decide +kernel⟩

/-- The arguments of a run with a single attempt. -/
def patchArguments : RetryArguments where
  package := patchPackage
  initialRunKey := patchRunKey
  policyInput := ⟨{ enabledInput.val with reviewerRunKey := patchRunKey }, by decide +kernel⟩
  maxAttempts := 1
  timeoutSeconds := 60
  totalTimeoutSeconds := 60

/-- Every answer completes the reviewer. -/
def completes (_ : LiveLLMPolicyResult) (_ : Checked ReviewerRunKey) (_ : LiveLLMBudgetLedger)
    (_ : ProviderOutcome) : Result AttemptEnd :=
  .ok ⟨true, false⟩

/-- Every call is answered. -/
def emptyAnswer : (call : LiveCall) → LiveCall.Answer call
  | .policyTrace _ _ => ()
  | .provider _ => .response "\x7b\x7d" none

/-- The reviewer of the package is kept, and its run with one attempt keeps all promises. -/
theorem liveCallLedger_run_once :
    ∃ tr res, Runs (patchArguments.run completes ⟨[]⟩) tr res ∧
      LedgerInvariant 2 (LedgerAction.next ⟨[]⟩ (.retry patchArguments tr res)) ∧
      (LedgerAction.retry patchArguments tr res).Keeps 2 ⟨[]⟩ ∧ NotRefused 2 patchArguments tr := by
  obtain ⟨hledger, hbudget⟩ := liveCallLedger_run completes 2
  obtain ⟨tr, hruns⟩ := runs_answer emptyAnswer (patchArguments.run completes ⟨[]⟩)
  have hlog := hledger _ _ (.step .initial (.retry rfl hruns))
  have hretained : (budgetStages patchPackage.contextBudget 0 0
      ([[patchPackage.reviewer]].map (liveStage 1))).map
        (fun bs => bs.flatMap fun b => b.retainedReviewers) = .ok [patchPackage.reviewer] := by
    decide +kernel
  have heffective : patchArguments.effectiveMaxAttempts = (1 : ℕ) := by decide +kernel
  cases hbs : budgetStages patchPackage.contextBudget 0 0
      ([[patchPackage.reviewer]].map (liveStage 1)) with
  | error e =>
    rw [hbs] at hretained
    contradiction
  | ok bs =>
    rw [hbs] at hretained
    have hrefused := hbudget patchPackage.contextBudget 1 [[patchPackage.reviewer]] bs
      [(patchArguments, tr)] rfl hbs (by
        have hkept : (bs.flatMap fun b => b.retainedReviewers) = [patchPackage.reviewer] :=
          Except.ok.inj hretained
        rw [hkept]
        cases hres : (patchArguments.run completes ⟨[]⟩).answer emptyAnswer with
        | error e => exact .raises rfl heffective (hres ▸ hruns)
        | ok after => exact .returns rfl heffective (hres ▸ hruns) .nil)
    exact ⟨tr, _, hruns, hlog.1, (hlog.2 _ (List.mem_singleton.2 rfl)).2,
      hrefused _ (List.mem_singleton.2 rfl)⟩

end ReviewGraph
