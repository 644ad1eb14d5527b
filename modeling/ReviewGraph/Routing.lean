import ReviewGraph.ContextBudget
import ReviewGraph.State

/-!
# Routing

`select_reviewers_for_stage` of `routing.py`: an agent of the stage is selected for the reasons that
its triggers give.  Triggers are gates, which all have to pass, and selectors, one of which has to
match.
-/

namespace ReviewGraph

/-! ## Configurations -/

/-- `RiskLevel`. -/
inductive RiskLevel
  | low
  | medium
  | high
  deriving DecidableEq, Repr

/-- The string value of a risk level. -/
def RiskLevel.value : RiskLevel → Text
  | low => "low"
  | medium => "medium"
  | high => "high"

/-- `_risk_rank`. -/
def riskRank : RiskLevel → ℕ
  | .low => 0
  | .medium => 1
  | .high => 2

/-- What routing reads of a `RiskAssessment`. -/
structure RiskAssessment where
  changedFileCount : ℕ
  changedLineCount : ℕ
  riskLevel : RiskLevel

/-- `ReviewerTriggers`. -/
structure ReviewerTriggers where
  always : Bool := false
  paths : List Text := []
  labels : List Text := []
  diffPatterns : List Text := []
  conversationPatterns : List Text := []
  riskMin : Option RiskLevel := none
  maxFiles : Option ℕ := none
  changedLinesMin : Option ℕ := none
  changedFilesMin : Option ℕ := none
  deriving DecidableEq

instance : Record ReviewerTriggers where
  postInit t := do
    requireStringTuple t.paths "reviewer trigger paths" true
    requireStringTuple t.labels "reviewer trigger labels" true
    requireStringTuple t.diffPatterns "reviewer trigger diff_patterns" true
    requireStringTuple t.conversationPatterns "reviewer trigger conversation_patterns" true
    require (∀ n ∈ t.maxFiles, 0 < n)
      "reviewer trigger max_files must be a positive integer"
    require (∀ n ∈ t.changedLinesMin, 0 < n)
      "reviewer trigger changed_lines_min must be a positive integer"
    require (∀ n ∈ t.changedFilesMin, 0 < n)
      "reviewer trigger changed_files_min must be a positive integer"
    require (t.always = true ∨ t.paths ≠ [] ∨ t.labels ≠ [] ∨ t.diffPatterns ≠ [] ∨
        t.conversationPatterns ≠ [] ∨ t.riskMin ≠ none ∨ t.maxFiles ≠ none ∨
        t.changedLinesMin ≠ none ∨ t.changedFilesMin ≠ none)
      "reviewer trigger must include at least one selector or gate"

/-- What routing reads of a `ReviewerAgentConfig`. -/
structure ReviewerAgentConfig where
  name : Text
  stages : List ReviewStage
  triggers : Checked ReviewerTriggers
  deriving DecidableEq

instance : Record ReviewerAgentConfig where
  postInit a := do
    requireNonEmpty a.name "reviewer agent name"
    require (a.stages ≠ []) "reviewer agent stages must be a non-empty tuple"
    require a.stages.Nodup "reviewer agent stages must not contain duplicates"

/-- What routing reads of a `ReviewConfig`: its agents, the keys of whose mapping are their
names. -/
structure ReviewConfig where
  agents : List (Checked ReviewerAgentConfig)
  names_nodup : (agents.map fun agent => agent.val.name).Nodup

/-- The pattern languages of the standard library: `fnmatch` on a path and a pattern, and
`re.search`, ignoring case, of a pattern in a text, which gives nothing if the pattern is not a
regular expression. -/
structure PatternLanguages where
  fnmatch : Text → Text → Bool
  search : Text → Text → Option Bool

/-! ## Selectors -/

variable (languages : PatternLanguages)

/-- `_path_matches`. -/
def pathMatches (path pattern : Text) : Bool :=
  decide (path = pattern) || languages.fnmatch path pattern ||
    path.startsWith (pattern.rdropWhile (· = '/') ++ ['/'])

/-- `_diff_pattern_matches`. -/
def diffPatternMatches (casefoldedPatch pattern : Text) : Bool :=
  (languages.search pattern casefoldedPatch).getD (casefoldedPatch.contains pattern.casefold)

/-- `_changed_file_count`. -/
def changedFileCount (pr : PullRequestContext) : ℕ := pr.changedFiles.length

/-- `_changed_line_count`. -/
def changedLineCount (pr : PullRequestContext) : ℕ :=
  (pr.changedFiles.map fun file => file.val.additions + file.val.deletions).sum

/-- A memory that a pattern can match. -/
def isActionableMemory (memory : MemoryReference) : Bool :=
  memory.actionable && decide (memory.body.getD [] ≠ [])

/-- A pattern occurs in the body of a memory. -/
def matchesBody (pattern : Text) (memory : MemoryReference) : Bool :=
  (memory.body.getD []).casefold.contains pattern.casefold

/-- `_conversation_pattern_reason`. -/
def conversationPatternReason (stage pattern : Text) (memory : MemoryReference) : Text :=
  let reason : Text := stage ++ (" triggers.conversation_patterns=" ++ (pattern ++ (" memory_id=" ++
    (memory.id ++ (" trust=" ++ memory.trustLabel)))))
  match memory.sourceProvider with
  | some sourceProvider => reason ++ (" source_provider=" ++ sourceProvider)
  | none => reason

/-- `_conversation_pattern_reasons`. -/
def conversationPatternReasons (stage : Text) (patterns : List Text)
    (memoryReferences : List MemoryReference) : List Text :=
  let actionableMemory := memoryReferences.filter isActionableMemory
  unique (patterns.flatMap fun pattern =>
    (actionableMemory.filter (matchesBody pattern)).map (conversationPatternReason stage pattern))

/-! ## Triggers -/

/-- The outcome of a gate with a bound: the failure, or the reason that it gives. -/
def triggerGate {α : Type} (stage : Text) (bound : Option α) (passes : α → Bool)
    (failure reason : Text) (render : α → Text) : List (Except Text Text) :=
  match bound with
  | none => []
  | some value =>
    if passes value then [.ok (stage ++ (" triggers." ++ (reason ++ render value)))]
    else [.error (stage ++ (" triggers." ++ (failure ++ render value)))]

/-- The gates of the triggers. -/
def triggerGates (stage : Text) (triggers : ReviewerTriggers) (pr : PullRequestContext)
    (risk : Option RiskAssessment) : List (Except Text Text) :=
  let fileCount := risk.elim (changedFileCount pr) fun r => r.changedFileCount
  let lineCount := risk.elim (changedLineCount pr) fun r => r.changedLineCount
  let riskLevel := risk.elim .low fun r => r.riskLevel
  triggerGate stage triggers.maxFiles (fun n => decide (fileCount ≤ n))
      "max_files>" "max_files<=" Text.ofNat ++
    (triggerGate stage triggers.changedFilesMin (fun n => decide (n ≤ fileCount))
        "changed_files_min<" "changed_files_min>=" Text.ofNat ++
      (triggerGate stage triggers.changedLinesMin (fun n => decide (n ≤ lineCount))
          "changed_lines_min<" "changed_lines_min>=" Text.ofNat ++
        triggerGate stage triggers.riskMin (fun level =>
          decide (riskRank level ≤ riskRank riskLevel))
          "risk_min<" "risk_min>=" RiskLevel.value))

/-- The failures of gates. -/
def gateFailures (gates : List (Except Text Text)) : List Text :=
  gates.filterMap fun gate => match gate with
    | .error failure => some failure
    | .ok _ => none

/-- The reasons that gates give. -/
def gateReasons (gates : List (Except Text Text)) : List Text :=
  gates.filterMap fun gate => match gate with
    | .error _ => none
    | .ok reason => some reason

/-- The reasons of the selectors that do not read the conversation. -/
def inputSelectorReasons (stage : Text) (triggers : ReviewerTriggers) (pr : PullRequestContext) :
    List Text :=
  let patches := (Text.unlines (pr.changedFiles.map fun file => file.val.patch.getD [])).casefold
  let labels := pr.labels.map Text.casefold
  (if triggers.always then [stage ++ " triggers.always=true"] else []) ++
    (((triggers.paths.filter fun pattern =>
        pr.changedFiles.any fun file => pathMatches languages file.val.path pattern).map
          fun pattern => stage ++ (" triggers.paths=" ++ pattern)) ++
      (((triggers.diffPatterns.filter (diffPatternMatches languages patches)).map
          fun pattern => stage ++ (" triggers.diff_patterns=" ++ pattern)) ++
        ((triggers.labels.filter fun label => decide (label.casefold ∈ labels)).map
          fun label => stage ++ (" triggers.labels=" ++ label))))

/-- `has_explicit_selector`. -/
def hasExplicitSelector (triggers : ReviewerTriggers) : Bool :=
  triggers.always || !triggers.paths.isEmpty || !triggers.labels.isEmpty ||
    !triggers.diffPatterns.isEmpty || !triggers.conversationPatterns.isEmpty

/-- `_trigger_reasons`. -/
def triggerReasons (stage : Text) (triggers : ReviewerTriggers) (pr : PullRequestContext)
    (memoryReferences : List MemoryReference) (risk : Option RiskAssessment) : List Text :=
  let gates := triggerGates stage triggers pr risk
  let reasons := gateReasons gates
  if gateFailures gates ≠ [] then []
  else
    let selectorReasons := inputSelectorReasons languages stage triggers pr ++
      conversationPatternReasons stage triggers.conversationPatterns memoryReferences
    if hasExplicitSelector triggers = false ∧ reasons ≠ [] then reasons
    else if selectorReasons ≠ [] then selectorReasons ++ reasons
    else []

/-! ## Selection -/

/-- The selection of an agent, if it is one of the stage and has reasons. -/
def selectAgent (stage : Text) (pr : PullRequestContext) (memoryReferences : List MemoryReference)
    (risk : Option RiskAssessment) (agent : ReviewerAgentConfig) : Option SelectedReviewer :=
  if stage ∈ agent.stages.map ReviewStage.value then
    let reasons := triggerReasons languages stage agent.triggers.val pr memoryReferences risk
    if reasons = [] then none
    else some ⟨agent.name, stage, reasons⟩
  else none

/-- The agents in the order of their names. -/
def sortedAgents (config : ReviewConfig) : List (Checked ReviewerAgentConfig) :=
  config.agents.insertionSort fun a b => a.val.name ≤ b.val.name

/-- `select_reviewers_for_stage`. -/
def selectReviewersForStage (config : ReviewConfig) (pr : PullRequestContext) (stage : Text)
    (memoryReferences : List MemoryReference) (risk : Option RiskAssessment) :
    Result (List (Checked SelectedReviewer)) :=
  ((sortedAgents config).filterMap fun agent =>
    selectAgent languages stage pr memoryReferences risk agent.val).mapM construct

end ReviewGraph
