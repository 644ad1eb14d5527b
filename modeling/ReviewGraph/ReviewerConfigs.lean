import ReviewGraph.InputParsers
import ReviewGraph.Routing

/-!
# Reviewer configurations

`parse_reviewer_config` of `config.py` with the constructors of `models.py` that it calls.  The
parser checks what the constructors check, save for a trigger without selectors and an empty
context.
-/

namespace ReviewGraph.Config

/-! ## Records -/

/-- `ALLOWED_REVIEWER_CAPABILITIES`. -/
def allowedReviewerCapabilities : List Text := ["none", "diff_context"]

/-- `ALLOWED_REVIEWER_VERDICT_POWERS`. -/
def allowedReviewerVerdictPowers : List Text := ["comment", "request_changes"]

/-- `INERT_REVIEWER_TOOL_PREFIX`. -/
def inertReviewerTool : Text := "future-"

/-- A character of `[a-z0-9]`. -/
def isToolLetter (c : Char) : Bool := ('a' ≤ c && c ≤ 'z') || ('0' ≤ c && c ≤ '9')

/-- A character of `[a-z0-9_-]`. -/
def isToolChar (c : Char) : Bool := isToolLetter c || c = '_' || c = '-'

/-- `_require_inert_tool_identifiers`, for one of the tools. -/
def isInertToolIdentifier (item : Text) : Bool :=
  item.startsWith inertReviewerTool && decide (item.drop inertReviewerTool.length ≠ []) &&
    item.all isToolChar

/-- `ReviewerAgentConfig`. -/
structure ReviewerAgentConfig where
  name : Text
  description : Option Text
  stages : List ReviewStage
  triggers : Checked ReviewerTriggers
  required : Bool
  verdictPower : Text
  capabilities : List Text
  model : Option Text
  context : Option Text
  tools : List Text
  deriving DecidableEq

instance : Record ReviewerAgentConfig where
  postInit a := do
    requireNonEmpty a.name "reviewer agent name"
    requireOptionalNonEmpty a.description "reviewer agent description"
    requireOptionalNonEmpty a.model "reviewer agent model"
    requireOptionalNonEmpty a.context "reviewer agent context"
    requireStringTuple a.tools "reviewer agent tools" true
    require a.tools.Nodup "reviewer agent tools must not contain duplicates"
    require (∀ item ∈ a.tools, isInertToolIdentifier item = true)
      "reviewer agent tools must contain inert future-* identifiers"
    require (a.stages ≠ []) "reviewer agent stages must be a non-empty tuple"
    require a.stages.Nodup "reviewer agent stages must not contain duplicates"
    require (a.verdictPower ∈ allowedReviewerVerdictPowers)
      "reviewer agent has unsupported verdict_power"
    requireStringTuple a.capabilities "reviewer agent capabilities" false
    require a.capabilities.Nodup "reviewer agent capabilities must not contain duplicates"
    require (∀ c ∈ a.capabilities, c ∈ allowedReviewerCapabilities)
      ("reviewer agent has unsupported capabilities: " ++ Text.join ", "
        (Text.sorted (a.capabilities.dedup.filter fun c => c ∉ allowedReviewerCapabilities)))

/-- `LiveLLMConfig`. -/
structure LiveLLMConfig where
  provider : Option Text
  model : Option Text
  maxAttempts : ℕ
  timeoutSeconds : ℕ
  totalTimeoutSeconds : ℕ
  maxLiveCalls : Option ℕ
  deriving DecidableEq

instance : Record LiveLLMConfig where
  postInit c := do
    requireOptionalNonEmpty c.provider "live LLM provider"
    requireOptionalNonEmpty c.model "live LLM model"
    requirePositive c.maxAttempts "live LLM max_attempts"
    requirePositive c.timeoutSeconds "live LLM timeout_seconds"
    requirePositive c.totalTimeoutSeconds "live LLM total_timeout_seconds"

/-- `ReviewConfig`. -/
structure ReviewConfig where
  agents : List (Text × Checked ReviewerAgentConfig)
  trustedOperatorAuthors : List Text
  trustedBotAuthors : List Text
  contextBudget : Option (Checked ContextBudget)
  liveLlm : Option (Checked LiveLLMConfig)

instance : Record ReviewConfig where
  postInit c := do
    require (∀ entry ∈ c.agents, entry.1 ≠ []) "review config agent names must be non-empty strings"
    require (∀ entry ∈ c.agents, entry.2.val.name = entry.1)
      "review config agent mapping key must match reviewer agent name"
    requireStringTuple c.trustedOperatorAuthors "review config trusted_operator_authors" true
    requireStringTuple c.trustedBotAuthors "review config trusted_bot_authors" true
    require c.trustedOperatorAuthors.Nodup
      "review config trusted_operator_authors must not contain duplicates"
    require c.trustedBotAuthors.Nodup
      "review config trusted_bot_authors must not contain duplicates"

/-! ## Fields -/

/-- The label of a field of an agent. -/
def agentField (label field : Text) : Text := "reviewer config agent " ++ (label ++ ("." ++ field))

/-- `_optional_str`. -/
def optionalStr (data : List (Text × Json)) (field label : Text) : Parse (Option Text) :=
  match Json.lookup data field with
  | none => .ok none
  | some value =>
    match nonEmptyString value with
    | some s => .ok (some s)
    | none => .error (.own (agentField label field ++ " must be a non-empty string"))

/-- `_optional_list_of_str`. -/
def optionalListOfStr (data : List (Text × Json)) (field label : Text) : Parse (List Text) :=
  match Json.lookup data field with
  | none => .ok []
  | some (.arr (item :: items)) =>
    match nonEmptyStrings (item :: items) with
    | some values => .ok values
    | none => .error (.own (agentField label field ++ " must contain non-empty strings"))
  | some _ => .error (.own (agentField label field ++ " must be a non-empty list"))

/-- `_optional_unique_list_of_str`. -/
def optionalUniqueListOfStr (data : List (Text × Json)) (field label : Text) : Parse (List Text) :=
  do
  let values ← optionalListOfStr data field label
  demand values.Nodup (label ++ ("." ++ (field ++ " must not contain duplicates")))
  return values

/-- `_optional_positive_int`. -/
def optionalPositiveInt (data : List (Text × Json)) (field label : Text) : Parse (Option ℕ) :=
  match Json.lookup data field with
  | none => .ok none
  | some (.int n) =>
    if 0 < n then .ok (some n.toNat)
    else .error (.own (agentField label field ++ " must be a positive integer"))
  | some _ => .error (.own (agentField label field ++ " must be a positive integer"))

/-- `_optional_non_negative_int`. -/
def optionalNonNegativeInt (data : List (Text × Json)) (field label : Text) : Parse (Option ℕ) :=
  match Json.lookup data field with
  | none => .ok none
  | some (.int n) =>
    if 0 ≤ n then .ok (some n.toNat)
    else .error (.own ("reviewer config " ++ (label ++ ("." ++ (field ++
      " must be a non-negative integer")))))
  | some _ => .error (.own ("reviewer config " ++ (label ++ ("." ++ (field ++
      " must be a non-negative integer")))))

/-- `RiskLevel(value)`. -/
def riskLevelOf (value : Text) : Option RiskLevel :=
  [RiskLevel.low, .medium, .high].find? fun level => level.value = value

/-- `_optional_risk`. -/
def optionalRisk (data : List (Text × Json)) (field label : Text) : Parse (Option RiskLevel) :=
  match Json.lookup data field with
  | none => .ok none
  | some (.str value) =>
    match riskLevelOf value with
    | some level => .ok (some level)
    | none => .error (.own (agentField label field ++ " has unsupported risk level"))
  | some _ => .error (.own (agentField label field ++ " has unsupported risk level"))

/-- `ReviewStage(value)`, for a string. -/
def reviewStageOf : Json → Option ReviewStage
  | .str value => [ReviewStage.initialTriage, .specializedReview, .logicReview,
      .clarificationReview].find? fun stage => stage.value = value
  | _ => none

/-- An error about an agent. -/
def agentError (name rest : Text) : Text := "reviewer config agent " ++ (name ++ rest)

/-- `_parse_stages`. -/
def parseStages (name : Text) : Option Json → Parse (List ReviewStage)
  | some (.arr (item :: items)) =>
    match (item :: items).mapM reviewStageOf with
    | none => .error (.own (agentError name " has unsupported stage"))
    | some stages => do
      demand stages.Nodup (agentError name " has duplicate stages")
      return stages
  | _ => .error (.own (agentError name " must include stages"))

/-- `ALLOWED_TRIGGER_FIELDS`. -/
def allowedTriggerFields : List Text := ["always", "changed_files_min", "changed_lines_min",
  "conversation_patterns", "diff_patterns", "labels", "max_files", "paths", "risk_min"]

/-- `_parse_triggers`. -/
def parseTriggers (name : Text) : Option Json → Parse (Checked ReviewerTriggers)
  | some (.obj (field :: fields)) => do
    let value := field :: fields
    let label := name ++ ".triggers"
    let unknown := unknownFields value allowedTriggerFields
    demand (unknown = [])
      (agentError name (" has unsupported trigger fields: " ++ Text.join ", " unknown))
    match (Json.lookup value "always").getD (.bool false) with
    | .bool always => do
      let paths ← optionalListOfStr value "paths" label
      let labels ← optionalListOfStr value "labels" label
      let diffPatterns ← optionalListOfStr value "diff_patterns" label
      let conversationPatterns ← optionalListOfStr value "conversation_patterns" label
      let riskMin ← optionalRisk value "risk_min" label
      let maxFiles ← optionalPositiveInt value "max_files" label
      let changedLinesMin ← optionalPositiveInt value "changed_lines_min" label
      let changedFilesMin ← optionalPositiveInt value "changed_files_min" label
      build {
        always := always
        paths := paths
        labels := labels
        diffPatterns := diffPatterns
        conversationPatterns := conversationPatterns
        riskMin := riskMin
        maxFiles := maxFiles
        changedLinesMin := changedLinesMin
        changedFilesMin := changedFilesMin }
    | _ => .error (.own (agentError name ".triggers.always must be a boolean"))
  | _ => .error (.own (agentError name ".triggers must be non-empty"))

/-- `_parse_capabilities`. -/
def parseCapabilities (name : Text) : Json → Parse (List Text)
  | .arr (item :: items) =>
    match nonEmptyStrings (item :: items) with
    | none => .error (.own (agentError name ".capabilities must contain non-empty strings"))
    | some values => do
      demand values.Nodup (agentError name ".capabilities must not contain duplicates")
      demand (∀ c ∈ values, c ∈ allowedReviewerCapabilities)
        (agentError name " has unsupported capabilities")
      return values
  | _ => .error (.own (agentError name ".capabilities must be a non-empty list"))

/-- `TOOL_IDENTIFIER_PATTERN.fullmatch`. -/
def matchesToolIdentifierPattern (tool : Text) : Bool :=
  match inertReviewerTool.isPrefixOf? tool with
  | some (c :: cs) => isToolLetter c && cs.all isToolChar
  | _ => false

/-- `_parse_tools`. -/
def parseTools (name : Text) : Json → Parse (List Text)
  | .arr [] => .ok []
  | .arr (item :: items) =>
    match nonEmptyStrings (item :: items) with
    | none => .error (.own (agentError name ".tools must contain non-empty strings"))
    | some values => do
      demand values.Nodup (agentError name ".tools must not contain duplicates")
      demand (∀ tool ∈ values, matchesToolIdentifierPattern tool = true) (agentError name
        " has unsupported tools; tools must contain inert future-* identifiers")
      return values
  | _ => .error (.own (agentError name ".tools must be a list"))

/-- The fields of an agent. -/
def agentFields : List Text := ["capabilities", "context", "description", "model", "required",
  "stages", "tools", "triggers", "verdict_power"]

/-- The value of `required`. -/
def parseRequired (name : Text) (agent : List (Text × Json)) : Parse Bool :=
  match (Json.lookup agent "required").getD (.bool false) with
  | .bool required => .ok required
  | _ => .error (.own (agentError name ".required must be a boolean"))

/-- The value of `verdict_power`. -/
def parseVerdictPower (name : Text) (agent : List (Text × Json)) : Parse Text :=
  match (Json.lookup agent "verdict_power").getD (.str "comment") with
  | .str power =>
    if power ∈ allowedReviewerVerdictPowers then .ok power
    else .error (.own (agentError name " has unsupported verdict_power"))
  | _ => .error (.own (agentError name " has unsupported verdict_power"))

/-- The value of `context`. -/
def parseContext (name : Text) (agent : List (Text × Json)) : Parse (Option Text) :=
  match (Json.lookup agent "context").getD .null with
  | .null => .ok none
  | .str context => .ok (some context)
  | _ => .error (.own (agentError name ".context must be a string"))

/-- `_parse_reviewer_agent`. -/
def parseReviewerAgent (name : Text) (agent : List (Text × Json)) :
    Parse (Checked ReviewerAgentConfig) := do
  let unknown := unknownFields agent agentFields
  demand (unknown = []) (agentError name (" has unsupported fields: " ++ Text.join ", " unknown))
  let description ← optionalStr agent "description" name
  let stages ← parseStages name (Json.lookup agent "stages")
  let triggers ← parseTriggers name (Json.lookup agent "triggers")
  let required ← parseRequired name agent
  let verdictPower ← parseVerdictPower name agent
  let capabilities ← parseCapabilities name
    ((Json.lookup agent "capabilities").getD (.arr [.str "diff_context"]))
  let model ← optionalStr agent "model" name
  let tools ← parseTools name ((Json.lookup agent "tools").getD (.arr []))
  let context ← parseContext name agent
  build {
    name := name
    description := description
    stages := stages
    triggers := triggers
    required := required
    verdictPower := verdictPower
    capabilities := capabilities
    model := model
    context := context
    tools := tools }

/-- `DEFAULT_CONTEXT_BUDGET_LIMITS`. -/
def defaultContextBudgetLimits : List (Text × ℕ) := [("max_changed_files", 50),
  ("max_patch_bytes", 200000), ("max_memory_bytes", 100000), ("max_reviewers", 20),
  ("max_live_calls", 0)]

/-- A limit of a context budget. -/
def parseLimit (field : Text) (raw : Json) : Parse ℕ :=
  match raw with
  | .int n =>
    if 0 < n ∨ n = 0 ∧ field = "max_live_calls" then .ok n.toNat
    else .error (.own ("reviewer config context_budget." ++ (field ++
      if field = "max_live_calls" then " must be a non-negative integer"
      else " must be a positive integer")))
  | _ => .error (.own ("reviewer config context_budget." ++ (field ++
      if field = "max_live_calls" then " must be a non-negative integer"
      else " must be a positive integer")))

/-- The limit under a field, or the default. -/
def limitOf (limits : List (Text × ℕ)) (field : Text) (default : ℕ) : ℕ :=
  ((limits.find? fun limit => limit.1 = field).map Prod.snd).getD default

/-- `_optional_context_budget`. -/
def optionalContextBudget (data : List (Text × Json)) : Parse (Option (Checked ContextBudget)) :=
  match Json.lookup data "context_budget" with
  | none => .ok none
  | some (.obj value) => do
    let unknown := unknownFields value (defaultContextBudgetLimits.map Prod.fst)
    demand (unknown = [])
      ("reviewer config context_budget has unsupported fields: " ++ Text.join ", " unknown)
    let limits ← value.mapM fun entry => do
      let limit ← parseLimit entry.1 entry.2
      return (entry.1, limit)
    let budget ← build {
      maxChangedFiles := limitOf limits "max_changed_files" 50
      maxPatchBytes := limitOf limits "max_patch_bytes" 200000
      maxMemoryBytes := limitOf limits "max_memory_bytes" 100000
      maxReviewers := limitOf limits "max_reviewers" 20
      maxLiveCalls := limitOf limits "max_live_calls" 0 }
    return some budget
  | some _ => .error (.own "reviewer config context_budget must be an object")

/-- The fields of `live_llm`. -/
def liveLlmFields : List Text := ["provider", "model", "max_attempts", "timeout_seconds",
  "total_timeout_seconds", "max_live_calls"]

/-- `_optional_live_llm_config`. -/
def optionalLiveLlmConfig (data : List (Text × Json)) : Parse (Option (Checked LiveLLMConfig)) :=
  match Json.lookup data "live_llm" with
  | none => .ok none
  | some (.obj value) => do
    let unknown := unknownFields value liveLlmFields
    demand (unknown = []) ("reviewer config live_llm has unsupported fields: " ++ Text.join ", "
      unknown)
    let provider ← optionalStr value "provider" "live_llm"
    let model ← optionalStr value "model" "live_llm"
    let maxAttempts ← optionalPositiveInt value "max_attempts" "live_llm"
    let timeoutSeconds ← optionalPositiveInt value "timeout_seconds" "live_llm"
    let totalTimeoutSeconds ← optionalPositiveInt value "total_timeout_seconds" "live_llm"
    let maxLiveCalls ← optionalNonNegativeInt value "max_live_calls" "live_llm"
    let config ← build {
      provider := provider
      model := model
      maxAttempts := maxAttempts.getD 2
      timeoutSeconds := timeoutSeconds.getD 30
      totalTimeoutSeconds := totalTimeoutSeconds.getD 120
      maxLiveCalls := maxLiveCalls }
    return some config
  | some _ => .error (.own "reviewer config live_llm must be an object")

/-- The fields of a reviewer configuration. -/
def reviewerConfigFields : List Text := ["agents", "context_budget", "live_llm",
  "trusted_bot_authors", "trusted_operator_authors"]

/-- An agent of `agents`. -/
def parseAgentEntry (entry : Text × Json) : Parse (Text × Checked ReviewerAgentConfig) :=
  if entry.1 = [] then .error (.own "reviewer config agent names must be non-empty strings")
  else
    match entry.2 with
    | .obj agent => do
      let parsed ← parseReviewerAgent entry.1 agent
      return (entry.1, parsed)
    | _ => .error (.own (agentError entry.1 " must be an object"))

/-- `parse_reviewer_config`. -/
def parseReviewerConfig (data : List (Text × Json)) : Parse (Checked ReviewConfig) := do
  let unknown := unknownFields data reviewerConfigFields
  demand (unknown = []) ("reviewer config has unsupported fields: " ++ Text.join ", " unknown)
  match Json.lookup data "agents" with
  | some (.obj (entry :: entries)) => do
    let agents ← (entry :: entries).mapM parseAgentEntry
    let trustedOperatorAuthors ←
      optionalUniqueListOfStr data "trusted_operator_authors" "reviewer config"
    let trustedBotAuthors ← optionalUniqueListOfStr data "trusted_bot_authors" "reviewer config"
    let contextBudget ← optionalContextBudget data
    let liveLlm ← optionalLiveLlmConfig data
    build {
      agents := agents
      trustedOperatorAuthors := trustedOperatorAuthors
      trustedBotAuthors := trustedBotAuthors
      contextBudget := contextBudget
      liveLlm := liveLlm }
  | _ => .error (.own "reviewer config agents must be a non-empty object")

/-! ## What the parts of the parser establish -/

/-- No error escapes from a parser of a field. -/
lemma not_escapes_optionalStr (data : List (Text × Json)) (field label : Text) :
    ¬ Escapes (optionalStr data field label) := by
  unfold optionalStr
  split
  · simp
  · split <;> simp

/-- A list of texts raises no other error. -/
lemma not_escapes_optionalListOfStr (data : List (Text × Json)) (field label : Text) :
    ¬ Escapes (optionalListOfStr data field label) := by
  unfold optionalListOfStr
  split
  · simp
  · split <;> simp
  · simp

/-- Nor does one without repetitions. -/
lemma not_escapes_optionalUniqueListOfStr (data : List (Text × Json)) (field label : Text) :
    ¬ Escapes (optionalUniqueListOfStr data field label) := by
  unfold optionalUniqueListOfStr
  refine not_escapes_bind (not_escapes_optionalListOfStr data field label) fun values _ => ?_
  exact not_escapes_bind (not_escapes_demand _ _) fun _ _ => not_escapes_pure _

/-- Nor does a positive number. -/
lemma not_escapes_optionalPositiveInt (data : List (Text × Json)) (field label : Text) :
    ¬ Escapes (optionalPositiveInt data field label) := by
  unfold optionalPositiveInt
  split
  · simp
  · split <;> simp
  · simp

/-- Nor does a number that is not negative. -/
lemma not_escapes_optionalNonNegativeInt (data : List (Text × Json)) (field label : Text) :
    ¬ Escapes (optionalNonNegativeInt data field label) := by
  unfold optionalNonNegativeInt
  split
  · simp
  · split <;> simp
  · simp

/-- Nor does a level of risk. -/
lemma not_escapes_optionalRisk (data : List (Text × Json)) (field label : Text) :
    ¬ Escapes (optionalRisk data field label) := by
  unfold optionalRisk
  split
  · simp
  · split <;> simp
  · simp

/-- Nor do stages. -/
lemma not_escapes_parseStages (name : Text) (value : Option Json) :
    ¬ Escapes (parseStages name value) := by
  unfold parseStages
  split
  · split
    · simp
    · exact not_escapes_bind (not_escapes_demand _ _) fun _ _ => not_escapes_pure _
  · simp

/-- Nor do capabilities. -/
lemma not_escapes_parseCapabilities (name : Text) (value : Json) :
    ¬ Escapes (parseCapabilities name value) := by
  unfold parseCapabilities
  split
  · split
    · simp
    · refine not_escapes_bind (not_escapes_demand _ _) fun _ _ => ?_
      exact not_escapes_bind (not_escapes_demand _ _) fun _ _ => not_escapes_pure _
  · simp

/-- Nor do tools. -/
lemma not_escapes_parseTools (name : Text) (value : Json) : ¬ Escapes (parseTools name value) := by
  unfold parseTools
  split
  · simp
  · split
    · simp
    · refine not_escapes_bind (not_escapes_demand _ _) fun _ _ => ?_
      exact not_escapes_bind (not_escapes_demand _ _) fun _ _ => not_escapes_pure _
  · simp

/-- Nor does the flag of required agents. -/
lemma not_escapes_parseRequired (name : Text) (agent : List (Text × Json)) :
    ¬ Escapes (parseRequired name agent) := by
  unfold parseRequired
  split <;> simp

/-- Nor does the verdict power. -/
lemma not_escapes_parseVerdictPower (name : Text) (agent : List (Text × Json)) :
    ¬ Escapes (parseVerdictPower name agent) := by
  unfold parseVerdictPower
  split
  · split <;> simp
  · simp

/-- Nor does the context. -/
lemma not_escapes_parseContext (name : Text) (agent : List (Text × Json)) :
    ¬ Escapes (parseContext name agent) := by
  unfold parseContext
  split <;> simp

/-- A string that has been read is not empty. -/
lemma optionalStr_ok {data : List (Text × Json)} {field label : Text} {value : Option Text}
    (h : optionalStr data field label = .ok value) : ∀ s ∈ value, s ≠ [] := by
  unfold optionalStr at h
  split at h
  · obtain rfl := Except.ok.inj h
    simp
  · split at h
    · rename_i s hs
      obtain rfl := Except.ok.inj h
      rintro _ ⟨⟩
      exact (nonEmptyString_eq_some.1 hs).2
    · contradiction

/-- The strings of a list that has been read are not empty, and the list is empty only if there is
none. -/
lemma optionalListOfStr_ok {data : List (Text × Json)} {field label : Text} {values : List Text}
    (h : optionalListOfStr data field label = .ok values) :
    (∀ s ∈ values, s ≠ []) ∧ (values = [] ↔ Json.lookup data field = none) := by
  unfold optionalListOfStr at h
  split at h
  · rename_i hlookup
    obtain rfl := Except.ok.inj h
    simp [hlookup]
  · rename_i item items hlookup
    split at h
    · rename_i values' hvalues
      obtain rfl := Except.ok.inj h
      refine ⟨ne_nil_of_nonEmptyStrings hvalues, ?_⟩
      have hlength := length_eq_of_nonEmptyStrings hvalues
      rw [hlookup]
      refine iff_of_false ?_ (by simp)
      rintro rfl
      simp at hlength
    · contradiction
  · contradiction

/-- The texts are not empty and distinct. -/
lemma optionalUniqueListOfStr_ok {data : List (Text × Json)} {field label : Text}
    {values : List Text}
    (h : optionalUniqueListOfStr data field label = .ok values) :
    (∀ s ∈ values, s ≠ []) ∧ values.Nodup := by
  obtain ⟨values', hvalues, h⟩ := parse_bind_eq_ok.1 h
  obtain ⟨_, hnodup, h⟩ := parse_bind_eq_ok.1 h
  obtain rfl := Except.ok.inj h
  exact ⟨(optionalListOfStr_ok hvalues).1, demand_eq_ok.1 hnodup⟩

/-- A count that has been read is positive, and is missing only if there is none. -/
lemma optionalPositiveInt_ok {data : List (Text × Json)} {field label : Text} {value : Option ℕ}
    (h : optionalPositiveInt data field label = .ok value) :
    (∀ n ∈ value, 0 < n) ∧ (value = none ↔ Json.lookup data field = none) := by
  unfold optionalPositiveInt at h
  split at h
  · rename_i hlookup
    obtain rfl := Except.ok.inj h
    simp [hlookup]
  · rename_i n hlookup
    split at h
    · rename_i hpos
      obtain rfl := Except.ok.inj h
      refine ⟨?_, by simp [hlookup]⟩
      rintro _ ⟨⟩
      omega
    · contradiction
  · contradiction

/-- There is a level unless it is absent. -/
lemma optionalRisk_ok {data : List (Text × Json)} {field label : Text} {value : Option RiskLevel}
    (h : optionalRisk data field label = .ok value) :
    value = none ↔ Json.lookup data field = none := by
  unfold optionalRisk at h
  split at h
  · rename_i hlookup
    obtain rfl := Except.ok.inj h
    simp [hlookup]
  · rename_i s hlookup
    split at h
    · obtain rfl := Except.ok.inj h
      simp [hlookup]
    · contradiction
  · contradiction

/-- There is a stage, and none is repeated. -/
lemma parseStages_ok {name : Text} {value : Option Json} {stages : List ReviewStage}
    (h : parseStages name value = .ok stages) : stages ≠ [] ∧ stages.Nodup := by
  unfold parseStages at h
  split at h
  · split at h
    · contradiction
    · rename_i stages' hstages
      obtain ⟨_, hnodup, h⟩ := parse_bind_eq_ok.1 h
      obtain rfl := Except.ok.inj h
      refine ⟨?_, demand_eq_ok.1 hnodup⟩
      rintro rfl
      simpa using length_eq_of_mapM hstages
  · contradiction

/-- The capabilities are allowed and distinct. -/
lemma parseCapabilities_ok {name : Text} {value : Json} {capabilities : List Text}
    (h : parseCapabilities name value = .ok capabilities) : (∀ c ∈ capabilities, c ≠ []) ∧
      capabilities ≠ [] ∧ capabilities.Nodup ∧ ∀ c ∈ capabilities,
        c ∈ allowedReviewerCapabilities := by
  unfold parseCapabilities at h
  split at h
  · split at h
    · contradiction
    · rename_i values hvalues
      obtain ⟨_, hnodup, h⟩ := parse_bind_eq_ok.1 h
      obtain ⟨_, hallowed, h⟩ := parse_bind_eq_ok.1 h
      obtain rfl := Except.ok.inj h
      refine ⟨ne_nil_of_nonEmptyStrings hvalues, ?_, demand_eq_ok.1 hnodup, demand_eq_ok.1 hallowed⟩
      rintro rfl
      simpa using length_eq_of_nonEmptyStrings hvalues
  · contradiction

/-- The pattern of the parser admits inert identifiers only. -/
lemma isInertToolIdentifier_of_matches {tool : Text} (h : matchesToolIdentifierPattern tool =
    true) :
    isInertToolIdentifier tool = true := by
  unfold matchesToolIdentifierPattern at h
  split at h
  · rename_i c cs hprefix
    rw [Bool.and_eq_true, List.all_eq_true] at h
    obtain ⟨hletter, hchars⟩ := h
    have htool : tool = inertReviewerTool ++ c :: cs := Text.isPrefixOf?_eq_some_iff.1 hprefix
    have hinert : ∀ x ∈ inertReviewerTool, isToolChar x = true := by
      simp [inertReviewerTool, Text.ofString_eq, isToolChar, isToolLetter]
    simp only [isInertToolIdentifier, Bool.and_eq_true, decide_eq_true_eq, List.all_eq_true]
    refine ⟨⟨?_, ?_⟩, ?_⟩
    · rw [htool]
      exact Text.startsWith_iff.2 (List.prefix_append _ _)
    · rw [htool, List.drop_left]
      simp
    · intro x hx
      rw [htool] at hx
      rcases List.mem_append.1 hx with hx | hx
      · exact hinert x hx
      · rcases List.mem_cons.1 hx with rfl | hx
        · simp [isToolChar, hletter]
        · exact hchars x hx
  · contradiction

/-- The tools are inert and distinct. -/
lemma parseTools_ok {name : Text} {value : Json} {tools : List Text}
    (h : parseTools name value = .ok tools) : (∀ t ∈ tools, t ≠ []) ∧ tools.Nodup ∧
      ∀ t ∈ tools, isInertToolIdentifier t = true := by
  unfold parseTools at h
  split at h
  · obtain rfl := Except.ok.inj h
    simp
  · split at h
    · contradiction
    · rename_i values hvalues
      obtain ⟨_, hnodup, h⟩ := parse_bind_eq_ok.1 h
      obtain ⟨_, hpattern, h⟩ := parse_bind_eq_ok.1 h
      obtain rfl := Except.ok.inj h
      exact ⟨ne_nil_of_nonEmptyStrings hvalues, demand_eq_ok.1 hnodup, fun t ht =>
        isInertToolIdentifier_of_matches (demand_eq_ok.1 hpattern t ht)⟩
  · contradiction

/-- The verdict power is allowed. -/
lemma parseVerdictPower_ok {name : Text} {agent : List (Text × Json)} {power : Text}
    (h : parseVerdictPower name agent = .ok power) : power ∈ allowedReviewerVerdictPowers := by
  unfold parseVerdictPower at h
  split at h
  · split at h
    · rename_i hmem
      obtain rfl := Except.ok.inj h
      exact hmem
    · contradiction
  · contradiction

/-- The context is empty exactly if it is given so. -/
lemma parseContext_ok {name : Text} {agent : List (Text × Json)} {context : Option Text}
    (h : parseContext name agent = .ok context) :
    context = some [] ↔ Json.lookup agent "context" = some (.str []) := by
  unfold parseContext at h
  cases hlookup : Json.lookup agent "context" with
  | none =>
    rw [hlookup] at h
    obtain rfl := Except.ok.inj h
    simp
  | some value =>
    rw [hlookup, Option.getD_some] at h
    split at h
    · obtain rfl := Except.ok.inj h
      simp
    · obtain rfl := Except.ok.inj h
      simp
    · contradiction

/-! ## Where an error escapes -/

/-- An absent list is empty. -/
lemma optionalListOfStr_of_lookup {data : List (Text × Json)} {field : Text} (label : Text)
    (h : Json.lookup data field = none) : optionalListOfStr data field label = .ok [] := by
  unfold optionalListOfStr
  rw [h]

/-- An absent number is none. -/
lemma optionalPositiveInt_of_lookup {data : List (Text × Json)} {field : Text} (label : Text)
    (h : Json.lookup data field = none) : optionalPositiveInt data field label = .ok none := by
  unfold optionalPositiveInt
  rw [h]

/-- An absent level is none. -/
lemma optionalRisk_of_lookup {data : List (Text × Json)} {field : Text} (label : Text)
    (h : Json.lookup data field = none) : optionalRisk data field label = .ok none := by
  unfold optionalRisk
  rw [h]

/-- The triggers are an object whose only field is `always`, which is false. -/
def IsInertTriggers (value : Option Json) : Prop :=
  ∃ fields, value = some (.obj fields) ∧ (∀ f ∈ fields, f.1 = "always") ∧
    Json.lookup fields "always" = some (.bool false)

/-- Triggers that only have `always` lack the other fields. -/
lemma lookup_eq_none_of_always {fields : List (Text × Json)} (h : ∀ f ∈ fields, f.1 = "always")
    {key : Text} (hkey : key ≠ "always") : Json.lookup fields key = none := by
  rw [lookup_eq_none_iff]
  intro f hf heq
  exact hkey (heq.symm.trans (h f hf))

/-- Triggers without the other fields only have `always`. -/
lemma always_of_lookups {fields : List (Text × Json)}
    (hallowed : ∀ f ∈ fields, f.1 ∈ allowedTriggerFields)
    (h : ∀ key ∈ allowedTriggerFields, key ≠ "always" → Json.lookup fields key = none) :
    ∀ f ∈ fields, f.1 = "always" := by
  intro f hf
  by_contra hne
  exact lookup_eq_none_iff.1 (h f.1 (hallowed f hf) hne) f hf rfl

/-- The constructor of triggers rejects what the parser has read exactly if there is no selector. -/
lemma postInit_triggers_iff {t : ReviewerTriggers} (hpaths : ∀ s ∈ t.paths, s ≠ [])
    (hlabels : ∀ s ∈ t.labels, s ≠ []) (hdiff : ∀ s ∈ t.diffPatterns, s ≠ [])
    (hconversation : ∀ s ∈ t.conversationPatterns, s ≠ []) (hfiles : ∀ n ∈ t.maxFiles, 0 < n)
    (hlines : ∀ n ∈ t.changedLinesMin, 0 < n) (hmin : ∀ n ∈ t.changedFilesMin, 0 < n) :
    Record.postInit t ≠ .ok () ↔ t.always = false ∧ t.paths = [] ∧ t.labels = [] ∧
      t.diffPatterns = [] ∧ t.conversationPatterns = [] ∧ t.riskMin = none ∧ t.maxFiles = none ∧
      t.changedLinesMin = none ∧ t.changedFilesMin = none := by
  have hpost : Record.postInit t = .ok () ↔ (t.always = true ∨ t.paths ≠ [] ∨ t.labels ≠ [] ∨
      t.diffPatterns ≠ [] ∨ t.conversationPatterns ≠ [] ∨ t.riskMin ≠ none ∨ t.maxFiles ≠ none ∨
      t.changedLinesMin ≠ none ∨ t.changedFilesMin ≠ none) := by
    simp only [Record.postInit, check_bind_eq_ok, require_eq_ok, requireStringTuple_eq_ok]
    constructor
    · intro h
      exact h.2.2.2.2.2.2.2
    · intro h
      exact ⟨⟨hpaths, .inl trivial⟩, ⟨hlabels, .inl trivial⟩, ⟨hdiff, .inl trivial⟩,
        ⟨hconversation, .inl trivial⟩,
        hfiles, hlines, hmin, h⟩
  rw [ne_eq, hpost]
  simp only [not_or, not_not, ne_eq, Bool.not_eq_true]

/-- An error escapes from `_parse_triggers` exactly for triggers that can never fire. -/
lemma escapes_parseTriggers {name : Text} {value : Option Json} :
    Escapes (parseTriggers name value) ↔ IsInertTriggers value := by
  unfold parseTriggers
  split
  · rename_i field fields
    rw [escapes_demand_bind, unknownFields_eq_nil]
    have hinert : IsInertTriggers (some (.obj (field :: fields))) ↔
        (∀ f ∈ field :: fields, f.1 = "always") ∧
          Json.lookup (field :: fields) "always" = some (.bool false) := by
      constructor
      · rintro ⟨_, heq, h⟩
        obtain rfl := Json.obj.inj (Option.some.inj heq)
        exact h
      · intro h
        exact ⟨_, rfl, h⟩
    rw [hinert]
    generalize hvalue : field :: fields = value
    have hne : value ≠ [] := hvalue ▸ List.cons_ne_nil field fields
    split
    · rename_i always halways
      simp only [escapes_bind_of_not, not_escapes_optionalListOfStr, not_escapes_optionalRisk,
        not_escapes_optionalPositiveInt, not_false_eq_true, escapes_build]
      constructor
      · rintro ⟨hallowed, paths, hpaths, labels, hlabels, diffPatterns, hdiff, conversationPatterns,
          hconversation, riskMin, hrisk, maxFiles, hfiles, changedLinesMin, hlines, changedFilesMin,
          hmin, hpost⟩
        have hpaths' := optionalListOfStr_ok hpaths
        have hlabels' := optionalListOfStr_ok hlabels
        have hdiff' := optionalListOfStr_ok hdiff
        have hconversation' := optionalListOfStr_ok hconversation
        have hfiles' := optionalPositiveInt_ok hfiles
        have hlines' := optionalPositiveInt_ok hlines
        have hmin' := optionalPositiveInt_ok hmin
        rw [postInit_triggers_iff hpaths'.1 hlabels'.1 hdiff'.1 hconversation'.1 hfiles'.1 hlines'.1
          hmin'.1] at hpost
        obtain ⟨hfalse, h₁, h₂, h₃, h₄, h₅, h₆, h₇, h₈⟩ := hpost
        have honly : ∀ f ∈ value, f.1 = "always" := by
          refine always_of_lookups hallowed fun key hkey hother => ?_
          have hcases : key = "always" ∨ key = "changed_files_min" ∨ key = "changed_lines_min" ∨
              key = "conversation_patterns" ∨ key = "diff_patterns" ∨ key = "labels" ∨
              key = "max_files" ∨ key = "paths" ∨ key = "risk_min" := by
            simpa [allowedTriggerFields] using hkey
          rcases hcases with rfl | rfl | rfl | rfl | rfl | rfl | rfl | rfl | rfl
          · contradiction
          · exact hmin'.2.1 h₈
          · exact hlines'.2.1 h₇
          · exact hconversation'.2.1 h₄
          · exact hdiff'.2.1 h₃
          · exact hlabels'.2.1 h₂
          · exact hfiles'.2.1 h₆
          · exact hpaths'.2.1 h₁
          · exact (optionalRisk_ok hrisk).1 h₅
        refine ⟨honly, ?_⟩
        -- some field is present, and every field is `always`
        cases hlookup : Json.lookup value "always" with
        | none =>
          obtain ⟨f, hf⟩ := List.exists_mem_of_ne_nil value hne
          exact absurd (honly f hf) (lookup_eq_none_iff.1 hlookup f hf)
        | some j =>
          rw [hlookup, Option.getD_some] at halways
          obtain rfl : always = false := hfalse
          rw [halways]
      · rintro ⟨honly, hlookup⟩
        have hnone : ∀ key ≠ ("always" : Text), Json.lookup value key = none :=
          fun key hkey => lookup_eq_none_of_always honly hkey
        rw [hlookup, Option.getD_some] at halways
        obtain rfl : false = always := Json.bool.inj halways
        refine ⟨?_, [], optionalListOfStr_of_lookup _ (hnone _ (by simp [Text.ofString_eq])),
          [], optionalListOfStr_of_lookup _ (hnone _ (by simp [Text.ofString_eq])),
          [], optionalListOfStr_of_lookup _ (hnone _ (by simp [Text.ofString_eq])),
          [], optionalListOfStr_of_lookup _ (hnone _ (by simp [Text.ofString_eq])),
          none, optionalRisk_of_lookup _ (hnone _ (by simp [Text.ofString_eq])),
          none, optionalPositiveInt_of_lookup _ (hnone _ (by simp [Text.ofString_eq])),
          none, optionalPositiveInt_of_lookup _ (hnone _ (by simp [Text.ofString_eq])),
          none, optionalPositiveInt_of_lookup _ (hnone _ (by simp [Text.ofString_eq])), ?_⟩
        · intro f hf
          rw [honly f hf]
          simp [allowedTriggerFields]
        · rw [postInit_triggers_iff (by simp) (by simp) (by simp) (by simp) (by simp) (by simp)
            (by simp)]
          exact ⟨rfl, rfl, rfl, rfl, rfl, rfl, rfl, rfl, rfl⟩
    · rename_i hother
      refine iff_of_false (fun h => not_escapes_own _ h.2) ?_
      rintro ⟨-, hlookup⟩
      exact hother false (by rw [hlookup, Option.getD_some])
  · rename_i hother
    refine iff_of_false (not_escapes_own _) ?_
    rintro ⟨fields, rfl, -, hlookup⟩
    cases fields with
    | nil => contradiction
    | cons field fields => exact hother field fields rfl

/-- An agent whose description and stages are well formed, and whose triggers can never fire, or the
rest of whose fields is well formed save for an empty context. -/
def AgentEscapes (name : Text) (agent : List (Text × Json)) : Prop :=
  unknownFields agent agentFields = [] ∧ Reads (optionalStr agent "description" name) ∧
    Reads (parseStages name (Json.lookup agent "stages")) ∧
    (IsInertTriggers (Json.lookup agent "triggers") ∨
      Reads (parseTriggers name (Json.lookup agent "triggers")) ∧ Reads (parseRequired name agent) ∧
        Reads (parseVerdictPower name agent) ∧
        Reads (parseCapabilities name
          ((Json.lookup agent "capabilities").getD (.arr [.str "diff_context"]))) ∧
        Reads (optionalStr agent "model" name) ∧
        Reads (parseTools name ((Json.lookup agent "tools").getD (.arr []))) ∧
        Json.lookup agent "context" = some (.str []))

/-- The constructor of an agent rejects what the parser has read exactly if the context is empty. -/
lemma postInit_agent_iff {a : ReviewerAgentConfig} (hname : a.name ≠ [])
    (hdescription : ∀ s ∈ a.description, s ≠ []) (hmodel : ∀ s ∈ a.model, s ≠ [])
    (htools : (∀ t ∈ a.tools, t ≠ []) ∧ a.tools.Nodup ∧
      ∀ t ∈ a.tools, isInertToolIdentifier t = true)
    (hstages : a.stages ≠ [] ∧ a.stages.Nodup)
    (hpower : a.verdictPower ∈ allowedReviewerVerdictPowers)
    (hcapabilities : (∀ c ∈ a.capabilities, c ≠ []) ∧ a.capabilities ≠ [] ∧ a.capabilities.Nodup ∧
      ∀ c ∈ a.capabilities, c ∈ allowedReviewerCapabilities) :
    Record.postInit a ≠ .ok () ↔ a.context = some [] := by
  have hpost : Record.postInit a = .ok () ↔ a.context ≠ some [] := by
    simp only [Record.postInit, check_bind_eq_ok, require_eq_ok, requireStringTuple_eq_ok,
      requireNonEmpty_eq_ok, requireOptionalNonEmpty_eq_ok]
    constructor
    · intro h
      exact h.2.2.2.1
    · intro h
      exact ⟨hname, fun heq => hdescription [] heq rfl, fun heq => hmodel [] heq rfl, h,
        ⟨htools.1, .inl trivial⟩, htools.2.1, htools.2.2, hstages.1, hstages.2, hpower,
        ⟨hcapabilities.1, .inr hcapabilities.2.1⟩, hcapabilities.2.2.1, hcapabilities.2.2.2⟩
  rw [ne_eq, hpost, not_not]

/-- An error escapes from `_parse_reviewer_agent` for inert triggers and for an empty context
only. -/
lemma escapes_parseReviewerAgent {name : Text} (hname : name ≠ []) {agent : List (Text × Json)} :
    Escapes (parseReviewerAgent name agent) ↔ AgentEscapes name agent := by
  unfold parseReviewerAgent AgentEscapes
  rw [escapes_demand_bind, escapes_bind_of_not (not_escapes_optionalStr _ _ _)]
  refine and_congr_right fun _ => ?_
  rw [Reads, ← exists_and_right]
  refine exists_congr fun description => and_congr_right fun hdescription => ?_
  rw [escapes_bind_of_not (not_escapes_parseStages _ _), Reads, ← exists_and_right]
  refine exists_congr fun stages => and_congr_right fun hstages => ?_
  rw [escapes_bind, escapes_parseTriggers]
  refine or_congr_right ?_
  simp only [Reads, ← exists_and_right]
  refine exists_congr fun triggers => and_congr_right fun htriggers => ?_
  rw [escapes_bind_of_not (not_escapes_parseRequired _ _)]
  refine exists_congr fun required => and_congr_right fun hrequired => ?_
  rw [escapes_bind_of_not (not_escapes_parseVerdictPower _ _)]
  refine exists_congr fun power => and_congr_right fun hpower => ?_
  rw [escapes_bind_of_not (not_escapes_parseCapabilities _ _)]
  refine exists_congr fun capabilities => and_congr_right fun hcapabilities => ?_
  rw [escapes_bind_of_not (not_escapes_optionalStr _ _ _)]
  refine exists_congr fun model => and_congr_right fun hmodel => ?_
  rw [escapes_bind_of_not (not_escapes_parseTools _ _)]
  refine exists_congr fun tools => and_congr_right fun htools => ?_
  rw [escapes_bind_of_not (not_escapes_parseContext _ _)]
  simp only [escapes_build]
  constructor
  · rintro ⟨context, hcontext, hpost⟩
    rw [postInit_agent_iff hname (optionalStr_ok hdescription) (optionalStr_ok hmodel)
      (parseTools_ok htools) (parseStages_ok hstages) (parseVerdictPower_ok hpower)
      (parseCapabilities_ok hcapabilities)] at hpost
    exact (parseContext_ok hcontext).1 hpost
  · intro hlookup
    have hcontext : parseContext name agent = .ok (some []) := by
      unfold parseContext
      rw [hlookup, Option.getD_some]
    refine ⟨some [], hcontext, ?_⟩
    rw [postInit_agent_iff hname (optionalStr_ok hdescription) (optionalStr_ok hmodel)
      (parseTools_ok htools) (parseStages_ok hstages) (parseVerdictPower_ok hpower)
      (parseCapabilities_ok hcapabilities)]

/-- The agent that has been read has the name under which it stands. -/
lemma name_of_parseReviewerAgent {name : Text} {agent : List (Text × Json)}
    {parsed : Checked ReviewerAgentConfig} (h : parseReviewerAgent name agent = .ok parsed) :
    parsed.val.name = name := by
  unfold parseReviewerAgent at h
  simp only [parse_bind_eq_ok, build_eq_ok] at h
  obtain ⟨_, -, _, -, _, -, _, -, _, -, _, -, _, -, _, -, _, -, _, -, hparsed⟩ := h
  rw [hparsed]

/-- An agent has the name of its entry. -/
lemma parseAgentEntry_ok {entry : Text × Json} {parsed : Text × Checked ReviewerAgentConfig}
    (h : parseAgentEntry entry = .ok parsed) : parsed.1 ≠ [] ∧ parsed.2.val.name = parsed.1 := by
  unfold parseAgentEntry at h
  split at h
  · contradiction
  · rename_i hname
    split at h
    · obtain ⟨agent, hagent, h⟩ := parse_bind_eq_ok.1 h
      obtain rfl := Except.ok.inj h
      exact ⟨hname, name_of_parseReviewerAgent hagent⟩
    · contradiction

/-- An error escapes from an agent exactly if it escapes from its fields. -/
lemma escapes_parseAgentEntry {entry : Text × Json} : Escapes (parseAgentEntry entry) ↔
    entry.1 ≠ [] ∧ ∃ agent, entry.2 = .obj agent ∧ AgentEscapes entry.1 agent := by
  unfold parseAgentEntry
  split
  · rename_i hname
    exact iff_of_false (not_escapes_own _) fun h => h.1 hname
  · rename_i hname
    split
    · rename_i agent hagent
      rw [escapes_bind, escapes_parseReviewerAgent hname]
      simp only [hagent, Json.obj.injEq, exists_eq_left', ne_eq, hname, not_false_eq_true, true_and,
        not_escapes_pure, and_false, exists_false, or_false]
    · rename_i hother
      refine iff_of_false (not_escapes_own _) ?_
      rintro ⟨-, agent, hagent, -⟩
      exact hother agent hagent

/-- A limit raises no other error. -/
lemma not_escapes_parseLimit (field : Text) (raw : Json) : ¬ Escapes (parseLimit field raw) := by
  unfold parseLimit
  split
  · split <;> simp
  · simp

/-- A limit is positive, up to that of live calls. -/
lemma parseLimit_ok {field : Text} {raw : Json} {limit : ℕ} (h : parseLimit field raw = .ok limit)
    (hfield : field ≠ "max_live_calls") : 0 < limit := by
  unfold parseLimit at h
  split at h
  · split at h
    · rename_i n hlimit
      obtain rfl := Except.ok.inj h
      rcases hlimit with hpos | ⟨-, heq⟩
      · omega
      · exact absurd heq hfield
    · contradiction
  · contradiction

/-- A limit that is given or the default is positive. -/
lemma limitOf_pos {limits : List (Text × ℕ)} {field : Text} {default : ℕ}
    (h : ∀ limit ∈ limits, limit.1 = field → 0 < limit.2) (hdefault : 0 < default) :
    0 < limitOf limits field default := by
  unfold limitOf
  cases hfind : limits.find? fun limit => limit.1 = field with
  | none => exact hdefault
  | some limit =>
    have hname : limit.1 = field := by simpa using List.find?_some hfind
    exact h limit (List.mem_of_find?_eq_some hfind) hname

/-- The constructor of the context budget accepts what the parser has read. -/
lemma not_escapes_optionalContextBudget (data : List (Text × Json)) :
    ¬ Escapes (optionalContextBudget data) := by
  unfold optionalContextBudget
  split
  · simp
  · refine not_escapes_bind (not_escapes_demand _ _) fun _ _ => ?_
    refine not_escapes_bind ?_ fun limits hlimits => ?_
    · refine not_escapes_mapM fun entry _ => ?_
      exact not_escapes_bind (not_escapes_parseLimit _ _) fun _ _ => not_escapes_pure _
    · refine not_escapes_bind ?_ fun _ _ => not_escapes_pure _
      have hpositive : ∀ limit ∈ limits, limit.1 ≠ "max_live_calls" → 0 < limit.2 := by
        intro limit hlimit hne
        obtain ⟨entry, -, hentry⟩ := List.Forall₂.exists_of_mem_right (mapM_eq_ok.1 hlimits) hlimit
        obtain ⟨n, hn, hpure⟩ := parse_bind_eq_ok.1 hentry
        obtain rfl := Except.ok.inj hpure
        exact parseLimit_ok hn hne
      have hlimit : ∀ (field : Text) (default : ℕ), field ≠ "max_live_calls" → 0 < default →
          0 < limitOf limits field default := by
        intro field default hfield hdefault
        refine limitOf_pos (fun limit hlimit heq => ?_) hdefault
        exact hpositive limit hlimit (heq ▸ hfield)
      rw [escapes_build, not_ne_iff, ContextBudget.postInit_eq_ok]
      exact ⟨hlimit _ 50 (by simp [Text.ofString_eq]) (by decide),
        hlimit _ 200000 (by simp [Text.ofString_eq]) (by decide),
        hlimit _ 100000 (by simp [Text.ofString_eq]) (by decide),
        hlimit _ 20 (by simp [Text.ofString_eq]) (by decide), by simp⟩
  · simp

/-- The constructor of the settings of live calls accepts what the parser has read. -/
lemma not_escapes_optionalLiveLlmConfig (data : List (Text × Json)) :
    ¬ Escapes (optionalLiveLlmConfig data) := by
  unfold optionalLiveLlmConfig
  split
  · simp
  · refine not_escapes_bind (not_escapes_demand _ _) fun _ _ => ?_
    refine not_escapes_bind (not_escapes_optionalStr _ _ _) fun provider hprovider => ?_
    refine not_escapes_bind (not_escapes_optionalStr _ _ _) fun model hmodel => ?_
    refine not_escapes_bind (not_escapes_optionalPositiveInt _ _ _) fun attempts hattempts => ?_
    refine not_escapes_bind (not_escapes_optionalPositiveInt _ _ _) fun timeout htimeout => ?_
    refine not_escapes_bind (not_escapes_optionalPositiveInt _ _ _) fun total htotal => ?_
    refine not_escapes_bind (not_escapes_optionalNonNegativeInt _ _ _) fun calls _ => ?_
    refine not_escapes_bind ?_ fun _ _ => not_escapes_pure _
    have hpositive : ∀ (value : Option ℕ) (default : ℕ), (∀ n ∈ value, 0 < n) → 0 < default →
        0 < value.getD default := by
      intro value default hvalue hdefault
      cases value with
      | none => exact hdefault
      | some n => exact hvalue n rfl
    rw [escapes_build, not_ne_iff]
    simp only [Record.postInit, check_bind_eq_ok, requireOptionalNonEmpty_eq_ok, requirePositive,
      require_eq_ok]
    exact ⟨fun heq => optionalStr_ok hprovider [] heq rfl, fun heq =>
      optionalStr_ok hmodel [] heq rfl,
      hpositive _ 2 (optionalPositiveInt_ok hattempts).1 (by decide),
      hpositive _ 30 (optionalPositiveInt_ok htimeout).1 (by decide),
      hpositive _ 120 (optionalPositiveInt_ok htotal).1 (by decide)⟩
  · simp

/-- The first agent from which an error escapes, after agents that are well formed. -/
def ConfigEscapes (data : List (Text × Json)) : Prop :=
  unknownFields data reviewerConfigFields = [] ∧ ∃ before name agent after,
    Json.lookup data "agents" = some (.obj (before ++ (name, .obj agent) :: after)) ∧
    (∀ entry ∈ before, Reads (parseAgentEntry entry)) ∧ name ≠ [] ∧ AgentEscapes name agent

/-- An error escapes from `parse_reviewer_config` exactly at such an agent. -/
theorem escapes_parseReviewerConfig {data : List (Text × Json)} :
    Escapes (parseReviewerConfig data) ↔ ConfigEscapes data := by
  unfold parseReviewerConfig ConfigEscapes
  rw [escapes_demand_bind]
  refine and_congr_right fun _ => ?_
  split
  · rename_i entry entries hagents
    have hrest : ∀ agents, (entry :: entries).mapM parseAgentEntry = .ok agents →
        ¬ Escapes (do
          let trustedOperatorAuthors ←
            optionalUniqueListOfStr data "trusted_operator_authors" "reviewer config"
          let trustedBotAuthors ← optionalUniqueListOfStr data "trusted_bot_authors"
            "reviewer config"
          let contextBudget ← optionalContextBudget data
          let liveLlm ← optionalLiveLlmConfig data
          build {
            agents := agents
            trustedOperatorAuthors := trustedOperatorAuthors
            trustedBotAuthors := trustedBotAuthors
            contextBudget := contextBudget
            liveLlm := liveLlm : ReviewConfig }) := by
      intro agents hparsed
      refine not_escapes_bind (not_escapes_optionalUniqueListOfStr _ _ _)
        fun operators hoperators => ?_
      refine not_escapes_bind (not_escapes_optionalUniqueListOfStr _ _ _) fun bots hbots => ?_
      refine not_escapes_bind (not_escapes_optionalContextBudget _) fun _ _ => ?_
      refine not_escapes_bind (not_escapes_optionalLiveLlmConfig _) fun _ _ => ?_
      have hentries : ∀ parsed ∈ agents, parsed.1 ≠ [] ∧ parsed.2.val.name = parsed.1 := by
        intro parsed hmem
        obtain ⟨raw, -, hraw⟩ := List.Forall₂.exists_of_mem_right (mapM_eq_ok.1 hparsed) hmem
        exact parseAgentEntry_ok hraw
      rw [escapes_build, not_ne_iff]
      simp only [Record.postInit, check_bind_eq_ok, require_eq_ok, requireStringTuple_eq_ok]
      exact ⟨fun p hp => (hentries p hp).1, fun p hp => (hentries p hp).2,
        ⟨(optionalUniqueListOfStr_ok hoperators).1, .inl trivial⟩,
        ⟨(optionalUniqueListOfStr_ok hbots).1, .inl trivial⟩,
        (optionalUniqueListOfStr_ok hoperators).2, (optionalUniqueListOfStr_ok hbots).2⟩
    rw [escapes_bind, or_iff_left (not_exists.2 fun agents => not_and.2 (hrest agents)),
      escapes_mapM]
    constructor
    · rintro ⟨before, ⟨name, value⟩, after, heq, hbefore, hescapes⟩
      obtain ⟨hname, agent, hvalue, hagent⟩ := escapes_parseAgentEntry.1 hescapes
      obtain rfl : value = .obj agent := hvalue
      exact ⟨before, name, agent, after, by rw [hagents, heq], hbefore, hname, hagent⟩
    · rintro ⟨before, name, agent, after, hlookup, hbefore, hname, hagent⟩
      have heq := Json.obj.inj (Option.some.inj (hagents.symm.trans hlookup))
      exact ⟨before, (name, .obj agent), after, heq, hbefore,
        escapes_parseAgentEntry.2 ⟨hname, agent, rfl, hagent⟩⟩
  · rename_i hother
    refine iff_of_false (not_escapes_own _) ?_
    rintro ⟨before, name, agent, after, hlookup, -⟩
    cases before with
    | nil => exact hother _ _ hlookup
    | cons entry before => exact hother _ _ hlookup

end ReviewGraph.Config
