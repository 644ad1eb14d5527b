import ReviewGraph.Foundation.Infixes
import ReviewGraph.Routing

/-!
# The risk of a change

`risk.py` classifies a change by the number of its files and lines, by words in its patches, labels
and paths, and by the surfaces it touches.  Each of the four can only raise the level, and none of
them depends on the order of the files.
-/

namespace ReviewGraph

/-! ## Records -/

/-- `RiskThresholds`. -/
structure RiskThresholds where
  changedFilesMedium : ℤ
  changedFilesHigh : ℤ
  changedLinesMedium : ℤ
  changedLinesHigh : ℤ
  riskMin : Option RiskLevel := none

/-- `_require_positive_int`. -/
def requirePositiveInt (value : ℤ) (fieldName : Text) : Result Unit :=
  require (0 < value) (fieldName ++ " must be a positive integer")

instance : Record RiskThresholds where
  postInit t := do
    requirePositiveInt t.changedFilesMedium "changed_files_medium"
    requirePositiveInt t.changedFilesHigh "changed_files_high"
    requirePositiveInt t.changedLinesMedium "changed_lines_medium"
    requirePositiveInt t.changedLinesHigh "changed_lines_high"
    require (t.changedFilesMedium < t.changedFilesHigh)
      "changed_files_high must be greater than changed_files_medium"
    require (t.changedLinesMedium < t.changedLinesHigh)
      "changed_lines_high must be greater than changed_lines_medium"

/-- `DEFAULT_RISK_THRESHOLDS`. -/
def defaultRiskThresholds : Checked RiskThresholds := ⟨⟨3, 10, 50, 500, none⟩, by decide +kernel⟩

/-- `RiskAssessment` with all of its fields. -/
structure ChangeRiskAssessment where
  changedFileCount : ℕ
  changedLineCount : ℕ
  touchedSurfaces : List Text
  labels : List Text
  diffPatternHints : List Text
  configuredThresholds : Checked RiskThresholds
  riskLevel : RiskLevel
  reasons : List Text

instance : Record ChangeRiskAssessment where
  postInit a := do
    requireStringTuple a.touchedSurfaces "touched_surfaces" true
    requireStringTuple a.labels "labels" true
    requireStringTuple a.diffPatternHints "diff_pattern_hints" true
    requireStringTuple a.reasons "reasons" false

/-! ## Surfaces -/

/-- `sorted` of a set of texts, given by its elements. -/
def sortedSet (elements : List Text) : List Text := elements.dedup.insertionSort (· ≤ ·)

/-- `_SURFACE_PATH_PREFIXES`. -/
def surfacePathPrefixes : List (Text × Text) :=
  [("docs/", "docs"), ("src/api/", "api"), ("src/auth/", "auth"), ("src/cache", "cache"),
    ("src/frontend/", "frontend"), ("src/settings/", "settings")]

/-- `_SURFACE_LABELS`. -/
def surfaceLabels : List (Text × Text) :=
  [("api", "api"), ("backend", "backend"), ("docs", "docs"), ("frontend", "frontend"),
    ("large-pr", "large-pr"), ("security", "security")]

/-- The surfaces of a changed file. -/
def fileSurfaces (file : PullRequestChangedFile) : List Text :=
  let path := file.path.casefold
  let matched := surfacePathPrefixes.filter fun entry => entry.1.isPrefixOf path
  if matched = [] then [path.takeWhile (· ≠ '/')] else matched.map Prod.snd

/-- `_touched_surfaces`. -/
def touchedSurfaces (pr : PullRequestContext) : List Text :=
  let labels := pr.labels.map Text.casefold
  sortedSet ((pr.changedFiles.flatMap fun file => fileSurfaces file.val) ++
    (surfaceLabels.filter fun entry => entry.1 ∈ labels).map Prod.snd)

/-! ## Hints -/

/-- `_DIFF_HINT_PATTERNS`. -/
def diffHintPatterns : List (Text × List Text) :=
  [("auth", ["auth", "permission", "unauthorized"]),
    ("billing", ["billing", "checkout", "calculate_total", "total("]),
    ("migration", ["migration", "migrate"]),
    ("product_intent", ["product intent", "semantics", "behavior"]),
    ("secret", ["api_key", "password", "secret", "token="]),
    ("truncated_patch", [])]

/-- The text in which the patterns are searched. -/
def hintCorpus (pr : PullRequestContext) : Text :=
  let patches := (Text.unlines (pr.changedFiles.map fun file => file.val.patch.getD [])).casefold
  let labels := Text.casefold ([' '].intercalate pr.labels)
  let paths := (Text.unlines (pr.changedFiles.map fun file => file.val.path)).casefold
  Text.unlines [patches, labels, paths]

/-- `_diff_pattern_hints`. -/
def diffPatternHints (pr : PullRequestContext) : List Text :=
  let corpus := hintCorpus pr
  sortedSet ((diffHintPatterns.filter fun entry =>
    if entry.1 = ("truncated_patch" : Text) then
      pr.changedFiles.any fun file => file.val.patch = none || file.val.patchStatus ≠ "available"
    else entry.2.any fun pattern => corpus.contains pattern).map Prod.fst)

/-! ## The level -/

/-- `_max_risk`. -/
def maxRisk (left right : RiskLevel) : RiskLevel :=
  if riskRank right ≤ riskRank left then left else right

/-- The hints of a high risk. -/
def highHints : List Text := ["auth", "secret", "truncated_patch"]

/-- The hints of a medium risk. -/
def mediumHints : List Text := ["billing", "migration", "product_intent"]

/-- A level with the reasons for it. -/
abbrev LevelReasons : Type := RiskLevel × List Text

/-- The level and the reasons behind a count and its thresholds. -/
def countRisk (name : Text) (count : ℕ) (medium high : ℤ) (acc : LevelReasons) : LevelReasons :=
  if high ≤ count then (.high, acc.2 ++ [name ++ (">=" : Text) ++ Text.ofInt high])
  else if medium ≤ count then
    (maxRisk acc.1 .medium, acc.2 ++ [name ++ (">=" : Text) ++ Text.ofInt medium])
  else acc

/-- The level and the reasons behind the hints. -/
def hintRisk (hints : List Text) (acc : LevelReasons) : LevelReasons :=
  let matchedHighHints := hints.filter (· ∈ highHints)
  let matchedMediumHints := hints.filter (· ∈ mediumHints)
  let acc : LevelReasons :=
    if matchedHighHints ≠ [] then
      (.high, acc.2 ++ [("diff_hints_high=" : Text) ++ [','].intercalate matchedHighHints])
    else acc
  if matchedMediumHints ≠ [] ∧ acc.1 ≠ .high then
    (maxRisk acc.1 .medium, acc.2 ++ [("diff_hints_medium=" : Text) ++ [','].intercalate
      matchedMediumHints])
  else acc

/-- The level and the reasons behind the surfaces. -/
def surfaceRisk (surfaces : List Text) (acc : LevelReasons) : LevelReasons :=
  if 2 ≤ surfaces.length ∧ acc.1 ≠ .high then
    (maxRisk acc.1 .medium, acc.2 ++ [("touched_surfaces>=2" : Text)])
  else acc

/-- `_risk_level_and_reasons`. -/
def riskLevelAndReasons (changedFileCount changedLineCount : ℕ) (surfaces hints : List Text)
    (thresholds : RiskThresholds) : LevelReasons :=
  let acc : LevelReasons := (.low, [])
  let acc := countRisk "changed_files" changedFileCount thresholds.changedFilesMedium
    thresholds.changedFilesHigh acc
  let acc := countRisk "changed_lines" changedLineCount thresholds.changedLinesMedium
    thresholds.changedLinesHigh acc
  let acc := hintRisk hints acc
  let acc := surfaceRisk surfaces acc
  if acc.2 = [] then (acc.1, ["within_low_risk_thresholds"]) else acc

/-- `classify_change_risk`. -/
def classifyChangeRisk (pr : PullRequestContext) (thresholds : Checked RiskThresholds) :
    Result (Checked ChangeRiskAssessment) :=
  let lines := changedLineCount pr
  let surfaces := touchedSurfaces pr
  let hints := diffPatternHints pr
  let (level, reasons) :=
    riskLevelAndReasons pr.changedFiles.length lines surfaces hints thresholds.val
  construct {
    changedFileCount := pr.changedFiles.length
    changedLineCount := lines
    touchedSurfaces := surfaces
    labels := pr.labels.insertionSort fun a b => a.casefold ≤ b.casefold
    diffPatternHints := hints
    configuredThresholds := thresholds
    riskLevel := level
    reasons := reasons }

/-! ## Texts that are joined -/

/-- The lines are folded one by one. -/
lemma casefold_unlines (lines : List Text) :
    (Text.unlines lines).casefold = Text.unlines (lines.map Text.casefold) := by
  induction lines with
  | nil => rfl
  | cons first rest ih =>
    rcases rest with _ | ⟨second, rest⟩
    · simp [Text.unlines]
    · have hfold : (first ++ '\n' :: Text.unlines (second :: rest)).casefold =
          first.casefold ++ '\n' :: (Text.unlines (second :: rest)).casefold := by
        unfold Text.casefold
        rw [List.flatMap_append, List.flatMap_cons]
        rfl
      rw [Text.unlines_cons_cons, hfold, ih]
      exact (Text.unlines_cons_cons _ _ _).symm

/-! ## Sorted sets -/

/-- A sorted set has the elements of the list. -/
lemma mem_sortedSet {t : Text} {elements : List Text} : t ∈ sortedSet elements ↔ t ∈ elements := by
  unfold sortedSet
  rw [(List.perm_insertionSort _ _).mem_iff, List.mem_dedup]

/-- A larger list has a larger set. -/
lemma length_sortedSet_le {elements elements' : List Text} (h : elements ⊆ elements') :
    (sortedSet elements).length ≤ (sortedSet elements').length := by
  unfold sortedSet
  rw [(List.perm_insertionSort _ _).length_eq, (List.perm_insertionSort _ _).length_eq]
  refine ((List.nodup_dedup elements).subperm fun t ht => ?_).length_le
  exact List.mem_dedup.2 (h (List.mem_dedup.1 ht))

/-- A sorted set only depends on its elements. -/
lemma sortedSet_congr {elements elements' : List Text} (h : ∀ t, t ∈ elements ↔ t ∈ elements') :
    sortedSet elements = sortedSet elements' := by
  unfold sortedSet
  have hperm : elements.dedup.Perm elements'.dedup :=
    (List.perm_ext_iff_of_nodup (List.nodup_dedup _) (List.nodup_dedup _)).2 fun t => by
      rw [List.mem_dedup, List.mem_dedup, h]
  refine List.Perm.eq_of_pairwise' (List.pairwise_insertionSort _ _)
    (List.pairwise_insertionSort _ _) ?_
  exact (List.perm_insertionSort _ _).trans (hperm.trans (List.perm_insertionSort _ _).symm)

/-! ## What raises the level -/

/-- The rank that a count gives. -/
def countRank (count : ℕ) (medium high : ℤ) : ℕ :=
  if high ≤ count then 2 else if medium ≤ count then 1 else 0

/-- The rank that the hints give. -/
def hintRank (hints : List Text) : ℕ :=
  if ∃ h ∈ hints, h ∈ highHints then 2 else if ∃ h ∈ hints, h ∈ mediumHints then 1 else 0

/-- The rank that the surfaces give. -/
def surfaceRank (surfaces : List Text) : ℕ := if 2 ≤ surfaces.length then 1 else 0

/-- The larger of two levels has the larger rank. -/
lemma riskRank_maxRisk (left right : RiskLevel) :
    riskRank (maxRisk left right) = max (riskRank left) (riskRank right) := by
  cases left <;> cases right <;> rfl

/-- No level is above high risk. -/
lemma riskRank_le (level : RiskLevel) : riskRank level ≤ 2 := by cases level <;> decide

/-- A count raises the level to its own. -/
lemma riskRank_countRisk (name : Text) (count : ℕ) (medium high : ℤ) (acc : LevelReasons) :
    riskRank (countRisk name count medium high acc).1 =
      max (riskRank acc.1) (countRank count medium high) := by
  unfold countRisk countRank
  split
  · exact (max_eq_right (riskRank_le _)).symm
  · split
    · exact riskRank_maxRisk _ _
    · exact (max_eq_left (Nat.zero_le _)).symm

/-- Hints raise the level to their own. -/
lemma riskRank_hintRisk (hints : List Text) (acc : LevelReasons) :
    riskRank (hintRisk hints acc).1 = max (riskRank acc.1) (hintRank hints) := by
  have hfilter : ∀ names : List Text, hints.filter (· ∈ names) ≠ [] ↔ ∃ h ∈ hints, h ∈ names := by
    intro names
    simp [List.filter_eq_nil_iff]
  unfold hintRisk hintRank
  dsimp only
  simp only [hfilter]
  by_cases hhigh : ∃ h ∈ hints, h ∈ highHints
  · rw [if_pos hhigh, if_pos hhigh, if_neg (by simp)]
    exact (max_eq_right (riskRank_le _)).symm
  · rw [if_neg hhigh, if_neg hhigh]
    by_cases hmedium : ∃ h ∈ hints, h ∈ mediumHints
    · rw [if_pos hmedium]
      by_cases hlevel : acc.1 = .high
      · rw [if_neg (fun h => h.2 hlevel), hlevel]
        rfl
      · rw [if_pos ⟨hmedium, hlevel⟩]
        exact riskRank_maxRisk _ _
    · rw [if_neg (fun h => hmedium h.1), if_neg hmedium]
      exact (max_eq_left (Nat.zero_le _)).symm

/-- Surfaces raise the level to their own. -/
lemma riskRank_surfaceRisk (surfaces : List Text) (acc : LevelReasons) :
    riskRank (surfaceRisk surfaces acc).1 = max (riskRank acc.1) (surfaceRank surfaces) := by
  unfold surfaceRisk surfaceRank
  by_cases hlen : 2 ≤ surfaces.length
  · rw [if_pos hlen]
    by_cases hlevel : acc.1 = .high
    · rw [if_neg (fun h => h.2 hlevel), hlevel]
      rfl
    · rw [if_pos ⟨hlen, hlevel⟩]
      exact riskRank_maxRisk _ _
  · rw [if_neg (fun h => hlen h.1), if_neg hlen]
    exact (max_eq_left (Nat.zero_le _)).symm

/-- The rank of the level is the highest one that the counts, the hints and the surfaces give. -/
lemma riskRank_riskLevelAndReasons (files lines : ℕ) (surfaces hints : List Text)
    (thresholds : RiskThresholds) :
    riskRank (riskLevelAndReasons files lines surfaces hints thresholds).1 =
      max (max (max (countRank files thresholds.changedFilesMedium thresholds.changedFilesHigh)
        (countRank lines thresholds.changedLinesMedium thresholds.changedLinesHigh))
        (hintRank hints)) (surfaceRank surfaces) := by
  have hreasons : ∀ acc : LevelReasons,
      (if acc.2 = [] then ((acc.1, ["within_low_risk_thresholds"]) : LevelReasons) else acc).1 =
        acc.1 := fun acc => by split <;> rfl
  unfold riskLevelAndReasons
  dsimp only
  rw [hreasons, riskRank_surfaceRisk, riskRank_hintRisk, riskRank_countRisk, riskRank_countRisk]
  simp [riskRank]

/-- A larger count has no smaller level. -/
lemma countRank_mono {count count' : ℕ} (h : count ≤ count') (medium high : ℤ) :
    countRank count medium high ≤ countRank count' medium high := by
  unfold countRank
  split_ifs <;> omega

/-- More hints have no smaller level. -/
lemma hintRank_mono {hints hints' : List Text} (h : hints ⊆ hints') :
    hintRank hints ≤ hintRank hints' := by
  have hmono : ∀ names : List Text, (∃ t ∈ hints, t ∈ names) → ∃ t ∈ hints', t ∈ names :=
    fun names ⟨t, ht, hname⟩ => ⟨t, h ht, hname⟩
  unfold hintRank
  by_cases hhigh : ∃ t ∈ hints, t ∈ highHints
  · rw [if_pos hhigh, if_pos (hmono _ hhigh)]
  · rw [if_neg hhigh]
    by_cases hmedium : ∃ t ∈ hints, t ∈ mediumHints
    · rw [if_pos hmedium, if_pos (hmono _ hmedium)]
      split <;> omega
    · rw [if_neg hmedium]
      exact Nat.zero_le _

/-- More surfaces have no smaller level. -/
lemma surfaceRank_mono {surfaces surfaces' : List Text} (h : surfaces.length ≤ surfaces'.length) :
    surfaceRank surfaces ≤ surfaceRank surfaces' := by
  unfold surfaceRank
  split_ifs <;> omega

/-! ## The files of a change -/

/-- What the hints and the surfaces read of each file is that of a file of the other change. -/
def Covers (files files' : List (Checked PullRequestChangedFile)) : Prop :=
  ∀ file ∈ files, ∃ file' ∈ files', file'.val.path = file.val.path ∧
    file'.val.patch = file.val.patch ∧ file'.val.patchStatus = file.val.patchStatus

/-- The patterns are texts of a line. -/
lemma pattern_of_mem {entry : Text × List Text} (h : entry ∈ diffHintPatterns) {pattern : Text}
    (hpattern : pattern ∈ entry.2) : pattern ≠ [] ∧ '\n' ∉ pattern := by
  have hall : ∀ entry ∈ diffHintPatterns, ∀ pattern ∈ entry.2, pattern ≠ [] ∧ '\n' ∉ pattern := by
    simp [diffHintPatterns, Text.ofString_eq]
  exact hall entry h pattern hpattern

/-- A pattern is found in a patch, the labels or a path. -/
lemma infix_hintCorpus_iff {pr : PullRequestContext} {pattern : Text} (hne : pattern ≠ [])
    (hline : '\n' ∉ pattern) : pattern <:+: hintCorpus pr ↔
      (∃ file ∈ pr.changedFiles, pattern <:+: (file.val.patch.getD []).casefold) ∨
      pattern <:+: Text.casefold ([' '].intercalate pr.labels) ∨
      ∃ file ∈ pr.changedFiles, pattern <:+: file.val.path.casefold := by
  unfold hintCorpus
  rw [Text.infix_unlines_iff hne hline]
  simp only [List.mem_cons, List.not_mem_nil, or_false, exists_eq_or_imp, exists_eq_left,
    casefold_unlines, Text.infix_unlines_iff hne hline, List.mem_map, exists_exists_and_eq_and]

/-- The hints of a change that is covered are hints of the other one. -/
lemma diffPatternHints_subset {pr pr' : PullRequestContext} (hlabels : pr'.labels = pr.labels)
    (h : Covers pr.changedFiles pr'.changedFiles) : diffPatternHints pr ⊆ diffPatternHints pr' := by
  intro hint hmem
  unfold diffPatternHints at hmem ⊢
  rw [mem_sortedSet, List.mem_map] at hmem ⊢
  obtain ⟨entry, hentry, rfl⟩ := hmem
  rw [List.mem_filter] at hentry
  obtain ⟨hentry, hmatch⟩ := hentry
  refine ⟨entry, List.mem_filter.2 ⟨hentry, ?_⟩, rfl⟩
  by_cases htruncated : entry.1 = ("truncated_patch" : Text)
  · rw [if_pos htruncated] at hmatch ⊢
    rw [List.any_eq_true] at hmatch ⊢
    obtain ⟨file, hfile, hcut⟩ := hmatch
    obtain ⟨file', hfile', -, hpatch, hstatus⟩ := h file hfile
    exact ⟨file', hfile', by rw [hpatch, hstatus]; exact hcut⟩
  · rw [if_neg htruncated] at hmatch ⊢
    rw [List.any_eq_true] at hmatch ⊢
    obtain ⟨pattern, hpattern, hfound⟩ := hmatch
    obtain ⟨hne, hline⟩ := pattern_of_mem hentry hpattern
    refine ⟨pattern, hpattern, decide_eq_true ?_⟩
    rcases (infix_hintCorpus_iff hne hline).1 (of_decide_eq_true hfound) with
      ⟨file, hfile, hin⟩ | hin | ⟨file, hfile, hin⟩
    · obtain ⟨file', hfile', -, hpatch, -⟩ := h file hfile
      exact (infix_hintCorpus_iff hne hline).2 (.inl ⟨file', hfile', by rw [hpatch]; exact hin⟩)
    · exact (infix_hintCorpus_iff hne hline).2 (.inr (.inl (by rw [hlabels]; exact hin)))
    · obtain ⟨file', hfile', hpath, -⟩ := h file hfile
      exact (infix_hintCorpus_iff hne hline).2
        (.inr (.inr ⟨file', hfile', by rw [hpath]; exact hin⟩))

/-- So are its surfaces. -/
lemma touchedSurfaces_subset {pr pr' : PullRequestContext} (hlabels : pr'.labels = pr.labels)
    (h : Covers pr.changedFiles pr'.changedFiles) : touchedSurfaces pr ⊆ touchedSurfaces pr' := by
  intro surface hmem
  unfold touchedSurfaces at hmem ⊢
  rw [mem_sortedSet, List.mem_append] at hmem ⊢
  rcases hmem with hmem | hmem
  · obtain ⟨file, hfile, hsurface⟩ := List.mem_flatMap.1 hmem
    obtain ⟨file', hfile', hpath, -⟩ := h file hfile
    refine .inl (List.mem_flatMap.2 ⟨file', hfile', ?_⟩)
    unfold fileSurfaces at hsurface ⊢
    rw [hpath]
    exact hsurface
  · rw [hlabels]
    exact .inr hmem

/-- Covering files touch no fewer surfaces. -/
lemma length_touchedSurfaces_le {pr pr' : PullRequestContext} (hlabels : pr'.labels = pr.labels)
    (h : Covers pr.changedFiles pr'.changedFiles) :
    (touchedSurfaces pr).length ≤ (touchedSurfaces pr').length := by
  have hsubset := touchedSurfaces_subset hlabels h
  unfold touchedSurfaces at hsubset ⊢
  exact length_sortedSet_le fun t ht => mem_sortedSet.1 (hsubset (mem_sortedSet.2 ht))

/-! ## Assessments -/

/-- A count adds no empty reason. -/
lemma countRisk_reasons (name : Text) (count : ℕ) (medium high : ℤ) (acc : LevelReasons)
    (h : ∀ reason ∈ acc.2, reason ≠ []) :
    ∀ reason ∈ (countRisk name count medium high acc).2, reason ≠ [] := by
  unfold countRisk
  split_ifs
  · exact List.forall_mem_append.2 ⟨h, by simp⟩
  · exact List.forall_mem_append.2 ⟨h, by simp⟩
  · exact h

/-- Hints add no empty reason. -/
lemma hintRisk_reasons (hints : List Text) {acc : LevelReasons} (h : ∀ reason ∈ acc.2,
    reason ≠ []) :
    ∀ reason ∈ (hintRisk hints acc).2, reason ≠ [] := by
  unfold hintRisk
  dsimp only
  split_ifs
  · exact List.forall_mem_append.2 ⟨List.forall_mem_append.2 ⟨h, by simp⟩, by simp⟩
  · exact List.forall_mem_append.2 ⟨h, by simp⟩
  · exact List.forall_mem_append.2 ⟨h, by simp⟩
  · exact h

/-- The reasons pass their check. -/
lemma riskLevelAndReasons_reasons (files lines : ℕ) (surfaces hints : List Text)
    (thresholds : RiskThresholds) :
    (∀ reason ∈ (riskLevelAndReasons files lines surfaces hints thresholds).2, reason ≠ []) ∧
      (riskLevelAndReasons files lines surfaces hints thresholds).2 ≠ [] := by
  have hcounts := hintRisk_reasons hints (countRisk_reasons "changed_lines" lines
    thresholds.changedLinesMedium thresholds.changedLinesHigh _
    (countRisk_reasons "changed_files" files thresholds.changedFilesMedium
      thresholds.changedFilesHigh (.low, []) (by simp)))
  unfold riskLevelAndReasons
  dsimp only
  generalize hintRisk hints _ = acc at hcounts ⊢
  have hall : ∀ reason ∈ (surfaceRisk surfaces acc).2, reason ≠ [] := by
    unfold surfaceRisk
    split_ifs
    · exact List.forall_mem_append.2 ⟨hcounts, by simp⟩
    · exact hcounts
  split
  · simp
  · rename_i hne
    exact ⟨hall, hne⟩

/-- No hint is empty. -/
lemma diffPatternHints_ne_nil {pr : PullRequestContext} : ∀ hint ∈ diffPatternHints pr,
    hint ≠ [] := by
  intro hint hmem
  unfold diffPatternHints at hmem
  rw [mem_sortedSet, List.mem_map] at hmem
  obtain ⟨entry, hentry, rfl⟩ := hmem
  have hall : ∀ entry ∈ diffHintPatterns, entry.1 ≠ [] := by simp [diffHintPatterns]
  exact hall entry (List.mem_filter.1 hentry).1

/-- A change is classified exactly if its surfaces and its labels have names. -/
lemma exists_classifyChangeRisk_iff {pr : PullRequestContext}
    {thresholds : Checked RiskThresholds} :
    (∃ assessment, classifyChangeRisk pr thresholds = .ok assessment) ↔
      (∀ surface ∈ touchedSurfaces pr, surface ≠ []) ∧ ∀ label ∈ pr.labels, label ≠ [] := by
  have hreasons := riskLevelAndReasons_reasons pr.changedFiles.length (changedLineCount pr)
    (touchedSurfaces pr) (diffPatternHints pr) thresholds.val
  have hsorted : ∀ labels : List Text,
      (∀ label ∈ labels.insertionSort fun a b => a.casefold ≤ b.casefold, label ≠ []) ↔
        ∀ label ∈ labels, label ≠ [] := by
    intro labels
    simp only [(List.perm_insertionSort _ labels).mem_iff]
  unfold classifyChangeRisk
  dsimp only
  constructor
  · rintro ⟨assessment, hassessment⟩
    rw [construct_eq_ok] at hassessment
    have hchecks := assessment.property
    rw [hassessment] at hchecks
    simp only [Record.postInit, check_bind_eq_ok, requireStringTuple_eq_ok, hsorted] at hchecks
    exact ⟨hchecks.1.1, hchecks.2.1.1⟩
  · rintro ⟨hsurfaces, hlabels⟩
    refine ⟨_, construct_of_postInit ?_⟩
    simp only [Record.postInit, check_bind_eq_ok, requireStringTuple_eq_ok, hsorted, true_or,
      and_true]
    exact ⟨hsurfaces, hlabels, diffPatternHints_ne_nil, hreasons.1, .inr hreasons.2⟩

/-- The rank of the level of an assessment. -/
lemma riskRank_classifyChangeRisk {pr : PullRequestContext} {thresholds : Checked RiskThresholds}
    {assessment : Checked ChangeRiskAssessment}
    (h : classifyChangeRisk pr thresholds = .ok assessment) :
    riskRank assessment.val.riskLevel =
      max (max (max (countRank pr.changedFiles.length thresholds.val.changedFilesMedium
          thresholds.val.changedFilesHigh)
        (countRank (changedLineCount pr) thresholds.val.changedLinesMedium
          thresholds.val.changedLinesHigh))
        (hintRank (diffPatternHints pr))) (surfaceRank (touchedSurfaces pr)) := by
  unfold classifyChangeRisk at h
  dsimp only at h
  rw [construct_eq_ok] at h
  rw [h]
  exact riskRank_riskLevelAndReasons _ _ _ _ _

/-- A change that is covered by another one with as many files and lines is not of a higher risk. -/
lemma riskLevel_le {pr : PullRequestContext} (pr' : PullRequestContext)
    {thresholds : Checked RiskThresholds}
    (hlabels : pr'.labels = pr.labels) (hcovers : Covers pr.changedFiles pr'.changedFiles)
    (hfiles : pr.changedFiles.length ≤ pr'.changedFiles.length)
    (hlines : changedLineCount pr ≤ changedLineCount pr')
    {assessment' : Checked ChangeRiskAssessment}
    (h' : classifyChangeRisk pr' thresholds = .ok assessment') :
    ∃ assessment, classifyChangeRisk pr thresholds = .ok assessment ∧
      riskRank assessment.val.riskLevel ≤ riskRank assessment'.val.riskLevel := by
  obtain ⟨hsurfaces, hnames⟩ := exists_classifyChangeRisk_iff.1 ⟨assessment', h'⟩
  obtain ⟨assessment, h⟩ : ∃ assessment, classifyChangeRisk pr thresholds = .ok assessment :=
    exists_classifyChangeRisk_iff.2 ⟨fun surface hmem =>
      hsurfaces surface (touchedSurfaces_subset hlabels hcovers hmem), hlabels ▸ hnames⟩
  refine ⟨assessment, h, ?_⟩
  rw [riskRank_classifyChangeRisk h, riskRank_classifyChangeRisk h']
  refine max_le_max (max_le_max (max_le_max ?_ ?_) ?_) ?_
  · exact countRank_mono hfiles _ _
  · exact countRank_mono hlines _ _
  · exact hintRank_mono (diffPatternHints_subset hlabels hcovers)
  · exact surfaceRank_mono (length_touchedSurfaces_le hlabels hcovers)

/-! ## Monotonicity -/

/-- The file with more additions or deletions. -/
def Grows (file file' : Checked PullRequestChangedFile) : Prop :=
  file.val.additions ≤ file'.val.additions ∧ file.val.deletions ≤ file'.val.deletions ∧
    file'.val = { file.val with
      additions := file'.val.additions
      deletions := file'.val.deletions }

/-- Files that grow cover what they did. -/
lemma covers_of_grows {files files' : List (Checked PullRequestChangedFile)}
    (h : List.Forall₂ Grows files files') : Covers files files' := by
  induction h with
  | nil => simp [Covers]
  | @cons file file' files files' hgrows _ ih =>
    have hsame := hgrows.2.2
    refine List.forall_mem_cons.2 ⟨⟨file', List.mem_cons_self, ?_⟩, fun other hother => ?_⟩
    · rw [hsame]
      exact ⟨rfl, rfl, rfl⟩
    · obtain ⟨other', hother', hfields⟩ := ih other hother
      exact ⟨other', List.mem_cons_of_mem _ hother', hfields⟩

/-- Files that grow have no fewer changed lines. -/
lemma sum_lines_le_of_grows {files files' : List (Checked PullRequestChangedFile)}
    (h : List.Forall₂ Grows files files') :
    (files.map fun file => file.val.additions + file.val.deletions).sum ≤
      (files'.map fun file => file.val.additions + file.val.deletions).sum := by
  induction h with
  | nil => exact le_rfl
  | cons hgrows _ ih =>
    simp only [List.map_cons, List.sum_cons]
    exact Nat.add_le_add (Nat.add_le_add hgrows.1 hgrows.2.1) ih

/-- More files, or more lines in a file, never lower the level, and the order of the files does not
matter. -/
theorem classifyChangeRisk_monotone (thresholds : Checked RiskThresholds) (pr : PullRequestContext)
    (files : List (Checked PullRequestChangedFile)) :
    (pr.changedFiles.Sublist files ∨ List.Forall₂ Grows pr.changedFiles files →
      ∀ assessment', classifyChangeRisk { pr with changedFiles := files } thresholds =
        .ok assessment' → ∃ assessment, classifyChangeRisk pr thresholds = .ok assessment ∧
          riskRank assessment.val.riskLevel ≤ riskRank assessment'.val.riskLevel) ∧
    (pr.changedFiles.Perm files →
      classifyChangeRisk { pr with changedFiles := files } thresholds =
        classifyChangeRisk pr thresholds) := by
  have hlabels : ({ pr with changedFiles := files } : PullRequestContext).labels = pr.labels := rfl
  constructor
  · rintro (hsublist | hgrows) assessment' h'
    · refine riskLevel_le { pr with changedFiles := files } hlabels
        (fun file hfile => ⟨file, hsublist.subset hfile, rfl, rfl, rfl⟩) hsublist.length_le ?_ h'
      exact (hsublist.map _).sum_le_sum fun _ _ => Nat.zero_le _
    · exact riskLevel_le { pr with changedFiles := files } hlabels (covers_of_grows hgrows)
        hgrows.length_eq.le (sum_lines_le_of_grows hgrows) h'
  · intro hperm
    have hcovers : Covers pr.changedFiles files := fun file hfile =>
      ⟨file, hperm.subset hfile, rfl, rfl, rfl⟩
    have hcovers' : Covers files pr.changedFiles := fun file hfile =>
      ⟨file, hperm.symm.subset hfile, rfl, rfl, rfl⟩
    have hlines : changedLineCount { pr with changedFiles := files } = changedLineCount pr :=
      ((hperm.map _).sum_eq).symm
    have hhints : diffPatternHints { pr with changedFiles := files } = diffPatternHints pr := by
      have hmem : ∀ t, t ∈ diffPatternHints { pr with changedFiles := files } ↔
          t ∈ diffPatternHints pr := fun t =>
        ⟨fun ht => diffPatternHints_subset hlabels.symm hcovers' ht,
          fun ht => diffPatternHints_subset hlabels hcovers ht⟩
      unfold diffPatternHints at hmem ⊢
      exact sortedSet_congr fun t => by rw [← mem_sortedSet, hmem, mem_sortedSet]
    have hsurfaces : touchedSurfaces { pr with changedFiles := files } = touchedSurfaces pr := by
      have hmem : ∀ t, t ∈ touchedSurfaces { pr with changedFiles := files } ↔
          t ∈ touchedSurfaces pr := fun t =>
        ⟨fun ht => touchedSurfaces_subset hlabels.symm hcovers' ht,
          fun ht => touchedSurfaces_subset hlabels hcovers ht⟩
      unfold touchedSurfaces at hmem ⊢
      exact sortedSet_congr fun t => by rw [← mem_sortedSet, hmem, mem_sortedSet]
    unfold classifyChangeRisk
    simp only [hlines, hhints, hsurfaces, hperm.length_eq.symm]

end ReviewGraph
