import ReviewGraph.Quality
import ReviewGraph.ReviewerConfigs

/-!
# Fixtures

`parse_fixture_pr` of `fixtures.py`.  The constructors of the review target, of comments, of reviews
and of threads are called where their errors are caught.  The one of a changed file of the pull
request is not, and it checks the previous path, which the parser does not.
-/

namespace ReviewGraph.Fixture

/-! ## Fields -/

/-- The message about a field. -/
def fieldMessage (label field rest : Text) : Text := label ++ ("." ++ (field ++ rest))

/-- `data[field]`. -/
def subscript (data : List (Text × Json)) (field : Text) : Parse Json :=
  match Json.lookup data field with
  | some value => .ok value
  | none => .error (.escaped (.keyError field))

/-- `_required_str`. -/
def requiredStr (data : List (Text × Json)) (field label : Text) : Parse Text :=
  match (Json.lookup data field).bind nonEmptyString with
  | some s => .ok s
  | none => .error (.own (fieldMessage label field " is required"))

/-- `_optional_str`. -/
def optionalStr (data : List (Text × Json)) (field label : Text) (default : Option Text) :
    Parse (Option Text) :=
  match Json.lookup data field with
  | none => .ok default
  | some .null => .ok none
  | some (.str s) => .ok (some s)
  | some _ => .error (.own (fieldMessage label field " must be a string or null"))

/-- `_optional_nullable_str`. -/
def optionalNullableStr (data : List (Text × Json)) (field label : Text) : Parse (Option Text) :=
  optionalStr data field label none

/-- `_optional_non_negative_int`. -/
def optionalNonNegativeInt (data : List (Text × Json)) (field label : Text) : Parse ℕ :=
  match (Json.lookup data field).getD (.int 0) with
  | .int n =>
    if 0 ≤ n then .ok n.toNat
    else .error (.own (fieldMessage label field " must be a non-negative integer"))
  | _ => .error (.own (fieldMessage label field " must be a non-negative integer"))

/-- `_optional_positive_int`. -/
def optionalPositiveInt (data : List (Text × Json)) (field label : Text) : Parse (Option ℤ) :=
  match (Json.lookup data field).getD .null with
  | .null => .ok none
  | .int n =>
    if 0 < n then .ok (some n)
    else .error (.own (fieldMessage label field " must be a positive integer or null"))
  | _ => .error (.own (fieldMessage label field " must be a positive integer or null"))

/-- `_required_int`. -/
def requiredInt (data : List (Text × Json)) (field : Text) : Parse ℤ :=
  match Json.lookup data field with
  | some (.int n) => .ok n
  | _ => .error (.own ("changed range " ++ (field ++ " must be an integer")))

/-- The fields of an object. -/
def objectFields : Json → Option (List (Text × Json))
  | .obj fields => some fields
  | _ => none

/-- `_optional_list`. -/
def optionalList (data : List (Text × Json)) (field : Text) : Parse (List (List (Text × Json))) :=
  match (Json.lookup data field).getD (.arr []) with
  | .arr items =>
    match items.mapM objectFields with
    | some objects => .ok objects
    | none => .error (.own (fieldMessage "fixture" field " entries must be objects"))
  | _ => .error (.own (fieldMessage "fixture" field " must be a list"))

/-- `_optional_str_list`. -/
def optionalStrList (data : List (Text × Json)) (field label : Text) : Parse (List Text) :=
  match (Json.lookup data field).getD (.arr []) with
  | .arr items =>
    match nonEmptyStrings items with
    | some values => .ok values
    | none => .error (.own (fieldMessage label field " entries must be non-empty strings"))
  | _ => .error (.own (fieldMessage label field " must be a list"))

/-- `value or default`. -/
def orDefault (value : Option Text) (default : Text) : Text :=
  match value with
  | some (c :: cs) => c :: cs
  | _ => default

/-! ## Parts of a fixture -/

/-- A string of the target. -/
def targetStr (value : List (Text × Json)) (field : Text) : Parse Text :=
  match (Json.lookup value field).bind nonEmptyString with
  | some s => .ok s
  | none => .error (.own (fieldMessage "fixture.target" field " must be a non-empty string"))

/-- `pr_number` of the target. -/
def targetPrNumber (value : List (Text × Json)) : Parse ℤ :=
  match Json.lookup value "pr_number" with
  | some (.int n) =>
    if 0 < n then .ok n
    else .error (.own "fixture.target.pr_number must be a positive integer")
  | _ => .error (.own "fixture.target.pr_number must be a positive integer")

/-- `merge_base_sha` of the target. -/
def targetMergeBaseSha (value : List (Text × Json)) : Parse (Option Text) :=
  match (Json.lookup value "merge_base_sha").getD .null with
  | .null => .ok none
  | .str s => .ok (some s)
  | _ => .error (.own "fixture.target.merge_base_sha must be a string or null")

/-- `_parse_review_target`. -/
def parseReviewTarget : Json → Parse (Checked ReviewTarget)
  | .obj value => do
    let ownerRepo ← targetStr value "owner_repo"
    let baseSha ← targetStr value "base_sha"
    let headSha ← targetStr value "head_sha"
    let diffBasis ← targetStr value "diff_basis"
    let prNumber ← targetPrNumber value
    let mergeBaseSha ← targetMergeBaseSha value
    reraise (build {
      ownerRepo := ownerRepo
      prNumber := prNumber
      baseSha := baseSha
      headSha := headSha
      mergeBaseSha := mergeBaseSha
      diffBasis := diffBasis })
  | _ => .error (.own "fixture.target must be an object")

/-- A `ChangedRange`, whose constructor raises an error of the parser. -/
def parseChangedRange (item : List (Text × Json)) : Parse ChangedRange := do
  let first ← requiredInt item "start"
  let last ← requiredInt item "end"
  demand (0 < first ∧ first ≤ last) "changed_ranges entries require positive start and end >= start"
  return ⟨first, last⟩

/-- An entry of `_parse_changed_files`; the constructor of a `ChangedFile` raises errors of the
parser. -/
def parseChangedFile : Json → Parse (Checked ChangedFile)
  | .obj entry =>
    match Json.lookup entry "changed_ranges" with
    | some (.arr (item :: items)) =>
      match (item :: items).mapM objectFields with
      | none => .error (.own "fixture.changed_files[].changed_ranges entries must be objects")
      | some ranges => do
        let path ← requiredStr entry "path" "changed_files[]"
        let changedRanges ← ranges.mapM parseChangedRange
        let patch ← optionalStr entry "patch" "changed_files[]" (some "")
        let additions ← optionalNonNegativeInt entry "additions" "changed_files[]"
        let deletions ← optionalNonNegativeInt entry "deletions" "changed_files[]"
        let status ← optionalStr entry "status" "changed_files[]" (some "modified")
        let previousPath ← optionalNullableStr entry "previous_path" "changed_files[]"
        let patchStatus ← optionalStr entry "patch_status" "changed_files[]" (some "available")
        reraise (build {
          path := path
          changedRanges := changedRanges
          patch := patch
          additions := additions
          deletions := deletions
          status := orDefault status "modified"
          previousPath := previousPath
          patchStatus := orDefault patchStatus "available" })
    | _ => .error (.own "fixture.changed_files[].changed_ranges must be a non-empty list")
  | _ => .error (.own "fixture.changed_files entries must be objects")

/-- `_parse_changed_files`. -/
def parseChangedFiles : Json → Parse (List (Checked ChangedFile))
  | .arr (entry :: entries) => (entry :: entries).mapM parseChangedFile
  | _ => .error (.own "fixture.changed_files must be a non-empty list")

/-- An entry of `_parse_comments`. -/
def parseComment (label : Text) : Json → Parse (Checked PullRequestComment)
  | .obj entry => reraise do
    let id ← requiredStr entry "id" label
    let author ← requiredStr entry "author" label
    let authorAssociation ← requiredStr entry "author_association" label
    let authorType ← requiredStr entry "author_type" label
    let body ← requiredStr entry "body" label
    let createdAt ← requiredStr entry "created_at" label
    let trustLabel ← requiredStr entry "trust_label" label
    let sourceType ← requiredStr entry "source_type" label
    let url ← optionalNullableStr entry "url" label
    let path ← optionalNullableStr entry "path" label
    let line ← optionalPositiveInt entry "line" label
    let side ← optionalNullableStr entry "side" label
    let commitSha ← optionalNullableStr entry "commit_sha" label
    let position ← optionalPositiveInt entry "position" label
    build {
      id := id
      author := author
      authorAssociation := authorAssociation
      authorType := authorType
      body := body
      createdAt := createdAt
      trustLabel := trustLabel
      sourceType := sourceType
      url := url
      path := path
      line := line
      side := side
      commitSha := commitSha
      position := position
      sourceProvider := "fixture" }
  | _ => .error (.own (label ++ " entries must be objects"))

/-- `_parse_comments`. -/
def parseComments (value : Json) (label : Text) : Parse (List (Checked PullRequestComment)) :=
  match value with
  | .arr entries => entries.mapM (parseComment label)
  | _ => .error (.own (label ++ " must be a list"))

/-- An entry of `_parse_reviews`. -/
def parseReview : Json → Parse (Checked PullRequestReview)
  | .obj entry => reraise do
    let id ← requiredStr entry "id" "fixture.reviews"
    let author ← requiredStr entry "author" "fixture.reviews"
    let authorAssociation ← requiredStr entry "author_association" "fixture.reviews"
    let authorType ← requiredStr entry "author_type" "fixture.reviews"
    let state ← requiredStr entry "state" "fixture.reviews"
    let createdAt ← requiredStr entry "created_at" "fixture.reviews"
    let trustLabel ← requiredStr entry "trust_label" "fixture.reviews"
    let sourceType ← requiredStr entry "source_type" "fixture.reviews"
    let body ← optionalNullableStr entry "body" "fixture.reviews"
    let url ← optionalNullableStr entry "url" "fixture.reviews"
    build {
      id := id
      author := author
      authorAssociation := authorAssociation
      authorType := authorType
      state := state
      createdAt := createdAt
      trustLabel := trustLabel
      sourceType := sourceType
      body := body
      url := url
      sourceProvider := "fixture" }
  | _ => .error (.own "fixture.reviews entries must be objects")

/-- `_parse_reviews`. -/
def parseReviews : Json → Parse (List (Checked PullRequestReview))
  | .arr entries => entries.mapM parseReview
  | _ => .error (.own "fixture.reviews must be a list")

/-- An entry of `_parse_review_threads`. -/
def parseReviewThread : Json → Parse (Checked PullRequestReviewThread)
  | .obj entry =>
    match Json.lookup entry "comments" with
    | some (.arr (comment :: comments)) => reraise do
      let id ← requiredStr entry "id" "fixture.review_threads"
      let path ← requiredStr entry "path" "fixture.review_threads"
      let resolvedStatus ← requiredStr entry "resolved_status" "fixture.review_threads"
      let parsed ← parseComments (.arr (comment :: comments)) "fixture.review_threads.comments"
      build {
        id := id
        path := path
        resolvedStatus := resolvedStatus
        comments := parsed }
    | _ => .error (.own "fixture.review_threads.comments must be a non-empty list")
  | _ => .error (.own "fixture.review_threads entries must be objects")

/-- `_parse_review_threads`. -/
def parseReviewThreads : Json → Parse (List (Checked PullRequestReviewThread))
  | .arr entries => entries.mapM parseReviewThread
  | _ => .error (.own "fixture.review_threads must be a list")

/-! ## Fixtures -/

/-- `FixturePR`. -/
structure FixturePR where
  id : Text
  prRef : Text
  reviewTarget : Checked ReviewTarget
  pr : Checked PullRequestContext
  labels : List Text
  changedFiles : List (Checked ChangedFile)
  memory : List (List (Text × Json))
  truncation : List (List (Text × Json))
  rawReviewerOutputs : List Json

/-- The fields that a fixture must have. -/
def requiredFields : List Text := ["id", "pr_ref", "target", "title", "labels", "changed_files",
  "comments", "reviews", "review_threads", "raw_reviewer_outputs"]

/-- The check of the required fields. -/
def requireFields (data : List (Text × Json)) : Parse Unit :=
  match requiredFields.find? fun field => (Json.lookup data field).isNone with
  | some field => .error (.own (fieldMessage "fixture" field " is required"))
  | none => .ok ()

/-- The value of `run_mode` is the only one that there is. -/
def isDryRun (data : List (Text × Json)) : Bool :=
  match (Json.lookup data "run_mode").getD (.str "dry_run") with
  | .str mode => mode = "dry_run"
  | _ => false

/-- The changed file of the pull request for a changed file of the fixture. -/
def pullRequestChangedFile (file : Checked ChangedFile) : Parse (Checked PullRequestChangedFile) :=
  build {
    path := file.val.path
    patch := file.val.patch
    additions := file.val.additions
    deletions := file.val.deletions
    status := file.val.status
    previousPath := file.val.previousPath
    patchStatus := file.val.patchStatus }

/-- The arguments of `PullRequestContext`, and the instance. -/
def parseContext (data : List (Text × Json)) (reviewTarget : Checked ReviewTarget)
    (changedFiles : List (Checked ChangedFile)) : Parse (Checked PullRequestContext) := do
  let title ← requiredStr data "title" "fixture"
  let body ← optionalNullableStr data "body" "fixture"
  let labels ← optionalStrList data "labels" "fixture"
  let files ← changedFiles.mapM pullRequestChangedFile
  let comments ← parseComments (← subscript data "comments") "fixture.comments"
  let reviews ← parseReviews (← subscript data "reviews")
  let reviewThreads ← parseReviewThreads (← subscript data "review_threads")
  build {
    reviewTarget := reviewTarget
    title := title
    body := body
    labels := labels
    changedFiles := files
    comments := comments
    reviews := reviews
    reviewThreads := reviewThreads }

/-- The value of `raw_reviewer_outputs`. -/
def parseRawOutputs : Json → Parse (List Json)
  | .arr (output :: outputs) => .ok (output :: outputs)
  | _ => .error (.own "fixture.raw_reviewer_outputs must be a non-empty list")

/-- `parse_fixture_pr`. -/
def parseFixturePr (data : List (Text × Json)) : Parse FixturePR := do
  requireFields data
  demand (isDryRun data = true) "fixture.run_mode must be dry_run when present"
  let reviewTarget ← parseReviewTarget (← subscript data "target")
  let changedFiles ← parseChangedFiles (← subscript data "changed_files")
  let pr ← parseContext data reviewTarget changedFiles
  let rawOutputs ← parseRawOutputs (← subscript data "raw_reviewer_outputs")
  let id ← requiredStr data "id" "fixture"
  let prRef ← requiredStr data "pr_ref" "fixture"
  let memory ← optionalList data "memory"
  let truncation ← optionalList data "truncation"
  return {
    id := id
    prRef := prRef
    reviewTarget := reviewTarget
    pr := pr
    labels := pr.val.labels
    changedFiles := changedFiles
    memory := memory
    truncation := truncation
    rawReviewerOutputs := rawOutputs }

/-! ## What the parts of the parser establish -/

/-- No error escapes from a parser of a field. -/
lemma not_escapes_requiredStr (data : List (Text × Json)) (field label : Text) :
    ¬ Escapes (requiredStr data field label) := by
  unfold requiredStr
  split <;> simp

/-- An optional text raises no other error. -/
lemma not_escapes_optionalStr (data : List (Text × Json)) (field label : Text)
    (default : Option Text) : ¬ Escapes (optionalStr data field label default) := by
  unfold optionalStr
  split <;> simp

/-- Nor does one that may be null. -/
lemma not_escapes_optionalNullableStr (data : List (Text × Json)) (field label : Text) :
    ¬ Escapes (optionalNullableStr data field label) :=
  not_escapes_optionalStr data field label none

/-- An optional number that is not negative raises no other error. -/
lemma not_escapes_optionalNonNegativeInt (data : List (Text × Json)) (field label : Text) :
    ¬ Escapes (optionalNonNegativeInt data field label) := by
  unfold optionalNonNegativeInt
  split
  · split <;> simp
  · simp

/-- Nor does a positive one. -/
lemma not_escapes_optionalPositiveInt (data : List (Text × Json)) (field label : Text) :
    ¬ Escapes (optionalPositiveInt data field label) := by
  unfold optionalPositiveInt
  split
  · simp
  · split <;> simp
  · simp

/-- A required number raises no other error. -/
lemma not_escapes_requiredInt (data : List (Text × Json)) (field : Text) :
    ¬ Escapes (requiredInt data field) := by
  unfold requiredInt
  split <;> simp

/-- An optional list raises no other error. -/
lemma not_escapes_optionalList (data : List (Text × Json)) (field : Text) :
    ¬ Escapes (optionalList data field) := by
  unfold optionalList
  split
  · split <;> simp
  · simp

/-- Nor does a list of texts. -/
lemma not_escapes_optionalStrList (data : List (Text × Json)) (field label : Text) :
    ¬ Escapes (optionalStrList data field label) := by
  unfold optionalStrList
  split
  · split <;> simp
  · simp

/-- A field that is there can be read. -/
lemma escapes_subscript_iff {data : List (Text × Json)} {field : Text} :
    Escapes (subscript data field) ↔ Json.lookup data field = none := by
  unfold subscript
  split
  · rename_i value hlookup
    simp [hlookup]
  · rename_i hlookup
    simp [hlookup, Escapes]

/-- A subscript finds the value of its field. -/
lemma subscript_eq_ok {data : List (Text × Json)} {field : Text} {value : Json} :
    subscript data field = .ok value ↔ Json.lookup data field = some value := by
  unfold subscript
  split
  · rename_i value' hlookup
    simp [hlookup]
  · rename_i hlookup
    simp [hlookup]

/-- A required text is not empty. -/
lemma requiredStr_ok {data : List (Text × Json)} {field label s : Text}
    (h : requiredStr data field label = .ok s) : s ≠ [] := by
  unfold requiredStr at h
  split at h
  · rename_i s' hs
    obtain rfl := Except.ok.inj h
    obtain ⟨value, -, hvalue⟩ := Option.bind_eq_some_iff.1 hs
    exact (nonEmptyString_eq_some.1 hvalue).2
  · contradiction

/-- The texts of a list are not empty. -/
lemma optionalStrList_ok {data : List (Text × Json)} {field label : Text} {values : List Text}
    (h : optionalStrList data field label = .ok values) : ∀ s ∈ values, s ≠ [] := by
  unfold optionalStrList at h
  split at h
  · split at h
    · rename_i values' hvalues
      obtain rfl := Except.ok.inj h
      exact ne_nil_of_nonEmptyStrings hvalues
    · contradiction
  · contradiction

/-- A string that may be missing is empty only where the input has the empty string. -/
lemma optionalNullableStr_ok {data : List (Text × Json)} {field label : Text} {value : Option Text}
    (h : optionalNullableStr data field label = .ok value) :
    value = some [] ↔ Json.lookup data field = some (.str []) := by
  unfold optionalNullableStr optionalStr at h
  split at h
  · rename_i hlookup
    obtain rfl := Except.ok.inj h
    simp [hlookup]
  · rename_i hlookup
    obtain rfl := Except.ok.inj h
    simp [hlookup]
  · rename_i s hlookup
    obtain rfl := Except.ok.inj h
    simp [hlookup]
  · contradiction

/-- A default that is not empty gives no empty text. -/
lemma orDefault_ne_nil {value : Option Text} {default : Text} (h : default ≠ []) :
    orDefault value default ≠ [] := by
  unfold orDefault
  split
  · exact List.cons_ne_nil _ _
  · exact h

/-! ## Parts whose errors are caught -/

/-- A text of the target raises no other error. -/
lemma not_escapes_targetStr (value : List (Text × Json)) (field : Text) :
    ¬ Escapes (targetStr value field) := by
  unfold targetStr
  split <;> simp

/-- Nor does its number. -/
lemma not_escapes_targetPrNumber (value : List (Text × Json)) :
    ¬ Escapes (targetPrNumber value) := by
  unfold targetPrNumber
  split
  · split <;> simp
  · simp

/-- Nor does its merge base. -/
lemma not_escapes_targetMergeBaseSha (value : List (Text × Json)) :
    ¬ Escapes (targetMergeBaseSha value) := by
  unfold targetMergeBaseSha
  split <;> simp

/-- The checks of a target are caught. -/
lemma not_escapes_parseReviewTarget (value : Json) : ¬ Escapes (parseReviewTarget value) := by
  unfold parseReviewTarget
  split
  · refine not_escapes_bind (not_escapes_targetStr _ _) fun _ _ => ?_
    refine not_escapes_bind (not_escapes_targetStr _ _) fun _ _ => ?_
    refine not_escapes_bind (not_escapes_targetStr _ _) fun _ _ => ?_
    refine not_escapes_bind (not_escapes_targetStr _ _) fun _ _ => ?_
    refine not_escapes_bind (not_escapes_targetPrNumber _) fun _ _ => ?_
    refine not_escapes_bind (not_escapes_targetMergeBaseSha _) fun _ _ => ?_
    apply not_escapes_reraise
    apply escapesAsValueError_build
    repeat' apply RaisesValueErrors.bind
    all_goals apply raisesValueErrors_require
  · simp

/-- A changed range raises no other error. -/
lemma not_escapes_parseChangedRange (item : List (Text × Json)) :
    ¬ Escapes (parseChangedRange item) := by
  unfold parseChangedRange
  refine not_escapes_bind (not_escapes_requiredInt _ _) fun _ _ => ?_
  refine not_escapes_bind (not_escapes_requiredInt _ _) fun _ _ => ?_
  exact not_escapes_bind (not_escapes_demand _ _) fun _ _ => not_escapes_pure _

/-- The checks of a changed file of the fixture raise errors of the parser. -/
lemma not_escapes_parseChangedFile (value : Json) : ¬ Escapes (parseChangedFile value) := by
  unfold parseChangedFile
  split
  · split
    · split
      · simp
      · refine not_escapes_bind (not_escapes_requiredStr _ _ _) fun _ _ => ?_
        refine not_escapes_bind (not_escapes_mapM fun item _ => not_escapes_parseChangedRange item)
          fun _ _ => ?_
        refine not_escapes_bind (not_escapes_optionalStr _ _ _ _) fun _ _ => ?_
        refine not_escapes_bind (not_escapes_optionalNonNegativeInt _ _ _) fun _ _ => ?_
        refine not_escapes_bind (not_escapes_optionalNonNegativeInt _ _ _) fun _ _ => ?_
        refine not_escapes_bind (not_escapes_optionalStr _ _ _ _) fun _ _ => ?_
        refine not_escapes_bind (not_escapes_optionalNullableStr _ _ _) fun _ _ => ?_
        refine not_escapes_bind (not_escapes_optionalStr _ _ _ _) fun _ _ => ?_
        apply not_escapes_reraise
        apply escapesAsValueError_build
        repeat' apply RaisesValueErrors.bind
        all_goals apply raisesValueErrors_require
    · simp
  · simp

/-- Nor do changed files. -/
lemma not_escapes_parseChangedFiles (value : Json) : ¬ Escapes (parseChangedFiles value) := by
  unfold parseChangedFiles
  split
  · exact not_escapes_mapM fun entry _ => not_escapes_parseChangedFile entry
  · simp

/-- Within `try`: a field from whose parser nothing escapes. -/
lemma caught_requiredStr (data : List (Text × Json)) (field label : Text) :
    EscapesAsValueError (requiredStr data field label) :=
  escapesAsValueError_of_not (not_escapes_requiredStr data field label)

/-- The errors of an optional text are caught. -/
lemma caught_optionalNullableStr (data : List (Text × Json)) (field label : Text) :
    EscapesAsValueError (optionalNullableStr data field label) :=
  escapesAsValueError_of_not (not_escapes_optionalNullableStr data field label)

/-- So are those of an optional number. -/
lemma caught_optionalPositiveInt (data : List (Text × Json)) (field label : Text) :
    EscapesAsValueError (optionalPositiveInt data field label) :=
  escapesAsValueError_of_not (not_escapes_optionalPositiveInt data field label)

/-- The checks of a comment are caught. -/
lemma not_escapes_parseComment (label : Text) (value : Json) :
    ¬ Escapes (parseComment label value) := by
  unfold parseComment
  split
  · rename_i entry
    apply not_escapes_reraise
    iterate 8 refine (caught_requiredStr entry _ label).bind fun _ => ?_
    iterate 2 refine (caught_optionalNullableStr entry _ label).bind fun _ => ?_
    refine (caught_optionalPositiveInt entry _ label).bind fun _ => ?_
    iterate 2 refine (caught_optionalNullableStr entry _ label).bind fun _ => ?_
    refine (caught_optionalPositiveInt entry _ label).bind fun _ => ?_
    apply escapesAsValueError_build
    repeat' apply RaisesValueErrors.bind
    all_goals first
      | apply raisesValueErrors_optional
      | apply raisesValueErrors_require
  · simp

/-- Comments raise no other error. -/
lemma not_escapes_parseComments (value : Json) (label : Text) :
    ¬ Escapes (parseComments value label) := by
  unfold parseComments
  split
  · exact not_escapes_mapM fun entry _ => not_escapes_parseComment label entry
  · simp

/-- The checks of a review are caught. -/
lemma not_escapes_parseReview (value : Json) : ¬ Escapes (parseReview value) := by
  unfold parseReview
  split
  · rename_i entry
    apply not_escapes_reraise
    iterate 8 refine (caught_requiredStr entry _ _).bind fun _ => ?_
    iterate 2 refine (caught_optionalNullableStr entry _ _).bind fun _ => ?_
    apply escapesAsValueError_build
    repeat' apply RaisesValueErrors.bind
    all_goals first
      | apply raisesValueErrors_optional
      | apply raisesValueErrors_require
  · simp

/-- Nor do reviews. -/
lemma not_escapes_parseReviews (value : Json) : ¬ Escapes (parseReviews value) := by
  unfold parseReviews
  split
  · exact not_escapes_mapM fun entry _ => not_escapes_parseReview entry
  · simp

/-- The checks of a thread are caught, and its comments raise errors of the parser. -/
lemma not_escapes_parseReviewThread (value : Json) : ¬ Escapes (parseReviewThread value) := by
  unfold parseReviewThread
  split
  · rename_i entry
    split
    · apply not_escapes_reraise
      iterate 3 refine (caught_requiredStr entry _ _).bind fun _ => ?_
      refine EscapesAsValueError.bind
        (escapesAsValueError_of_not (not_escapes_parseComments _ _)) fun _ => ?_
      apply escapesAsValueError_build
      repeat' apply RaisesValueErrors.bind
      all_goals apply raisesValueErrors_require
    · simp
  · simp

/-- Nor do review threads. -/
lemma not_escapes_parseReviewThreads (value : Json) : ¬ Escapes (parseReviewThreads value) := by
  unfold parseReviewThreads
  split
  · exact not_escapes_mapM fun entry _ => not_escapes_parseReviewThread entry
  · simp

/-! ## Where an error escapes -/

/-- An entry of `changed_files` whose previous path is the empty string. -/
def HasEmptyPreviousPath (entry : Json) : Prop :=
  ∃ fields, entry = .obj fields ∧ Json.lookup fields "previous_path" = some (.str [])

/-- The previous path of a changed file is the one of its entry, and its statuses are not empty. -/
lemma parseChangedFile_ok {entry : Json} {file : Checked ChangedFile}
    (h : parseChangedFile entry = .ok file) :
    (file.val.previousPath = some [] ↔ HasEmptyPreviousPath entry) ∧ file.val.status ≠ [] ∧
      file.val.patchStatus ≠ [] := by
  unfold parseChangedFile at h
  split at h
  · rename_i fields
    split at h
    · split at h
      · contradiction
      · simp only [parse_bind_eq_ok, reraise_eq_ok, build_eq_ok] at h
        obtain ⟨_, -, _, -, _, -, _, -, _, -, status, -, previousPath, hprevious, patchStatus, -,
            hfile⟩ := h
        rw [hfile]
        refine ⟨?_, orDefault_ne_nil (by simp [Text.ofString_eq]),
          orDefault_ne_nil (by simp [Text.ofString_eq])⟩
        rw [optionalNullableStr_ok hprevious]
        simp only [HasEmptyPreviousPath, Json.obj.injEq, exists_eq_left']
    · contradiction
  · contradiction

/-- What a changed file of the fixture has is enough for the pull request, save for the previous
path. -/
lemma postInit_pullRequestChangedFile_iff {file : Checked ChangedFile}
    (hstatus : file.val.status ≠ [])
    (hpatchStatus : file.val.patchStatus ≠ []) :
    Escapes (pullRequestChangedFile file) ↔ file.val.previousPath = some [] := by
  have hfile := file.property
  simp only [Record.postInit, check_bind_eq_ok, require_eq_ok] at hfile
  obtain ⟨hpath, -, hpatch⟩ := hfile
  unfold pullRequestChangedFile
  rw [escapes_build, ne_eq, not_iff_comm]
  simp only [Record.postInit, check_bind_eq_ok, require_eq_ok, requireNonEmpty_eq_ok,
    requireOptionalNonEmpty_eq_ok]
  constructor
  · intro hne
    exact ⟨hpath, hstatus, hne, hpatchStatus, hpatch⟩
  · intro h
    exact h.2.2.1

/-- A changed file that raises no other error is read. -/
lemma reads_pullRequestChangedFile {file : Checked ChangedFile}
    (h : ¬ Escapes (pullRequestChangedFile file)) : Reads (pullRequestChangedFile file) := by
  unfold pullRequestChangedFile at h ⊢
  rw [escapes_build, not_ne_iff] at h
  exact ⟨⟨_, h⟩, build_eq_ok.2 rfl⟩

/-- The changed files of the pull request: an error escapes for an empty previous path. -/
lemma escapes_pullRequestChangedFiles {entries : List Json} {files : List (Checked ChangedFile)}
    (h : parseChangedFiles (.arr entries) = .ok files) :
    Escapes (files.mapM pullRequestChangedFile) ↔ ∃ entry ∈ entries,
      HasEmptyPreviousPath entry := by
  have hfiles : List.Forall₂ (fun entry file => parseChangedFile entry = .ok file) entries
      files := by
    unfold parseChangedFiles at h
    split at h
    · rename_i entry entries' heq
      obtain rfl := Json.arr.inj heq
      exact mapM_eq_ok.1 h
    · contradiction
  rw [escapes_mapM_iff_exists fun file _ hno => reads_pullRequestChangedFile hno]
  constructor
  · rintro ⟨file, hfile, hescapes⟩
    obtain ⟨entry, hentry, hparsed⟩ := List.Forall₂.exists_of_mem_right hfiles hfile
    have hok := parseChangedFile_ok hparsed
    exact ⟨entry, hentry, hok.1.1 ((postInit_pullRequestChangedFile_iff hok.2.1 hok.2.2).1
      hescapes)⟩
  · rintro ⟨entry, hentry, hprevious⟩
    obtain ⟨file, hfile, hparsed⟩ := List.Forall₂.exists_of_mem_right hfiles.flip hentry
    have hok := parseChangedFile_ok hparsed
    exact ⟨file, hfile, (postInit_pullRequestChangedFile_iff hok.2.1 hok.2.2).2 (hok.1.2 hprevious)⟩

/-- The fields of the context that are read before its changed files are well formed. -/
def ReadsContext (data : List (Text × Json)) : Prop :=
  Reads (requiredStr data "title" "fixture") ∧ Reads (optionalNullableStr data "body" "fixture") ∧
    Reads (optionalStrList data "labels" "fixture")

/-- An error escapes from the context exactly if one escapes from its changed files. -/
lemma escapes_parseContext {data : List (Text × Json)} {target : Checked ReviewTarget}
    {files : List (Checked ChangedFile)} (hne : files ≠ [])
    (hfields : ∀ field ∈ requiredFields, Json.lookup data field ≠ none) :
    Escapes (parseContext data target files) ↔
      ReadsContext data ∧ Escapes (files.mapM pullRequestChangedFile) := by
  unfold parseContext ReadsContext
  simp only [Reads, and_assoc, ← exists_and_right]
  rw [escapes_bind_of_not (not_escapes_requiredStr _ _ _)]
  refine exists_congr fun title => and_congr_right fun htitle => ?_
  rw [escapes_bind_of_not (not_escapes_optionalNullableStr _ _ _)]
  refine exists_congr fun body => and_congr_right fun _ => ?_
  rw [escapes_bind_of_not (not_escapes_optionalStrList _ _ _)]
  refine exists_congr fun labels => and_congr_right fun hlabels => ?_
  rw [escapes_bind]
  refine or_iff_left ?_
  rintro ⟨prFiles, hprFiles, hescapes⟩
  have hpresent : ∀ field ∈ requiredFields, ¬ Escapes (subscript data field) :=
    fun field hfield => escapes_subscript_iff.not.2 (hfields field hfield)
  refine absurd hescapes ?_
  refine not_escapes_bind (hpresent _ (by simp [requiredFields])) fun _ _ => ?_
  refine not_escapes_bind (not_escapes_parseComments _ _) fun _ _ => ?_
  refine not_escapes_bind (hpresent _ (by simp [requiredFields])) fun _ _ => ?_
  refine not_escapes_bind (not_escapes_parseReviews _) fun _ _ => ?_
  refine not_escapes_bind (hpresent _ (by simp [requiredFields])) fun _ _ => ?_
  refine not_escapes_bind (not_escapes_parseReviewThreads _) fun _ _ => ?_
  rw [escapes_build, not_ne_iff]
  simp only [Record.postInit, check_bind_eq_ok, require_eq_ok, requireNonEmpty_eq_ok,
    requireStringTuple_eq_ok]
  refine ⟨requiredStr_ok htitle, ⟨optionalStrList_ok hlabels, .inl trivial⟩, ?_⟩
  rintro rfl
  cases mapM_eq_ok.1 hprFiles
  exact hne rfl

/-- The required fields raise no other error. -/
lemma escapes_requireFields {data : List (Text × Json)} : ¬ Escapes (requireFields data) := by
  unfold requireFields
  split <;> simp

/-- They pass exactly if all are present. -/
lemma requireFields_eq_ok {data : List (Text × Json)} :
    requireFields data = .ok () ↔ ∀ field ∈ requiredFields, Json.lookup data field ≠ none := by
  unfold requireFields
  split
  · rename_i field hfind
    refine iff_of_false (by simp) fun h => ?_
    have hnone := List.find?_some hfind
    exact h field (List.mem_of_find?_eq_some hfind) (Option.isNone_iff_eq_none.1 hnone)
  · rename_i hfind
    refine iff_of_true rfl fun field hfield => ?_
    have hsome := List.find?_eq_none.1 hfind field hfield
    simpa using hsome

/-- Raw outputs raise no other error. -/
lemma not_escapes_parseRawOutputs (value : Json) : ¬ Escapes (parseRawOutputs value) := by
  unfold parseRawOutputs
  split <;> simp

/-- There is a changed file. -/
lemma ne_nil_of_parseChangedFiles {value : Json} {files : List (Checked ChangedFile)}
    (h : parseChangedFiles value = .ok files) : files ≠ [] := by
  unfold parseChangedFiles at h
  split at h
  · rintro rfl
    cases mapM_eq_ok.1 h
  · contradiction

/-- A dry run with all its fields, whose target, changed files, title, body and labels are well
formed, and where an entry of `changed_files` has an empty previous path. -/
def FixtureEscapes (data : List (Text × Json)) : Prop :=
  (∀ field ∈ requiredFields, Json.lookup data field ≠ none) ∧ isDryRun data = true ∧
    (∃ target, Json.lookup data "target" = some target ∧ Reads (parseReviewTarget target)) ∧
    ReadsContext data ∧ ∃ entries, Json.lookup data "changed_files" = some (.arr entries) ∧
      Reads (parseChangedFiles (.arr entries)) ∧ ∃ entry ∈ entries, HasEmptyPreviousPath entry

/-- An error escapes from `parse_fixture_pr` exactly at an empty previous path. -/
theorem escapes_parseFixturePr {data : List (Text × Json)} :
    Escapes (parseFixturePr data) ↔ FixtureEscapes data := by
  unfold parseFixturePr FixtureEscapes
  rw [escapes_bind_of_not escapes_requireFields]
  have hunit : ∀ p : Unit → Prop, (∃ u, requireFields data = .ok u ∧ p u) ↔
      requireFields data = .ok () ∧ p () := fun p => ⟨fun ⟨(), h⟩ => h, fun h => ⟨(), h⟩⟩
  rw [hunit, requireFields_eq_ok]
  refine and_congr_right fun hfields => ?_
  have hpresent : ∀ field ∈ requiredFields, ¬ Escapes (subscript data field) :=
    fun field hfield => escapes_subscript_iff.not.2 (hfields field hfield)
  rw [escapes_demand_bind]
  refine and_congr_right fun _ => ?_
  rw [escapes_bind_of_not (hpresent _ (by simp [requiredFields]))]
  simp only [subscript_eq_ok]
  constructor
  · rintro ⟨target, htarget, hescapes⟩
    rw [escapes_bind_of_not (not_escapes_parseReviewTarget _)] at hescapes
    obtain ⟨reviewTarget, hreviewTarget, hescapes⟩ := hescapes
    rw [escapes_bind_of_not (hpresent _ (by simp [requiredFields]))] at hescapes
    obtain ⟨value, hvalue, hescapes⟩ := hescapes
    rw [escapes_bind_of_not (not_escapes_parseChangedFiles _)] at hescapes
    obtain ⟨files, hfiles, hescapes⟩ := hescapes
    rw [escapes_bind, escapes_parseContext (ne_nil_of_parseChangedFiles hfiles) hfields] at hescapes
    rcases hescapes with ⟨hcontext, hescapes⟩ | ⟨pr, -, hescapes⟩
    · obtain ⟨entries, rfl⟩ : ∃ entries, value = .arr entries := by
        unfold parseChangedFiles at hfiles
        split at hfiles
        · exact ⟨_, rfl⟩
        · contradiction
      exact ⟨⟨target, htarget, reviewTarget, hreviewTarget⟩, hcontext, entries,
        subscript_eq_ok.1 hvalue, ⟨files, hfiles⟩, (escapes_pullRequestChangedFiles hfiles).1
        hescapes⟩
    · refine absurd hescapes ?_
      refine not_escapes_bind (hpresent _ (by simp [requiredFields])) fun _ _ => ?_
      refine not_escapes_bind (not_escapes_parseRawOutputs _) fun _ _ => ?_
      refine not_escapes_bind (not_escapes_requiredStr _ _ _) fun _ _ => ?_
      refine not_escapes_bind (not_escapes_requiredStr _ _ _) fun _ _ => ?_
      refine not_escapes_bind (not_escapes_optionalList _ _) fun _ _ => ?_
      exact not_escapes_bind (not_escapes_optionalList _ _) fun _ _ => not_escapes_pure _
  · rintro ⟨⟨target, htarget, reviewTarget, hreviewTarget⟩, hcontext, entries, hvalue,
      ⟨files, hfiles⟩,
      hentry⟩
    refine ⟨target, htarget, escapes_bind.2 (.inr ⟨reviewTarget, hreviewTarget, ?_⟩)⟩
    refine escapes_bind.2 (.inr ⟨_, subscript_eq_ok.2 hvalue, ?_⟩)
    refine escapes_bind.2 (.inr ⟨files, hfiles, escapes_bind.2 (.inl ?_)⟩)
    rw [escapes_parseContext (ne_nil_of_parseChangedFiles hfiles) hfields]
    exact ⟨hcontext, (escapes_pullRequestChangedFiles hfiles).2 hentry⟩

end ReviewGraph.Fixture

namespace ReviewGraph

/-- Each parser raises its own errors only, but for the inputs at which a check is left to a
constructor whose errors are not caught: triggers that can never fire and an empty context of an
agent, and an empty previous path of a changed file. -/
theorem ownErrors_parsers_iff (data : List (Text × Json)) :
    (OwnErrors (Config.parseReviewerConfig data) ↔ ¬ Config.ConfigEscapes data) ∧
      (OwnErrors (Fixture.parseFixturePr data) ↔ ¬ Fixture.FixtureEscapes data) := by
  constructor
  · rw [ownErrors_iff, Config.escapes_parseReviewerConfig]
  · rw [ownErrors_iff, Fixture.escapes_parseFixturePr]

/-- A configuration whose agent has triggers that can never fire. -/
def neverFiringConfig : List (Text × Json) :=
  [("agents", .obj [("logic", .obj [("stages", .arr [.str "logic_review"]),
    ("triggers", .obj [("always", .bool false)])])])]

/-- A fixture whose changed file has an empty previous path. -/
def emptyPreviousPathFixture : List (Text × Json) :=
  [("id", .str "fixture-1"), ("pr_ref", .str "owner/repo#1"),
    ("target", .obj [("owner_repo", .str "owner/repo"), ("base_sha", .str "base"),
      ("head_sha", .str "head"), ("diff_basis", .str "merge-base"), ("pr_number", .int 1)]),
    ("title", .str "Cache"), ("labels", .arr []),
    ("changed_files", .arr [.obj [("path", .str "src/cache.py"), ("previous_path", .str ""),
      ("changed_ranges", .arr [.obj [("start", .int 1), ("end", .int 2)]])]]),
    ("comments", .arr []), ("reviews", .arr []), ("review_threads", .arr []),
    ("raw_reviewer_outputs", .arr [.obj []])]

/-- An error of a constructor leaves either parser. -/
theorem parsers_escape : ¬ OwnErrors (Config.parseReviewerConfig neverFiringConfig) ∧
    ¬ OwnErrors (Fixture.parseFixturePr emptyPreviousPathFixture) := by
  rw [ownErrors_iff, ownErrors_iff, not_not, not_not]
  constructor
  · decide +kernel
  · decide +kernel

end ReviewGraph
