import ReviewGraph.MarkerReconciliation

/-!
# The scan of a flat list of comments

`reconcile_existing_markers` of `markers.py` keeps the last malformed, conflicting and matching
comment in slots of their own; the paged scan keeps the first match, its duplicates and one deferred
failure. Both depend on the same three questions about the comments, so that they classify a list
alike, however it is split into pages.
-/

namespace ReviewGraph

open Interaction

/-! ## Records -/

/-- `MarkerScanStatus`. -/
inductive MarkerScanStatus
  | matched
  | noMatch
  | deferredConflict
  | deferredMalformed
  deriving DecidableEq, Repr

/-- `ExistingComment`. -/
structure ExistingComment where
  commentId : Text
  body : Text
  deriving DecidableEq

instance : Record ExistingComment where
  postInit c := do
    require (c.commentId ≠ []) "existing comment id is required"
    require (c.body ≠ []) "existing comment body is required"

/-- `MarkerScanResult`; a marker is the tuple of its fields. -/
structure MarkerScanResult where
  status : MarkerScanStatus
  existingCommentId : Option Text
  marker : Option MarkerFields
  reason : Option Text
  writerInputReleased : Bool
  finalizationPassed : Bool
  deriving DecidableEq

instance : Record MarkerScanResult where
  postInit r := do
    require (r.existingCommentId ≠ some []) "marker scan existing_comment_id must be non-empty"
    require (r.reason ≠ some []) "marker scan reason must be non-empty"
    require (r.writerInputReleased = false ∧ r.finalizationPassed = false)
      "marker scan results are trust-neutral and cannot release writer input"
    require (r.status = .matched → r.existingCommentId ≠ none ∧ r.marker ≠ none)
      "matched marker scan requires existing comment and marker"
    require (r.status = .noMatch → r.existingCommentId = none ∧ r.marker = none)
      "no-match marker scan must not include a marker"
    require (r.status = .deferredConflict → r.existingCommentId ≠ none ∧ r.marker ≠ none)
      "deferred marker conflict requires existing comment and marker"
    require (r.status = .deferredMalformed → r.existingCommentId ≠ none ∧ r.marker = none)
      "deferred malformed marker requires existing comment and no parsed marker"

/-! ## The scan -/

/-- The results that `reconcile_existing_markers` holds while it reads. -/
structure ExistingMarkerScan where
  matched : Option (Checked MarkerScanResult)
  deferredConflict : Option (Checked MarkerScanResult)
  deferredMalformed : Option (Checked MarkerScanResult)

/-- A result about a comment. -/
def markerScanResultOf (status : MarkerScanStatus) (comment : ExistingComment)
    (marker : Option MarkerFields) (reason : Text) : Result (Checked MarkerScanResult) :=
  construct {
    status
    existingCommentId := some comment.commentId
    marker
    reason := some reason
    writerInputReleased := false
    finalizationPassed := false }

section Scan

variable (expectedTargetHash expectedPayloadHash expectedFindingsHash : Text)

/-- One comment of `reconcile_existing_markers`. -/
def acceptExisting (st : ExistingMarkerScan) (comment : Checked ExistingComment) :
    Result ExistingMarkerScan :=
  let finalLine := bodyFinalLine comment.val.body
  match finalLine.bind parseReviewgraphV1MarkerLine with
  | none =>
    if looksLikeReviewgraphMarker finalLine then do
      let result ← markerScanResultOf .deferredMalformed comment.val none
        "malformed reviewgraph marker final line"
      return { st with deferredMalformed := some result }
    else return st
  | some marker =>
    if marker.target ≠ expectedTargetHash ∨ marker.findings ≠ expectedFindingsHash then return st
    else if marker.payload = expectedPayloadHash then do
      let result ← markerScanResultOf .matched comment.val (some marker) "matching marker"
      return { st with matched := some result }
    else do
      let result ← markerScanResultOf .deferredConflict comment.val (some marker)
        "same target and findings with different payload"
      return { st with deferredConflict := some result }

/-- `reconcile_existing_markers`. -/
def reconcileExistingMarkers (existingComments : List (Checked ExistingComment)) :
    Result (Checked MarkerScanResult) := do
  let st ← existingComments.foldlM
    (acceptExisting expectedTargetHash expectedPayloadHash expectedFindingsHash) ⟨none, none, none⟩
  match st.deferredMalformed.or (st.deferredConflict.or st.matched) with
  | some result => return result
  | none => construct {
      status := .noMatch
      existingCommentId := none
      marker := none
      reason := some "no matching marker"
      writerInputReleased := false
      finalizationPassed := false }

end Scan

/-- A comment of a page, without its author. -/
def existingComment (comment : Checked PaginatedMarkerComment) : Checked ExistingComment :=
  ⟨⟨comment.val.commentId, comment.val.body⟩, by
    have h := comment.property
    simp only [Record.postInit, check_bind_eq_ok, require_eq_ok] at h ⊢
    exact ⟨h.1, h.2.1⟩⟩

/-- A result about a comment is always built. -/
lemma markerScanResultOf_ok {status : MarkerScanStatus} {comment : Checked ExistingComment}
    {marker : Option MarkerFields} {reason : Text} (hreason : reason ≠ [])
    (hstatus : status ≠ .noMatch) (hmarker : status = .deferredMalformed ↔ marker = none) :
    ∃ r, markerScanResultOf status comment.val marker reason = .ok r ∧ r.val.status = status ∧
      r.val.existingCommentId = some comment.val.commentId := by
  have hid : comment.val.commentId ≠ [] := by
    have h := comment.property
    simp only [Record.postInit, check_bind_eq_ok, require_eq_ok] at h
    exact h.1
  refine ⟨⟨_, ?checks⟩, construct_of_postInit ?checks, rfl, rfl⟩
  simp only [Record.postInit, check_bind_eq_ok, require_eq_ok]
  refine ⟨by simpa using hid, by simpa using hreason, by simp, fun h => ⟨by simp, ?_⟩,
    fun h => absurd h hstatus, fun h => ⟨by simp, ?_⟩, fun h => ⟨by simp, hmarker.1 h⟩⟩
  · rw [Ne, ← hmarker, h]
    simp
  · rw [Ne, ← hmarker, h]
    simp

namespace MarkerScanArguments

variable (args : MarkerScanArguments)

/-- `reconcile_existing_markers` for the expected hashes of a scan. -/
def reconcileExisting (comments : List (Checked PaginatedMarkerComment)) :
    Result (Checked MarkerScanResult) :=
  reconcileExistingMarkers args.expectedTargetHash args.expectedPayloadHash
    args.expectedFindingsHash
    (comments.map existingComment)

/-- What the slots say about the comments read so far. -/
structure ExistingRecords (st : ExistingMarkerScan)
    (comments : List (Checked PaginatedMarkerComment)) :
    Prop where
  malformed : st.deferredMalformed ≠ none ↔ ∃ c ∈ comments, MalformedMarker c.val
  conflict : st.deferredConflict ≠ none ↔ ∃ c ∈ comments, args.ConflictingMarker c.val
  exact : st.matched ≠ none ↔ ∃ c ∈ comments, args.ExactMarker c.val
  malformedStatus : ∀ r ∈ st.deferredMalformed, r.val.status = .deferredMalformed
  conflictStatus : ∀ r ∈ st.deferredConflict, r.val.status = .deferredConflict
  matchedStatus : ∀ r ∈ st.matched, r.val.status = .matched ∧
    ∃ c ∈ comments, args.ExactMarker c.val ∧ r.val.existingCommentId = some c.val.commentId

/-- A comment changes nothing, or it fills the slot of its kind. -/
lemma acceptExisting_cases (st : ExistingMarkerScan) (c : Checked PaginatedMarkerComment) :
    ∃ st', acceptExisting args.expectedTargetHash args.expectedPayloadHash args.expectedFindingsHash
      st
        (existingComment c) = .ok st' ∧
      ((¬ MalformedMarker c.val ∧ ¬ args.ConflictingMarker c.val ∧ ¬ args.ExactMarker c.val ∧
        st' = st) ∨
        (∃ r : Checked MarkerScanResult, r.val.status = .deferredMalformed ∧ MalformedMarker c.val ∧
          ¬ args.ConflictingMarker c.val ∧ ¬ args.ExactMarker c.val ∧
          st' = { st with deferredMalformed := some r }) ∨
        (∃ r : Checked MarkerScanResult, r.val.status = .deferredConflict ∧
          ¬ MalformedMarker c.val ∧
          args.ConflictingMarker c.val ∧ ¬ args.ExactMarker c.val ∧
          st' = { st with deferredConflict := some r }) ∨
        ∃ r : Checked MarkerScanResult, r.val.status = .matched ∧
          r.val.existingCommentId = some c.val.commentId ∧ ¬ MalformedMarker c.val ∧
          ¬ args.ConflictingMarker c.val ∧ args.ExactMarker c.val ∧
          st' = { st with matched := some r }) := by
  unfold acceptExisting
  dsimp only [existingComment]
  unfold MalformedMarker ConflictingMarker ExactMarker scanFinalLineMarker
  cases hmarker : (bodyFinalLine c.val.body).bind parseReviewgraphV1MarkerLine with
  | none =>
    dsimp only
    split
    · rename_i hlooks
      obtain ⟨r, hr, hstatus, -⟩ := @markerScanResultOf_ok .deferredMalformed (existingComment c)
          none
        "malformed reviewgraph marker final line" (by simp [Text.ofString_eq]) (by simp) (by simp)
      dsimp only [existingComment] at hr
      rw [hr]
      exact ⟨_, rfl, .inr (.inl ⟨r, hstatus, ⟨rfl, hlooks⟩, by simp, by simp, rfl⟩)⟩
    · rename_i hlooks
      exact ⟨st, rfl, .inl ⟨fun h => hlooks h.2, by simp, by simp, rfl⟩⟩
  | some marker =>
    dsimp only
    split
    · rename_i hother
      refine ⟨st, rfl, .inl ⟨by simp, ?_, ?_, rfl⟩⟩
      · rintro ⟨m, hm, ht, -, hf⟩
        obtain rfl := Option.some.inj hm
        exact hother.elim (fun h => h ht) fun h => h hf
      · rintro ⟨m, hm, ht, -, hf⟩
        obtain rfl := Option.some.inj hm
        exact hother.elim (fun h => h ht) fun h => h hf
    rename_i hsame
    obtain ⟨ht, hf⟩ := not_or.1 hsame
    split
    · rename_i hpayload
      obtain ⟨r, hr, hstatus, hid⟩ := @markerScanResultOf_ok .matched (existingComment c)
          (some marker)
        "matching marker" (by simp [Text.ofString_eq]) (by simp) (by simp)
      dsimp only [existingComment] at hr hid
      rw [hr]
      refine ⟨_, rfl, .inr (.inr (.inr ⟨r, hstatus, hid, by simp, ?_, ?_, rfl⟩))⟩
      · rintro ⟨m, hm, -, hne, -⟩
        obtain rfl := Option.some.inj hm
        exact hne hpayload
      · exact ⟨marker, rfl, not_not.1 ht, hpayload, not_not.1 hf⟩
    · rename_i hpayload
      obtain ⟨r, hr, hstatus, -⟩ := @markerScanResultOf_ok .deferredConflict (existingComment c)
        (some marker) "same target and findings with different payload" (by simp [Text.ofString_eq])
        (by simp) (by simp)
      dsimp only [existingComment] at hr
      rw [hr]
      refine ⟨_, rfl, .inr (.inr (.inl ⟨r, hstatus, by simp, ?_, ?_, rfl⟩))⟩
      · exact ⟨marker, rfl, not_not.1 ht, hpayload, not_not.1 hf⟩
      · rintro ⟨m, hm, -, heq, -⟩
        obtain rfl := Option.some.inj hm
        exact hpayload heq

/-- One comment is recorded. -/
lemma existingRecords_accept {st : ExistingMarkerScan} {cs : List (Checked PaginatedMarkerComment)}
    (h : args.ExistingRecords st cs) (c : Checked PaginatedMarkerComment) :
    ∃ st', acceptExisting args.expectedTargetHash args.expectedPayloadHash args.expectedFindingsHash
      st
        (existingComment c) = .ok st' ∧ args.ExistingRecords st' (cs ++ [c]) := by
  have hconcat : ∀ {P : Checked PaginatedMarkerComment → Prop},
      (∃ c' ∈ cs ++ [c], P c') ↔ (∃ c' ∈ cs, P c') ∨ P c := by
    simp [or_and_right, exists_or]
  have hmatched : ∀ r ∈ st.matched, r.val.status = .matched ∧ ∃ c' ∈ cs ++ [c],
      args.ExactMarker c'.val ∧ r.val.existingCommentId = some c'.val.commentId := by
    intro r hr
    obtain ⟨hstatus, hmem⟩ := h.matchedStatus r hr
    exact ⟨hstatus, hconcat.2 (.inl hmem)⟩
  obtain ⟨st', hst', hcases⟩ := args.acceptExisting_cases st c
  refine ⟨st', hst', ?_⟩
  rcases hcases with ⟨hm, hc, he, rfl⟩ | ⟨r, hr, hm, hc, he, rfl⟩ | ⟨r, hr, hm, hc, he, rfl⟩ |
    ⟨r, hr, hid, hm, hc, he, rfl⟩
  · refine ⟨?_, ?_, ?_, h.malformedStatus, h.conflictStatus, hmatched⟩
    · rw [hconcat, h.malformed, or_iff_left hm]
    · rw [hconcat, h.conflict, or_iff_left hc]
    · rw [hconcat, h.exact, or_iff_left he]
  · refine ⟨?_, ?_, ?_, ?_, h.conflictStatus, hmatched⟩
    · rw [hconcat]
      simp [hm]
    · rw [hconcat, h.conflict, or_iff_left hc]
    · rw [hconcat, h.exact, or_iff_left he]
    · rintro r' hr'
      obtain rfl := Option.some.inj hr'
      exact hr
  · refine ⟨?_, ?_, ?_, h.malformedStatus, ?_, hmatched⟩
    · rw [hconcat, h.malformed, or_iff_left hm]
    · rw [hconcat]
      simp [hc]
    · rw [hconcat, h.exact, or_iff_left he]
    · rintro r' hr'
      obtain rfl := Option.some.inj hr'
      exact hr
  · refine ⟨?_, ?_, ?_, h.malformedStatus, h.conflictStatus, ?_⟩
    · rw [hconcat, h.malformed, or_iff_left hm]
    · rw [hconcat, h.conflict, or_iff_left hc]
    · rw [hconcat]
      simp [he]
    · rintro r' hr'
      obtain rfl := Option.some.inj hr'
      exact ⟨hr, c, by simp, he, hid⟩

/-- The comments of a list are recorded. -/
lemma existingRecords_foldlM {st : ExistingMarkerScan} {cs : List (Checked PaginatedMarkerComment)}
    (h : args.ExistingRecords st cs) (comments : List (Checked PaginatedMarkerComment)) :
    ∃ st', (comments.map existingComment).foldlM (acceptExisting args.expectedTargetHash
        args.expectedPayloadHash args.expectedFindingsHash) st = .ok st' ∧
      args.ExistingRecords st' (cs ++ comments) := by
  induction comments generalizing st cs with
  | nil => exact ⟨st, rfl, by rwa [List.append_nil]⟩
  | cons c comments ih =>
    obtain ⟨st₁, hst₁, hrecords₁⟩ := args.existingRecords_accept h c
    obtain ⟨st₂, hst₂, hrecords₂⟩ := ih hrecords₁
    refine ⟨st₂, ?_, ?_⟩
    · rw [List.map_cons, List.foldlM_cons, hst₁]
      exact hst₂
    · rwa [List.append_assoc] at hrecords₂

/-- What the flat scan says about its comments. -/
structure ExistingVerdict (comments : List (Checked PaginatedMarkerComment))
    (r : MarkerScanResult) :
    Prop where
  matched : r.status = .matched ↔ (∃ c ∈ comments, args.ExactMarker c.val) ∧
    ∀ c ∈ comments, ¬ MalformedMarker c.val ∧ ¬ args.ConflictingMarker c.val
  noMatch : r.status = .noMatch ↔
    ∀ c ∈ comments, ¬ MalformedMarker c.val ∧ ¬ args.ConflictingMarker c.val ∧
      ¬ args.ExactMarker c.val
  existing : r.status = .matched →
    ∃ c ∈ comments, args.ExactMarker c.val ∧ r.existingCommentId = some c.val.commentId

/-- The flat scan never raises and gives its verdict. -/
lemma reconcileExisting_verdict (comments : List (Checked PaginatedMarkerComment)) :
    ∃ r, args.reconcileExisting comments = .ok r ∧ args.ExistingVerdict comments r.val := by
  have hstart : args.ExistingRecords ⟨none, none, none⟩ [] := by
    constructor <;> simp
  obtain ⟨st, hst, h⟩ := args.existingRecords_foldlM hstart comments
  rw [List.nil_append] at h
  unfold reconcileExisting reconcileExistingMarkers
  rw [hst, ok_bind]
  cases hmalformed : st.deferredMalformed with
  | some r =>
    obtain ⟨c, hc, hbad⟩ := h.malformed.1 (by simp [hmalformed])
    have hstatus := h.malformedStatus r hmalformed
    refine ⟨r, rfl, ?_, ?_, ?_⟩
    · rw [hstatus]
      exact iff_of_false (by simp) fun hall => (hall.2 c hc).1 hbad
    · rw [hstatus]
      exact iff_of_false (by simp) fun hall => (hall c hc).1 hbad
    · rw [hstatus]
      exact fun habs => absurd habs (by simp)
  | none =>
    have hnoMalformed : ∀ c ∈ comments, ¬ MalformedMarker c.val := fun c hc hbad =>
      h.malformed.2 ⟨c, hc, hbad⟩ hmalformed
    cases hconflict : st.deferredConflict with
    | some r =>
      obtain ⟨c, hc, hbad⟩ := h.conflict.1 (by simp [hconflict])
      have hstatus := h.conflictStatus r hconflict
      refine ⟨r, rfl, ?_, ?_, ?_⟩
      · rw [hstatus]
        exact iff_of_false (by simp) fun hall => (hall.2 c hc).2 hbad
      · rw [hstatus]
        exact iff_of_false (by simp) fun hall => (hall c hc).2.1 hbad
      · rw [hstatus]
        exact fun habs => absurd habs (by simp)
    | none =>
      have hnoConflict : ∀ c ∈ comments, ¬ args.ConflictingMarker c.val := fun c hc hbad =>
        h.conflict.2 ⟨c, hc, hbad⟩ hconflict
      cases hmatched : st.matched with
      | some r =>
        obtain ⟨hstatus, hexisting⟩ := h.matchedStatus r hmatched
        obtain ⟨c, hc, hexact⟩ := h.exact.1 (by simp [hmatched])
        refine ⟨r, rfl, ?_, ?_, fun _ => hexisting⟩
        · exact iff_of_true hstatus ⟨⟨c, hc, hexact⟩, fun c hc =>
            ⟨hnoMalformed c hc, hnoConflict c hc⟩⟩
        · rw [hstatus]
          exact iff_of_false (by simp) fun hall => (hall c hc).2.2 hexact
      | none =>
        have hnoExact : ∀ c ∈ comments, ¬ args.ExactMarker c.val := fun c hc hexact =>
          h.exact.2 ⟨c, hc, hexact⟩ hmatched
        refine ⟨⟨_, ?checks⟩, construct_of_postInit ?checks, ?_, ?_, ?_⟩
        case checks =>
          simp only [Record.postInit, check_bind_eq_ok, require_eq_ok]
          simp [Text.ofString_eq]
        · exact iff_of_false (by simp) fun hall => by
            obtain ⟨⟨c, hc, hexact⟩, -⟩ := hall
            exact hnoExact c hc hexact
        · exact iff_of_true rfl fun c hc => ⟨hnoMalformed c hc, hnoConflict c hc, hnoExact c hc⟩
        · exact fun habs => absurd habs (by simp)

/-! ## The two scans -/

/-- A comment by the approved actor: a comment on GitHub, by the user or bot of this login. -/
structure ByApprovedActor (comment : PaginatedMarkerComment) : Prop where
  login : comment.authorLogin = args.approvedActor
  provider : comment.sourceProvider = "github"
  type : comment.authorType.casefold = "user" ∨ comment.authorType.casefold = "bot"

/-- The approved actor is trusted. -/
lemma trusts_of_byApprovedActor {args : MarkerScanArguments} (hargs : args.check = .ok ())
    {comment : PaginatedMarkerComment} (h : args.ByApprovedActor comment) :
    args.trusts comment = true := by
  have hactor : args.approvedActor ≠ [] := by
    simp only [check, check_bind_eq_ok, require_eq_ok] at hargs
    exact hargs.2.2.1
  have htype : comment.authorType ≠ [] := by
    intro hnil
    have htype := h.type
    rw [hnil] at htype
    exact htype.elim (fun h => absurd h (by decide +kernel)) fun h => absurd h (by decide +kernel)
  simp only [trusts, isTrustedMarkerAuthor, Bool.and_eq_true, Bool.or_eq_true, decide_eq_true_eq]
  exact ⟨⟨⟨⟨h.provider, h.login ▸ hactor⟩, htype⟩, h.type⟩, .inl h.login⟩

/-- The paged scan of the comments of the approved actor, split into pages in any way, decides as
the flat scan of them, and finds its comment. -/
theorem reconcile_agrees (args : MarkerScanArguments) (hargs : args.check = .ok ())
    (comments : List (Checked PaginatedMarkerComment))
    (hactor : ∀ c ∈ comments, args.ByApprovedActor c.val) (pages : List MarkerCommentPage)
    (hpages : CompleteChain args.scanLimits pages) (hsplit : chainComments pages = comments) :
    ∃ (paged : Checked MarkerReconciliationResult) (flat : Checked MarkerScanResult),
      (∀ res, Runs (reconcilePaginatedTrustedMarkers args) (args.chainEvents .absent pages) res ↔
        res = .ok paged) ∧
      args.reconcileExisting comments = .ok flat ∧
      (paged.val.status = .reconciledExisting ↔ flat.val.status = .matched) ∧
      (paged.val.status = .safeToPost ↔ flat.val.status = .noMatch) ∧
      (paged.val.status = .failedClosed ↔
        flat.val.status = .deferredMalformed ∨ flat.val.status = .deferredConflict) ∧
      (flat.val.status = .matched → ∃ id, flat.val.existingCommentId = some id ∧
        (paged.val.existingCommentId = some id ∨ id ∈ paged.val.duplicateCommentIds)) := by
  obtain ⟨paged, hrun, hpaged⟩ := reconcile_completeChain hargs hpages
  obtain ⟨flat, hflat, hverdict⟩ := args.reconcileExisting_verdict comments
  rw [hsplit] at hpaged
  have htrusts : ∀ c ∈ comments, args.trusts c.val = true := fun c hc =>
    trusts_of_byApprovedActor hargs (hactor c hc)
  have hmatched : paged.val.status = .reconciledExisting ↔ flat.val.status = .matched := by
    rw [hpaged.reconciled, hverdict.matched]
    refine and_congr (exists_congr fun c => and_congr_right fun hc => ?_)
      (forall₂_congr fun c hc => ?_)
    · exact and_iff_right (htrusts c hc)
    · exact forall_prop_of_true (htrusts c hc)
  have hnoMatch : paged.val.status = .safeToPost ↔ flat.val.status = .noMatch := by
    rw [hpaged.safe, hverdict.noMatch]
    refine forall₂_congr fun c hc => ?_
    rw [sameReview_iff, forall_prop_of_true (htrusts c hc), not_or]
    tauto
  refine ⟨paged, flat, hrun, hflat, hmatched, hnoMatch, ?_, fun hflatMatched => ?_⟩
  · revert hmatched hnoMatch
    cases paged.val.status <;> cases flat.val.status <;> simp
  · obtain ⟨c, hc, hexact, hid⟩ := hverdict.existing hflatMatched
    obtain ⟨first, rest, hmatching, hfirst, hrest⟩ := hpaged.existing (hmatched.2 hflatMatched)
    refine ⟨c.val.commentId, hid, ?_⟩
    have hmem : c ∈ args.matching comments :=
      List.mem_filter.2 ⟨hc, decide_eq_true ⟨htrusts c hc, hexact⟩⟩
    rw [hmatching] at hmem
    rcases List.mem_cons.1 hmem with rfl | hmem
    · exact .inl hfirst
    · rw [hrest]
      exact .inr (List.mem_map_of_mem hmem)

/-- Both scans find the marker in the comments of two pages. -/
theorem reconcile_agrees_duplicate :
    ∃ (paged : Checked MarkerReconciliationResult) (flat : Checked MarkerScanResult),
      (∀ res, Runs (reconcilePaginatedTrustedMarkers sampleArguments)
        (sampleArguments.chainEvents .absent samplePages) res ↔ res = .ok paged) ∧
      sampleArguments.reconcileExisting (chainComments samplePages) = .ok flat ∧
      paged.val.status = .reconciledExisting ∧ flat.val.status = .matched ∧
      ∃ id, flat.val.existingCommentId = some id ∧
        (paged.val.existingCommentId = some id ∨ id ∈ paged.val.duplicateCommentIds) := by
  have hargs : sampleArguments.check = .ok () := by decide +kernel
  have hactor : ∀ c ∈ chainComments samplePages, sampleArguments.ByApprovedActor c.val := by
    intro c hc
    have htype : ("User" : Text).casefold = "user" := by decide +kernel
    simp only [chainComments, samplePages, List.flatMap_cons, List.flatMap_nil, List.append_nil,
      List.cons_append, List.nil_append, List.mem_cons, List.not_mem_nil, or_false] at hc
    rcases hc with rfl | rfl | rfl <;> exact ⟨rfl, rfl, .inl htype⟩
  obtain ⟨paged, flat, hrun, hflat, hmatched, -, -, hexisting⟩ :=
    reconcile_agrees sampleArguments hargs (chainComments samplePages) hactor samplePages
      samplePages_complete rfl
  obtain ⟨r, hr, hverdict⟩ := sampleArguments.reconcileExisting_verdict (chainComments samplePages)
  obtain rfl : r = flat := Except.ok.inj (hr.symm.trans hflat)
  obtain ⟨c, hc, htrusted, hexact⟩ := samplePages_match
  have hflatMatched : r.val.status = .matched := hverdict.matched.2 ⟨⟨c, hc, hexact⟩, fun c hc =>
    samplePages_plain c hc (trusts_of_byApprovedActor hargs (hactor c hc))⟩
  exact ⟨paged, r, hrun, hflat, hmatched.2 hflatMatched, hflatMatched, hexisting hflatMatched⟩

end MarkerScanArguments

end ReviewGraph
