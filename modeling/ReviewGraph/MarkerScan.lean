import ReviewGraph.Markers

/-!
# What the trusted marker scan decides

The result of `reconcile_paginated_trusted_markers` in terms of the pages it fetched.  A chain of
pages is complete when its last page is and the cursors, the number of pages and the number of
comments are within bounds; for complete chains the result depends on the comments by trusted
authors only, and all other runs fail closed.

The proof follows the loop with the invariant `MarkerScanArguments.Progress`, which relates the
scan state to the pages accepted so far; `acceptPage_cases` is its step.
-/

namespace ReviewGraph

open Interaction

/-! ## Chains of pages -/

/-- The comments of a chain of pages, in scan order. -/
def chainComments (pages : List MarkerCommentPage) : List (Checked PaginatedMarkerComment) :=
  pages.flatMap MarkerCommentPage.comments

/-- A page that refers to a next page. -/
def MarkerCommentPage.Continues (page : MarkerCommentPage) : Prop :=
  page.completed = false ∧ isValidMarkerCursor page.nextCursor = true

/-- A page that ends its chain. -/
def MarkerCommentPage.Ends (page : MarkerCommentPage) : Prop :=
  page.completed = true ∧ page.nextCursor = .absent

/-- A chain of pages that completes within the limits. -/
structure CompleteChain (limits : MarkerScanLimits) (pages : List MarkerCommentPage) : Prop where
  /-- Every page but the last refers to the next one, and the last one ends the chain. -/
  shape : ∃ init last, pages = init ++ [last] ∧ (∀ p ∈ init, p.Continues) ∧ last.Ends
  /-- No cursor is repeated. -/
  fresh : (pages.dropLast.map MarkerCommentPage.nextCursor).Nodup
  /-- The number of pages is within the page cap. -/
  pageCap : pages.length ≤ limits.maxPages
  /-- The number of comments is within the comment cap. -/
  commentCap : (chainComments pages).length ≤ limits.maxComments

/-- The comments of one more page. -/
lemma chainComments_concat (done : List MarkerCommentPage) (page : MarkerCommentPage) :
    chainComments (done ++ [page]) = chainComments done ++ page.comments := by
  simp [chainComments]

/-- A complete chain ends with its only page that refers to no next page. -/
lemma CompleteChain.concat {limits : MarkerScanLimits} {done : List MarkerCommentPage}
    {page : MarkerCommentPage} (h : CompleteChain limits (done ++ [page])) : page.Ends := by
  obtain ⟨init, last, heq, -, hlast⟩ := h.shape
  obtain ⟨-, rfl⟩ := List.append_inj' heq rfl |>.imp_right List.singleton_inj.1
  exact hlast

/-! ## Verdicts on comments -/

/-- The last line begins like a marker but is none. -/
def MalformedMarker (comment : PaginatedMarkerComment) : Prop :=
  scanFinalLineMarker comment.body = none ∧
    looksLikeReviewgraphMarker (bodyFinalLine comment.body) = true

instance (comment : PaginatedMarkerComment) : Decidable (MalformedMarker comment) :=
  inferInstanceAs (Decidable (_ ∧ _))

namespace MarkerScanArguments

variable (args : MarkerScanArguments)

/-- The last line is a marker for the expected target and findings. -/
def SameReview (comment : PaginatedMarkerComment) : Prop :=
  ∃ m ∈ scanFinalLineMarker comment.body,
    m.target = args.expectedTargetHash ∧ m.findings = args.expectedFindingsHash

/-- The last line is a marker with the expected target, payload and findings. -/
def ExactMarker (comment : PaginatedMarkerComment) : Prop :=
  ∃ m ∈ scanFinalLineMarker comment.body, m.target = args.expectedTargetHash ∧
    m.payload = args.expectedPayloadHash ∧ m.findings = args.expectedFindingsHash

/-- The last line is a marker for the expected target and findings with another payload. -/
def ConflictingMarker (comment : PaginatedMarkerComment) : Prop :=
  ∃ m ∈ scanFinalLineMarker comment.body, m.target = args.expectedTargetHash ∧
    m.payload ≠ args.expectedPayloadHash ∧ m.findings = args.expectedFindingsHash

instance (comment : PaginatedMarkerComment) : Decidable (args.SameReview comment) :=
  inferInstanceAs (Decidable (∃ m ∈ scanFinalLineMarker comment.body, _))

instance (comment : PaginatedMarkerComment) : Decidable (args.ExactMarker comment) :=
  inferInstanceAs (Decidable (∃ m ∈ scanFinalLineMarker comment.body, _))

instance (comment : PaginatedMarkerComment) : Decidable (args.ConflictingMarker comment) :=
  inferInstanceAs (Decidable (∃ m ∈ scanFinalLineMarker comment.body, _))

/-- A trusted comment that makes the scan fail. -/
def Blocks (comment : PaginatedMarkerComment) : Prop :=
  args.trusts comment = true ∧ (MalformedMarker comment ∨ args.ConflictingMarker comment)

/-- A trusted comment with the expected marker. -/
def Matches (comment : PaginatedMarkerComment) : Prop :=
  args.trusts comment = true ∧ args.ExactMarker comment

instance (comment : PaginatedMarkerComment) : Decidable (args.Blocks comment) :=
  inferInstanceAs (Decidable (_ ∧ _))

instance (comment : PaginatedMarkerComment) : Decidable (args.Matches comment) :=
  inferInstanceAs (Decidable (_ ∧ _))

/-- A marker for the expected review either is the expected one or conflicts with it. -/
lemma sameReview_iff (comment : PaginatedMarkerComment) :
    args.SameReview comment ↔ args.ExactMarker comment ∨ args.ConflictingMarker comment := by
  unfold SameReview ExactMarker ConflictingMarker
  constructor
  · rintro ⟨m, hm, ht, hf⟩
    by_cases hp : m.payload = args.expectedPayloadHash
    · exact .inl ⟨m, hm, ht, hp, hf⟩
    · exact .inr ⟨m, hm, ht, hp, hf⟩
  · rintro (⟨m, hm, ht, -, hf⟩ | ⟨m, hm, ht, -, hf⟩) <;> exact ⟨m, hm, ht, hf⟩

/-- The comments with the expected marker by trusted authors, in scan order. -/
def matching (comments : List (Checked PaginatedMarkerComment)) :
    List (Checked PaginatedMarkerComment) :=
  comments.filter fun c => args.Matches c.val

/-! ## The state after some comments -/

/-- The state records the comments processed so far. -/
structure Records (st : MarkerScanState) (comments : List (Checked PaginatedMarkerComment)) :
    Prop where
  /-- The match is the first comment with the expected marker. -/
  firstMatch : st.trustedMatch = (args.matching comments).head?
  /-- The duplicates are the remaining comments with the expected marker. -/
  duplicates : st.duplicateCommentIds = (args.matching comments).tail.map fun c => c.val.commentId
  /-- A failure is deferred exactly if some comment makes the scan fail. -/
  deferred : st.deferredFailure ≠ none ↔ ∃ c ∈ comments, args.Blocks c.val
  /-- The reason of a deferred failure is a failure reason. -/
  reason : ∀ d ∈ st.deferredFailure, d.1 = .trustedMarkerMalformed ∨ d.1 = .trustedMarkerConflict

/-- The part of the state that comments do not change. -/
def SameFrame (st st' : MarkerScanState) : Prop :=
  st'.cursor = st.cursor ∧ st'.seenCursors = st.seenCursors ∧ st'.pageCount = st.pageCount ∧
    st'.commentCount = st.commentCount ∧ st'.requestId = st.requestId

/-- The state with the markers counted up to and including a comment. -/
def countMarker (st : MarkerScanState) (c : PaginatedMarkerComment) : MarkerScanState :=
  if (scanFinalLineMarker c.body).isSome || looksLikeReviewgraphMarker (bodyFinalLine c.body) then
    { st with markerCount := st.markerCount + 1 }
  else st

/-- Counting a marker changes the count alone. -/
lemma countMarker_eq (st : MarkerScanState) (c : PaginatedMarkerComment) :
    countMarker st c = { st with markerCount := (countMarker st c).markerCount } := by
  unfold countMarker
  split <;> rfl

/-- What one comment does to the state. -/
lemma acceptComment_cases (st : MarkerScanState) (c : Checked PaginatedMarkerComment) :
    (args.Matches c.val ∧ ¬ args.Blocks c.val ∧
        args.acceptComment st c = (countMarker st c.val).recordMatch c) ∨
      (¬ args.Matches c.val ∧ args.Blocks c.val ∧ ∃ code,
        (code = .trustedMarkerMalformed ∨ code = .trustedMarkerConflict) ∧
        args.acceptComment st c = (countMarker st c.val).defer code) ∨
      (¬ args.Matches c.val ∧ ¬ args.Blocks c.val ∧
        args.acceptComment st c = countMarker st c.val) := by
  have hstep : args.acceptComment st c =
      if !args.trusts c.val then countMarker st c.val
      else (scanFinalLineMarker c.val.body).elim
        (if looksLikeReviewgraphMarker (bodyFinalLine c.val.body) then
          (countMarker st c.val).defer .trustedMarkerMalformed
        else countMarker st c.val)
        fun m =>
          if m.target ≠ args.expectedTargetHash ∨ m.findings ≠ args.expectedFindingsHash then
            countMarker st c.val
          else if m.payload ≠ args.expectedPayloadHash then
            (countMarker st c.val).defer .trustedMarkerConflict
          else (countMarker st c.val).recordMatch c := by
    have hscan : (bodyFinalLine c.val.body).bind parseReviewgraphV1MarkerLine =
        scanFinalLineMarker c.val.body := rfl
    unfold acceptComment countMarker
    dsimp only
    rw [hscan]
    cases scanFinalLineMarker c.val.body with
    | none => rfl
    | some m => rfl
  rw [hstep]
  by_cases htrust : args.trusts c.val = true
  · simp only [htrust, Bool.not_true, Bool.false_eq_true, if_false]
    cases hm : scanFinalLineMarker c.val.body with
    | none =>
      rw [Option.elim_none]
      have hno : ¬ args.Matches c.val := by simp [Matches, ExactMarker, hm]
      by_cases hlook : looksLikeReviewgraphMarker (bodyFinalLine c.val.body) = true
      · refine .inr (.inl ⟨hno, ⟨htrust, .inl ⟨hm, hlook⟩⟩, _, .inl rfl, ?_⟩)
        simp only [hlook, if_true]
      · refine .inr (.inr ⟨hno, ?_, by simp [hlook]⟩)
        simp [Blocks, MalformedMarker, ConflictingMarker, hm, hlook]
    | some m =>
      rw [Option.elim_some]
      have hmal : ¬ MalformedMarker c.val := by simp [MalformedMarker, hm]
      by_cases hreview : m.target = args.expectedTargetHash ∧ m.findings = args.expectedFindingsHash
      · obtain ⟨ht, hf⟩ := hreview
        by_cases hp : m.payload = args.expectedPayloadHash
        · refine .inl ⟨⟨htrust, m, hm, ht, hp, hf⟩, ?_, by simp [ht, hp, hf]⟩
          simp [Blocks, hmal, ConflictingMarker, hm, hp]
        · refine .inr (.inl ⟨?_, ⟨htrust, .inr ⟨m, hm, ht, hp, hf⟩⟩, _, .inr rfl, ?_⟩)
          · simp [Matches, ExactMarker, hm, hp]
          · simp [ht, hf, hp]
      · refine .inr (.inr ⟨?_, ?_, ?_⟩)
        · rintro ⟨-, m', hm', ht, -, hf⟩
          obtain rfl := Option.some.inj (hm.symm.trans hm')
          exact hreview ⟨ht, hf⟩
        · rintro ⟨-, hmal' | ⟨m', hm', ht, -, hf⟩⟩
          · exact hmal hmal'
          · obtain rfl := Option.some.inj (hm.symm.trans hm')
            exact hreview ⟨ht, hf⟩
        · exact if_pos (not_and_or.1 hreview)
  · refine .inr (.inr ⟨fun h => htrust h.1, fun h => htrust h.1, ?_⟩)
    simp [htrust]

/-- One more comment is recorded. -/
lemma records_acceptComment {st : MarkerScanState} {cs : List (Checked PaginatedMarkerComment)}
    (h : args.Records st cs) (c : Checked PaginatedMarkerComment) :
    args.Records (args.acceptComment st c) (cs ++ [c]) := by
  have hblocks : (∃ d ∈ cs ++ [c], args.Blocks d.val) ↔
      (∃ d ∈ cs, args.Blocks d.val) ∨ args.Blocks c.val := by
    simp [or_and_right, exists_or]
  rcases args.acceptComment_cases st c with ⟨hm, hb, heq⟩ | ⟨hm, hb, code, hcode, heq⟩ | ⟨hm, hb,
      heq⟩
  · have hmatching : args.matching (cs ++ [c]) = args.matching cs ++ [c] := by
      simp [matching, List.filter_append, hm]
    rw [heq, countMarker_eq]
    obtain ⟨hfirst, hdup, hdef, hreason⟩ := h
    cases hl : args.matching cs with
    | nil =>
      rw [hl, List.head?_nil] at hfirst
      rw [hl, List.tail_nil, List.map_nil] at hdup
      unfold MarkerScanState.recordMatch
      simp only [hfirst]
      exact ⟨by rw [hmatching, hl]; rfl, by rw [hmatching, hl]; exact hdup,
        by rw [hblocks, ← hdef]; simp [hb], hreason⟩
    | cons d ds =>
      rw [hl, List.head?_cons] at hfirst
      rw [hl, List.tail_cons] at hdup
      unfold MarkerScanState.recordMatch
      simp only [hfirst]
      refine ⟨by rw [hmatching, hl]; rfl, ?_, by rw [hblocks, ← hdef]; simp [hb], hreason⟩
      rw [hmatching, hl, hdup, List.cons_append, List.tail_cons, List.map_append,
        List.map_singleton]
  · have hmatching : args.matching (cs ++ [c]) = args.matching cs := by
      simp [matching, List.filter_append, hm]
    rw [heq, countMarker_eq]
    refine ⟨by rw [hmatching]; exact h.firstMatch, by rw [hmatching]; exact h.duplicates, ?_, ?_⟩
    · rw [hblocks]
      simp [MarkerScanState.defer, hb]
    · intro d hd
      simp only [MarkerScanState.defer, Option.mem_def, Option.or_eq_some_iff] at hd
      rcases hd with hd | ⟨-, hd⟩
      · exact h.reason d hd
      · obtain rfl := Option.some.inj hd
        exact hcode
  · have hmatching : args.matching (cs ++ [c]) = args.matching cs := by
      simp [matching, List.filter_append, hm]
    rw [heq, countMarker_eq]
    exact ⟨by rw [hmatching]; exact h.firstMatch, by rw [hmatching]; exact h.duplicates,
      by rw [hblocks, ← h.deferred]; simp [hb], h.reason⟩

/-- The comments of a page are recorded. -/
lemma records_foldl {st : MarkerScanState} {cs : List (Checked PaginatedMarkerComment)}
    (h : args.Records st cs) (page : List (Checked PaginatedMarkerComment)) :
    args.Records (page.foldl args.acceptComment st) (cs ++ page) := by
  induction page generalizing st cs with
  | nil => simpa using h
  | cons c page ih =>
    rw [List.foldl_cons, List.append_cons]
    exact ih (args.records_acceptComment h c)

/-- A comment changes neither the position nor the counts of the scan. -/
lemma sameFrame_acceptComment (st : MarkerScanState) (c : Checked PaginatedMarkerComment) :
    SameFrame st (args.acceptComment st c) := by
  rcases args.acceptComment_cases st c with ⟨-, -, heq⟩ | ⟨-, -, code, -, heq⟩ | ⟨-, -, heq⟩ <;>
    rw [heq, countMarker_eq]
  · unfold MarkerScanState.recordMatch
    split <;> exact ⟨rfl, rfl, rfl, rfl, rfl⟩
  · exact ⟨rfl, rfl, rfl, rfl, rfl⟩
  · exact ⟨rfl, rfl, rfl, rfl, rfl⟩

/-- Comments change nothing but what was found. -/
lemma sameFrame_foldl (st : MarkerScanState) (page : List (Checked PaginatedMarkerComment)) :
    SameFrame st (page.foldl args.acceptComment st) := by
  induction page generalizing st with
  | nil => exact ⟨rfl, rfl, rfl, rfl, rfl⟩
  | cons c page ih =>
    obtain ⟨h₁, h₂, h₃, h₄, h₅⟩ := args.sameFrame_acceptComment st c
    obtain ⟨k₁, k₂, k₃, k₄, k₅⟩ := ih (args.acceptComment st c)
    exact ⟨k₁.trans h₁, k₂.trans h₂, k₃.trans h₃, k₄.trans h₄, k₅.trans h₅⟩

/-! ## The state after some pages -/

/-- The cursor for the fetch after some pages. -/
def cursorAfter (pages : List MarkerCommentPage) : Cursor :=
  pages.getLast?.elim .absent MarkerCommentPage.nextCursor

/-- The state of the loop after the pages `done`, all of which refer to a next page. -/
structure Progress (st : MarkerScanState) (done : List MarkerCommentPage) : Prop where
  /-- Every page refers to a next page. -/
  continues : ∀ p ∈ done, p.Continues
  /-- The next fetch is at the cursor of the last page. -/
  cursor : st.cursor = cursorAfter done
  /-- The cursors seen are those of the pages. -/
  seen : ∀ c, c ∈ st.seenCursors ↔ c = .absent ∨ c ∈ done.map MarkerCommentPage.nextCursor
  /-- No cursor is repeated. -/
  fresh : (done.map MarkerCommentPage.nextCursor).Nodup
  /-- The pages are counted. -/
  pageCount : st.pageCount = done.length
  /-- The comments are counted. -/
  commentCount : st.commentCount = (chainComments done).length
  /-- The comments are recorded. -/
  records : args.Records st (chainComments done)

/-- The scan starts with no pages. -/
lemma progress_initial : args.Progress .initial [] where
  continues := by simp
  cursor := rfl
  seen := by simp [MarkerScanState.initial]
  fresh := by simp
  pageCount := rfl
  commentCount := rfl
  records := ⟨rfl, rfl, by simp [MarkerScanState.initial, chainComments],
    by simp [MarkerScanState.initial]⟩

/-- What a page does to the scan: it continues the chain, it completes the chain, or it ends the
scan with a failure although the chain with this page is not complete. -/
lemma acceptPage_cases {st : MarkerScanState} {done : List MarkerCommentPage}
    (h : args.Progress st done) (hcap : done.length < args.scanLimits.maxPages)
    (page : MarkerCommentPage) :
    (∃ st', args.acceptPage st page = .ok st' ∧ page.completed = false ∧
        args.Progress st' (done ++ [page])) ∨
      (∃ st', args.acceptPage st page = .ok st' ∧ page.completed = true ∧
        CompleteChain args.scanLimits (done ++ [page]) ∧
        args.Records st' (chainComments (done ++ [page]))) ∨
      (∃ code st', args.acceptPage st page = .error (code, st') ∧ code ≠ .safeToPost ∧
        code ≠ .matchedExisting ∧ ¬ CompleteChain args.scanLimits (done ++ [page])) := by
  have hends : ∀ {limits}, CompleteChain limits (done ++ [page]) → page.Ends := fun h => h.concat
  unfold acceptPage
  dsimp only
  split
  · rename_i hc
    exact .inr (.inr ⟨_, _, rfl, by decide, by decide, fun h => hc.2 (hends h).2⟩)
  rename_i hcomplete
  split
  · rename_i hc
    exact .inr (.inr ⟨_, _, rfl, by decide, by decide, fun h => by simp [(hends h).1] at hc⟩)
  split
  · rename_i hc
    exact .inr (.inr ⟨_, _, rfl, by decide, by decide, fun h => by simp [(hends h).1] at hc⟩)
  rename_i hvalid
  split
  · rename_i hlt
    refine .inr (.inr ⟨_, _, rfl, by decide, by decide, fun hchain => ?_⟩)
    have hle := hchain.commentCap
    rw [chainComments_concat, List.length_append, ← h.commentCount] at hle
    exact absurd hle (Nat.not_le.2 hlt)
  rename_i hle
  set st₁ : MarkerScanState := { st with
    pageCount := st.pageCount + 1
    requestId := safeMarkerRequestId page.requestId
    commentCount := st.commentCount + page.comments.length }
  obtain ⟨hcursor, hseen, hpages, hcomments, -⟩ := args.sameFrame_foldl st₁ page.comments
  have hrecords : args.Records (page.comments.foldl args.acceptComment st₁)
      (chainComments (done ++ [page])) := by
    have hst₁ : args.Records st₁ (chainComments done) := ⟨h.records.firstMatch,
      h.records.duplicates, h.records.deferred, h.records.reason⟩
    rw [chainComments_concat]
    exact args.records_foldl hst₁ page.comments
  have hcount : (chainComments (done ++ [page])).length ≤ args.scanLimits.maxComments := by
    rw [chainComments_concat, List.length_append, ← h.commentCount]
    exact Nat.not_lt.1 hle
  split
  · rename_i hcompleted
    refine .inr (.inl ⟨_, rfl, hcompleted, ⟨?_, ?_, ?_, hcount⟩, hrecords⟩)
    · exact ⟨done, page, rfl, h.continues, hcompleted, by simpa [hcompleted] using hcomplete⟩
    · simpa using h.fresh
    · simpa using hcap
  rename_i hcompleted
  rw [Bool.not_eq_true] at hcompleted
  have hcontinues : page.Continues := ⟨hcompleted, by simpa [hcompleted] using hvalid⟩
  have habsent : page.nextCursor ≠ .absent := by
    intro habs
    have hcur := hcontinues.2
    rw [habs] at hcur
    exact absurd hcur (by decide)
  rw [hseen]
  split
  · exact .inr
      (.inr ⟨_, _, rfl, by decide, by decide, fun h => by simp [(hends h).1] at hcompleted⟩)
  · rename_i hfresh
    have hnew : page.nextCursor ∉ done.map MarkerCommentPage.nextCursor := fun hmem =>
      hfresh ((h.seen _).2 (.inr hmem))
    refine .inl ⟨_, rfl, hcompleted, ⟨?_, ?_, ?_, ?_, ?_, ?_, ?_⟩⟩
    · intro p hp
      rcases List.mem_append.1 hp with hp | hp
      · exact h.continues p hp
      · exact List.mem_singleton.1 hp ▸ hcontinues
    · simp [cursorAfter]
    · intro c
      have := h.seen c
      simp only [st₁, List.mem_cons, List.map_append, List.map_singleton, List.mem_append, this]
      tauto
    · rw [List.map_append, List.nodup_append]
      refine ⟨h.fresh, by simp, ?_⟩
      rintro c hc _ hc' rfl
      rw [List.map_singleton, List.mem_singleton] at hc'
      exact hnew (hc' ▸ hc)
    · exact hpages.trans (by simp [st₁, h.pageCount])
    · exact hcomments.trans (by simp [st₁, h.commentCount, chainComments_concat])
    · exact ⟨hrecords.firstMatch, hrecords.duplicates, hrecords.deferred, hrecords.reason⟩

/-! ## The verdict of a complete scan -/

/-- The result says about the comments of a complete chain what it should. -/
structure Verdict (comments : List (Checked PaginatedMarkerComment))
    (r : MarkerReconciliationResult) : Prop where
  /-- Posting is safe exactly if no trusted comment ends with a malformed marker or a marker for the
  expected target and findings. -/
  safe : r.status = .safeToPost ↔ ∀ c ∈ comments, args.trusts c.val = true →
    ¬ MalformedMarker c.val ∧ ¬ args.SameReview c.val
  /-- The payload is posted exactly if a trusted comment ends with its marker and none ends with a
  malformed or conflicting one. -/
  reconciled : r.status = .reconciledExisting ↔
    (∃ c ∈ comments, args.trusts c.val = true ∧ args.ExactMarker c.val) ∧
      ∀ c ∈ comments, args.trusts c.val = true →
        ¬ MalformedMarker c.val ∧ ¬ args.ConflictingMarker c.val
  /-- The existing comment is the first one with the expected marker, the duplicates are the
  remaining ones in scan order. -/
  existing : r.status = .reconciledExisting → ∃ first rest, args.matching comments = first :: rest ∧
    r.existingCommentId = some first.val.commentId ∧
      r.duplicateCommentIds = rest.map fun c => c.val.commentId

/-- No comment blocks exactly if no trusted one is malformed or in conflict. -/
lemma not_exists_blocks_iff {comments : List (Checked PaginatedMarkerComment)} :
    (¬ ∃ c ∈ comments, args.Blocks c.val) ↔ ∀ c ∈ comments, args.trusts c.val = true →
      ¬ MalformedMarker c.val ∧ ¬ args.ConflictingMarker c.val := by
  unfold Blocks
  push Not
  rfl

/-- There is no match exactly if no trusted comment has the marker. -/
lemma matching_eq_nil_iff {comments : List (Checked PaginatedMarkerComment)} :
    args.matching comments = [] ↔ ∀ c ∈ comments, args.trusts c.val = true →
      ¬ args.ExactMarker c.val := by
  rw [matching, List.filter_eq_nil_iff]
  refine forall₂_congr fun c _ => ?_
  rw [decide_eq_true_iff]
  exact not_and

/-- The end of a complete scan never raises and gives the right verdict. -/
lemma finish_verdict {st : MarkerScanState} {comments : List (Checked PaginatedMarkerComment)}
    (h : args.Records st comments) :
    ∃ r, st.finish = .ok r ∧ args.Verdict comments r.val := by
  have hsafe : (∀ c ∈ comments, args.trusts c.val = true →
      ¬ MalformedMarker c.val ∧ ¬ args.SameReview c.val) ↔
        (¬ ∃ c ∈ comments, args.Blocks c.val) ∧ args.matching comments = [] := by
    rw [not_exists_blocks_iff, matching_eq_nil_iff, ← forall₂_and]
    refine forall₂_congr fun c _ => ?_
    rw [sameReview_iff]
    tauto
  have hrec : ((∃ c ∈ comments, args.trusts c.val = true ∧ args.ExactMarker c.val) ∧
      ∀ c ∈ comments, args.trusts c.val = true →
        ¬ MalformedMarker c.val ∧ ¬ args.ConflictingMarker c.val) ↔
        args.matching comments ≠ [] ∧ ¬ ∃ c ∈ comments, args.Blocks c.val := by
    rw [not_exists_blocks_iff, Ne, matching_eq_nil_iff]
    push Not
    rfl
  unfold MarkerScanState.finish
  cases hd : st.deferredFailure with
  | some d =>
    obtain ⟨code, requestId⟩ := d
    have hblocks : ∃ c ∈ comments, args.Blocks c.val := h.deferred.1 (by simp [hd])
    have hcode := h.reason (code, requestId) hd
    obtain ⟨r, s, hr, -, hval⟩ := @trustedMarkerFailure_ok code
      (by rintro rfl; simp at hcode) (by rintro rfl; simp at hcode)
      st.pageCount st.commentCount st.markerCount requestId
    refine ⟨r, hr, ?_, ?_, ?_⟩
    · rw [hsafe, hval]
      simp [hblocks]
    · rw [hrec, hval]
      simp [hblocks]
    · rw [hval]
      simp
  | none =>
    have hblocks : ¬ ∃ c ∈ comments, args.Blocks c.val := fun hb => h.deferred.2 hb hd
    obtain ⟨s, hs, hval⟩ :=
      markerScanSummary_ok st.pageCount st.commentCount st.markerCount st.requestId none
    have hreason : s.val.reasonCode = none ∧ s.val.retryable = false := by
        rw [hval]; exact ⟨rfl, rfl⟩
    cases hm : args.matching comments with
    | nil =>
      have hmatch : st.trustedMatch = none := by rw [h.firstMatch, hm]; rfl
      simp only [hmatch, hs, bind, Except.bind]
      refine ⟨⟨_, ?checks⟩, construct_of_postInit ?checks, ?_, ?_, ?_⟩
      case checks => simp [Record.postInit, hreason]
      · rw [hsafe]
        simp [hblocks, hm]
      · rw [hrec]
        simp [hm]
      · simp
    | cons first rest =>
      have hmatch : st.trustedMatch = some first := by rw [h.firstMatch, hm]; rfl
      have hdup : st.duplicateCommentIds = rest.map fun c => c.val.commentId := by
        rw [h.duplicates, hm, List.tail_cons]
      simp only [hmatch, hs, bind, Except.bind]
      have hfirst : first.val.authorLogin ≠ [] := by
        have hmem : first ∈ args.matching comments := by simp [hm]
        have htrust := (of_decide_eq_true (List.mem_filter.1 hmem).2).1
        simp only [trusts, isTrustedMarkerAuthor, Bool.and_eq_true, decide_eq_true_eq] at htrust
        exact htrust.1.1.1.2
      refine ⟨⟨_, ?checks⟩, construct_of_postInit ?checks, ?_, ?_, ?_⟩
      case checks =>
        have hids : ∀ id ∈ rest.map (fun c => c.val.commentId), id ≠ [] := by
          intro id hid
          obtain ⟨c, -, rfl⟩ := List.mem_map.1 hid
          exact PaginatedMarkerComment.commentId_ne_nil c
        simp only [Record.postInit, check_bind_eq_ok, requireOptionalNonEmpty_eq_ok,
          requireStringTuple_eq_ok, require_eq_ok, hdup, hreason]
        exact ⟨by simpa using hfirst,
          by simpa using PaginatedMarkerComment.commentId_ne_nil first, ⟨hids, .inl trivial⟩,
          by simp⟩
      · rw [hsafe]
        simp [hm]
      · rw [hrec]
        simp [hblocks, hm]
      · exact fun _ => ⟨first, rest, hm, rfl, hdup⟩

end MarkerScanArguments

end ReviewGraph
