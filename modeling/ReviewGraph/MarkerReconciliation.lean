import ReviewGraph.MarkerScan

/-!
# The trusted marker scan is exact and blind to untrusted authors

`reconcile_paginated_trusted_markers` against an arbitrary transport.  A run is described by its
exchanges; it `Completes` a chain of pages when the exchanges are the fetches of exactly these pages
and the chain is complete.  The loop lemma `scan_runs` carries the invariant `Progress` through the
fetches and classifies every run: either it completes a chain and the result is the verdict on its
comments, or it completes none and the result fails closed.

The second half replaces the bodies of comments by untrusted authors: the scan issues the same
fetches and its result differs at most in the number of markers seen.
-/

namespace ReviewGraph

open Interaction

namespace MarkerScanArguments

variable (args : MarkerScanArguments)

/-! ## Runs that complete a chain -/

/-- The exchanges that fetch the given pages, starting at a cursor. -/
def chainEvents : Cursor → List MarkerCommentPage → List (Event MarkerFetch fun _ => FetchOutcome)
  | _, [] => []
  | cursor, page :: pages =>
    ⟨⟨args.ownerRepo, args.prNumber, cursor, args.scanLimits.timeoutSeconds⟩, .page page⟩ ::
      chainEvents page.nextCursor pages

/-- The exchanges fetch exactly the given pages, and these form a complete chain. -/
def Completes (tr : List (Event MarkerFetch fun _ => FetchOutcome))
    (pages : List MarkerCommentPage) : Prop :=
  tr = args.chainEvents .absent pages ∧ CompleteChain args.scanLimits pages

/-- The fetches of a chain of pages determine the pages. -/
lemma chainEvents_injective (cursor : Cursor) : Function.Injective (args.chainEvents cursor) := by
  intro pages pages' heq
  induction pages generalizing cursor pages' with
  | nil =>
    cases pages' with
    | nil => rfl
    | cons page' pages' => cases heq
  | cons page pages ih =>
    cases pages' with
    | nil => cases heq
    | cons page' pages' =>
      obtain ⟨hevent, hrest⟩ := List.cons.inj heq
      have hpage : FetchOutcome.page page = .page page' := eq_of_heq (Sigma.mk.inj hevent).2
      obtain rfl := FetchOutcome.page.inj hpage
      rw [ih _ hrest]

/-- A run completes at most one chain. -/
lemma Completes.unique {args : MarkerScanArguments}
    {tr : List (Event MarkerFetch fun _ => FetchOutcome)} {pages pages' : List MarkerCommentPage}
    (h : args.Completes tr pages) (h' : args.Completes tr pages') : pages = pages' :=
  args.chainEvents_injective .absent (h.1.symm.trans h'.1)

/-- Exchanges that begin with a page fetch a chain that begins with this page. -/
lemma eq_cons_of_chainEvents {cursor : Cursor} {fetched : MarkerFetch} {page : MarkerCommentPage}
    {tr : List (Event MarkerFetch fun _ => FetchOutcome)} {pages : List MarkerCommentPage}
    (h : (⟨fetched, .page page⟩ : Event MarkerFetch fun _ => FetchOutcome) :: tr =
      args.chainEvents cursor pages) :
    ∃ rest, pages = page :: rest ∧ tr = args.chainEvents page.nextCursor rest := by
  cases pages with
  | nil => cases h
  | cons page' rest =>
    obtain ⟨hevent, hrest⟩ := List.cons.inj h
    have hpage : FetchOutcome.page page = .page page' := eq_of_heq (Sigma.mk.inj hevent).2
    obtain rfl := FetchOutcome.page.inj hpage
    exact ⟨rest, rfl, hrest⟩

/-- The pages accepted so far are not complete, for the last one refers to a next page. -/
lemma Progress.not_complete {args : MarkerScanArguments} {st : MarkerScanState}
    {done : List MarkerCommentPage} (h : args.Progress st done) (limits : MarkerScanLimits) :
    ¬ CompleteChain limits done := by
  intro hchain
  obtain ⟨init, last, rfl, -, hlast⟩ := hchain.shape
  have hcontinues : last.Continues := h.continues last (by simp)
  exact absurd (hlast.1.symm.trans hcontinues.1) (by simp)

/-- A failure of the scan never raises. -/
lemma failure_ok (st : MarkerScanState) {reasonCode : MarkerReconciliationReasonCode}
    (h₁ : reasonCode ≠ .safeToPost) (h₂ : reasonCode ≠ .matchedExisting) (requestId : Option Text) :
    ∃ r, st.failure reasonCode requestId = .ok r ∧ r.val.status = .failedClosed := by
  obtain ⟨r, s, hr, -, hval⟩ := trustedMarkerFailure_ok h₁ h₂ st.pageCount st.commentCount
    st.markerCount requestId
  refine ⟨r, hr, ?_⟩
  rw [hval]

/-- A transport reports neither that posting is safe nor that the payload is posted. -/
lemma transportFailure_ne (f : MarkerScanTransportFailure) :
    f.reasonCode ≠ .safeToPost ∧ f.reasonCode ≠ .matchedExisting := by
  have hmem := f.transportReason
  constructor
  · intro heq
    rw [heq] at hmem
    exact absurd hmem (by decide)
  · intro heq
    rw [heq] at hmem
    exact absurd hmem (by decide)

/-- What a run of the loop establishes after the pages `done`. -/
def Classified (done : List MarkerCommentPage) (cursor : Cursor)
    (tr : List (Event MarkerFetch fun _ => FetchOutcome)) (r : MarkerReconciliationResult) : Prop :=
  (∃ pages, tr = args.chainEvents cursor pages ∧ CompleteChain args.scanLimits (done ++ pages) ∧
      args.Verdict (chainComments (done ++ pages)) r) ∨
    (r.status = .failedClosed ∧ ∀ pages, tr = args.chainEvents cursor pages →
      ¬ CompleteChain args.scanLimits (done ++ pages))

/-- The loop of the scan: every run is within the remaining fetches, returns a result and is
classified by the pages it fetched. -/
lemma scan_runs {remaining : ℕ} {st : MarkerScanState} {done : List MarkerCommentPage}
    (h : args.Progress st done) (hremaining : done.length + remaining = args.scanLimits.maxPages)
    {tr : List (Event MarkerFetch fun _ => FetchOutcome)}
    {res : Result (Checked MarkerReconciliationResult)}
    (hrun : Runs (args.scan remaining st) tr res) :
    ∃ r, res = .ok r ∧ tr.length ≤ remaining ∧ args.Classified done st.cursor tr r.val := by
  induction remaining generalizing st done tr with
  | zero =>
    rw [scan, runs_ret_iff] at hrun
    obtain ⟨rfl, rfl⟩ := hrun
    obtain ⟨r, hr, hfailed⟩ := @failure_ok st .pageCapExceeded (by decide) (by decide)
      st.requestId
    refine ⟨r, hr, le_rfl, .inr ⟨hfailed, ?_⟩⟩
    intro pages hpages
    cases pages with
    | nil => simpa using h.not_complete args.scanLimits
    | cons page pages => cases hpages
  | succ remaining ih =>
    rw [scan, runs_call_iff] at hrun
    obtain ⟨outcome, tr', rfl, hrest⟩ := hrun
    -- An outcome other than a page ends the scan, and no chain has such an exchange.
    have hends : ∀ {code requestId}, code ≠ .safeToPost → code ≠ .matchedExisting →
        (∀ page, outcome ≠ .page page) → Runs (.ret (st.failure code requestId)) tr' res →
        ∃ r, res = .ok r ∧ (⟨args.fetch st, outcome⟩ :: tr' :
          List (Event MarkerFetch fun _ => FetchOutcome)).length ≤ remaining + 1 ∧
          args.Classified done st.cursor (⟨args.fetch st, outcome⟩ :: tr') r.val := by
      intro code requestId h₁ h₂ hpage hret
      obtain ⟨rfl, rfl⟩ := runs_ret_iff.1 hret
      obtain ⟨r, hr, hfailed⟩ := failure_ok st h₁ h₂ requestId
      refine ⟨r, hr, by simp, .inr ⟨hfailed, ?_⟩⟩
      intro pages hpages
      cases pages with
      | nil => cases hpages
      | cons page pages =>
        have hevent := (Sigma.mk.inj (List.cons.inj hpages).1).2
        exact absurd (eq_of_heq hevent) (hpage page)
    cases outcome with
    | failure f =>
      exact hends (transportFailure_ne f).1 (transportFailure_ne f).2 (by simp) hrest
    | raised => exact hends (by decide) (by decide) (by simp) hrest
    | notPage => exact hends (by decide) (by decide) (by simp) hrest
    | page page =>
      have hcap : done.length < args.scanLimits.maxPages := by omega
      dsimp only at hrest
      rcases args.acceptPage_cases h hcap page with ⟨st', hok, hcompleted, hprogress⟩ |
        ⟨st', hok, hcompleted, hchain, hrecords⟩ | ⟨code, st', herror, h₁, h₂, hchain⟩
      · rw [hok] at hrest
        dsimp only at hrest
        rw [if_neg (by simp [hcompleted])] at hrest
        obtain ⟨r, hr, hlen, hclass⟩ := ih hprogress (by simp; omega) hrest
        have hcursor : st'.cursor = page.nextCursor := by
          rw [hprogress.cursor]
          simp [cursorAfter]
        rw [hcursor] at hclass
        refine ⟨r, hr, by simpa using hlen, ?_⟩
        rcases hclass with ⟨pages, rfl, hchain, hverdict⟩ | ⟨hfailed, hno⟩
        · rw [List.append_assoc, List.singleton_append] at hchain hverdict
          exact .inl ⟨page :: pages, rfl, hchain, hverdict⟩
        · refine .inr ⟨hfailed, ?_⟩
          intro pages hpages
          obtain ⟨rest, rfl, hrest'⟩ := args.eq_cons_of_chainEvents hpages
          have := hno rest hrest'
          rwa [List.append_assoc, List.singleton_append] at this
      · rw [hok] at hrest
        dsimp only at hrest
        rw [if_pos hcompleted, runs_ret_iff] at hrest
        obtain ⟨rfl, rfl⟩ := hrest
        obtain ⟨r, hr, hverdict⟩ := args.finish_verdict hrecords
        exact ⟨r, hr, by simp, .inl ⟨[page], rfl, hchain, hverdict⟩⟩
      · rw [herror] at hrest
        dsimp only at hrest
        rw [runs_ret_iff] at hrest
        obtain ⟨rfl, rfl⟩ := hrest
        obtain ⟨r, hr, hfailed⟩ := failure_ok st' h₁ h₂ st'.requestId
        refine ⟨r, hr, by simp, .inr ⟨hfailed, ?_⟩⟩
        intro pages hpages
        obtain ⟨rest, rfl, hrest'⟩ := args.eq_cons_of_chainEvents hpages
        cases rest with
        | nil => exact hchain
        | cons page' rest => cases hrest'

/-- With valid arguments the scan is its loop. -/
lemma reconcile_eq_scan {args : MarkerScanArguments} (hargs : args.check = .ok ()) :
    reconcilePaginatedTrustedMarkers args = args.scan args.scanLimits.maxPages .initial := by
  rw [reconcilePaginatedTrustedMarkers, hargs]

/-- A whole scan: it stays within the page cap, returns a result, and either completes a chain and
gives the verdict on its comments, or completes none and fails closed. -/
lemma reconcile_runs {args : MarkerScanArguments} (hargs : args.check = .ok ())
    {tr : List (Event MarkerFetch fun _ => FetchOutcome)}
    {res : Result (Checked MarkerReconciliationResult)}
    (hrun : Runs (reconcilePaginatedTrustedMarkers args) tr res) :
    ∃ r, res = .ok r ∧ tr.length ≤ args.scanLimits.maxPages ∧
      ((∃ pages, args.Completes tr pages ∧ args.Verdict (chainComments pages) r.val) ∨
        (r.val.status = .failedClosed ∧ ∀ pages, ¬ args.Completes tr pages)) := by
  rw [reconcile_eq_scan hargs] at hrun
  obtain ⟨r, hr, hlen, hclass⟩ := args.scan_runs args.progress_initial (by simp) hrun
  refine ⟨r, hr, hlen, ?_⟩
  rcases hclass with ⟨pages, htr, hchain, hverdict⟩ | ⟨hfailed, hno⟩
  · exact .inl ⟨pages, ⟨htr, hchain⟩, hverdict⟩
  · exact .inr ⟨hfailed, fun pages hcompletes => hno pages hcompletes.1 hcompletes.2⟩

/-! ## The pages of a complete chain are read -/

/-- A page that refers to a fresh cursor is accepted within the comment cap. -/
lemma acceptPage_of_continues {st : MarkerScanState} {page : MarkerCommentPage}
    (hcontinues : page.Continues) (hfresh : page.nextCursor ∉ st.seenCursors)
    (hcap : st.commentCount + page.comments.length ≤ args.scanLimits.maxComments) :
    ∃ st', args.acceptPage st page = .ok st' := by
  obtain ⟨hcompleted, hvalid⟩ := hcontinues
  have habsent : page.nextCursor ≠ .absent := by
    intro habs
    rw [habs] at hvalid
    exact absurd hvalid (by decide)
  unfold acceptPage
  dsimp only
  rw [if_neg (by simp [hcompleted]), if_neg (by simp [habsent]), if_neg (by simp [hvalid]),
    if_neg (Nat.not_lt.2 hcap), if_neg (by simp [hcompleted])]
  split
  · rename_i hseen
    rw [(args.sameFrame_foldl _ page.comments).2.1] at hseen
    exact absurd hseen hfresh
  · exact ⟨_, rfl⟩

/-- A transport that serves the rest of a complete chain lets the loop end. -/
lemma scan_serves {pages : List MarkerCommentPage} :
    ∀ {remaining : ℕ} {st : MarkerScanState} {done : List MarkerCommentPage},
      args.Progress st done → CompleteChain args.scanLimits (done ++ pages) → pages ≠ [] →
      done.length + remaining = args.scanLimits.maxPages →
      ∃ res, Runs (args.scan remaining st) (args.chainEvents st.cursor pages) res := by
  induction pages with
  | nil => exact fun _ _ h => absurd rfl h
  | cons page pages ih =>
    intro remaining st done hprogress hchain _ hremaining
    have hpageCap := hchain.pageCap
    rw [List.length_append, List.length_cons] at hpageCap
    obtain ⟨remaining, rfl⟩ : ∃ n, remaining = n + 1 := ⟨remaining - 1, by omega⟩
    have hcap : done.length < args.scanLimits.maxPages := by omega
    rw [scan, chainEvents]
    obtain ⟨init, last, hshape, hinit, hlast⟩ := hchain.shape
    cases pages with
    | nil =>
      have hends : page.Ends := hchain.concat
      rcases args.acceptPage_cases hprogress hcap page with ⟨st', -, hmore, -⟩ | ⟨st', hok, -, -⟩ |
        ⟨code, st', -, -, -, hno⟩
      · rw [hends.1] at hmore
        contradiction
      · refine ⟨st'.finish, runs_call_iff.2 ⟨_, _, rfl, ?_⟩⟩
        dsimp only
        rw [hok]
        dsimp only
        rw [if_pos hends.1]
        exact .ret _
      · exact absurd hchain hno
    | cons next pages =>
      -- The page is not the last one, and so refers to the next.
      have hinit' : init = done ++ page :: (next :: pages).dropLast := by
        have hdrop := congrArg List.dropLast hshape
        rw [List.dropLast_concat, List.dropLast_append_of_ne_nil (by simp)] at hdrop
        exact hdrop.symm
      have hcontinues : page.Continues := hinit page (by rw [hinit']; simp)
      have hfresh : page.nextCursor ∉ st.seenCursors := by
        rw [hprogress.seen]
        rintro (habs | hmem)
        · have hvalid := hcontinues.2
          rw [habs] at hvalid
          exact absurd hvalid (by decide)
        · have hnodup := hchain.fresh
          rw [List.dropLast_append_of_ne_nil (by simp), List.dropLast_cons_cons, List.map_append,
            List.map_cons, List.nodup_append] at hnodup
          exact hnodup.2.2 _ hmem _ List.mem_cons_self rfl
      have hcount : st.commentCount + page.comments.length ≤ args.scanLimits.maxComments := by
        have hcap := hchain.commentCap
        rw [chainComments, List.flatMap_append, List.flatMap_cons, List.length_append,
          List.length_append] at hcap
        rw [hprogress.commentCount, chainComments]
        omega
      obtain ⟨st', hok⟩ := args.acceptPage_of_continues hcontinues hfresh hcount
      rcases args.acceptPage_cases hprogress hcap page with ⟨st'', hok', -, hprogress'⟩ |
        ⟨st'', -, hdone, -⟩ | ⟨code, st'', herror, -⟩
      · obtain rfl := Except.ok.inj (hok.symm.trans hok')
        rw [List.append_cons] at hchain
        have hlength : (done ++ [page]).length + remaining = args.scanLimits.maxPages := by
          rw [List.length_append, List.length_singleton]
          omega
        obtain ⟨res, hres⟩ := ih hprogress' hchain (by simp) hlength
        have hcursor : st'.cursor = page.nextCursor := by
          rw [hprogress'.cursor]
          simp [cursorAfter]
        rw [hcursor] at hres
        refine ⟨res, runs_call_iff.2 ⟨_, _, rfl, ?_⟩⟩
        dsimp only
        rw [hok]
        dsimp only
        rw [if_neg (by simp [hcontinues.1])]
        exact hres
      · rw [hcontinues.1] at hdone
        contradiction
      · rw [hok] at herror
        contradiction

/-- The scan of a complete chain returns the verdict on its comments, and nothing else. -/
lemma reconcile_completeChain {args : MarkerScanArguments} (hargs : args.check = .ok ())
    {pages : List MarkerCommentPage} (hpages : CompleteChain args.scanLimits pages) :
    ∃ r : Checked MarkerReconciliationResult,
      (∀ res, Runs (reconcilePaginatedTrustedMarkers args) (args.chainEvents .absent pages) res ↔
        res = .ok r) ∧ args.Verdict (chainComments pages) r.val := by
  have hne : pages ≠ [] := by
    obtain ⟨init, last, rfl, -, -⟩ := hpages.shape
    simp
  have hrun : ∃ res, Runs (reconcilePaginatedTrustedMarkers args) (args.chainEvents .absent pages)
      res := by
    rw [reconcile_eq_scan hargs]
    exact args.scan_serves args.progress_initial hpages hne (by simp)
  obtain ⟨res, hrun⟩ := hrun
  obtain ⟨r, rfl, -, hclass⟩ := reconcile_runs hargs hrun
  refine ⟨r, fun res' => ⟨fun hrun' => hrun'.det hrun, fun heq => heq ▸ hrun⟩, ?_⟩
  have hcompletes : args.Completes (args.chainEvents .absent pages) pages := ⟨rfl, hpages⟩
  rcases hclass with ⟨pages', hcompletes', hverdict⟩ | ⟨-, hno⟩
  · rwa [hcompletes'.unique hcompletes] at hverdict
  · exact absurd hcompletes (hno pages)

/-! ## Comments by untrusted authors -/

/-- The same comment, save for the body when the author is not trusted. -/
def SameButUntrusted (c c' : Checked PaginatedMarkerComment) : Prop :=
  c'.val = { c.val with body := c'.val.body } ∧ (args.trusts c.val = true → c' = c)

/-- The same answer of the transport, save for bodies by untrusted authors. -/
def SameOutcome : FetchOutcome → FetchOutcome → Prop
  | .page page, .page page' =>
    page' = { page with comments := page'.comments } ∧
      List.Forall₂ args.SameButUntrusted page.comments page'.comments
  | outcome, outcome' => outcome = outcome'

/-- The same call with the same answer, save for bodies by untrusted authors. -/
def SameExchange (e e' : Event MarkerFetch fun _ => FetchOutcome) : Prop :=
  e'.1 = e.1 ∧ args.SameOutcome e.2 e'.2

/-- The same state, save for the number of markers seen. -/
def SameButCount (st st' : MarkerScanState) : Prop :=
  st' = { st with markerCount := st'.markerCount }

/-- The same result, save for the number of markers seen. -/
def SameResult (r r' : MarkerReconciliationResult) : Prop :=
  r' = { r with transportSummary := r'.transportSummary } ∧
    r'.transportSummary.val =
      { r.transportSummary.val with markerCount := r'.transportSummary.val.markerCount }

/-- Processing a comment does not look at the number of markers seen. -/
lemma sameButCount_acceptComment_left (st : MarkerScanState) (n : ℕ)
    (c : Checked PaginatedMarkerComment) :
    SameButCount (args.acceptComment st c) (args.acceptComment { st with markerCount := n } c) := by
  unfold SameButCount acceptComment MarkerScanState.defer MarkerScanState.recordMatch
  dsimp only
  cases (bodyFinalLine c.val.body).bind parseReviewgraphV1MarkerLine with
  | none =>
    cases args.trusts c.val <;> cases looksLikeReviewgraphMarker (bodyFinalLine c.val.body) <;> rfl
  | some m =>
    cases args.trusts c.val with
    | false => rfl
    | true =>
      simp only [Option.isSome_some, Bool.true_or, if_true, Bool.not_true, Bool.false_eq_true,
        if_false]
      split_ifs
      · rfl
      · rfl
      · cases st.trustedMatch <;> rfl

/-- A comment by an untrusted author changes the number of markers seen only. -/
lemma sameButCount_of_untrusted (st : MarkerScanState) {c : Checked PaginatedMarkerComment}
    (h : ¬ args.trusts c.val = true) : SameButCount st (args.acceptComment st c) := by
  rcases args.acceptComment_cases st c with ⟨hm, -, -⟩ | ⟨-, hb, -⟩ | ⟨-, -, heq⟩
  · exact absurd hm.1 h
  · exact absurd hb.1 h
  · rw [heq]
    exact countMarker_eq st c.val

/-- Being the same but for counts is reflexive. -/
@[simp] lemma SameButCount.refl (st : MarkerScanState) : SameButCount st st := rfl

/-- It is transitive. -/
lemma SameButCount.trans {st st' st'' : MarkerScanState} (h : SameButCount st st')
    (h' : SameButCount st' st'') : SameButCount st st'' := by
  unfold SameButCount at *
  rw [h', h]

/-- It is symmetric. -/
lemma SameButCount.symm {st st' : MarkerScanState} (h : SameButCount st st') :
    SameButCount st' st := by
  unfold SameButCount at *
  rw [h]

/-- Processing a comment treats states that differ in the count alike, whatever the body of a
comment by an untrusted author. -/
lemma sameButCount_acceptComment {st st' : MarkerScanState} (h : SameButCount st st')
    {c c' : Checked PaginatedMarkerComment} (hc : args.SameButUntrusted c c') :
    SameButCount (args.acceptComment st c) (args.acceptComment st' c') := by
  obtain ⟨hval, htrusted⟩ := hc
  by_cases htrust : args.trusts c.val = true
  · obtain rfl := htrusted htrust
    rw [h]
    exact args.sameButCount_acceptComment_left st st'.markerCount c'
  · have htrust' : ¬ args.trusts c'.val = true := by
      rw [hval]
      exact htrust
    have hleft := (args.sameButCount_of_untrusted st htrust).symm
    exact hleft.trans (h.trans (args.sameButCount_of_untrusted st' htrust'))

/-- It is kept by comments that are the same but for untrusted ones. -/
lemma sameButCount_foldl {st st' : MarkerScanState} (h : SameButCount st st')
    {cs cs' : List (Checked PaginatedMarkerComment)} (hcs : List.Forall₂ args.SameButUntrusted cs
      cs') :
    SameButCount (cs.foldl args.acceptComment st) (cs'.foldl args.acceptComment st') := by
  induction hcs generalizing st st' with
  | nil => exact h
  | cons hc _ ih => exact ih (args.sameButCount_acceptComment h hc)

/-- A page is processed alike. -/
lemma sameButCount_acceptPage {st st' : MarkerScanState} (h : SameButCount st st')
    {page page' : MarkerCommentPage} (hpage : args.SameOutcome (.page page) (.page page')) :
    (∃ s s', args.acceptPage st page = .ok s ∧ args.acceptPage st' page' = .ok s' ∧
        SameButCount s s') ∨
      ∃ code s s', args.acceptPage st page = .error (code, s) ∧
        args.acceptPage st' page' = .error (code, s') ∧ SameButCount s s' := by
  obtain ⟨heq, hcomments⟩ := hpage
  have hlen := hcomments.length_eq
  obtain ⟨comments', next, completed, requestId⟩ := page'
  obtain ⟨-, rfl, rfl, rfl⟩ := MarkerCommentPage.mk.inj heq
  dsimp only at hcomments hlen
  unfold acceptPage
  rw [h]
  dsimp only
  rw [← hlen]
  have hstart : SameButCount
      { st with
        pageCount := st.pageCount + 1
        requestId := safeMarkerRequestId page.requestId
        commentCount := st.commentCount + page.comments.length }
      { st with
        pageCount := st.pageCount + 1
        requestId := safeMarkerRequestId page.requestId
        commentCount := st.commentCount + page.comments.length
        markerCount := st'.markerCount } := rfl
  have hfold := args.sameButCount_foldl hstart hcomments
  generalize page.comments.foldl args.acceptComment _ = after at hfold ⊢
  generalize comments'.foldl args.acceptComment _ = after' at hfold ⊢
  rw [hfold]
  split_ifs
  · exact .inr ⟨_, _, _, rfl, rfl, rfl⟩
  · exact .inr ⟨_, _, _, rfl, rfl, rfl⟩
  · exact .inr ⟨_, _, _, rfl, rfl, rfl⟩
  · exact .inr ⟨_, _, _, rfl, rfl, rfl⟩
  · exact .inl ⟨_, _, rfl, rfl, rfl⟩
  · exact .inr ⟨_, _, _, rfl, rfl, rfl⟩
  · exact .inl ⟨_, _, rfl, rfl, rfl⟩

/-- The checks of a result do not look at the number of markers seen. -/
lemma SameResult.postInit_eq {r r' : MarkerReconciliationResult} (h : SameResult r r') :
    Record.postInit r' = Record.postInit r := by
  obtain ⟨hr, hs⟩ := h
  have hcode : r'.transportSummary.val.reasonCode = r.transportSummary.val.reasonCode := by rw [hs]
  have hretry : r'.transportSummary.val.retryable = r.transportSummary.val.retryable := by rw [hs]
  rw [hr]
  simp only [Record.postInit, hcode, hretry]

/-- The summaries of a scan differ in the number of markers seen only. -/
lemma markerScanSummary_withCount {pages comments markers : ℕ} {requestId : Option Text}
    {code : Option MarkerReconciliationReasonCode} {s : Checked MarkerScanTransportSummary}
    (h : markerScanSummary pages comments markers requestId code = .ok s) (markers' : ℕ) :
    ∃ s', markerScanSummary pages comments markers' requestId code = .ok s' ∧
      s'.val = { s.val with markerCount := s'.val.markerCount } := by
  obtain ⟨t, ht, hval⟩ := markerScanSummary_ok pages comments markers requestId code
  obtain ⟨t', ht', hval'⟩ := markerScanSummary_ok pages comments markers' requestId code
  obtain rfl : t = s := Except.ok.inj (ht.symm.trans h)
  refine ⟨t', ht', ?_⟩
  rw [hval, hval']

/-- A result built from such summaries is the same save for the number of markers seen. -/
lemma construct_sameResult {build : Checked MarkerScanTransportSummary → MarkerReconciliationResult}
    (hbuild : ∀ s s', build s' = { build s with transportSummary := s' })
    (hsummary : ∀ s, (build s).transportSummary = s)
    {pages comments markers : ℕ} {requestId : Option Text}
    {code : Option MarkerReconciliationReasonCode} {r : Checked MarkerReconciliationResult}
    (h : (markerScanSummary pages comments markers requestId code >>= fun s =>
      construct (build s)) = .ok r) (markers' : ℕ) :
    ∃ r', (markerScanSummary pages comments markers' requestId code >>= fun s =>
      construct (build s)) = .ok r' ∧ SameResult r.val r'.val := by
  obtain ⟨s, hs, hr⟩ := bind_eq_ok.1 h
  obtain ⟨s', hs', hval⟩ := markerScanSummary_withCount hs markers'
  have hsame : SameResult (build s) (build s') := by
    refine ⟨?_, ?_⟩
    · rw [hsummary, hbuild s s']
    · rw [hsummary, hsummary, hval]
  have heq : r.val = build s := construct_eq_ok.1 hr
  have hchecks : Record.postInit (build s') = .ok () := by
    rw [hsame.postInit_eq, ← heq]
    exact r.property
  refine ⟨⟨build s', hchecks⟩, bind_eq_ok.2 ⟨s', hs', construct_of_postInit hchecks⟩, ?_⟩
  rw [heq]
  exact hsame

/-- A failure is the same from states that differ in the count. -/
lemma SameButCount.failure {st st' : MarkerScanState} (h : SameButCount st st')
    {code : MarkerReconciliationReasonCode} {requestId : Option Text}
    {r : Checked MarkerReconciliationResult} (hr : st.failure code requestId = .ok r) :
    ∃ r', st'.failure code requestId = .ok r' ∧ SameResult r.val r'.val := by
  rw [h]
  exact construct_sameResult (by intros; rfl) (by intros; rfl) hr st'.markerCount

/-- The end of a complete scan is the same from states that differ in the count. -/
lemma SameButCount.finish {st st' : MarkerScanState} (h : SameButCount st st')
    {r : Checked MarkerReconciliationResult} (hr : st.finish = .ok r) :
    ∃ r', st'.finish = .ok r' ∧ SameResult r.val r'.val := by
  rw [h]
  unfold MarkerScanState.finish at hr ⊢
  dsimp only
  cases hd : st.deferredFailure with
  | some d =>
    rw [hd] at hr
    exact @SameButCount.failure _ { st with markerCount := st'.markerCount } rfl _ _ _ hr
  | none =>
    rw [hd] at hr
    cases hm : st.trustedMatch with
    | some comment =>
      rw [hm] at hr
      exact construct_sameResult (by intros; rfl) (by intros; rfl) hr st'.markerCount
    | none =>
      rw [hm] at hr
      exact construct_sameResult (by intros; rfl) (by intros; rfl) hr st'.markerCount

/-- The loop of the scan is blind to the bodies of comments by untrusted authors. -/
lemma scan_blind {remaining : ℕ} {st st' : MarkerScanState} (h : SameButCount st st')
    {tr tr' : List (Event MarkerFetch fun _ => FetchOutcome)}
    {r : Checked MarkerReconciliationResult} (hrun : Runs (args.scan remaining st) tr (.ok r))
    (htr : List.Forall₂ args.SameExchange tr tr') :
    ∃ r', Runs (args.scan remaining st') tr' (.ok r') ∧ SameResult r.val r'.val := by
  induction remaining generalizing st st' tr tr' with
  | zero =>
    obtain ⟨rfl, hr⟩ := runs_ret_iff.1 hrun
    cases htr
    have hrequest : st'.requestId = st.requestId := by rw [h]
    obtain ⟨r', hr', hsame⟩ := h.failure hr.symm
    refine ⟨r', ?_, hsame⟩
    rw [scan, hrequest, hr']
    exact .ret _
  | succ remaining ih =>
    rw [scan, runs_call_iff] at hrun
    obtain ⟨outcome, tr, rfl, hrest⟩ := hrun
    obtain ⟨⟨fetch', outcome'⟩, tr', ⟨hfetch, houtcome⟩, htail, rfl⟩ :=
      List.forall₂_cons_left_iff.1 htr
    dsimp only at hfetch houtcome
    have hfetch' : args.fetch st = args.fetch st' := by rw [h]; rfl
    rw [hfetch, hfetch', scan]
    -- An outcome other than a page ends both scans alike.
    have hends : ∀ {code requestId}, Runs (.ret (st.failure code requestId)) tr (.ok r) →
        ∃ r', Runs (.ret (st'.failure code requestId)) tr' (.ok r') ∧ SameResult r.val r'.val := by
      intro code requestId hret
      obtain ⟨rfl, hr⟩ := runs_ret_iff.1 hret
      cases htail
      obtain ⟨r', hr', hsame⟩ := h.failure hr.symm
      exact ⟨r', by rw [hr']; exact .ret _, hsame⟩
    have hrequest : st'.requestId = st.requestId := by rw [h]
    simp only [runs_call_cons_iff]
    cases outcome with
    | failure f =>
      cases outcome' with
      | failure f' =>
        obtain rfl := FetchOutcome.failure.inj houtcome
        exact hends hrest
      | _ => cases houtcome
    | raised =>
      cases outcome' with
      | raised =>
        rw [hrequest]
        exact hends hrest
      | _ => cases houtcome
    | notPage =>
      cases outcome' with
      | notPage =>
        rw [hrequest]
        exact hends hrest
      | _ => cases houtcome
    | page page =>
      cases outcome' with
      | page page' =>
        have hcompleted : page'.completed = page.completed := by rw [houtcome.1]
        dsimp only at hrest ⊢
        rcases args.sameButCount_acceptPage h houtcome with ⟨s, s', hs, hs', hsame⟩ |
          ⟨code, s, s', hs, hs', hsame⟩
        · rw [hs] at hrest
          rw [hs', hcompleted]
          dsimp only at hrest ⊢
          split
          · rename_i hdone
            rw [if_pos hdone, runs_ret_iff] at hrest
            obtain ⟨rfl, hr⟩ := hrest
            cases htail
            obtain ⟨r', hr', hres⟩ := hsame.finish hr.symm
            exact ⟨r', by rw [hr']; exact .ret _, hres⟩
          · rename_i hmore
            rw [if_neg hmore] at hrest
            exact ih hsame hrest htail
        · rw [hs] at hrest
          rw [hs']
          dsimp only at hrest ⊢
          obtain ⟨rfl, hr⟩ := runs_ret_iff.1 hrest
          cases htail
          have hid : s'.requestId = s.requestId := by rw [hsame]
          obtain ⟨r', hr', hres⟩ := hsame.failure hr.symm
          exact ⟨r', by rw [hid, hr']; exact .ret _, hres⟩
      | _ => cases houtcome

/-! ## The result -/

/-- `reconcile_paginated_trusted_markers` with valid arguments, whatever the transport does: it
returns within the page cap; posting is safe exactly if the pages complete a chain without a
trusted malformed marker or a trusted marker for the review; the payload is posted exactly if they
complete a chain with a trusted marker for the payload and no trusted malformed or conflicting
marker, and then the first match is the existing comment and the others are its duplicates;
otherwise the scan fails closed.  Other bodies for the comments by untrusted authors give the same
fetches and the same result up to the number of markers seen. -/
theorem reconcilePaginatedTrustedMarkers_exact (args : MarkerScanArguments)
    (hargs : args.check = .ok ()) :
    (∀ strategy : List (Event MarkerFetch fun _ => FetchOutcome) → MarkerFetch → FetchOutcome,
      ∃ tr res, Runs (reconcilePaginatedTrustedMarkers args) tr res ∧
        ∀ pre e post, tr = pre ++ e :: post → e.2 = strategy pre e.1) ∧
    ∀ tr res, Runs (reconcilePaginatedTrustedMarkers args) tr res →
      ∃ r : Checked MarkerReconciliationResult, res = .ok r ∧
        tr.length ≤ args.scanLimits.maxPages ∧
        (r.val.status = .safeToPost ↔ ∃ pages, args.Completes tr pages ∧
          ∀ c ∈ chainComments pages, args.trusts c.val = true →
            ¬ MalformedMarker c.val ∧ ¬ args.SameReview c.val) ∧
        (r.val.status = .reconciledExisting ↔ ∃ pages, args.Completes tr pages ∧
          (∃ c ∈ chainComments pages, args.trusts c.val = true ∧ args.ExactMarker c.val) ∧
          ∀ c ∈ chainComments pages, args.trusts c.val = true →
            ¬ MalformedMarker c.val ∧ ¬ args.ConflictingMarker c.val) ∧
        (r.val.status = .reconciledExisting → ∃ pages first rest, args.Completes tr pages ∧
          args.matching (chainComments pages) = first :: rest ∧
          r.val.existingCommentId = some first.val.commentId ∧
          r.val.duplicateCommentIds = rest.map fun c => c.val.commentId) ∧
        (r.val.status ≠ .safeToPost → r.val.status ≠ .reconciledExisting →
          r.val.status = .failedClosed) ∧
        ∀ tr', List.Forall₂ args.SameExchange tr tr' →
          ∃ r' : Checked MarkerReconciliationResult,
            Runs (reconcilePaginatedTrustedMarkers args) tr' (.ok r') ∧
              SameResult r.val r'.val := by
  refine ⟨fun strategy => exists_run strategy _, ?_⟩
  intro tr res hrun
  obtain ⟨r, rfl, hlen, hclass⟩ := reconcile_runs hargs hrun
  have hblind : ∀ tr', List.Forall₂ args.SameExchange tr tr' →
      ∃ r' : Checked MarkerReconciliationResult,
        Runs (reconcilePaginatedTrustedMarkers args) tr' (.ok r') ∧ SameResult r.val r'.val := by
    intro tr' htr
    rw [reconcile_eq_scan hargs] at hrun ⊢
    exact args.scan_blind (SameButCount.refl _) hrun htr
  have hstatus : r.val.status ≠ .safeToPost → r.val.status ≠ .reconciledExisting →
      r.val.status = .failedClosed := by
    cases r.val.status <;> simp
  rcases hclass with ⟨pages, hcompletes, hverdict⟩ | ⟨hfailed, hno⟩
  · have honly : ∀ {P : List MarkerCommentPage → Prop},
        (∃ pages', args.Completes tr pages' ∧ P pages') ↔ P pages := by
      intro P
      constructor
      · rintro ⟨pages', hcompletes', hP⟩
        rwa [hcompletes.unique hcompletes']
      · exact fun hP => ⟨pages, hcompletes, hP⟩
    refine ⟨r, rfl, hlen, ?_, ?_, ?_, hstatus, hblind⟩
    · rw [honly]
      exact hverdict.safe
    · rw [honly]
      exact hverdict.reconciled
    · intro hreconciled
      obtain ⟨first, rest, hmatching⟩ := hverdict.existing hreconciled
      exact ⟨pages, first, rest, hcompletes, hmatching⟩
  · refine ⟨r, rfl, hlen, ?_, ?_, ?_, hstatus, hblind⟩
    · simp [hfailed, hno]
    · simp [hfailed, hno]
    · simp [hfailed]

/-- A scan for an all-zero review of the first pull request of a repository. -/
def sampleArguments : MarkerScanArguments where
  ownerRepo := ['o', '/', 'r']
  prNumber := 1
  approvedActor := ['a']
  trustedBotAuthors := []
  expectedTargetHash := hashPrefix ++ List.replicate 64 '0'
  expectedPayloadHash := hashPrefix ++ List.replicate 64 '0'
  expectedFindingsHash := hashPrefix ++ List.replicate 64 '0'
  limits := none

/-- The marker of that review. -/
def sampleMarker : MarkerFields where
  runId := ['1']
  target := sampleArguments.expectedTargetHash
  payload := sampleArguments.expectedPayloadHash
  findings := sampleArguments.expectedFindingsHash

/-- A comment of the approved actor. -/
def sampleComment (commentId : Char) (body : Text) (h : body ≠ []) :
    Checked PaginatedMarkerComment :=
  ⟨⟨[commentId], body, ['a'], "User", "github", none⟩, by
    simp [Record.postInit, require, h]⟩

/-- A page with two comments, the second of which has the marker, and a page with another one that
has it. -/
def samplePages : List MarkerCommentPage :=
  [⟨[sampleComment '1' ['x'] (List.cons_ne_nil _ _),
      sampleComment '2' ('x' :: '\n' :: sampleMarker.render) (List.cons_ne_nil _ _)],
    .string ['n'], false, none⟩,
   ⟨[sampleComment '3' ('y' :: '\n' :: sampleMarker.render) (List.cons_ne_nil _ _)],
    .absent, true, none⟩]

/-- The sample pages are a complete chain. -/
lemma samplePages_complete : CompleteChain sampleArguments.scanLimits samplePages := by
  refine ⟨⟨[samplePages.head (by simp [samplePages])], _, rfl, ?_, rfl, rfl⟩,
    ?_, by decide, by decide⟩
  · intro p hp
    obtain rfl := List.mem_singleton.1 hp
    exact ⟨rfl, by decide⟩
  · exact List.nodup_singleton _

/-- The comments with the marker match. -/
lemma matching_samplePages : sampleArguments.matching (chainComments samplePages) =
    (chainComments samplePages).tail := by
  decide +kernel

/-- A trusted comment has the marker. -/
lemma samplePages_match : ∃ c ∈ chainComments samplePages, sampleArguments.trusts c.val = true ∧
    sampleArguments.ExactMarker c.val := by
  have hmem : sampleComment '2' ('x' :: '\n' :: sampleMarker.render) (List.cons_ne_nil _ _) ∈
      sampleArguments.matching (chainComments samplePages) := by
    rw [matching_samplePages]
    exact List.mem_cons_self
  obtain ⟨hc, hmatches⟩ := List.mem_filter.1 hmem
  exact ⟨_, hc, of_decide_eq_true hmatches⟩

/-- No comment makes the scan fail. -/
lemma samplePages_plain : ∀ c ∈ chainComments samplePages, sampleArguments.trusts c.val = true →
    ¬ MalformedMarker c.val ∧ ¬ sampleArguments.ConflictingMarker c.val := by
  decide +kernel

/-- Two comments on different pages have the marker: the first one is the comment of the payload,
the second one its duplicate. -/
theorem reconcilePaginatedTrustedMarkers_exact_duplicate : ∃ r : Checked MarkerReconciliationResult,
    Runs (reconcilePaginatedTrustedMarkers sampleArguments)
      (sampleArguments.chainEvents .absent samplePages) (.ok r) ∧
      r.val.status = .reconciledExisting ∧ r.val.existingCommentId = some ['2'] ∧
      r.val.duplicateCommentIds = [['3']] := by
  have hargs : sampleArguments.check = .ok () := by decide +kernel
  obtain ⟨res, hrun⟩ : ∃ res, Runs (reconcilePaginatedTrustedMarkers sampleArguments)
      (sampleArguments.chainEvents .absent samplePages) res := by
    rw [reconcile_eq_scan hargs]
    exact sampleArguments.scan_serves sampleArguments.progress_initial samplePages_complete
      (List.cons_ne_nil _ _) (by simp)
  obtain ⟨r, rfl, -, -, hreconciled, hexisting, -⟩ :=
    (reconcilePaginatedTrustedMarkers_exact sampleArguments hargs).2 _ _ hrun
  have hcompletes : sampleArguments.Completes (sampleArguments.chainEvents .absent samplePages)
      samplePages := ⟨rfl, samplePages_complete⟩
  have hstatus := hreconciled.2 ⟨samplePages, hcompletes, samplePages_match, samplePages_plain⟩
  obtain ⟨pages, first, rest, hpages, hmatching, hfirst, hrest⟩ := hexisting hstatus
  obtain rfl := hpages.unique hcompletes
  rw [matching_samplePages] at hmatching
  obtain ⟨rfl, rfl⟩ := List.cons.inj hmatching
  exact ⟨r, hrun, hstatus, hfirst, hrest⟩

end MarkerScanArguments

end ReviewGraph
