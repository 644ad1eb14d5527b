import ReviewGraph.Foundation.JsonDecoding
import ReviewGraph.Models.Review

/-!
# Lists that are read in pages

`_collect_pages` of `github.py` fetches the pages of a list one after another, each with the cursor
that the page before it gave, until a page is the last one.  `_load_page_map` loads prepared pages,
and checks that their cursors form a chain.  The collector follows every chain that the loader
accepts to its end.
-/

namespace ReviewGraph

/-! ## Reads that fail closed -/

/-- `GitHubPRRef`. -/
structure GitHubPRRef where
  owner : Text
  repo : Text
  prNumber : ℕ
  deriving DecidableEq

/-- `ReadGap`. -/
structure ReadGap where
  resource : Text
  required : Bool
  reason : Text
  retryable : Bool
  deriving DecidableEq

/-- `GitHubPageGapDescriptor`. -/
structure GitHubPageGapDescriptor where
  resource : Text
  missingPage : ℕ
  underlyingReason : Text
  wouldAffect : List Text
  examples : List Text
  deriving DecidableEq

/-- `GraphError`. -/
structure GraphError where
  code : Text
  message : Text
  retryable : Bool
  deriving DecidableEq

/-- `FailClosedReadOutcome`, without the fields that are always empty. -/
structure FailClosedReadOutcome where
  prRef : GitHubPRRef
  reviewTarget : ReviewTarget
  readGaps : List ReadGap
  errors : List GraphError
  postEnabled : Bool
  graphTrace : List Text
  pageGapDescriptors : List GitHubPageGapDescriptor
  deriving DecidableEq

/-- `_REASON_RETRYABLE`: the reasons of a gap, and whether a read can be tried again. -/
def reasonRetryable : List (Text × Bool) := [
  ("forbidden", false), ("not_found", false), ("rate_limited", true), ("timeout", true),
  ("unavailable", false), ("pagination_incomplete", true), ("thread_state_unknown", false),
  ("not_fetched_in_scope", true)]

/-- `_reason_from_status_or_code` without a status. -/
def reasonFromCode (reason : Text) : Text :=
  if reason ∈ reasonRetryable.map Prod.fst then reason else "unavailable"

/-- `classify_github_read_gap` without a status. -/
def classifyGithubReadGap (resource : Text) (required : Bool) (reason : Text) : ReadGap where
  resource := resource
  required := required
  reason := reasonFromCode reason
  retryable := reasonRetryable.any fun entry => entry.1 == reasonFromCode reason && entry.2

/-- `graph_errors_from_read_gaps`. -/
def graphErrorsFromReadGaps (gaps : List ReadGap) : List GraphError :=
  (gaps.filter ReadGap.required).map fun gap => {
    code := "github_read_gap"
    message := "Required GitHub read gap for " ++ (gap.resource ++ (": " ++ gap.reason))
    retryable := gap.retryable }

section
variable (prRef : GitHubPRRef) (reviewTarget : ReviewTarget) (resource : Text)

/-- `_pagination_failure`.  The check that a gap is required is about the gap built here, which
is. -/
def paginationFailure (page : ℕ) (reason message : Text) : FailClosedReadOutcome :=
  let gap := classifyGithubReadGap resource true reason
  { prRef := prRef
    reviewTarget := reviewTarget
    readGaps := [gap]
    errors := graphErrorsFromReadGaps [gap]
    postEnabled := false
    graphTrace := ["github_read_gap_fail_closed"]
    pageGapDescriptors := [{
      resource := resource
      missingPage := page
      underlyingReason := gap.reason
      wouldAffect := ["routing", "trust", "redaction"]
      examples := [message] }] }

end

/-! ## The collector -/

/-- What `_collect_pages` returns: `_PagedItems`, or the outcome of a read that fails closed. -/
inductive PagedRead
  | items (items : List (List (Text × Json)))
  | failClosed (outcome : FailClosedReadOutcome)
  deriving DecidableEq

/-- What the collector makes of one page. -/
inductive PageStep
  | failed (reason message : Text)
  | last (items : List (List (Text × Json)))
  | next (items : List (List (Text × Json))) (cursor : Text)
  deriving DecidableEq

/-- The fields of an object. -/
def objectFields : Json → Option (List (Text × Json))
  | .obj fields => some fields
  | _ => none

/-- The elements of a list of objects. -/
def objectItems : Json → Option (List (List (Text × Json)))
  | .arr items => items.mapM objectFields
  | _ => none

/-- A field of an object; null is the same as no field. -/
def presentField (fields : List (Text × Json)) (key : Text) : Option Json :=
  match Json.lookup fields key with
  | some .null => none
  | value => value

/-- The beginning of the message about a page. -/
def pageLabel (resource : Text) (page : ℕ) (rest : Text) : Text :=
  resource ++ (" page " ++ (Text.ofNat page ++ rest))

section
variable (resource : Text)

/-- The collector on a page with an error. -/
def errorPageStep (page : ℕ) : Json → PageStep
  | .obj error =>
    match presentField error "reason" with
    | some (.str []) => .failed "pagination_incomplete"
        (pageLabel resource page " error reason must be a non-empty string or null")
    | some (.str reason) => withMessage error reason
    | none => withMessage error "unavailable"
    | some _ => .failed "pagination_incomplete"
        (pageLabel resource page " error reason must be a non-empty string or null")
  | _ => .failed "pagination_incomplete" (pageLabel resource page " error must be an object")
where
  /-- The end of the branch, once the reason is known. -/
  withMessage (error : List (Text × Json)) (reason : Text) : PageStep :=
    match presentField error "message" with
    | none | some (.str []) => .failed reason (pageLabel resource page " failed")
    | some (.str message) => .failed reason message
    | some _ => .failed "pagination_incomplete"
        (pageLabel resource page " error message must be a string or null")

/-- The collector on a page with items. -/
def itemsPageStep (page : ℕ) (seen : List Text) (payload : List (Text × Json)) : PageStep :=
  match (Json.lookup payload "items").bind objectItems with
  | none =>
    .failed "pagination_incomplete" (pageLabel resource page " items must be a list of objects")
  | some items =>
    match Json.lookup payload "has_next_page" with
    | some (.bool false) => .last items
    | some (.bool true) =>
      match presentField payload "next_cursor" with
      | none => .failed "pagination_incomplete" (pageLabel resource page " next_cursor is required")
      | some (.str cursor) =>
        if cursor ∈ seen then
          .failed "pagination_incomplete" (pageLabel resource page " pagination cursor repeated")
        else .next items cursor
      | some _ =>
        .failed "pagination_incomplete" (pageLabel resource page " next_cursor must be a string")
    | _ =>
      .failed "pagination_incomplete" (pageLabel resource page " has_next_page must be a boolean")

/-- The collector on the answer to a fetch; an exception has a message. -/
def pageStep (page : ℕ) (seen : List Text) : Except Text Json → PageStep
  | .error message => .failed "timeout" message
  | .ok (.obj payload) =>
    match presentField payload "error" with
    | some error => errorPageStep resource page error
    | none => itemsPageStep resource page seen payload
  | .ok _ => .failed "pagination_incomplete" (pageLabel resource page " must be an object")

end

/-- The variables of the loop. -/
structure PageLoop where
  cursor : Option Text
  page : ℕ
  items : List (List (Text × Json))
  seen : List Text

/-- The variables before the first fetch. -/
def PageLoop.start : PageLoop := ⟨none, 1, [], []⟩

/-- The variables after a page that has a next one. -/
def PageLoop.advance (s : PageLoop) (items : List (List (Text × Json))) (cursor : Text) :
    PageLoop where
  cursor := some cursor
  page := s.page + 1
  items := s.items ++ items
  seen := cursor :: s.seen

section
variable (prRef : GitHubPRRef) (reviewTarget : ReviewTarget) (resource : Text)
  (fetchPage : ℕ → Option Text → Except Text Json)

/-- The loop of `_collect_pages` for at most the given number of rounds: the cursors of its fetches,
and what it returns.  The answer to a fetch may depend on how many fetches were made before. -/
def collectRounds : ℕ → PageLoop → Option (List (Option Text) × PagedRead)
  | 0, _ => none
  | rounds + 1, s =>
    match pageStep resource s.page s.seen (fetchPage s.page s.cursor) with
    | .failed reason message =>
      some ([s.cursor], .failClosed (paginationFailure prRef reviewTarget resource s.page reason
        message))
    | .last items => some ([s.cursor], .items (s.items ++ items))
    | .next items cursor => do
      let (cursors, read) ← collectRounds rounds (s.advance items cursor)
      return (s.cursor :: cursors, read)

/-- `_collect_pages` from given variables on: it makes the fetches with the cursors, and returns the
read. -/
def CollectsFrom (s : PageLoop) (cursors : List (Option Text)) (read : PagedRead) : Prop :=
  ∃ rounds, collectRounds prRef reviewTarget resource fetchPage rounds s = some (cursors, read)

/-- `_collect_pages` makes the fetches with the cursors, and returns the read. -/
def CollectsPages (cursors : List (Option Text)) (read : PagedRead) : Prop :=
  CollectsFrom prRef reviewTarget resource fetchPage .start cursors read

variable {prRef reviewTarget resource fetchPage}

/-- A page that fails ends the loop. -/
lemma CollectsFrom.of_failed {s : PageLoop} {reason message : Text}
    (hstep : pageStep resource s.page s.seen (fetchPage s.page s.cursor) = .failed reason message) :
    CollectsFrom prRef reviewTarget resource fetchPage s [s.cursor]
      (.failClosed (paginationFailure prRef reviewTarget resource s.page reason message)) :=
  ⟨1, by simp only [collectRounds, hstep]⟩

/-- A page without a next one ends the loop. -/
lemma CollectsFrom.of_last {s : PageLoop} {items : List (List (Text × Json))}
    (hstep : pageStep resource s.page s.seen (fetchPage s.page s.cursor) = .last items) :
    CollectsFrom prRef reviewTarget resource fetchPage s [s.cursor] (.items (s.items ++ items)) :=
  ⟨1, by simp only [collectRounds, hstep]⟩

/-- A page with a next one continues the loop. -/
lemma CollectsFrom.of_next {s : PageLoop} {items : List (List (Text × Json))} {cursor : Text}
    {cursors : List (Option Text)} {read : PagedRead}
    (hstep : pageStep resource s.page s.seen (fetchPage s.page s.cursor) = .next items cursor)
    (hrest : CollectsFrom prRef reviewTarget resource fetchPage (s.advance items cursor) cursors
      read) :
    CollectsFrom prRef reviewTarget resource fetchPage s (s.cursor :: cursors) read := by
  obtain ⟨rounds, hrest⟩ := hrest
  refine ⟨rounds + 1, ?_⟩
  simp only [collectRounds, hstep, hrest]
  rfl

/-- More rounds do not change what the loop does. -/
lemma collectRounds_mono {rounds : ℕ} (more : ℕ) {s : PageLoop}
    {result : List (Option Text) × PagedRead}
    (h : collectRounds prRef reviewTarget resource fetchPage rounds s = some result) :
    collectRounds prRef reviewTarget resource fetchPage (rounds + more) s = some result := by
  induction rounds generalizing s result with
  | zero => contradiction
  | succ rounds ih =>
    rw [Nat.add_right_comm]
    simp only [collectRounds] at h ⊢
    split
    · rename_i hstep
      simpa only [hstep] using h
    · rename_i hstep
      simpa only [hstep] using h
    · rename_i items cursor hstep
      simp only [hstep] at h
      obtain ⟨rest, hrest, h⟩ := Option.bind_eq_some_iff.1 h
      exact Option.bind_eq_some_iff.2 ⟨rest, ih hrest, h⟩

/-- The loop does one thing only. -/
lemma CollectsFrom.unique {s : PageLoop} {cursors cursors' : List (Option Text)}
    {read read' : PagedRead}
    (h : CollectsFrom prRef reviewTarget resource fetchPage s cursors read)
    (h' : CollectsFrom prRef reviewTarget resource fetchPage s cursors' read') :
    cursors = cursors' ∧ read = read' := by
  obtain ⟨rounds, h⟩ := h
  obtain ⟨rounds', h'⟩ := h'
  have hmore := collectRounds_mono rounds' h
  have hmore' := collectRounds_mono rounds h'
  rw [Nat.add_comm, hmore] at hmore'
  exact Prod.mk.inj (Option.some.inj hmore')

end

/-! ## The loader of prepared pages -/

/-- The keys of an object. -/
def objectKeys (data : List (Text × Json)) : List Text := data.map Prod.fst

/-- `_reject_unknown_keys`. -/
def rejectUnknownKeys (data : List (Text × Json)) (allowed : List Text) (label : Text) :
    Except Text Unit :=
  match Text.sorted ((objectKeys data).filter (· ∉ allowed)) with
  | [] => .ok ()
  | key :: _ => .error (label ++ ("." ++ (key ++ " is not supported")))

/-- `_require_exact_keys`. -/
def requireExactKeys (data : List (Text × Json)) (keys : List Text) (label : Text) :
    Except Text Unit :=
  match Text.sorted (keys.filter (· ∉ objectKeys data)) with
  | [] => rejectUnknownKeys data keys label
  | key :: _ => .error (label ++ ("." ++ (key ++ " is required")))

/-- A check of the loader, with the message of its error. -/
def requireFake (c : Prop) [Decidable c] (message : Text) : Except Text Unit :=
  if c then .ok () else .error message

section
variable (resource : Text)

/-- The name of a resource in a message. -/
def fakeResourceLabel : Text := "github fake data transport." ++ resource

/-- The name of a page in a message. -/
def fakePageLabel (index : ℕ) : Text :=
  fakeResourceLabel resource ++ (".pages[" ++ (Text.ofNat index ++ "]"))

/-- A field that is a boolean. -/
def boolField (data : List (Text × Json)) (key : Text) : Option Bool :=
  match Json.lookup data key with
  | some (.bool b) => some b
  | _ => none

/-- A field that is a text and not empty. -/
def textField (data : List (Text × Json)) (key : Text) : Option Text :=
  match Json.lookup data key with
  | some (.str (c :: text)) => some (c :: text)
  | _ => none

/-- A field is a text, null or absent. -/
def IsOptionalText : Option Json → Prop
  | none | some (.str _) => True
  | some _ => False

instance (value : Option Json) : Decidable (IsOptionalText value) := by
  unfold IsOptionalText
  split <;> infer_instance

/-- `_validate_fake_items_page`. -/
def validateFakeItemsPage (page : List (Text × Json)) (index : ℕ) : Except Text Unit := do
  rejectUnknownKeys page ["items", "has_next_page", "next_cursor"] (fakePageLabel resource index)
  requireFake (((Json.lookup page "items").bind objectItems).isSome)
    (fakePageLabel resource index ++ ".items must be a list of objects")
  requireFake ((boolField page "has_next_page").isSome)
    (fakePageLabel resource index ++ ".has_next_page must be a boolean")
  if boolField page "has_next_page" = some true then
    requireFake ((textField page "next_cursor").isSome)
      (fakePageLabel resource index ++ ".next_cursor must be a non-empty string")
  else
    requireFake (Json.lookup page "next_cursor" = none)
      (fakePageLabel resource index ++ ".next_cursor requires has_next_page=true")

/-- `_validate_fake_error_page`. -/
def validateFakeErrorPage (page : List (Text × Json)) (index : ℕ) : Except Text Unit := do
  requireExactKeys page ["error"] (fakePageLabel resource index)
  match Json.lookup page "error" with
  | some (.obj error) =>
    rejectUnknownKeys error ["reason", "message"] (fakePageLabel resource index ++ ".error")
    requireFake (presentField error "reason" = none ∨ (textField error "reason").isSome)
      (fakePageLabel resource index ++ ".error.reason must be a non-empty string or null")
    requireFake (IsOptionalText (presentField error "message"))
      (fakePageLabel resource index ++ ".error.message must be a string or null")
  | _ => .error (fakePageLabel resource index ++ ".error must be an object")

/-- The pages by their cursors, in the order of the list. -/
abbrev PageMap : Type := List (Option Text × List (Text × Json))

/-- A page has a field with an error. -/
def isErrorPage (page : List (Text × Json)) : Bool := (Json.lookup page "error").isSome

/-- The loop of `_load_page_map`. -/
def loadPages (index : ℕ) (pageMap : PageMap) (cursor : Option Text) :
    List Json → Except Text PageMap
  | [] => .error (fakeResourceLabel resource ++ ".pages ended before has_next_page=false")
  | .obj page :: pages => do
    requireFake (cursor ∉ pageMap.map Prod.fst)
      (fakePageLabel resource index ++ " repeats pagination cursor")
    if isErrorPage page then
      validateFakeErrorPage resource page index
      requireFake (pages = []) (fakePageLabel resource index ++ " error page must be final")
      return pageMap ++ [(cursor, page)]
    else
      validateFakeItemsPage resource page index
      if boolField page "has_next_page" = some false then
        requireFake (pages = []) (fakePageLabel resource index ++ " leaves unreachable pages")
        return pageMap ++ [(cursor, page)]
      else loadPages (index + 1) (pageMap ++ [(cursor, page)]) (textField page "next_cursor") pages
  | _ :: _ => .error (fakePageLabel resource index ++ " must be an object")

/-- `_load_page_map`. -/
def loadPageMap : Json → Except Text PageMap
  | .obj value => do
    requireExactKeys value ["pages"] (fakeResourceLabel resource)
    match Json.lookup value "pages" with
    | some (.arr (page :: pages)) => loadPages resource 1 [] none (page :: pages)
    | _ => .error (fakeResourceLabel resource ++ ".pages must be a non-empty list")
  | _ => .error (fakeResourceLabel resource ++ " must be an object")

end

/-- A page of `PaginatedFakeGitHubTransport`; a cursor without a page raises a `KeyError` with the
given text. -/
def fakePage (keyError : Option Text → Text) (pageMap : PageMap) (cursor : Option Text) :
    Except Text Json :=
  match pageMap.find? fun entry => entry.1 = cursor with
  | some entry => .ok (.obj entry.2)
  | none => .error (keyError cursor)

/-! ## Chains of pages -/

/-- The reason that a page with an error gives. -/
def errorReason (page : List (Text × Json)) : Text :=
  match Json.lookup page "error" with
  | some (.obj error) =>
    match presentField error "reason" with
    | some (.str reason) => reason
    | _ => "unavailable"
  | _ => "unavailable"

/-- The items of a page. -/
def pageItems (page : List (Text × Json)) : List (List (Text × Json)) :=
  ((Json.lookup page "items").bind objectItems).getD []

/-- The pages up to the first one with an error. -/
def pagesToError : List (List (Text × Json)) → List (List (Text × Json))
  | [] => []
  | page :: pages => if isErrorPage page then [page] else page :: pagesToError pages

/-- A page that the collector takes for a failure with the reason of the page. -/
def IsFailingPage (page : List (Text × Json)) : Prop :=
  ∀ resource index seen, ∃ message,
    pageStep resource index seen (.ok (.obj page)) = .failed (errorReason page) message

/-- Pages that lead from a cursor to a last page or to an error. -/
inductive PageChain : Option Text → PageMap → Prop
  | failing {cursor page} (herror : isErrorPage page = true) (hfails : IsFailingPage page) :
      PageChain cursor [(cursor, page)]
  | last {cursor page} (herror : isErrorPage page = false)
      (hitems : (Json.lookup page "items").bind objectItems = some (pageItems page))
      (hnext : Json.lookup page "has_next_page" = some (.bool false)) :
      PageChain cursor [(cursor, page)]
  | next {cursor page nextCursor rest} (herror : isErrorPage page = false)
      (hitems : (Json.lookup page "items").bind objectItems = some (pageItems page))
      (hnext : Json.lookup page "has_next_page" = some (.bool true))
      (hcursor : Json.lookup page "next_cursor" = some (.str nextCursor))
      (hrest : PageChain (some nextCursor) rest) : PageChain cursor ((cursor, page) :: rest)

/-- A chain begins with its cursor. -/
lemma PageChain.cursor_mem {cursor : Option Text} {chain : PageMap} (h : PageChain cursor chain) :
    cursor ∈ chain.map Prod.fst := by
  cases h with
  | failing => simp
  | last => simp
  | next => simp

section
variable {resource : Text}

/-- A check of the fake transport passes exactly if its condition holds. -/
@[simp] lemma requireFake_eq_ok {c : Prop} [Decidable c] {message : Text} {u : Unit} :
    requireFake c message = .ok u ↔ c := by
  unfold requireFake
  split <;> simp_all

/-- Two computations of the loader succeed if both do. -/
lemma fake_bind_eq_ok {α β : Type} {x : Except Text α} {f : α → Except Text β} {b : β} :
    (x >>= f) = .ok b ↔ ∃ a, x = .ok a ∧ f a = .ok b := by
  cases x with
  | error e => simp [bind, Except.bind]
  | ok a => simp [bind, Except.bind]

/-- A truth value is found. -/
lemma boolField_eq_some {data : List (Text × Json)} {key : Text} {b : Bool} :
    boolField data key = some b ↔ Json.lookup data key = some (.bool b) := by
  unfold boolField
  split
  · rename_i c h
    simp [h]
  · rename_i h
    constructor
    · intro hnone
      contradiction
    · intro hsome
      exact absurd hsome (h b)

/-- A text is found. -/
lemma lookup_of_textField {data : List (Text × Json)} {key text : Text}
    (h : textField data key = some text) : Json.lookup data key = some (.str text) := by
  unfold textField at h
  split at h
  · rename_i hlookup
    rw [hlookup, Option.some.inj h]
  · contradiction

/-- A page without a field for an error has none that is present. -/
lemma presentField_error_eq_none {page : List (Text × Json)} (h : isErrorPage page = false) :
    presentField page "error" = none := by
  unfold isErrorPage at h
  unfold presentField
  rw [Option.isSome_eq_false_iff, Option.isNone_iff_eq_none] at h
  rw [h]

/-- The collector fails with the reason of a page whose error the loader has checked. -/
lemma isFailingPage_of_validate {page : List (Text × Json)} {index : ℕ}
    (h : validateFakeErrorPage resource page index = .ok ()) : IsFailingPage page := by
  intro label number seen
  unfold validateFakeErrorPage at h
  obtain ⟨-, -, h⟩ := fake_bind_eq_ok.1 h
  split at h
  · rename_i error herror
    obtain ⟨-, -, h⟩ := fake_bind_eq_ok.1 h
    obtain ⟨⟨⟩, hreason, hmessage⟩ := fake_bind_eq_ok.1 h
    rw [requireFake_eq_ok] at hreason hmessage
    have hpresent : presentField page "error" = some (.obj error) := by
      unfold presentField
      rw [herror]
    have hwith : ∀ reason, ∃ message,
        errorPageStep.withMessage label number error reason = .failed reason message := by
      intro reason
      unfold errorPageStep.withMessage
      revert hmessage
      generalize presentField error "message" = message
      intro hmessage
      match message, hmessage with
      | none, _ => exact ⟨_, rfl⟩
      | some (.str []), _ => exact ⟨_, rfl⟩
      | some (.str (c :: text)), _ => exact ⟨_, rfl⟩
    simp only [pageStep, hpresent, errorPageStep, errorReason, herror]
    rcases hreason with hnone | hsome
    · rw [hnone]
      exact hwith "unavailable"
    · obtain ⟨reason, hreason⟩ := Option.isSome_iff_exists.1 hsome
      have hlookup := lookup_of_textField hreason
      obtain ⟨c, text, rfl⟩ : ∃ c text, reason = c :: text := by
        unfold textField at hreason
        split at hreason
        · exact ⟨_, _, (Option.some.inj hreason).symm⟩
        · contradiction
      have hfield : presentField error "reason" = some (.str (c :: text)) := by
        unfold presentField
        rw [hlookup]
      rw [hfield]
      exact hwith (c :: text)
  · contradiction

/-- The items of a page that the loader has checked. -/
lemma items_of_validate {page : List (Text × Json)} {index : ℕ}
    (h : validateFakeItemsPage resource page index = .ok ()) :
    (Json.lookup page "items").bind objectItems = some (pageItems page) ∧
      (Json.lookup page "has_next_page" = some (.bool false) ∨
        Json.lookup page "has_next_page" = some (.bool true) ∧
          ∃ cursor, textField page "next_cursor" = some cursor) := by
  unfold validateFakeItemsPage at h
  obtain ⟨-, -, h⟩ := fake_bind_eq_ok.1 h
  obtain ⟨⟨⟩, hitems, h⟩ := fake_bind_eq_ok.1 h
  obtain ⟨⟨⟩, hbool, h⟩ := fake_bind_eq_ok.1 h
  rw [requireFake_eq_ok] at hitems hbool
  obtain ⟨items, hitems⟩ := Option.isSome_iff_exists.1 hitems
  obtain ⟨next, hnext⟩ := Option.isSome_iff_exists.1 hbool
  refine ⟨by rw [pageItems, hitems, Option.getD_some], ?_⟩
  cases next with
  | false => exact .inl (boolField_eq_some.1 hnext)
  | true =>
    rw [if_pos hnext, requireFake_eq_ok] at h
    exact .inr ⟨boolField_eq_some.1 hnext, Option.isSome_iff_exists.1 h⟩

/-- The loop of the loader adds a chain with new cursors. -/
lemma loadPages_chain {index : ℕ} {pageMap loaded : PageMap} {cursor : Option Text}
    {pages : List Json} (hnodup : (pageMap.map Prod.fst).Nodup)
    (h : loadPages resource index pageMap cursor pages = .ok loaded) :
    ∃ chain, loaded = pageMap ++ chain ∧ PageChain cursor chain ∧ (loaded.map Prod.fst).Nodup ∧
      pages = chain.map fun entry => .obj entry.2 := by
  induction pages generalizing index pageMap cursor with
  | nil => contradiction
  | cons page pages ih =>
    cases page with
    | obj page =>
      simp only [loadPages] at h
      obtain ⟨⟨⟩, hnew, h⟩ := fake_bind_eq_ok.1 h
      rw [requireFake_eq_ok] at hnew
      have hnodup' : ((pageMap ++ [(cursor, page)]).map Prod.fst).Nodup := by
        rw [List.map_append, List.nodup_append']
        refine ⟨hnodup, by simp, ?_⟩
        intro other hother hmem
        rw [List.map_singleton, List.mem_singleton] at hmem
        change other = cursor at hmem
        subst hmem
        exact hnew hother
      split at h
      · rename_i herror
        obtain ⟨⟨⟩, hvalid, h⟩ := fake_bind_eq_ok.1 h
        obtain ⟨⟨⟩, hfinal, h⟩ := fake_bind_eq_ok.1 h
        obtain rfl := requireFake_eq_ok.1 hfinal
        obtain rfl := Except.ok.inj h
        exact ⟨_, rfl, .failing herror (isFailingPage_of_validate hvalid), hnodup', rfl⟩
      · rename_i herror
        rw [Bool.not_eq_true] at herror
        obtain ⟨⟨⟩, hvalid, h⟩ := fake_bind_eq_ok.1 h
        obtain ⟨hitems, hnext⟩ := items_of_validate hvalid
        split at h
        · rename_i hfalse
          obtain ⟨⟨⟩, hfinal, h⟩ := fake_bind_eq_ok.1 h
          obtain rfl := requireFake_eq_ok.1 hfinal
          obtain rfl := Except.ok.inj h
          exact ⟨_, rfl, .last herror hitems (boolField_eq_some.1 hfalse), hnodup', rfl⟩
        · rename_i hfalse
          rw [boolField_eq_some] at hfalse
          obtain hlast | ⟨hnext, nextCursor, hcursor⟩ := hnext
          · exact absurd hlast hfalse
          · rw [hcursor] at h
            obtain ⟨chain, rfl, hchain, hloaded, rfl⟩ := ih hnodup' h
            refine ⟨(cursor, page) :: chain, by simp, ?_, hloaded, rfl⟩
            exact .next herror hitems hnext (lookup_of_textField hcursor) hchain
    | _ => contradiction

/-- The pages that an object lists. -/
def listedPages (value : Json) : List Json :=
  match value with
  | .obj fields =>
    match Json.lookup fields "pages" with
    | some (.arr pages) => pages
    | _ => []
  | _ => []

/-- An accepted page map is a chain from the first fetch, its cursors are different, and it has all
pages. -/
lemma loadPageMap_chain {value : Json} {pageMap : PageMap}
    (h : loadPageMap resource value = .ok pageMap) :
    PageChain none pageMap ∧ (pageMap.map Prod.fst).Nodup ∧
      listedPages value = pageMap.map fun entry => .obj entry.2 := by
  unfold loadPageMap at h
  split at h
  · obtain ⟨-, -, h⟩ := fake_bind_eq_ok.1 h
    split at h
    · rename_i hpages
      have hnil : (([] : PageMap).map Prod.fst).Nodup := List.nodup_nil
      obtain ⟨chain, rfl, hchain, hnodup, hlisted⟩ := loadPages_chain hnil h
      refine ⟨hchain, hnodup, ?_⟩
      simp only [listedPages, hpages]
      exact hlisted
    · contradiction
  · contradiction

end

/-! ## The collector on a chain -/

/-- What a read of pages returns: the items of all of them, or the reason of the first error. -/
def IsReadOf (resource : Text) (items : List (List (Text × Json)))
    (pages : List (List (Text × Json)))
    (read : PagedRead) : Prop :=
  match pages.find? isErrorPage with
  | none => read = .items (items ++ pages.flatMap pageItems)
  | some page => ∃ outcome, read = .failClosed outcome ∧
      outcome.readGaps = [classifyGithubReadGap resource true (errorReason page)]

/-- A page without an error is read, and then the pages behind it. -/
lemma IsReadOf.cons {resource : Text} {items : List (List (Text × Json))}
    {page : List (Text × Json)}
    {pages : List (List (Text × Json))} {read : PagedRead} (herror : isErrorPage page = false)
    (h : IsReadOf resource (items ++ pageItems page) pages read) :
    IsReadOf resource items (page :: pages) read := by
  unfold IsReadOf at h ⊢
  rw [List.find?_cons_of_neg (by simp [herror])]
  cases hfind : pages.find? isErrorPage with
  | none =>
    rw [hfind] at h
    simpa [List.append_assoc] using h
  | some failing =>
    rw [hfind] at h
    exact h

/-- Only the reason of its own is mapped to the one for incomplete pages. -/
lemma eq_of_reasonFromCode {reason : Text} (h : reasonFromCode reason = "pagination_incomplete") :
    reason = "pagination_incomplete" := by
  unfold reasonFromCode at h
  split at h
  · exact h
  · exact absurd h (by decide +kernel)

/-- The first page with an error is read. -/
lemma mem_pagesToError_of_find? {pages : List (List (Text × Json))} {page : List (Text × Json)}
    (h : pages.find? isErrorPage = some page) : page ∈ pagesToError pages ∧
      isErrorPage page = true := by
  induction pages with
  | nil => contradiction
  | cons other pages ih =>
    unfold pagesToError
    by_cases herror : isErrorPage other = true
    · rw [List.find?_cons_of_pos herror] at h
      obtain rfl := Option.some.inj h
      rw [if_pos herror]
      exact ⟨List.mem_singleton_self _, herror⟩
    · rw [List.find?_cons_of_neg herror] at h
      rw [if_neg herror]
      exact ⟨List.mem_cons_of_mem _ (ih h).1, (ih h).2⟩

/-- A read that fails for incomplete pages has the reason from its error. -/
lemma IsReadOf.errorReason_eq {resource : Text} {items : List (List (Text × Json))}
    {pages : List (List (Text × Json))} {outcome : FailClosedReadOutcome} {gap : ReadGap}
    (h : IsReadOf resource items pages (.failClosed outcome)) (hgap : gap ∈ outcome.readGaps)
    (hreason : gap.reason = "pagination_incomplete") :
    ∃ page ∈ pagesToError pages, isErrorPage page = true ∧
      errorReason page = "pagination_incomplete" := by
  unfold IsReadOf at h
  split at h
  · contradiction
  · rename_i page hfind
    obtain ⟨_, heq, hgaps⟩ := h
    obtain rfl := PagedRead.failClosed.inj heq
    rw [hgaps, List.mem_singleton] at hgap
    subst hgap
    obtain ⟨hmem, herror⟩ := mem_pagesToError_of_find? hfind
    exact ⟨page, hmem, herror, eq_of_reasonFromCode hreason⟩

section
variable {prRef : GitHubPRRef} {reviewTarget : ReviewTarget} {resource : Text}
  {keyError : Option Text → Text} {pageMap : PageMap}

/-- A page is found by its cursor if the cursors are different. -/
lemma fakePage_eq_ok (keyError : Option Text → Text) {before rest : PageMap} {cursor : Option Text}
    {page : List (Text × Json)}
    (hmap : pageMap = before ++ (cursor, page) :: rest) (hnodup : (pageMap.map Prod.fst).Nodup) :
    fakePage keyError pageMap cursor = .ok (.obj page) := by
  have hnot : ∀ entry ∈ before, entry.1 ≠ cursor := by
    rintro entry hentry rfl
    rw [hmap, List.map_append, List.nodup_append'] at hnodup
    exact hnodup.2.2 (List.mem_map_of_mem hentry) (by simp)
  have hfind : pageMap.find? (fun entry => entry.1 = cursor) = some (cursor, page) := by
    rw [hmap, List.find?_append, List.find?_eq_none.2 (by simpa using hnot), Option.none_or,
      List.find?_cons_of_pos (by simp)]
  unfold fakePage
  rw [hfind]

/-- The collector follows a chain to its last page or to its error. -/
lemma collects_chain {before chain : PageMap} {s : PageLoop} (hchain : PageChain s.cursor chain)
    (hmap : pageMap = before ++ chain) (hnodup : (pageMap.map Prod.fst).Nodup)
    (hseen : ∀ cursor ∈ s.seen, some cursor ∈ before.map Prod.fst ∨ some cursor = s.cursor) :
    ∃ cursors read,
      CollectsFrom prRef reviewTarget resource (fun _ => fakePage keyError pageMap) s cursors read ∧
        cursors.length = (pagesToError (chain.map Prod.snd)).length ∧
          IsReadOf resource s.items (chain.map Prod.snd) read := by
  generalize hcursor : s.cursor = cursor at hchain
  induction hchain generalizing before s with
  | @failing cursor page herror hfails =>
    subst hcursor
    obtain ⟨message, hstep⟩ := hfails resource s.page s.seen
    rw [← fakePage_eq_ok keyError hmap hnodup] at hstep
    refine ⟨_, _, .of_failed hstep, by simp [pagesToError, herror], ?_⟩
    simp only [IsReadOf, List.map_cons, List.map_nil, List.find?_cons_of_pos herror]
    exact ⟨_, rfl, rfl⟩
  | @last cursor page herror hitems hnext =>
    subst hcursor
    have hstep : pageStep resource s.page s.seen (.ok (.obj page)) = .last (pageItems page) := by
      simp only [pageStep, presentField_error_eq_none herror, itemsPageStep, hitems, hnext]
    rw [← fakePage_eq_ok keyError hmap hnodup] at hstep
    refine ⟨_, _, .of_last hstep, by simp [pagesToError, herror], ?_⟩
    simp [IsReadOf, herror]
  | @next cursor page nextCursor rest herror hitems hnext hcursor' hrest ih =>
    subst hcursor
    have hnew : nextCursor ∉ s.seen := by
      intro hmem
      have hkeys := hnodup
      rw [hmap, List.map_append, List.map_cons, List.nodup_append', List.nodup_cons] at hkeys
      obtain ⟨-, ⟨hhead, -⟩, hdisjoint⟩ := hkeys
      rcases hseen nextCursor hmem with hbefore | hcursor
      · exact hdisjoint hbefore (List.mem_cons_of_mem _ hrest.cursor_mem)
      · exact hhead (hcursor ▸ hrest.cursor_mem)
    have hpresent : presentField page "next_cursor" = some (.str nextCursor) := by
      unfold presentField
      rw [hcursor']
    have hstep : pageStep resource s.page s.seen (.ok (.obj page)) =
        .next (pageItems page) nextCursor := by
      simp only [pageStep, presentField_error_eq_none herror, itemsPageStep, hitems, hnext,
        hpresent,
        if_neg hnew]
    rw [← fakePage_eq_ok keyError hmap hnodup] at hstep
    have hmap' : pageMap = (before ++ [(s.cursor, page)]) ++ rest := by
      rw [hmap, List.append_assoc, List.singleton_append]
    obtain ⟨cursors, read, hcollects, hlength, hread⟩ :=
      @ih (before ++ [(s.cursor, page)]) (s.advance (pageItems page) nextCursor) hmap' (by
        intro cursor hmem
        rcases List.mem_cons.1 hmem with rfl | hmem
        · exact .inr rfl
        · rcases hseen cursor hmem with hbefore | hcursor
          · exact .inl (by rw [List.map_append]; exact List.mem_append_left _ hbefore)
          · exact .inl (by simp [hcursor])) rfl
    refine ⟨_, read, .of_next hstep hcollects, ?_, .cons herror hread⟩
    rw [List.length_cons, hlength, List.map_cons, pagesToError, if_neg (by simp [herror]),
      List.length_cons]

end

/-! ## Accepted page maps -/

/-- The collector and the loader agree: on an accepted page map the collector fetches every page up
to the first error, and returns the items of all pages or fails closed with the reason of that
error. The reason is the one for incomplete pages only if the error gives it. -/
theorem collectPages_of_loadPageMap (prRef : GitHubPRRef) (reviewTarget : ReviewTarget)
    (resource label : Text) (keyError : Option Text → Text) {value : Json} {pageMap : PageMap}
    (hload : loadPageMap resource value = .ok pageMap) :
    ∃ cursors read,
      (∀ cursors' read', CollectsPages prRef reviewTarget label (fun _ => fakePage keyError pageMap)
        cursors' read' ↔ cursors' = cursors ∧ read' = read) ∧
      listedPages value = (pageMap.map Prod.snd).map Json.obj ∧
      cursors.length = (pagesToError (pageMap.map Prod.snd)).length ∧
      IsReadOf label [] (pageMap.map Prod.snd) read ∧
      ∀ outcome, read = .failClosed outcome → ∀ gap ∈ outcome.readGaps,
        gap.reason = "pagination_incomplete" →
          ∃ page ∈ pagesToError (pageMap.map Prod.snd), isErrorPage page = true ∧
            errorReason page = "pagination_incomplete" := by
  obtain ⟨hchain, hnodup, hlisted⟩ := loadPageMap_chain hload
  have hseen : ∀ cursor ∈ PageLoop.start.seen,
      some cursor ∈ ([] : PageMap).map Prod.fst ∨ some cursor = PageLoop.start.cursor := by
    intro cursor hmem
    exact absurd hmem List.not_mem_nil
  obtain ⟨cursors, read, hcollects, hlength, hread⟩ :=
    @collects_chain prRef reviewTarget label keyError pageMap [] pageMap .start hchain rfl hnodup
        hseen
  refine ⟨cursors, read, ?_, ?_, hlength, hread, ?_⟩
  · intro cursors' read'
    constructor
    · intro hother
      exact CollectsFrom.unique hother hcollects
    · rintro ⟨rfl, rfl⟩
      exact hcollects
  · rw [hlisted, List.map_map]
    rfl
  · rintro outcome rfl gap hgap hreason
    exact hread.errorReason_eq hgap hreason

/-- Two pages, of which the second has an error. -/
def forbiddenSecondPage : Json :=
  .obj [("pages", .arr [
    .obj [("items", .arr [.obj [("path", .str "a.py")]]), ("has_next_page", .bool true),
      ("next_cursor", .str "next")],
    .obj [("error", .obj [("reason", .str "forbidden")])]])]

/-- The pages of `forbiddenSecondPage` by their cursors. -/
def forbiddenSecondPageMap : PageMap := [
  (none, [("items", .arr [.obj [("path", .str "a.py")]]), ("has_next_page", .bool true),
    ("next_cursor", .str "next")]),
  (some "next", [("error", .obj [("reason", .str "forbidden")])])]

/-- Both pages are fetched. -/
theorem collectPages_of_loadPageMap_forbidden : ∃ cursors read,
    CollectsPages ⟨"owner", "repo", 1⟩ ⟨"owner/repo", 1, "base", "head", none, "merge_base"⟩ "files"
      (fun _ => fakePage (fun _ => "next") forbiddenSecondPageMap) cursors read ∧
        cursors.length = 2 := by
  have hload : loadPageMap "files" forbiddenSecondPage = .ok forbiddenSecondPageMap := by
      decide +kernel
  obtain ⟨cursors, read, hunique, -, hlength, -⟩ :=
    collectPages_of_loadPageMap ⟨"owner", "repo", 1⟩
      ⟨"owner/repo", 1, "base", "head", none, "merge_base"⟩ "files" "files" (fun _ => "next") hload
  refine ⟨cursors, read, (hunique cursors read).2 ⟨rfl, rfl⟩, ?_⟩
  rw [hlength]
  decide +kernel

/-- A page map whose only page says that the pages are incomplete. -/
def incompleteFirstPage : Json :=
  .obj [("pages", .arr [.obj [("error", .obj [("reason", .str "pagination_incomplete")])]])]

/-- The collector can fail for incomplete pages on an accepted page map. -/
theorem collectPages_incomplete :
    ¬ ∀ (prRef : GitHubPRRef) (reviewTarget : ReviewTarget) (resource label : Text)
      (keyError : Option Text → Text) (value : Json) (pageMap : PageMap),
      loadPageMap resource value = .ok pageMap → ∀ cursors read,
        CollectsPages prRef reviewTarget label (fun _ => fakePage keyError pageMap) cursors read →
          ∀ outcome, read = .failClosed outcome → ∀ gap ∈ outcome.readGaps,
            gap.reason ≠ "pagination_incomplete" := by
  intro hall
  have hload : loadPageMap "files" incompleteFirstPage =
      .ok [(none, [("error", .obj [("reason", .str "pagination_incomplete")])])] := by
        decide +kernel
  have hstep : pageStep "files" 1 [] (fakePage (fun _ => "")
      [(none, [("error", .obj [("reason", .str "pagination_incomplete")])])] none) =
        .failed "pagination_incomplete" "files page 1 failed" := by
    decide +kernel
  exact hall ⟨"owner", "repo", 1⟩ ⟨"owner/repo", 1, "base", "head", none, "merge_base"⟩ "files"
    "files"
    (fun _ => "") _ _ hload _ _ (.of_failed hstep) _ rfl _ (List.mem_singleton_self _)
    (by decide +kernel)

end ReviewGraph
