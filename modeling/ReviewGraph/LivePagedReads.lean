import Mathlib.Computability.RegularExpressions
import ReviewGraph.LivePostTransport
import ReviewGraph.PagedReads
import ReviewGraph.PatchGrammar
import ReviewGraph.Redaction
import ReviewGraph.TextReaders

/-!
# Live reads of lists

`GhApiReadTransport` of `github_live.py` reads the pages of a list by their numbers with the `gh`
command.  A read that succeeds has the items of the objects on its pages; entries that are no
objects are dropped, and a page with more entries than were asked for is taken for the last one.
-/

namespace ReviewGraph

/-! ## Resources -/

namespace RestPattern

/-- One of the given characters. -/
def oneOf (chars : Text) : RegularExpression Char := (chars.map .char).sum

/-- The given text. -/
def literal (t : Text) : RegularExpression Char := (t.map .char).prod

/-- A character of the name of an owner or of a repository. -/
def isNameChar (c : Char) : Bool :=
  Unicode.isAsciiAlphanumeric c || c == '_' || c == '.' || c == '-'

/-- The characters of names. -/
def nameChars : Text := ((List.range 128).map Char.ofNat).filter isNameChar

/-- The name of an owner or of a repository. -/
def name : RegularExpression Char := oneOf nameChars * (oneOf nameChars).star

/-- A positive number. -/
def number : RegularExpression Char := oneOf "123456789" * (oneOf "0123456789").star

/-- `_READ_ONLY_REST_RESOURCE_RE`; the end of a text is also before a line feed that ends it. -/
def readOnlyRestResource : RegularExpression Char :=
  literal "repos/" * (name * (literal "/" * (name * (literal "/" *
    ((literal "pulls/" * number + (literal "pulls/" * (number * literal "/files") +
      (literal "issues/" * (number * literal "/comments") +
        (literal "pulls/" * (number * literal "/comments") +
          literal "pulls/" * (number * literal "/reviews"))))) *
      ((1 + literal "?per_page=" * (number * (literal "&page=" * number))) *
        (1 + literal "\n")))))))

/-- A text of one character is matched by the characters that contain it. -/
lemma mem_oneOf {chars : Text} {c : Char} (h : c ∈ chars) : [c] ∈ (oneOf chars).matches' := by
  induction chars with
  | nil => exact absurd h List.not_mem_nil
  | cons d chars ih =>
    unfold oneOf at ih ⊢
    rw [List.map_cons, List.sum_cons, RegularExpression.matches'_add, Language.mem_add]
    rcases List.mem_cons.1 h with rfl | h
    · exact .inl rfl
    · exact .inr (ih h)

/-- A text is matched by its literal. -/
lemma mem_literal (t : Text) : t ∈ (literal t).matches' := by
  induction t with
  | nil => exact Language.nil_mem_one
  | cons c t ih =>
    unfold literal at ih ⊢
    rw [List.map_cons, List.prod_cons, RegularExpression.matches'_mul]
    exact Language.append_mem_mul (show [c] ∈ (RegularExpression.char c).matches' from rfl) ih

/-- Characters of a class are matched by its repetition. -/
lemma mem_star_oneOf {chars t : Text} (h : ∀ c ∈ t, c ∈ chars) :
    t ∈ (oneOf chars).star.matches' := by
  rw [RegularExpression.matches'_star, Language.mem_kstar]
  refine ⟨t.map fun c => [c], (List.flatMap_singleton' t).symm, ?_⟩
  intro s hs
  obtain ⟨c, hc, rfl⟩ := List.mem_map.1 hs
  exact mem_oneOf (h c hc)

/-- A pattern for one character and any number of others. -/
lemma mem_cons_star {first others : Text} {c : Char} {t : Text} (hc : c ∈ first)
    (ht : ∀ d ∈ t, d ∈ others) : c :: t ∈ (oneOf first * (oneOf others).star).matches' := by
  rw [RegularExpression.matches'_mul]
  exact Language.append_mem_mul (mem_oneOf hc) (mem_star_oneOf ht)

/-- A character of a name is in the class. -/
lemma mem_nameChars {c : Char} (h : isNameChar c = true) : c ∈ nameChars := by
  have hascii : c.toNat < 128 := by
    simp only [isNameChar, Unicode.isAsciiAlphanumeric, Unicode.isUpper, Unicode.isLower,
      Unicode.isDigit, Bool.or_eq_true, Bool.and_eq_true, decide_eq_true_eq, beq_iff_eq,
      Char.le_def,
      UInt32.le_iff_toNat_le] at h
    rcases h with ((((⟨-, h⟩ | ⟨-, h⟩) | ⟨-, h⟩) | rfl) | rfl) | rfl
    · exact lt_of_le_of_lt h (by decide)
    · exact lt_of_le_of_lt h (by decide)
    · exact lt_of_le_of_lt h (by decide)
    · decide
    · decide
    · decide
  refine List.mem_filter.2 ⟨List.mem_map.2 ⟨c.toNat, List.mem_range.2 hascii, ?_⟩, h⟩
  exact Char.ofNat_toNat c

/-- A name is matched. -/
lemma mem_name {t : Text} (hne : t ≠ []) (ht : ∀ c ∈ t, isNameChar c = true) :
    t ∈ name.matches' := by
  obtain ⟨c, t, rfl⟩ := List.exists_cons_of_ne_nil hne
  exact mem_cons_star (mem_nameChars (ht c List.mem_cons_self)) fun d hd =>
    mem_nameChars (ht d (List.mem_cons_of_mem _ hd))

/-- The digits of a positive number do not begin with a zero. -/
lemma exists_ofNat_eq_cons {n : ℕ} (hn : 0 < n) :
    ∃ c t, Text.ofNat n = c :: t ∧ c ∈ ("123456789" : Text) ∧ ∀ d ∈ t,
      d ∈ ("0123456789" : Text) := by
  have hdigit : ∀ m < 10, Nat.digitChar m ∈ ("0123456789" : Text) := by decide +kernel
  have hfirst : ∀ m < 10, 0 < m → Nat.digitChar m ∈ ("123456789" : Text) := by decide +kernel
  unfold Text.ofNat
  induction n using Nat.strong_induction_on with
  | _ n ih =>
    by_cases hsmall : n < 10
    · exact ⟨_, [], Nat.toDigits_of_lt_base hsmall, hfirst n hsmall hn, by simp⟩
    · have hlarge : 10 ≤ n := not_lt.1 hsmall
      obtain ⟨c, t, heq, hc, ht⟩ := ih (n / 10) (by omega) (by omega)
      refine ⟨c, t ++ [Nat.digitChar (n % 10)], ?_, hc, ?_⟩
      · rw [Nat.toDigits_of_base_le (by norm_num) hlarge, heq, List.cons_append]
      · intro d hd
        rcases List.mem_append.1 hd with hd | hd
        · exact ht d hd
        · rw [List.mem_singleton.1 hd]
          exact hdigit _ (Nat.mod_lt _ (by norm_num))

/-- A positive number is matched. -/
lemma mem_number {n : ℕ} (hn : 0 < n) : Text.ofNat n ∈ number.matches' := by
  obtain ⟨c, t, heq, hc, ht⟩ := exists_ofNat_eq_cons hn
  rw [heq]
  exact mem_cons_star hc ht

end RestPattern

/-- `_READ_ONLY_REST_RESOURCE_RE.match`. -/
def isReadOnlyRestResource (resource : Text) : Bool :=
  RestPattern.readOnlyRestResource.rmatch resource

/-- The lists that are read in pages. -/
inductive LiveList
  | changedFiles | issueComments | reviewComments | reviews
  deriving DecidableEq

/-- The resource of a list. -/
def LiveList.resource (ref : GitHubPRRef) (list : LiveList) : Text :=
  "repos/" ++ (ref.owner ++ ("/" ++ (ref.repo ++ ("/" ++ match list with
    | .changedFiles => "pulls/" ++ (Text.ofNat ref.prNumber ++ "/files")
    | .issueComments => "issues/" ++ (Text.ofNat ref.prNumber ++ "/comments")
    | .reviewComments => "pulls/" ++ (Text.ofNat ref.prNumber ++ "/comments")
    | .reviews => "pulls/" ++ (Text.ofNat ref.prNumber ++ "/reviews")))))

/-- A reference as `parse_github_pr_ref` returns it. -/
structure GitHubPRRef.Valid (ref : GitHubPRRef) : Prop where
  /-- The owner has a name. -/
  owner_ne_nil : ref.owner ≠ []
  /-- The name of the owner has the allowed characters. -/
  owner : ∀ c ∈ ref.owner, RestPattern.isNameChar c = true
  /-- The repository has a name. -/
  repo_ne_nil : ref.repo ≠ []
  /-- The name of the repository has the allowed characters. -/
  repo : ∀ c ∈ ref.repo, RestPattern.isNameChar c = true
  /-- Numbers count from one. -/
  prNumber : 0 < ref.prNumber

/-- The resource of a page of a list. -/
def pageResource (resource : Text) (perPage page : ℕ) : Text :=
  resource ++ ("?per_page=" ++ (Text.ofNat perPage ++ ("&page=" ++ Text.ofNat page)))

section
open RestPattern

/-- The end of the resource of a list. -/
lemma mem_listPattern {n : ℕ} (hn : 0 < n) (list : LiveList) :
    (match list with
      | .changedFiles => ("pulls/" : Text) ++ (Text.ofNat n ++ ("/files" : Text))
      | .issueComments => "issues/" ++ (Text.ofNat n ++ "/comments")
      | .reviewComments => "pulls/" ++ (Text.ofNat n ++ "/comments")
      | .reviews => "pulls/" ++ (Text.ofNat n ++ "/reviews")) ∈
      (literal "pulls/" * number + (literal "pulls/" * (number * literal "/files") +
        (literal "issues/" * (number * literal "/comments") +
          (literal "pulls/" * (number * literal "/comments") +
            literal "pulls/" * (number * literal "/reviews"))))).matches' := by
  simp only [RegularExpression.matches'_add, RegularExpression.matches'_mul, Language.mem_add]
  have happend : ∀ before after : Text, before ++ (Text.ofNat n ++ after) ∈
      (literal before).matches' * (number.matches' * (literal after).matches') :=
        fun before after =>
    Language.append_mem_mul (mem_literal before)
      (Language.append_mem_mul (mem_number hn) (mem_literal after))
  cases list with
  | changedFiles => exact .inr (.inl (happend _ _))
  | issueComments => exact .inr (.inr (.inl (happend _ _)))
  | reviewComments => exact .inr (.inr (.inr (.inl (happend _ _))))
  | reviews => exact .inr (.inr (.inr (.inr (happend _ _))))

/-- The pages of every list of a reference may be read. -/
lemma isReadOnlyRestResource_pageResource {ref : GitHubPRRef} (href : ref.Valid) (list : LiveList)
    {perPage page : ℕ} (hperPage : 0 < perPage) (hpage : 0 < page) :
    isReadOnlyRestResource (pageResource (list.resource ref) perPage page) = true := by
  have hquery : ("?per_page=" : Text) ++ (Text.ofNat perPage ++
      (("&page=" : Text) ++ Text.ofNat page)) ∈
      (literal "?per_page=" * (number * (literal "&page=" * number))).matches' := by
    simp only [RegularExpression.matches'_mul]
    exact Language.append_mem_mul (mem_literal _) (Language.append_mem_mul (mem_number hperPage)
      (Language.append_mem_mul (mem_literal _) (mem_number hpage)))
  have hend : ("?per_page=" : Text) ++ (Text.ofNat perPage ++
      (("&page=" : Text) ++ Text.ofNat page)) ∈
      ((1 + literal "?per_page=" * (number * (literal "&page=" * number))) *
        (1 + literal "\n")).matches' := by
    rw [RegularExpression.matches'_mul, ← List.append_nil (("?per_page=" : Text) ++ _)]
    refine Language.append_mem_mul ?_ (.inl rfl)
    exact .inr hquery
  have hmem : pageResource (list.resource ref) perPage page ∈ readOnlyRestResource.matches' := by
    unfold pageResource LiveList.resource readOnlyRestResource
    simp only [List.append_assoc]
    rw [RegularExpression.matches'_mul]
    refine Language.append_mem_mul (mem_literal _) ?_
    rw [RegularExpression.matches'_mul]
    refine Language.append_mem_mul (mem_name href.owner_ne_nil href.owner) ?_
    rw [RegularExpression.matches'_mul]
    refine Language.append_mem_mul (mem_literal _) ?_
    rw [RegularExpression.matches'_mul]
    refine Language.append_mem_mul (mem_name href.repo_ne_nil href.repo) ?_
    rw [RegularExpression.matches'_mul]
    refine Language.append_mem_mul (mem_literal _) ?_
    rw [RegularExpression.matches'_mul]
    exact Language.append_mem_mul (mem_listPattern href.prNumber list) hend
  exact (RegularExpression.rmatch_iff_matches' _ _).2 hmem

end

/-! ## The transport -/

/-- What the runner of a read can do: return the result of the command, or raise an exception with a
message. -/
inductive GhReadRun
  | completed (result : GhCommandResult)
  | raised (message : Text)
  deriving DecidableEq

/-- `json.loads`: a value, a `JSONDecodeError` with its `msg`, or another exception, for a number
that is too long or for values that are nested too deeply. -/
inductive JsonDecoding
  | value (payload : Json)
  | invalid (msg : Text)
  | raised (message : Text)

/-- The outcome of `_get_json`: a value, a `GhApiCommandError` with its reason and message, or
another exception. -/
inductive GhRead
  | json (payload : Json)
  | commandError (reason message : Text)
  | raised (message : Text)

/-- A text, or the default if it is empty. -/
def textOr (text default : Text) : Text := if text = [] then default else text

/-- `_get_json` of a read, behind the check of its arguments. -/
def getJson (decode : Text → JsonDecoding) : GhReadRun → GhRead
  | .raised message => .raised message
  | .completed completed =>
    if completed.timedOut then
      .commandError "timeout" (redactText (textOr completed.stderr "gh api timed out")).text
    else if completed.returncode ≠ 0 then
      .commandError (reasonFromGhFailure completed.stderr completed.returncode)
        (redactText (textOr completed.stderr "gh api failed")).text
    else
      match decode completed.stdout with
      | .value payload => .json payload
      | .invalid msg =>
        .commandError "pagination_incomplete" ("gh api returned invalid JSON: " ++ msg)
      | .raised message => .raised message

/-- `_page_number`; a text of digits that are not all decimal has no integer value. -/
def pageNumber : Option Text → Except Text ℕ
  | none => .ok 1
  | some cursor =>
    if cursor ≠ [] ∧ cursor.all Unicode.hasDigitValue = true then
      if cursor.all Unicode.isDecimal then
        if 0 < decimalNat cursor then .ok (decimalNat cursor)
        else .error "live read pagination cursor must be a positive page number string"
      else .error ("invalid literal for int() with base 10: '" ++ (cursor ++ "'"))
    else .error "live read pagination cursor must be a positive page number string"

/-- A page with an error. -/
def errorPayload (reason message : Text) : Json :=
  .obj [("error", .obj [("reason", .str reason), ("message", .str message)])]

/-- The fields of `GhApiReadTransport` that a read of a list uses. -/
structure GhApiReadTransport where
  maxPages : ℕ
  perPage : ℕ
  deriving DecidableEq

namespace GhApiReadTransport

section
variable (t : GhApiReadTransport) (resource : Text) (mapItem : List (Text × Json) →
  Except Text (List (Text × Json)))

/-- What a page needs: a command, or the answer that is given without one. -/
inductive PageRequest
  | answer (payload : Except Text Json)
  | command (page : ℕ) (resource : Text)

/-- The beginning of `_paged`, up to the command. -/
def pageRequest (cursor : Option Text) : PageRequest :=
  match pageNumber cursor with
  | .error message => .answer (.error message)
  | .ok page =>
    if t.maxPages < page then
      .answer (.ok (errorPayload "pagination_incomplete"
        (resource ++ " exceeded live smoke page limit")))
    else if isReadOnlyRestResource (pageResource resource t.perPage page) then
      .command page (pageResource resource t.perPage page)
    else .answer (.error "live read smoke may only run REST read endpoints")

/-- The end of `_paged`, from the outcome of the command on. -/
def pageAnswer (page : ℕ) : GhRead → Except Text Json
  | .raised message => .error message
  | .commandError reason message => .ok (errorPayload reason message)
  | .json (.arr payload) =>
    match (payload.filterMap objectFields).mapM mapItem with
    | .error message => .error message
    | .ok items =>
      if payload.length = t.perPage then
        if t.maxPages ≤ page then
          .ok (errorPayload "pagination_incomplete" (resource ++ " reached live smoke page limit"))
        else .ok (.obj [("items", .arr (items.map .obj)), ("has_next_page", .bool true),
          ("next_cursor", .str (Text.ofNat (page + 1)))])
      else .ok (.obj [("items", .arr (items.map .obj)), ("has_next_page", .bool false)])
  | .json _ =>
    .ok (errorPayload "pagination_incomplete" (resource ++ " live page must be a list"))

/-- `_paged`, with the outcome of every command. -/
def paged (read : Text → GhRead) (cursor : Option Text) : Except Text Json :=
  match t.pageRequest resource cursor with
  | .answer payload => payload
  | .command page command => t.pageAnswer resource mapItem page (read command)

/-- The command that a page needs, if it needs one. -/
def command (cursor : Option Text) : Option Text :=
  match t.pageRequest resource cursor with
  | .answer _ => none
  | .command _ command => some command

end

end GhApiReadTransport

/-- The cursor of the fetch with the given number. -/
def pageCursor (page : ℕ) : Option Text := if page ≤ 1 then none else some (Text.ofNat page)

/-- The cursor of a page is read back. -/
@[simp] lemma pageNumber_pageCursor {page : ℕ} (hpage : 1 ≤ page) :
    pageNumber (pageCursor page) = .ok page := by
  unfold pageCursor
  split
  · have hone : page = 1 := by omega
    rw [hone]
    rfl
  · have hdecimal : (Text.ofNat page).all Unicode.isDecimal = true :=
      List.all_eq_true.2 fun c hc => isDecimal_of_mem_digits hc
    have hdigits : (Text.ofNat page).all Unicode.hasDigitValue = true :=
      List.all_eq_true.2 fun c hc => by
        unfold Unicode.hasDigitValue
        rw [isDecimal_of_mem_digits hc, Bool.true_or]
    have hvalue : decimalNat (Text.ofNat page) = page := decimalNat_digits page
    unfold pageNumber
    dsimp only
    rw [if_pos ⟨digits_ne_nil page, hdigits⟩, if_pos hdecimal, hvalue, if_pos (by omega)]

/-! ## Reads -/

/-- A read of a list with a transport.  The runner may answer each command as it likes, and the same
command differently each time: `runs` has the answer of every fetch. -/
structure LiveRead where
  transport : GhApiReadTransport
  prRef : GitHubPRRef
  reviewTarget : ReviewTarget
  /-- The name of the list in a gap. -/
  label : Text
  resource : Text
  mapItem : List (Text × Json) → Except Text (List (Text × Json))
  decode : Text → JsonDecoding
  runs : ℕ → Text → GhReadRun

namespace LiveRead

variable (r : LiveRead)

/-- The answer to a fetch. -/
def fetchPage (fetch : ℕ) (cursor : Option Text) : Except Text Json :=
  r.transport.paged r.resource r.mapItem (fun command => getJson r.decode (r.runs fetch command))
    cursor

/-- The collector over the transport. -/
def Collects (cursors : List (Option Text)) (read : PagedRead) : Prop :=
  CollectsPages r.prRef r.reviewTarget r.label r.fetchPage cursors read

/-- The entries that the runner gives for a page, if it gives a list. -/
def pageEntries (page : ℕ) : Option (List Json) :=
  match getJson r.decode (r.runs page (pageResource r.resource r.transport.perPage page)) with
  | .json (.arr entries) => some entries
  | _ => none

/-- The entries of a page that the transport can load, and the items of its objects. -/
def loadedPage (page : ℕ) : Option (List Json × List (List (Text × Json))) :=
  if isReadOnlyRestResource (pageResource r.resource r.transport.perPage page) then
    (r.pageEntries page).bind fun entries =>
      match (entries.filterMap objectFields).mapM r.mapItem with
      | .ok items => some (entries, items)
      | .error _ => none
  else none

/-- The items of a page. -/
def loadedItems (page : ℕ) : List (List (Text × Json)) := ((r.loadedPage page).map Prod.snd).getD []

/-- The pages from one on can be loaded, and the page with the second number is the first that has
another size than was asked for. -/
structure EndsAt (first last : ℕ) : Prop where
  /-- There is a page. -/
  le : first ≤ last
  /-- No page is beyond the limit. -/
  le_maxPages : last ≤ r.transport.maxPages
  /-- The pages before the last one are full. -/
  full : ∀ page, first ≤ page → page < last →
    ∃ loaded, r.loadedPage page = some loaded ∧ loaded.1.length = r.transport.perPage
  /-- The last page is not. -/
  last : ∃ loaded, r.loadedPage last = some loaded ∧ loaded.1.length ≠ r.transport.perPage

/-- A read fails closed with a required gap for the list. -/
def FailsClosed (read : PagedRead) : Prop :=
  ∃ outcome, read = .failClosed outcome ∧
    ∃ gap ∈ outcome.readGaps, gap.required = true ∧ gap.resource = r.label

/-- The items that are mapped from the objects of a list are read back from it. -/
lemma objectItems_map_obj (items : List (List (Text × Json))) :
    objectItems (.arr (items.map .obj)) = some items := by
  have hmapM : (items.map Json.obj).mapM objectFields = some items := by
    induction items with
    | nil => rfl
    | cons item items ih =>
      rw [List.map_cons, List.mapM_cons, ih]
      rfl
  exact hmapM

/-- A page with an error fails. -/
lemma pageStep_errorPayload (label reason message : Text) (page : ℕ) (seen : List Text) :
    ∃ reason' message', pageStep label page seen (.ok (errorPayload reason message)) =
      .failed reason' message' := by
  have hwith : ∀ reason', ∃ message',
      errorPageStep.withMessage label page [("reason", .str reason), ("message", .str message)]
        reason' =
        .failed reason' message' := by
    intro reason'
    have hmessage : presentField [("reason", Json.str reason), ("message", .str message)]
        "message" =
        some (.str message) := by
      have hne : (("reason" : Text) == ("message" : Text)) = false := by decide +kernel
      simp [presentField, Json.lookup, List.find?, hne]
    unfold errorPageStep.withMessage
    rw [hmessage]
    cases message with
    | nil => exact ⟨_, rfl⟩
    | cons c message => exact ⟨_, rfl⟩
  have hreason : presentField [("reason", Json.str reason), ("message", .str message)] "reason" =
      some (.str reason) := by
    simp [presentField, Json.lookup]
  have herror : presentField [("error", Json.obj [("reason", .str reason),
      ("message", .str message)])]
      "error" = some (.obj [("reason", .str reason), ("message", .str message)]) := by
    simp [presentField, Json.lookup]
  simp only [errorPayload, pageStep, herror, errorPageStep, hreason]
  cases reason with
  | nil => exact ⟨_, _, rfl⟩
  | cons c reason =>
    obtain ⟨message', h⟩ := hwith (c :: reason)
    exact ⟨_, _, h⟩

/-- The keys of a page with items differ. -/
lemma pageKeys_ne : (("items" : Text) == ("error" : Text)) = false ∧
    (("has_next_page" : Text) == ("error" : Text)) = false ∧
    (("next_cursor" : Text) == ("error" : Text)) = false ∧
    (("items" : Text) == ("has_next_page" : Text)) = false ∧
    (("items" : Text) == ("next_cursor" : Text)) = false ∧
    (("has_next_page" : Text) == ("next_cursor" : Text)) = false := by
  decide +kernel

/-- The collector stops at a page of items without a next one. -/
lemma pageStep_lastPayload (label : Text) (page : ℕ) (seen : List Text)
    (items : List (List (Text × Json))) :
    pageStep label page seen (.ok (.obj [("items", .arr (items.map .obj)),
      ("has_next_page", .bool false)])) = .last items := by
  obtain ⟨h₁, h₂, -, h₄, -⟩ := pageKeys_ne
  simp [pageStep, itemsPageStep, presentField, Json.lookup, List.find?, objectItems_map_obj, h₁, h₂,
    h₄]

/-- The collector goes on after a page of items with a new cursor. -/
lemma pageStep_nextPayload (label : Text) (page : ℕ) (items : List (List (Text × Json)))
    {seen : List Text} {cursor : Text} (hseen : cursor ∉ seen) :
    pageStep label page seen (.ok (.obj [("items", .arr (items.map .obj)),
      ("has_next_page", .bool true), ("next_cursor", .str cursor)])) = .next items cursor := by
  obtain ⟨h₁, h₂, h₃, h₄, h₅, h₆⟩ := pageKeys_ne
  simp [pageStep, itemsPageStep, presentField, Json.lookup, List.find?, objectItems_map_obj, h₁, h₂,
    h₃, h₄, h₅, h₆, hseen]

/-- The collector fails on the answer to the fetch of a page, or stops there with items, or goes
on. -/
def stepAt (page : ℕ) (seen : List Text) : PageStep :=
  pageStep r.label page seen (r.fetchPage page (pageCursor page))

variable {r}

/-- A page beyond the limit is not fetched with a command, and fails. -/
lemma beyond_maxPages {page : ℕ} (hone : 1 ≤ page) (hpage : r.transport.maxPages < page)
    (seen : List Text) :
    r.transport.command r.resource (pageCursor page) = none ∧
      ∃ reason message, r.stepAt page seen = .failed reason message := by
  have hrequest : r.transport.pageRequest r.resource (pageCursor page) =
      .answer (.ok (errorPayload "pagination_incomplete"
        (r.resource ++ " exceeded live smoke page limit"))) := by
    unfold GhApiReadTransport.pageRequest
    rw [pageNumber_pageCursor hone]
    dsimp only
    rw [if_pos hpage]
  constructor
  · unfold GhApiReadTransport.command
    rw [hrequest]
  · unfold stepAt fetchPage GhApiReadTransport.paged
    rw [hrequest]
    exact pageStep_errorPayload ..

/-- The answer to the fetch of a page within the limit. -/
lemma fetchPage_pageCursor {page : ℕ} (hone : 1 ≤ page) (hpage : page ≤ r.transport.maxPages) :
    r.fetchPage page (pageCursor page) =
      if isReadOnlyRestResource (pageResource r.resource r.transport.perPage page) then
        r.transport.pageAnswer r.resource r.mapItem page
          (getJson r.decode (r.runs page (pageResource r.resource r.transport.perPage page)))
      else .error "live read smoke may only run REST read endpoints" := by
  unfold fetchPage GhApiReadTransport.paged GhApiReadTransport.pageRequest
  rw [pageNumber_pageCursor hone]
  dsimp only
  rw [if_neg (by omega)]
  by_cases hread :
      isReadOnlyRestResource (pageResource r.resource r.transport.perPage page) = true
  · rw [if_pos hread, if_pos hread]
  · rw [if_neg hread, if_neg hread]

/-- A page that cannot be loaded fails. -/
lemma stepAt_of_none {page : ℕ} (hone : 1 ≤ page) (hpage : page ≤ r.transport.maxPages)
    (hnone : r.loadedPage page = none) (seen : List Text) :
    ∃ reason message, r.stepAt page seen = .failed reason message := by
  unfold stepAt
  rw [fetchPage_pageCursor hone hpage]
  unfold loadedPage pageEntries at hnone
  split at hnone
  · rename_i hread
    rw [if_pos hread]
    cases hjson : getJson r.decode (r.runs page (pageResource r.resource r.transport.perPage
      page)) with
    | raised message => exact ⟨_, _, rfl⟩
    | commandError reason message => exact pageStep_errorPayload ..
    | json payload =>
      rw [hjson] at hnone
      unfold GhApiReadTransport.pageAnswer
      cases payload with
      | arr entries =>
        dsimp only [Option.bind_some] at hnone ⊢
        split at hnone
        · contradiction
        · rename_i message hmap
          rw [hmap]
          exact ⟨_, _, rfl⟩
      | _ => exact pageStep_errorPayload ..
  · rename_i hread
    rw [if_neg hread]
    exact ⟨_, _, rfl⟩

/-- The answer to the fetch of a page that can be loaded. -/
lemma stepAt_of_loaded {page : ℕ} (hone : 1 ≤ page) (hpage : page ≤ r.transport.maxPages)
    {entries : List Json} {items : List (List (Text × Json))}
    (hloaded : r.loadedPage page = some (entries, items)) {seen : List Text}
    (hseen : Text.ofNat (page + 1) ∉ seen) :
    if entries.length = r.transport.perPage then
      if r.transport.maxPages ≤ page then ∃ reason message,
        r.stepAt page seen = .failed reason message
      else r.stepAt page seen = .next items (Text.ofNat (page + 1))
    else r.stepAt page seen = .last items := by
  unfold stepAt
  rw [fetchPage_pageCursor hone hpage]
  unfold loadedPage pageEntries at hloaded
  split at hloaded
  · rename_i hread
    rw [if_pos hread]
    obtain ⟨listed, hlisted, hloaded⟩ := Option.bind_eq_some_iff.1 hloaded
    split at hlisted
    · rename_i payload hjson
      obtain rfl := Option.some.inj hlisted
      rw [hjson]
      split at hloaded
      · rename_i mapped hmap
        obtain ⟨rfl, rfl⟩ := Prod.mk.inj (Option.some.inj hloaded)
        unfold GhApiReadTransport.pageAnswer
        dsimp only
        rw [hmap]
        dsimp only
        split
        · split
          · exact pageStep_errorPayload ..
          · exact pageStep_nextPayload _ _ _ hseen
        · exact pageStep_lastPayload ..
      · contradiction
    · contradiction
  · contradiction

/-! ## Runs -/

/-- The variables of the collector before the fetch of a page. -/
structure BeforePage (s : PageLoop) : Prop where
  /-- Pages count from one. -/
  one_le : 1 ≤ s.page
  /-- The cursor is the number of the page. -/
  cursor : s.cursor = pageCursor s.page
  /-- The cursors so far are numbers of pages up to this one. -/
  seen : ∀ cursor ∈ s.seen, ∃ k ≤ s.page, cursor = Text.ofNat k

/-- The loop starts in front of its first page. -/
lemma beforePage_start : BeforePage .start := ⟨le_rfl, rfl, fun _ h => absurd h List.not_mem_nil⟩

/-- The next cursor has not been seen. -/
lemma BeforePage.not_mem_seen {s : PageLoop} (h : BeforePage s) :
    Text.ofNat (s.page + 1) ∉ s.seen := by
  intro hmem
  obtain ⟨k, hk, heq⟩ := h.seen _ hmem
  have hpage : s.page + 1 = k := ofNat_injective heq
  omega

/-- A page with a next one leads in front of that one. -/
lemma BeforePage.advance {s : PageLoop} (h : BeforePage s) (items : List (List (Text × Json))) :
    BeforePage (s.advance items (Text.ofNat (s.page + 1))) := by
  have hpage : ¬ s.page + 1 ≤ 1 := by
    have hone := h.one_le
    omega
  refine ⟨Nat.le_add_left 1 s.page, ?_, ?_⟩
  · exact (if_neg hpage).symm
  · intro cursor hmem
    rcases List.mem_cons.1 hmem with rfl | hmem
    · exact ⟨s.page + 1, le_rfl, rfl⟩
    · obtain ⟨k, hk, heq⟩ := h.seen cursor hmem
      exact ⟨k, Nat.le_succ_of_le hk, heq⟩

/-- The pages from one page to another. -/
def pagesBetween (first last : ℕ) : List ℕ := List.range' first (last + 1 - first)

/-- From a page to itself there is one page. -/
lemma pagesBetween_self (page : ℕ) : pagesBetween page page = [page] := by
  simp [pagesBetween]

/-- The first page, and those behind it. -/
lemma pagesBetween_cons {first last : ℕ} (h : first < last) :
    pagesBetween first last = first :: pagesBetween (first + 1) last := by
  unfold pagesBetween
  have hlength : last + 1 - first = last + 1 - (first + 1) + 1 := by omega
  rw [hlength, List.range'_succ]

/-- What a read from a page on does: it ends with the items of the pages, or it fails closed because
no page ends it. -/
def ReadsFrom (r : LiveRead) (s : PageLoop) (cursors : List (Option Text)) (read : PagedRead) :
    Prop :=
  (∃ last, r.EndsAt s.page last ∧ cursors.length = last + 1 - s.page ∧
    read = .items (s.items ++ (pagesBetween s.page last).flatMap r.loadedItems)) ∨
  (∀ last, ¬ r.EndsAt s.page last) ∧ r.FailsClosed read

/-- The items of a page that is loaded. -/
lemma loadedItems_of_some {page : ℕ} {loaded : List Json × List (List (Text × Json))}
    (h : r.loadedPage page = some loaded) : r.loadedItems page = loaded.2 := by
  unfold loadedItems
  rw [h]
  rfl

/-- The first page of pages that end can be loaded. -/
lemma EndsAt.first {first last : ℕ} (h : r.EndsAt first last) :
    ∃ loaded, r.loadedPage first = some loaded ∧
      (first < last → loaded.1.length = r.transport.perPage) ∧
      (first = last → loaded.1.length ≠ r.transport.perPage) := by
  rcases h.le.lt_or_eq with hlt | rfl
  · obtain ⟨loaded, hloaded, hfull⟩ := h.full first le_rfl hlt
    exact ⟨loaded, hloaded, fun _ => hfull, fun heq => absurd heq hlt.ne⟩
  · obtain ⟨loaded, hloaded, hsize⟩ := h.last
    exact ⟨loaded, hloaded, fun hlt => absurd hlt (lt_irrefl _), fun _ => hsize⟩

/-- Pages end behind a full page exactly if the pages behind it do. -/
lemma endsAt_succ_iff {first last : ℕ} {loaded : List Json × List (List (Text × Json))}
    (hloaded : r.loadedPage first = some loaded) (hfull : loaded.1.length = r.transport.perPage) :
    r.EndsAt first last ↔ r.EndsAt (first + 1) last := by
  constructor
  · intro h
    obtain ⟨other, hother, -, hsize⟩ := h.first
    obtain rfl := Option.some.inj (hloaded.symm.trans hother)
    have hne : first ≠ last := fun heq => hsize heq hfull
    exact ⟨by have := h.le; omega, h.le_maxPages, fun page hpage => h.full page (by omega), h.last⟩
  · intro h
    refine ⟨by have := h.le; omega, h.le_maxPages, ?_, h.last⟩
    intro page hpage hlast
    rcases hpage.lt_or_eq with hlt | rfl
    · exact h.full page hlt hlast
    · exact ⟨loaded, hloaded, hfull⟩

/-- The failure of a page is one of the read. -/
lemma failsClosed_paginationFailure (page : ℕ) (reason message : Text) :
    r.FailsClosed (.failClosed
      (paginationFailure r.prRef r.reviewTarget r.label page reason message)) :=
  ⟨_, rfl, _, List.mem_singleton_self _, rfl, rfl⟩

/-- At most one command is run for a fetch. -/
lemma length_filterMap_singleton_le (cursor : Option Text) :
    ([cursor].filterMap (r.transport.command r.resource)).length ≤ 1 :=
  List.length_filterMap_le _ _

/-- The collector reads the pages from one on. -/
lemma exists_readsFrom {s : PageLoop} (hs : BeforePage s) :
    ∃ cursors read, CollectsFrom r.prRef r.reviewTarget r.label r.fetchPage s cursors read ∧
      (cursors.filterMap (r.transport.command r.resource)).length ≤ r.transport.maxPages +
        1 - s.page ∧
        ReadsFrom r s cursors read := by
  generalize hrounds : r.transport.maxPages + 1 - s.page = rounds
  induction rounds generalizing s with
  | zero =>
    have hpage : r.transport.maxPages < s.page := by omega
    obtain ⟨hcommand, reason, message, hstep⟩ := beyond_maxPages hs.one_le hpage s.seen
    unfold stepAt at hstep
    rw [← hs.cursor] at hstep hcommand
    refine ⟨_, _, .of_failed hstep, ?_, .inr ⟨?_, failsClosed_paginationFailure ..⟩⟩
    · rw [List.filterMap_cons_none hcommand, List.filterMap_nil, List.length_nil]
    · intro last hends
      have hle := hends.le
      have hmax := hends.le_maxPages
      omega
  | succ rounds ih =>
    have hpage : s.page ≤ r.transport.maxPages := by omega
    have hone : ([s.cursor].filterMap (r.transport.command r.resource)).length ≤ rounds + 1 :=
      (length_filterMap_singleton_le _).trans (by omega)
    cases hloaded : r.loadedPage s.page with
    | none =>
      obtain ⟨reason, message, hstep⟩ := stepAt_of_none hs.one_le hpage hloaded s.seen
      unfold stepAt at hstep
      rw [← hs.cursor] at hstep
      refine ⟨_, _, .of_failed hstep, hone, .inr ⟨?_, failsClosed_paginationFailure ..⟩⟩
      intro last hends
      obtain ⟨loaded, hsome, -⟩ := hends.first
      rw [hloaded] at hsome
      contradiction
    | some loaded =>
      obtain ⟨entries, items⟩ := loaded
      have hstep := stepAt_of_loaded hs.one_le hpage hloaded hs.not_mem_seen
      unfold stepAt at hstep
      rw [← hs.cursor] at hstep
      split at hstep
      · rename_i hfull
        split at hstep
        · rename_i hlimit
          obtain ⟨reason, message, hstep⟩ := hstep
          refine ⟨_, _, .of_failed hstep, hone, .inr ⟨?_, failsClosed_paginationFailure ..⟩⟩
          intro last hends
          have hle := ((endsAt_succ_iff hloaded hfull).1 hends).le
          have hmax := hends.le_maxPages
          omega
        · have hrest : r.transport.maxPages + 1 -
              (s.advance items (Text.ofNat (s.page + 1))).page = rounds := by
            change r.transport.maxPages + 1 - (s.page + 1) = rounds
            omega
          obtain ⟨cursors, read, hcollects, hcommands, hreads⟩ := ih (hs.advance items) hrest
          refine ⟨_, read, .of_next hstep hcollects, ?_, ?_⟩
          · rw [← List.singleton_append, List.filterMap_append, List.length_append, Nat.add_comm]
            exact Nat.add_le_add hcommands (length_filterMap_singleton_le _)
          · rcases hreads with ⟨last, hends, hlength, hread⟩ | ⟨hnone, hfails⟩
            · have hle : s.page + 1 ≤ last := hends.le
              have hlength' : cursors.length = last + 1 - (s.page + 1) := hlength
              refine .inl ⟨last, (endsAt_succ_iff hloaded hfull).2 hends, ?_, ?_⟩
              · rw [List.length_cons, hlength']
                omega
              · rw [hread, pagesBetween_cons hle, List.flatMap_cons, loadedItems_of_some hloaded]
                simp [PageLoop.advance, List.append_assoc]
            · refine .inr ⟨?_, hfails⟩
              intro last hends
              exact hnone last ((endsAt_succ_iff hloaded hfull).1 hends)
      · rename_i hsize
        refine ⟨_, _, .of_last hstep, hone, .inl ⟨s.page, ?_, ?_, ?_⟩⟩
        · exact ⟨le_rfl, hpage, fun page hle hlt => absurd hlt (by omega), _, hloaded, hsize⟩
        · simp
        · rw [pagesBetween_self, List.flatMap_singleton, loadedItems_of_some hloaded]

/-! ## All or nothing -/

variable (r)

/-- The entries of the pages from the first one to the given one. -/
def entriesUpTo (last : ℕ) : List Json := (pagesBetween 1 last).flatMap fun page =>
    (r.pageEntries page).getD []

/-- A read is complete: it has one item for every entry of the fetched pages, and the last of them
is the first that is shorter than the page size. -/
structure IsComplete (last : ℕ) (items : List (List (Text × Json))) : Prop where
  /-- Every page is a list. -/
  entries : ∀ page ∈ pagesBetween 1 last, ∃ entries, r.pageEntries page = some entries ∧
    (entries.length < r.transport.perPage ↔ page = last)
  /-- Every entry is an object, and its item is at its place. -/
  items : List.Forall₂ (fun entry item => ∃ fields, entry = .obj fields ∧
    r.mapItem fields = .ok item)
    (r.entriesUpTo last) items

/-- A server that serves a list of objects by the numbers of its pages. -/
def Serves (objects : List (List (Text × Json))) : Prop :=
  ∀ fetch page, 1 ≤ page →
    getJson r.decode (r.runs fetch (pageResource r.resource r.transport.perPage page)) =
      .json (.arr (((objects.drop ((page - 1) * r.transport.perPage)).take r.transport.perPage).map
        .obj))

/-- A read of a list is all or nothing. -/
structure AllOrNothing (cursors : List (Option Text)) (read : PagedRead) : Prop where
  /-- The read is complete, or it fails closed. -/
  complete_or_failsClosed :
    (∃ items, read = .items items ∧ r.IsComplete cursors.length items) ∨ r.FailsClosed read
  /-- A list that is served is read in full if it is shorter than the pages within the limit. -/
  served : ∀ (ref : GitHubPRRef) (list : LiveList) (objects items : List (List (Text × Json))),
    ref.Valid → r.resource = list.resource ref → r.Serves objects →
      objects.mapM r.mapItem = .ok items →
      objects.length < r.transport.perPage * r.transport.maxPages → read = .items items
  /-- A list that is served and is not shorter fails closed. -/
  servedBeyond : ∀ objects : List (List (Text × Json)), r.Serves objects →
    r.transport.perPage * r.transport.maxPages ≤ objects.length → r.FailsClosed read
  /-- No more commands are run than there are pages within the limit. -/
  commands : (cursors.filterMap (r.transport.command r.resource)).length ≤ r.transport.maxPages

/-- What the pages of a read have to be like: on pages that end within the limit every entry is an
object, and the last page is not longer than was asked for. -/
def PagesAreObjects : Prop :=
  ∀ last, r.EndsAt 1 last →
    (∀ entry ∈ r.entriesUpTo last, (objectFields entry).isSome = true) ∧
      ∀ entries, r.pageEntries last = some entries → entries.length < r.transport.perPage

variable {r}

/-- The entries of a page that can be loaded, and its items. -/
lemma pageEntries_of_loaded {page : ℕ} {loaded : List Json × List (List (Text × Json))}
    (h : r.loadedPage page = some loaded) :
    r.pageEntries page = some loaded.1 ∧
      (loaded.1.filterMap objectFields).mapM r.mapItem = .ok loaded.2 := by
  unfold loadedPage at h
  split at h
  · obtain ⟨entries, hentries, h⟩ := Option.bind_eq_some_iff.1 h
    split at h
    · rename_i items hitems
      obtain rfl := Option.some.inj h
      exact ⟨hentries, hitems⟩
    · contradiction
  · contradiction

/-- Every page of pages that end can be loaded. -/
lemma EndsAt.loaded {first last page : ℕ} (h : r.EndsAt first last)
    (hpage : page ∈ pagesBetween first last) :
    ∃ loaded, r.loadedPage page = some loaded ∧
      (page ≠ last → loaded.1.length = r.transport.perPage) := by
  obtain ⟨hfirst, hlast⟩ := List.mem_range'_1.1 hpage
  have hle : first ≤ last := h.le
  by_cases heq : page = last
  · obtain ⟨loaded, hloaded, -⟩ := h.last
    exact ⟨loaded, heq ▸ hloaded, fun hne => absurd heq hne⟩
  · obtain ⟨loaded, hloaded, hfull⟩ := h.full page hfirst (by omega)
    exact ⟨loaded, hloaded, fun _ => hfull⟩

/-- The objects of entries are mapped one by one, if all of the entries are objects. -/
lemma forall₂_of_mapM {entries : List Json} {items : List (List (Text × Json))}
    (hobjects : ∀ entry ∈ entries, (objectFields entry).isSome = true)
    (h : (entries.filterMap objectFields).mapM r.mapItem = .ok items) :
    List.Forall₂ (fun entry item => ∃ fields, entry = .obj fields ∧ r.mapItem fields = .ok item)
      entries items := by
  rw [mapM_eq_ok] at h
  induction entries generalizing items with
  | nil =>
    rw [List.filterMap_nil, List.forall₂_nil_left_iff] at h
    rw [h]
    exact .nil
  | cons entry entries ih =>
    obtain ⟨fields, hfields⟩ := Option.isSome_iff_exists.1 (hobjects entry List.mem_cons_self)
    rw [List.filterMap_cons_some hfields] at h
    cases h with
    | cons hitem hrest =>
      have hentry : entry = .obj fields := by
        cases entry <;> simp_all [objectFields]
      exact .cons ⟨fields, hentry, hitem⟩
        (ih (fun other hother => hobjects other (List.mem_cons_of_mem _ hother)) hrest)

/-- Pages whose entries are mapped one by one are mapped so together. -/
lemma forall₂_flatMap {α β : Type} {R : α → β → Prop} {pages : List ℕ} {f : ℕ → List α}
    {g : ℕ → List β}
    (h : ∀ page ∈ pages, List.Forall₂ R (f page) (g page)) :
    List.Forall₂ R (pages.flatMap f) (pages.flatMap g) := by
  induction pages with
  | nil => exact .nil
  | cons page pages ih =>
    rw [List.flatMap_cons, List.flatMap_cons]
    exact List.rel_append (h page List.mem_cons_self)
      (ih fun other hother => h other (List.mem_cons_of_mem _ hother))

/-- A read whose pages end is complete exactly if every entry is an object and the last page is
short. -/
lemma EndsAt.isComplete_iff {last : ℕ} (h : r.EndsAt 1 last) :
    r.IsComplete last ((pagesBetween 1 last).flatMap r.loadedItems) ↔
      (∀ entry ∈ r.entriesUpTo last, (objectFields entry).isSome = true) ∧
        ∀ entries, r.pageEntries last = some entries → entries.length < r.transport.perPage := by
  have hlast : last ∈ pagesBetween 1 last := by
    have hle := h.le
    exact List.mem_range'_1.2 ⟨h.le, by omega⟩
  constructor
  · intro hcomplete
    constructor
    · intro entry hentry
      obtain ⟨item, -, fields, rfl, -⟩ := hcomplete.items.flip.exists_of_mem_right hentry
      rfl
    · intro entries hentries
      obtain ⟨entries', hentries', hsize⟩ := hcomplete.entries last hlast
      rw [hentries] at hentries'
      obtain rfl := Option.some.inj hentries'
      exact hsize.2 rfl
  · rintro ⟨hobjects, hshort⟩
    constructor
    · intro page hpage
      obtain ⟨loaded, hloaded, hfull⟩ := h.loaded hpage
      have hentries := (pageEntries_of_loaded hloaded).1
      refine ⟨loaded.1, hentries, ?_⟩
      constructor
      · intro hlt
        by_contra hne
        exact absurd (hfull hne) hlt.ne
      · rintro rfl
        exact hshort _ hentries
    · refine forall₂_flatMap ?_
      intro page hpage
      obtain ⟨loaded, hloaded, -⟩ := h.loaded hpage
      obtain ⟨hentries, hitems⟩ := pageEntries_of_loaded hloaded
      rw [hentries, loadedItems_of_some hloaded, Option.getD_some]
      refine forall₂_of_mapM ?_ hitems
      intro entry hentry
      refine hobjects entry (List.mem_flatMap.2 ⟨page, hpage, ?_⟩)
      rw [hentries]
      exact hentry

/-! ## Lists that are served -/

section
variable {objects items : List (List (Text × Json))}

/-- The part of a list that is on a page. -/
def onPage {α : Type} (perPage page : ℕ) (as : List α) : List α :=
  (as.drop ((page - 1) * perPage)).take perPage

/-- How many items there are on a page. -/
lemma length_onPage {α : Type} (perPage page : ℕ) (as : List α) :
    (onPage perPage page as).length = min perPage (as.length - (page - 1) * perPage) := by
  rw [onPage, List.length_take, List.length_drop]

/-- The pages of a list up to one of them are its beginning. -/
lemma flatMap_onPage {α : Type} (perPage last : ℕ) (as : List α) :
    (pagesBetween 1 last).flatMap (fun page => onPage perPage page as) = as.take
    (last * perPage) := by
  unfold pagesBetween
  rw [Nat.add_sub_cancel]
  induction last with
  | zero => simp
  | succ last ih =>
    rw [List.range'_1_concat, List.flatMap_append, ih, List.flatMap_singleton, Nat.succ_mul,
      List.take_add,
      onPage, Nat.add_sub_cancel_left]

/-- A page that is served has its items. -/
lemma Serves.pageEntries_eq (h : r.Serves objects) {page : ℕ} (hone : 1 ≤ page) :
    r.pageEntries page = some ((onPage r.transport.perPage page objects).map .obj) := by
  unfold pageEntries onPage
  rw [h page page hone]

/-- A list that reaches the limit has no page that ends it. -/
lemma Serves.not_endsAt (h : r.Serves objects)
    (hlong : r.transport.perPage * r.transport.maxPages ≤ objects.length) (last : ℕ) :
    ¬ r.EndsAt 1 last := by
  intro hends
  obtain ⟨loaded, hloaded, hsize⟩ := hends.last
  have hentries := (pageEntries_of_loaded hloaded).1
  rw [h.pageEntries_eq hends.le] at hentries
  have hlength : loaded.1.length =
      min r.transport.perPage (objects.length - (last - 1) * r.transport.perPage) := by
    rw [← Option.some.inj hentries, List.length_map, length_onPage]
  have hpages : last * r.transport.perPage ≤ objects.length := by
    refine le_trans ?_ hlong
    rw [Nat.mul_comm]
    exact Nat.mul_le_mul_left _ hends.le_maxPages
  have hsplit : last * r.transport.perPage = (last - 1) * r.transport.perPage +
      r.transport.perPage := by
    rw [← Nat.succ_mul]
    congr 1
    have hle := hends.le
    omega
  omega

/-- The items of a page of a list that is served. -/
lemma Serves.loadedPage_eq (h : r.Serves objects) {ref : GitHubPRRef} {list : LiveList}
    (href : ref.Valid) (hresource : r.resource = list.resource ref)
    (hmap : objects.mapM r.mapItem = .ok items) (hperPage : 0 < r.transport.perPage) {page : ℕ}
    (hone : 1 ≤ page) :
    r.loadedPage page = some ((onPage r.transport.perPage page objects).map .obj,
      onPage r.transport.perPage page items) := by
  have hread : isReadOnlyRestResource (pageResource r.resource r.transport.perPage page) =
      true := by
    rw [hresource]
    exact isReadOnlyRestResource_pageResource href list hperPage hone
  have hobjects : ((onPage r.transport.perPage page objects).map Json.obj).filterMap objectFields =
      onPage r.transport.perPage page objects := by
    rw [List.filterMap_map]
    exact List.filterMap_some
  have hitems : (onPage r.transport.perPage page objects).mapM r.mapItem =
      .ok (onPage r.transport.perPage page items) := by
    rw [mapM_eq_ok] at hmap ⊢
    exact List.forall₂_take _ (List.forall₂_drop _ hmap)
  unfold loadedPage
  rw [if_pos hread, h.pageEntries_eq hone, Option.bind_some, hobjects, hitems]

/-- A list that is shorter than the pages within the limit ends on its last page. -/
lemma Serves.exists_endsAt (h : r.Serves objects) {ref : GitHubPRRef} {list : LiveList}
    (href : ref.Valid) (hresource : r.resource = list.resource ref)
    (hmap : objects.mapM r.mapItem = .ok items)
    (hshort : objects.length < r.transport.perPage * r.transport.maxPages) :
    ∃ last, r.EndsAt 1 last ∧ objects.length < last * r.transport.perPage := by
  have hperPage : 0 < r.transport.perPage := by
    by_contra hzero
    have hperPage : r.transport.perPage = 0 := by omega
    rw [hperPage, Nat.zero_mul] at hshort
    exact absurd hshort (Nat.not_lt_zero _)
  have hloaded : ∀ page, 1 ≤ page → r.loadedPage page =
      some ((onPage r.transport.perPage page objects).map .obj,
        onPage r.transport.perPage page items) :=
    fun _ hone => h.loadedPage_eq href hresource hmap hperPage hone
  have hfull : objects.length / r.transport.perPage * r.transport.perPage ≤ objects.length :=
    Nat.div_mul_le_self _ _
  have hlast : objects.length < (objects.length / r.transport.perPage + 1) *
      r.transport.perPage := by
    rw [Nat.mul_comm]
    exact Nat.lt_mul_div_succ _ hperPage
  refine ⟨objects.length / r.transport.perPage + 1, ⟨Nat.le_add_left 1 _, ?_, ?_, ?_⟩, hlast⟩
  · exact Nat.div_lt_of_lt_mul hshort
  · intro page hone hpage
    refine ⟨_, hloaded page hone, ?_⟩
    have hpages : page * r.transport.perPage ≤ objects.length :=
      (Nat.mul_le_mul_right _ (Nat.le_of_lt_succ hpage)).trans hfull
    have hsplit : page * r.transport.perPage = (page - 1) * r.transport.perPage +
        r.transport.perPage := by
      rw [← Nat.succ_mul]
      congr 1
      omega
    rw [List.length_map, length_onPage]
    omega
  · refine ⟨_, hloaded _ (Nat.le_add_left 1 _), ?_⟩
    rw [List.length_map, length_onPage, Nat.add_sub_cancel]
    rw [Nat.succ_mul] at hlast
    omega

end

/-! ## Results -/

/-- The collector returns, after at most as many commands as there are pages within the limit. -/
lemma exists_collects (r : LiveRead) : ∃ cursors read, r.Collects cursors read ∧
    (cursors.filterMap (r.transport.command r.resource)).length ≤ r.transport.maxPages ∧
      ReadsFrom r .start cursors read :=
  exists_readsFrom beforePage_start

/-- A read whose pages end returns their items. -/
lemma Collects.of_endsAt {cursors : List (Option Text)} {read : PagedRead}
    (h : r.Collects cursors read) {last : ℕ} (hends : r.EndsAt 1 last) :
    ∃ last, r.EndsAt 1 last ∧ cursors.length = last ∧
      read = .items ((pagesBetween 1 last).flatMap r.loadedItems) := by
  obtain ⟨cursors', read', hcollects, -, hreads⟩ := exists_collects r
  obtain ⟨rfl, rfl⟩ := CollectsFrom.unique h hcollects
  rcases hreads with ⟨last', hends', hlength, hread⟩ | ⟨hnone, -⟩
  · exact ⟨last', hends', hlength, hread⟩
  · exact absurd hends (hnone last)

/-- The page that ends a read is determined. -/
lemma EndsAt.unique {first last last' : ℕ} (h : r.EndsAt first last) (h' : r.EndsAt first last') :
    last = last' := by
  have hnot : ∀ {k k'}, r.EndsAt first k → r.EndsAt first k' → ¬ k < k' := by
    intro k k' hk hk' hlt
    obtain ⟨loaded, hloaded, hfull⟩ := hk'.full k hk.le hlt
    obtain ⟨other, hother, hsize⟩ := hk.last
    rw [hloaded] at hother
    obtain rfl := Option.some.inj hother
    exact hsize hfull
  exact le_antisymm (not_lt.1 (hnot h' h)) (not_lt.1 (hnot h h'))

/-- A read fails closed with nothing else, and returns items with nothing else. -/
lemma not_failsClosed_items {items : List (List (Text × Json))} :
    ¬ r.FailsClosed (.items items) := by
  rintro ⟨outcome, heq, -⟩
  contradiction

/-- The items of a list that is served and shorter than the pages within the limit. -/
lemma Serves.read_eq {objects items : List (List (Text × Json))} (h : r.Serves objects)
    {ref : GitHubPRRef} {list : LiveList} (href : ref.Valid)
    (hresource : r.resource = list.resource ref)
    (hmap : objects.mapM r.mapItem = .ok items)
    (hshort : objects.length < r.transport.perPage * r.transport.maxPages)
    {cursors : List (Option Text)} {read : PagedRead} (hcollects : r.Collects cursors read) :
    read = .items items := by
  obtain ⟨last, hends, hlast⟩ := h.exists_endsAt href hresource hmap hshort
  obtain ⟨last', hends', -, hread⟩ := hcollects.of_endsAt hends
  obtain rfl := hends.unique hends'
  have hperPage : 0 < r.transport.perPage := Nat.pos_of_mul_pos_left (Nat.zero_lt_of_lt hlast)
  have hitems : (pagesBetween 1 last).flatMap r.loadedItems =
      (pagesBetween 1 last).flatMap fun page => onPage r.transport.perPage page items := by
    refine List.flatMap_congr ?_
    intro page hpage
    obtain ⟨hone, -⟩ := List.mem_range'_1.1 hpage
    rw [loadedItems_of_some (h.loadedPage_eq href hresource hmap hperPage hone)]
  have hlength : objects.length = items.length := (mapM_eq_ok.1 hmap).length_eq
  rw [hread, hitems, flatMap_onPage, List.take_of_length_le (by omega)]

/-- A read of a list in pages always returns.  It is all or nothing exactly if, on pages that end
within the limit, every entry is an object and the last page is not longer than was asked for. -/
theorem allOrNothing_iff (r : LiveRead) :
    (∃ cursors read, r.Collects cursors read) ∧
      ((∀ cursors read, r.Collects cursors read → r.AllOrNothing cursors read) ↔
        r.PagesAreObjects) := by
  obtain ⟨cursors, read, hcollects, hcommands, hreads⟩ := exists_collects r
  refine ⟨⟨cursors, read, hcollects⟩, ?_⟩
  constructor
  · intro hall last hends
    obtain ⟨last', hends', hlength, hread⟩ := hcollects.of_endsAt hends
    obtain rfl := hends.unique hends'
    rcases (hall cursors read hcollects).complete_or_failsClosed with ⟨items, hitems,
        hcomplete⟩ | hfails
    · rw [hread] at hitems
      rw [← PagedRead.items.inj hitems, hlength] at hcomplete
      exact hends.isComplete_iff.1 hcomplete
    · rw [hread] at hfails
      exact absurd hfails not_failsClosed_items
  · intro hpages cursors' read' hcollects'
    obtain ⟨rfl, rfl⟩ := CollectsFrom.unique hcollects' hcollects
    refine ⟨?_, ?_, ?_, hcommands⟩
    · rcases hreads with ⟨last, hends, hlength, hread⟩ | ⟨-, hfails⟩
      · have hlength' : cursors'.length = last := hlength
        refine .inl ⟨_, hread, ?_⟩
        rw [hlength']
        exact hends.isComplete_iff.2 (hpages last hends)
      · exact .inr hfails
    · intro ref list objects items href hresource hserves hmap hshort
      exact hserves.read_eq href hresource hmap hshort hcollects
    · intro objects hserves hlong
      rcases hreads with ⟨last, hends, -⟩ | ⟨-, hfails⟩
      · exact absurd hends (hserves.not_endsAt hlong last)
      · exact hfails

/-- The decoder with one message for every text that is no JSON. -/
def decodeJson (t : Text) : JsonDecoding :=
  match Json.loads t with
  | .ok payload => .value payload
  | .error .invalid => .invalid "Expecting value"
  | .error e => .raised e.message

/-- A read of changed files for which the runner prints a list with a number. -/
def numberEntry : LiveRead where
  transport := ⟨5, 100⟩
  prRef := ⟨"owner", "repo", 1⟩
  reviewTarget := ⟨"owner/repo", 1, "base", "head", none, "merge_base"⟩
  label := "files"
  resource := LiveList.changedFiles.resource ⟨"owner", "repo", 1⟩
  mapItem := .ok
  decode := decodeJson
  runs := fun _ _ => .completed ⟨0, "[1]", "", false⟩

/-- An entry that is no object is dropped. -/
theorem numberEntry_not_allOrNothing :
    ¬ ∀ (r : LiveRead) (cursors : List (Option Text)) (read : PagedRead),
      r.Collects cursors read → r.AllOrNothing cursors read := by
  intro hall
  have howner : ("owner" : Text).all RestPattern.isNameChar = true := by decide +kernel
  have hrepo : ("repo" : Text).all RestPattern.isNameChar = true := by decide +kernel
  have hvalid : GitHubPRRef.Valid ⟨"owner", "repo", 1⟩ :=
    ⟨by decide +kernel, List.all_eq_true.1 howner, by decide +kernel, List.all_eq_true.1 hrepo,
      Nat.one_pos⟩
  have hread : isReadOnlyRestResource (pageResource numberEntry.resource
      numberEntry.transport.perPage 1) =
      true :=
    isReadOnlyRestResource_pageResource hvalid .changedFiles (by decide) Nat.one_pos
  have hloads : Json.loads "[1]" = .ok (.arr [.int 1]) := by decide +kernel
  have hentries : numberEntry.pageEntries 1 = some [.int 1] := by
    simp [pageEntries, numberEntry, getJson, decodeJson, hloads]
  have hloaded : numberEntry.loadedPage 1 = some ([.int 1], []) := by
    unfold loadedPage
    rw [if_pos hread, hentries]
    rfl
  have hends : numberEntry.EndsAt 1 1 :=
    ⟨le_rfl, by decide, fun page hone hlt => absurd hlt (by omega), _, hloaded, by decide⟩
  obtain ⟨cursors, read, hcollects, -⟩ := exists_collects numberEntry
  obtain ⟨last, hends', hlength, hitems⟩ := hcollects.of_endsAt hends
  obtain rfl := hends.unique hends'
  rcases (hall _ _ _ hcollects).complete_or_failsClosed with ⟨items, heq, hcomplete⟩ | hfails
  · rw [hitems] at heq
    rw [← PagedRead.items.inj heq, hlength] at hcomplete
    have hmem : Json.int 1 ∈ numberEntry.entriesUpTo 1 := by
      simp [entriesUpTo, pagesBetween_self, hentries]
    have hobject := (hends.isComplete_iff.1 hcomplete).1 _ hmem
    contradiction
  · rw [hitems] at hfails
    exact not_failsClosed_items hfails

end LiveRead

end ReviewGraph
