import ReviewGraph.Foundation.Search
import ReviewGraph.Foundation.Words
import ReviewGraph.Models.Review

/-!
# The policy on the text of findings

`_is_postable_finding` of `quality.py` with its helpers: what a finding must say, and must not say,
to be published.  The searches for words and phrases are those of the code, one expression for each
of its regular expressions.
-/

namespace ReviewGraph

open Regex Regex.Expr

/-! ## Expressions -/

/-- The expression between two word boundaries. -/
def bounded (e : Expr) : Expr := boundary ++ (e ++ boundary)

/-- A text and an optional letter s. -/
def plural (t : Text) : Expr := text t ++ maybe (text "s")

/-- A text and the rest of its word. -/
def stem (t : Text) : Expr := text t ++ optionalWord

/-- `tests?|coverage`. -/
def testsOrCoverage : Expr := .alt (plural "test") (text "coverage")

/-- `(?:for|covering|on|in|with|when|around)\s+`. -/
def targetPreposition : Expr :=
  oneOf ["for", "covering", "on", "in", "with", "when", "around"] ++ spaces

/-- `(?:[\w-]+\s+){1,8}`. -/
def fewWords : Expr :=
  .group 1 (some 8) (.pattern (Pattern.many 1 fun c => Unicode.isWord c || c == '-') ++ spaces)

/-- `(?:regression\s+)?`. -/
def optionalRegression : Expr := maybe (text "regression" ++ spaces)

/-- `(?:\s*[-,]\s*\d+)*`. -/
def moreLines : Expr :=
  .group 0 none (optionalSpaces ++ (one (fun c => c == '-' || c == ',') ++
    (optionalSpaces ++ decimals)))

/-- `lines?\s+\d+(?:\s*[-,]\s*\d+)*`. -/
def lineNumbers : Expr := plural "line" ++ (spaces ++ (decimals ++ moreLines))

/-! ## Evidence -/

/-- The evidence that names no fact. -/
def emptyEvidence : Expr :=
  choice (text "n" ++ (maybe (text "/") ++ text "a"))
    [text "none", text "unknown", text "tbd", text "see " ++ oneOf ["diff", "above"],
      maybe (text "changed" ++ spaces) ++ (lineNumbers ++ maybe (text "."))]

/-- `\b(changed lines?|new branch|introduced|now)\b`. -/
def introducedInEvidence : Expr :=
  bounded (choice (plural "changed line") [text "new branch", text "introduced", text "now"])

/-- The reference to changed lines at the beginning of the evidence. -/
def changedLinePrefix : Expr :=
  text "changed" ++ (spaces ++ (lineNumbers ++ (optionalSpaces ++
    (maybe (one fun c => c == ':' || c == '.' || c == '-') ++ optionalSpaces))))

/-- The evidence without the reference to changed lines; the greedy match is the longest one. -/
def evidenceDetail (normalized : Text) : Text :=
  normalized.drop ((changedLinePrefix.ends none normalized).foldl max 0)

/-- `_has_concrete_finding_evidence`. -/
def hasConcreteFindingEvidence (evidence : Text) : Bool :=
  let normalized := evidence.casefold.strip
  let detail := evidenceDetail normalized
  normalized ≠ [] && !emptyEvidence.fullMatch normalized &&
    introducedInEvidence.search normalized && 3 ≤ detail.splitWords.length &&
    (Expr.pattern (Pattern.many 3 Unicode.isLower)).search detail

/-! ## Public text -/

/-- The phrases that press for a verdict. -/
def publicVerdictPressure : List Text :=
  ["request changes", "requested changes", "block merge", "blocking merge", "do not merge",
    "don't merge", "must not merge", "reject this pr"]

/-- The phrases that start another issue. -/
def multiIssueMarkers : List Text :=
  ["also,", "also ", "another issue", "second issue", "separate issue", "unrelated issue"]

/-- `_has_public_comment_shape`. -/
def hasPublicCommentShape (body : Text) : Bool :=
  let normalized := body.casefold
  let pressureText := Text.blankRuns (fun c => c == '_' || c == '-') normalized
  body.splitWords.length ≤ 120 && !pressureText.containsAny publicVerdictPressure &&
    !normalized.containsAny multiIssueMarkers

/-! ## Advice on tests -/

/-- The terms of advice on tests. -/
def testingTerms : List Text :=
  ["add tests", "improve coverage", "missing coverage", "missing test", "missing tests",
    "no regression coverage", "no test coverage", "please add tests", "regression test",
    "test coverage", "without tests"]

/-- `_is_testing_advice`. -/
def isTestingAdvice (finding : ClassifiedFinding) (text : Text) : Bool :=
  decide (finding.sourceReviewer = "testing") || text.containsAny testingTerms

/-- The expressions of `_has_identifiable_missing_coverage_target`. -/
def missingCoverageTargets : List Expr := [
  boundary ++ (text "missing" ++ (spaces ++ (.notAhead (choice (plural "test" ++ boundary)
    [text "coverage" ++ boundary, text "regression" ++
      (spaces ++ (testsOrCoverage ++ boundary))]) ++
      (fewWords ++ (testsOrCoverage ++ boundary))))),
  boundary ++ (text "missing" ++ (spaces ++ (optionalRegression ++ (testsOrCoverage ++ (spaces ++
    (targetPreposition ++ word)))))),
  boundary ++ (text "no" ++ (spaces ++ (optionalRegression ++ (plural "test" ++ (spaces ++
    (targetPreposition ++ word)))))),
  boundary ++ (text "no" ++ (spaces ++ (optionalRegression ++ (plural "test" ++ (spaces ++
    (maybe (.alt (text "currently" ++ spaces) (text "that" ++ spaces)) ++
      (plural "cover" ++ (spaces ++ word)))))))),
  boundary ++ (text "no" ++ (spaces ++ (optionalRegression ++ (text "coverage" ++ (spaces ++
    (targetPreposition ++ (.notAhead (text "this" ++ (spaces ++ (text "change" ++ boundary))) ++
      word))))))),
  boundary ++ (text "no" ++ (spaces ++ (.notAhead (text "coverage" ++ (spaces ++
    (oneOf ["for", "on"] ++ (spaces ++ (text "this" ++
      (spaces ++ (text "change" ++ boundary))))))) ++
      (fewWords ++ (text "coverage" ++ boundary))))),
  boundary ++ (text "without" ++ (spaces ++ (maybe (text "a" ++ spaces) ++ (optionalRegression ++
    (plural "test" ++ (spaces ++ (targetPreposition ++ word))))))),
  boundary ++ (text "without" ++ (spaces ++ (optionalRegression ++ (text "coverage" ++ (spaces ++
    (targetPreposition ++ word)))))),
  boundary ++ (text "lacks" ++ (spaces ++ (.notAhead (.alt (plural "test" ++ boundary)
    (text "coverage" ++ boundary)) ++ (fewWords ++ (testsOrCoverage ++ boundary))))),
  boundary ++ (text "lacks" ++ (spaces ++ (optionalRegression ++ (plural "test" ++ (spaces ++
    (targetPreposition ++ word)))))),
  boundary ++ (text "lacks" ++ (spaces ++ (optionalRegression ++ (text "coverage" ++ (spaces ++
    (targetPreposition ++ word)))))),
  boundary ++ (testsOrCoverage ++ (spaces ++ (choice (text "does" ++ (spaces ++ text "not"))
    [text "doesn't", text "do" ++ (spaces ++ text "not"), text "don't"] ++ (spaces ++
      (text "cover" ++ (spaces ++ word)))))),
  boundary ++ (text "not" ++ (spaces ++ (text "covered" ++ (spaces ++
    (oneOf ["by", "for", "on", "in", "with", "when", "around"] ++ (spaces ++ word))))))]

/-- `_has_identifiable_missing_coverage_target`. -/
def hasIdentifiableMissingCoverageTarget (text : Text) : Bool :=
  missingCoverageTargets.any fun e => e.search text

/-- The words that introduce a scenario, apart from `for`. -/
def scenarioWords : List Text :=
  ["whenever", "when", "if", "after", "before", "with", "without", "on", "in", "to", "via", "from",
    "while", "where"]

/-- The phrases of a scenario that says nothing. -/
def vagueScenarios : List Text :=
  ["for this change", "when this changes", "this changes", "changed behavior"]

/-- `_has_only_vague_testing_scenario`. -/
def hasOnlyVagueTestingScenario (text : Text) : Bool :=
  let concreteText := vagueScenarios.foldl (fun t phrase => t.replaceAll phrase [' ']) text
  text.containsAny vagueScenarios && !(bounded (oneOf scenarioWords)).search concreteText

/-- `\b(changed line|new branch|introduced|now)\b`. -/
def introducedInText : Expr := bounded (oneOf ["changed line", "new branch", "introduced", "now"])

/-- `_has_concrete_testing_shape`. -/
def hasConcreteTestingShape (text : Text) : Bool :=
  (bounded (oneOf scenarioWords)).search text && introducedInText.search text &&
    (bounded (choice (plural "regression test")
      [Expr.text "regression coverage", Expr.text "coverage", plural "test"])).search text

/-- `_has_testing_finding_shape`. -/
def hasTestingFindingShape (publicText text : Text) : Bool :=
  hasIdentifiableMissingCoverageTarget publicText && hasConcreteTestingShape text &&
    !hasOnlyVagueTestingScenario text

/-! ## Other findings -/

/-- The expression of `_is_generic_speculative_advice`. -/
def speculativePattern : Expr :=
  choice (boundary ++ (oneOf ["could", "may", "might"] ++ (spaces ++
      oneOf ["cause", "fail", "break", "regress", "leak", "expose"])))
    [oneOf ["potential issue", "requires investigation", "should investigate"],
      text "still " ++ oneOf ["fail", "fails", "failing", "broken"],
      text "already " ++ oneOf ["fail", "fails", "failing", "broken", "present", "known"],
      text "was already " ++ oneOf ["fail", "failing", "broken", "present", "known"],
      text "was previously " ++ oneOf ["present", "known", "failing", "broken"],
      text "pre" ++ (maybe (one fun c => Unicode.isSpace c || c == '-') ++ text "existing")]

/-- `_is_generic_speculative_advice`. -/
def isGenericSpeculativeAdvice (text : Text) : Bool := speculativePattern.search text

/-- The behaviour that does harm. -/
def harmfulBehavior : Expr :=
  bounded (choice (text "regress")
    ([stem "overcharg",
      text "double" ++ (one (fun c => c == '-' || c == ' ') ++ stem "charg"),
      plural "duplicate email", plural "loop" ++ text " forever"] ++
    (["shift", "break", "corrupt", "delete", "drop", "expose", "fail", "hang", "ignore", "include",
      "leak", "log", "misroute", "omit", "persist", "raise", "reject", "return", "round", "send",
      "skip"] : List Text).map plural ++
    [plural "bypasse", text "cannot", text "stale", text "unauthorized",
      plural "write", text "open redirect", text "path traversal", text "unauthenticated access"]))

/-- Access that is too broad. -/
def harmfulBroadAccess : Expr :=
  bounded (choice (plural "allow") [plural "accept", plural "permit"]) ++
    (.pattern (Pattern.many 0 fun c => c != '\n') ++
      bounded (oneOf ["unauthenticated access", "unauthorized", "open redirect", "path traversal",
        "user-controlled", "private", "leak", "expos", "bypass", "admin", "token", "session",
        "email",
        "charge", "overcharg", "double charg"]))

/-- `_has_concrete_finding_shape`. -/
def hasConcreteFindingShape (text : Text) : Bool :=
  (bounded (oneOf ("for" :: scenarioWords))).search text && introducedInText.search text &&
    (harmfulBehavior.search text || harmfulBroadAccess.search text)

/-- The advice to restructure code. -/
def genericRefactorAdvice : List Text :=
  ["clean this up", "cleaner structure", "could be refactored", "easier maintenance",
    "easier to maintain", "easier to read", "cleaner code", "better organization",
    "better structure", "better modularity", "decoupling", "modularity", "testability",
    "improve maintainability", "abstractions", "future maintainer", "future maintainers",
    "improve readability", "refactor this", "simplify this code", "when this grows"]

/-- `_is_postable_finding`. -/
def isPostableFinding (finding : ClassifiedFinding) : Bool :=
  let publicText := finding.title ++ '\n' :: finding.body
  let text := (publicText ++ '\n' :: finding.evidence).casefold
  if finding.confidence = .low then false
  else if finding.confidence ≠ .high ∧ finding.severity = .critical then false
  else if finding.blocking = true ∧ finding.confidence ≠ .high then false
  else if hasConcreteFindingEvidence finding.evidence = false then false
  else if hasPublicCommentShape publicText = false then false
  else if isTestingAdvice finding text then hasTestingFindingShape publicText.casefold text
  else if isGenericSpeculativeAdvice text then false
  else if hasConcreteFindingShape text = false then false
  else !text.containsAny genericRefactorAdvice

end ReviewGraph
