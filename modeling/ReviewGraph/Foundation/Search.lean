import ReviewGraph.Foundation.Regex

/-!
# Searching with regular expressions

Regular expressions with repeated groups and negative lookahead, for searches that only ask whether
there is a match.  `Expr.ends` lists the lengths that an expression can match at a position, and
`search` looks for a match at every position of a text.
-/

namespace Regex

/-- An expression of patterns. -/
inductive Expr
  /-- A pattern. -/
  | pattern (p : Pattern)
  /-- One expression after the other. -/
  | seq (a b : Expr)
  /-- The first expression, or else the second. -/
  | alt (a b : Expr)
  /-- The expression at least `min` and at most `max` times. -/
  | group (min : ℕ) (max : Option ℕ) (a : Expr)
  /-- The empty match in front of a text that the expression does not match. -/
  | notAhead (a : Expr)

instance : Append Expr := ⟨.seq⟩

namespace Expr

/-! ## Building expressions -/

/-- The given text. -/
def text (t : Text) : Expr := .pattern (.literal t)

/-- One of the given texts. -/
def oneOf : List Text → Expr
  | [] => .notAhead (.pattern .empty)
  | [t] => text t
  | t :: ts => .alt (text t) (oneOf ts)

/-- One of several expressions. -/
def choice (a : Expr) : List Expr → Expr
  | [] => a
  | b :: bs => .alt a (choice b bs)

/-- The expression or nothing. -/
def maybe (a : Expr) : Expr := .group 0 (some 1) a

/-- A position between a word character and something else. -/
def boundary : Expr := .pattern Pattern.wordBoundary

/-- White space. -/
def spaces : Expr := .pattern (Pattern.many 1 Unicode.isSpace)

/-- White space or nothing. -/
def optionalSpaces : Expr := .pattern (Pattern.many 0 Unicode.isSpace)

/-- Word characters. -/
def word : Expr := .pattern (Pattern.many 1 Unicode.isWord)

/-- Word characters or nothing. -/
def optionalWord : Expr := .pattern (Pattern.many 0 Unicode.isWord)

/-- Decimal digits. -/
def decimals : Expr := .pattern (Pattern.many 1 Unicode.isDecimal)

/-- One character of a class. -/
def one (p : Char → Bool) : Expr := .pattern (Pattern.one p)

/-! ## Matching -/

/-- The lengths that `k` further repetitions can reach from the given ones, where at least `min`
repetitions must follow. -/
def repeated (step : ℕ → List ℕ) : ℕ → ℕ → List ℕ → List ℕ
  | 0, min, reached => if min = 0 then reached else []
  | k + 1, min, reached =>
    (if min = 0 then reached else []) ++
      repeated step k (min - 1) ((reached.flatMap step).dedup)

/-- The lengths of the matches at the beginning of `t`; `before` is the character in front of it. -/
def ends : Expr → Option Char → Text → List ℕ
  | .pattern p, before, t => p.lengths before t
  | .seq a b, before, t =>
    (a.ends before t).flatMap fun k =>
      (b.ends (Pattern.charBefore before t k) (t.drop k)).map (k + ·)
  | .alt a b, before, t => a.ends before t ++ b.ends before t
  | .group min max a, before, t =>
    repeated (fun k => (a.ends (Pattern.charBefore before t k) (t.drop k)).map (k + ·))
      (max.getD (min + t.length)) min [0]
  | .notAhead a, before, t => if a.ends before t = [] then [0] else []

/-- The lengths of the match at each position, with the position. -/
def matchesAt (e : Expr) (t : Text) (k : ℕ) : List ℕ :=
  e.ends (Pattern.charBefore none t k) (t.drop k)

/-- `re.search`: there is a match at some position. -/
def search (e : Expr) (t : Text) : Bool :=
  (List.range (t.length + 1)).any fun k => e.matchesAt t k ≠ []

/-- `re.fullmatch`: a match covers the whole text. -/
def fullMatch (e : Expr) (t : Text) : Bool := decide (t.length ∈ e.ends none t)

end Expr

end Regex
