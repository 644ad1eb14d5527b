import ReviewGraph.Foundation.Unicode

/-!
# Backtracking regular expressions and substitution

A pattern denotes, at each position of a text, the list of lengths it can match there, in the order
in which a backtracking matcher tries them; the first one is the match.  Only the constructs that
the modelled patterns use are present: repetition of a single character class, greedy or lazy,
sequence, alternative, and assertions about the two characters around a position.

A `Rule` replaces every match of a pattern by a token.  The match is the concatenation of a part
that is kept and a secret part, which is how a substitution by `group 1 + token` reads when the
group stands at the beginning of the pattern.
-/

namespace Regex

/-- A pattern without back references. -/
inductive Pattern
  /-- The empty match. -/
  | empty
  /-- Characters of a class, at least `min` and at most `max` of them. -/
  | chars (greedy : Bool) (min : ℕ) (max : Option ℕ) (p : Char → Bool)
  /-- The empty match between two characters of which the predicate holds. -/
  | assert (p : Option Char → Option Char → Bool)
  /-- One pattern after the other. -/
  | seq (a b : Pattern)
  /-- The first pattern, or else the second. -/
  | alt (a b : Pattern)

instance : Append Pattern := ⟨.seq⟩

namespace Pattern

/-! ## Building patterns -/

/-- One character of a class. -/
def one (p : Char → Bool) : Pattern := .chars true 1 (some 1) p

/-- At most one character of a class. -/
def opt (p : Char → Bool) : Pattern := .chars true 0 (some 1) p

/-- As many characters of a class as possible, at least `min`. -/
def many (min : ℕ) (p : Char → Bool) : Pattern := .chars true min none p

/-- As few characters of a class as possible. -/
def lazy (p : Char → Bool) : Pattern := .chars false 0 none p

/-- The given text, character by character up to `fold`. -/
def literalBy (fold : Char → Char) : Text → Pattern
  | [] => .empty
  | c :: t => one (fun d => fold d == c) ++ literalBy fold t

/-- The given text. -/
def literal (t : Text) : Pattern := literalBy id t

/-- The first of several alternatives that matches. -/
def choice (p : Pattern) : List Pattern → Pattern
  | [] => p
  | q :: ps => .alt p (choice q ps)

/-- The character that a case-insensitive pattern compares: the lowercase letter, also for the four
characters outside ASCII that are equivalent to an ASCII letter. -/
def ignoreCase (c : Char) : Char :=
  if 'A' ≤ c ∧ c ≤ 'Z' then Char.ofNat (c.toNat + 32)
  else if c.toNat = 0x130 ∨ c.toNat = 0x131 then 'i'
  else if c.toNat = 0x17f then 's'
  else if c.toNat = 0x212a then 'k'
  else c

/-- The given lowercase text, in any case. -/
def literalI (t : Text) : Pattern := literalBy ignoreCase t

/-- The beginning of a line. -/
def lineStart : Pattern := .assert fun before _ => before.all (· == '\n')

/-- The end of a line. -/
def lineEnd : Pattern := .assert fun _ after => after.all (· == '\n')

/-- A position between a word character and something else. -/
def wordBoundary : Pattern :=
  .assert fun before after => before.any Unicode.isWord != after.any Unicode.isWord

/-! ## Matching -/

/-- The character before the position `k` characters into `t`, when `before` precedes `t`. -/
def charBefore (before : Option Char) (t : Text) : ℕ → Option Char
  | 0 => before
  | k + 1 => t[k]?

/-- The lengths of the matches at the beginning of `t`, most preferred first; `before` is the
character in front of `t`. -/
def lengths : Pattern → Option Char → Text → List ℕ
  | .empty, _, _ => [0]
  | .chars greedy min max p, _, t =>
    let run := (t.takeWhile p).length
    let most := max.elim run (run ⊓ ·)
    let counts := List.range' min (most + 1 - min)
    if greedy then counts.reverse else counts
  | .assert p, before, t => if p before t.head? then [0] else []
  | .seq a b, before, t =>
    (a.lengths before t).flatMap fun k =>
      (b.lengths (charBefore before t k) (t.drop k)).map (k + ·)
  | .alt a b, before, t => a.lengths before t ++ b.lengths before t

end Pattern

/-! ## Substitution -/

/-- A substitution: what a match keeps, and the secret that the token replaces. -/
structure Rule where
  /-- The beginning of a match, which is kept. -/
  kept : Pattern
  /-- The rest of a match, which is replaced. -/
  secret : Pattern

namespace Rule

open Pattern

/-- The lengths of the kept part and of the whole match at the beginning of a text. -/
def match? (r : Rule) (before : Option Char) (t : Text) : Option (ℕ × ℕ) :=
  (r.kept.lengths before t).findSome? fun k =>
    (r.secret.lengths (charBefore before t k) (t.drop k)).head?.map fun n => (k, k + n)

/-- Replace the matches in a text from left to right and count them.  The first argument bounds the
number of positions; empty matches are not replaced. -/
def substitute (r : Rule) (token : Text) : ℕ → Option Char → Text → Text × ℕ
  | 0, _, t => (t, 0)
  | _ + 1, _, [] => ([], 0)
  | fuel + 1, before, c :: t =>
    match r.match? before (c :: t) with
    | some (k, n + 1) =>
      let (u, count) :=
        substitute r token fuel (charBefore before (c :: t) (n + 1)) ((c :: t).drop (n + 1))
      ((c :: t).take k ++ token ++ u, count + 1)
    | _ =>
      let (u, count) := substitute r token fuel (some c) t
      (c :: u, count)

/-- Replace the matches in a whole text and count them. -/
def subn (r : Rule) (token t : Text) : Text × ℕ := r.substitute token t.length none t

/-- The rule has no match at any position of the text. -/
def Matchless (r : Rule) : Option Char → Text → Prop
  | _, [] => True
  | before, c :: t => (∀ k n, r.match? before (c :: t) ≠ some (k, n + 1)) ∧ r.Matchless (some c) t

/-- A text without match is returned unchanged. -/
lemma substitute_of_matchless {r : Rule} {token : Text} {fuel : ℕ} {before : Option Char} {t : Text}
    (h : r.Matchless before t) : r.substitute token fuel before t = (t, 0) := by
  induction fuel generalizing before t with
  | zero => rfl
  | succ fuel ih =>
    cases t with
    | nil => rfl
    | cons c t =>
      obtain ⟨hc, ht⟩ := h
      unfold substitute
      split
      · rename_i k n hm
        exact absurd hm (hc k n)
      · rw [ih ht]

end Rule

end Regex
