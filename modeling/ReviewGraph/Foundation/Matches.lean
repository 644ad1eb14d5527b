import ReviewGraph.Foundation.Regex

/-!
# Matches and substitutions

`Matches` says which texts a pattern matches between its neighbours, and `Prefers` which match is
tried first; the lengths that a pattern lists are those of its matches.  `Rule.Edits` relates a text
and the result of a substitution: skipped text without a match, and regions that keep one part and
replace the other.  Where the classes of a pattern share a property, so do the characters of its
matches.
-/

namespace Regex

namespace Pattern

/-! ## What a pattern matches -/

/-- The last character of a text, or the one in front of an empty text. -/
def lastOr (before : Option Char) (t : Text) : Option Char := t.getLast?.or before

/-- In front of an empty text. -/
@[simp] lemma lastOr_nil (before : Option Char) : lastOr before [] = before := rfl

/-- In front of two texts one behind the other. -/
lemma lastOr_append (before : Option Char) (s t : Text) :
    lastOr (lastOr before s) t = lastOr before (s ++ t) := by
  unfold lastOr
  rw [List.getLast?_append, Option.or_assoc]

/-- The pattern matches the text between the character `before` and the text `rest`. -/
def Matches : Pattern → Option Char → Text → Text → Prop
  | .empty, _, m, _ => m = []
  | .chars _ min max p, _, m, _ => (∀ c ∈ m, p c = true) ∧ min ≤ m.length ∧ ∀ k ∈ max, m.length ≤ k
  | .assert p, before, m, rest => m = [] ∧ p before rest.head? = true
  | .seq a b, before, m, rest => ∃ m₁ m₂, m = m₁ ++ m₂ ∧ a.Matches before m₁ (m₂ ++ rest) ∧
      b.Matches (lastOr before m₁) m₂ rest
  | .alt a b, before, m, rest => a.Matches before m rest ∨ b.Matches before m rest

/-- A sequence matches two parts one behind the other. -/
lemma matches_append {a b : Pattern} {before : Option Char} {m rest : Text} :
    (a ++ b).Matches before m rest ↔ ∃ m₁ m₂, m = m₁ ++ m₂ ∧ a.Matches before m₁ (m₂ ++ rest) ∧
      b.Matches (lastOr before m₁) m₂ rest := Iff.rfl

/-- The character before a position behind a text. -/
lemma charBefore_append (before : Option Char) (s t : Text) :
    charBefore before (s ++ t) s.length = lastOr before s := by
  induction s using List.reverseRecOn with
  | nil => rfl
  | append_singleton s c _ =>
    unfold lastOr
    simp [charBefore]

/-- A run is part of the text. -/
lemma length_takeWhile_le {p : Char → Bool} (t : Text) : (t.takeWhile p).length ≤ t.length :=
  (List.takeWhile_prefix p).length_le

/-- Some characters at the beginning all have the property exactly if the run is as long. -/
lemma length_le_takeWhile {p : Char → Bool} {m : Text} (rest : Text) :
    m.length ≤ ((m ++ rest).takeWhile p).length ↔ ∀ c ∈ m, p c = true := by
  induction m with
  | nil => simp
  | cons c m ih =>
    rw [List.cons_append, List.takeWhile_cons]
    split
    · rename_i hc
      rw [List.length_cons, List.length_cons, Nat.add_le_add_iff_right, ih]
      simp [hc]
    · rename_i hc
      simp [hc]

/-- No match is longer than the text. -/
lemma le_length_of_mem_lengths {p : Pattern} {before : Option Char} {t : Text} {n : ℕ}
    (h : n ∈ p.lengths before t) : n ≤ t.length := by
  induction p generalizing before t n with
  | empty => simp_all [lengths]
  | chars greedy min max p =>
    have hrun : (t.takeWhile p).length ≤ t.length := length_takeWhile_le t
    have hmem : n ∈ List.range' min (max.elim (t.takeWhile p).length ((t.takeWhile p).length ⊓ ·) +
        1 - min) := by
      unfold lengths at h
      dsimp only at h
      split at h
      · exact List.mem_reverse.1 h
      · exact h
    rw [List.mem_range'_1] at hmem
    cases max with
    | none =>
      rw [Option.elim_none] at hmem
      omega
    | some k =>
      rw [Option.elim_some] at hmem
      omega
  | assert p =>
    unfold lengths at h
    split at h <;> simp_all
  | seq a b iha ihb =>
    unfold lengths at h
    obtain ⟨k, hk, h⟩ := List.mem_flatMap.1 h
    obtain ⟨l, hl, rfl⟩ := List.mem_map.1 h
    have hk := iha hk
    have hl := ihb hl
    rw [List.length_drop] at hl
    omega
  | alt a b iha ihb =>
    unfold lengths at h
    rcases List.mem_append.1 h with h | h
    · exact iha h
    · exact ihb h

/-- The lengths are those of the texts that the pattern matches. -/
theorem length_mem_lengths {p : Pattern} {before : Option Char} {m rest : Text} :
    m.length ∈ p.lengths before (m ++ rest) ↔ p.Matches before m rest := by
  induction p generalizing before m rest with
  | empty => simp [lengths, Matches]
  | chars greedy min max p =>
    have hmem : m.length ∈ (Pattern.chars greedy min max p).lengths before (m ++ rest) ↔
        m.length ∈ List.range' min (max.elim ((m ++ rest).takeWhile p).length
          (((m ++ rest).takeWhile p).length ⊓ ·) + 1 - min) := by
      unfold lengths
      dsimp only
      split
      · exact List.mem_reverse
      · rfl
    rw [hmem, List.mem_range'_1]
    unfold Matches
    rw [← length_le_takeWhile rest]
    cases max with
    | none =>
      rw [Option.elim_none]
      simp
      omega
    | some k =>
      rw [Option.elim_some]
      simp
      omega
  | assert p =>
    unfold lengths Matches
    constructor
    · intro h
      split at h
      · rename_i hp
        have hm : m = [] := List.length_eq_zero_iff.1 (List.mem_singleton.1 h)
        subst hm
        exact ⟨rfl, hp⟩
      · cases h
    · rintro ⟨rfl, hp⟩
      rw [List.nil_append, if_pos hp]
      exact List.mem_singleton_self _
  | seq a b iha ihb =>
    unfold lengths Matches
    rw [List.mem_flatMap]
    constructor
    · rintro ⟨k, hk, h⟩
      obtain ⟨l, hl, hsum⟩ := List.mem_map.1 h
      have hle : k ≤ m.length := by omega
      have hsplit : m.take k ++ m.drop k = m := List.take_append_drop k m
      have hlen : (m.take k).length = k := List.length_take_of_le hle
      have htext : m ++ rest = m.take k ++ (m.drop k ++ rest) := by
        rw [← List.append_assoc, hsplit]
      rw [htext] at hk hl
      refine ⟨m.take k, m.drop k, hsplit.symm, ?_, ?_⟩
      · rw [← iha, hlen]
        exact hk
      · rw [← ihb, ← charBefore_append before (m.take k) (m.drop k ++ rest), hlen]
        have hdrop : (m.take k ++ (m.drop k ++ rest)).drop k = m.drop k ++ rest := by
          rw [List.drop_append_of_le_length (by omega), List.drop_of_length_le (by omega),
            List.nil_append]
        rw [hdrop] at hl
        have hlength : (m.drop k).length = l := by
          rw [List.length_drop]
          omega
        rw [hlength]
        exact hl
    · rintro ⟨m₁, m₂, rfl, h₁, h₂⟩
      refine ⟨m₁.length, ?_, List.mem_map.2 ⟨m₂.length, ?_, by rw [List.length_append]⟩⟩
      · rw [List.append_assoc]
        exact iha.2 h₁
      · rw [List.append_assoc, charBefore_append, List.drop_left]
        exact ihb.2 h₂
  | alt a b iha ihb =>
    unfold lengths Matches
    rw [List.mem_append, iha, ihb]

/-- A length of a match splits the text. -/
lemma exists_of_mem_lengths {p : Pattern} {before : Option Char} {t : Text} {n : ℕ}
    (h : n ∈ p.lengths before t) :
    ∃ m rest, t = m ++ rest ∧ m.length = n ∧ p.Matches before m rest := by
  have hle := le_length_of_mem_lengths h
  have hlen : (t.take n).length = n := List.length_take_of_le hle
  refine ⟨t.take n, t.drop n, (List.take_append_drop n t).symm, hlen, ?_⟩
  rw [← length_mem_lengths, hlen, List.take_append_drop]
  exact h

/-! ## The match that is preferred -/

/-- The preferred match of a sequence ends with a preferred match of the second pattern. -/
lemma head?_lengths_append {a b : Pattern} {before : Option Char} {t : Text} {n : ℕ}
    (h : ((a ++ b).lengths before t).head? = some n) :
    ∃ m rest l, t = m ++ rest ∧ a.Matches before m rest ∧
      (b.lengths (lastOr before m) rest).head? = some l ∧ n = m.length + l := by
  have hflat : ((a.lengths before t).flatMap fun k =>
      (b.lengths (charBefore before t k) (t.drop k)).map (k + ·)).head? = some n := h
  rw [List.head?_flatMap] at hflat
  obtain ⟨k, hk, hhead⟩ := List.exists_of_findSome?_eq_some hflat
  obtain ⟨m, rest, rfl, rfl, hm⟩ := exists_of_mem_lengths hk
  rw [charBefore_append, List.drop_left, List.head?_map, Option.map_eq_some_iff] at hhead
  obtain ⟨l, hl, rfl⟩ := hhead
  exact ⟨m, rest, l, rfl, hm, hl, rfl⟩

/-- A greedy run without upper bound is as long as possible. -/
lemma head?_lengths_many {min : ℕ} {p : Char → Bool} {before : Option Char} {t : Text} {n : ℕ}
    (h : ((many min p).lengths before t).head? = some n) :
    n = (t.takeWhile p).length ∧ min ≤ n := by
  have hrange : (List.range' min ((t.takeWhile p).length + 1 - min)).reverse.head? = some n := h
  rw [List.head?_reverse, List.getLast?_range'] at hrange
  split at hrange
  · contradiction
  · have hn := Option.some.inj hrange
    omega

end Pattern

/-! ## Properties of the classes and assertions of a pattern -/

namespace Pattern

/-- All character classes and all assertions of a pattern have the given properties. -/
def All (P : (Char → Bool) → Prop) (Q : (Option Char → Option Char → Bool) → Prop) : Pattern → Prop
  | .empty => True
  | .chars _ _ _ p => P p
  | .assert q => Q q
  | .seq a b => a.All P Q ∧ b.All P Q
  | .alt a b => a.All P Q ∧ b.All P Q

section All

variable {P : (Char → Bool) → Prop} {Q : (Option Char → Option Char → Bool) → Prop}

/-- The empty pattern has no class. -/
@[simp] lemma all_empty : Pattern.empty.All P Q := trivial

/-- A sequence has the classes of both patterns. -/
@[simp] lemma all_append {a b : Pattern} : (a ++ b).All P Q ↔ a.All P Q ∧ b.All P Q := Iff.rfl

/-- An alternative has the classes of both patterns. -/
@[simp] lemma all_alt {a b : Pattern} : (Pattern.alt a b).All P Q ↔ a.All P Q ∧ b.All P Q := Iff.rfl

/-- A character has one class. -/
@[simp] lemma all_one {p : Char → Bool} : (one p).All P Q ↔ P p := Iff.rfl

/-- So has an optional character. -/
@[simp] lemma all_opt {p : Char → Bool} : (opt p).All P Q ↔ P p := Iff.rfl

/-- So has a repetition. -/
@[simp] lemma all_many {min : ℕ} {p : Char → Bool} : (many min p).All P Q ↔ P p := Iff.rfl

/-- An assertion has one condition. -/
@[simp] lemma all_assert {q : Option Char → Option Char → Bool} : (Pattern.assert q).All P Q ↔
  Q q :=
  Iff.rfl

/-- A literal has the classes of its characters. -/
lemma all_literalBy {fold : Char → Char} {t : Text} (h : ∀ c ∈ t, P fun d => fold d == c) :
    (literalBy fold t).All P Q := by
  induction t with
  | nil => trivial
  | cons c t ih =>
    exact ⟨h c List.mem_cons_self, ih fun d hd => h d (List.mem_cons_of_mem _ hd)⟩

/-- The characters of a match belong to the classes of the pattern. -/
lemma Matches.exists_class {p : Pattern} {before : Option Char} {m rest : Text}
    (h : p.Matches before m rest) (hall : p.All P Q) : ∀ c ∈ m, ∃ q, P q ∧ q c = true := by
  induction p generalizing before m rest with
  | empty =>
    obtain rfl : m = [] := h
    intro c hc
    cases hc
  | chars greedy min max p =>
    intro c hc
    exact ⟨p, hall, h.1 c hc⟩
  | assert q =>
    obtain rfl : m = [] := h.1
    intro c hc
    cases hc
  | seq a b iha ihb =>
    obtain ⟨m₁, m₂, rfl, h₁, h₂⟩ := h
    intro c hc
    rcases List.mem_append.1 hc with hc | hc
    · exact iha h₁ hall.1 c hc
    · exact ihb h₂ hall.2 c hc
  | alt a b iha ihb =>
    rcases h with h | h
    · exact iha h hall.1
    · exact ihb h hall.2

/-- A match depends on its surroundings only through the assertions. -/
lemma Matches.transfer {p : Pattern} {before before' : Option Char} {m rest rest' : Text}
    (h : p.Matches before m rest) (hall : p.All P Q)
    (hassert : ∀ q, Q q → ∀ x y, m = x ++ y → q (lastOr before x) (y ++ rest).head? = true →
      q (lastOr before' x) (y ++ rest').head? = true) : p.Matches before' m rest' := by
  induction p generalizing before before' m rest rest' with
  | empty => exact h
  | chars greedy min max p => exact h
  | assert q =>
    obtain ⟨rfl, hq⟩ := h
    exact ⟨rfl, hassert q hall [] [] rfl hq⟩
  | seq a b iha ihb =>
    obtain ⟨m₁, m₂, rfl, h₁, h₂⟩ := h
    refine ⟨m₁, m₂, rfl, iha h₁ hall.1 ?_, ihb h₂ hall.2 ?_⟩
    · intro q hq x y hsplit hx
      rw [← List.append_assoc] at hx ⊢
      exact hassert q hq x (y ++ m₂) (by rw [hsplit, List.append_assoc]) hx
    · intro q hq x y hsplit hx
      rw [lastOr_append] at hx ⊢
      exact hassert q hq (m₁ ++ x) y (by rw [hsplit, List.append_assoc]) hx
  | alt a b iha ihb =>
    rcases h with h | h
    · exact .inl (iha h hall.1 hassert)
    · exact .inr (ihb h hall.2 hassert)

end All

end Pattern

/-! ## Regions of a substitution -/

namespace Rule

open Pattern

/-- The whole pattern of a rule. -/
def pattern (r : Rule) : Pattern := r.kept ++ r.secret

/-- The rule has a match at the beginning of a text. -/
def HasMatch (r : Rule) (before : Option Char) (t : Text) : Prop :=
  ∃ m rest, t = m ++ rest ∧ r.pattern.Matches before m rest

/-- A match is found exactly if there is one. -/
lemma match?_isSome_iff {r : Rule} {before : Option Char} {t : Text} :
    (r.match? before t).isSome ↔ r.HasMatch before t := by
  unfold match? HasMatch pattern
  rw [List.findSome?_isSome_iff]
  constructor
  · rintro ⟨k, hk, h⟩
    obtain ⟨m₁, rest, rfl, rfl, h₁⟩ := exists_of_mem_lengths hk
    rw [charBefore_append, List.drop_left, Option.isSome_map] at h
    obtain ⟨l, hl⟩ := Option.isSome_iff_exists.1 h
    obtain ⟨m₂, rest', rfl, rfl, h₂⟩ := exists_of_mem_lengths (List.mem_of_head? hl)
    exact ⟨m₁ ++ m₂, rest', by rw [List.append_assoc], m₁, m₂, rfl, h₁, h₂⟩
  · rintro ⟨m, rest, rfl, m₁, m₂, rfl, h₁, h₂⟩
    refine ⟨m₁.length, ?_, ?_⟩
    · rw [List.append_assoc]
      exact length_mem_lengths.2 h₁
    · rw [List.append_assoc, charBefore_append, List.drop_left, Option.isSome_map,
        List.isSome_head?]
      exact List.ne_nil_of_mem (length_mem_lengths.2 h₂)

/-- Where no position has a match nothing is replaced. -/
lemma matchless_of_not_hasMatch {r : Rule} {before : Option Char} {t : Text}
    (h : ∀ x y, t = x ++ y → ¬ r.HasMatch (lastOr before x) y) : r.Matchless before t := by
  induction t generalizing before with
  | nil => trivial
  | cons c t ih =>
    refine ⟨fun k n hmatch => ?_, ih fun x y hsplit => ?_⟩
    · refine h [] (c :: t) rfl (match?_isSome_iff.1 ?_)
      rw [lastOr_nil, hmatch]
      rfl
    · rw [show lastOr (some c) x = lastOr before (c :: x) from lastOr_append before [c] x]
      exact h (c :: x) y (by rw [hsplit, List.cons_append])

/-- The match that is replaced: what is kept, and a preferred match of the secret. -/
structure Replaces (r : Rule) (before : Option Char) (kept secret rest : Text) : Prop where
  /-- The kept part is matched. -/
  keeps : r.kept.Matches before kept (secret ++ rest)
  /-- The secret is the preferred match. -/
  prefers : (r.secret.lengths (lastOr before kept) (secret ++ rest)).head? = some secret.length
  /-- The kept part is the preferred one, if that can be followed by a secret. -/
  first : ∀ k tail, kept ++ (secret ++ rest) = k ++ tail →
    (r.kept.lengths before (k ++ tail)).head? = some k.length →
      r.secret.lengths (lastOr before k) tail ≠ [] → k = kept

/-- What is replaced matches the secret part. -/
lemma Replaces.secret_matches {r : Rule} {before : Option Char} {kept secret rest : Text}
    (h : r.Replaces before kept secret rest) :
    r.secret.Matches (lastOr before kept) secret rest :=
  length_mem_lengths.1 (List.mem_of_head? h.prefers)

/-- A match that is found splits the text. -/
lemma exists_of_match? {r : Rule} {before : Option Char} {t : Text} {k n : ℕ}
    (h : r.match? before t = some (k, n)) :
    ∃ kept secret rest, t = kept ++ (secret ++ rest) ∧ kept.length = k ∧
      kept.length + secret.length = n ∧ r.Replaces before kept secret rest := by
  have hfind := h
  obtain ⟨k', hk', h⟩ := List.exists_of_findSome?_eq_some h
  obtain ⟨m₁, rest, rfl, rfl, h₁⟩ := exists_of_mem_lengths hk'
  rw [charBefore_append, List.drop_left, Option.map_eq_some_iff] at h
  obtain ⟨l, hl, hpair⟩ := h
  obtain ⟨rfl, rfl⟩ := Prod.mk.inj hpair
  obtain ⟨m₂, rest', rfl, rfl, -⟩ := exists_of_mem_lengths (List.mem_of_head? hl)
  refine ⟨m₁, m₂, rest', rfl, rfl, rfl, h₁, hl, ?_⟩
  intro k tail hsplit hhead hne
  rw [hsplit] at hfind
  obtain ⟨ks, hks⟩ := List.head?_eq_some_iff.1 hhead
  unfold match? at hfind
  rw [hks, List.findSome?_cons, charBefore_append, List.drop_left] at hfind
  obtain ⟨l, ls, hlengths⟩ := List.exists_cons_of_ne_nil hne
  rw [hlengths, List.head?_cons, Option.map_some] at hfind
  have hlength : k.length = m₁.length := (Prod.mk.inj (Option.some.inj hfind)).1
  exact ((List.append_inj hsplit hlength.symm).1).symm

/-- The regions that a rule replaces, from left to right; `done` is the text in front. -/
inductive Edits (r : Rule) (token : Text) : Text → Text → Text → Prop
  /-- There is no further match. -/
  | last {done t : Text} (h : ∀ x y, t = x ++ y → y ≠ [] →
    ¬ r.HasMatch (lastOr none (done ++ x)) y) :
      Edits r token done t t
  /-- The next match, behind a text without. -/
  | region {done skipped kept secret rest u : Text}
      (hskipped : ∀ x y, skipped = x ++ y → y ≠ [] →
        ¬ r.HasMatch (lastOr none (done ++ x)) (y ++ (kept ++ (secret ++ rest))))
      (hreplaces : r.Replaces (lastOr none (done ++ skipped)) kept secret rest)
      (hrest : Edits r token (done ++ (skipped ++ (kept ++ secret))) rest u) :
      Edits r token done (skipped ++ (kept ++ (secret ++ rest))) (skipped ++ (kept ++ (token ++ u)))

/-- No character is matched in front of the edits. -/
lemma Edits.cons {r : Rule} {token done : Text} {c : Char} {t u : Text}
    (hc : ¬ r.HasMatch (lastOr none done) (c :: t)) (h : Edits r token (done ++ [c]) t u) :
    Edits r token done (c :: t) (c :: u) := by
  generalize hdone : done ++ [c] = done' at h
  cases h with
  | last h =>
    refine .last fun x y hsplit hy => ?_
    rcases x with _ | ⟨d, x⟩
    · rw [List.append_nil]
      rw [List.nil_append] at hsplit
      rw [← hsplit]
      exact hc
    · obtain ⟨rfl, rfl⟩ := List.cons.inj hsplit
      have hnone := h x y rfl hy
      rw [← hdone, List.append_assoc] at hnone
      exact hnone
  | @region _ skipped kept secret rest u hskipped hreplaces hrest =>
    subst hdone
    have hregion := @Edits.region r token done (c :: skipped) kept secret rest u ?_ ?_ ?_
    · exact hregion
    · intro x y hsplit hy
      rcases x with _ | ⟨d, x⟩
      · rw [List.append_nil]
        rw [List.nil_append] at hsplit
        rw [← hsplit]
        exact hc
      · obtain ⟨rfl, rfl⟩ := List.cons.inj hsplit
        have hnone := hskipped x y rfl hy
        rw [List.append_assoc] at hnone
        exact hnone
    · rw [List.append_assoc] at hreplaces
      exact hreplaces
    · rw [List.append_assoc] at hrest
      exact hrest

/-- A rule whose matches are never empty edits a text. -/
lemma substitute_edits {r : Rule} (hne : ∀ before rest, ¬ r.pattern.Matches before [] rest)
    (token : Text) {fuel : ℕ} {done t : Text} (hfuel : t.length ≤ fuel) :
    Edits r token done t (r.substitute token fuel (lastOr none done) t).1 := by
  induction fuel generalizing done t with
  | zero =>
    obtain rfl : t = [] := List.length_eq_zero_iff.1 (Nat.le_zero.1 hfuel)
    refine .last fun x y hsplit hy => ?_
    exact absurd (List.append_eq_nil_iff.1 hsplit.symm).2 hy
  | succ fuel ih =>
    rcases t with _ | ⟨c, t⟩
    · refine .last fun x y hsplit hy => ?_
      exact absurd (List.append_eq_nil_iff.1 hsplit.symm).2 hy
    · have hlen : t.length ≤ fuel := by simpa using hfuel
      unfold substitute
      split
      · rename_i k n hmatch
        obtain ⟨kept, secret, rest, ht, rfl, hsum, hreplaces⟩ := exists_of_match? hmatch
        have hpart : (kept ++ secret).length = n + 1 := by rw [List.length_append, hsum]
        have htext : c :: t = (kept ++ secret) ++ rest := by rw [ht, List.append_assoc]
        have hrest : rest.length ≤ fuel := by
          have hlength := congrArg List.length htext
          rw [List.length_cons, List.length_append, hpart] at hlength
          omega
        have hbefore : charBefore (lastOr none done) (c :: t) (n + 1) =
            lastOr none (done ++ (kept ++ secret)) := by
          rw [htext, ← hpart, charBefore_append, lastOr_append]
        have hdrop : (c :: t).drop (n + 1) = rest := by rw [htext, ← hpart, List.drop_left]
        have htake : (c :: t).take kept.length = kept := by rw [ht, List.take_left]
        have hih : Edits r token (done ++ (kept ++ secret)) rest
            (r.substitute token fuel (lastOr none (done ++ (kept ++ secret))) rest).1 := ih hrest
        rw [hbefore, hdrop, htake]
        dsimp only
        rw [List.append_assoc]
        have hregion := @Edits.region r token done [] kept secret rest _ ?_ ?_ hih
        · rw [ht]
          exact hregion
        · intro x y hsplit hy
          exact absurd (List.append_eq_nil_iff.1 hsplit.symm).2 hy
        · rw [List.append_nil]
          exact hreplaces
      · rename_i hmatch
        have hnone : ¬ r.HasMatch (lastOr none done) (c :: t) := by
          rw [← match?_isSome_iff, Option.isSome_iff_exists]
          rintro ⟨⟨k, n⟩, hsome⟩
          rcases n with _ | n
          · obtain ⟨kept, secret, rest, -, -, hsum, hreplaces⟩ := exists_of_match? hsome
            obtain ⟨hk, hs⟩ : kept = [] ∧ secret = [] := by
              constructor <;> (apply List.length_eq_zero_iff.1; omega)
            subst hk hs
            exact hne _ rest ⟨[], [], rfl, hreplaces.keeps, hreplaces.secret_matches⟩
          · exact hmatch k n hsome
        have hih : Edits r token (done ++ [c]) t
            (r.substitute token fuel (lastOr none (done ++ [c])) t).1 := ih hlen
        have hbefore : lastOr none (done ++ [c]) = some c := by simp [lastOr]
        rw [hbefore] at hih
        exact Edits.cons hnone hih

/-- A rule whose matches are never empty edits a whole text. -/
theorem subn_edits {r : Rule} (hne : ∀ before rest, ¬ r.pattern.Matches before [] rest)
    (token t : Text) : Edits r token [] t (r.subn token t).1 :=
  substitute_edits hne token le_rfl

end Rule

end Regex

namespace Regex.Pattern

/-! ## Preferred matches -/

/-- The preferred match of a pattern. -/
def Prefers (p : Pattern) (before : Option Char) (s rest : Text) : Prop :=
  (p.lengths before (s ++ rest)).head? = some s.length

/-- A preferred match is a match. -/
lemma Prefers.matches {p : Pattern} {before : Option Char} {s rest : Text}
    (h : p.Prefers before s rest) : p.Matches before s rest :=
  length_mem_lengths.1 (List.mem_of_head? h)

/-- The preferred match of a sequence ends with a preferred match of its second part. -/
lemma Prefers.append {a b : Pattern} {before : Option Char} {s rest : Text}
    (h : (a ++ b).Prefers before s rest) : ∃ s₁ s₂, s = s₁ ++ s₂ ∧
      a.Matches before s₁ (s₂ ++ rest) ∧
      b.Prefers (lastOr before s₁) s₂ rest := by
  obtain ⟨m, tail, l, hsplit, hm, hl, hlength⟩ := head?_lengths_append h
  obtain ⟨s₂, rfl, rfl⟩ : ∃ s₂, s = m ++ s₂ ∧ tail = s₂ ++ rest := by
    rcases List.append_eq_append_iff.1 hsplit with ⟨z, hz, hrest⟩ | ⟨z, hz, hrest⟩
    · rw [hz, List.length_append] at hlength
      have hle := le_length_of_mem_lengths (List.mem_of_head? hl)
      have hnil : z = [] := List.length_eq_zero_iff.1 (by omega)
      subst hnil
      exact ⟨[], by simpa using hz.symm, by simpa using hrest.symm⟩
    · exact ⟨z, hz, hrest⟩
  have hl' : l = s₂.length := by
    rw [List.length_append] at hlength
    omega
  subst hl'
  exact ⟨m, s₂, rfl, hm, hl⟩

/-- If the second part always matches, the first part is preferred too. -/
lemma Prefers.append_of_total {a b : Pattern} (hb : ∀ before t, b.lengths before t ≠ [])
    {before : Option Char} {s rest : Text} (h : (a ++ b).Prefers before s rest) :
    ∃ s₁ s₂, s = s₁ ++ s₂ ∧ a.Prefers before s₁ (s₂ ++ rest) ∧
      b.Prefers (lastOr before s₁) s₂ rest := by
  have hflat : ((a.lengths before (s ++ rest)).flatMap fun k =>
      (b.lengths (charBefore before (s ++ rest) k) ((s ++ rest).drop k)).map (k + ·)).head? =
        some s.length := h
  cases hlengths : a.lengths before (s ++ rest) with
  | nil =>
    rw [hlengths] at hflat
    contradiction
  | cons k ks =>
    have hmem : k ∈ a.lengths before (s ++ rest) := by
      rw [hlengths]
      exact List.mem_cons_self
    obtain ⟨m, tail, hsplit, rfl, -⟩ := exists_of_mem_lengths hmem
    have hhead : (a.lengths before (s ++ rest)).head? = some m.length := by
      rw [hlengths]
      rfl
    rw [hlengths, List.flatMap_cons, hsplit, charBefore_append, List.drop_left,
      List.head?_append_of_ne_nil _ (by simpa using hb _ _), List.head?_map,
      Option.map_eq_some_iff] at hflat
    obtain ⟨l, hl, hlength⟩ := hflat
    obtain ⟨s₂, rfl, rfl⟩ : ∃ s₂, s = m ++ s₂ ∧ tail = s₂ ++ rest := by
      rcases List.append_eq_append_iff.1 hsplit with ⟨z, hz, hrest⟩ | ⟨z, hz, hrest⟩
      · have hnil : z = [] :=
          List.length_eq_zero_iff.1 (by rw [hz, List.length_append] at hlength; omega)
        subst hnil
        exact ⟨[], by simpa using hz.symm, by simpa using hrest.symm⟩
      · exact ⟨z, hz, hrest⟩
    have hl' : l = s₂.length := by
      rw [List.length_append] at hlength
      omega
    subst hl'
    refine ⟨m, s₂, rfl, ?_, hl⟩
    unfold Prefers
    rw [← List.append_assoc]
    exact hhead

/-- A run is preferred as long as possible. -/
lemma Prefers.many {min : ℕ} {p : Char → Bool} {before : Option Char} {s rest : Text}
    (h : (Pattern.many min p).Prefers before s rest) :
    (∀ c ∈ s, p c = true) ∧ min ≤ s.length ∧ ∀ d ∈ rest.head?, p d = false := by
  obtain ⟨hall, hmin, -⟩ := h.matches
  obtain ⟨hlength, -⟩ := head?_lengths_many h
  refine ⟨hall, hmin, ?_⟩
  intro d hd
  rcases rest with _ | ⟨e, rest⟩
  · cases hd
  · obtain rfl : e = d := by simpa using hd
    by_contra hpe
    rw [Bool.not_eq_false] at hpe
    have hlonger : (s ++ [e]).length ≤ (((s ++ [e]) ++ rest).takeWhile p).length := by
      rw [length_le_takeWhile]
      intro c hc
      rcases List.mem_append.1 hc with hc | hc
      · exact hall c hc
      · rw [List.mem_singleton.1 hc]
        exact hpe
    rw [List.append_assoc, List.singleton_append, ← hlength, List.length_append,
      List.length_singleton] at hlonger
    omega

/-- An optional character matches everywhere. -/
lemma lengths_opt_ne_nil {p : Char → Bool} (before : Option Char) (t : Text) :
    (opt p).lengths before t ≠ [] := by
  have hmem : ([] : Text).length ∈ (opt p).lengths before ([] ++ t) := by
    rw [length_mem_lengths]
    exact ⟨fun c hc => absurd hc List.not_mem_nil, Nat.zero_le _, fun k _ => Nat.zero_le _⟩
  exact List.ne_nil_of_mem hmem

/-! ## Literals -/

/-- A class matches one of its characters. -/
lemma matches_one {p : Char → Bool} {before : Option Char} {m rest : Text} :
    (one p).Matches before m rest ↔ ∃ c, m = [c] ∧ p c = true := by
  constructor
  · rintro ⟨hall, hmin, hmax⟩
    have hone := hmax 1 rfl
    obtain ⟨c, rfl⟩ := List.length_eq_one_iff.1 (by omega : m.length = 1)
    exact ⟨c, rfl, hall c (List.mem_singleton_self c)⟩
  · rintro ⟨c, rfl, hc⟩
    refine ⟨?_, le_rfl, ?_⟩
    · intro d hd
      rw [List.mem_singleton.1 hd]
      exact hc
    · intro k hk
      obtain rfl : 1 = k := Option.some.inj hk
      exact le_rfl

/-- A literal matches the texts that are the same up to the folding. -/
lemma matches_literalBy {fold : Char → Char} {t : Text} {before : Option Char} {m rest : Text} :
    (literalBy fold t).Matches before m rest ↔ m.map fold = t := by
  induction t generalizing before m with
  | nil =>
    rw [List.map_eq_nil_iff]
    exact Iff.rfl
  | cons c t ih =>
    constructor
    · rintro ⟨m₁, m₂, rfl, h₁, h₂⟩
      obtain ⟨d, rfl, hd⟩ := matches_one.1 h₁
      rw [List.map_append, ih.1 h₂]
      simpa using hd
    · intro h
      obtain ⟨d, m, rfl, hd, hm⟩ := List.map_eq_cons_iff.1 h
      exact ⟨[d], m, rfl, matches_one.2 ⟨d, rfl, by simpa using hd⟩, ih.2 hm⟩

/-- A literal matches itself. -/
lemma matches_literal {t : Text} {before : Option Char} {m rest : Text} :
    (literal t).Matches before m rest ↔ m = t := by
  unfold literal
  rw [matches_literalBy, List.map_id]

/-! ## What stands behind a separator -/

/-- Every match is a text without separators, a separator, and white space. -/
def EndsBlank (separator : Char → Bool) (p : Pattern) : Prop :=
  ∀ before m rest, p.Matches before m rest → ∃ y c w, m = y ++ c :: w ∧
    (∀ d ∈ y, separator d = false) ∧ separator c = true ∧ ∀ d ∈ w, Unicode.isSpace d = true

/-- A sequence ends like its second part. -/
lemma endsBlank_append {separator : Char → Bool} {a b : Pattern}
    (ha : a.All (fun p => ∀ c, p c = true → separator c = false) fun _ => True)
    (hb : b.EndsBlank separator) : (a ++ b).EndsBlank separator := by
  rintro before m rest ⟨m₁, m₂, rfl, h₁, h₂⟩
  obtain ⟨y, c, w, rfl, hy, hc, hw⟩ := hb _ _ _ h₂
  refine ⟨m₁ ++ y, c, w, by rw [List.append_assoc], ?_, hc, hw⟩
  intro d hd
  rcases List.mem_append.1 hd with hd | hd
  · obtain ⟨p, hp, hpd⟩ := h₁.exists_class ha d hd
    exact hp d hpd
  · exact hy d hd

/-- A separator and blanks behind it. -/
lemma endsBlank_base {separator : Char → Bool} {p : Pattern}
    (hp : ∀ before m rest, p.Matches before m rest → ∃ c, m = [c] ∧ separator c = true) :
    (p ++ many 0 Unicode.isSpace).EndsBlank separator := by
  rintro before m rest ⟨m₁, m₂, rfl, h₁, h₂⟩
  obtain ⟨c, rfl, hc⟩ := hp _ _ _ h₁
  exact ⟨[], c, m₂, rfl, fun d hd => absurd hd List.not_mem_nil, hc, h₂.1⟩

/-- Behind the only separator there is only white space. -/
lemma blank_of_separator {separator : Char → Bool}
    (hspace : ∀ c, Unicode.isSpace c = true → separator c = false) {y w x z : Text} {c d : Char}
    (hy : ∀ e ∈ y, separator e = false) (hw : ∀ e ∈ w, Unicode.isSpace e = true)
    (hd : separator d = true) (h : y ++ c :: w = x ++ d :: z) : x = y ∧ d = c ∧ z = w := by
  rcases List.append_eq_append_iff.1 h with ⟨v, rfl, hv⟩ | ⟨v, rfl, hv⟩
  · rcases v with _ | ⟨e, v⟩
    · obtain ⟨rfl, rfl⟩ := List.cons.inj hv
      exact ⟨List.append_nil _, rfl, rfl⟩
    · obtain ⟨rfl, rfl⟩ := List.cons.inj hv
      have hblank := hw d (by simp)
      rw [hspace d hblank] at hd
      contradiction
  · rcases v with _ | ⟨e, v⟩
    · obtain ⟨rfl, rfl⟩ := List.cons.inj hv
      exact ⟨(List.append_nil _).symm, rfl, rfl⟩
    · obtain ⟨rfl, rfl⟩ := List.cons.inj hv
      rw [hy d (by simp)] at hd
      contradiction

/-! ## Ways to split a text -/

/-- A text without a character does not reach it. -/
lemma split_of_not_mem {m rest w s : Text} {c : Char} (hc : c ∉ m) (h : m ++ rest = w ++ c :: s) :
    ∃ z, w = m ++ z ∧ rest = z ++ c :: s := by
  rcases List.append_eq_append_iff.1 h with ⟨z, hw, hrest⟩ | ⟨z, hm, hrest⟩
  · exact ⟨z, hw, hrest⟩
  · rcases z with _ | ⟨d, z⟩
    · rw [List.append_nil] at hm
      rw [List.nil_append] at hrest
      exact ⟨[], by rw [List.append_nil, hm], hrest.symm⟩
    · rw [List.cons_append] at hrest
      obtain ⟨rfl, -⟩ := List.cons.inj hrest
      exact absurd (by rw [hm]; simp) hc

/-- The runs at the beginning of a text are determined. -/
lemma run_unique {p : Char → Bool} {s s' rest rest' : Text} (hs : ∀ c ∈ s, p c = true)
    (hs' : ∀ c ∈ s', p c = true) (hrest : ∀ d ∈ rest.head?, p d = false)
    (hrest' : ∀ d ∈ rest'.head?, p d = false) (h : s ++ rest = s' ++ rest') : s = s' ∧
      rest = rest' := by
  rcases List.append_eq_append_iff.1 h with ⟨v, rfl, hv⟩ | ⟨v, rfl, hv⟩
  · rcases v with _ | ⟨c, v⟩
    · exact ⟨(List.append_nil _).symm, hv⟩
    · have hfalse := hrest c (by rw [hv]; rfl)
      rw [hs' c (by simp)] at hfalse
      contradiction
  · rcases v with _ | ⟨c, v⟩
    · exact ⟨List.append_nil _, hv.symm⟩
    · have hfalse := hrest' c (by rw [hv]; rfl)
      rw [hs c (by simp)] at hfalse
      contradiction

/-- The last visible character of a text is determined. -/
lemma visible_unique {y w x z : Text} {c d : Char} (hw : ∀ e ∈ w, Unicode.isSpace e = true)
    (hz : ∀ e ∈ z, Unicode.isSpace e = true) (hc : Unicode.isSpace c = false)
    (hd : Unicode.isSpace d = false) (h : y ++ c :: w = x ++ d :: z) : c = d := by
  rcases List.append_eq_append_iff.1 h with ⟨v, rfl, hv⟩ | ⟨v, rfl, hv⟩
  · rcases v with _ | ⟨e, v⟩
    · exact (List.cons.inj hv).1
    · obtain ⟨rfl, rfl⟩ := List.cons.inj hv
      rw [hw d (by simp)] at hd
      contradiction
  · rcases v with _ | ⟨e, v⟩
    · exact (List.cons.inj hv).1.symm
    · obtain ⟨rfl, rfl⟩ := List.cons.inj hv
      rw [hz c (by simp)] at hc
      contradiction

end Regex.Pattern

