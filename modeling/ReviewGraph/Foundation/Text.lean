import Mathlib
import ReviewGraph.Foundation.CaseFolding

/-!
# Texts

A text is a list of Unicode scalar values.  The operations below are the string operations that
the modelled programs use: line-end normalisation, splitting into lines, prefixes, search for a
fragment, ordering by code point and case folding.  All of them are structurally recursive, so that
closed texts can be evaluated.

String literals are coerced to texts, hence definitions can be written with ordinary literals.
-/

/-- A text: a list of Unicode scalar values. -/
abbrev Text : Type := List Char

/-- The text of a string literal.  It is irreducible, so that proofs do not unfold literals into
their characters unless they ask for them with `Text.ofString_eq`. -/
@[irreducible] def Text.ofString (s : String) : Text := s.toList

instance : Coe String Text := ⟨Text.ofString⟩

instance : LawfulBEq Text := inferInstance

namespace Text

/-- A text has the characters of the string. -/
lemma ofString_eq (s : String) : ofString s = s.toList := by unfold ofString; rfl

/-- Only the empty literal is the empty text. -/
@[simp] lemma ofString_eq_nil_iff {s : String} : ofString s = [] ↔ s = "" := by
  rw [ofString_eq, String.toList_eq_nil_iff]

/-! ## Prefixes and fragments -/

/-- The remainder after a prefix is exactly what completes the prefix to the whole text. -/
lemma isPrefixOf?_eq_some_iff {p t r : Text} : p.isPrefixOf? t = some r ↔ t = p ++ r := by
  induction p generalizing t with
  | nil => simp [List.isPrefixOf?, eq_comm]
  | cons c p ih =>
    cases t with
    | nil => simp [List.isPrefixOf?]
    | cons d t =>
      by_cases h : c = d
      · subst h
        simp [List.isPrefixOf?, ih]
      · simp [List.isPrefixOf?, h, Ne.symm h]

/-- What stands behind a prefix is found. -/
@[simp] lemma isPrefixOf?_append (p r : Text) : p.isPrefixOf? (p ++ r) = some r :=
  isPrefixOf?_eq_some_iff.2 rfl

/-- Whether the text starts with the given prefix. -/
def startsWith (t p : Text) : Bool := p.isPrefixOf t

/-- `str.startswith` decides whether there is a prefix. -/
@[simp] lemma startsWith_iff {t p : Text} : t.startsWith p = true ↔ p <+: t :=
  List.isPrefixOf_iff_prefix

/-- Whether the text contains the given fragment. -/
def contains (t fragment : Text) : Bool := decide (fragment <:+: t)

/-- Whether the text contains one of the given fragments. -/
def containsAny (t : Text) (fragments : List Text) : Bool := fragments.any t.contains

/-! ## Line ends -/

/-- Replace every carriage return that is followed by a line feed by that line feed. -/
def replaceCrLf : Text → Text
  | '\r' :: '\n' :: rest => '\n' :: replaceCrLf rest
  | c :: rest => c :: replaceCrLf rest
  | [] => []

/-- Replace every carriage return by a line feed. -/
def replaceCr (t : Text) : Text := t.map fun c => if c = '\r' then '\n' else c

/-- Encode every line end as a single line feed. -/
def normalizeLineEndings (t : Text) : Text := replaceCr (replaceCrLf t)

/-- A text without carriage returns has no two-character line end to replace. -/
lemma replaceCrLf_of_not_mem {t : Text} (h : '\r' ∉ t) : replaceCrLf t = t := by
  fun_induction replaceCrLf t with
  | case1 rest ih => simp at h
  | case2 c rest hc ih => rw [ih (by simp_all)]
  | case3 => rfl

/-- Single carriage returns leave no trace. -/
lemma cr_not_mem_replaceCr (t : Text) : '\r' ∉ replaceCr t := by
  unfold replaceCr
  rw [List.mem_map]
  rintro ⟨c, -, hc⟩
  split at hc
  · exact absurd hc (by decide)
  · contradiction

/-- Without carriage return nothing is replaced. -/
lemma replaceCr_of_not_mem {t : Text} (h : '\r' ∉ t) : replaceCr t = t := by
  unfold replaceCr
  conv_rhs => rw [← List.map_id t]
  refine List.map_congr_left fun c hc => ?_
  rw [if_neg (by rintro rfl; exact h hc), id]

/-- Normalised texts contain no carriage return. -/
lemma cr_not_mem_normalizeLineEndings (t : Text) : '\r' ∉ normalizeLineEndings t :=
  cr_not_mem_replaceCr _

/-- Normalisation changes only texts with carriage returns. -/
lemma normalizeLineEndings_of_not_mem {t : Text} (h : '\r' ∉ t) : normalizeLineEndings t = t := by
  unfold normalizeLineEndings
  rw [replaceCrLf_of_not_mem h, replaceCr_of_not_mem h]

/-! ## Lines -/

/-- The lines of a text, separated by line feeds. -/
def lines (t : Text) : List Text := t.splitOn '\n'

/-- The text with the given lines. -/
def unlines (ls : List Text) : Text := ['\n'].intercalate ls

/-- The lines of a text make up the text. -/
@[simp] lemma unlines_lines (t : Text) : unlines (lines t) = t := List.intercalate_splitOn '\n'

/-- Every text has a line. -/
lemma lines_ne_nil (t : Text) : lines t ≠ [] := List.splitOn_ne_nil '\n' t

/-- A text without line feeds is its only line. -/
lemma lines_of_not_mem {t : Text} (h : '\n' ∉ t) : lines t = [t] := List.splitOn_eq_singleton h

/-- A line feed separates the lines before it from the lines after it. -/
lemma lines_append_newline (s t : Text) : lines (s ++ '\n' :: t) = lines s ++ lines t :=
  List.splitOn_append_cons_self s t

/-- No line contains a line feed. -/
lemma newline_not_mem_of_mem_lines {t l : Text} (h : l ∈ lines t) : '\n' ∉ l := by
  unfold lines at h
  induction t generalizing l with
  | nil => simp_all
  | cons c t ih =>
    rw [List.splitOn_cons_eq_if_modifyHead] at h
    split at h
    · rcases List.mem_cons.1 h with rfl | h
      · simp
      · exact ih h
    · rename_i hc
      obtain ⟨l₀, ls, hl⟩ := List.exists_cons_of_ne_nil (List.splitOn_ne_nil '\n' t)
      rw [hl, List.modifyHead_cons, List.mem_cons] at h
      rcases h with rfl | h
      · have h₀ : '\n' ∉ l₀ := ih (by simp [hl])
        exact fun hm => (List.mem_cons.1 hm).elim (fun h => hc (beq_iff_eq.2 h.symm)) h₀
      · exact ih (by simp [hl, h])

/-- Remove the line feeds at the end of a text. -/
def rstripNewlines (t : Text) : Text := t.rdropWhile (· = '\n')

/-- A text whose last character is not a line feed keeps it. -/
lemma rstripNewlines_of_last {t : Text} (h : ∀ h : t ≠ [], t.getLast h ≠ '\n') :
    rstripNewlines t = t := by
  unfold rstripNewlines
  rw [List.rdropWhile_eq_self_iff]
  simpa using h

/-- A line feed at the end of a text is removed. -/
@[simp] lemma rstripNewlines_append_newline (t : Text) :
    rstripNewlines (t ++ ['\n']) = rstripNewlines t := by
  unfold rstripNewlines
  rw [List.rdropWhile_concat_pos _ _ _ (by simp)]

/-- Stripping twice strips no more. -/
@[simp] lemma rstripNewlines_idem (t : Text) :
    rstripNewlines (rstripNewlines t) = rstripNewlines t :=
  List.rdropWhile_idempotent _ _

/-- A stripped text is the beginning of the text. -/
lemma rstripNewlines_prefix (t : Text) : rstripNewlines t <+: t := List.rdropWhile_prefix _ _

/-- Lines without line feeds are the lines of their text. -/
lemma lines_unlines {ls : List Text} (hne : ls ≠ []) (h : ∀ l ∈ ls, '\n' ∉ l) :
    lines (unlines ls) = ls :=
  List.splitOn_intercalate '\n' h hne

/-- What is removed at the end of a text are line feeds. -/
lemma exists_eq_rstripNewlines_append (t : Text) :
    ∃ k, t = rstripNewlines t ++ List.replicate k '\n' := by
  induction t using List.reverseRecOn with
  | nil => exact ⟨0, rfl⟩
  | append_singleton t c ih =>
    by_cases hc : c = '\n'
    · subst hc
      obtain ⟨k, hk⟩ := ih
      refine ⟨k + 1, ?_⟩
      rw [rstripNewlines_append_newline, List.replicate_succ', ← List.append_assoc, ← hk]
    · refine ⟨0, ?_⟩
      rw [List.replicate_zero, List.append_nil]
      unfold rstripNewlines
      rw [List.rdropWhile_concat_neg _ _ _ (by simpa using hc)]

/-- Line feeds at the end of a text are empty lines. -/
lemma lines_append_replicate (t : Text) (k : ℕ) :
    lines (t ++ List.replicate k '\n') = lines t ++ List.replicate k [] := by
  induction k with
  | zero => simp
  | succ k ih =>
    have hempty : lines [] = [[]] := rfl
    rw [List.replicate_succ', ← List.append_assoc, lines_append_newline, ih, hempty,
      List.replicate_succ', List.append_assoc]

/-! ## Case folding -/

/-- `str.casefold`. -/
def casefold (t : Text) : Text := t.flatMap Unicode.casefoldChar

/-! ## Ordering and joining -/

/-- The texts in ascending order of their code points. -/
def sorted (ts : List Text) : List Text := ts.insertionSort (· ≤ ·)

/-- Sorting only changes the order. -/
lemma sorted_perm (ts : List Text) : (sorted ts).Perm ts := List.perm_insertionSort _ ts

/-- Sorted texts are in order. -/
lemma pairwise_sorted (ts : List Text) : (sorted ts).Pairwise (· ≤ ·) :=
  List.pairwise_insertionSort _ ts

/-- Sorting forgets exactly the order. -/
lemma sorted_eq_sorted_iff {s t : List Text} : sorted s = sorted t ↔ s.Perm t := by
  constructor
  · intro h
    exact (sorted_perm s).symm.trans (h ▸ sorted_perm t)
  · intro h
    have hp : (sorted s).Perm (sorted t) := (sorted_perm s).trans (h.trans (sorted_perm t).symm)
    exact hp.eq_of_pairwise (fun _ _ _ _ => le_antisymm) (pairwise_sorted s) (pairwise_sorted t)

/-- Sorting twice changes nothing. -/
@[simp] lemma sorted_sorted (s : List Text) : sorted (sorted s) = sorted s :=
  sorted_eq_sorted_iff.2 (sorted_perm s)

/-- Sorting keeps the elements. -/
@[simp] lemma mem_sorted {t : Text} {ts : List Text} : t ∈ sorted ts ↔ t ∈ ts :=
  (sorted_perm ts).mem_iff

/-- Sorting makes no repetition. -/
@[simp] lemma nodup_sorted {ts : List Text} : (sorted ts).Nodup ↔ ts.Nodup :=
  (sorted_perm ts).nodup_iff

/-- The texts joined by a separator. -/
def join (separator : Text) (ts : List Text) : Text := separator.intercalate ts

/-! ## Numbers -/

/-- The decimal digits of a natural number. -/
def ofNat (n : ℕ) : Text := Nat.toDigits 10 n

/-- The decimal representation of an integer. -/
def ofInt : ℤ → Text
  | .ofNat n => ofNat n
  | .negSucc n => '-' :: ofNat (n + 1)

end Text
