import ReviewGraph.Foundation.Unicode

/-!
# Words of a text

Splitting a text into words, trimming it and replacing parts of it, as the string methods of the
modelled programs do.
-/

namespace Text

/-- The maximal runs of characters of which the predicate does not hold. -/
def runs (separator : Char → Bool) (t : Text) : List Text :=
  (t.splitOnP separator).filter (· ≠ [])

/-- `str.split()`. -/
def splitWords (t : Text) : List Text := runs Unicode.isSpace t

/-- `str.strip()`. -/
def strip (t : Text) : Text := (t.dropWhile Unicode.isSpace).rdropWhile Unicode.isSpace

/-- `str.replace` of a text that is not empty; the first argument bounds the number of positions. -/
def replaceFrom (old new : Text) : ℕ → Text → Text
  | 0, t => t
  | _ + 1, [] => []
  | n + 1, c :: t =>
    match old.isPrefixOf? (c :: t) with
    | some rest => new ++ replaceFrom old new n rest
    | none => c :: replaceFrom old new n t

/-- `str.replace` of a text that is not empty. -/
def replaceAll (t old new : Text) : Text := replaceFrom old new t.length t

/-- Replace every maximal run of the given characters by a blank. -/
def blankRuns (p : Char → Bool) : Text → Text
  | [] => []
  | [c] => if p c then [' '] else [c]
  | c :: d :: t =>
    if p c then (if p d then blankRuns p (d :: t) else ' ' :: blankRuns p (d :: t))
    else c :: blankRuns p (d :: t)

/-! ## Runs -/

variable {separator : Char → Bool}

/-- The runs on both sides of a separator are independent. -/
lemma runs_append_cons {c : Char} (hc : separator c = true) (s t : Text) :
    runs separator (s ++ c :: t) = runs separator s ++ runs separator t := by
  unfold runs
  rw [List.splitOnP_append_cons s t hc, List.filter_append]

/-- A text without separators is a single run. -/
lemma runs_of_forall {t : Text} (hne : t ≠ []) (h : ∀ c ∈ t, separator c = false) :
    runs separator t = [t] := by
  unfold runs
  rw [List.splitOnP_eq_singleton (by simpa using h)]
  simp [hne]

/-- A run is not empty. -/
lemma ne_nil_of_mem_runs {r t : Text} (h : r ∈ runs separator t) : r ≠ [] := by
  have hmem := (List.mem_filter.1 h).2
  simpa using hmem

/-- A piece of a split text contains no separator. -/
lemma separator_of_mem_splitOnP {r t : Text} (h : r ∈ t.splitOnP separator) {c : Char}
    (hc : c ∈ r) :
    separator c = false := by
  induction t generalizing r with
  | nil =>
    rw [List.splitOnP_nil, List.mem_singleton] at h
    rw [h] at hc
    cases hc
  | cons d t ih =>
    rw [List.splitOnP_cons_eq_if_modifyHead] at h
    split at h
    · rcases List.mem_cons.1 h with rfl | h
      · cases hc
      · exact ih h hc
    · rename_i hd
      obtain ⟨r₀, rs, hr⟩ := List.exists_cons_of_ne_nil (List.splitOnP_ne_nil separator t)
      rw [hr, List.modifyHead_cons, List.mem_cons] at h
      rcases h with rfl | h
      · rcases List.mem_cons.1 hc with rfl | hc
        · simpa using hd
        · exact ih (by simp [hr]) hc
      · exact ih (by simp [hr, h]) hc

/-- A run contains no separator. -/
lemma separator_of_mem_runs {r t : Text} (h : r ∈ runs separator t) {c : Char} (hc : c ∈ r) :
    separator c = false :=
  separator_of_mem_splitOnP (List.mem_filter.1 h).1 hc

/-- Runs joined by a separator are the runs again. -/
lemma runs_join {rs : List Text} {c : Char} (hc : separator c = true) (hne : ∀ r ∈ rs, r ≠ [])
    (h : ∀ r ∈ rs, ∀ d ∈ r, separator d = false) : runs separator (join [c] rs) = rs := by
  induction rs with
  | nil => simp [join, runs]
  | cons r rs ih =>
    have hr := runs_of_forall (hne r List.mem_cons_self) (h r List.mem_cons_self)
    rcases rs with _ | ⟨s, rs⟩
    · simpa [join] using hr
    · have hrest := ih (fun s hs => hne s (List.mem_cons_of_mem _ hs))
        (fun s hs => h s (List.mem_cons_of_mem _ hs))
      have hjoin : join [c] (r :: s :: rs) = r ++ c :: join [c] (s :: rs) := by
        simp [join, List.intercalate]
      rw [hjoin, runs_append_cons hc, hr, hrest]
      rfl

end Text
