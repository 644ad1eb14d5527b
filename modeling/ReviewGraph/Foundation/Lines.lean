import ReviewGraph.Foundation.Text

/-!
# Lines at every line boundary

`Text.splitLines` is `str.splitlines()`: it ends a line at ten characters, not only at the line
feed, and a carriage return with a line feed counts as one boundary.
-/

namespace Text

/-- The characters at which `str.splitlines()` ends a line. -/
def isLineBoundary (c : Char) : Bool :=
  c.toNat ∈ [10, 11, 12, 13, 28, 29, 30, 0x85, 0x2028, 0x2029]

/-- `str.splitlines()`. -/
def splitLines : Text → List Text
  | [] => []
  | '\r' :: '\n' :: t => [] :: splitLines t
  | c :: t =>
    if isLineBoundary c then [] :: splitLines t
    else
      match splitLines t with
      | [] => [[c]]
      | line :: rest => (c :: line) :: rest

/-- A character that ends no line goes to the first line. -/
lemma splitLines_cons {c : Char} (h : isLineBoundary c = false) (t : Text) :
    splitLines (c :: t) = match splitLines t with
      | [] => [[c]]
      | line :: rest => (c :: line) :: rest := by
  have hcr : c ≠ '\r' := by
    rintro rfl
    exact absurd h (by decide)
  rw [splitLines]
  · rw [if_neg (by simp [h])]
  · intro t' heq
    exact absurd heq hcr

/-- A line feed ends a line. -/
lemma splitLines_newline (t : Text) : splitLines ('\n' :: t) = [] :: splitLines t := by
  rw [splitLines]
  · rfl
  · intro t' heq
    exact absurd heq (by decide)

/-- A text that is not empty has a line. -/
lemma splitLines_ne_nil {t : Text} (h : t ≠ []) : splitLines t ≠ [] := by
  fun_cases splitLines t with
  | case1 => exact absurd rfl h
  | _ => simp

/-- What follows a line feed is cut on its own. -/
lemma splitLines_append (s t : Text) :
    splitLines (s ++ '\n' :: t) = splitLines (s ++ ['\n']) ++ splitLines t := by
  have hboundary : ∀ {c : Char} {s : Text}, isLineBoundary c = true →
      (∀ t', c = '\r' → s = '\n' :: t' → False) → splitLines (c :: s) = [] :: splitLines s := by
    intro c s hc hcrlf
    rw [splitLines]
    · rw [if_pos hc]
    · exact hcrlf
  have hinside : ∀ {c : Char} {s : Text}, isLineBoundary c = false →
      splitLines (s ++ '\n' :: t) = splitLines (s ++ ['\n']) ++ splitLines t →
      splitLines (c :: s ++ '\n' :: t) = splitLines (c :: s ++ ['\n']) ++ splitLines t := by
    intro c s hc ih
    obtain ⟨line, rest, hlines⟩ := List.exists_cons_of_ne_nil
      (splitLines_ne_nil (show s ++ ['\n'] ≠ [] by simp))
    rw [List.cons_append, List.cons_append, splitLines_cons hc, splitLines_cons hc, ih, hlines]
    rfl
  induction s using splitLines.induct with
  | case1 =>
    rw [List.nil_append, List.nil_append, splitLines_newline, splitLines_newline]
    rfl
  | case2 s ih =>
    simp only [List.cons_append, splitLines]
    rw [ih]
  | case3 c s hcrlf hc ih =>
    by_cases hs : c = '\r' ∧ s = []
    · obtain ⟨rfl, rfl⟩ := hs
      rfl
    · have hkeeps : ∀ u, ∀ t', c = '\r' → s ++ '\n' :: u = '\n' :: t' → False := by
        intro u t' hcr heq
        cases s with
        | nil => exact hs ⟨hcr, rfl⟩
        | cons d s =>
          obtain ⟨rfl, -⟩ := List.cons.inj heq
          exact hcrlf s hcr rfl
      rw [List.cons_append, hboundary hc (hkeeps t), ih, List.cons_append, hboundary hc (hkeeps [])]
      rfl
  | case4 c s _ hc _ ih => exact hinside (Bool.not_eq_true _ ▸ hc) ih
  | case5 c s _ hc _ _ _ ih => exact hinside (Bool.not_eq_true _ ▸ hc) ih

/-- A text without boundaries is one line. -/
lemma splitLines_of_noBoundary {t : Text} (hne : t ≠ []) (h : ∀ c ∈ t, isLineBoundary c = false) :
    splitLines t = [t] := by
  induction t with
  | nil => exact absurd rfl hne
  | cons c t ih =>
    rw [splitLines_cons (h c List.mem_cons_self)]
    by_cases ht : t = []
    · subst ht
      rfl
    · rw [ih ht fun d hd => h d (List.mem_cons_of_mem _ hd)]

/-- A line without boundaries is cut off at its line feed. -/
lemma splitLines_append_newline {line : Text} (h : ∀ c ∈ line, isLineBoundary c = false)
    (t : Text) :
    splitLines (line ++ '\n' :: t) = line :: splitLines t := by
  induction line with
  | nil => exact splitLines_newline t
  | cons c line ih =>
    rw [List.cons_append, splitLines_cons (h c List.mem_cons_self),
      ih fun d hd => h d (List.mem_cons_of_mem _ hd)]

/-- A line without boundaries is cut off at a carriage return with a line feed. -/
lemma splitLines_append_crlf {line : Text} (h : ∀ c ∈ line, isLineBoundary c = false) (t : Text) :
    splitLines (line ++ '\r' :: '\n' :: t) = line :: splitLines t := by
  induction line with
  | nil => rw [List.nil_append, splitLines]
  | cons c line ih =>
    rw [List.cons_append, splitLines_cons (h c List.mem_cons_self),
      ih fun d hd => h d (List.mem_cons_of_mem _ hd)]

/-- The line without a carriage return at its end. -/
def dropCr (line : Text) : Text := if line.getLast? = some '\r' then line.dropLast else line

/-- At most one carriage return is dropped. -/
lemma dropCr_cases (line : Text) : line = dropCr line ∨ line = dropCr line ++ ['\r'] := by
  unfold dropCr
  split
  · rename_i h
    right
    exact (List.dropLast_append_getLast? _ h).symm
  · exact .inl rfl

/-- A last line, with or without a carriage return. -/
lemma splitLines_last {line : Text} (hne : line ≠ [])
    (h : ∀ c ∈ dropCr line, isLineBoundary c = false) : splitLines line = [dropCr line] := by
  rcases dropCr_cases line with hcr | hcr
  · rw [← hcr] at h ⊢
    exact splitLines_of_noBoundary hne h
  · generalize dropCr line = body at hcr h ⊢
    subst hcr
    clear hne
    induction body with
    | nil => decide
    | cons c body ih =>
      rw [List.cons_append, splitLines_cons (h c List.mem_cons_self),
        ih fun d hd => h d (List.mem_cons_of_mem _ hd)]

/-- If no line has a boundary inside, apart from a carriage return before the line feed, the lines
are those between the line feeds. -/
lemma splitLines_unlines {lines : List Text} (hne : lines ≠ []) (hlines : ∀ line ∈ lines, line ≠ [])
    (h : ∀ line ∈ lines, ∀ c ∈ dropCr line, isLineBoundary c = false) :
    splitLines (unlines lines) = lines.map dropCr := by
  induction lines with
  | nil => exact absurd rfl hne
  | cons line lines ih =>
    have hline := h line List.mem_cons_self
    by_cases hrest : lines = []
    · subst hrest
      have hsingle : unlines [line] = line := by simp [unlines]
      rw [hsingle, splitLines_last (hlines line List.mem_cons_self) hline]
      rfl
    · have heq : unlines (line :: lines) = line ++ '\n' :: unlines lines := by
        unfold unlines
        obtain ⟨next, rest, rfl⟩ := List.exists_cons_of_ne_nil hrest
        simp [List.intercalate]
      have htail := ih hrest (fun l hl => hlines l (List.mem_cons_of_mem _ hl))
        fun l hl => h l (List.mem_cons_of_mem _ hl)
      rw [heq, List.map_cons, ← htail]
      rcases dropCr_cases line with hcr | hcr
      · rw [← hcr] at hline ⊢
        exact splitLines_append_newline hline _
      · generalize dropCr line = body at hcr hline ⊢
        subst hcr
        rw [List.append_assoc]
        exact splitLines_append_crlf hline _

end Text
