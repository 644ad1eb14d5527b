import ReviewGraph.Foundation.Text

/-!
# Texts within texts

What is found in a text that is put together, split into lines or has its line ends encoded, and
lacks what was put in between, is found in one of the parts.
-/

namespace List

variable {α : Type*} {m a b : List α} {x : α}

/-- What comes first and lacks an element ends in front of it. -/
lemma prefix_of_prefix_append_cons (h : m <+: a ++ x :: b) (hx : x ∉ m) : m <+: a := by
  rcases List.prefix_or_prefix_of_prefix h (List.prefix_append a (x :: b)) with hle | ⟨rest, rfl⟩
  · exact hle
  · cases rest with
    | nil => rw [List.append_nil]
    | cons y rest =>
      rw [List.prefix_append_right_inj, List.cons_prefix_cons] at h
      exact absurd (by simp [h.1]) hx

/-- What lacks an element stands on one side of it. -/
lemma infix_append_cons (h : m <:+: a ++ x :: b) (hx : x ∉ m) : m <:+: a ∨ m <:+: b := by
  induction a with
  | nil =>
    rcases List.infix_cons_iff.1 h with hprefix | hinfix
    · have hnil : m <+: [] := @prefix_of_prefix_append_cons α m [] b x hprefix hx
      exact .inl hnil.isInfix
    · exact .inr hinfix
  | cons y a ih =>
    rw [List.cons_append] at h
    rcases List.infix_cons_iff.1 h with hprefix | hinfix
    · rw [← List.cons_append] at hprefix
      exact .inl (prefix_of_prefix_append_cons hprefix hx).isInfix
    · exact (ih hinfix).imp_left fun hle => hle.trans (List.suffix_cons y a).isInfix

/-- A text that lacks an element is found in one of the two parts around it. -/
lemma infix_append_cons_iff (hx : x ∉ m) : m <:+: a ++ x :: b ↔ m <:+: a ∨ m <:+: b := by
  refine ⟨fun h => infix_append_cons h hx, ?_⟩
  rintro (h | h)
  · exact h.trans (List.prefix_append a (x :: b)).isInfix
  · exact h.trans ⟨a ++ [x], [], by simp⟩

end List

namespace Text

/-- The first of several lines is followed by a line feed. -/
lemma unlines_cons_cons (first second : Text) (rest : List Text) :
    unlines (first :: second :: rest) = first ++ '\n' :: unlines (second :: rest) := by
  simp [unlines, List.intercalate]

/-- A text without line feeds is found in one of the lines. -/
lemma infix_unlines_iff {p : Text} (hne : p ≠ []) (hp : '\n' ∉ p) {lines : List Text} :
    p <:+: unlines lines ↔ ∃ line ∈ lines, p <:+: line := by
  induction lines with
  | nil => simpa [unlines] using hne
  | cons first rest ih =>
    rcases rest with _ | ⟨second, rest⟩
    · simp [unlines]
    · rw [unlines_cons_cons, List.infix_append_cons_iff hp, ih,
        List.exists_mem_cons_iff (fun line => p <:+: line) first]

/-! ## Line ends -/

/-- A beginning without line feeds is left alone by the encoding of line ends. -/
lemma prefix_of_prefix_replaceCrLf {m t : Text} (hnewline : '\n' ∉ m)
    (h : m <+: replaceCrLf t) : m <+: t := by
  fun_induction replaceCrLf t generalizing m with
  | case1 rest ih =>
    have hnil : m <+: [] := @List.prefix_of_prefix_append_cons _ m [] _ _ h hnewline
    exact hnil.trans List.nil_prefix
  | case2 c rest hc ih =>
    cases m with
    | nil => exact List.nil_prefix
    | cons d m =>
      obtain ⟨rfl, hrest⟩ := List.cons_prefix_cons.1 h
      exact List.cons_prefix_cons.2 ⟨rfl, ih (fun hmem => hnewline (List.mem_cons_of_mem _ hmem))
        hrest⟩
  | case3 => exact h

/-- So is a text without line feeds in the middle. -/
lemma infix_of_replaceCrLf {m t : Text} (hnewline : '\n' ∉ m) (h : m <:+: replaceCrLf t) :
    m <:+: t := by
  fun_induction replaceCrLf t with
  | case1 rest ih =>
    rcases @List.infix_append_cons _ m [] _ _ h hnewline with hnil | hrest
    · exact hnil.trans (List.nil_infix)
    · exact (ih hrest).trans ⟨['\r', '\n'], [], by simp⟩
  | case2 c rest hc ih =>
    rcases List.infix_cons_iff.1 h with hprefix | hinfix
    · cases m with
      | nil => exact List.nil_infix
      | cons d m =>
        obtain ⟨rfl, hrest⟩ := List.cons_prefix_cons.1 hprefix
        have hm : m <+: rest := prefix_of_prefix_replaceCrLf
          (fun hmem => hnewline (List.mem_cons_of_mem _ hmem)) hrest
        exact (List.cons_prefix_cons.2 ⟨rfl, hm⟩).isInfix
    · exact (ih hinfix).trans (List.suffix_cons c rest).isInfix
  | case3 => exact h

/-- A text of one line stands in a text with other line ends only if it stands in the text. -/
lemma infix_of_normalizeLineEndings {m t : Text} (hnewline : '\n' ∉ m)
    (h : m <:+: t.normalizeLineEndings) : m <:+: t := by
  refine infix_of_replaceCrLf hnewline ?_
  obtain ⟨front, back, hsplit⟩ := h
  unfold normalizeLineEndings replaceCr at hsplit
  obtain ⟨frontMiddle, rest, hrest, hfront, -⟩ := List.map_eq_append_iff.1 hsplit.symm
  obtain ⟨first, middle, rfl, -, hmiddle⟩ := List.map_eq_append_iff.1 hfront
  have hid : middle.map (fun c => if c = '\r' then '\n' else c) = middle := by
    refine (List.map_congr_left fun c hc => ?_).trans (List.map_id middle)
    by_cases hcr : c = '\r'
    · refine absurd ?_ hnewline
      rw [← hmiddle]
      exact List.mem_map.2 ⟨c, hc, if_pos hcr⟩
    · exact if_neg hcr
  exact ⟨first, rest, by rw [hrest, ← hmiddle, hid]⟩

end Text
