import Mathlib.Data.List.Basic
import Mathlib.Data.List.Nodup
import Mathlib.Data.List.Perm.Basic

/-!
# Lists that are split and lists without repetition

`Interleaving xs ys zs` says that `zs` is split into `xs` and `ys`, each in the order of `zs`.
`firstBy key xs` keeps the first element of `xs` for each key.
-/

namespace List

variable {α β : Type*}

/-! ## Splitting a list -/

/-- The third list is split into the first two, each element into one of them, in order. -/
inductive Interleaving : List α → List α → List α → Prop
  | nil : Interleaving [] [] []
  | left {xs ys zs : List α} (a : α) (h : Interleaving xs ys zs) :
      Interleaving (a :: xs) ys (a :: zs)
  | right {xs ys zs : List α} (a : α) (h : Interleaving xs ys zs) :
      Interleaving xs (a :: ys) (a :: zs)

namespace Interleaving

variable {xs ys zs xs' ys' zs' : List α}

/-- Splits of two lists give a split of their concatenation. -/
lemma append (h : Interleaving xs ys zs) (h' : Interleaving xs' ys' zs') :
    Interleaving (xs ++ xs') (ys ++ ys') (zs ++ zs') := by
  induction h with
  | nil => exact h'
  | left a _ ih => exact ih.left a
  | right a _ ih => exact ih.right a

/-- The next element goes to the first list. -/
lemma concat_left (h : Interleaving xs ys zs) (a : α) :
    Interleaving (xs ++ [a]) ys (zs ++ [a]) := by
  simpa using h.append (nil.left a)

/-- The next element goes to the second list. -/
lemma concat_right (h : Interleaving xs ys zs) (a : α) :
    Interleaving xs (ys ++ [a]) (zs ++ [a]) := by
  simpa using h.append (nil.right a)

/-- No element is lost and none is added. -/
lemma perm (h : Interleaving xs ys zs) : (xs ++ ys).Perm zs := by
  induction h with
  | nil => exact .refl _
  | left a _ ih => exact ih.cons a
  | right a _ ih => exact perm_middle.trans (ih.cons a)

/-- The first list keeps the order. -/
lemma sublist_left (h : Interleaving xs ys zs) : xs <+ zs := by
  induction h with
  | nil => exact .refl _
  | left a _ ih => exact ih.cons_cons a
  | right a _ ih => exact ih.cons a

end Interleaving

/-! ## Related lists -/

/-- Every element of the second list is related to one of the first. -/
lemma Forall₂.exists_of_mem_right {R : α → β → Prop} {as : List α} {bs : List β}
    (h : Forall₂ R as bs) {b : β} (hb : b ∈ bs) : ∃ a ∈ as, R a b := by
  induction h with
  | nil => cases hb
  | cons hfirst _ ih =>
    rcases mem_cons.1 hb with rfl | hb
    · exact ⟨_, mem_cons_self, hfirst⟩
    · obtain ⟨a, ha, hrel⟩ := ih hb
      exact ⟨a, mem_cons_of_mem _ ha, hrel⟩

/-! ## The first element for each key -/

variable [DecidableEq β] (key : α → β)

/-- The elements whose key is not among those seen before. -/
def firstByFrom : List β → List α → List α
  | _, [] => []
  | seen, a :: as =>
    if key a ∈ seen then firstByFrom seen as else a :: firstByFrom (key a :: seen) as

/-- The first element for each key, in order. -/
def firstBy (as : List α) : List α := firstByFrom key [] as

/-- The first elements by a key are some of the elements. -/
lemma firstByFrom_sublist (seen : List β) (as : List α) : firstByFrom key seen as <+ as := by
  induction as generalizing seen with
  | nil => exact .refl _
  | cons a as ih =>
    rw [firstByFrom]
    split
    · exact (ih seen).cons a
    · exact (ih _).cons_cons a

/-- Elements are only removed. -/
lemma firstBy_sublist (as : List α) : firstBy key as <+ as := firstByFrom_sublist key [] as

/-- Every key has been seen or is kept. -/
lemma firstByFrom_keys (seen : List β) (as : List α) {a : α} (h : a ∈ as) :
    key a ∈ seen ∨ ∃ b ∈ firstByFrom key seen as, key b = key a := by
  induction as generalizing seen with
  | nil => cases h
  | cons c as ih =>
    rw [firstByFrom]
    rcases mem_cons.1 h with rfl | h
    · split
      · rename_i hseen
        exact .inl hseen
      · exact .inr ⟨a, mem_cons_self, rfl⟩
    · split
      · exact ih seen h
      · rcases ih (key c :: seen) h with hmem | ⟨b, hb, hkey⟩
        · rcases mem_cons.1 hmem with heq | hmem
          · exact .inr ⟨c, mem_cons_self, heq.symm⟩
          · exact .inl hmem
        · exact .inr ⟨b, mem_cons_of_mem _ hb, hkey⟩

/-- No key is lost. -/
lemma exists_mem_firstBy (as : List α) {a : α} (h : a ∈ as) : ∃ b ∈ firstBy key as, key b = key a :=
  (firstByFrom_keys key [] as h).resolve_left not_mem_nil

/-! ## Shortest runs -/

/-- The run has the property, and loses it with its first and with its last element. -/
structure ShortestRun (P : List α → Prop) (run : List α) : Prop where
  /-- The run has the property. -/
  holds : P run
  /-- The first element is needed. -/
  tail : ¬ P run.tail
  /-- The last element is needed. -/
  dropLast : ¬ P run.dropLast

/-- A list with a property that the empty list does not have contains a shortest run. -/
lemma exists_shortestRun {P : List α → Prop} (hnil : ¬ P []) {l : List α} (h : P l) :
    ∃ run, run <:+: l ∧ ShortestRun P run := by
  induction hn : l.length using Nat.strongRecOn generalizing l with
  | ind n ih =>
    have hne : l ≠ [] := by
      rintro rfl
      exact hnil h
    have hpos : 0 < l.length := length_pos_of_ne_nil hne
    by_cases htail : P l.tail
    · have hlt : l.tail.length < n := by
        rw [length_tail]
        omega
      obtain ⟨run, hrun, hshort⟩ := ih _ hlt htail rfl
      exact ⟨run, hrun.trans (tail_suffix l).isInfix, hshort⟩
    by_cases hlast : P l.dropLast
    · have hlt : l.dropLast.length < n := by
        rw [length_dropLast]
        omega
      obtain ⟨run, hrun, hshort⟩ := ih _ hlt hlast rfl
      have hpart := dropLast_prefix l
      exact ⟨run, hrun.trans hpart.isInfix, hshort⟩
    · exact ⟨l, infix_refl l, h, htail, hlast⟩

end List
