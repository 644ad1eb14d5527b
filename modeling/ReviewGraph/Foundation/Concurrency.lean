import ReviewGraph.Foundation.Interaction

/-!
# Programs that share an object

A system runs any number of programs on one shared object.  Every call is atomic: the object admits
some answers and moves to its next state, while the calls of different programs interleave in any
order.  An `Exec` records this order in a log of exchanges, each with the program it belongs to.

`Exec.after` projects the log to one program, so that what all runs of that program satisfy holds of
its part of the log; `Exec.induction` is the rule for properties of the object and the log.
-/

namespace Interaction

variable {ι σ C : Type} {R : C → Type} {α : Type}

/-- An object that programs share. -/
structure SharedObject (σ C : Type) (R : C → Type) where
  /-- The answers that the object admits. -/
  admits : σ → (c : C) → R c → Prop
  /-- The state of the object after a call. -/
  next : σ → (c : C) → R c → σ

/-- The state of the object together with what remains of every program. -/
structure System (ι σ C : Type) (R : C → Type) (α : Type) where
  object : σ
  programs : ι → Prog C R α

variable [DecidableEq ι] (obj : SharedObject σ C R)

/-- One program makes one call. -/
inductive Step : System ι σ C R α → ι × Event C R → System ι σ C R α → Prop
  | call {s : System ι σ C R α} {i : ι} {c : C} {k : R c → Prog C R α} (r : R c)
      (hcall : s.programs i = .call c k) (hadmits : obj.admits s.object c r) :
      Step s (i, ⟨c, r⟩) ⟨obj.next s.object c r, Function.update s.programs i (k r)⟩

/-- An execution with its log. -/
inductive Exec (s : System ι σ C R α) : List (ι × Event C R) → System ι σ C R α → Prop
  | refl : Exec s [] s
  | step {log : List (ι × Event C R)} {e : ι × Event C R} {s' s'' : System ι σ C R α}
      (h : Exec s log s') (hstep : Step obj s' e s'') : Exec s (log ++ [e]) s''

/-- The exchanges of one program in a log. -/
def exchangesOf (i : ι) (log : List (ι × Event C R)) : List (Event C R) :=
  (log.filter fun e => e.1 = i).map Prod.snd

/-- An empty log has no exchanges. -/
@[simp] lemma exchangesOf_nil (i : ι) : exchangesOf i ([] : List (ι × Event C R)) = [] := rfl

/-- The last exchange belongs to its own process. -/
lemma exchangesOf_concat (i : ι) (log : List (ι × Event C R)) (e : ι × Event C R) :
    exchangesOf i (log ++ [e]) = exchangesOf i log ++ if e.1 = i then [e.2] else [] := by
  unfold exchangesOf
  rw [List.filter_append, List.map_append]
  by_cases h : e.1 = i
  · simp [h]
  · simp [h]

/-- The exchanges of a process are those logged for it. -/
lemma mem_exchangesOf {i : ι} {log : List (ι × Event C R)} {e : Event C R} :
    e ∈ exchangesOf i log ↔ (i, e) ∈ log := by
  simp [exchangesOf]

variable {obj} {s s' : System ι σ C R α} {log : List (ι × Event C R)}

/-- The part of a program in the log is an interrupted run of it. -/
lemma Exec.after (h : Exec obj s log s') (i : ι) :
    After (s.programs i) (exchangesOf i log) (s'.programs i) := by
  induction h with
  | refl => exact .refl _
  | @step log e s' s'' _ hstep ih =>
    rw [exchangesOf_concat]
    obtain @⟨j, c, k, r, hcall, -⟩ := hstep
    dsimp only
    by_cases hi : j = i
    · subst hi
      rw [if_pos rfl, Function.update_self]
      rw [hcall] at ih
      exact ih.answer r
    · rw [if_neg hi, Function.update_of_ne (Ne.symm hi), List.append_nil]
      exact ih

/-- A program that returned has run to its end. -/
lemma Exec.runs (h : Exec obj s log s') {i : ι} {a : α} (hret : s'.programs i = .ret a) :
    Runs (s.programs i) (exchangesOf i log) a := by
  have hafter := h.after i
  rw [hret] at hafter
  simpa using hafter.runs (.ret a)

/-- Induction over an execution, with the answers that the object admits. -/
lemma Exec.induction {P : σ → List (ι × Event C R) → Prop} (h : Exec obj s log s')
    (start : P s.object [])
    (step : ∀ o log i c r, P o log → obj.admits o c r → P (obj.next o c r) (log ++ [(i, ⟨c, r⟩)])) :
    P s'.object log := by
  induction h with
  | refl => exact start
  | step _ hstep ih =>
    obtain ⟨r, -, hadmits⟩ := hstep
    exact step _ _ _ _ _ ih hadmits

end Interaction
