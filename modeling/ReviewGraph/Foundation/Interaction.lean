import Mathlib

/-!
# Programs that interact with an environment

A value of `Prog C R α` is a finite-depth program which may issue calls `c : C` to an environment,
receives an answer of type `R c` for each, and finally returns a value of type `α`.  Nothing is
assumed about the environment: `Runs p tr a` says that the program `p` returns `a` when the calls it
issued and the answers it got are, in order, the trace `tr`.  A statement about all runs of `p` is
therefore a statement about every environment, stateful or not, honest or not.

`runs_bind_iff` is the composition rule of the relation and `exists_run` its totality: whatever
strategy answers the calls, the program returns.  `Prog.replay` executes a program against a
prepared list of answers, so that concrete runs can be evaluated.
-/

namespace Interaction

/-- A program with calls `c : C` answered by `R c` and a result in `α`. -/
inductive Prog (C : Type) (R : C → Type) (α : Type) : Type
  | ret (a : α)
  | call (c : C) (k : R c → Prog C R α)

variable {C : Type} {R : C → Type} {α β γ : Type}

namespace Prog

/-- Sequencing: run the program, then the continuation on its result. -/
def bind : Prog C R α → (α → Prog C R β) → Prog C R β
  | .ret a, f => f a
  | .call c k, f => .call c fun r => (k r).bind f

instance : Monad (Prog C R) where
  pure := .ret
  bind := Prog.bind

/-- Issue one call and return its answer. -/
def perform (c : C) : Prog C R (R c) := .call c .ret

/-- A program behind a returned value gets the value. -/
@[simp] lemma ret_bind (a : α) (f : α → Prog C R β) : (Prog.ret a >>= f) = f a := rfl

/-- A program behind a call comes behind the answer. -/
@[simp] lemma call_bind (c : C) (k : R c → Prog C R α) (f : α → Prog C R β) :
    (Prog.call c k >>= f) = .call c fun r => k r >>= f := rfl

/-- A pure value is returned. -/
@[simp] lemma pure_eq_ret (a : α) : (pure a : Prog C R α) = .ret a := rfl

/-- Returning the result unchanged is the identity of sequencing. -/
lemma bind_ret_eq (p : Prog C R α) : (p >>= .ret) = p := by
  induction p with
  | ret a => rfl
  | call c k ih =>
    rw [call_bind]
    exact congrArg _ (funext ih)

/-- Sequencing is associative. -/
lemma bind_assoc_eq (p : Prog C R α) (f : α → Prog C R β) (g : β → Prog C R γ) :
    (p >>= f >>= g) = (p >>= fun a => f a >>= g) := by
  induction p with
  | ret a => rfl
  | call c k ih =>
    simp only [call_bind]
    exact congrArg _ (funext ih)

instance : LawfulMonad (Prog C R) :=
  LawfulMonad.mk' (Prog C R) bind_ret_eq (fun _ _ => rfl) bind_assoc_eq

end Prog

/-- One exchange with the environment: a call together with its answer. -/
abbrev Event (C : Type) (R : C → Type) : Type := (c : C) × R c

/-- `Runs p tr a`: the program `p` returns `a` after exactly the exchanges `tr`. -/
inductive Runs : Prog C R α → List (Event C R) → α → Prop
  | ret (a : α) : Runs (.ret a) [] a
  | call {c : C} {k : R c → Prog C R α} (r : R c) {tr : List (Event C R)} {a : α}
      (h : Runs (k r) tr a) : Runs (.call c k) (⟨c, r⟩ :: tr) a

/-- A returned value calls nothing. -/
@[simp] lemma runs_ret_iff {a b : α} {tr : List (Event C R)} :
    Runs (.ret a) tr b ↔ tr = [] ∧ b = a := by
  constructor
  · rintro ⟨⟩
    exact ⟨rfl, rfl⟩
  · rintro ⟨rfl, rfl⟩
    exact .ret _

/-- A pure value calls nothing. -/
@[simp] lemma runs_pure_iff {a b : α} {tr : List (Event C R)} :
    Runs (pure a : Prog C R α) tr b ↔ tr = [] ∧ b = a := runs_ret_iff

/-- A run of a call starts with the exchange for that call. -/
lemma runs_call_iff {c : C} {k : R c → Prog C R α} {tr : List (Event C R)} {a : α} :
    Runs (.call c k) tr a ↔ ∃ r tr', tr = ⟨c, r⟩ :: tr' ∧ Runs (k r) tr' a := by
  constructor
  · rintro (_ | ⟨r, h⟩)
    exact ⟨r, _, rfl, h⟩
  · rintro ⟨r, tr', rfl, h⟩
    exact .call r h

/-- A run of a call continues with the answer of its first exchange. -/
@[simp] lemma runs_call_cons_iff {c : C} {r : R c} {k : R c → Prog C R α}
    {tr : List (Event C R)} {a : α} : Runs (.call c k) (⟨c, r⟩ :: tr) a ↔ Runs (k r) tr a := by
  rw [runs_call_iff]
  constructor
  · rintro ⟨r', tr', heq, h⟩
    obtain ⟨hevent, rfl⟩ := List.cons.inj heq
    obtain rfl : r = r' := eq_of_heq (Sigma.mk.inj hevent).2
    exact h
  · intro h
    exact ⟨r, tr, rfl, h⟩

/-- A single call is the only exchange of its run. -/
@[simp] lemma runs_perform_iff {c : C} {tr : List (Event C R)} {r : R c} :
    Runs (Prog.perform c) tr r ↔ tr = [⟨c, r⟩] := by
  unfold Prog.perform
  rw [runs_call_iff]
  simp only [runs_ret_iff]
  constructor
  · rintro ⟨r', tr', rfl, rfl, rfl⟩
    rfl
  · rintro rfl
    exact ⟨r, [], rfl, rfl, rfl⟩

/-- The composition rule: a run of a sequenced program is a run of its first part followed by a
run of the continuation. -/
lemma runs_bind_iff {p : Prog C R α} {f : α → Prog C R β} {tr : List (Event C R)} {b : β} :
    Runs (p >>= f) tr b ↔ ∃ tr₁ tr₂ a, tr = tr₁ ++ tr₂ ∧ Runs p tr₁ a ∧ Runs (f a) tr₂ b := by
  induction p generalizing tr with
  | ret a => simp
  | call c k ih =>
    rw [Prog.call_bind, runs_call_iff]
    constructor
    · rintro ⟨r, tr', rfl, h⟩
      obtain ⟨tr₁, tr₂, a, rfl, h₁, h₂⟩ := (ih r).1 h
      exact ⟨⟨c, r⟩ :: tr₁, tr₂, a, rfl, .call r h₁, h₂⟩
    · rintro ⟨tr₁, tr₂, a, rfl, h₁, h₂⟩
      obtain ⟨r, tr', rfl, h₁'⟩ := runs_call_iff.1 h₁
      exact ⟨r, tr' ++ tr₂, rfl, (ih r).2 ⟨tr', tr₂, a, rfl, h₁', h₂⟩⟩

/-- Mapping over the result leaves the exchanges alone. -/
lemma runs_map_iff {p : Prog C R α} {f : α → β} {tr : List (Event C R)} {b : β} :
    Runs (f <$> p) tr b ↔ ∃ a, Runs p tr a ∧ f a = b := by
  rw [← bind_pure_comp, runs_bind_iff]
  constructor
  · rintro ⟨tr₁, tr₂, a, rfl, h₁, h₂⟩
    obtain ⟨rfl, rfl⟩ := runs_pure_iff.1 h₂
    exact ⟨a, by simpa using h₁, rfl⟩
  · rintro ⟨a, h, rfl⟩
    exact ⟨tr, [], a, by simp, h, runs_pure_iff.2 ⟨rfl, rfl⟩⟩

/-- A program that issues no call returns exactly its value. -/
lemma Runs.det {p : Prog C R α} {tr : List (Event C R)} {a b : α}
    (ha : Runs p tr a) (hb : Runs p tr b) : a = b := by
  induction ha with
  | ret a => exact (runs_ret_iff.1 hb).2.symm
  | call r _ ih =>
    obtain ⟨r', tr', htr, hb⟩ := runs_call_iff.1 hb
    obtain ⟨h, rfl⟩ := List.cons.inj htr
    obtain rfl : r = r' := eq_of_heq (Sigma.mk.inj h).2
    exact ih hb

/-- Totality: whatever strategy answers the calls, possibly looking at all earlier exchanges, the
program returns. -/
theorem exists_run (strategy : List (Event C R) → (c : C) → R c) (p : Prog C R α) :
    ∃ tr a, Runs p tr a ∧
      ∀ pre e post, tr = pre ++ e :: post → e.2 = strategy pre e.1 := by
  suffices H : ∀ past, ∃ tr a, Runs p tr a ∧
      ∀ pre e post, tr = pre ++ e :: post → e.2 = strategy (past ++ pre) e.1 from H []
  induction p with
  | ret a => exact fun past => ⟨[], a, .ret a, by simp⟩
  | call c k ih =>
    intro past
    obtain ⟨tr, a, h, hs⟩ := ih (strategy past c) (past ++ [⟨c, strategy past c⟩])
    refine ⟨⟨c, strategy past c⟩ :: tr, a, .call _ h, ?_⟩
    intro pre e post heq
    cases pre with
    | nil =>
      obtain ⟨rfl, -⟩ := List.cons.inj heq
      simp
    | cons d pre =>
      obtain ⟨rfl, htr⟩ := List.cons.inj heq
      simpa using hs pre e post htr

/-! ### Interrupted runs -/

/-- `After p tr q`: after the exchanges `tr` the program `p` continues as `q`. -/
inductive After : Prog C R α → List (Event C R) → Prog C R α → Prop
  | refl (p : Prog C R α) : After p [] p
  | call {c : C} {k : R c → Prog C R α} (r : R c) {tr : List (Event C R)} {q : Prog C R α}
      (h : After (k r) tr q) : After (.call c k) (⟨c, r⟩ :: tr) q

/-- A program that waits for an answer continues with it. -/
lemma After.answer {p : Prog C R α} {tr : List (Event C R)} {c : C} {k : R c → Prog C R α}
    (h : After p tr (.call c k)) (r : R c) : After p (tr ++ [⟨c, r⟩]) (k r) := by
  generalize hq : Prog.call c k = q at h
  induction h with
  | refl p =>
    subst hq
    exact .call r (.refl _)
  | call r' _ ih => exact .call r' (ih hq)

/-- An interrupted run is completed by a run of what remains. -/
lemma After.runs {p q : Prog C R α} {tr tr' : List (Event C R)} {a : α} (h : After p tr q)
    (hq : Runs q tr' a) : Runs p (tr ++ tr') a := by
  induction h with
  | refl p => exact hq
  | call r _ ih => exact .call r (ih hq)

/-! ### Handlers -/

section Handler

variable {C' : Type} {R' : C' → Type}

/-- Answer every call of a program by running a handler, which may issue calls of its own. -/
def Prog.handle (h : (c : C) → Prog C' R' (R c)) : Prog C R α → Prog C' R' α
  | .ret a => .ret a
  | .call c k => h c >>= fun r => (k r).handle h

/-- `Served h tr tr'`: the exchanges `tr` are served by the handler `h` through its own exchanges
`tr'`, in order. -/
inductive Served (h : (c : C) → Prog C' R' (R c)) :
    List (Event C R) → List (Event C' R') → Prop
  | nil : Served h [] []
  | cons {c : C} {r : R c} {tr : List (Event C R)} {tr₁ tr₂ : List (Event C' R')}
      (h₁ : Runs (h c) tr₁ r) (h₂ : Served h tr tr₂) : Served h (⟨c, r⟩ :: tr) (tr₁ ++ tr₂)

/-- A handled program runs exactly as the program does on exchanges that the handler serves. -/
lemma runs_handle_iff {h : (c : C) → Prog C' R' (R c)} {p : Prog C R α}
    {tr' : List (Event C' R')} {a : α} :
    Runs (p.handle h) tr' a ↔ ∃ tr, Runs p tr a ∧ Served h tr tr' := by
  induction p generalizing tr' with
  | ret b =>
    rw [Prog.handle, runs_ret_iff]
    constructor
    · rintro ⟨rfl, rfl⟩
      exact ⟨[], .ret _, .nil⟩
    · rintro ⟨tr, hrun, hserved⟩
      obtain ⟨rfl, rfl⟩ := runs_ret_iff.1 hrun
      cases hserved
      exact ⟨rfl, rfl⟩
  | call c k ih =>
    rw [Prog.handle, runs_bind_iff]
    constructor
    · rintro ⟨tr₁, tr₂, r, rfl, h₁, h₂⟩
      obtain ⟨tr, hrun, hserved⟩ := (ih r).1 h₂
      exact ⟨⟨c, r⟩ :: tr, .call r hrun, .cons h₁ hserved⟩
    · rintro ⟨tr, hrun, hserved⟩
      obtain ⟨r, tr, rfl, hrest⟩ := runs_call_iff.1 hrun
      cases hserved with
      | cons h₁ h₂ => exact ⟨_, _, r, rfl, h₁, (ih r).2 ⟨tr, hrest, h₂⟩⟩

/-- The same program with its calls renamed. -/
def Prog.embed (g : C → C') : Prog C (fun c => R' (g c)) α → Prog C' R' α
  | .ret a => .ret a
  | .call c k => .call (g c) fun r => (k r).embed g

/-- A renamed program makes the renamed exchanges. -/
lemma runs_embed_iff {g : C → C'} {p : Prog C (fun c => R' (g c)) α} {tr' : List (Event C' R')}
    {a : α} : Runs (p.embed g) tr' a ↔
      ∃ tr : List (Event C fun c => R' (g c)), Runs p tr a ∧ tr' = tr.map fun e =>
        ⟨g e.1, e.2⟩ := by
  induction p generalizing tr' with
  | ret b =>
    rw [Prog.embed, runs_ret_iff]
    constructor
    · rintro ⟨rfl, rfl⟩
      exact ⟨[], .ret _, rfl⟩
    · rintro ⟨tr, hrun, rfl⟩
      obtain ⟨rfl, rfl⟩ := runs_ret_iff.1 hrun
      exact ⟨rfl, rfl⟩
  | call c k ih =>
    rw [Prog.embed, runs_call_iff]
    constructor
    · rintro ⟨r, tr', rfl, hrest⟩
      obtain ⟨tr, hrun, rfl⟩ := (ih r).1 hrest
      exact ⟨⟨c, r⟩ :: tr, Runs.call (R := fun c => R' (g c)) r hrun, rfl⟩
    · rintro ⟨tr, hrun, rfl⟩
      obtain ⟨r, tr, rfl, hrest⟩ := runs_call_iff.1 hrun
      exact ⟨r, _, rfl, (ih r).2 ⟨tr, hrest, rfl⟩⟩

end Handler

/-! ### Programs without an environment -/

/-- The value of a program whose calls are answered by a fixed function. -/
def Prog.answer (f : (c : C) → R c) : Prog C R α → α
  | .ret a => a
  | .call c k => (k (f c)).answer f

/-- A program answered by a fixed function has a run to the computed value. -/
lemma runs_answer (f : (c : C) → R c) (p : Prog C R α) : ∃ tr, Runs p tr (p.answer f) := by
  induction p with
  | ret a => exact ⟨[], .ret a⟩
  | call c k ih =>
    obtain ⟨tr, h⟩ := ih (f c)
    exact ⟨⟨c, f c⟩ :: tr, .call _ h⟩

/-- An interrupted run can be completed. -/
lemma After.exists_runs {p q : Prog C R α} {tr : List (Event C R)} (h : After p tr q)
    (f : (c : C) → R c) : ∃ tr' a, Runs p (tr ++ tr') a := by
  obtain ⟨tr', hq⟩ := runs_answer f q
  exact ⟨tr', _, h.runs hq⟩

/-- Execute a program against a prepared list of answers; `none` when an answer does not belong to
the call issued, or when the answers run out. -/
def Prog.replay [DecidableEq C] : Prog C R α → List (Event C R) → Option (α × List (Event C R))
  | .ret a, rest => some (a, rest)
  | .call _ _, [] => none
  | .call c k, ⟨c', r⟩ :: rest => if h : c' = c then (k (h ▸ r)).replay rest else none

/-- A successful replay that uses up its answers is a run. -/
lemma runs_of_replay [DecidableEq C] {p : Prog C R α} {tr : List (Event C R)} {a : α}
    (h : p.replay tr = some (a, [])) : Runs p tr a := by
  induction p generalizing tr with
  | ret b =>
    obtain ⟨rfl, rfl⟩ := Prod.mk.inj (Option.some.inj h)
    exact .ret b
  | call c k ih =>
    cases tr with
    | nil => simp [Prog.replay] at h
    | cons e tr =>
      obtain ⟨c', r⟩ := e
      by_cases hc : c' = c
      · subst hc
        simp only [Prog.replay, dif_pos] at h
        exact .call r (ih r h)
      · simp [Prog.replay, hc] at h

end Interaction
