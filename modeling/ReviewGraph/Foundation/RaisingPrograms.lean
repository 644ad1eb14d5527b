import ReviewGraph.Foundation.Interaction

/-!
# Programs that interact and may raise

Programs with an environment that return a value or raise an exception, as `ExceptT ε (Prog C R)`. 
A run of a sequence is a run of its parts, or of the first part if that raises.  `OnlyCalls P p`
says that the program `p` makes only calls with the property `P`, whatever the environment answers;
it is closed under sequences, handlers and renamings of calls, and it holds of every exchange of a
run.  `Within P Q x` says the same of a program that may raise, and that it raises only exceptions
with the property `Q`. `MayReturn x a` and `MayCall P x` say what some answers make the program do.
-/

namespace Interaction

section

variable {C : Type} {R : C → Type} {ε α β : Type}

/-! ### Sequences -/

/-- A run of a sequence of programs that may raise. -/
lemma runs_run_bind_iff {x : ExceptT ε (Prog C R) α} {f : α → ExceptT ε (Prog C R) β}
    {tr : List (Event C R)} {r : Except ε β} : Runs (x >>= f).run tr r ↔
      (∃ e, Runs x.run tr (.error e) ∧ r = .error e) ∨
      ∃ tr₁ tr₂ a, tr = tr₁ ++ tr₂ ∧ Runs x.run tr₁ (.ok a) ∧ Runs (f a).run tr₂ r := by
  rw [ExceptT.run_bind, runs_bind_iff]
  constructor
  · rintro ⟨tr₁, tr₂, s, rfl, hx, hf⟩
    cases s with
    | error e =>
      obtain ⟨rfl, rfl⟩ := runs_pure_iff.1 hf
      exact .inl ⟨e, by simpa using hx, rfl⟩
    | ok a => exact .inr ⟨tr₁, tr₂, a, rfl, hx, hf⟩
  · rintro (⟨e, hx, rfl⟩ | ⟨tr₁, tr₂, a, rfl, hx, hf⟩)
    · exact ⟨tr, [], .error e, by simp, hx, runs_pure_iff.2 ⟨rfl, rfl⟩⟩
    · exact ⟨tr₁, tr₂, .ok a, rfl, hx, hf⟩

/-- A sequence that returns a value has run all its parts. -/
lemma runs_run_bind_ok_iff {x : ExceptT ε (Prog C R) α} {f : α → ExceptT ε (Prog C R) β}
    {tr : List (Event C R)} {b : β} : Runs (x >>= f).run tr (.ok b) ↔
      ∃ tr₁ tr₂ a, tr = tr₁ ++ tr₂ ∧ Runs x.run tr₁ (.ok a) ∧ Runs (f a).run tr₂ (.ok b) := by
  rw [runs_run_bind_iff]
  constructor
  · rintro (⟨e, -, herror⟩ | h)
    · contradiction
    · exact h
  · exact .inr

/-- A pure value calls nothing and raises nothing. -/
@[simp] lemma runs_run_pure_iff {a : α} {tr : List (Event C R)} {r : Except ε α} :
    Runs (pure a : ExceptT ε (Prog C R) α).run tr r ↔ tr = [] ∧ r = .ok a := by
  rw [ExceptT.run_pure, runs_pure_iff]

/-- An error is raised without a call. -/
@[simp] lemma runs_run_throw_iff {e : ε} {tr : List (Event C R)} {r : Except ε α} :
    Runs (throw e : ExceptT ε (Prog C R) α).run tr r ↔ tr = [] ∧ r = .error e := by
  rw [ExceptT.run_throw, runs_pure_iff]

/-- A lifted program raises nothing. -/
lemma runs_run_lift_iff {p : Prog C R α} {tr : List (Event C R)} {r : Except ε α} :
    Runs (ExceptT.lift p : ExceptT ε (Prog C R) α).run tr r ↔ ∃ a, Runs p tr a ∧ r = .ok a := by
  have hmap : (ExceptT.lift p : ExceptT ε (Prog C R) α).run = Except.ok <$> p := rfl
  rw [hmap, runs_map_iff]
  constructor
  · rintro ⟨a, hrun, rfl⟩
    exact ⟨a, hrun, rfl⟩
  · rintro ⟨a, hrun, rfl⟩
    exact ⟨a, hrun, rfl⟩

/-! ### Calls -/

/-- The program makes only calls with a property, whatever the answers are. -/
def OnlyCalls (P : C → Prop) : Prog C R α → Prop
  | .ret _ => True
  | .call c k => P c ∧ ∀ r, OnlyCalls P (k r)

/-- A sequence calls what its parts call. -/
lemma OnlyCalls.bind {P : C → Prop} {p : Prog C R α} {f : α → Prog C R β} (hp : OnlyCalls P p)
    (hf : ∀ a, OnlyCalls P (f a)) : OnlyCalls P (p >>= f) := by
  induction p with
  | ret a => exact hf a
  | call c k ih => exact ⟨hp.1, fun r => ih r (hp.2 r)⟩

/-- Every exchange of a run has the property. -/
lemma OnlyCalls.of_runs {P : C → Prop} {p : Prog C R α} {tr : List (Event C R)} {a : α}
    (hp : OnlyCalls P p) (h : Runs p tr a) : ∀ e ∈ tr, P e.1 := by
  induction h with
  | ret a => simp
  | call r _ ih =>
    rw [List.forall_mem_cons]
    exact ⟨hp.1, ih (hp.2 r)⟩

/-- A handled program makes only the calls of its handlers. -/
lemma OnlyCalls.handle {C' : Type} {R' : C' → Type} {P : C' → Prop} {Q : C → Prop} {p : Prog C R α}
    {h : (c : C) → Prog C' R' (R c)} (hp : OnlyCalls Q p) (hh : ∀ c, Q c → OnlyCalls P (h c)) :
    OnlyCalls P (p.handle h) := by
  induction p with
  | ret a => trivial
  | call c k ih => exact (hh c hp.1).bind fun r => ih r (hp.2 r)

/-- Nothing is known about the calls of a program without a property. -/
lemma onlyCalls_true (p : Prog C R α) : OnlyCalls (fun _ => True) p := by
  induction p with
  | ret a => trivial
  | call c k ih => exact ⟨trivial, ih⟩

/-- So does one that may raise. -/
lemma onlyCalls_run_bind {P : C → Prop} {x : ExceptT ε (Prog C R) α}
    {f : α → ExceptT ε (Prog C R) β}
    (hx : OnlyCalls P x.run) (hf : ∀ a, OnlyCalls P (f a).run) : OnlyCalls P (x >>= f).run := by
  rw [ExceptT.run_bind]
  refine hx.bind fun s => ?_
  cases s with
  | error e => trivial
  | ok a => exact hf a

/-! ### Calls and exceptions -/

/-- The program makes only calls and raises only exceptions with a property, whatever the answers
are. -/
structure Within (P : C → Prop) (Q : ε → Prop) (x : ExceptT ε (Prog C R) α) : Prop where
  onlyCalls : OnlyCalls P x.run
  raises : ∀ tr e, Runs x.run tr (.error e) → Q e

variable {P : C → Prop} {Q : ε → Prop}

/-- A pure value keeps within all limits. -/
lemma within_pure (a : α) : Within P Q (pure a : ExceptT ε (Prog C R) α) := by
  refine ⟨trivial, fun tr e h => ?_⟩
  obtain ⟨-, hresult⟩ := runs_run_pure_iff.1 h
  contradiction

/-- An error keeps within the limits that allow it. -/
lemma within_throw {e : ε} (h : Q e) : Within P Q (throw e : ExceptT ε (Prog C R) α) := by
  refine ⟨trivial, fun tr e' hrun => ?_⟩
  obtain ⟨-, hresult⟩ := runs_run_throw_iff.1 hrun
  rw [Except.error.inj hresult]
  exact h

/-- A program that cannot raise makes only its calls. -/
lemma within_lift {p : Prog C R α} (h : OnlyCalls P p) : Within P Q (ExceptT.lift p) := by
  constructor
  · change OnlyCalls P (Except.ok <$> p)
    rw [← bind_pure_comp]
    exact h.bind fun a => trivial
  · intro tr e hrun
    obtain ⟨a, -, hresult⟩ := runs_run_lift_iff.1 hrun
    contradiction

/-- A sequence keeps within the limits of its parts. -/
lemma Within.bind {x : ExceptT ε (Prog C R) α} {f : α → ExceptT ε (Prog C R) β} (hx : Within P Q x)
    (hf : ∀ a, Within P Q (f a)) : Within P Q (x >>= f) := by
  refine ⟨onlyCalls_run_bind hx.onlyCalls fun a => (hf a).onlyCalls, fun tr e h => ?_⟩
  rcases runs_run_bind_iff.1 h with ⟨e', hrun, heq⟩ | ⟨tr₁, tr₂, a, -, -, hrest⟩
  · rw [Except.error.inj heq]
    exact hx.raises tr e' hrun
  · exact (hf a).raises tr₂ e hrest

/-- A run of a sequence ends in its first part, or goes through it. -/
lemma Within.runs_bind {x : ExceptT ε (Prog C R) α} {f : α → ExceptT ε (Prog C R) β}
    {tr : List (Event C R)} {r : Except ε β} (hx : Within P Q x) (h : Runs (x >>= f).run tr r) :
    ((∀ e ∈ tr, P e.1) ∧ ∃ e, r = .error e ∧ Q e) ∨
      ∃ tr₁ tr₂ a, tr = tr₁ ++ tr₂ ∧ (∀ e ∈ tr₁, P e.1) ∧ Runs x.run tr₁ (.ok a) ∧
        Runs (f a).run tr₂ r := by
  rcases runs_run_bind_iff.1 h with ⟨e, hrun, rfl⟩ | ⟨tr₁, tr₂, a, rfl, hrun, hrest⟩
  · exact .inl ⟨hx.onlyCalls.of_runs hrun, e, rfl, hx.raises tr e hrun⟩
  · exact .inr ⟨tr₁, tr₂, a, rfl, hx.onlyCalls.of_runs hrun, hrun, hrest⟩

/-! ### Returns -/

/-- Some answers make the program return the value. -/
def MayReturn (x : ExceptT ε (Prog C R) α) (a : α) : Prop := ∃ tr, Runs x.run tr (.ok a)

/-- A pure value may be returned. -/
lemma mayReturn_pure (a : α) : MayReturn (pure a : ExceptT ε (Prog C R) α) a := ⟨[], .ret _⟩

/-- A call may return what its answer allows. -/
lemma mayReturn_call {c : C} {k : R c → Except ε α} (answer : R c) {a : α} (h : k answer = .ok a) :
    MayReturn (ExceptT.mk (.call c fun r => .ret (k r))) a := by
  refine ⟨[⟨c, answer⟩], .call answer ?_⟩
  rw [h]
  exact .ret _

/-- A sequence may return what its second part may. -/
lemma MayReturn.bind {x : ExceptT ε (Prog C R) α} {f : α → ExceptT ε (Prog C R) β} {a : α} {b : β}
    (hx : MayReturn x a) (hf : MayReturn (f a) b) : MayReturn (x >>= f) b := by
  obtain ⟨tr₁, h₁⟩ := hx
  obtain ⟨tr₂, h₂⟩ := hf
  exact ⟨tr₁ ++ tr₂, runs_run_bind_ok_iff.2 ⟨tr₁, tr₂, a, rfl, h₁, h₂⟩⟩

/-- Some answers make the program make a call with the property and return the value. -/
def MayCall (P : C → Prop) (x : ExceptT ε (Prog C R) α) (a : α) : Prop :=
  ∃ tr, Runs x.run tr (.ok a) ∧ ∃ e ∈ tr, P e.1

/-- The call is made behind the program. -/
lemma MayReturn.mayCall {P : C → Prop} {x : ExceptT ε (Prog C R) α} {f : α → ExceptT ε (Prog C R) β}
    {a : α} {b : β} (hx : MayReturn x a) (hf : MayCall P (f a) b) : MayCall P (x >>= f) b := by
  obtain ⟨tr₁, h₁⟩ := hx
  obtain ⟨tr₂, h₂, e, he, hP⟩ := hf
  exact ⟨tr₁ ++ tr₂, runs_run_bind_ok_iff.2 ⟨tr₁, tr₂, a, rfl, h₁, h₂⟩, e,
    List.mem_append_right _ he, hP⟩

/-- The call is made in the program. -/
lemma MayCall.bind {P : C → Prop} {x : ExceptT ε (Prog C R) α} {f : α → ExceptT ε (Prog C R) β}
    {a : α} {b : β} (hx : MayCall P x a) (hf : MayReturn (f a) b) : MayCall P (x >>= f) b := by
  obtain ⟨tr₁, h₁, e, he, hP⟩ := hx
  obtain ⟨tr₂, h₂⟩ := hf
  exact ⟨tr₁ ++ tr₂, runs_run_bind_ok_iff.2 ⟨tr₁, tr₂, a, rfl, h₁, h₂⟩, e,
    List.mem_append_left _ he, hP⟩

end

end Interaction
