import ReviewGraph.Foundation.Text

/-!
# JSON values and their canonical encoding

`Json` is the type of decoded JSON values; an object is the list of its fields in insertion order.
`dumps` is the compact encoding with sorted keys and without escapes for characters outside ASCII.
-/

/-- A decoded JSON value.  A number with a fraction or an exponent is kept as it is written, and is
encoded so again; `json.dumps` writes the shortest text for the nearest double instead. -/
inductive Json
  | null
  | bool (b : Bool)
  | int (n : ℤ)
  | float (lexeme : Text)
  | str (s : Text)
  | arr (items : List Json)
  | obj (fields : List (Text × Json))
  deriving Inhabited

namespace Json

/-! ## Objects -/

/-- The value of the first field with the given key. -/
def lookup (fields : List (Text × Json)) (key : Text) : Option Json :=
  (fields.find? fun f => f.1 == key).map Prod.snd

/-- Insert a field by its key into fields that are sorted by their keys. -/
def insertField {α : Type} (f : Text × α) : List (Text × α) → List (Text × α)
  | [] => [f]
  | g :: gs => if f.1 ≤ g.1 then f :: g :: gs else g :: insertField f gs

/-- Sort fields by their keys. -/
def sortFields {α : Type} : List (Text × α) → List (Text × α)
  | [] => []
  | f :: fs => insertField f (sortFields fs)

/-- An inserted field is added. -/
lemma insertField_perm {α : Type} (f : Text × α) (fs : List (Text × α)) :
    (insertField f fs).Perm (f :: fs) := by
  induction fs with
  | nil => exact List.Perm.refl _
  | cons g gs ih =>
    unfold insertField
    split
    · exact List.Perm.refl _
    · exact (ih.cons g).trans (List.Perm.swap f g gs)

/-- Sorting fields only permutes them. -/
lemma sortFields_perm {α : Type} (fs : List (Text × α)) : (sortFields fs).Perm fs := by
  induction fs with
  | nil => exact List.Perm.refl _
  | cons f fs ih => exact (insertField_perm f _).trans (ih.cons f)

/-- Sorting by keys commutes with a change of the values. -/
lemma sortFields_map {α β : Type} (g : α → β) (fs : List (Text × α)) :
    sortFields (fs.map fun f => (f.1, g f.2)) = (sortFields fs).map fun f => (f.1, g f.2) := by
  have hins : ∀ (f : Text × α) (gs : List (Text × α)),
      insertField (f.1, g f.2) (gs.map fun f => (f.1, g f.2)) =
        (insertField f gs).map fun f => (f.1, g f.2) := by
    intro f gs
    induction gs with
    | nil => rfl
    | cons h hs ih =>
      simp only [List.map_cons, insertField]
      split
      · rfl
      · rw [ih, List.map_cons]
  induction fs with
  | nil => rfl
  | cons f fs ih => rw [List.map_cons, sortFields, ih, hins, sortFields]

/-- Fields in ascending order of their keys are already sorted. -/
lemma sortFields_of_pairwise {α : Type} {fs : List (Text × α)}
    (h : fs.Pairwise fun f g => f.1 ≤ g.1) : sortFields fs = fs := by
  induction h with
  | nil => rfl
  | @cons f fs hf _ ih =>
    rw [sortFields, ih]
    cases fs with
    | nil => rfl
    | cons g gs => rw [insertField, if_pos (hf g List.mem_cons_self)]

/-! ## Encoding -/

/-- The lowercase hexadecimal digits of a code point below 32. -/
def controlHex (n : ℕ) : Text :=
  [if n < 16 then '0' else '1', Nat.digitChar (n % 16)]

/-- The escape of a character in a string. -/
def escapeChar (c : Char) : Text :=
  match c with
  | '"' => ['\\', '"']
  | '\\' => ['\\', '\\']
  | '\n' => ['\\', 'n']
  | '\r' => ['\\', 'r']
  | '\t' => ['\\', 't']
  | '\x08' => ['\\', 'b']
  | '\x0c' => ['\\', 'f']
  | c => if c.toNat < 32 then '\\' :: 'u' :: '0' :: '0' :: controlHex c.toNat else [c]

/-- A string literal. -/
def quote (s : Text) : Text := '"' :: s.flatMap escapeChar ++ ['"']

/-- Entries separated by commas. -/
def commaSeparated : List Text → Text
  | [] => []
  | [e] => e
  | e :: es => e ++ ',' :: commaSeparated es

/-- An encoded field. -/
def encodeField (f : Text × Text) : Text := quote f.1 ++ ':' :: f.2

mutual

/-- `json.dumps(data, sort_keys=True, separators=(",", ":"), ensure_ascii=False)`. -/
def dumps : Json → Text
  | .null => ['n', 'u', 'l', 'l']
  | .bool true => ['t', 'r', 'u', 'e']
  | .bool false => ['f', 'a', 'l', 's', 'e']
  | .int n => Text.ofInt n
  | .float lexeme => lexeme
  | .str s => quote s
  | .arr items => '[' :: commaSeparated (dumpsItems items) ++ ['\x5d']
  | .obj fields => '\x7b' :: commaSeparated ((sortFields (dumpsFields fields)).map encodeField) ++
      ['\x7d']

/-- The encodings of the items of an array. -/
def dumpsItems : List Json → List Text
  | [] => []
  | j :: js => dumps j :: dumpsItems js

/-- The keys of the fields of an object with their encoded values. -/
def dumpsFields : List (Text × Json) → List (Text × Text)
  | [] => []
  | (k, j) :: fs => (k, dumps j) :: dumpsFields fs

end

/-- The items are encoded one by one. -/
@[simp] lemma dumpsItems_eq_map (js : List Json) : dumpsItems js = js.map dumps := by
  induction js with
  | nil => rfl
  | cons j js ih => rw [dumpsItems, ih, List.map_cons]

/-- The fields are encoded one by one. -/
@[simp] lemma dumpsFields_eq_map (fs : List (Text × Json)) :
    dumpsFields fs = fs.map fun f => (f.1, dumps f.2) := by
  induction fs with
  | nil => rfl
  | cons f fs ih => rw [dumpsFields, ih, List.map_cons]

mutual

/-- The value with the fields of every object sorted by their keys. -/
def canonical : Json → Json
  | .arr items => .arr (canonicalItems items)
  | .obj fields => .obj (sortFields (canonicalFields fields))
  | j => j

/-- The canonical values of the items of an array. -/
def canonicalItems : List Json → List Json
  | [] => []
  | j :: js => canonical j :: canonicalItems js

/-- The fields of an object with canonical values. -/
def canonicalFields : List (Text × Json) → List (Text × Json)
  | [] => []
  | (k, j) :: fs => (k, canonical j) :: canonicalFields fs

end

/-- The items are sorted one by one. -/
@[simp] lemma canonicalItems_eq_map (js : List Json) : canonicalItems js = js.map canonical := by
  induction js with
  | nil => rfl
  | cons j js ih => rw [canonicalItems, ih, List.map_cons]

/-- The fields are sorted one by one. -/
@[simp] lemma canonicalFields_eq_map (fs : List (Text × Json)) :
    canonicalFields fs = fs.map fun f => (f.1, canonical f.2) := by
  induction fs with
  | nil => rfl
  | cons f fs ih => rw [canonicalFields, ih, List.map_cons]

/-- Induction on values, through the items of arrays and the fields of objects. -/
@[elab_as_elim]
theorem induction {motive : Json → Prop} (null : motive .null) (bool : ∀ b, motive (.bool b))
    (int : ∀ n, motive (.int n)) (float : ∀ l, motive (.float l)) (str : ∀ s, motive (.str s))
    (arr : ∀ items, (∀ j ∈ items, motive j) → motive (.arr items))
    (obj : ∀ fields, (∀ f ∈ fields, motive f.2) → motive (.obj fields)) (j : Json) : motive j :=
  Json.rec (motive_1 := motive) (motive_2 := fun items => ∀ j ∈ items, motive j)
    (motive_3 := fun fields => ∀ f ∈ fields, motive f.2) (motive_4 := fun f => motive f.2)
    null bool int float str (fun items ih => arr items ih) (fun fields ih => obj fields ih)
    (by simp) (fun _ _ hj hjs => List.forall_mem_cons.2 ⟨hj, hjs⟩)
    (by simp) (fun _ _ hf hfs => List.forall_mem_cons.2 ⟨hf, hfs⟩) (fun _ _ h => h) j

/-! ## Equality -/

mutual

/-- Whether two values are the same. -/
def same : Json → Json → Bool
  | .null, .null => true
  | .bool a, .bool b => a = b
  | .int a, .int b => a = b
  | .float a, .float b => a = b
  | .str a, .str b => a = b
  | .arr a, .arr b => sameItems a b
  | .obj a, .obj b => sameFields a b
  | _, _ => false

/-- Whether the items of two arrays are the same. -/
def sameItems : List Json → List Json → Bool
  | [], [] => true
  | a :: as, b :: bs => same a b && sameItems as bs
  | _, _ => false

/-- Whether the fields of two objects are the same. -/
def sameFields : List (Text × Json) → List (Text × Json) → Bool
  | [], [] => true
  | (k, a) :: as, (l, b) :: bs => k = l && same a b && sameFields as bs
  | _, _ => false

end

/-- The comparison of items decides equality if that of their values does. -/
lemma sameItems_iff {as bs : List Json} (h : ∀ a ∈ as, ∀ b, same a b = true ↔ a = b) :
    sameItems as bs = true ↔ as = bs := by
  induction as generalizing bs with
  | nil => cases bs <;> simp [sameItems]
  | cons a as ih =>
    cases bs with
    | nil => simp [sameItems]
    | cons b bs =>
      rw [sameItems, Bool.and_eq_true, h a List.mem_cons_self,
        ih fun c hc => h c (List.mem_cons_of_mem _ hc), List.cons.injEq]

/-- The comparison of fields decides equality if that of their values does. -/
lemma sameFields_iff {as bs : List (Text × Json)}
    (h : ∀ f ∈ as, ∀ b, same f.2 b = true ↔ f.2 = b) : sameFields as bs = true ↔ as = bs := by
  induction as generalizing bs with
  | nil => cases bs <;> simp [sameFields]
  | cons f as ih =>
    cases bs with
    | nil => simp [sameFields]
    | cons g bs =>
      rw [sameFields, Bool.and_eq_true, Bool.and_eq_true, h f List.mem_cons_self,
        ih fun c hc => h c (List.mem_cons_of_mem _ hc), List.cons.injEq, Prod.ext_iff,
        decide_eq_true_iff]

/-- The comparison decides equality. -/
lemma same_iff (a b : Json) : same a b = true ↔ a = b := by
  induction a using Json.induction generalizing b with
  | null | bool | int | float | str => cases b <;> simp [same]
  | arr items ih =>
    cases b with
    | arr items' => simp [same, sameItems_iff ih]
    | _ => simp [same]
  | obj fields ih =>
    cases b with
    | obj fields' => simp [same, sameFields_iff ih]
    | _ => simp [same]

instance : DecidableEq Json := fun a b => decidable_of_iff _ (same_iff a b)

end Json
