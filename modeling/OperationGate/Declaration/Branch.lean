import OperationGate.Catalogue.Basic

/-!
# Branches

Selections with every spread replaced by the fragment it names: fields under their keys, and parts
that count only for values of some type. A fragment is not taken in inside itself, so the result is
finite; for fragments without cycles nothing is lost.

`entries` gathers the fields that count, those with one key into one entry.
-/

namespace OperationGate

/-- A field under its key, or a part under a condition. -/
inductive Branch where
  | field (key name : String) (inside : List Branch)
  | within (condition : Option String) (inside : List Branch)
  deriving Repr, Inhabited

namespace Branch

/-- The branch of a selection. Fragments are taken in as long as they remain, and remain no longer
inside themselves. -/
def ofSelection (fragments : Table Fragment) (remaining : List String) (s : Selection) :
    List Branch :=
  match s with
  | .field aliasName name selections =>
    [.field (aliasName.getD name) name (selections.attach.flatMap fun ⟨x, _⟩ =>
      ofSelection fragments remaining x)]
  | .inline condition selections =>
    [.within condition (selections.attach.flatMap fun ⟨x, _⟩ => ofSelection fragments remaining x)]
  | .spread name =>
    if name ∈ remaining then
      match fragments.get? name with
      | some f =>
        [.within (some f.condition) (f.selections.flatMap fun x =>
          ofSelection fragments (remaining.erase name) x)]
      | none => []
    else []
termination_by (remaining.length, sizeOf s)
decreasing_by
  · next h =>
    have := List.sizeOf_lt_of_mem h
    exact Prod.Lex.right _ (by simp; omega)
  · next h =>
    have := List.sizeOf_lt_of_mem h
    exact Prod.Lex.right _ (by simp; omega)
  · next h =>
    have := List.length_pos_of_mem h
    rw [List.length_erase_of_mem h]
    exact Prod.Lex.left _ _ (by omega)

/-- The branches of several selections, with all fragments at hand. -/
def ofSelections (fragments : Table Fragment) (selections : List Selection) : List Branch :=
  selections.flatMap (ofSelection fragments fragments.keys)

mutual

/-- The number of fields and parts of a branch. -/
def weight : Branch → Nat
  | .field _ _ inside => 1 + totalWeight inside
  | .within _ inside => 1 + totalWeight inside

/-- The number of fields and parts of several branches. -/
def totalWeight : List Branch → Nat
  | [] => 0
  | b :: rest => b.weight + totalWeight rest

end

/-- A field with the branches inside it. -/
structure Entry where
  key : String
  name : String
  inside : List Branch
  deriving Inhabited

mutual

/-- The fields of a branch that count, where `counts` tells which conditions hold. -/
def fields (counts : String → Bool) : Branch → List Entry
  | .field key name inside => [⟨key, name, inside⟩]
  | .within none inside => allFields counts inside
  | .within (some condition) inside => if counts condition then allFields counts inside else []

/-- The fields of several branches that count. -/
def allFields (counts : String → Bool) : List Branch → List Entry
  | [] => []
  | b :: rest => fields counts b ++ allFields counts rest

end

/-- Adds a field to entries: the first field of a key stands for all, and what is inside them is
joined. -/
def addEntry (e : Entry) : List Entry → List Entry
  | [] => [e]
  | d :: rest =>
    if d.key = e.key then { d with inside := d.inside ++ e.inside } :: rest
    else d :: addEntry e rest

/-- The fields that count, one entry for each key, in the order in which the keys are first met. -/
def entries (counts : String → Bool) (bs : List Branch) : List Entry :=
  (allFields counts bs).foldl (fun es e => addEntry e es) []

/-- The number of fields and parts inside entries, each entry itself counted. -/
def entriesWeight : List Entry → Nat
  | [] => 0
  | e :: es => 1 + totalWeight e.inside + entriesWeight es

theorem totalWeight_append (as bs : List Branch) :
    totalWeight (as ++ bs) = totalWeight as + totalWeight bs := by
  induction as with
  | nil => simp [totalWeight]
  | cons a rest ih => simp only [List.cons_append, totalWeight, ih, Nat.add_assoc]

theorem entriesWeight_append (ds es : List Entry) :
    entriesWeight (ds ++ es) = entriesWeight ds + entriesWeight es := by
  induction ds with
  | nil => simp [entriesWeight]
  | cons d rest ih => simp only [List.cons_append, entriesWeight, ih, Nat.add_assoc]

mutual

theorem entriesWeight_fields_le (counts : String → Bool) (b : Branch) :
    entriesWeight (fields counts b) ≤ b.weight := by
  cases b with
  | field key name inside => simp [fields, entriesWeight, weight]
  | within condition inside =>
    have := entriesWeight_allFields_le counts inside
    cases condition with
    | none => simp only [fields, weight]; omega
    | some c =>
      simp only [fields, weight]
      split
      · omega
      · simp [entriesWeight]

theorem entriesWeight_allFields_le (counts : String → Bool) (bs : List Branch) :
    entriesWeight (allFields counts bs) ≤ totalWeight bs := by
  cases bs with
  | nil => simp [allFields, entriesWeight, totalWeight]
  | cons b rest =>
    have h := entriesWeight_fields_le counts b
    have h' := entriesWeight_allFields_le counts rest
    simp only [allFields, totalWeight, entriesWeight_append]
    omega

end

theorem entriesWeight_addEntry_le (e : Entry) (es : List Entry) :
    entriesWeight (addEntry e es) ≤ entriesWeight es + (1 + totalWeight e.inside) := by
  induction es with
  | nil => simp [addEntry, entriesWeight]
  | cons d rest ih =>
    rw [addEntry]
    split
    · simp only [entriesWeight, totalWeight_append]
      omega
    · simp only [entriesWeight]
      omega

theorem entriesWeight_foldl_le (fs es : List Entry) :
    entriesWeight (fs.foldl (fun es e => addEntry e es) es) ≤
    entriesWeight es + entriesWeight fs := by
  induction fs generalizing es with
  | nil => simp [entriesWeight]
  | cons f rest ih =>
    have h := ih (addEntry f es)
    have h' := entriesWeight_addEntry_le f es
    simp only [entriesWeight, List.foldl_cons] at h h' ⊢
    omega

theorem le_entriesWeight {e : Entry} {es : List Entry} (h : e ∈ es) :
    1 + totalWeight e.inside ≤ entriesWeight es := by
  induction es with
  | nil => exact absurd h List.not_mem_nil
  | cons d rest ih =>
    simp only [entriesWeight]
    rcases List.mem_cons.1 h with rfl | h
    · omega
    · have := ih h
      omega

/-- What is inside an entry is less than what the entry was gathered from. -/
theorem totalWeight_inside_lt {counts : String → Bool} {bs : List Branch} {e : Entry}
    (h : e ∈ entries counts bs) : totalWeight e.inside < totalWeight bs := by
  have hs := le_entriesWeight h
  have hf := entriesWeight_foldl_le (allFields counts bs) []
  have ha := entriesWeight_allFields_le counts bs
  have h₀ : entriesWeight [] = 0 := rfl
  rw [h₀] at hf
  simp only [entries] at hs
  omega

end Branch

end OperationGate
