/-!
# Tables

A table maps texts to values. Its entries stand in strictly ascending order of their keys, so two
tables with the same entries are equal, and whatever is listed from a table comes out sorted. Main
statements: `get?_insert` and `get?_empty` say what a look-up finds.
-/

namespace OperationGate

/-- A finite map from texts to values, listed in ascending order of the keys. -/
structure Table (α : Type) where
  /-- Keys with their values. -/
  entries : List (String × α)
  /-- The keys ascend strictly. -/
  ascending : entries.Pairwise fun a b => a.1 < b.1 := by simp

namespace Table

variable {α β : Type}

/-- Puts a value under a key into a list of entries that ascends, replacing the key's old value. -/
def insertEntry (k : String) (v : α) : List (String × α) → List (String × α)
  | [] => [(k, v)]
  | e :: rest =>
    if k < e.1 then (k, v) :: e :: rest
    else if k = e.1 then (k, v) :: rest
    else e :: insertEntry k v rest

/-- Two texts that are neither in order nor equal are in the other order. -/
theorem lt_of_not_lt_of_ne {a b : String} (h : ¬a < b) (h' : a ≠ b) : b < a :=
  Std.lt_of_le_of_ne (String.not_lt.1 h) (Ne.symm h')

theorem mem_insertEntry {k : String} {v : α} {es : List (String × α)} {e : String × α}
    (h : e ∈ insertEntry k v es) : e = (k, v) ∨ e ∈ es := by
  induction es with
  | nil => simpa [insertEntry] using h
  | cons d rest ih =>
    unfold insertEntry at h
    split at h
    · simpa using h
    · split at h
      · rcases List.mem_cons.1 h with h | h
        · exact .inl h
        · exact .inr (List.mem_cons_of_mem _ h)
      · rcases List.mem_cons.1 h with h | h
        · exact .inr (h ▸ List.mem_cons_self)
        · rcases ih h with h | h
          · exact .inl h
          · exact .inr (List.mem_cons_of_mem _ h)

theorem pairwise_insertEntry {k : String} {v : α} {es : List (String × α)}
    (h : es.Pairwise fun a b => a.1 < b.1) :
    (insertEntry k v es).Pairwise fun a b => a.1 < b.1 := by
  induction es with
  | nil => simp [insertEntry]
  | cons d rest ih =>
    rw [List.pairwise_cons] at h
    unfold insertEntry
    split
    next hk =>
      refine List.pairwise_cons.2 ⟨fun e he => ?_, List.pairwise_cons.2 h⟩
      rcases List.mem_cons.1 he with rfl | he
      · exact hk
      · exact String.lt_trans hk (h.1 e he)
    next hk =>
      split
      next hd => exact List.pairwise_cons.2 ⟨fun e he => hd ▸ h.1 e he, h.2⟩
      next hd =>
        refine List.pairwise_cons.2 ⟨fun e he => ?_, ih h.2⟩
        rcases mem_insertEntry he with rfl | he
        · exact lt_of_not_lt_of_ne hk hd
        · exact h.1 e he

/-- The table without entries. -/
def empty : Table α := ⟨[], List.Pairwise.nil⟩

instance : EmptyCollection (Table α) := ⟨empty⟩
instance : Inhabited (Table α) := ⟨empty⟩

/-- Puts a value under a key; an old value of the key is lost. -/
def insert (t : Table α) (k : String) (v : α) : Table α :=
  ⟨insertEntry k v t.entries, pairwise_insertEntry t.ascending⟩

/-- The table of a list of entries; of two entries with one key the later stays. -/
def ofList (es : List (String × α)) : Table α :=
  es.foldl (fun t e => t.insert e.1 e.2) empty

/-- The value under a key in a list of entries. -/
def find? (k : String) : List (String × α) → Option α
  | [] => none
  | e :: rest => if e.1 = k then some e.2 else find? k rest

/-- The value under a key. -/
def get? (t : Table α) (k : String) : Option α :=
  find? k t.entries

/-- Tells whether a key has a value. -/
def contains (t : Table α) (k : String) : Bool :=
  (t.get? k).isSome

/-- The keys in ascending order. -/
def keys (t : Table α) : List String :=
  t.entries.map (·.1)

/-- The values in ascending order of their keys. -/
def values (t : Table α) : List α :=
  t.entries.map (·.2)

/-- The number of entries. -/
def size (t : Table α) : Nat :=
  t.entries.length

/-- Replaces every value by what `f` makes of its key and it. -/
def map (f : String → α → β) (t : Table α) : Table β where
  entries := t.entries.map fun e => (e.1, f e.1 e.2)
  ascending := by
    rw [List.pairwise_map]
    exact t.ascending

/-- Changes the value under a key, if there is one. -/
def modify (t : Table α) (k : String) (f : α → α) : Table α :=
  t.map fun k' v => if k' = k then f v else v

/-- Puts a value under a key that has none. -/
def insertNew (t : Table α) (k : String) (v : α) : Table α :=
  if t.contains k then t else t.insert k v

theorem find?_insertEntry {k j : String} {v : α} {es : List (String × α)} :
    find? j (insertEntry k v es) = if k = j then some v else find? j es := by
  induction es with
  | nil => simp [insertEntry, find?]
  | cons d rest ih =>
    unfold insertEntry
    split
    · simp [find?]
    · split
      next hd =>
        by_cases hj : k = j
        · simp [find?, hj]
        · simp [find?, hj, ← hd]
      next hd =>
        simp only [find?, ih]
        by_cases hj : k = j
        · have : d.1 ≠ j := fun h => hd (hj.trans h.symm)
          simp [this, hj]
        · simp [hj]

@[simp]
theorem get?_empty (k : String) : (empty : Table α).get? k = none := rfl

@[simp]
theorem get?_insert (t : Table α) (k j : String) (v : α) :
    (t.insert k v).get? j = if k = j then some v else t.get? j :=
  find?_insertEntry

end Table

/-- The distinct texts of a list in ascending order. -/
def sortedNames (names : List String) : List String :=
  (Table.ofList (names.map fun n => (n, ()))).keys

end OperationGate
