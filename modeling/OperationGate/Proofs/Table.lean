import Mathlib.Data.List.Induction
import Mathlib.Data.List.Sort
import OperationGate.Table

/-!
# Tables of lists

A list of entries that ascends is the list of its table: `entries_ofList`. So a table is the table
of its own entries. Sorted names are determined by which names they are: `sortedNames_congr`.
-/

namespace OperationGate.Table

variable {α : Type}

/-- A key after all others goes to the end. -/
lemma insertEntry_of_lt {k : String} {v : α} {es : List (String × α)} (h : ∀ e ∈ es, e.1 < k) :
    insertEntry k v es = es ++ [(k, v)] := by
  induction es with
  | nil => rfl
  | cons e rest ih =>
    have he := h e List.mem_cons_self
    have hlt : ¬k < e.1 := String.lt_asymm he
    have hne : k ≠ e.1 := fun hk => String.lt_irrefl k (hk ▸ he)
    rw [insertEntry, if_neg hlt, if_neg hne, ih fun d hd => h d (List.mem_cons_of_mem _ hd)]
    rfl

lemma entries_foldl_insert {t : Table α} {es : List (String × α)}
    (h : (t.entries ++ es).Pairwise fun a b => a.1 < b.1) :
    (es.foldl (fun t e => t.insert e.1 e.2) t).entries = t.entries ++ es := by
  induction es generalizing t with
  | nil => simp
  | cons e es ih =>
    have hlast : (t.insert e.1 e.2).entries = t.entries ++ [e] :=
      insertEntry_of_lt fun d hd => (List.pairwise_append.1 h).2.2 d hd e List.mem_cons_self
    rw [List.foldl_cons, ih, hlast, List.append_assoc, List.singleton_append]
    rw [hlast, List.append_assoc]
    exact h

/-- A list that ascends lists its table. -/
theorem entries_ofList {es : List (String × α)} (h : es.Pairwise fun a b => a.1 < b.1) :
    (ofList es).entries = es := by
  have hempty : ((empty : Table α).entries ++ es).Pairwise fun a b => a.1 < b.1 := h
  rw [ofList, entries_foldl_insert hempty]
  rfl

lemma mem_of_mem_foldl_insert {t : Table α} {es : List (String × α)} {e : String × α}
    (h : e ∈ (es.foldl (fun t e => t.insert e.1 e.2) t).entries) : e ∈ t.entries ∨ e ∈ es := by
  induction es generalizing t with
  | nil => exact .inl h
  | cons d es ih =>
    rcases ih h with h | h
    · rcases mem_insertEntry h with h | h
      · exact .inr (h ▸ List.mem_cons_self)
      · exact .inl h
    · exact .inr (List.mem_cons_of_mem _ h)

/-- The entries of a table come from the list it was made of. -/
lemma mem_of_mem_ofList {es : List (String × α)} {e : String × α} (h : e ∈ (ofList es).entries) :
    e ∈ es :=
  (mem_of_mem_foldl_insert h).resolve_left List.not_mem_nil

@[ext]
lemma ext {s t : Table α} (h : s.entries = t.entries) : s = t := by
  cases s
  cases t
  cases h
  rfl

/-- A table is the table of its entries. -/
@[simp]
lemma ofList_entries (t : Table α) : ofList t.entries = t :=
  ext (entries_ofList t.ascending)

/-! ## What a look-up finds -/

lemma mem_of_find?_eq_some {k : String} {v : α} {es : List (String × α)} (h : find? k es = some v) :
    (k, v) ∈ es := by
  induction es with
  | nil => cases h
  | cons e rest ih =>
    rw [find?] at h
    split at h
    next he =>
      cases h
      rw [← he]
      exact List.mem_cons_self
    next => exact List.mem_cons_of_mem _ (ih h)

lemma find?_append (k : String) (es ds : List (String × α)) :
    find? k (es ++ ds) = (find? k es).or (find? k ds) := by
  induction es with
  | nil => rfl
  | cons e rest ih =>
    rw [List.cons_append, find?, find?, ih]
    split <;> rfl

/-- Where keys are distinct, each entry is found. -/
lemma find?_eq_some_of_mem {es : List (String × α)} (hkeys : (es.map (·.1)).Nodup) {k : String}
    {v : α} (h : (k, v) ∈ es) : find? k es = some v := by
  induction es with
  | nil => cases h
  | cons e rest ih =>
    rw [List.map_cons, List.nodup_cons] at hkeys
    rw [find?]
    rcases List.mem_cons.1 h with rfl | h
    · rw [if_pos rfl]
    · have hne : e.1 ≠ k := fun he => hkeys.1 (he ▸ List.mem_map_of_mem h)
      rw [if_neg hne, ih hkeys.2 h]

/-- A look-up finds the entry of a key, if there is one. -/
lemma get?_eq_some_iff {t : Table α} {k : String} {v : α} :
    t.get? k = some v ↔ (k, v) ∈ t.entries := by
  have hkeys : (t.entries.map (·.1)).Nodup := List.pairwise_map.2 (t.ascending.imp String.ne_of_lt)
  exact ⟨mem_of_find?_eq_some, find?_eq_some_of_mem hkeys⟩

/-- Tables in which every key finds the same are equal. -/
lemma eq_of_get?_eq {s t : Table α} (h : ∀ k, s.get? k = t.get? k) : s = t := by
  have hasymm : ∀ a b : String × α, a.1 < b.1 → ¬b.1 < a.1 := fun _ _ => String.lt_asymm
  have : Std.Antisymm fun a b : String × α => a.1 < b.1 :=
    ⟨fun a b hab hba => absurd hba (hasymm a b hab)⟩
  have : Std.Irrefl fun a b : String × α => a.1 < b.1 := ⟨fun a => String.lt_irrefl a.1⟩
  refine ext (List.Pairwise.eq_of_mem_iff s.ascending t.ascending ?_)
  rintro ⟨k, v⟩
  rw [← get?_eq_some_iff, ← get?_eq_some_iff, h]

lemma mem_keys_iff {t : Table α} {k : String} : k ∈ t.keys ↔ ∃ v, t.get? k = some v := by
  constructor
  · intro h
    obtain ⟨e, he, rfl⟩ := List.mem_map.1 h
    exact ⟨e.2, get?_eq_some_iff.2 he⟩
  · rintro ⟨v, h⟩
    exact List.mem_map.2 ⟨(k, v), get?_eq_some_iff.1 h, rfl⟩

lemma mem_values_iff {t : Table α} {v : α} : v ∈ t.values ↔ ∃ k, t.get? k = some v := by
  constructor
  · intro h
    obtain ⟨e, he, rfl⟩ := List.mem_map.1 h
    exact ⟨e.1, get?_eq_some_iff.2 he⟩
  · rintro ⟨k, h⟩
    exact List.mem_map.2 ⟨(k, v), get?_eq_some_iff.1 h, rfl⟩

lemma get?_eq_none_of_not_mem_keys {t : Table α} {k : String} (h : k ∉ t.keys) :
    t.get? k = none := by
  cases hk : t.get? k with
  | none => rfl
  | some v => exact absurd (mem_keys_iff.2 ⟨v, hk⟩) h

lemma find?_map {β : Type} (f : String → α → β) (k : String) (es : List (String × α)) :
    find? k (es.map fun e => (e.1, f e.1 e.2)) = (find? k es).map (f k) := by
  induction es with
  | nil => rfl
  | cons e rest ih =>
    simp only [List.map_cons, find?]
    split
    next he => rw [he, Option.map_some]
    next => exact ih

/-- Values that are replaced are found where they were. -/
@[simp]
lemma get?_map {β : Type} (f : String → α → β) (t : Table α) (k : String) :
    (t.map f).get? k = (t.get? k).map (f k) :=
  find?_map f k t.entries

/-- Tells what holds of every value with its key. -/
def Every (R : String → α → Prop) (t : Table α) : Prop :=
  ∀ k v, t.get? k = some v → R k v

namespace Every

variable {R : String → α → Prop} {t : Table α} {k : String} {v : α}

lemma empty : Every R .empty :=
  fun k v h => by simp at h

lemma insert (h : t.Every R) (hv : R k v) : (t.insert k v).Every R := by
  intro m w hw
  rw [get?_insert] at hw
  split at hw
  next hk =>
    cases hw
    exact hk ▸ hv
  next => exact h m w hw

lemma insertNew (h : t.Every R) (hv : R k v) : (t.insertNew k v).Every R := by
  rw [Table.insertNew]
  split
  next => exact h
  next => exact h.insert hv

lemma modify (h : t.Every R) {f : α → α} (hf : ∀ v, R k v → R k (f v)) :
    (t.modify k f).Every R := by
  intro m w hw
  obtain ⟨u, hu, rfl⟩ := Option.map_eq_some_iff.1 ((get?_map _ _ _).symm.trans hw)
  split
  next hk => exact hk ▸ hf u (hk ▸ h m u hu)
  next => exact h m u hu

end Every

/-- Entries of other keys do not change what a key finds. -/
lemma get?_foldl_insert_of_not_mem {t : Table α} {es : List (String × α)} {k : String}
    (h : k ∉ es.map (·.1)) : (es.foldl (fun t e => t.insert e.1 e.2) t).get? k = t.get? k := by
  induction es generalizing t with
  | nil => rfl
  | cons e rest ih =>
    rw [List.map_cons, List.mem_cons, not_or] at h
    rw [List.foldl_cons, ih h.2, get?_insert, if_neg (Ne.symm h.1)]

/-- The same entries keep two tables alike in a key. -/
lemma get?_foldl_insert_congr {t t' : Table α} {es : List (String × α)} {k : String}
    (h : t.get? k = t'.get? k) :
    (es.foldl (fun t e => t.insert e.1 e.2) t).get? k =
    (es.foldl (fun t e => t.insert e.1 e.2) t').get? k := by
  induction es generalizing t t' with
  | nil => exact h
  | cons e rest ih => exact ih (by rw [get?_insert, get?_insert, h])

lemma get?_foldl_insert {t : Table α} {es : List (String × α)} (h : (es.map (·.1)).Nodup)
    {k : String} {v : α} :
    (es.foldl (fun t e => t.insert e.1 e.2) t).get? k = some v ↔
      (k, v) ∈ es ∨ (k ∉ es.map (·.1) ∧ t.get? k = some v) := by
  induction es generalizing t with
  | nil => simp
  | cons e es ih =>
    rw [List.map_cons, List.nodup_cons] at h
    rw [List.foldl_cons, ih h.2, get?_insert, List.map_cons, List.mem_cons, List.mem_cons, not_or]
    by_cases hk : e.1 = k
    · subst hk
      have hnot : (e.1, v) ∉ es := fun hv => h.1 (List.mem_map.2 ⟨_, hv, rfl⟩)
      obtain ⟨k, w⟩ := e
      simp only [h.1, hnot, if_true, Option.some.injEq, Prod.mk.injEq, true_and, not_true_eq_false,
        not_false_eq_true, false_and, or_false, false_or, eq_comm]
    · have hne : (k, v) ≠ e := fun he => hk (he ▸ rfl)
      simp [hk, hne, Ne.symm hk]

/-- A table of entries with distinct keys holds just these. -/
lemma get?_ofList_eq_some_iff {es : List (String × α)} (h : (es.map (·.1)).Nodup) {k : String}
    {v : α} : (ofList es).get? k = some v ↔ (k, v) ∈ es := by
  rw [ofList, get?_foldl_insert h]
  simp

lemma mem_keys_foldl_insert {t : Table α} {es : List (String × α)} {k : String} :
    k ∈ (es.foldl (fun t e => t.insert e.1 e.2) t).keys ↔ k ∈ t.keys ∨ k ∈ es.map (·.1) := by
  induction es generalizing t with
  | nil => simp
  | cons e es ih =>
    have hinsert : k ∈ (t.insert e.1 e.2).keys ↔ k = e.1 ∨ k ∈ t.keys := by
      simp only [mem_keys_iff, get?_insert]
      by_cases hk : e.1 = k
      · simp [hk]
      · simp [hk, Ne.symm hk]
    rw [List.foldl_cons, ih, hinsert, List.map_cons, List.mem_cons, or_assoc]
    exact or_left_comm

/-- Tells that the last entry of a key in a list has a value. -/
def IsLast (es : List (String × α)) (k : String) (v : α) : Prop :=
  ∃ before after, es = before ++ (k, v) :: after ∧ ∀ e ∈ after, e.1 ≠ k

lemma isLast_append_singleton {es : List (String × α)} {e : String × α} {k : String} {v : α} :
    IsLast (es ++ [e]) k v ↔ e = (k, v) ∨ (e.1 ≠ k ∧ IsLast es k v) := by
  constructor
  · rintro ⟨before, after, hes, hafter⟩
    rcases List.eq_nil_or_concat after with rfl | ⟨after, last, rfl⟩
    · obtain ⟨-, he⟩ := List.append_inj' hes rfl
      exact .inl (List.singleton_inj.1 he)
    · rw [List.concat_eq_append, ← List.cons_append, ← List.append_assoc] at hes
      obtain ⟨rfl, he⟩ := List.append_inj' hes rfl
      obtain rfl := List.singleton_inj.1 he
      refine .inr ⟨hafter e (by simp), before, after, rfl, fun d hd => hafter d (by simp [hd])⟩
  · rintro (rfl | ⟨hne, before, after, rfl, hafter⟩)
    · exact ⟨es, [], rfl, by simp⟩
    · refine ⟨before, after ++ [e], by simp, fun d hd => ?_⟩
      rcases List.mem_append.1 hd with hd | hd
      · exact hafter d hd
      · exact List.mem_singleton.1 hd ▸ hne

/-- The table of a list finds the last entry of a key. -/
lemma get?_ofList_eq_some_iff_isLast {es : List (String × α)} {k : String} {v : α} :
    (ofList es).get? k = some v ↔ IsLast es k v := by
  induction es using List.reverseRecOn with
  | nil => simp [ofList, IsLast]
  | append_singleton es e ih =>
    have hinsert : ofList (es ++ [e]) = (ofList es).insert e.1 e.2 := by
      rw [ofList, List.foldl_append]
      rfl
    rw [hinsert, get?_insert, isLast_append_singleton, ← ih]
    obtain ⟨k', v'⟩ := e
    by_cases hk : k' = k
    · simp [hk]
    · simp [hk]

/-- Names are sorted without losing any. -/
lemma mem_sortedNames {names : List String} {n : String} : n ∈ sortedNames names ↔ n ∈ names := by
  have hkeys : ((names.map fun n => (n, ())).map (·.1)) = names := by
    rw [List.map_map]
    exact List.map_id names
  rw [sortedNames, ofList, mem_keys_foldl_insert, hkeys]
  exact ⟨fun h => h.resolve_left List.not_mem_nil, .inr⟩

lemma ascending_keys (t : Table α) : t.keys.Pairwise (· < ·) :=
  List.pairwise_map.2 t.ascending

/-- The table of entries with distinct keys lists them in another order. -/
lemma perm_entries_ofList {es : List (String × α)} (h : (es.map (·.1)).Nodup) :
    (ofList es).entries.Perm es := by
  have hnodup : ∀ {ds : List (String × α)}, (ds.map (·.1)).Nodup → ds.Nodup := List.Nodup.of_map _
  have hentries : ((ofList es).entries.map (·.1)).Nodup := (ascending_keys _).nodup
  rw [List.perm_ext_iff_of_nodup (hnodup hentries) (hnodup h)]
  rintro ⟨k, a⟩
  rw [← get?_eq_some_iff, get?_ofList_eq_some_iff h]

/-- Entries with distinct keys have one table, whatever their order. -/
lemma ofList_of_perm {es es' : List (String × α)} (h : (es.map (·.1)).Nodup) (hperm : es.Perm es') :
    ofList es = ofList es' := by
  apply eq_of_get?_eq
  intro k
  apply Option.ext
  intro a
  rw [get?_ofList_eq_some_iff h, get?_ofList_eq_some_iff ((hperm.map _).nodup_iff.1 h),
    hperm.mem_iff]

/-- The same names are sorted to the same list. -/
theorem sortedNames_congr {names names' : List String} (h : ∀ n, n ∈ names ↔ n ∈ names') :
    sortedNames names = sortedNames names' := by
  apply List.Pairwise.eq_of_mem_iff (ascending_keys _) (ascending_keys _)
  intro n
  change n ∈ sortedNames names ↔ n ∈ sortedNames names'
  rw [mem_sortedNames, mem_sortedNames, h]

end OperationGate.Table
