import Mathlib.Data.List.DropRight
import OperationGate.Client.Cache
import OperationGate.Proofs.Table

/-!
# What a cache keeps

A body that is put under a new key goes to the end, and of all bodies the latest stay for which
there is room: `ResponseCache.entries_insert`. Whatever is stored, its key has it right afterwards
(`ResponseCache.get?_insert_self`), nothing else comes in (`ResponseCache.mem_insert`), and there
are never more bodies than there is room for (`ResponseCache.size_insert_le`).
-/

namespace OperationGate

/-- The latest of the latest items of a list and one more are the latest of all of them. -/
lemma rtake_concat_rtake {α : Type} (xs : List α) (x : α) (n : Nat) :
    (xs.rtake n ++ [x]).rtake n = (xs ++ [x]).rtake n := by
  cases n with
  | zero => simp
  | succ n =>
    rw [List.rtake_concat_succ, List.rtake_concat_succ]
    simp only [List.rtake, List.drop_drop, List.length_drop]
    congr 2
    omega

namespace ResponseCache

variable {c : ResponseCache} {key : String} {body : Json}

lemma get?_eq_none_iff : c.get? key = none ↔ key ∉ c.entries.map (·.1) := by
  rw [get?]
  induction c.entries with
  | nil => simp [Table.find?]
  | cons e rest ih =>
    rw [Table.find?, List.map_cons, List.mem_cons, not_or, eq_comm (a := key), ← ih]
    by_cases he : e.1 = key <;> simp [he]

lemma mem_of_get?_eq_some (h : c.get? key = some body) : (key, body) ∈ c.entries :=
  Table.mem_of_find?_eq_some h

/-- Where keys are distinct, each has the body that stands with it. -/
lemma get?_eq_some_of_mem (hkeys : (c.entries.map (·.1)).Nodup) (h : (key, body) ∈ c.entries) :
    c.get? key = some body :=
  Table.find?_eq_some_of_mem hkeys h

@[simp]
lemma capacity_insert : (c.insert key body).capacity = c.capacity := by
  rw [insert]
  split <;> rfl

@[simp]
lemma capacity_clear : c.clear.capacity = c.capacity := rfl

@[simp]
lemma entries_clear : c.clear.entries = [] := rfl

/-- A new key goes to the end, and the latest keys stay for which there is room. -/
theorem entries_insert (hroom : 0 < c.capacity) (h : c.get? key = none) :
    (c.insert key body).entries = (c.entries ++ [(key, body)]).rtake c.capacity := by
  have hnew : ¬c.contains key := by simp [contains, h]
  have hdrop : c.entries.length + 1 - c.capacity ≤ c.entries.length := by omega
  rw [insert, if_neg hnew, List.rtake, List.length_append, List.length_singleton,
    List.drop_append_of_le_length hdrop]
  rfl

/-- Nothing comes in but what is stored. -/
theorem mem_insert {e : String × Json} (h : e ∈ (c.insert key body).entries) :
    e = (key, body) ∨ e ∈ c.entries := by
  rw [insert] at h
  split at h
  · obtain ⟨d, hd, he⟩ := List.mem_map.1 h
    by_cases hkey : d.1 = key
    · exact .inl (by rw [← he, if_pos hkey])
    · exact .inr (by rwa [← he, if_neg hkey])
  · rcases List.mem_append.1 h with h | h
    · exact .inr (List.mem_of_mem_drop h)
    · exact .inl (List.mem_singleton.1 h)

/-- There are never more bodies than there is room for. -/
theorem size_insert_le (hroom : 0 < c.capacity) (h : c.size ≤ c.capacity) :
    (c.insert key body).size ≤ c.capacity := by
  rw [size] at h
  rw [insert, size]
  split
  · rwa [List.length_map]
  · rw [List.length_append, List.length_drop, List.length_singleton, size]
    omega

lemma find?_map_replace {es : List (String × Json)} (h : (Table.find? key es).isSome) :
    Table.find? key (es.map fun e => if e.1 = key then (key, body) else e) = some body := by
  induction es with
  | nil => cases h
  | cons e rest ih =>
    by_cases he : e.1 = key
    · simp [Table.find?, he]
    · rw [Table.find?, if_neg he] at h
      rw [List.map_cons, if_neg he, Table.find?, if_neg he, ih h]

lemma find?_concat_of_eq_none {es : List (String × Json)} (h : Table.find? key es = none) :
    Table.find? key (es ++ [(key, body)]) = some body := by
  induction es with
  | nil => simp [Table.find?]
  | cons e rest ih =>
    rw [Table.find?] at h
    split at h
    next => cases h
    next he => rw [List.cons_append, Table.find?, if_neg he, ih h]

/-- What is stored is there right afterwards. -/
theorem get?_insert_self : (c.insert key body).get? key = some body := by
  rw [insert]
  split
  next h => exact find?_map_replace h
  next h =>
    refine find?_concat_of_eq_none ?_
    have hnone : key ∉ c.entries.map (·.1) := get?_eq_none_iff.1 (by simpa [contains] using h)
    refine get?_eq_none_iff (c := ⟨c.capacity, _⟩).2 fun hmem => hnone ?_
    rw [List.map_drop] at hmem
    exact List.mem_of_mem_drop hmem

end ResponseCache

end OperationGate
