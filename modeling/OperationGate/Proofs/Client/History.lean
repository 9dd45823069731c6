import OperationGate.Proofs.Client.Cache

/-!
# Histories of a cache

A cache is used in any order: bodies are stored, keys are looked up and counted, and everything is
cleared. The log of a history has the keys that came in new since the last clearing, each as often
as it did. Whatever the history, the keys of the cache are the latest of its log for which there is
room, each of them once, and each with the body that was stored under it last
(`ResponseCache.contents_after`). Looking things up has no part in this, and a key that is stored
again stays where it is.
-/

namespace OperationGate.ResponseCache

/-- The keys of a cache, oldest first. -/
def keys (c : ResponseCache) : List String :=
  c.entries.map (·.1)

/-- A use of a cache. -/
inductive Use where
  | insert (key : String) (body : Json)
  | get (key : String)
  | contains (key : String)
  | size
  | clear
  deriving Inhabited

namespace Use

/-- The cache after a use of it. -/
def apply (c : ResponseCache) : Use → ResponseCache
  | .insert key body => c.insert key body
  | .clear => c.clear
  | .get _ | .contains _ | .size => c

/-- Tells whether a use only looks at a cache. -/
def isLook : Use → Bool
  | .get _ | .contains _ | .size => true
  | .insert _ _ | .clear => false

/-- The body that a use stores under a key. -/
def stored? (key : String) : Use → Option Json
  | .insert k body => if k = key then some body else none
  | _ => none

end Use

/-- The cache after several uses. -/
def after (c : ResponseCache) (uses : List Use) : ResponseCache :=
  uses.foldl Use.apply c

/-- The log of a history that is given from its last use backwards. -/
def logBack (capacity : Nat) : List Use → List String
  | [] => []
  | .insert key _ :: earlier =>
    if ((new capacity).after earlier.reverse).contains key then logBack capacity earlier
    else logBack capacity earlier ++ [key]
  | .clear :: _ => []
  | _ :: earlier => logBack capacity earlier

/-- The keys that were stored since the last clearing when they were absent, in order. -/
def log (capacity : Nat) (uses : List Use) : List String :=
  logBack capacity uses.reverse

/-- The body that a history stores under a key last. -/
def latest? (key : String) (uses : List Use) : Option Json :=
  uses.reverse.findSome? (Use.stored? key)

/-! ## One use -/

variable {c : ResponseCache} {capacity : Nat} {uses : List Use} {key : String} {body : Json}

lemma contains_iff : c.contains key ↔ key ∈ c.keys := by
  rw [contains, Option.isSome_iff_ne_none, ne_eq, get?_eq_none_iff, not_not, keys]

/-- A key that is present keeps its place. -/
lemma keys_insert_of_contains (h : c.contains key) : (c.insert key body).keys = c.keys := by
  rw [insert, if_pos h, keys, keys, List.map_map]
  refine List.map_congr_left fun e _ => ?_
  by_cases he : e.1 = key
  · simp [he]
  · simp [he]

/-- A new key goes to the end, and the latest keys stay for which there is room. -/
lemma keys_insert_of_not_contains (hroom : 0 < c.capacity) (h : ¬c.contains key) :
    (c.insert key body).keys = (c.keys ++ [key]).rtake c.capacity := by
  have hnew : c.get? key = none := by simpa [contains] using h
  rw [keys, entries_insert hroom hnew, List.rtake, List.rtake, List.map_drop, List.map_append,
    List.length_append, List.length_append, keys, List.length_map]
  rfl

lemma nodup_keys_insert (hroom : 0 < c.capacity) (h : c.keys.Nodup) :
    (c.insert key body).keys.Nodup := by
  by_cases hkey : c.contains key
  · rwa [keys_insert_of_contains hkey]
  · rw [keys_insert_of_not_contains hroom hkey, List.rtake]
    rw [contains_iff] at hkey
    refine (List.nodup_append.2 ⟨h, List.nodup_singleton _, fun k hk j hj => ?_⟩).drop
    rintro rfl
    exact hkey (List.mem_singleton.1 hj ▸ hk)

/-- Of what a cache holds after a body was stored, all but this body was there before, under another
key. -/
lemma mem_insert_iff_of_nodup (h : (c.insert key body).keys.Nodup) {k : String} {b : Json}
    (hmem : (k, b) ∈ (c.insert key body).entries) :
    (k = key ∧ b = body) ∨ (k ≠ key ∧ (k, b) ∈ c.entries) := by
  by_cases hk : k = key
  · have hb : (c.insert key body).get? k = some b := get?_eq_some_of_mem h hmem
    rw [hk, get?_insert_self, Option.some.injEq] at hb
    exact .inl ⟨hk, hb.symm⟩
  · rcases mem_insert hmem with he | hmem
    · exact absurd (congrArg Prod.fst he) hk
    · exact .inr ⟨hk, hmem⟩

lemma after_concat (u : Use) : c.after (uses ++ [u]) = u.apply (c.after uses) := by
  rw [after, List.foldl_append]
  rfl

lemma log_concat (u : Use) : log capacity (uses ++ [u]) =
    match u with
    | .insert key _ =>
      if ((new capacity).after uses).contains key then log capacity uses
        else log capacity uses ++ [key]
    | .clear => []
    | _ => log capacity uses := by
  rw [log, List.reverse_concat]
  cases u with
  | insert key body => rw [logBack, List.reverse_reverse]; rfl
  | clear => rfl
  | get key => rfl
  | contains key => rfl
  | size => rfl

lemma latest?_concat (u : Use) :
    latest? key (uses ++ [u]) = (u.stored? key).or (latest? key uses) := by
  rw [latest?, List.reverse_concat, List.findSome?_cons]
  cases u.stored? key <;> rfl

/-! ## Histories -/

/-- What is known of a cache after a history. -/
structure Keeps (capacity : Nat) (uses : List Use) (c : ResponseCache) : Prop where
  capacity_eq : c.capacity = max capacity 1
  keys_eq : c.keys = (log capacity uses).rtake (max capacity 1)
  distinct : c.keys.Nodup
  latest : ∀ key body, (key, body) ∈ c.entries → latest? key uses = some body

lemma keeps_new (capacity : Nat) : Keeps capacity [] (new capacity) where
  capacity_eq := rfl
  keys_eq := by simp [new, keys, log, logBack]
  distinct := .nil
  latest := fun _ _ h => nomatch h

/-- Storing a body goes on from what is known. -/
lemma Keeps.insert (h : Keeps capacity uses ((new capacity).after uses)) (key : String)
    (body : Json) :
    Keeps capacity (uses ++ [.insert key body]) (((new capacity).after uses).insert key body) := by
  have hroom : 0 < ((new capacity).after uses).capacity := by
    rw [h.capacity_eq]
    exact Nat.lt_of_lt_of_le Nat.one_pos (Nat.le_max_right _ _)
  have hdistinct : (((new capacity).after uses).insert key body).keys.Nodup :=
    nodup_keys_insert hroom h.distinct
  refine ⟨capacity_insert.trans h.capacity_eq, ?_, hdistinct, fun k b hmem => ?_⟩
  · rw [log_concat]
    by_cases hkey : ((new capacity).after uses).contains key
    · rw [keys_insert_of_contains hkey, h.keys_eq]
      simp only [if_pos hkey]
    · rw [keys_insert_of_not_contains hroom hkey, h.keys_eq, h.capacity_eq, rtake_concat_rtake]
      simp only [if_neg hkey]
  · rw [latest?_concat, Use.stored?]
    rcases mem_insert_iff_of_nodup hdistinct hmem with ⟨rfl, rfl⟩ | ⟨hk, hmem⟩
    · rw [if_pos rfl, Option.some_or]
    · rw [if_neg (Ne.symm hk), Option.none_or]
      exact h.latest k b hmem

/-- Clearing starts a new log. -/
lemma Keeps.clear {c : ResponseCache} (h : Keeps capacity uses c) :
    Keeps capacity (uses ++ [.clear]) c.clear where
  capacity_eq := h.capacity_eq
  keys_eq := by rw [log_concat]; simp [keys]
  distinct := .nil
  latest := fun _ _ h => nomatch h

/-- Looking at a cache goes on from what is known. -/
lemma Keeps.look {c : ResponseCache} (h : Keeps capacity uses c) {u : Use} (hu : u.isLook) :
    Keeps capacity (uses ++ [u]) c := by
  refine ⟨h.capacity_eq, ?_, h.distinct, fun key body hmem => ?_⟩
  · rw [log_concat]
    cases u with
    | insert key body => cases hu
    | clear => cases hu
    | get key => exact h.keys_eq
    | contains key => exact h.keys_eq
    | size => exact h.keys_eq
  · rw [latest?_concat]
    cases u with
    | insert key body => cases hu
    | clear => cases hu
    | get key => exact h.latest _ _ hmem
    | contains key => exact h.latest _ _ hmem
    | size => exact h.latest _ _ hmem

lemma apply_of_isLook {u : Use} (hu : u.isLook) : u.apply c = c := by
  cases u with
  | insert key body => cases hu
  | clear => cases hu
  | get key => rfl
  | contains key => rfl
  | size => rfl

/-- What is known of a new cache after any history. -/
lemma keeps_after (capacity : Nat) (uses : List Use) :
    Keeps capacity uses ((new capacity).after uses) := by
  induction uses using List.reverseRecOn with
  | nil => exact keeps_new capacity
  | append_singleton uses u ih =>
    rw [after_concat]
    cases hlook : u.isLook with
    | true =>
      rw [apply_of_isLook hlook]
      exact ih.look hlook
    | false =>
      cases u with
      | insert key body => exact ih.insert key body
      | clear => exact ih.clear
      | get key => cases hlook
      | contains key => cases hlook
      | size => cases hlook

/-- A history does as much without the uses that only look. -/
lemma after_filter (c : ResponseCache) (uses : List Use) :
    c.after (uses.filter (!·.isLook)) = c.after uses := by
  induction uses generalizing c with
  | nil => rfl
  | cons u uses ih =>
    cases hlook : u.isLook with
    | true =>
      rw [List.filter_cons_of_neg (by simp [hlook]), ih]
      exact congrArg (List.foldl Use.apply · uses) (apply_of_isLook hlook).symm
    | false =>
      rw [List.filter_cons_of_pos (by simp [hlook])]
      exact ih (u.apply c)

/-- After any history, the keys of a cache are the latest of its log for which there is room, each
once, and each has the body that was stored under it last. A body that is stored is there right
afterwards, a key that is stored again keeps its place, and what only looks changes nothing. -/
theorem contents_after (capacity : Nat) (uses : List Use) :
    ((new capacity).after uses).keys = (log capacity uses).rtake (max capacity 1) ∧
      ((new capacity).after uses).size = min (max capacity 1) (log capacity uses).length ∧
      ((new capacity).after uses).keys.Nodup ∧
      (∀ key, ((new capacity).after uses).get? key =
        if key ∈ ((new capacity).after uses).keys then latest? key uses else none) ∧
      (∀ key body, ((new capacity).after (uses ++ [.insert key body])).get? key = some body) ∧
      (∀ key body, key ∈ ((new capacity).after uses).keys →
        ((new capacity).after (uses ++ [.insert key body])).keys =
        ((new capacity).after uses).keys) ∧
      (new capacity).after (uses.filter (!·.isLook)) = (new capacity).after uses := by
  have h := keeps_after capacity uses
  refine ⟨h.keys_eq, ?_, h.distinct, fun key => ?_, fun key body => ?_, fun key body hkey => ?_,
    after_filter _ _⟩
  · have hlength := congrArg List.length h.keys_eq
    rw [keys, List.length_map, List.rtake, List.length_drop] at hlength
    rw [size, hlength]
    omega
  · split
    next hkey =>
      obtain ⟨body, hbody⟩ := Option.isSome_iff_exists.1 (contains_iff.2 hkey)
      rw [hbody, h.latest key body (mem_of_get?_eq_some hbody)]
    next hkey => exact get?_eq_none_iff.2 hkey
  · rw [after_concat]
    exact get?_insert_self
  · rw [after_concat]
    exact keys_insert_of_contains (contains_iff.2 hkey)

end OperationGate.ResponseCache
