/-!
# Forests

Values at addresses that are lists of names. What stands below one name is kept together, so that a
look-up follows an address and passes over all that lies elsewhere.

Main statements: `get?_insert` says what is where after a value is put at an address, and
`mem_entries_iff` that the listed entries are what look-ups find.
-/

namespace OperationGate

/-- Names with their values and with what is below them. -/
inductive Forest (α : Type) where
  | nil
  /-- A name with its value, if it has one, what is below it, and the names beside it. -/
  | cons (name : String) (value : Option α) (below : Forest α) (rest : Forest α)
  deriving DecidableEq, Repr, Inhabited

namespace Forest

variable {α : Type}

/-- The value at an address. -/
def get? : Forest α → List String → Option α
  | nil, _ => none
  | cons .., [] => none
  | cons n v below rest, x :: xs =>
    if n = x then (if xs = [] then v else below.get? xs) else rest.get? (x :: xs)

/-- The forest with one value. -/
def single (v : α) : List String → Forest α
  | [] => nil
  | [x] => cons x (some v) nil nil
  | x :: y :: ys => cons x none (single v (y :: ys)) nil

/-- Puts a value at an address in place of the one that is there. -/
def insert (v : α) : Forest α → List String → Forest α
  | nil, a => single v a
  | cons n w below rest, [] => cons n w below rest
  | cons n w below rest, x :: xs =>
    if n = x then
      (if xs = [] then cons n (some v) below rest else cons n w (insert v below xs) rest)
    else cons n w below (insert v rest (x :: xs))

/-- Removes what is at an address and below it. -/
def erase : Forest α → List String → Forest α
  | nil, _ => nil
  | cons .., [] => nil
  | cons n v below rest, x :: xs =>
    if n = x then (if xs = [] then rest else cons n v (below.erase xs) rest)
    else cons n v below (rest.erase (x :: xs))

/-- The addresses that have values, with their values. -/
def entries : Forest α → List (List String × α)
  | nil => []
  | cons n v below rest =>
    (v.toList.map fun v => ([n], v)) ++ (below.entries.map fun e => (n :: e.1, e.2)) ++ rest.entries

/-- The names at the top. -/
def names : Forest α → List String
  | nil => []
  | cons n _ _ rest => n :: rest.names

/-- No name stands twice beside itself. -/
def Distinct : Forest α → Prop
  | nil => True
  | cons n _ below rest => n ∉ rest.names ∧ below.Distinct ∧ rest.Distinct

/-! ## Look-ups -/

@[simp] theorem get?_nil (a : List String) : (nil : Forest α).get? a = none := by
  cases a <;> rfl

@[simp] theorem get?_root (f : Forest α) : f.get? [] = none := by
  cases f <;> rfl

theorem get?_single {v : α} {a b : List String} (h : a ≠ []) :
    (single v a).get? b = if a = b then some v else none := by
  fun_induction single v a generalizing b with
  | case1 => exact absurd rfl h
  | case2 x =>
    cases b with
    | nil => rfl
    | cons y ys => by_cases hxy : x = y <;> cases ys <;> simp [get?, hxy]
  | case3 x y ys ih =>
    cases b with
    | nil => rfl
    | cons z zs =>
      by_cases hxz : x = z
      · cases zs with
        | nil => simp [get?, hxz]
        | cons w ws => simp [get?, hxz, ih]
      · simp [get?, hxz]

/-- After a value is put at an address it is there, and every other value is where it was. -/
theorem get?_insert {f : Forest α} {a b : List String} {v : α} (h : a ≠ []) :
    (insert v f a).get? b = if a = b then some v else f.get? b := by
  induction f generalizing a b with
  | nil => simp [insert, get?_single h]
  | cons n w below rest ihb ihr =>
    cases a with
    | nil => exact absurd rfl h
    | cons x xs =>
      cases b with
      | nil => simp
      | cons y ys =>
        by_cases hx : n = x
        · by_cases hy : n = y
          · subst hx hy
            by_cases hxs : xs = []
            · by_cases hys : ys = [] <;> simp [insert, get?, hxs, hys, eq_comm]
            · by_cases hys : ys = [] <;> simp [insert, get?, hxs, hys, ihb]
          · have hxy : x ≠ y := fun hxy => hy (hx.trans hxy)
            subst hx
            by_cases hxs : xs = [] <;> simp [insert, get?, hxs, hxy]
        · by_cases hy : n = y
          · have hxy : x ≠ y := fun hxy => hx (hy.trans hxy.symm)
            subst hy
            simp [insert, get?, hx, hxy]
          · rw [insert, if_neg hx, get?, if_neg hy, get?, if_neg hy]
            exact ihr (List.cons_ne_nil x xs)

/-! ## Distinct names -/

theorem distinct_single (v : α) (a : List String) : (single v a).Distinct := by
  fun_induction single v a with
  | case1 => trivial
  | case2 x => simp [Distinct, names]
  | case3 x y ys ih => simp [Distinct, names, ih]

theorem mem_names_insert {f : Forest α} {a : List String} {v : α} {n : String}
    (h : n ∈ (insert v f a).names) : n ∈ f.names ∨ a.head? = some n := by
  induction f generalizing a with
  | nil =>
    unfold insert at h
    fun_cases single v a <;> simp_all [single, names]
  | cons m w below rest _ ih =>
    cases a with
    | nil => exact .inl h
    | cons x xs =>
      unfold insert at h
      split at h
      · split at h <;> exact .inl h
      · rcases List.mem_cons.1 h with h | h
        · exact .inl (h ▸ List.mem_cons_self)
        · exact (ih h).imp (List.mem_cons_of_mem _) id

theorem Distinct.insert {f : Forest α} (h : f.Distinct) (a : List String) (v : α) :
    (insert v f a).Distinct := by
  induction f generalizing a with
  | nil => exact distinct_single v a
  | cons n w below rest ihb ihr =>
    obtain ⟨hn, hb, hr⟩ := h
    cases a with
    | nil => exact ⟨hn, hb, hr⟩
    | cons x xs =>
      unfold Forest.insert
      split
      · split
        · exact ⟨hn, hb, hr⟩
        · exact ⟨hn, ihb hb xs, hr⟩
      · next hx =>
        refine ⟨fun h => ?_, hb, ihr hr _⟩
        rcases mem_names_insert h with h | h
        · exact hn h
        · exact hx (Option.some.inj h).symm

theorem mem_names_erase {f : Forest α} {a : List String} {n : String} (h : n ∈ (f.erase a).names) :
    n ∈ f.names := by
  induction f generalizing a with
  | nil => exact h
  | cons m v below rest _ ih =>
    cases a with
    | nil => simp [erase, names] at h
    | cons x xs =>
      unfold erase at h
      split at h
      · split at h
        · exact List.mem_cons_of_mem _ h
        · exact h
      · rcases List.mem_cons.1 h with h | h
        · exact h ▸ List.mem_cons_self
        · exact List.mem_cons_of_mem _ (ih h)

theorem Distinct.erase {f : Forest α} (h : f.Distinct) (a : List String) :
    (f.erase a).Distinct := by
  induction f generalizing a with
  | nil => trivial
  | cons n v below rest ihb ihr =>
    obtain ⟨hn, hb, hr⟩ := h
    cases a with
    | nil => trivial
    | cons x xs =>
      unfold Forest.erase
      split
      · split
        · exact hr
        · exact ⟨hn, ihb hb xs, hr⟩
      · exact ⟨fun h => hn (mem_names_erase h), hb, ihr hr _⟩

/-! ## Entries -/

theorem ne_nil_of_mem_entries {f : Forest α} {a : List String} {v : α} (h : (a, v) ∈ f.entries) :
    a ≠ [] := by
  induction f generalizing a with
  | nil => simp [entries] at h
  | cons n w below rest _ ih =>
    rw [entries, List.mem_append, List.mem_append] at h
    rcases h with (h | h) | h
    · obtain ⟨_, _, h⟩ := List.mem_map.1 h
      rw [← (Prod.mk.inj h).1]
      exact fun h => nomatch h
    · obtain ⟨_, _, h⟩ := List.mem_map.1 h
      rw [← (Prod.mk.inj h).1]
      exact fun h => nomatch h
    · exact ih h

theorem head_mem_names_of_mem_entries {f : Forest α} {x : String} {xs : List String} {v : α}
    (h : (x :: xs, v) ∈ f.entries) : x ∈ f.names := by
  induction f with
  | nil => simp [entries] at h
  | cons n w below rest _ ih =>
    rw [entries, List.mem_append, List.mem_append] at h
    rcases h with (h | h) | h
    · obtain ⟨_, _, h⟩ := List.mem_map.1 h
      simp [names, (List.cons.inj (Prod.mk.inj h).1).1]
    · obtain ⟨_, _, h⟩ := List.mem_map.1 h
      simp [names, (List.cons.inj (Prod.mk.inj h).1).1]
    · exact List.mem_cons_of_mem _ (ih h)

/-- The listed entries are what look-ups find. -/
theorem mem_entries_iff {f : Forest α} (h : f.Distinct) {a : List String} {v : α} :
    (a, v) ∈ f.entries ↔ f.get? a = some v := by
  induction f generalizing a with
  | nil => simp [entries]
  | cons n w below rest ihb ihr =>
    obtain ⟨hn, hb, hr⟩ := h
    rw [entries, List.mem_append, List.mem_append]
    cases a with
    | nil =>
      constructor
      · rintro ((h | h) | h)
        · simp at h
        · simp at h
        · exact absurd rfl (ne_nil_of_mem_entries h)
      · simp
    | cons x xs =>
      by_cases hx : n = x
      · subst hx
        have hrest : (n :: xs, v) ∉ rest.entries := fun h => hn (head_mem_names_of_mem_entries h)
        by_cases hxs : xs = []
        · subst hxs
          have hbelow : ([], v) ∉ below.entries := fun h => ne_nil_of_mem_entries h rfl
          cases w <;> simp [get?, hrest, hbelow, eq_comm]
        · cases w <;> simp [get?, hrest, hxs, ihb hb]
      · cases w <;> simp [get?, hx, Ne.symm hx, ihr hr]

end Forest

end OperationGate
