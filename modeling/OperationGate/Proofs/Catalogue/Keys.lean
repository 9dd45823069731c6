import OperationGate.Catalogue.Keys
import OperationGate.Proofs.Catalogue.Cycles
import OperationGate.Reach

/-!
# The keys of a selection set

The keys that are listed for a selection set are those of the fields met in it, through inline
fragments and spreads at any depth, whatever cycles the spreads form (`mem_keysOf_iff`). The list
has no conflict just when no two of them clash: `conflict?_keysOf_eq_none_iff`.
-/

namespace OperationGate.KeyUse

open Reach

variable {fragments : Table WrittenFragment}

/-- A field is met in a selection set on a parent type: directly, in an inline fragment, or in a
fragment that is spread. -/
inductive Met (fragments : Table WrittenFragment) (u : KeyUse) :
    String → List Selection → Prop where
  | field {parent : String} {selections inside : List Selection} {aliasName : Option String}
    {name : String} :
    .field aliasName name inside ∈ selections → u = ⟨aliasName.getD name, name, parent⟩ →
      Met fragments u parent selections
  | inline {parent : String} {selections inside : List Selection} {condition : Option String} :
    .inline condition inside ∈ selections → Met fragments u (condition.getD parent) inside →
      Met fragments u parent selections
  | spread {parent : String} {selections : List Selection} {name : String} {f : WrittenFragment} :
    .spread name ∈ selections → fragments.get? name = some f →
      Met fragments u f.condition f.selections → Met fragments u parent selections

/-! ## Items -/

lemma mem_allItems_iff {parent : String} {selections : List Selection} {i : Item} :
    i ∈ allItems parent selections ↔ ∃ x ∈ selections, i ∈ items parent x := by
  induction selections with
  | nil => simp [allItems]
  | cons x rest ih => simp [allItems, ih]

/-- The items of a fragment. -/
def itemsOf (fragments : Table WrittenFragment) (name : String) : List Item :=
  match fragments.get? name with
  | some f => allItems f.condition f.selections
  | none => []

/-- The fragments spread in items. -/
def spreadNames (is : List Item) : List String :=
  is.filterMap fun i => match i with
    | .use _ => none
    | .spread n => some n

@[simp]
lemma mem_spreadNames {is : List Item} {n : String} : n ∈ spreadNames is ↔ .spread n ∈ is := by
  rw [spreadNames, List.mem_filterMap]
  constructor
  · rintro ⟨i, hi, hn⟩
    cases i with
    | use u => cases hn
    | spread m =>
      cases hn
      exact hi
  · exact fun h => ⟨_, h, rfl⟩

/-- Where a fragment leads without going into the selections of fields. -/
def leadsTo (fragments : Table WrittenFragment) (name : String) : List String :=
  spreadNames (itemsOf fragments name)

lemma not_leads_nil {next : String → List String} {domain : List String} {n : String} :
    ¬Leads next domain [] n := by
  intro h
  induction h with
  | start _ h => cases h
  | step _ _ _ ih => exact ih

/-- More starts lead to no less. -/
lemma leads_mono {next : String → List String} {domain starts starts' : List String} {n : String}
    (h : Leads next domain starts n) (hs : ∀ m ∈ starts, m ∈ starts') :
    Leads next domain starts' n := by
  induction h with
  | start hn hm => exact .start hn (hs _ hm)
  | step _ hn hm ih => exact .step ih hn hm

/-- The fields that unfolding gives are those among the items and those of fragments that the items
lead to. -/
lemma mem_unfold_iff {u : KeyUse} {remaining : List String} {is : List Item} :
    u ∈ unfold fragments remaining is ↔
      .use u ∈ is ∨ ∃ n, Leads (leadsTo fragments) remaining (spreadNames is) n ∧
        .use u ∈ itemsOf fragments n := by
  fun_induction unfold fragments remaining is with
  | case1 remaining =>
    have hnone : ¬∃ n, Leads (leadsTo fragments) remaining (spreadNames []) n ∧
        .use u ∈ itemsOf fragments n :=
      fun ⟨n, hn, _⟩ => not_leads_nil hn
    simp [hnone]
  | case2 remaining v rest ih =>
    have hnames : spreadNames (.use v :: rest) = spreadNames rest := rfl
    rw [List.mem_cons, ih, hnames, List.mem_cons, Item.use.injEq, or_assoc]
  | case3 remaining n rest hn f hf ih =>
    have hitems : itemsOf fragments n = allItems f.condition f.selections := by rw [itemsOf, hf]
    have hnames : spreadNames (allItems f.condition f.selections ++ rest) =
        leadsTo fragments n ++ spreadNames rest := by
      rw [leadsTo, hitems, spreadNames, List.filterMap_append]
      rfl
    rw [ih, hnames, ← hitems, List.mem_append]
    constructor
    · rintro ((h | h) | ⟨m, hm, h⟩)
      · exact .inr ⟨n, .start hn List.mem_cons_self, h⟩
      · exact .inl (List.mem_cons_of_mem _ h)
      · exact .inr ⟨m, hm.of_visited hn, h⟩
    · rintro (h | ⟨m, hm, h⟩)
      · exact .inl (.inr (by simpa using h))
      · by_cases hmn : m = n
        · exact .inl (.inl (hmn ▸ h))
        · exact .inr ⟨m, hm.visited hmn, h⟩
  | case4 remaining n rest hn hf ih =>
    have hitems : itemsOf fragments n = [] := by rw [itemsOf, hf]
    have hnames : leadsTo fragments n ++ spreadNames rest = spreadNames rest := by
      rw [leadsTo, hitems]
      rfl
    rw [ih, ← hnames]
    constructor
    · rintro (h | ⟨m, hm, h⟩)
      · exact .inl (List.mem_cons_of_mem _ h)
      · exact .inr ⟨m, hm.of_visited hn, h⟩
    · rintro (h | ⟨m, hm, h⟩)
      · exact .inl (by simpa using h)
      · refine .inr ⟨m, hm.visited ?_, h⟩
        rintro rfl
        rw [hitems] at h
        cases h
  | case5 remaining n rest hn ih =>
    rw [ih]
    constructor
    · rintro (h | ⟨m, hm, h⟩)
      · exact .inl (List.mem_cons_of_mem _ h)
      · exact .inr ⟨m, hm.cons, h⟩
    · rintro (h | ⟨m, hm, h⟩)
      · exact .inl (by simpa using h)
      · exact .inr ⟨m, hm.of_not_mem hn, h⟩

/-! ## Fields that are met -/

lemma Met.mono {u : KeyUse} {parent : String} {selections more : List Selection}
    (h : Met fragments u parent selections) (hmore : ∀ x ∈ selections, x ∈ more) :
    Met fragments u parent more := by
  cases h with
  | field hx hu => exact .field (hmore _ hx) hu
  | inline hx h => exact .inline (hmore _ hx) h
  | spread hx hf h => exact .spread (hmore _ hx) hf h

/-- An item is a field, or spreads a fragment in which the field is met. -/
def Item.Gives (fragments : Table WrittenFragment) (u : KeyUse) : Item → Prop
  | .use v => u = v
  | .spread n => ∃ f, fragments.get? n = some f ∧ Met fragments u f.condition f.selections

mutual

/-- What an item of a selection gives is met where the selection stands. -/
lemma met_of_mem_items {u : KeyUse} {parent : String} {x : Selection} {i : Item}
    (h : i ∈ items parent x) (hi : i.Gives fragments u) : Met fragments u parent [x] := by
  cases x with
  | field aliasName name inside =>
    obtain rfl := List.mem_singleton.1 h
    exact .field List.mem_cons_self hi
  | spread name =>
    obtain rfl := List.mem_singleton.1 h
    obtain ⟨f, hf, hmet⟩ := hi
    exact .spread List.mem_cons_self hf hmet
  | inline condition inside =>
    rw [items] at h
    exact .inline List.mem_cons_self (met_of_mem_allItems h hi)

lemma met_of_mem_allItems {u : KeyUse} {parent : String} {selections : List Selection} {i : Item}
    (h : i ∈ allItems parent selections) (hi : i.Gives fragments u) :
    Met fragments u parent selections := by
  cases selections with
  | nil => simp [allItems] at h
  | cons x rest =>
    rcases List.mem_append.1 h with h | h
    · exact (met_of_mem_items h hi).mono (by simp)
    · exact (met_of_mem_allItems h hi).mono fun _ hx => List.mem_cons_of_mem x hx

end

/-- A field of a fragment that the selections lead to is met. -/
lemma met_of_leads {u : KeyUse} {domain : List String} {parent : String}
    {selections : List Selection} {n : String}
    (h : Leads (leadsTo fragments) domain (spreadNames (allItems parent selections)) n)
    (hn : (Item.spread n).Gives fragments u) : Met fragments u parent selections := by
  induction h with
  | start _ hs => exact met_of_mem_allItems (mem_spreadNames.1 hs) hn
  | @step m n _ _ hs ih =>
    have hs : .spread n ∈ itemsOf fragments m := mem_spreadNames.1 hs
    refine ih ?_
    rw [itemsOf] at hs
    cases hm : fragments.get? m with
    | none =>
      rw [hm] at hs
      cases hs
    | some g =>
      rw [hm] at hs
      exact ⟨g, hm, met_of_mem_allItems hs hn⟩

/-- A field that is met is among the items, or among those of a fragment that the items lead to. -/
lemma exists_of_met {u : KeyUse} {parent : String} {selections : List Selection}
    (h : Met fragments u parent selections) :
    .use u ∈ allItems parent selections ∨ ∃ n,
      Leads (leadsTo fragments) fragments.keys (spreadNames (allItems parent selections)) n ∧
        .use u ∈ itemsOf fragments n := by
  induction h with
  | field hx hu =>
    subst hu
    exact .inl (mem_allItems_iff.2 ⟨_, hx, List.mem_singleton.2 rfl⟩)
  | @inline parent selections inside condition hx _ ih =>
    have hsub : ∀ i ∈ allItems (condition.getD parent) inside, i ∈ allItems parent selections := by
      intro i hi
      exact mem_allItems_iff.2 ⟨_, hx, by rwa [items]⟩
    rcases ih with h | ⟨n, hn, h⟩
    · exact .inl (hsub _ h)
    · exact .inr ⟨n, leads_mono hn fun m hm => mem_spreadNames.2 (hsub _ (mem_spreadNames.1 hm)), h⟩
  | @spread parent selections name f hx hf _ ih =>
    have hitems : itemsOf fragments name = allItems f.condition f.selections := by rw [itemsOf, hf]
    have hname : Leads (leadsTo fragments) fragments.keys
        (spreadNames (allItems parent selections)) name :=
      .start (Table.mem_keys_iff.2 ⟨f, hf⟩)
        (mem_spreadNames.2 (mem_allItems_iff.2 ⟨_, hx, List.mem_singleton.2 rfl⟩))
    right
    rcases ih with h | ⟨n, hn, h⟩
    · exact ⟨name, hname, hitems ▸ h⟩
    · refine ⟨n, ?_, h⟩
      clear h
      induction hn with
      | start hm hs =>
        refine .step hname hm ?_
        rw [leadsTo, hitems]
        exact hs
      | step _ hm hs ih => exact .step ih hm hs

/-- The fields listed for a selection set are those that are met in it. -/
theorem mem_keysOf_iff {u : KeyUse} {parent : String} {selections : List Selection} :
    u ∈ keysOf fragments parent selections ↔ Met fragments u parent selections := by
  rw [keysOf, mem_unfold_iff]
  refine ⟨?_, exists_of_met⟩
  rintro (h | ⟨n, hn, h⟩)
  · exact met_of_mem_allItems h rfl
  · refine met_of_leads hn ?_
    rw [itemsOf] at h
    cases hf : fragments.get? n with
    | none =>
      rw [hf] at h
      cases h
    | some f =>
      rw [hf] at h
      exact ⟨f, hf, met_of_mem_allItems h rfl⟩

/-! ## Conflicts -/

variable {s : Schema}

lemma clashes_self (u : KeyUse) : clashes s u u = false := by
  simp [clashes]

lemma clashes_comm (u v : KeyUse) : clashes s u v = clashes s v u := by
  have hexclusive : exclusive s u v = exclusive s v u := by
    simp only [exclusive, ne_comm, Bool.and_assoc]
    rw [Bool.and_comm (decide (s.kind? u.parent = some .object))]
  have hkey : decide (u.key = v.key) = decide (v.key = u.key) := by simp [eq_comm]
  have hfield : decide (u.field ≠ v.field) = decide (v.field ≠ u.field) := by simp [eq_comm]
  rw [clashes, clashes, hexclusive, hkey, hfield]

/-- The search for conflicts compares every field with all that come before it. -/
lemma conflict?_eq_none_iff {earlier us : List KeyUse} :
    conflict? s earlier us = none ↔
      (∀ u ∈ us, ∀ e ∈ earlier, ¬clashes s e u) ∧ us.Pairwise fun u v => ¬clashes s u v := by
  induction us generalizing earlier with
  | nil => simp [conflict?]
  | cons u rest ih =>
    rw [conflict?]
    split
    next e he =>
      have hmem := List.mem_of_find?_eq_some he
      have hclash : clashes s e u = true := by simpa using List.find?_some he
      simp only [reduceCtorEq, false_iff, not_and]
      intro h
      exact absurd hclash (h u List.mem_cons_self e hmem)
    next he =>
      rw [List.find?_eq_none] at he
      rw [ih, List.pairwise_cons]
      constructor
      · rintro ⟨h, hrest⟩
        exact ⟨List.forall_mem_cons.2 ⟨he, fun v hv e h' => h v hv e (List.mem_append_left _ h')⟩,
          fun v hv => h v hv u (by simp), hrest⟩
      · rintro ⟨h, hu, hrest⟩
        refine ⟨fun v hv e h' => ?_, hrest⟩
        rcases List.mem_append.1 h' with h' | h'
        · exact h v (List.mem_cons_of_mem _ hv) e h'
        · obtain rfl := List.mem_singleton.1 h'
          exact hu v hv

/-- A selection set has no conflict just when no two fields that are met in it clash. -/
theorem conflict?_keysOf_eq_none_iff {parent : String} {selections : List Selection} :
    conflict? s [] (keysOf fragments parent selections) = none ↔
      ∀ u v, Met fragments u parent selections → Met fragments v parent selections →
        ¬clashes s u v := by
  rw [conflict?_eq_none_iff]
  constructor
  · rintro ⟨-, h⟩ u v hu hv
    have hself : ∀ u ∈ keysOf fragments parent selections, ¬clashes s u u := by simp [clashes_self]
    have hflip := h.imp fun {u v} (huv : ¬clashes s u v) =>
      show ¬clashes s v u by rwa [clashes_comm]
    exact h.forall_of_forall_of_flip hself hflip (mem_keysOf_iff.2 hu) (mem_keysOf_iff.2 hv)
  · intro h
    refine ⟨by simp, List.pairwise_of_forall_mem_list fun u hu v hv => ?_⟩
    exact h u v (mem_keysOf_iff.1 hu) (mem_keysOf_iff.1 hv)

end OperationGate.KeyUse
