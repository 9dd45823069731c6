import Mathlib.Data.List.Induction
import OperationGate.Declaration.Branch
import OperationGate.Proofs.Catalogue.Acceptance
import OperationGate.Proofs.Selection.Collected

/-!
# Branches without cycles

Where no fragment leads back to itself, the branches of a selection do not depend on which other
fragments remain, so the branches of a spread are those of its fragment (`ofSelection_spread`). The
fields of branches are then the fields that are collected from the selections:
`allFields_ofSelections`. Entries put them together by their keys: `map_key_gathered` and
`spec_of_mem_gathered`.
-/

namespace OperationGate.Branch

open Relation

/-! ## The branches of selections -/

section Selections

variable {c : Catalogue}

/-- A selection leads to a fragment: it spreads it, or a fragment that leads to it. -/
def LeadsTo (fragments : Table WrittenFragment) (x : Selection) (n : String) : Prop :=
  ∃ m ∈ x.spreads, ReflTransGen (Cycles.Spreads fragments) m n

@[simp]
lemma ofSelection_field (fragments : Table Fragment) (remaining : List String)
    (aliasName : Option String) (name : String) (selections : List Selection) :
    ofSelection fragments remaining (.field aliasName name selections) =
      [.field (aliasName.getD name) name
        (selections.flatMap (ofSelection fragments remaining))] := by
  rw [ofSelection]
  simp

@[simp]
lemma ofSelection_inline (fragments : Table Fragment) (remaining : List String)
    (condition : Option String) (selections : List Selection) :
    ofSelection fragments remaining (.inline condition selections) =
      [.within condition (selections.flatMap (ofSelection fragments remaining))] := by
  rw [ofSelection]
  simp

/-- A spread of no fragment has no branches. -/
lemma ofSelection_spread_of_none {fragments : Table Fragment} {n : String}
    (h : fragments.get? n = none) (remaining : List String) :
    ofSelection fragments remaining (.spread n) = [] := by
  rw [ofSelection, h]
  split <;> rfl

/-- What a selection of a fragment leads to, the fragment leads to, but not to itself. -/
lemma LeadsTo.of_fragment (hacyclic : Cycles.IsAcyclic c.written) {n : String} {f : Fragment}
    (hf : c.fragments.get? n = some f) {x : Selection} (hx : x ∈ f.selections) {m : String}
    (h : LeadsTo c.written x m) : LeadsTo c.written (.spread n) m ∧ m ≠ n := by
  obtain ⟨k, hk, hkm⟩ := h
  have hnk : Cycles.Spreads c.written n k :=
    Cycles.spreads_iff.2 ⟨f.toWrittenFragment, by rw [Catalogue.get?_written, hf, Option.map_some],
      Selection.mem_allSpreads_iff.2 ⟨x, hx, hk⟩⟩
  refine ⟨⟨n, List.mem_singleton.2 rfl, .head hnk hkm⟩, ?_⟩
  rintro rfl
  exact hacyclic m (TransGen.head' hnk hkm)

/-- Branches do not depend on which fragments remain, if all that a selection leads to do. -/
lemma ofSelection_congr (hacyclic : Cycles.IsAcyclic c.written) {remaining remaining' : List String}
    {x : Selection} (h : ∀ n f, c.fragments.get? n = some f → LeadsTo c.written x n → n ∈ remaining)
    (h' : ∀ n f, c.fragments.get? n = some f → LeadsTo c.written x n → n ∈ remaining') :
    ofSelection c.fragments remaining x = ofSelection c.fragments remaining' x := by
  -- What a selection leads to, the selections that it is inside of lead to.
  have hinside : ∀ {selections : List Selection} {x y : Selection}, y.spreads =
      Selection.allSpreads selections →
      x ∈ selections → ∀ {n}, LeadsTo c.written x n → LeadsTo c.written y n :=
    fun hy hx _ ⟨m, hm, hmn⟩ => ⟨m, hy ▸ Selection.mem_allSpreads_iff.2 ⟨_, hx, hm⟩, hmn⟩
  fun_induction ofSelection c.fragments remaining x generalizing remaining' with
  | case1 remaining aliasName name selections ih =>
    have hsame : ∀ x ∈ selections,
        ofSelection c.fragments remaining x = ofSelection c.fragments remaining' x := fun x hx =>
      ih x hx (fun n f hf hn => h n f hf (hinside rfl hx hn)) fun n f hf hn => h' n f hf
        (hinside rfl hx hn)
    rw [ofSelection_field, ← List.flatMap_congr hsame]
    simp
  | case2 remaining condition selections ih =>
    have hsame : ∀ x ∈ selections,
        ofSelection c.fragments remaining x = ofSelection c.fragments remaining' x := fun x hx =>
      ih x hx (fun n f hf hn => h n f hf (hinside rfl hx hn)) fun n f hf hn => h' n f hf
        (hinside rfl hx hn)
    rw [ofSelection_inline, ← List.flatMap_congr hsame]
    simp
  | case3 remaining n hn f hf ih =>
    have hstart : LeadsTo c.written (.spread n) n := ⟨n, List.mem_singleton.2 rfl, .refl⟩
    have hbelow : ∀ {names : List String},
        (∀ m g, c.fragments.get? m = some g → LeadsTo c.written (.spread n) m → m ∈ names) →
        ∀ x ∈ f.selections,
          ∀ m g, c.fragments.get? m = some g → LeadsTo c.written x m → m ∈ names.erase n := by
      intro names hnames x hx m g hg hm
      obtain ⟨hm, hne⟩ := hm.of_fragment hacyclic hf hx
      exact (List.mem_erase_of_ne hne).2 (hnames m g hg hm)
    have hsame : ∀ x ∈ f.selections, ofSelection c.fragments (remaining.erase n) x =
        ofSelection c.fragments (remaining'.erase n) x := fun x hx =>
      ih x (hbelow h x hx) (hbelow h' x hx)
    rw [ofSelection, if_pos (h' n f hf hstart), hf]
    simp only
    rw [List.flatMap_congr hsame]
  | case4 remaining n hn hf => exact (ofSelection_spread_of_none hf remaining').symm
  | case5 remaining n hn =>
    have hnone : c.fragments.get? n = none := by
      cases hf : c.fragments.get? n with
      | none => rfl
      | some f => exact absurd (h n f hf ⟨n, List.mem_singleton.2 rfl, .refl⟩) hn
    exact (ofSelection_spread_of_none hnone remaining').symm

/-- Without cycles, the branches of a spread are those of its fragment under the condition of the
fragment. -/
theorem ofSelection_spread (hacyclic : Cycles.IsAcyclic c.written) {n : String} {f : Fragment}
    (hf : c.fragments.get? n = some f) :
    ofSelection c.fragments c.fragments.keys (.spread n) =
      [.within (some f.condition) (ofSelections c.fragments f.selections)] := by
  have hkeys : ∀ {m g}, c.fragments.get? m = some g → m ∈ c.fragments.keys := fun hg =>
    Table.mem_keys_iff.2 ⟨_, hg⟩
  have hsame : ∀ x ∈ f.selections, ofSelection c.fragments (c.fragments.keys.erase n) x =
      ofSelection c.fragments c.fragments.keys x := by
    intro x hx
    refine ofSelection_congr hacyclic ?_ fun m g hg _ => hkeys hg
    intro m g hg hm
    have hne := (hm.of_fragment hacyclic hf hx).2
    exact (List.mem_erase_of_ne hne).2 (hkeys hg)
  rw [ofSelection, if_pos (hkeys hf), hf]
  simp only
  rw [List.flatMap_congr hsame]
  rfl

lemma ofSelections_cons (fragments : Table Fragment) (x : Selection) (rest : List Selection) :
    ofSelections fragments (x :: rest) =
    ofSelection fragments fragments.keys x ++ ofSelections fragments rest :=
  List.flatMap_cons

lemma ofSelections_append (fragments : Table Fragment) (xs ys : List Selection) :
    ofSelections fragments (xs ++ ys) = ofSelections fragments xs ++ ofSelections fragments ys :=
  List.flatMap_append

/-- A field that is collected, with the branches of its selections. -/
def entryOf (fragments : Table Fragment) (f : Collected) : Entry :=
  ⟨f.key, f.name, ofSelections fragments f.selections⟩

lemma allFields_append (counts : String → Bool) (as bs : List Branch) :
    allFields counts (as ++ bs) = allFields counts as ++ allFields counts bs := by
  induction as with
  | nil => rfl
  | cons a rest ih => rw [List.cons_append, allFields, allFields, ih, List.append_assoc]

/-- The fields of branches are those that are collected. -/
theorem allFields_ofSelections {s : Schema} (hacyclic : Cycles.IsAcyclic c.written)
    {concrete parent : String} {selections : List Selection} {fs : List Collected}
    (h : Collected.Collects s c.written concrete parent selections fs) :
    allFields (fun condition => s.applies condition concrete)
      (ofSelections c.fragments selections) = fs.map (entryOf c.fragments) := by
  induction h with
  | nil => rfl
  | field aliasName name inside _ ih =>
    rw [ofSelections_cons, allFields_append, ih, ofSelection_field]
    rfl
  | @inline _ condition _ _ _ _ hc _ _ ihinside ih =>
    rw [ofSelections_cons, allFields_append, ih, ofSelection_inline, List.map_append, ← ihinside]
    cases condition with
    | none => simp [allFields, fields, ofSelections]
    | some condition =>
      have hcounts : s.applies condition concrete = true := hc condition rfl
      simp [allFields, fields, ofSelections, hcounts]
  | inlineSkipped inside hnot _ ih =>
    rw [ofSelections_cons, allFields_append, ih, ofSelection_inline]
    simp [allFields, fields, hnot]
  | @spread _ n f _ _ _ hf happlies _ _ ihinside ih =>
    rw [Catalogue.get?_written] at hf
    obtain ⟨g, hg, rfl⟩ := Option.map_eq_some_iff.1 hf
    rw [ofSelections_cons, allFields_append, ih, ofSelection_spread hacyclic hg,
      List.map_append, ← ihinside]
    simp [allFields, fields, happlies]
  | @spreadSkipped _ n _ _ hnot _ ih =>
    rw [ofSelections_cons, allFields_append, ih]
    cases hg : c.fragments.get? n with
    | none =>
      rw [ofSelection_spread_of_none hg]
      rfl
    | some g =>
      have hcounts : ¬s.applies g.condition concrete :=
        hnot g.toWrittenFragment (by rw [Catalogue.get?_written, hg, Option.map_some])
      rw [ofSelection_spread hacyclic hg]
      simp [allFields, fields, hcounts]

end Selections

/-! ## Entries -/

lemma map_key_addEntry (e : Entry) (es : List Entry) :
    (addEntry e es).map (·.key) =
      if e.key ∈ es.map (·.key) then es.map (·.key) else es.map (·.key) ++ [e.key] := by
  induction es with
  | nil => simp [addEntry]
  | cons d rest ih =>
    rw [addEntry]
    split
    next hkey => simp [hkey]
    next hkey =>
      rw [List.map_cons, ih, List.map_cons]
      by_cases hmem : e.key ∈ rest.map (·.key)
      · rw [if_pos hmem, if_pos (List.mem_cons_of_mem _ hmem)]
      · have hnot : e.key ∉ d.key :: rest.map (·.key) := by simp [hmem, Ne.symm hkey]
        rw [if_neg hmem, if_neg hnot, List.cons_append]

/-- What adding a field makes of entries: the entry of its key takes up what is inside it, or it
comes to the end. -/
lemma mem_addEntry {e d : Entry} {es : List Entry} (hnodup : (es.map (·.key)).Nodup)
    (h : d ∈ addEntry e es) :
    (d ∈ es ∧ d.key ≠ e.key) ∨
      (∃ d' ∈ es, d'.key = e.key ∧ d = { d' with inside := d'.inside ++ e.inside }) ∨
        (e.key ∉ es.map (·.key) ∧ d = e) := by
  induction es with
  | nil => exact .inr (.inr ⟨by simp, by simpa [addEntry] using h⟩)
  | cons d' rest ih =>
    rw [List.map_cons, List.nodup_cons] at hnodup
    rw [addEntry] at h
    split at h
    next hkey =>
      rcases List.mem_cons.1 h with h | h
      · exact .inr (.inl ⟨d', List.mem_cons_self, hkey, h⟩)
      · refine .inl ⟨List.mem_cons_of_mem _ h, fun hd => hnodup.1 ?_⟩
        rw [hkey, ← hd]
        exact List.mem_map_of_mem h
    next hkey =>
      rcases List.mem_cons.1 h with rfl | h
      · exact .inl ⟨List.mem_cons_self, hkey⟩
      · rcases ih hnodup.2 h with ⟨hd, hne⟩ | ⟨d'', hd, hk, rfl⟩ | ⟨hnot, rfl⟩
        · exact .inl ⟨List.mem_cons_of_mem _ hd, hne⟩
        · exact .inr (.inl ⟨d'', List.mem_cons_of_mem _ hd, hk, rfl⟩)
        · exact .inr (.inr ⟨by simp [hnot, Ne.symm hkey], rfl⟩)

/-- Fields put together by their keys. -/
def gathered (es : List Entry) : List Entry :=
  es.foldl (fun es e => addEntry e es) []

lemma gathered_append_singleton (es : List Entry) (e : Entry) :
    gathered (es ++ [e]) = addEntry e (gathered es) := by
  rw [gathered, gathered, List.foldl_append]
  rfl

lemma eraseDups_append_singleton (ks : List String) (k : String) :
    (ks ++ [k]).eraseDups = if k ∈ ks then ks.eraseDups else ks.eraseDups ++ [k] := by
  rw [List.eraseDups_append]
  by_cases hk : k ∈ ks <;> simp [List.removeAll, hk, List.eraseDups_cons]

/-- The keys of entries are those of the fields, each where it is first met. -/
theorem map_key_gathered (es : List Entry) :
    (gathered es).map (·.key) = (es.map (·.key)).eraseDups := by
  induction es using List.reverseRecOn with
  | nil => rfl
  | append_singleton es e ih =>
    rw [gathered_append_singleton, map_key_addEntry, ih, List.map_append, List.map_singleton,
      eraseDups_append_singleton]
    by_cases hmem : e.key ∈ es.map (·.key)
    · rw [if_pos (List.mem_eraseDups.2 hmem), if_pos hmem]
    · rw [if_neg fun h => hmem (List.mem_eraseDups.1 h), if_neg hmem]

lemma nodup_map_key_gathered (es : List Entry) : ((gathered es).map (·.key)).Nodup := by
  induction es using List.reverseRecOn with
  | nil => exact .nil
  | append_singleton es e ih =>
    rw [gathered_append_singleton, map_key_addEntry]
    split
    next => exact ih
    next hmem =>
      rw [List.nodup_append]
      exact ⟨ih, by simp, by rintro _ hk _ hk' rfl; exact hmem (List.mem_singleton.1 hk' ▸ hk)⟩

/-- An entry has the name of the first field of its key, and all that is inside the fields of the
key. -/
theorem spec_of_mem_gathered {es : List Entry} {d : Entry} (h : d ∈ gathered es) :
    d.inside = (es.filter fun e => e.key = d.key).flatMap (·.inside) ∧
      ∃ first, es.find? (fun e => e.key = d.key) = some first ∧ d.name = first.name := by
  induction es using List.reverseRecOn generalizing d with
  | nil => cases h
  | append_singleton es e ih =>
    rw [gathered_append_singleton] at h
    rcases mem_addEntry (nodup_map_key_gathered es) h with ⟨hd, hne⟩ | ⟨d', hd, hkey,
      rfl⟩ | ⟨hnot, rfl⟩
    · obtain ⟨hinside, first, hfirst, hname⟩ := ih hd
      refine ⟨?_, first, ?_, hname⟩
      · rw [List.filter_append, hinside]
        simp [Ne.symm hne]
      · rw [List.find?_append, hfirst]
        rfl
    · obtain ⟨hinside, first, hfirst, hname⟩ := ih hd
      refine ⟨?_, first, ?_, hname⟩
      · rw [List.filter_append, hinside]
        simp [hkey]
      · rw [List.find?_append, hfirst]
        rfl
    · have hnone : ∀ e' ∈ es, e'.key ≠ d.key := by
        intro e' he' hk
        rw [map_key_gathered, List.mem_eraseDups] at hnot
        exact hnot (hk ▸ List.mem_map_of_mem he')
      have hfilter : es.filter (fun e => e.key = d.key) = [] :=
        List.filter_eq_nil_iff.2 (by simpa using hnone)
      have hfind : es.find? (fun e => e.key = d.key) = none :=
        List.find?_eq_none.2 (by simpa using hnone)
      refine ⟨?_, d, ?_, rfl⟩
      · rw [List.filter_append, hfilter]
        simp
      · rw [List.find?_append, hfind]
        simp

end OperationGate.Branch
