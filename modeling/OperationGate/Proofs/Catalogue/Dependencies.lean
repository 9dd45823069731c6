import OperationGate.Catalogue.Closure
import OperationGate.Proofs.Catalogue.Cycles
import OperationGate.Proofs.Catalogue.Fit
import OperationGate.Proofs.Schema.Subtype

/-!
# The fragments that selections depend on

The search for what selections depend on passes over fields that the schema does not know.
Selections that fit the schema have no such fields, so no spread is missed: the fragments that are
found are just those that the selections lead to, through fields, inline fragments and other
fragments (`mem_fragmentsOf_iff`).
-/

namespace OperationGate.Dependencies

open Relation

variable {s : Schema} {fragments : Table WrittenFragment} {parent : String}

@[simp]
lemma mem_fragmentsAmong {ns : List Named} {n : String} :
    n ∈ fragmentsAmong ns ↔ .fragment n ∈ ns := by
  rw [fragmentsAmong, List.mem_filterMap]
  constructor
  · rintro ⟨m, hm, hn⟩
    cases m with
    | enum _ => cases hn
    | fragment _ =>
      cases hn
      exact hm
  · exact fun h => ⟨_, h, rfl⟩

mutual

/-- A fragment that is named in a selection is spread there. -/
lemma mem_spreads_of_mem_named {parent : String} {x : Selection} {n : String}
    (h : .fragment n ∈ named s parent x) : n ∈ x.spreads := by
  cases x with
  | field aliasName name inside =>
    rw [Selection.spreads]
    rw [named] at h
    split at h
    next => cases h
    next =>
      split at h
      next => cases h
      next => simp at h
      next => exact mem_allSpreads_of_mem_allNamed h
  | spread name => simpa [named, Selection.spreads] using h
  | inline condition inside =>
    rw [Selection.spreads]
    rw [named] at h
    exact mem_allSpreads_of_mem_allNamed h

lemma mem_allSpreads_of_mem_allNamed {parent : String} {selections : List Selection} {n : String}
    (h : .fragment n ∈ allNamed s parent selections) : n ∈ Selection.allSpreads selections := by
  cases selections with
  | nil => cases h
  | cons x rest =>
    rcases List.mem_append.1 h with h | h
    · exact List.mem_append_left _ (mem_spreads_of_mem_named h)
    · exact List.mem_append_right _ (mem_allSpreads_of_mem_allNamed h)

end

/-- A field of a type that has fields names what the selections inside it name. -/
lemma named_of_composite {aliasName : Option String} {name : String} {inside : List Selection}
    {f : Field} {t : SchemaType} (hf : s.field? parent name = some f)
    (ht : s.get? f.type.base = some t) (hleaf : ¬t.isLeaf) :
    named s parent (.field aliasName name inside) = allNamed s f.type.base inside := by
  have hkind : s.kind? f.type.base = some t.kind := Schema.kind?_eq_of_get? ht
  rw [named, hf]
  simp only [hkind]
  split
  next h => cases h
  next h => simp [SchemaType.isLeaf, Option.some.inj h] at hleaf
  next => rfl

mutual

/-- A fragment that is spread in a selection that fits is named there, and it is known. -/
lemma mem_named_of_fits {parent : String} {x : Selection}
    (hfits : Validity.Fits s fragments parent x) {n : String} (h : n ∈ x.spreads) :
    .fragment n ∈ named s parent x ∧ ∃ f, fragments.get? n = some f := by
  cases x with
  | field aliasName name inside =>
    rw [Selection.spreads] at h
    cases hfits with
    | typename => cases h
    | leaf => cases h
    | @composite _ _ f t _ _ _ hf ht hleaf _ hinside =>
      rw [named_of_composite hf ht hleaf]
      obtain ⟨hmembers, -⟩ := hinside
      exact mem_allNamed_of_fits hmembers h
  | spread name =>
    obtain rfl : n = name := by simpa [Selection.spreads] using h
    cases hfits with
    | spread hf _ => exact ⟨List.mem_singleton.2 rfl, _, hf⟩
  | inline condition inside =>
    rw [Selection.spreads] at h
    cases hfits with
    | inline _ _ _ hinside =>
      obtain ⟨hmembers, -⟩ := hinside
      rw [named]
      exact mem_allNamed_of_fits hmembers h

lemma mem_allNamed_of_fits {parent : String} {selections : List Selection}
    (hfits : ∀ x ∈ selections, Validity.Fits s fragments parent x) {n : String}
    (h : n ∈ Selection.allSpreads selections) :
    .fragment n ∈ allNamed s parent selections ∧ ∃ f, fragments.get? n = some f := by
  cases selections with
  | nil => cases h
  | cons x rest =>
    rw [List.forall_mem_cons] at hfits
    rcases List.mem_append.1 h with h | h
    · obtain ⟨hnamed, hf⟩ := mem_named_of_fits hfits.1 h
      exact ⟨List.mem_append_left _ hnamed, hf⟩
    · obtain ⟨hnamed, hf⟩ := mem_allNamed_of_fits hfits.2 h
      exact ⟨List.mem_append_right _ hnamed, hf⟩

end

/-- A fragment that the selections of a fragment name is spread by it. -/
lemma spreads_of_mem_namedBy {m n : String} (h : .fragment n ∈ namedBy s fragments m) :
    Cycles.Spreads fragments m n := by
  rw [namedBy] at h
  split at h
  next f hf => exact Cycles.spreads_iff.2 ⟨f, hf, mem_allSpreads_of_mem_allNamed h⟩
  next => cases h

/-- A fragment that is spread by a fragment that fits is named there, and it is known. -/
lemma mem_namedBy_of_spreads
    (hfragments : ∀ n f, fragments.get? n = some f → Validity.FragmentFits s fragments f)
    {m n : String} (h : Cycles.Spreads fragments m n) :
    .fragment n ∈ namedBy s fragments m ∧ ∃ f, fragments.get? n = some f := by
  obtain ⟨f, hf, hn⟩ := Cycles.spreads_iff.1 h
  obtain ⟨hmembers, -⟩ := (hfragments m f hf).selections
  rw [namedBy, hf]
  exact mem_allNamed_of_fits hmembers hn

/-- The fragments that are found for selections that fit are those that the selections lead to. -/
theorem mem_fragmentsOf_iff
    (hfragments : ∀ n f, fragments.get? n = some f → Validity.FragmentFits s fragments f)
    {selections : List Selection} (hfits : Validity.FitsSet s fragments parent selections)
    {n : String} :
    n ∈ fragmentsOf s fragments parent selections ↔ Cycles.LeadTo fragments selections n := by
  rw [fragmentsOf, Reach.mem_gather_iff]
  constructor
  · intro h
    induction h with
    | start _ hn => exact ⟨_, mem_allSpreads_of_mem_allNamed (mem_fragmentsAmong.1 hn), .refl⟩
    | step _ _ hn ih =>
      obtain ⟨m, hm, hlead⟩ := ih
      exact ⟨m, hm, hlead.tail (spreads_of_mem_namedBy (mem_fragmentsAmong.1 hn))⟩
  · rintro ⟨m, hm, hlead⟩
    obtain ⟨hmembers, -⟩ := hfits
    induction hlead with
    | refl =>
      obtain ⟨hnamed, hf⟩ := mem_allNamed_of_fits hmembers hm
      exact .start (Table.mem_keys_iff.2 hf) (mem_fragmentsAmong.2 hnamed)
    | tail _ hn ih =>
      obtain ⟨hnamed, hf⟩ := mem_namedBy_of_spreads hfragments hn
      exact .step ih (Table.mem_keys_iff.2 hf) (mem_fragmentsAmong.2 hnamed)

end OperationGate.Dependencies
