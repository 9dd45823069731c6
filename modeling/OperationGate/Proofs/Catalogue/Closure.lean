import OperationGate.Proofs.Catalogue.Standalone
import OperationGate.Proofs.Selection.Collected

/-!
# The enums and input objects of a catalogue

Selections name an enum if a field of theirs has it as its type, at any depth and through fragments
(`Names`). A catalogue has the enums that its operations and fragments name
(`mem_enums_of_operation`, `mem_enums_of_fragment`), and the enums and input objects that the types
of variables lead to (`GivenType.spec`).

Fields are collected for the type of a value, but what a field names is looked up in the type that
it is written for. What a collected field names, the selections that it is collected from name
(`names_of_collects`).
-/

namespace OperationGate

namespace Dependencies

variable {s : Schema} {fragments : Table WrittenFragment} {parent n : String}
  {selections : List Selection}

/-- Selections on a parent type name an enum: it is the type of a field in them, or a fragment that
they spread names it. -/
inductive Names (s : Schema) (fragments : Table WrittenFragment) (n : String) :
    String → List Selection → Prop where
  | field {parent : String} {selections : List Selection} :
    .enum n ∈ allNamed s parent selections → Names s fragments n parent selections
  | spread {parent m : String} {selections : List Selection} {f : WrittenFragment} :
    .fragment m ∈ allNamed s parent selections → fragments.get? m = some f →
      Names s fragments n f.condition f.selections → Names s fragments n parent selections

@[simp]
lemma mem_enumsAmong {ns : List Named} {n : String} : n ∈ enumsAmong ns ↔ .enum n ∈ ns := by
  rw [enumsAmong, List.mem_filterMap]
  constructor
  · rintro ⟨m, hm, hn⟩
    cases m with
    | fragment _ => cases hn
    | enum _ =>
      cases hn
      exact hm
  · exact fun h => ⟨_, h, rfl⟩

/-- Selections that name more lead to more enums. -/
lemma Names.mono {parent' : String} {selections' : List Selection}
    (h : Names s fragments n parent selections)
    (hsub : ∀ x ∈ allNamed s parent selections, x ∈ allNamed s parent' selections') :
    Names s fragments n parent' selections' := by
  cases h with
  | field hn => exact .field (hsub _ hn)
  | spread hm hf hn => exact .spread (hsub _ hm) hf hn

lemma Names.cons {x : Selection} (h : Names s fragments n parent selections) :
    Names s fragments n parent (x :: selections) :=
  h.mono fun _ hx => List.mem_append_right _ hx

lemma not_names_nil : ¬Names s fragments n parent [] := by
  intro h
  cases h with
  | field hn => cases hn
  | spread hm _ _ => cases hm

/-- The enums that selections name are among what they depend on. -/
lemma mem_enums_of_names (h : Names s fragments n parent selections) (types : List String) :
    n ∈ (Dependencies.of s fragments parent selections types).enums := by
  have hfound : .enum n ∈ allNamed s parent selections ∨
      ∃ m ∈ fragmentsOf s fragments parent selections, .enum n ∈ namedBy s fragments m := by
    simp only [fragmentsOf, Reach.mem_gather_iff]
    induction h with
    | field hn => exact .inl hn
    | @spread parent m selections f hm hf _ ih =>
      have hstart : Reach.Leads (fun k => fragmentsAmong (namedBy s fragments k)) fragments.keys
          (fragmentsAmong (allNamed s parent selections)) m :=
        .start (Table.mem_keys_iff.2 ⟨f, hf⟩) (mem_fragmentsAmong.2 hm)
      have hnamed : allNamed s f.condition f.selections =
          namedBy s fragments m := by rw [namedBy, hf]
      rw [hnamed] at ih
      rcases ih with hn | ⟨k, hk, hn⟩
      · exact .inr ⟨m, hstart, hn⟩
      · exact .inr ⟨k, hk.of_next hstart, hn⟩
  apply Table.mem_sortedNames.2
  rw [List.mem_append, List.mem_append, List.mem_flatMap]
  rcases hfound with hn | ⟨m, hm, hn⟩
  · exact .inl (.inl (mem_enumsAmong.2 hn))
  · exact .inl (.inr ⟨m, hm, mem_enumsAmong.2 hn⟩)

mutual

/-- An enum that is named in a selection is an enum of the schema. -/
lemma kind?_of_mem_named {parent : String} {x : Selection} (h : .enum n ∈ named s parent x) :
    s.kind? n = some .enum := by
  cases x with
  | field aliasName name inside =>
    rw [named] at h
    split at h
    next => cases h
    next f hf =>
      split at h
      next => cases h
      next hkind =>
        obtain rfl : n = f.type.base := by simpa using h
        exact hkind
      next => exact kind?_of_mem_allNamed h
  | spread name => simp [named] at h
  | inline condition inside =>
    rw [named] at h
    exact kind?_of_mem_allNamed h

lemma kind?_of_mem_allNamed {parent : String} {selections : List Selection}
    (h : .enum n ∈ allNamed s parent selections) : s.kind? n = some .enum := by
  cases selections with
  | nil => cases h
  | cons x rest =>
    rcases List.mem_append.1 h with h | h
    · exact kind?_of_mem_named h
    · exact kind?_of_mem_allNamed h

end

/-- What selections depend on as enums are enums of the schema. -/
lemma kind?_of_mem_enums {types : List String}
    (h : n ∈ (Dependencies.of s fragments parent selections types).enums) :
    s.kind? n = some .enum := by
  have h := Table.mem_sortedNames.1 h
  rw [List.mem_append, List.mem_append, List.mem_flatMap] at h
  rcases h with (h | ⟨m, -, h⟩) | h
  · exact kind?_of_mem_allNamed (mem_enumsAmong.1 h)
  · rw [mem_enumsAmong, namedBy] at h
    split at h
    next => exact kind?_of_mem_allNamed h
    next => cases h
  · exact of_decide_eq_true (List.mem_filter.1 h).2

/-! ## What a collected field names -/

/-- What the selections inside a field of a type with fields name, the field names too. -/
lemma Names.of_inside {aliasName : Option String} {name : String} {inside : List Selection}
    {f : Field} {t : SchemaType} (hf : s.field? parent name = some f)
    (ht : s.get? f.type.base = some t) (hleaf : ¬t.isLeaf)
    (h : Names s fragments n f.type.base inside) :
    Names s fragments n parent [.field aliasName name inside] := by
  refine h.mono fun x hx => ?_
  rw [allNamed, named_of_composite hf ht hleaf]
  exact List.mem_append_left _ hx

/-- What the selection set of a collected field names, the field names too. -/
lemma names_of_part {f : Collected} (hfits : Validity.Fits s fragments f.parent f.selection)
    (h : Names s fragments n (Collected.part s f).1 (Collected.part s f).2) :
    Names s fragments n f.parent [f.selection] := by
  obtain ⟨key, name, parent, inside⟩ := f
  cases hfits with
  | typename => exact absurd h not_names_nil
  | leaf => exact absurd h not_names_nil
  | composite _ _ hg ht hleaf _ _ =>
    rw [Collected.part, hg, Option.elim_some] at h
    exact h.of_inside hg ht hleaf

/-- A collected field names its own type, if that is an enum. -/
lemma names_of_enum {f : Collected} (hfits : Validity.Fits s fragments f.parent f.selection)
    (hname : f.name ≠ "__typename") (hkind : s.kind? (Collected.part s f).1 = some .enum) :
    Names s fragments (Collected.part s f).1 f.parent [f.selection] := by
  obtain ⟨g, hg⟩ : ∃ g, s.field? f.parent f.name = some g := by
    obtain ⟨key, name, parent, inside⟩ := f
    cases hfits with
    | typename => exact absurd rfl hname
    | leaf _ _ hg _ _ => exact ⟨_, hg⟩
    | composite _ _ hg _ _ _ _ => exact ⟨_, hg⟩
  have hpart : (Collected.part s f).1 = g.type.base := by rw [Collected.part, hg, Option.elim_some]
  rw [hpart] at hkind ⊢
  apply Names.field
  simp [Collected.selection, allNamed, named, hg, hkind]

/-- What a collected field names, the selections that it is collected from name. -/
theorem names_of_collects {concrete : String} {fs : List Collected}
    (h : Collected.Collects s fragments concrete parent selections fs) {f : Collected} (hf : f ∈ fs)
    (hn : Names s fragments n f.parent [f.selection]) : Names s fragments n parent selections := by
  induction h with
  | nil => cases hf
  | field aliasName name inside _ ih =>
    rcases List.mem_cons.1 hf with rfl | hf
    · refine hn.mono fun x hx => ?_
      rw [allNamed, Collected.selection, named, allNamed, List.append_nil] at hx
      rw [allNamed, named]
      exact List.mem_append_left _ hx
    · exact (ih hf).cons
  | inline _ _ _ ihinside ih =>
    rcases List.mem_append.1 hf with hf | hf
    · refine (ihinside hf).mono fun x hx => ?_
      rw [allNamed, named]
      exact List.mem_append_left _ hx
    · exact (ih hf).cons
  | inlineSkipped _ _ _ ih => exact (ih hf).cons
  | @spread parent name _ _ _ _ hget _ _ _ ihinside ih =>
    rcases List.mem_append.1 hf with hf | hf
    · have hnamed : .fragment name ∈ named s parent (.spread name) := by
        rw [named]
        exact List.mem_cons_self
      exact .spread (List.mem_append_left _ hnamed) hget (ihinside hf)
    · exact (ih hf).cons
  | spreadSkipped _ _ ih => exact (ih hf).cons

/-! ## What the types of variables lead to -/

/-- A type leads to the types of the fields of an input object. -/
lemma mem_inputTypes {name : String} {t : SchemaType} (ht : s.get? name = some t)
    (hkind : t.kind = .inputObject) {f : InputField} (hf : f ∈ t.inputFields) :
    f.type.base ∈ inputTypes s name := by
  rw [inputTypes, ht]
  simp only [hkind, if_true]
  exact List.mem_map_of_mem hf

/-- What variables lead to is among what selections with the variables depend on, if it is an enum
or an input object. -/
lemma spec_of_leads {types : List String} (h : n ∈ variableTypes s types)
    (fragments : Table WrittenFragment) (parent : String) (selections : List Selection) :
    (s.kind? n = some .enum → n ∈ (Dependencies.of s fragments parent selections types).enums) ∧
      (s.kind? n = some .inputObject →
        n ∈ (Dependencies.of s fragments parent selections types).inputs) := by
  constructor
  · intro hkind
    exact Table.mem_sortedNames.2
      (List.mem_append_right _ (List.mem_filter.2 ⟨h, decide_eq_true hkind⟩))
  · intro hkind
    exact Table.mem_sortedNames.2 (List.mem_filter.2 ⟨h, decide_eq_true hkind⟩)

end Dependencies

namespace Catalogue

open Dependencies

variable {s : Schema} {root : Option Path} {docs : List SourceDocument} {c : Catalogue} {n : String}

lemma mem_enums_of_mem_dependencies {op : Operation} (hop : op ∈ c.operations)
    (hn : n ∈ op.dependencies.enums) : n ∈ c.enums :=
  Table.mem_sortedNames.2 (List.mem_append_left _ (List.mem_flatMap.2 ⟨op, hop, hn⟩))

lemma dependencies_of_mem_operations (h : ofDocuments s root docs = .ok c) {op : Operation}
    (hop : op ∈ c.operations) :
    op.dependencies =
      .of s c.written op.rootType op.selections (op.parameters.map (·.type.base)) := by
  obtain ⟨-, hmade⟩ := (lists_of_ofDocuments h).operation hop
  obtain ⟨-, -, hdependencies, -⟩ := operationOf_eq_ok_iff.1 hmade
  exact hdependencies

lemma dependencies_of_get?_fragments (h : ofDocuments s root docs = .ok c) {name : String}
    {f : Fragment} (hf : c.fragments.get? name = some f) :
    f.dependencies = .of s c.written f.condition f.selections [] := by
  obtain ⟨-, -, hmade⟩ := (lists_of_ofDocuments h).fragment hf
  exact congrArg (·.dependencies) hmade.symm

/-- A catalogue has the enums that its operations name. -/
theorem mem_enums_of_operation (h : ofDocuments s root docs = .ok c) {op : Operation}
    (hop : op ∈ c.operations) (hn : Names s c.written n op.rootType op.selections) :
    n ∈ c.enums := by
  refine mem_enums_of_mem_dependencies hop ?_
  rw [dependencies_of_mem_operations h hop]
  exact mem_enums_of_names hn _

/-- A catalogue has the enums that its fragments name. -/
theorem mem_enums_of_fragment (h : ofDocuments s root docs = .ok c) {name : String} {f : Fragment}
    (hf : c.fragments.get? name = some f) (hn : Names s c.written n f.condition f.selections) :
    n ∈ c.enums := by
  have hdependencies : n ∈ f.dependencies.enums := by
    rw [dependencies_of_get?_fragments h hf]
    exact mem_enums_of_names hn _
  refine Table.mem_sortedNames.2
    (List.mem_append_right _ (List.mem_flatMap.2 ⟨f, ?_, hdependencies⟩))
  exact Table.mem_values_iff.2 ⟨name, hf⟩

/-- The enums of a catalogue are enums of the schema. -/
lemma kind?_of_mem_enums (h : ofDocuments s root docs = .ok c) (hn : n ∈ c.enums) :
    s.kind? n = some .enum := by
  rcases List.mem_append.1 (Table.mem_sortedNames.1 hn) with hn | hn
  · obtain ⟨op, hop, hn⟩ := List.mem_flatMap.1 hn
    rw [dependencies_of_mem_operations h hop] at hn
    exact Dependencies.kind?_of_mem_enums hn
  · obtain ⟨f, hf, hn⟩ := List.mem_flatMap.1 hn
    obtain ⟨name, hf⟩ := Table.mem_values_iff.1 hf
    rw [dependencies_of_get?_fragments h hf] at hn
    exact Dependencies.kind?_of_mem_enums hn

/-- A type that the variables of an operation lead to. -/
def GivenType (s : Schema) (c : Catalogue) (n : String) : Prop :=
  ∃ op ∈ c.operations, n ∈ variableTypes s (op.parameters.map (·.type.base))

/-- A catalogue has the enums and the input objects that the variables of its operations lead to. -/
theorem GivenType.spec (h : ofDocuments s root docs = .ok c) (hn : GivenType s c n) :
    (s.kind? n = some .enum → n ∈ c.enums) ∧ (s.kind? n = some .inputObject → n ∈ c.inputs) := by
  obtain ⟨op, hop, hn⟩ := hn
  obtain ⟨henums, hinputs⟩ := spec_of_leads hn c.written op.rootType op.selections
  rw [← dependencies_of_mem_operations h hop] at henums hinputs
  constructor
  · exact fun hkind => mem_enums_of_mem_dependencies hop (henums hkind)
  · exact fun hkind => Table.mem_sortedNames.2 (List.mem_flatMap.2 ⟨op, hop, hinputs hkind⟩)

/-- The variables of an operation lead to their own types. -/
lemma givenType_of_parameter {op : Operation} (hop : op ∈ c.operations) {v : OperationVariable}
    (hv : v ∈ op.parameters) {t : SchemaType} (ht : s.get? v.type.base = some t) :
    GivenType s c v.type.base := by
  refine ⟨op, hop, ?_⟩
  rw [variableTypes, Reach.mem_gather_iff]
  exact .start (Table.mem_keys_iff.2 ⟨t, ht⟩) (List.mem_map.2 ⟨v, hv, rfl⟩)

/-- The input objects of a catalogue are types that variables lead to. -/
lemma givenType_of_mem_inputs (h : ofDocuments s root docs = .ok c) (hn : n ∈ c.inputs) :
    GivenType s c n ∧ s.kind? n = some .inputObject := by
  obtain ⟨op, hop, hn⟩ := List.mem_flatMap.1 (Table.mem_sortedNames.1 hn)
  rw [dependencies_of_mem_operations h hop] at hn
  obtain ⟨hgiven, hkind⟩ := List.mem_filter.1 (Table.mem_sortedNames.1 hn)
  exact ⟨⟨op, hop, hgiven⟩, of_decide_eq_true hkind⟩

/-- The types of the fields of an input object are types that variables lead to, if the input object
is. -/
lemma GivenType.inputField (h : GivenType s c n) {t : SchemaType} (ht : s.get? n = some t)
    (hkind : t.kind = .inputObject) {f : InputField} (hf : f ∈ t.inputFields) {u : SchemaType}
    (hu : s.get? f.type.base = some u) : GivenType s c f.type.base := by
  obtain ⟨op, hop, hn⟩ := h
  rw [variableTypes, Reach.mem_gather_iff] at hn
  refine ⟨op, hop, ?_⟩
  rw [variableTypes, Reach.mem_gather_iff]
  exact .step hn (Table.mem_keys_iff.2 ⟨u, hu⟩) (mem_inputTypes ht hkind hf)

end Catalogue

end OperationGate
