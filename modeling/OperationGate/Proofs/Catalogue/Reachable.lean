import Mathlib
import OperationGate.Proofs.Catalogue.Closure
import OperationGate.Proofs.Catalogue.CycleSearch

/-!
# Dependencies are what is reached

What is spread, selected and given is said here without any search. Selections reach the fragments
that stand in them as spreads, and those that these mention (`Selection.Reaches`); they select the
types of their fields, at any depth (`Selection.Selects`); variables give their types, and the types
of the fields of the input objects among them (`Gives`). For operations and fragments of accepted
documents, the dependencies are just what is reached, selected and given, whichever way these lead
back: `Catalogue.exact_of_ofDocuments`.
-/

namespace OperationGate

open Relation

namespace Selection

/-- Selections on a parent type select a field whose values are of a type, inside whatever fields
and inline fragments. -/
inductive Selects (s : Schema) (n : String) : String → List Selection → Prop where
  | here {parent name : String} {aliasName : Option String} {inside selections : List Selection}
    {f : Field} :
    .field aliasName name inside ∈ selections → s.field? parent name = some f → f.type.base = n →
      Selects s n parent selections
  | field {parent name : String} {aliasName : Option String} {inside selections : List Selection}
    {f : Field} :
    .field aliasName name inside ∈ selections → s.field? parent name = some f →
      Selects s n f.type.base inside → Selects s n parent selections
  | inline {parent : String} {condition : Option String} {inside selections : List Selection} :
    .inline condition inside ∈ selections → Selects s n (condition.getD parent) inside →
    Selects s n parent selections

lemma Selects.mono {s : Schema} {n parent : String} {selections rest : List Selection}
    (h : Selects s n parent selections) (hsub : selections ⊆ rest) : Selects s n parent rest := by
  cases h with
  | here hx hf hn => exact .here (hsub hx) hf hn
  | field hx hf h => exact .field (hsub hx) hf h
  | inline hx h => exact .inline (hsub hx) h

/-- Selections reach a fragment: it stands in them as a spread, or in a fragment that they reach. -/
def Reaches (fragments : Table WrittenFragment) (selections : List Selection) (n : String) : Prop :=
  ∃ m, Within (.spread m) selections ∧ ReflTransGen (Cycles.Mentions fragments) m n

lemma reaches_iff_leadTo {fragments : Table WrittenFragment} {selections : List Selection}
    {n : String} : Reaches fragments selections n ↔ Cycles.LeadTo fragments selections n := by
  rw [Reaches, Cycles.LeadTo, Cycles.mentions_eq_spreads]
  simp only [mem_allSpreads_iff_within]

end Selection

namespace Dependencies

open Selection

variable {s : Schema} {fragments : Table WrittenFragment} {parent n : String}
  {selections : List Selection}

/-! ## Types that are selected -/

mutual

/-- An enum that is named in a selection is the type of a field in it. -/
lemma selects_of_mem_named {parent : String} {x : Selection} (h : .enum n ∈ named s parent x) :
    Selects s n parent [x] := by
  cases x with
  | field aliasName name inside =>
    rw [named] at h
    split at h
    next => cases h
    next f hf =>
      split at h
      next => cases h
      next =>
        obtain rfl : n = f.type.base := by simpa using h
        exact .here List.mem_cons_self hf rfl
      next => exact .field List.mem_cons_self hf (selects_of_mem_allNamed h)
  | spread name => simp [named] at h
  | inline condition inside =>
    rw [named] at h
    exact .inline List.mem_cons_self (selects_of_mem_allNamed h)

lemma selects_of_mem_allNamed {parent : String} {selections : List Selection}
    (h : .enum n ∈ allNamed s parent selections) : Selects s n parent selections := by
  cases selections with
  | nil => cases h
  | cons x rest =>
    rcases List.mem_append.1 h with h | h
    · exact (selects_of_mem_named h).mono (by simp)
    · exact (selects_of_mem_allNamed h).mono (List.subset_cons_self x rest)

end

lemma mem_allNamed_of_mem {x : Selection} (hx : x ∈ selections) {m : Named}
    (h : m ∈ named s parent x) : m ∈ allNamed s parent selections := by
  induction selections with
  | nil => cases hx
  | cons y rest ih =>
    rcases List.mem_cons.1 hx with rfl | hx
    · exact List.mem_append_left _ h
    · exact List.mem_append_right _ (ih hx)

/-- An enum that is the type of a field in selections that fit is named there: no field is passed
over. -/
lemma mem_allNamed_of_selects (hkind : s.kind? n = some .enum)
    (hfits : ∀ x ∈ selections, Validity.Fits s fragments parent x)
    (h : Selects s n parent selections) : .enum n ∈ allNamed s parent selections := by
  induction h with
  | here hx hf hn =>
    subst hn
    refine mem_allNamed_of_mem hx ?_
    simp [named, hf, hkind]
  | field hx hf hinside ih =>
    refine mem_allNamed_of_mem hx ?_
    -- Only a field of a type with fields has selections inside it.
    cases hfits _ hx with
    | typename => cases hinside <;> contradiction
    | leaf => cases hinside <;> contradiction
    | composite _ _ hg ht hleaf _ hfitsInside =>
      cases hf.symm.trans hg
      rw [named_of_composite hf ht hleaf]
      exact ih fun x hx => hfitsInside.fits hx
  | inline hx _ ih =>
    refine mem_allNamed_of_mem hx ?_
    cases hfits _ hx with
    | inline _ _ _ hfitsInside =>
      rw [named]
      exact ih fun x hx => hfitsInside.fits hx

/-- The enums named in selections that fit are those that are selected. -/
lemma mem_allNamed_iff_selects (hfits : ∀ x ∈ selections, Validity.Fits s fragments parent x) :
    .enum n ∈ allNamed s parent selections ↔
    s.kind? n = some .enum ∧ Selects s n parent selections :=
  ⟨fun h => ⟨kind?_of_mem_allNamed h, selects_of_mem_allNamed h⟩,
    fun h => mem_allNamed_of_selects h.1 hfits h.2⟩

/-! ## Types that are given -/

/-- An input object has a field whose values are of another type. -/
def HasInput (s : Schema) (a b : String) : Prop :=
  ∃ t, s.get? a = some t ∧ t.kind = .inputObject ∧ ∃ f ∈ t.inputFields, f.type.base = b

/-- Variables give a type: it is the type of one of them, or that of a field of an input object that
they give. -/
def Gives (s : Schema) (vs : List OperationVariable) (n : String) : Prop :=
  ∃ v ∈ vs, ReflTransGen (HasInput s) v.type.base n

lemma mem_inputTypes_iff {a b : String} : b ∈ inputTypes s a ↔ HasInput s a b := by
  rw [inputTypes, HasInput]
  cases s.get? a with
  | none => simp
  | some t => by_cases hkind : t.kind = .inputObject <;> simp [hkind]

/-- The types that are found for variables are the known types that these give. -/
lemma mem_variableTypes_iff {vs : List OperationVariable} (hn : n ∈ s.types.keys) :
    n ∈ variableTypes s (vs.map (·.type.base)) ↔ Gives s vs n := by
  rw [variableTypes, Reach.mem_gather_iff]
  constructor
  · intro h
    clear hn
    induction h with
    | start _ hb =>
      obtain ⟨v, hv, rfl⟩ := List.mem_map.1 hb
      exact ⟨v, hv, .refl⟩
    | step _ _ hnext ih =>
      obtain ⟨v, hv, hlead⟩ := ih
      exact ⟨v, hv, hlead.tail (mem_inputTypes_iff.1 hnext)⟩
  · rintro ⟨v, hv, hlead⟩
    induction hlead with
    | refl => exact .start hn (List.mem_map_of_mem hv)
    | tail _ hstep ih =>
      have hfrom := hstep
      obtain ⟨t, ht, -⟩ := hfrom
      exact .step (ih (Table.mem_keys_iff.2 ⟨t, ht⟩)) hn (mem_inputTypes_iff.2 hstep)

lemma mem_keys_of_kind? {k : TypeKind} (h : s.kind? n = some k) : n ∈ s.types.keys := by
  obtain ⟨t, ht, -⟩ := Option.map_eq_some_iff.1 h
  exact Table.mem_keys_iff.2 ⟨t, ht⟩

/-! ## What selections and variables depend on -/

/-- Selections on a parent type and variables depend on the fragments that are reached, on the input
objects that are given, and on the enums that are given or selected, be it in a fragment that is
reached. -/
structure Exact (s : Schema) (fragments : Table WrittenFragment) (parent : String)
    (selections : List Selection) (vs : List OperationVariable) (d : Dependencies) : Prop where
  mem_fragments : ∀ n, n ∈ d.fragments ↔ Reaches fragments selections n
  mem_inputs : ∀ n, n ∈ d.inputs ↔ s.kind? n = some .inputObject ∧ Gives s vs n
  mem_enums : ∀ n, n ∈ d.enums ↔ s.kind? n = some .enum ∧
    (Selects s n parent selections ∨
      (∃ m f, Reaches fragments selections m ∧ fragments.get? m = some f ∧
        Selects s n f.condition f.selections) ∨
      Gives s vs n)

lemma mem_enums_of_iff {types : List String} :
    n ∈ (Dependencies.of s fragments parent selections types).enums ↔
      .enum n ∈ allNamed s parent selections ∨
        (∃ m ∈ fragmentsOf s fragments parent selections, .enum n ∈ namedBy s fragments m) ∨
        n ∈ variableTypes s types ∧ s.kind? n = some .enum := by
  rw [Dependencies.of, Table.mem_sortedNames, List.mem_append, List.mem_append, List.mem_flatMap,
    List.mem_filter, or_assoc, decide_eq_true_iff]
  simp only [mem_enumsAmong]

/-- The dependencies that are found for selections that fit are exact. -/
lemma exact_of (hfragments : ∀ n f, fragments.get? n = some f → Validity.FragmentFits s fragments f)
    (hfits : Validity.FitsSet s fragments parent selections) (vs : List OperationVariable) :
    Exact s fragments parent selections vs
      (.of s fragments parent selections (vs.map (·.type.base))) := by
  have hreached : ∀ n, n ∈ fragmentsOf s fragments parent selections ↔
      Reaches fragments selections n :=
    fun n => (mem_fragmentsOf_iff hfragments hfits).trans reaches_iff_leadTo.symm
  have hnamedBy : ∀ m n, .enum n ∈ namedBy s fragments m ↔
      s.kind? n = some .enum ∧ ∃ f, fragments.get? m = some f ∧
        Selects s n f.condition f.selections := by
    intro m n
    rw [namedBy]
    cases hf : fragments.get? m with
    | none => simp
    | some f =>
      have hinside := (hfragments m f hf).selections
      simp [mem_allNamed_iff_selects fun x hx => hinside.fits hx]
  refine ⟨fun n => Table.mem_sortedNames.trans (hreached n), fun n => ?_, fun n => ?_⟩
  · rw [Dependencies.of, Table.mem_sortedNames, List.mem_filter, decide_eq_true_iff, and_comm]
    exact and_congr_right fun hkind => mem_variableTypes_iff (mem_keys_of_kind? hkind)
  · rw [mem_enums_of_iff, mem_allNamed_iff_selects fun x hx => hfits.fits hx]
    constructor
    · rintro (⟨hkind, h⟩ | ⟨m, hm, h⟩ | ⟨h, hkind⟩)
      · exact ⟨hkind, .inl h⟩
      · obtain ⟨hkind, f, hf, h⟩ := (hnamedBy m n).1 h
        exact ⟨hkind, .inr (.inl ⟨m, f, (hreached m).1 hm, hf, h⟩)⟩
      · exact ⟨hkind, .inr (.inr ((mem_variableTypes_iff (mem_keys_of_kind? hkind)).1 h))⟩
    · rintro ⟨hkind, h | ⟨m, f, hm, hf, h⟩ | h⟩
      · exact .inl ⟨hkind, h⟩
      · exact .inr (.inl ⟨m, (hreached m).2 hm, (hnamedBy m n).2 ⟨hkind, f, hf, h⟩⟩)
      · exact .inr (.inr ⟨(mem_variableTypes_iff (mem_keys_of_kind? hkind)).2 h, hkind⟩)

/-- Without variables no input object is needed. -/
lemma Exact.inputs_eq_nil {d : Dependencies} (h : Exact s fragments parent selections [] d) :
    d.inputs = [] := by
  refine List.eq_nil_iff_forall_not_mem.2 fun n hn => ?_
  obtain ⟨-, v, hv, -⟩ := (h.mem_inputs n).1 hn
  cases hv

end Dependencies

namespace Catalogue

open Dependencies

variable {s : Schema}

/-- In accepted documents every operation and every fragment depends on just what its selections
reach and select and its variables give; a fragment has no variables, and does not depend on itself.
The walks from fragment to fragment and from type to type end, with the names that are found, though
they may lead back. -/
theorem exact_of_ofDocuments {root : Option Path} {docs : List SourceDocument} {c : Catalogue}
    (h : ofDocuments s root docs = .ok c) :
    (∀ op ∈ c.operations, Exact s c.written op.rootType op.selections op.parameters
      op.dependencies) ∧
      (∀ name f, c.fragments.get? name = some f →
        Exact s c.written f.condition f.selections [] f.dependencies ∧
        f.dependencies.inputs = [] ∧ name ∉ f.dependencies.fragments) ∧
      (∀ types r, Reach.Walks (inputTypes s) s.types.keys [] types r ↔
        r = (variableTypes s types).reverse) ∧
      ∀ parent selections r,
        Reach.Walks (fun n => fragmentsAmong (namedBy s c.written n)) c.written.keys []
          (fragmentsAmong (allNamed s parent selections)) r ↔
        r = (fragmentsOf s c.written parent selections).reverse := by
  have hfits := fitsSchema_of_ofDocuments h
  refine ⟨fun op hop => ?_, fun name f hf => ?_, fun types r => ?_, fun parent selections r => ?_⟩
  · obtain ⟨-, -, hselections⟩ := hfits.operations hop
    rw [dependencies_of_mem_operations h hop]
    exact exact_of (fun _ _ => hfits.fragments) hselections _
  · have hwritten : c.written.get? name = some f.toWrittenFragment := by rw [get?_written, hf,
      Option.map_some]
    have hexact : Exact s c.written f.condition f.selections [] f.dependencies := by
      rw [dependencies_of_get?_fragments h hf]
      exact exact_of (fun _ _ => hfits.fragments) (hfits.fragments hwritten).selections []
    refine ⟨hexact, hexact.inputs_eq_nil, fun hself => ?_⟩
    obtain ⟨m, hm, hlead⟩ := Selection.reaches_iff_leadTo.1 ((hexact.mem_fragments name).1 hself)
    exact hfits.acyclic name (.head' (Cycles.spreads_iff.2 ⟨_, hwritten, hm⟩) hlead)
  · exact Reach.walks_iff (Table.ascending_keys _).nodup
  · exact Reach.walks_iff (Table.ascending_keys _).nodup

/-- A schema with an input object that leads back to itself and to an enum. -/
def filterSchema : Schema :=
  schemaOf [.bare "Color" .enum none, sampleObject "Query" [] [sampleField "color" "Color"],
    { SchemaType.bare "Filter" .inputObject none with
      inputFields := [⟨"next", .named "Filter", false, none⟩,
        ⟨"color", .named "Color", false, none⟩] }]

/-- A document that selects the enum in a fragment. -/
def filterDocument : SourceDocument where
  path := "a.graphql"
  source := "query q($f: Filter) \x7b ...F \x7d fragment F on Query \x7b color \x7d"

lemma read?_filterDocument : Document.read? filterDocument.source =
    some [.operation ⟨.query, some "q", [⟨"f", .named "Filter", none⟩], [], [.spread "F" []]⟩,
      .fragment ⟨"F", "Query", [], [.field none "color" [] [] []]⟩] := by
  cbv

theorem exact_of_ofDocuments_filter : ∃ c, ofDocuments filterSchema none [filterDocument] = .ok c ∧
    c.operations.map (·.dependencies) = [⟨["F"], ["Color"], ["Filter"]⟩] ∧
    ∀ op ∈ c.operations, Exact filterSchema c.written op.rootType op.selections op.parameters
      op.dependencies := by
  have hmap : (ofDocuments filterSchema none [filterDocument]).map
      (fun c => c.operations.map (·.dependencies)) = .ok [⟨["F"], ["Color"], ["Filter"]⟩] := by
    rw [ofDocuments_singleton read?_filterDocument]
    cbv
  obtain ⟨c, hc, hdependencies⟩ := map_eq_ok.1 hmap
  exact ⟨c, hc, hdependencies, (exact_of_ofDocuments hc).1⟩

end Catalogue

end OperationGate
