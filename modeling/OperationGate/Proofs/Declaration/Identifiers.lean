import OperationGate.Proofs.Artifact.Agreement
import OperationGate.Proofs.Declaration.Names

/-!
# Made names as identifiers

The Pascal-case form of a name drops its underscores, so it starts with the capital of the first
character that is none (`head?_pascalCase`). If that is a digit, the names of types that are made of
it start with a digit, and scripts do not take them for names. So the lines that declare made types,
and the imports of them, are valid just if no operation and no fragment has such a name. Main
statement: `TypeLibrary.spec_identifiers`.
-/

namespace OperationGate

namespace Text

/-! ## Words -/

lemma flatten_splitOnP (p : Char → Bool) (cs : List Char) :
    (cs.splitOnP p).flatten = cs.filter (!p ·) := by
  induction cs with
  | nil => rw [List.splitOnP_nil]; rfl
  | cons c cs ih =>
    rw [List.splitOnP_cons_eq_if_modifyHead]
    split
    next hc => rw [List.flatten_cons, List.nil_append, ih, List.filter_cons_of_neg (by simp [hc])]
    next hc =>
      rw [List.filter_cons_of_pos (by simp [hc]), ← ih]
      cases hparts : cs.splitOnP p with
      | nil => exact absurd hparts (List.splitOnP_ne_nil p cs)
      | cons part parts => rfl

/-- The words of letters and digits have all of them, in order. -/
lemma flatten_caseWords {cs : List Char} (hcs : cs ≠ []) (word : List Char) (mode : CaseMode) :
    (caseWords word mode cs).flatten = word.reverse ++ cs := by
  fun_induction caseWords word mode cs with
  | case1 => exact absurd rfl hcs
  | case2 word _ c => simp
  | case3 word mode c d rest _ ih => simp [ih (List.cons_ne_nil d rest)]
  | case4 word mode c d rest _ _ ih => simp [ih (List.cons_ne_nil d rest)]
  | case5 word mode c d rest _ _ ih => simp [ih (List.cons_ne_nil d rest)]

/-- The words of a name have all its letters and digits, in order. -/
lemma flatten_words (cs : List Char) : (words cs).flatten = cs.filter isAlphanumeric := by
  have hparts (parts : List (List Char)) : (parts.flatMap (caseWords [] .start)).flatten =
      parts.flatten := by
    induction parts with
    | nil => rfl
    | cons part parts ih =>
      rw [List.flatMap_cons, List.flatten_append, ih, List.flatten_cons]
      cases part with
      | nil => rfl
      | cons c part => rw [flatten_caseWords (List.cons_ne_nil c part)]; rfl
  rw [words, hparts, flatten_splitOnP]
  simp only [Bool.not_not]

end Text

section Names

open Text Token

lemma uppercase_of_isNameRest {c : Char} (h : isNameRest c) : uppercase c = [c.toUpper] := by
  rw [uppercase, if_pos (toNat_lt_of_isNameRest h)]

/-- Words in capitals start with the capital of the first of their characters. -/
lemma head?_flatMap_capitalized {ws : List (List Char)} (h : ∀ c ∈ ws.flatten, isNameRest c) :
    (ws.flatMap capitalized).head? = ws.flatten.head?.map Char.toUpper := by
  induction ws with
  | nil => rfl
  | cons w ws ih =>
    rw [List.flatten_cons, List.forall_mem_append] at h
    cases w with
    | nil => exact ih h.2
    | cons c w =>
      rw [List.flatMap_cons, capitalized, uppercase_of_isNameRest (h.1 c List.mem_cons_self)]
      rfl

lemma isAlphanumeric_eq {c : Char} (h : isNameRest c) : isAlphanumeric c = decide (c ≠ '_') :=
  forall_ascii (p := fun c => isNameRest c → isAlphanumeric c = decide (c ≠ '_')) (by decide)
    (toNat_lt_of_isNameRest h) h

/-- The Pascal-case form of a name starts with the capital of the first character of the name that
is no underscore. -/
theorem head?_pascalCase {name : String} (h : ∀ c ∈ name.toList, isNameRest c) :
    (pascalCase name).toList.head? = (name.toList.find? (· ≠ '_')).map Char.toUpper := by
  have hfilter : name.toList.filter isAlphanumeric = name.toList.filter (· ≠ '_') :=
    List.filter_congr fun c hc => isAlphanumeric_eq (h c hc)
  have hwords : ∀ c ∈ (words name.toList).flatten, isNameRest c := by
    rw [flatten_words]
    exact fun c hc => h c (List.mem_filter.1 hc).1
  rw [pascalCase, String.toList_ofList, head?_flatMap_capitalized hwords, flatten_words, hfilter,
    List.head?_filter]

/-! ## Identifiers -/

/-- Tells whether a character starts a name of a script; letters beyond those of documents are left
out. -/
def isIdentifierStart (c : Char) : Bool :=
  c.isAlpha || c = '_' || c = '$'

/-- Tells whether a character continues a name of a script. -/
def isIdentifierRest (c : Char) : Bool :=
  c.isAlphanum || c = '_' || c = '$'

/-- Tells that a text is a name of a script. -/
def IsIdentifier (s : String) : Prop :=
  s.toList.head?.any isIdentifierStart ∧ ∀ c ∈ s.toList, isIdentifierRest c

instance (s : String) : Decidable (IsIdentifier s) :=
  decidable_of_iff ((s.toList.head?.any isIdentifierStart && s.toList.all isIdentifierRest) =
    true) <| by
    simp [IsIdentifier]

/-- Tells that the first character of a name that is no underscore is a digit. -/
def OpensWithDigit (name : String) : Prop :=
  (name.toList.find? (· ≠ '_')).any Char.isDigit

instance (name : String) : Decidable (OpensWithDigit name) :=
  inferInstanceAs (Decidable (_ = true))

lemma isIdentifierRest_of_isNameRest {c : Char} (h : isNameRest c) : isIdentifierRest c :=
  Bool.or_eq_true_iff.2 (.inl h)

/-- The capital of what continues a name starts one, unless it is a digit. -/
lemma isIdentifierStart_toUpper {c : Char} (h : isNameRest c) :
    isIdentifierStart c.toUpper = !c.isDigit :=
  forall_ascii (p := fun c => isNameRest c → isIdentifierStart c.toUpper = !c.isDigit) (by decide)
    (toNat_lt_of_isNameRest h) h

/-- A name in Pascal case and a suffix make an identifier just if the name does not open with a
digit. -/
lemma isIdentifier_pascalCase_append_iff {name suffix : String} (h : IsName name)
    (hsuffix : IsIdentifier suffix) :
    IsIdentifier (pascalCase name ++ suffix) ↔ ¬OpensWithDigit name := by
  have hrest : ∀ c ∈ (pascalCase name ++ suffix).toList, isIdentifierRest c := by
    rw [String.toList_append, List.forall_mem_append]
    exact ⟨fun c hc => isIdentifierRest_of_isNameRest (isNameRest_pascalCase h.isNameRest c hc),
      hsuffix.2⟩
  rw [IsIdentifier, and_iff_left hrest, String.toList_append, List.head?_append,
    head?_pascalCase h.isNameRest, OpensWithDigit]
  cases hfirst : name.toList.find? (· ≠ '_') with
  | none => simpa using hsuffix.1
  | some c =>
    have hstart := isIdentifierStart_toUpper (h.isNameRest c (List.mem_of_find?_eq_some hfirst))
    simp [hstart]

section Suffixes

variable {name : String} (kind : OperationKind)

lemma isIdentifier_resultTypeName_iff (h : IsName name) :
    IsIdentifier (resultTypeName name kind) ↔ ¬OpensWithDigit name :=
  isIdentifier_pascalCase_append_iff h (by cases kind <;> decide)

lemma isIdentifier_variablesTypeName_iff (h : IsName name) :
    IsIdentifier (variablesTypeName name kind) ↔ ¬OpensWithDigit name := by
  rw [variablesTypeName, resultTypeName, String.append_assoc]
  exact isIdentifier_pascalCase_append_iff h (by cases kind <;> decide)

lemma isIdentifier_fragmentTypeName_iff (h : IsName name) :
    IsIdentifier (fragmentTypeName name) ↔ ¬OpensWithDigit name :=
  isIdentifier_pascalCase_append_iff h (by decide)

end Suffixes

end Names

/-! ## Lines -/

open Text

/-- The name that a text declares a type under, if it starts like the declaration of a type. -/
def declaredName? (text : String) : Option String := do
  let rest ← afterFront? "export type " text
  let (name, rest) ← cut? ' ' rest
  let _ ← afterFront? "= " rest
  return name

/-- Tells that a text declares a type under a name of a script. -/
def DeclaresIdentifier (text : String) : Prop :=
  ∃ name, declaredName? text = some name ∧ IsIdentifier name

lemma declaresIdentifier_source_iff {d : Declaration} {name : String} (hname : d.name = name)
    (h : ∀ c ∈ name.toList, Token.isNameRest c) :
    DeclaresIdentifier d.source ↔ IsIdentifier name := by
  have hblank : ' ' ∉ name.toList := fun hmem => absurd (h _ hmem) (by decide)
  have hdeclared : declaredName? d.source = some name := by
    obtain ⟨rest, hsource⟩ := Artifact.exists_source_eq d
    have hequals : " = " = String.singleton ' ' ++ "= " := rfl
    rw [declaredName?, hsource, hname, hequals]
    simp only [String.append_assoc, afterFront?_append, cut?_append hblank, Option.bind_some,
      Option.bind_eq_bind]
    rfl
  rw [DeclaresIdentifier, hdeclared]
  simp

/-! ## Declarations of a build -/

namespace Catalogue

/-- The fragments of a catalogue have names that are names. -/
lemma isName_of_mem_fragments {s : Schema} {root : Option Path} {docs : List SourceDocument}
    {c : Catalogue} (h : ofDocuments s root docs = .ok c) {f : Fragment}
    (hf : f ∈ c.fragments.values) : IsName f.name := by
  obtain ⟨name, hf⟩ := Table.mem_values_iff.1 hf
  obtain ⟨hwritten, -⟩ := (lists_of_ofDocuments h).fragment hf
  obtain ⟨d, hd, hfragment⟩ := Definitions.exists_of_mem_fragmentsAmong hwritten
  obtain ⟨_, definitions, hread, hmem⟩ := Definitions.exists_read_of_mem_written hd
  cases d with
  | bare => cases hfragment
  | operation => cases hfragment
  | fragment written =>
    have hname : written.name = f.name := congrArg WrittenFragment.name (Option.some.inj hfragment)
    exact hname ▸ Document.isName_of_mem_fragment hread hmem

end Catalogue

namespace Declaration

variable (s : Schema) (scalars : Shape.Scalars) (c : Catalogue)

lemma declaresIdentifier_ofFragment_iff {f : Fragment} (h : IsName f.name) :
    DeclaresIdentifier (ofFragment s scalars c f).source ↔ ¬OpensWithDigit f.name := by
  rw [← isIdentifier_fragmentTypeName_iff h]
  exact declaresIdentifier_source_iff rfl (isNameRest_fragmentTypeName h)

lemma declaresIdentifier_ofOperation_iff {op : Operation} (h : IsName op.name) :
    DeclaresIdentifier (ofOperation s scalars c op).source ↔ ¬OpensWithDigit op.name := by
  rw [← isIdentifier_resultTypeName_iff op.kind h]
  exact declaresIdentifier_source_iff rfl (isNameRest_resultTypeName h op.kind)

lemma declaresIdentifier_ofVariables_iff {op : Operation} (h : IsName op.name) :
    DeclaresIdentifier (ofVariables s scalars op).source ↔ ¬OpensWithDigit op.name := by
  rw [← isIdentifier_variablesTypeName_iff op.kind h]
  exact declaresIdentifier_source_iff rfl (isNameRest_variablesTypeName h op.kind)

end Declaration

/-- Tells that a text imports types under names of a script only. -/
def ImportsIdentifiers (text : String) : Prop :=
  ∃ names, Artifact.importForm.read? text = some names ∧ ∀ n ∈ names, IsIdentifier n

lemma importsIdentifiers_iff {text : String} {names : List String}
    (h : Artifact.importForm.read? text = some (sortedNames names)) :
    ImportsIdentifiers text ↔ ∀ n ∈ names, IsIdentifier n := by
  rw [ImportsIdentifiers, h]
  simp [Table.mem_sortedNames]

namespace TypeLibrary

variable {s : Schema} {scalars : Shape.Scalars} {root : Option Path}
  {docs : List SourceDocument} {c : Catalogue}

/-- Tells that the declarations of made types, and the imports of them, are under names of a
script. -/
structure HasIdentifiers (lib : TypeLibrary) (l : Layout) : Prop where
  declared {d : Declaration} : d ∈ lib.declarations → ¬d.kind.isGiven → DeclaresIdentifier d.source
  typeImports : ImportsIdentifiers (Artifact.operationTypes lib l)
  responseImports : ImportsIdentifiers (Artifact.responseTypes lib l)

lemma hasIdentifiers_iff (hc : Catalogue.ofDocuments s root docs = .ok c) (l : Layout) :
    (ofCatalogue s scalars c).HasIdentifiers l ↔
      (∀ op ∈ c.operations, ¬OpensWithDigit op.name) ∧ ∀ f ∈ c.fragments.values,
      ¬OpensWithDigit f.name := by
  have hop : ∀ op ∈ c.operations, IsName op.name := fun op => Catalogue.isName_of_mem_operations hc
  have hfragment : ∀ f ∈ c.fragments.values, IsName f.name :=
    fun f => Catalogue.isName_of_mem_fragments hc
  have hplain : Artifact.IsPlainLibrary (ofCatalogue s scalars c) :=
    fun op hmem => Artifact.isNamedPlainly_of_isName (hop op hmem)
  constructor
  · intro h
    refine ⟨fun op hmem => ?_, fun f hmem => ?_⟩
    · have hd := (@mem_declarations_iff s scalars c _).2 (.inr (.inr (.inr ⟨op, hmem, .inl rfl⟩)))
      exact (Declaration.declaresIdentifier_ofOperation_iff s scalars c (hop op hmem)).1
        (h.declared hd Bool.false_ne_true)
    · have hd := (@mem_declarations_iff s scalars c _).2 (.inr (.inr (.inl ⟨f, hmem, rfl⟩)))
      exact (Declaration.declaresIdentifier_ofFragment_iff s scalars c (hfragment f hmem)).1
        (h.declared hd Bool.false_ne_true)
  · rintro ⟨hops, hfragments⟩
    refine ⟨fun {d} hd hmade => ?_, ?_, ?_⟩
    · rcases mem_declarations_iff.1 hd with ⟨t, -, rfl⟩ | ⟨t, -, rfl⟩ | ⟨f, hf, rfl⟩ | ⟨op,
        hmem, rfl | rfl⟩
      · exact absurd rfl hmade
      · exact absurd rfl hmade
      · exact (Declaration.declaresIdentifier_ofFragment_iff s scalars c (hfragment f hf)).2
          (hfragments f hf)
      · exact (Declaration.declaresIdentifier_ofOperation_iff s scalars c (hop op hmem)).2
          (hops op hmem)
      · exact (Declaration.declaresIdentifier_ofVariables_iff s scalars (hop op hmem)).2
          (hops op hmem)
    · rw [importsIdentifiers_iff (Artifact.imports_operationTypes l hplain)]
      intro n hn
      obtain ⟨op, hmem, hn⟩ := List.mem_flatMap.1 hn
      rcases List.mem_pair.1 hn with rfl | rfl
      · exact (isIdentifier_resultTypeName_iff op.kind (hop op hmem)).2 (hops op hmem)
      · exact (isIdentifier_variablesTypeName_iff op.kind (hop op hmem)).2 (hops op hmem)
    · rw [importsIdentifiers_iff (Artifact.imports_responseTypes l hplain)]
      intro n hn
      obtain ⟨op, hmem, rfl⟩ := List.mem_map.1 hn
      exact (isIdentifier_resultTypeName_iff op.kind (hop op hmem)).2 (hops op hmem)

/-- The type names that are made of a name are identifiers, unless the first character of the name
that is no underscore is a digit. So, where documents are accepted, each line that declares a made
type stands in the module of declarations, and all of these lines and all imports of made types are
valid just if no operation and no fragment has such a name. -/
theorem spec_identifiers (s : Schema) (scalars : Shape.Scalars) (root : Option Path)
    (docs : List SourceDocument) (l : Layout) :
    (∀ name kind, IsName name →
      (IsIdentifier (resultTypeName name kind) ↔ ¬OpensWithDigit name) ∧
        (IsIdentifier (variablesTypeName name kind) ↔ ¬OpensWithDigit name) ∧
          (IsIdentifier (fragmentTypeName name) ↔ ¬OpensWithDigit name)) ∧
      ∀ c, Catalogue.ofDocuments s root docs = .ok c →
        (∀ d ∈ (ofCatalogue s scalars c).declarations,
          Artifact.Holds (Artifact.declarations (ofCatalogue s scalars c)) d.source) ∧
        ((ofCatalogue s scalars c).HasIdentifiers l ↔
          (∀ op ∈ c.operations, ¬OpensWithDigit op.name) ∧ ∀ f ∈ c.fragments.values,
          ¬OpensWithDigit f.name) := by
  refine ⟨fun name kind h => ⟨?_, ?_, ?_⟩, fun c hc => ⟨fun d hd => ?_, ?_⟩⟩
  · exact isIdentifier_resultTypeName_iff kind h
  · exact isIdentifier_variablesTypeName_iff kind h
  · exact isIdentifier_fragmentTypeName_iff h
  · exact Artifact.holds_declarations hd
  · exact hasIdentifiers_iff hc l

lemma map_names_queryDocument :
    (Catalogue.ofDocuments (Catalogue.schemaOf (enumTypes "Role")) none [queryDocument]).map
      (fun c => (c.operations.map (·.name), c.fragments.values.map fun f => f.name)) =
      .ok (["q"], ["F"]) := by
  rw [Catalogue.ofDocuments_singleton read?_queryDocument]
  cbv

theorem spec_identifiers_sample :
    ∃ c, Catalogue.ofDocuments (Catalogue.schemaOf (enumTypes "Role")) none [queryDocument] =
      .ok c ∧
      (ofCatalogue (Catalogue.schemaOf (enumTypes "Role")) .empty c).HasIdentifiers
        Artifact.sampleLayout ∧
        IsIdentifier (resultTypeName "__getUser2" .query) ∧
        ¬IsIdentifier (fragmentTypeName "__2_users") := by
  obtain ⟨c, hc, hnames⟩ := map_eq_ok.1 map_names_queryDocument
  obtain ⟨hops, hfragments⟩ := Prod.mk.inj hnames
  obtain ⟨hmade, hvalid⟩ :=
    spec_identifiers (Catalogue.schemaOf (enumTypes "Role")) .empty none [queryDocument]
    Artifact.sampleLayout
  refine ⟨c, hc, (hvalid c hc).2.2 ⟨fun op hop => ?_, fun f hf => ?_⟩, ?_, ?_⟩
  · have hname := List.mem_map_of_mem (f := fun op : Operation => op.name) hop
    rw [hops, List.mem_singleton] at hname
    rw [hname]
    decide
  · have hname := List.mem_map_of_mem (f := fun f : Fragment => f.name) hf
    rw [hfragments, List.mem_singleton] at hname
    rw [hname]
    decide
  · exact (hmade "__getUser2" .query (by decide)).1.2 (by decide)
  · exact fun h => absurd ((hmade "__2_users" .query (by decide)).2.2.1 h) (by decide)

/-- A document with a query whose name has a digit after its underscore. -/
def digitDocument : SourceDocument where
  path := "a.graphql"
  source := "query _1 \x7b role \x7d"

lemma read?_digitDocument : Document.read? digitDocument.source =
    some [.operation ⟨.query, some "_1", [], [], [.field none "role" [] [] []]⟩] := by
  cbv

set_option maxRecDepth 4000 in
lemma map_name_digitDocument :
    (ofDocuments (Catalogue.schemaOf (enumTypes "Role")) .empty none [digitDocument]).map
      (fun lib => lib.declarations.map (·.name)) = .ok ["Role", "1Query", "1QueryVariables"] := by
  rw [ofDocuments, Catalogue.ofDocuments_singleton read?_digitDocument]
  cbv

/-- A query with such a name is accepted, and its type is declared under a name that starts with a
digit. -/
theorem exists_digit_declared :
    ∃ s lib, Schema.parse (enumText "Role") = .ok s ∧ IsName "_1" ∧
      ofDocuments s .empty none [digitDocument] = .ok lib ∧
        ¬IsIdentifier (resultTypeName "_1" .query) ∧
        ∃ d ∈ lib.declarations, (∃ rest, d.source = "export type 1Query = " ++ rest) ∧
          ¬DeclaresIdentifier d.source := by
  obtain ⟨lib, hlib, hnames⟩ := map_eq_ok.1 map_name_digitDocument
  have hmem : "1Query" ∈ lib.declarations.map (·.name) := by
    rw [hnames]
    exact List.mem_cons_of_mem _ List.mem_cons_self
  obtain ⟨d, hd, hname⟩ := List.mem_map.1 hmem
  obtain ⟨rest, hsource⟩ := Artifact.exists_source_eq d
  have hfront : "export type " ++ "1Query" ++ " = " = "export type 1Query = " := rfl
  rw [hname, hfront] at hsource
  have hinvalid : ¬IsIdentifier "1Query" := by decide
  refine ⟨_, lib, parse_enumText, by decide, hlib, by decide, d, hd, ⟨rest, hsource⟩, ?_⟩
  rwa [declaresIdentifier_source_iff hname (List.all_eq_true.1 (by decide))]

end TypeLibrary

end OperationGate
