import Mathlib
import OperationGate.Declaration.Basic
import OperationGate.Proofs.Catalogue.Closure
import OperationGate.Proofs.Schema.Named

/-!
# Names of declarations

Enums and input objects are declared under their names in the schema. The names of fragments,
results and variables are made: a name in Pascal case and a suffix that tells what is declared.
Names of the schema are distinct, since each type stands under its own name; made names are
distinct, since definitions whose type names agree are refused and the suffixes end in different
characters. Nothing keeps names of the schema and made names apart, so names are distinct just if no
type that is declared has the name that is made for another declaration
(`TypeLibrary.nodup_names_iff`).
-/

namespace OperationGate

/-! ## Made names -/

lemma getLast?_toList_append (a : String) {b : String} (h : b ≠ "") :
    (a ++ b).toList.getLast? = b.toList.getLast? := by
  have hne : b.toList ≠ [] := fun hb => h (String.toList_eq_nil_iff.1 hb)
  rw [String.toList_append, List.getLast?_append_of_ne_nil _ hne]

lemma getLast?_fragmentTypeName (name : String) :
    (fragmentTypeName name).toList.getLast? = some 't' := by
  rw [fragmentTypeName, getLast?_toList_append _ (by decide)]
  decide

lemma getLast?_resultTypeName (name : String) (kind : OperationKind) :
    (resultTypeName name kind).toList.getLast? = some 'y' ∨
    (resultTypeName name kind).toList.getLast? = some 'n' := by
  have hsuffix : kind.typeSuffix ≠ "" := by cases kind <;> decide
  rw [resultTypeName, getLast?_toList_append _ hsuffix]
  cases kind <;> decide

lemma getLast?_variablesTypeName (name : String) (kind : OperationKind) :
    (variablesTypeName name kind).toList.getLast? = some 's' := by
  rw [variablesTypeName, getLast?_toList_append _ (by decide)]
  decide

section Suffixes

variable {a b : String} {k l : OperationKind}

lemma resultTypeName_ne_variablesTypeName : resultTypeName a k ≠ variablesTypeName b l := by
  intro h
  have hlast := getLast?_resultTypeName a k
  rw [h, getLast?_variablesTypeName] at hlast
  simp at hlast

lemma fragmentTypeName_ne_resultTypeName : fragmentTypeName a ≠ resultTypeName b l := by
  intro h
  have hlast := getLast?_resultTypeName b l
  rw [← h, getLast?_fragmentTypeName] at hlast
  simp at hlast

lemma fragmentTypeName_ne_variablesTypeName : fragmentTypeName a ≠ variablesTypeName b l := by
  intro h
  have hlast := getLast?_variablesTypeName b l
  rw [← h, getLast?_fragmentTypeName] at hlast
  simp at hlast

/-- The types of variables have distinct names if the types of results have. -/
lemma variablesTypeName_inj :
    variablesTypeName a k = variablesTypeName b l ↔ resultTypeName a k = resultTypeName b l :=
  String.append_left_inj _

end Suffixes

namespace Catalogue

variable {s : Schema} {root : Option Path} {docs : List SourceDocument} {c : Catalogue}

/-- The names of the enums and input objects of a catalogue. -/
def givenNames (c : Catalogue) : List String :=
  c.enums ++ c.inputs

/-- The names that are made for the fragments and operations of a catalogue. -/
def madeNames (c : Catalogue) : List String :=
  c.fragments.values.map (·.typeName) ++ c.operations.flatMap fun op =>
    [op.typeName, op.variablesTypeName]

/-- No type is an enum and an input object. -/
lemma nodup_givenNames (h : ofDocuments s root docs = .ok c) : c.givenNames.Nodup := by
  refine List.nodup_append.2 ⟨(Table.ascending_keys _).nodup, (Table.ascending_keys _).nodup, ?_⟩
  rintro n henum m hinput rfl
  cases (kind?_of_mem_enums h henum).symm.trans (givenType_of_mem_inputs h hinput).2

/-- Fragments whose type names agree are refused. -/
lemma nodup_fragmentTypeNames (h : ofDocuments s root docs = .ok c) :
    (c.fragments.values.map (·.typeName)).Nodup := by
  have hlists := lists_of_ofDocuments h
  rw [Table.values, List.map_map]
  refine List.pairwise_map.2 (c.fragments.ascending.imp_of_mem fun {a b} ha hb hlt he => ?_)
  obtain ⟨hwritten, hname, -⟩ := hlists.fragment (Table.get?_eq_some_iff.2 ha)
  obtain ⟨hwritten', hname', -⟩ := hlists.fragment (Table.get?_eq_some_iff.2 hb)
  have hsame := List.inj_on_of_nodup_map hlists.distinct.fragmentTypes hwritten hwritten' he
  have hnames := congrArg WrittenFragment.name hsame
  rw [hname, hname'] at hnames
  exact String.lt_irrefl _ (hnames ▸ hlt)

/-- Operations whose type names agree are refused. -/
lemma pairwise_typeName (h : ofDocuments s root docs = .ok c) :
    c.operations.Pairwise fun a b => a.typeName ≠ b.typeName := by
  have hdistinct := (lists_of_ofDocuments h).distinct.operationTypes
  rw [← ((operations_perm h).map _).nodup_iff, List.map_map] at hdistinct
  exact List.pairwise_map.1 hdistinct

/-- Made names are distinct. -/
lemma nodup_madeNames (h : ofDocuments s root docs = .ok c) : c.madeNames.Nodup := by
  refine List.nodup_append.2 ⟨nodup_fragmentTypeNames h,
    List.nodup_flatMap.2 ⟨fun op _ => ?_, ?_⟩, ?_⟩
  · exact List.nodup_cons.2
      ⟨fun hmem => resultTypeName_ne_variablesTypeName (List.mem_singleton.1 hmem),
      List.nodup_singleton _⟩
  · refine (pairwise_typeName h).imp fun {a b} hne n hn hn' => ?_
    rcases List.mem_pair.1 hn with rfl | rfl
    · rcases List.mem_pair.1 hn' with he | he
      · exact hne he
      · exact resultTypeName_ne_variablesTypeName he
    · rcases List.mem_pair.1 hn' with he | he
      · exact resultTypeName_ne_variablesTypeName he.symm
      · exact hne (variablesTypeName_inj.1 he)
  · rintro n hfragment m hoperation rfl
    obtain ⟨f, -, rfl⟩ := List.mem_map.1 hfragment
    obtain ⟨op, -, hop⟩ := List.mem_flatMap.1 hoperation
    rcases List.mem_pair.1 hop with he | he
    · exact fragmentTypeName_ne_resultTypeName he
    · exact fragmentTypeName_ne_variablesTypeName he

end Catalogue

/-! ## What is declared -/

/-- Tells whether declarations of a kind have names of the schema. -/
def DeclarationKind.isGiven (kind : DeclarationKind) : Bool :=
  kind = .enum || kind = .input

namespace TypeLibrary

variable {s : Schema} {scalars : Shape.Scalars} {root : Option Path}
  {docs : List SourceDocument} {c : Catalogue}

/-- The types that a catalogue lists are found under their names. -/
lemma map_name_enums (hnamed : ∀ n t, s.get? n = some t → t.name = n)
    (hc : Catalogue.ofDocuments s root docs = .ok c) :
    (c.enums.filterMap s.get?).map (·.name) = c.enums := by
  apply map_filterMap_eq_self
  intro n hn
  obtain ⟨t, ht, -⟩ := Option.map_eq_some_iff.1 (Catalogue.kind?_of_mem_enums hc hn)
  exact ⟨t, ht, hnamed n t ht⟩

lemma map_name_inputs (hnamed : ∀ n t, s.get? n = some t → t.name = n)
    (hc : Catalogue.ofDocuments s root docs = .ok c) :
    (c.inputs.filterMap s.get?).map (·.name) = c.inputs := by
  apply map_filterMap_eq_self
  intro n hn
  obtain ⟨t, ht, -⟩ := Option.map_eq_some_iff.1 (Catalogue.givenType_of_mem_inputs hc hn).2
  exact ⟨t, ht, hnamed n t ht⟩

/-- The declarations of a catalogue are those of types of the schema, and those with made names. -/
lemma exists_declarations (hnamed : ∀ n t, s.get? n = some t → t.name = n)
    (hc : Catalogue.ofDocuments s root docs = .ok c) :
    ∃ given made : List Declaration, (ofCatalogue s scalars c).declarations = given ++ made ∧
      (∀ d ∈ given, d.kind.isGiven) ∧ (∀ d ∈ made, ¬d.kind.isGiven) ∧
      given.map (·.name) = c.givenNames ∧ made.map (·.name) = c.madeNames := by
  refine ⟨_, _, List.append_assoc _ _ _, fun d hd => ?_, fun d hd => ?_, ?_, ?_⟩
  · rcases List.mem_append.1 hd with hd | hd
    · obtain ⟨t, -, rfl⟩ := List.mem_map.1 hd
      rfl
    · obtain ⟨t, -, rfl⟩ := List.mem_map.1 hd
      rfl
  · rcases List.mem_append.1 hd with hd | hd
    · obtain ⟨f, -, rfl⟩ := List.mem_map.1 hd
      exact Bool.false_ne_true
    · obtain ⟨op, -, hd⟩ := List.mem_flatMap.1 hd
      rcases List.mem_pair.1 hd with rfl | rfl
      · exact Bool.false_ne_true
      · exact Bool.false_ne_true
  · rw [List.map_append, List.map_map, List.map_map, Catalogue.givenNames]
    exact congrArg₂ (· ++ ·) (map_name_enums hnamed hc) (map_name_inputs hnamed hc)
  · rw [List.map_append, List.map_map, List.map_flatMap]
    rfl

/-- Two declarations have one name only if the first is that of a type of the schema and the second
has a made name. So the names of declarations are distinct just if no declared type of the schema
has a name that is made. -/
theorem nodup_names_iff {text : String} (hs : Schema.parse text = .ok s) {lib : TypeLibrary}
    (hlib : ofDocuments s scalars root docs = .ok lib) :
    (lib.declarations.Pairwise fun d e => d.name = e.name → d.kind.isGiven ∧ ¬e.kind.isGiven) ∧
      ((lib.declarations.map (·.name)).Nodup ↔
        ∀ d ∈ lib.declarations, ∀ e ∈ lib.declarations, d.kind.isGiven → ¬e.kind.isGiven →
          d.name ≠ e.name) := by
  obtain ⟨c, hc, hlib⟩ := bind_eq_ok.1 hlib
  cases hlib
  obtain ⟨given, made, hdeclarations, hgiven, hmade, hgivenNames, hmadeNames⟩ :=
    @exists_declarations s scalars root docs c (Schema.name_of_parse hs) hc
  have hpairwise : (given ++ made).Pairwise fun d e => d.name = e.name →
      d.kind.isGiven ∧ ¬e.kind.isGiven := by
    refine List.pairwise_append.2 ⟨?_, ?_, fun d hd e he _ => ⟨hgiven d hd, hmade e he⟩⟩
    · have hnodup := hgivenNames ▸ Catalogue.nodup_givenNames hc
      exact (List.pairwise_map.1 hnodup).imp fun hne he => absurd he hne
    · have hnodup := hmadeNames ▸ Catalogue.nodup_madeNames hc
      exact (List.pairwise_map.1 hnodup).imp fun hne he => absurd he hne
  rw [hdeclarations]
  refine ⟨hpairwise, fun hnodup d hd e he hgiven hmade hname => ?_, fun h => ?_⟩
  · obtain rfl := List.inj_on_of_nodup_map hnodup hd he hname
    exact hmade hgiven
  · refine List.pairwise_map.2 (hpairwise.imp_of_mem fun {d e} hd he hpair hname => ?_)
    exact h d hd e he (hpair hname).1 (hpair hname).2 hname

/-- A schema text with an enum of a name. -/
def enumText (name : String) : String :=
  "enum " ++ name ++ " \x7b A \x7d type Query \x7b role: " ++ name ++ " \x7d"

/-- The types of the schema text. -/
def enumTypes (name : String) : List SchemaType :=
  [.bare "Boolean" .scalar none, .bare "Float" .scalar none, .bare "ID" .scalar none,
    .bare "Int" .scalar none, { SchemaType.bare name .enum none with enumValues := ["A"] },
    { SchemaType.bare "Query" .object none with fields := [⟨"role", .named name, [], none⟩] },
    .bare "String" .scalar none]

/-- The definitions of the schema text. -/
def enumDefinitions (name : String) : List SchemaDefinition :=
  [.type name none (.enum ["A"]), .type "Query" none (.object [] [⟨"role", .named name, [], none⟩])]

/-- A document with a query and a fragment. -/
def queryDocument : SourceDocument where
  path := "a.graphql"
  source := "query q \x7b ...F \x7d fragment F on Query \x7b role \x7d"

/-- The definitions of the document. -/
def queryDefinitions : List Document.Definition :=
  [.operation ⟨.query, some "q", [], [], [.spread "F" []]⟩,
    .fragment ⟨"F", "Query", [], [.field none "role" [] [] []]⟩]

lemma read?_queryDocument : Document.read? queryDocument.source = some queryDefinitions := by
  cbv

lemma parse_enumText :
    Schema.parse (enumText "Role") = .ok (Catalogue.schemaOf (enumTypes "Role")) := by
  have hread : Schema.Parser.read? (enumText "Role") = some (enumDefinitions "Role") := by cbv
  rw [Schema.parse, hread]
  rfl

set_option maxRecDepth 4000 in
lemma map_name_queryDocument :
    (ofDocuments (Catalogue.schemaOf (enumTypes "Role")) .empty none [queryDocument]).map
      (fun lib => lib.declarations.map fun d => (d.kind.isGiven, d.name)) =
        .ok [(true, "Role"), (false, "FFragment"), (false, "QQuery"),
          (false, "QQueryVariables")] := by
  rw [ofDocuments, Catalogue.ofDocuments_singleton read?_queryDocument]
  cbv

theorem nodup_names_iff_sample :
    ∃ s lib, Schema.parse (enumText "Role") = .ok s ∧
      ofDocuments s .empty none [queryDocument] = .ok lib ∧
      (lib.declarations.map fun d => (d.kind.isGiven, d.name)) =
        [(true, "Role"), (false, "FFragment"), (false, "QQuery"), (false, "QQueryVariables")] ∧
      (lib.declarations.map (·.name)).Nodup := by
  obtain ⟨lib, hlib, hnames⟩ := map_eq_ok.1 map_name_queryDocument
  refine ⟨_, lib, parse_enumText, hlib, hnames, (nodup_names_iff parse_enumText hlib).2.2 ?_⟩
  intro d hd e he hgiven hmade
  have hapart :
      ∀ p ∈ [(true, "Role"), (false, "FFragment"), (false, "QQuery"), (false, "QQueryVariables")],
      ∀ q ∈ [(true, "Role"), (false, "FFragment"), (false, "QQuery"), (false, "QQueryVariables")],
        p.1 = true → ¬q.1 = true → p.2 ≠ q.2 := by decide
  rw [← hnames] at hapart
  exact hapart _ (List.mem_map_of_mem hd) _ (List.mem_map_of_mem he) hgiven hmade

lemma parse_enumText_clashing :
    Schema.parse (enumText "QQuery") = .ok (Catalogue.schemaOf (enumTypes "QQuery")) := by
  have hread : Schema.Parser.read? (enumText "QQuery") = some (enumDefinitions "QQuery") := by cbv
  rw [Schema.parse, hread]
  rfl

set_option maxRecDepth 4000 in
lemma map_name_clashing :
    (ofDocuments (Catalogue.schemaOf (enumTypes "QQuery")) .empty none [queryDocument]).map
      (fun lib => lib.declarations.map (·.name)) =
      .ok ["QQuery", "FFragment", "QQuery", "QQueryVariables"] := by
  rw [ofDocuments, Catalogue.ofDocuments_singleton read?_queryDocument]
  cbv

/-- If an enum has the name that is made for the result of a query, one name is declared twice. -/
theorem exists_shared_name :
    ∃ s lib, Schema.parse (enumText "QQuery") = .ok s ∧
      ofDocuments s .empty none [queryDocument] = .ok lib ∧
      ¬(lib.declarations.map (·.name)).Nodup := by
  obtain ⟨lib, hlib, hnames⟩ := map_eq_ok.1 map_name_clashing
  refine ⟨_, lib, parse_enumText_clashing, hlib, ?_⟩
  have hlist : (lib.declarations.map (·.name)) =
      ["QQuery", "FFragment", "QQuery", "QQueryVariables"] := hnames
  rw [hlist]
  decide

end TypeLibrary

end OperationGate
