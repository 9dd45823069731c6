import Mathlib
import OperationGate.Proofs.Artifact.Tables
import OperationGate.Proofs.Declaration.Closed
import OperationGate.Proofs.Gateway.Documents

/-!
# Agreement of tables

The tables of a build agree with each other, with the stored documents and with the declarations:
each of them, read back, holds the operations of the library, all of them and no other, and what it
names is declared (`Artifact.tables_agree`).
-/

namespace OperationGate

open Text

namespace Catalogue

/-- The operations of a catalogue have names that are names. -/
lemma isName_of_mem_operations {s : Schema} {root : Option Path} {docs : List SourceDocument}
    {c : Catalogue} (h : ofDocuments s root docs = .ok c) {op : Operation}
    (hop : op ∈ c.operations) : IsName op.name := by
  obtain ⟨hwritten, -⟩ := (lists_of_ofDocuments h).operation hop
  obtain ⟨d, hd, hoperation⟩ := Definitions.exists_of_mem_operationsAmong hwritten
  obtain ⟨_, definitions, hread, hmem⟩ := Definitions.exists_read_of_mem_written hd
  cases d with
  | bare => cases hoperation
  | fragment => cases hoperation
  | operation written =>
    obtain ⟨name, hname, he⟩ := Option.map_eq_some_iff.1 hoperation
    have hnames : name = op.name := congrArg WrittenOperation.name he
    exact hnames ▸ Document.isName_of_read? hread hmem hname

end Catalogue

/-! ## Declarations in their module -/

namespace Artifact

/-- Tells that a text stands in another between the ends of lines. -/
def Holds (text part : String) : Prop :=
  ∃ before after, text = before ++ "\n" ++ part ++ "\n" ++ after

/-- Tells that a line of a text starts the declaration of a type. -/
def Declares (text name : String) : Prop :=
  ∃ before after, text = before ++ "\nexport type " ++ name ++ " = " ++ after

lemma Holds.append {text part : String} (h : Holds text part) (before after : String) :
    Holds (before ++ text ++ after) part := by
  obtain ⟨front, rest, rfl⟩ := h
  exact ⟨before ++ front, rest ++ after, by simp only [String.append_assoc]⟩

/-- Texts with blank lines between them stand there. -/
lemma holds_joinWith {part : String} {parts : List String} (h : part ∈ parts) :
    Holds ("\n" ++ joinWith "\n\n" parts ++ "\n") part := by
  induction parts with
  | nil => cases h
  | cons p parts ih =>
    cases parts with
    | nil =>
      rw [List.mem_singleton.1 h]
      exact ⟨"", "", by simp [joinWith]⟩
    | cons q parts =>
      have hcons : joinWith "\n\n" (p :: q :: parts) = p ++ ("\n" ++ "\n") ++ joinWith "\n\n"
          (q :: parts) := rfl
      rw [hcons]
      rcases List.mem_cons.1 h with rfl | h
      · refine ⟨"", "\n" ++ joinWith "\n\n" (q :: parts) ++ "\n", ?_⟩
        simp only [String.append_assoc, String.empty_append]
      · have hrest := (ih h).append ("\n" ++ p ++ "\n") ""
        simpa only [String.append_assoc, String.append_empty] using hrest

/-- A module starts with its first block, if that is not empty. -/
lemma moduleOf_cons {block : String} (h : block ≠ "") (blocks : List String) :
    ∃ rest, moduleOf (block :: blocks) = header ++ ("\n" ++ block) ++ rest := by
  refine ⟨String.join ((blocks.filter (· ≠ "")).map ("\n" ++ ·)), ?_⟩
  rw [moduleOf, List.filter_cons_of_pos (by simpa using h)]
  simp only [List.map_cons, String.join_cons, String.append_assoc]

/-- Every declaration of a library stands in its module of declarations. -/
lemma holds_declarations {lib : TypeLibrary} {d : Declaration} (hd : d ∈ lib.declarations) :
    Holds (declarations lib) d.source := by
  have hall : lib.declarations.filter (fun d =>
      [DeclarationKind.enum, .input, .fragment, .operation, .parameters].contains d.kind) =
        lib.declarations :=
    List.filter_eq_self.2 fun d _ => by cases d.kind <;> rfl
  have hmem : d.source ∈ lib.declarations.map (·.source) := List.mem_map_of_mem hd
  have hblock : lib.writeDeclarations [.enum, .input, .fragment, .operation, .parameters] =
      joinWith "\n\n" (lib.declarations.map (·.source)) ++ "\n" := by
    rw [TypeLibrary.writeDeclarations, hall, TypeLibrary.blocks, if_neg]
    rw [List.isEmpty_iff]
    exact List.ne_nil_of_mem hmem
  have hne : lib.writeDeclarations [.enum, .input, .fragment, .operation, .parameters] ≠ "" := by
    rw [hblock, ne_eq, ← String.toList_inj]
    simp
  obtain ⟨rest, hmodule⟩ := moduleOf_cons hne [lib.writeEnumDeclarations]
  rw [declarations, hmodule, hblock]
  simpa only [String.append_assoc] using (holds_joinWith hmem).append header rest

lemma exists_source_eq (d : Declaration) :
    ∃ rest, d.source = "export type " ++ d.name ++ " = " ++ rest := by
  rw [Declaration.source]
  cases d.body with
  | type t => exact ⟨_, String.append_assoc⟩
  | members ms =>
    have hopen : " = \x7b\n" = " = " ++ "\x7b\n" := rfl
    simp only [hopen, String.append_assoc]
    exact ⟨_, rfl⟩

/-- Every name of a library is declared in its module of declarations. -/
lemma declares_declarations {lib : TypeLibrary} {d : Declaration} (hd : d ∈ lib.declarations) :
    Declares (declarations lib) d.name := by
  have hopen : "\nexport type " = "\n" ++ "export type " := rfl
  obtain ⟨before, after, htext⟩ := holds_declarations hd
  obtain ⟨rest, hsource⟩ := exists_source_eq d
  refine ⟨before, rest ++ "\n" ++ after, ?_⟩
  rw [htext, hsource]
  simp only [hopen, String.append_assoc]

end Artifact

namespace Member

/-- Tells that a member is written without a question mark behind its name. -/
def IsUnmarked (m : Member) : Prop :=
  ∃ rest, m.line = "  " ++ m.name ++ ":" ++ rest

lemma isUnmarked_iff {m : Member} : m.IsUnmarked ↔ m.optional = false := by
  have hcolon : ": " = ":" ++ " " := rfl
  constructor
  · rintro ⟨rest, hline⟩
    by_contra hoptional
    rw [Bool.not_eq_false] at hoptional
    rw [line, hoptional, if_pos rfl] at hline
    simp only [String.append_assoc, String.append_right_inj] at hline
    have hhead := congrArg (fun s => s.toList.head?) hline
    simp at hhead
  · intro hoptional
    rw [IsUnmarked, line, hoptional]
    simp only [hcolon, String.append_assoc, String.empty_append, Bool.false_eq_true, if_false]
    exact ⟨_, rfl⟩

end Member

namespace Declaration

/-- The members that a name is declared to have. -/
def members (d : Declaration) : List Member :=
  match d.body with
  | .type _ => []
  | .members ms => ms

/-- An operation needs variables just if one of them is written without a question mark. -/
lemma needsVariables_iff (s : Schema) (scalars : Shape.Scalars) (op : Operation) :
    op.needsVariables ↔ ∃ m ∈ (ofVariables s scalars op).members, m.IsUnmarked := by
  simp only [Member.isUnmarked_iff]
  rw [Operation.needsVariables, List.any_eq_true]
  cases hparameters : op.parameters with
  | nil => simp [members, ofVariables, Operation.hasVariables, hparameters]
  | cons v vs => simp [members, ofVariables, Operation.hasVariables, hparameters]

end Declaration

/-! ## Agreement -/

namespace Artifact

/-- The declaration of the variables of an operation has its name from no other. -/
lemma eq_ofVariables {s : Schema} {scalars : Shape.Scalars} {root : Option Path}
    {docs : List SourceDocument} {c : Catalogue} (hc : Catalogue.ofDocuments s root docs = .ok c)
    {op : Operation} (hop : op ∈ c.operations) {d : Declaration}
    (hd : d ∈ (TypeLibrary.ofCatalogue s scalars c).declarations) (hkind : d.kind = .parameters)
    (hname : d.name = op.variablesTypeName) : d = .ofVariables s scalars op := by
  have htypes : (c.operations.map fun op => op.typeName).Nodup :=
    List.pairwise_map.2 (Catalogue.pairwise_typeName hc)
  rcases TypeLibrary.mem_declarations_iff.1 hd with ⟨t, -, rfl⟩ | ⟨t, -, rfl⟩ | ⟨f, -, rfl⟩ | ⟨op',
    hop', rfl | rfl⟩
  · cases hkind
  · cases hkind
  · cases hkind
  · cases hkind
  · rw [List.inj_on_of_nodup_map htypes hop' hop (variablesTypeName_inj.1 hname)]

/-- Tells that the tables of a library agree: read back, each holds the operations of the library,
in their order and under their kinds and names, and what the tables of types name is declared. -/
structure TablesAgree (lib : TypeLibrary) (l : Layout) : Prop where
  /-- Operations ascend by kind and by name, so no two share both. -/
  ascending : lib.operations.Pairwise Operation.Precedes
  documents : StoredDocuments.read? (documents lib) = some (.ofOperations lib.operations)
  size : (StoredDocuments.ofOperations lib.operations).size = lib.operations.length
  document {op : Operation} : op ∈ lib.operations →
    (StoredDocuments.ofOperations lib.operations).get? op.kind op.name = some op.document
  types : typeForm.read? (operationTypes lib l) =
    some (lib.operations.map fun op =>
      ((op.kind, op.name), op.variablesTypeName, op.needsVariables, op.typeName))
  endpoints : endpointForm.read? (endpoints lib l) =
    some (lib.operations.map fun op => ((op.kind, op.name), endpointPath l.route op.kind op.name))
  sources : sourceForm.read? (sources lib) =
    some (lib.operations.map fun op => ((op.kind, op.name), op.file))
  /-- The variables of a row are declared. -/
  declared {op : Operation} : op ∈ lib.operations →
    ∃ d ∈ lib.declarations, d.kind = .parameters ∧ d.name = op.variablesTypeName ∧
      Holds (declarations lib) d.source
  /-- They must be given just if one of them has no question mark. -/
  needed {op : Operation} {d : Declaration} : op ∈ lib.operations → d ∈ lib.declarations →
    d.kind = .parameters →
    d.name = op.variablesTypeName → (op.needsVariables ↔ ∃ m ∈ d.members, m.IsUnmarked)
  typeImports : ∃ names, importForm.read? (operationTypes lib l) = some names ∧
    (∀ op ∈ lib.operations, op.typeName ∈ names ∧ op.variablesTypeName ∈ names) ∧
      ∀ n ∈ names, Declares (declarations lib) n
  responseImports : ∃ names, importForm.read? (responseTypes lib l) = some names ∧
    (∀ op ∈ lib.operations, op.typeName ∈ names) ∧ ∀ n ∈ names, Declares (declarations lib) n

lemma read?_documents (lib : TypeLibrary) :
    StoredDocuments.read? (documents lib) = some (.ofOperations lib.operations) := by
  have hgap : ∀ c ∈ "\n".toList, Json.Source.isGap c := List.forall_mem_singleton.2 (by decide)
  exact StoredDocuments.read?_write_append (.ofOperations lib.operations) hgap

/-- Tables agree if names are plain, operations stand in order, and their types are declared. -/
lemma tablesAgree_of_isPlainLibrary {lib : TypeLibrary} (l : Layout) (hplain : IsPlainLibrary lib)
    (hordered : lib.operations.Pairwise Operation.Precedes)
    (hresult : ∀ op ∈ lib.operations, ∃ d ∈ lib.declarations, d.name = op.typeName)
    (hdeclared : ∀ op ∈ lib.operations, ∃ d ∈ lib.declarations, d.kind = .parameters ∧
      d.name = op.variablesTypeName)
    (hneeded : ∀ {op d}, op ∈ lib.operations → d ∈ lib.declarations → d.kind = .parameters →
      d.name = op.variablesTypeName → (op.needsVariables ↔ ∃ m ∈ d.members, m.IsUnmarked)) :
    TablesAgree lib l where
  ascending := hordered
  documents := read?_documents lib
  size := StoredDocuments.size_ofOperations hordered
  document := StoredDocuments.get?_ofOperations hordered
  types := read?_operationTypes l hplain hordered
  endpoints := read?_endpoints l hplain hordered
  sources := read?_sources lib
  declared := by
    intro op hop
    obtain ⟨d, hd, hkind, hname⟩ := hdeclared op hop
    exact ⟨d, hd, hkind, hname, holds_declarations hd⟩
  needed := hneeded
  typeImports := by
    refine ⟨_, imports_operationTypes l hplain, fun op hop => ?_, fun n hn => ?_⟩
    · rw [Table.mem_sortedNames, Table.mem_sortedNames, List.mem_flatMap, List.mem_flatMap]
      exact ⟨⟨op, hop, List.mem_cons_self⟩, op, hop, List.mem_cons_of_mem _ List.mem_cons_self⟩
    · obtain ⟨op, hop, hn⟩ := List.mem_flatMap.1 (Table.mem_sortedNames.1 hn)
      rcases List.mem_pair.1 hn with rfl | rfl
      · obtain ⟨d, hd, hname⟩ := hresult op hop
        exact hname ▸ declares_declarations hd
      · obtain ⟨d, hd, -, hname⟩ := hdeclared op hop
        exact hname ▸ declares_declarations hd
  responseImports := by
    refine ⟨_, imports_responseTypes l hplain, fun op hop => ?_, fun n hn => ?_⟩
    · rw [Table.mem_sortedNames]
      exact List.mem_map_of_mem hop
    · obtain ⟨op, hop, rfl⟩ := List.mem_map.1 (Table.mem_sortedNames.1 hn)
      obtain ⟨d, hd, hname⟩ := hresult op hop
      exact hname ▸ declares_declarations hd

/-- The tables of accepted documents agree, and a data file is read as the documents that were
written. -/
theorem tables_agree {s : Schema} {scalars : Shape.Scalars} {root : Option Path}
    {docs : List SourceDocument} {lib : TypeLibrary}
    (h : TypeLibrary.ofDocuments s scalars root docs = .ok lib) (l : Layout) :
    TablesAgree lib l ∧ ∀ d : StoredDocuments, StoredDocuments.read? d.write = some d := by
  obtain ⟨c, hc, hlib⟩ := bind_eq_ok.1 h
  obtain rfl := Except.ok.inj hlib
  refine ⟨tablesAgree_of_isPlainLibrary l ?_ (Catalogue.pairwise_precedes hc) ?_ ?_ ?_,
    StoredDocuments.read?_write⟩
  · exact fun op hop => isNamedPlainly_of_isName (Catalogue.isName_of_mem_operations hc hop)
  · exact fun op hop => ⟨.ofOperation s scalars c op,
      TypeLibrary.mem_declarations_iff.2 (.inr (.inr (.inr ⟨op, hop, .inl rfl⟩))), rfl⟩
  · exact fun op hop => ⟨.ofVariables s scalars op,
      TypeLibrary.mem_declarations_iff.2 (.inr (.inr (.inr ⟨op, hop, .inr rfl⟩))), rfl, rfl⟩
  · intro op d hop hd hkind hname
    rw [eq_ofVariables hc hop hd hkind hname]
    exact Declaration.needsVariables_iff s scalars op

/-- A layout below a project. -/
def sampleLayout : Layout where
  root := ⟨"/app"⟩
  buildDir := ⟨"/app/.graphql-middleware"⟩
  schemaPath := ⟨"schema.graphql"⟩
  clientOptions := none
  serverOptions := none
  route := "/api/graphql"

theorem tables_agree_sample :
    ∃ lib, TypeLibrary.ofDocuments Catalogue.sampleSchema .empty none
        [Catalogue.sampleDocument, Catalogue.spreadingDocument] = .ok lib ∧
      lib.operations.map (·.name) = ["p", "q"] ∧ TablesAgree lib sampleLayout ∧
      StoredDocuments.read? StoredDocuments.empty.write = some .empty := by
  obtain ⟨c, hc, hnames⟩ := map_eq_ok.1 Catalogue.map_name_sample
  have hlib : TypeLibrary.ofDocuments Catalogue.sampleSchema .empty none
      [Catalogue.sampleDocument, Catalogue.spreadingDocument] =
        .ok (TypeLibrary.ofCatalogue Catalogue.sampleSchema .empty c) := bind_eq_ok.2 ⟨c, hc, rfl⟩
  obtain ⟨hagree, hread⟩ := tables_agree hlib sampleLayout
  exact ⟨_, hlib, hnames, hagree, hread _⟩

end Artifact

end OperationGate
