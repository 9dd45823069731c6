import Mathlib
import OperationGate.Catalogue.Build
import OperationGate.Proofs.Catalogue.Fit

/-!
# Documents that are accepted

A catalogue is made of documents just when they satisfy conditions that say nothing about the order
in which faults are looked for: `Catalogue.exists_ofDocuments_iff`. No operation is anonymous, names
and type names are distinct, fragments and operations fit the schema, and no fragment leads back to
itself.
-/

namespace OperationGate

/-! ## Definitions as they are written -/

namespace Definitions

/-- Tells that a definition is an operation without a name. -/
def IsAnonymous : Document.Definition → Prop
  | .bare _ => True
  | .operation op => op.name = none
  | .fragment _ => False

/-- The operation that a definition is, if it has a name. -/
def operation? (file : String) (d : Document.Definition) : Option WrittenOperation :=
  match d with
  | .operation op => op.name.map fun name =>
    ⟨op.kind, name, op.parameters.map variableOf, Document.outlines op.selections, file, d.print⟩
  | _ => none

/-- The fragment that a definition is. -/
def fragment? (file : String) (d : Document.Definition) : Option WrittenFragment :=
  match d with
  | .fragment f => some ⟨f.name, f.condition, file, Document.outlines f.selections, d.print⟩
  | _ => none

/-- The definitions of documents, each with the path that is reported for it. -/
def written (root : Option Path) (docs : List SourceDocument) :
    List (String × Document.Definition) :=
  docs.flatMap fun doc =>
    ((Document.read? doc.source).getD []).map fun d => (reportedPath doc.path root, d)

/-- The operations among definitions. -/
def operationsAmong (ps : List (String × Document.Definition)) : List WrittenOperation :=
  ps.filterMap fun p => operation? p.1 p.2

/-- The fragments among definitions. -/
def fragmentsAmong (ps : List (String × Document.Definition)) : List WrittenFragment :=
  ps.filterMap fun p => fragment? p.1 p.2

/-- The fragments by name. -/
def tableOf (fragments : List WrittenFragment) : Table WrittenFragment :=
  .ofList (fragments.map fun f => (f.name, f))

/-- Tells that no two operations of a kind have one name, no two fragments have one, and no two of
either have one type name. -/
structure Distinct (operations : List WrittenOperation) (fragments : List WrittenFragment) :
    Prop where
  operationNames : (operations.map fun op => (op.kind, op.name)).Nodup
  operationTypes : (operations.map (·.typeName)).Nodup
  fragmentNames : (fragments.map (·.name)).Nodup
  fragmentTypes : (fragments.map (·.typeName)).Nodup

variable {operations : List WrittenOperation} {fragments : List WrittenFragment}

/-- Fewer definitions have distinct names if more have. -/
lemma Distinct.of_sublist {more : List WrittenOperation} {moreFragments : List WrittenFragment}
    (h : Distinct more moreFragments) (hops : operations.Sublist more)
    (hfs : fragments.Sublist moreFragments) : Distinct operations fragments where
  operationNames := h.operationNames.sublist (hops.map _)
  operationTypes := h.operationTypes.sublist (hops.map _)
  fragmentNames := h.fragmentNames.sublist (hfs.map _)
  fragmentTypes := h.fragmentTypes.sublist (hfs.map _)

lemma get?_tableOf_eq_some_iff (h : (fragments.map (·.name)).Nodup) {name : String}
    {f : WrittenFragment} :
    (tableOf fragments).get? name = some f ↔ f ∈ fragments ∧ f.name = name := by
  have hkeys : (fragments.map fun f => (f.name, f)).map (·.1) = fragments.map (·.name) := by simp
  rw [tableOf, Table.get?_ofList_eq_some_iff (by rwa [hkeys]), List.mem_map]
  constructor
  · rintro ⟨g, hg, h⟩
    cases h
    exact ⟨hg, rfl⟩
  · rintro ⟨hf, rfl⟩
    exact ⟨f, hf, rfl⟩

lemma mem_values_tableOf (h : (fragments.map (·.name)).Nodup) {f : WrittenFragment} :
    f ∈ (tableOf fragments).values ↔ f ∈ fragments := by
  simp only [Table.mem_values_iff, get?_tableOf_eq_some_iff h, exists_and_left,
    exists_eq', and_true]

lemma tableOf_append (f : WrittenFragment) :
    tableOf (fragments ++ [f]) = (tableOf fragments).insert f.name f := by
  rw [tableOf, tableOf, Table.ofList, Table.ofList, List.map_append, List.foldl_append]
  rfl

/-! ## Adding definitions -/

lemma nodup_map_append_iff {α β : Type} {key : α → β} {xs : List α} {x : α} :
    ((xs ++ [x]).map key).Nodup ↔ (xs.map key).Nodup ∧ ∀ y ∈ xs, key y ≠ key x := by
  rw [List.map_append, List.map_singleton, List.nodup_append]
  simp

/-- A fragment is added if it leaves names distinct. -/
lemma addFragment_eq_ok_iff (h : Distinct operations fragments) {f : WrittenFragment}
    {ds : Definitions} :
    addFragment ⟨operations, tableOf fragments⟩ f = .ok ds ↔
      Distinct operations (fragments ++ [f]) ∧ ds = ⟨operations, tableOf (fragments ++ [f])⟩ := by
  have hiff : Distinct operations (fragments ++ [f]) ↔
      (∀ g ∈ fragments, g.name ≠ f.name) ∧ ∀ g ∈ fragments, g.typeName ≠ f.typeName := by
    constructor
    · rintro ⟨-, -, hnames, htypes⟩
      exact ⟨(nodup_map_append_iff.1 hnames).2, (nodup_map_append_iff.1 htypes).2⟩
    · rintro ⟨hnames, htypes⟩
      exact ⟨h.operationNames, h.operationTypes, nodup_map_append_iff.2 ⟨h.fragmentNames, hnames⟩,
        nodup_map_append_iff.2 ⟨h.fragmentTypes, htypes⟩⟩
  rw [hiff, addFragment, tableOf_append]
  cases hname : (tableOf fragments).get? f.name with
  | some g =>
    have hg := (get?_tableOf_eq_some_iff h.fragmentNames).1 hname
    simp only [reduceCtorEq, false_iff, not_and]
    exact fun hnames => absurd hg.2 (hnames.1 g hg.1)
  | none =>
    have hnames : ∀ g ∈ fragments, g.name ≠ f.name := by
      intro g hg he
      rw [(get?_tableOf_eq_some_iff h.fragmentNames).2 ⟨hg, he⟩] at hname
      cases hname
    cases htype : (tableOf fragments).values.find? fun g => g.typeName = f.typeName with
    | some g =>
      have hg := (mem_values_tableOf h.fragmentNames).1 (List.mem_of_find?_eq_some htype)
      have he : g.typeName = f.typeName := by simpa using List.find?_some htype
      simp only [reduceCtorEq, false_iff, not_and]
      exact fun htypes => absurd he (htypes.2 g hg)
    | none =>
      have htypes : ∀ g ∈ fragments, g.typeName ≠ f.typeName := by
        intro g hg
        simpa using List.find?_eq_none.1 htype g ((mem_values_tableOf h.fragmentNames).2 hg)
      simp only [Except.ok.injEq]
      exact ⟨fun h => ⟨⟨hnames, htypes⟩, h.symm⟩, fun h => h.2.symm⟩

/-- An operation is added if it leaves names distinct. -/
lemma addOperation_eq_ok_iff (h : Distinct operations fragments) {op : WrittenOperation}
    {ds : Definitions} :
    addOperation ⟨operations, tableOf fragments⟩ op = .ok ds ↔
      Distinct (operations ++ [op]) fragments ∧ ds = ⟨operations ++ [op], tableOf fragments⟩ := by
  have hiff : Distinct (operations ++ [op]) fragments ↔
      (∀ o ∈ operations, (o.kind, o.name) ≠ (op.kind, op.name)) ∧
        ∀ o ∈ operations, o.typeName ≠ op.typeName := by
    constructor
    · rintro ⟨hnames, htypes, -, -⟩
      exact ⟨(nodup_map_append_iff.1 hnames).2, (nodup_map_append_iff.1 htypes).2⟩
    · rintro ⟨hnames, htypes⟩
      exact ⟨nodup_map_append_iff.2 ⟨h.operationNames, hnames⟩,
        nodup_map_append_iff.2 ⟨h.operationTypes, htypes⟩, h.fragmentNames, h.fragmentTypes⟩
  rw [hiff, addOperation]
  cases hname : operations.find? fun o => o.kind = op.kind && o.name = op.name with
  | some o =>
    have ho := List.mem_of_find?_eq_some hname
    have he : o.kind = op.kind ∧ o.name = op.name := by simpa using List.find?_some hname
    simp only [reduceCtorEq, false_iff, not_and]
    exact fun hnames => absurd (Prod.ext he.1 he.2) (hnames.1 o ho)
  | none =>
    have hnames : ∀ o ∈ operations, (o.kind, o.name) ≠ (op.kind, op.name) := by
      intro o ho he
      obtain ⟨hkind, hn⟩ := Prod.mk.inj he
      exact List.find?_eq_none.1 hname o ho (by simp [hkind, hn])
    cases htype : operations.find? fun o => o.typeName = op.typeName with
    | some o =>
      have ho := List.mem_of_find?_eq_some htype
      have he : o.typeName = op.typeName := by simpa using List.find?_some htype
      simp only [reduceCtorEq, false_iff, not_and]
      exact fun htypes => absurd he (htypes.2 o ho)
    | none =>
      have htypes : ∀ o ∈ operations, o.typeName ≠ op.typeName := by
        intro o ho
        simpa using List.find?_eq_none.1 htype o ho
      simp only [Except.ok.injEq]
      exact ⟨fun h => ⟨⟨hnames, htypes⟩, h.symm⟩, fun h => h.2.symm⟩

lemma add_eq {file : String} {ds : Definitions} {d : Document.Definition} :
    add file ds d =
      match operation? file d, fragment? file d with
      | some op, _ => ds.addOperation op
      | none, some f => ds.addFragment f
      | none, none => .error (.anonymousOperation file) := by
  cases d with
  | bare => rfl
  | fragment f => rfl
  | operation op =>
    rw [add, operation?]
    cases op.name <;> simp [fragment?]

/-- A definition is an operation with a name, a fragment, or an operation without a name. -/
lemma cases_of_definition (file : String) (d : Document.Definition) :
    (∃ op, operation? file d = some op ∧ fragment? file d = none ∧ ¬IsAnonymous d) ∨
      (∃ f, operation? file d = none ∧ fragment? file d = some f ∧ ¬IsAnonymous d) ∨
        (operation? file d = none ∧ fragment? file d = none ∧ IsAnonymous d) := by
  cases d with
  | bare => exact .inr (.inr ⟨rfl, rfl, trivial⟩)
  | fragment f => exact .inr (.inl ⟨_, rfl, rfl, id⟩)
  | operation op =>
    cases hname : op.name with
    | none => exact .inr (.inr ⟨by simp [operation?, hname], rfl, hname⟩)
    | some name => exact .inl ⟨_, by simp [operation?, hname]; rfl,
        rfl, by simp [IsAnonymous, hname]⟩

/-- Definitions are added one after the other just when none of them is anonymous and names stay
distinct. -/
lemma foldlM_add_eq_ok_iff (h : Distinct operations fragments)
    {ps : List (String × Document.Definition)} {ds : Definitions} :
    ps.foldlM (fun ds p => add p.1 ds p.2) ⟨operations, tableOf fragments⟩ = .ok ds ↔
      (∀ p ∈ ps, ¬IsAnonymous p.2) ∧
        Distinct (operations ++ operationsAmong ps) (fragments ++ fragmentsAmong ps) ∧
        ds = ⟨operations ++ operationsAmong ps, tableOf (fragments ++ fragmentsAmong ps)⟩ := by
  induction ps generalizing operations fragments with
  | nil => simp [operationsAmong, fragmentsAmong, h, pure, Except.pure, eq_comm]
  | cons p rest ih =>
    rw [List.foldlM_cons, bind_eq_ok, add_eq, List.forall_mem_cons]
    rcases cases_of_definition p.1 p.2 with ⟨op, hop, hf, hnamed⟩ | ⟨f, hop, hf,
      hnamed⟩ | ⟨hop, hf, hanonymous⟩
    · have hops : operationsAmong (p :: rest) = op :: operationsAmong rest := by
        simp [operationsAmong, hop]
      have hfs : fragmentsAmong (p :: rest) = fragmentsAmong rest := by simp [fragmentsAmong, hf]
      rw [hop, hops, hfs, List.append_cons]
      simp only [addOperation_eq_ok_iff h]
      constructor
      · rintro ⟨_, ⟨hdistinct, rfl⟩, hrest⟩
        obtain ⟨hnames, hrest⟩ := (ih hdistinct).1 hrest
        exact ⟨⟨hnamed, hnames⟩, hrest⟩
      · rintro ⟨⟨-, hnames⟩, hdistinct, hds⟩
        have hdistinct' : Distinct (operations ++ [op]) fragments :=
          hdistinct.of_sublist (List.sublist_append_left _ _) (List.sublist_append_left _ _)
        exact ⟨_, ⟨hdistinct', rfl⟩, (ih hdistinct').2 ⟨hnames, hdistinct, hds⟩⟩
    · have hops : operationsAmong (p :: rest) = operationsAmong rest := by
        simp [operationsAmong, hop]
      have hfs : fragmentsAmong (p :: rest) = f :: fragmentsAmong rest := by
        simp [fragmentsAmong, hf]
      rw [hop, hf, hops, hfs, List.append_cons]
      simp only [addFragment_eq_ok_iff h]
      constructor
      · rintro ⟨_, ⟨hdistinct, rfl⟩, hrest⟩
        obtain ⟨hnames, hrest⟩ := (ih hdistinct).1 hrest
        exact ⟨⟨hnamed, hnames⟩, hrest⟩
      · rintro ⟨⟨-, hnames⟩, hdistinct, hds⟩
        have hdistinct' : Distinct operations (fragments ++ [f]) :=
          hdistinct.of_sublist (List.sublist_append_left _ _) (List.sublist_append_left _ _)
        exact ⟨_, ⟨hdistinct', rfl⟩, (ih hdistinct').2 ⟨hnames, hdistinct, hds⟩⟩
    · rw [hop, hf]
      simp [hanonymous]

/-- Documents that parse define what is written in them, if no operation is anonymous and names are
distinct. -/
lemma ofDocuments_eq_ok_iff {root : Option Path} {docs : List SourceDocument}
    (hparse : ∀ doc ∈ docs, (Document.read? doc.source).isSome) {ds : Definitions} :
    ofDocuments root docs = .ok ds ↔
      (∀ p ∈ written root docs, ¬IsAnonymous p.2) ∧
        Distinct (operationsAmong (written root docs)) (fragmentsAmong (written root docs)) ∧
        ds = ⟨operationsAmong (written root docs),
          tableOf (fragmentsAmong (written root docs))⟩ := by
  have hfold : ∀ ds, docs.foldlM (addDocument root) ds =
      (written root docs).foldlM (fun ds p => add p.1 ds p.2) ds := by
    induction docs with
    | nil => exact fun _ => rfl
    | cons doc rest ih =>
      intro ds
      obtain ⟨defs, hdefs⟩ := Option.isSome_iff_exists.1 (hparse doc List.mem_cons_self)
      have hadd : addDocument root ds doc = defs.foldlM (add (reportedPath doc.path root)) ds := by
        simp only [addDocument, hdefs]
      have hwritten : written root (doc :: rest) =
          defs.map (fun d => (reportedPath doc.path root, d)) ++ written root rest := by
        simp [written, hdefs]
      rw [List.foldlM_cons, hadd, hwritten, List.foldlM_append, List.foldlM_map]
      exact bind_congr fun ds => ih (fun doc hdoc => hparse doc (List.mem_cons_of_mem _ hdoc)) ds
  have hempty : Distinct [] [] := ⟨.nil, .nil, .nil, .nil⟩
  rw [ofDocuments, hfold]
  exact foldlM_add_eq_ok_iff hempty

end Definitions

/-! ## Acceptance -/

namespace Catalogue

/-- What documents must satisfy, whatever the order in which faults are looked for. -/
structure Acceptable (s : Schema) (root : Option Path) (docs : List SourceDocument) : Prop where
  /-- Every operation has a name. -/
  named : ∀ p ∈ Definitions.written root docs, ¬Definitions.IsAnonymous p.2
  /-- Names and type names are distinct. -/
  distinct : Definitions.Distinct (Definitions.operationsAmong (Definitions.written root docs))
    (Definitions.fragmentsAmong (Definitions.written root docs))
  /-- Fragments fit the schema. -/
  fragments : ∀ f ∈ Definitions.fragmentsAmong (Definitions.written root docs),
    Validity.FragmentFits s
      (Definitions.tableOf (Definitions.fragmentsAmong (Definitions.written root docs))) f
  /-- No fragment leads back to itself. -/
  acyclic : Cycles.IsAcyclic
    (Definitions.tableOf (Definitions.fragmentsAmong (Definitions.written root docs)))
  /-- Operations fit the schema. -/
  operations : ∀ op ∈ Definitions.operationsAmong (Definitions.written root docs), ∃ rootType,
    Validity.OperationFits s
      (Definitions.tableOf (Definitions.fragmentsAmong (Definitions.written root docs))) op rootType

variable {s : Schema}

lemma inFile_eq_ok_iff {α : Type} {file : String} {x : Except DocumentIssue α} {a : α} :
    inFile file x = .ok a ↔ x = .ok a := by
  cases x <;> simp [inFile]

lemma checkCycles_eq_ok_iff {fragments : Table WrittenFragment} :
    checkCycles fragments = .ok () ↔ Cycles.IsAcyclic fragments := by
  rw [← Cycles.repeated?_eq_none_iff, checkCycles]
  cases Cycles.repeated? fragments <;> simp

lemma operationOf_eq_ok_iff {fragments : Table WrittenFragment} {op : WrittenOperation}
    {o : Operation} :
    operationOf s fragments op = .ok o ↔
      Validity.OperationFits s fragments op o.rootType ∧ o.toWrittenOperation = op ∧
        o.dependencies = .of s fragments o.rootType op.selections
          (op.parameters.map (·.type.base)) ∧
          o.document = documentOf fragments op.source o.dependencies.fragments := by
  simp only [operationOf, bind_eq_ok, inFile_eq_ok_iff, Validity.checkOperation_eq_ok_iff]
  constructor
  · rintro ⟨root, hfits, h⟩
    cases h
    exact ⟨hfits, rfl, rfl, rfl⟩
  · rintro ⟨hfits, rfl, hdependencies, hdocument⟩
    refine ⟨o.rootType, hfits, ?_⟩
    rw [← hdependencies, ← hdocument]
    rfl

lemma exists_operationOf_iff {fragments : Table WrittenFragment} {op : WrittenOperation} :
    (∃ o, operationOf s fragments op = .ok o) ↔ ∃ rootType,
    Validity.OperationFits s fragments op rootType := by
  simp only [operationOf_eq_ok_iff]
  constructor
  · rintro ⟨o, hfits, -⟩
    exact ⟨o.rootType, hfits⟩
  · rintro ⟨rootType, hfits⟩
    let dependencies :=
      Dependencies.of s fragments rootType op.selections (op.parameters.map (·.type.base))
    exact ⟨⟨op, dependencies, rootType, documentOf fragments op.source dependencies.fragments⟩,
      hfits, rfl, rfl, rfl⟩

/-- What documents define makes a catalogue just when fragments and operations fit the schema and no
fragment leads back to itself. -/
lemma ofDefinitions_eq_ok_iff {ds : Definitions} {c : Catalogue} :
    ofDefinitions s ds = .ok c ↔
      (∀ f ∈ ds.fragments.values, Validity.FragmentFits s ds.fragments f) ∧
        Cycles.IsAcyclic ds.fragments ∧
        ∃ operations, ds.operations.mapM (operationOf s ds.fragments) = .ok operations ∧
          c = ⟨operations.mergeSort Operation.before, ds.fragments.map fun _ f =>
            fragmentOf s ds.fragments f⟩ := by
  simp only [ofDefinitions, check_bind_eq_ok, forM_eq_ok_iff, inFile_eq_ok_iff,
    Validity.checkFragment_eq_ok_iff, checkCycles_eq_ok_iff]
  simp only [bind_eq_ok]
  constructor
  · rintro ⟨hfragments, hacyclic, operations, hoperations, h⟩
    cases h
    exact ⟨hfragments, hacyclic, operations, hoperations, rfl⟩
  · rintro ⟨hfragments, hacyclic, operations, hoperations, rfl⟩
    exact ⟨hfragments, hacyclic, operations, hoperations, rfl⟩

lemma exists_ofDefinitions_iff {ds : Definitions} :
    (∃ c, ofDefinitions s ds = .ok c) ↔
      (∀ f ∈ ds.fragments.values, Validity.FragmentFits s ds.fragments f) ∧
        Cycles.IsAcyclic ds.fragments ∧
        ∀ op ∈ ds.operations, ∃ rootType, Validity.OperationFits s ds.fragments op rootType := by
  simp only [ofDefinitions_eq_ok_iff, ← exists_operationOf_iff, ← exists_mapM_eq_ok_iff]
  constructor
  · rintro ⟨_, hfragments, hacyclic, operations, hoperations, -⟩
    exact ⟨hfragments, hacyclic, operations, hoperations⟩
  · rintro ⟨hfragments, hacyclic, operations, hoperations⟩
    exact ⟨_, hfragments, hacyclic, operations, hoperations, rfl⟩

/-- Documents that parse are accepted just when they are acceptable. -/
theorem exists_ofDocuments_iff {root : Option Path} {docs : List SourceDocument}
    (hparse : ∀ doc ∈ docs, (Document.read? doc.source).isSome) :
    (∃ c, ofDocuments s root docs = .ok c) ↔ Acceptable s root docs := by
  simp only [ofDocuments, bind_eq_ok, Definitions.ofDocuments_eq_ok_iff hparse]
  constructor
  · rintro ⟨c, _, ⟨hnamed, hdistinct, rfl⟩, h⟩
    obtain ⟨hfragments, hacyclic, hoperations⟩ := exists_ofDefinitions_iff.1 ⟨c, h⟩
    refine ⟨hnamed, hdistinct, fun f hf => ?_, hacyclic, hoperations⟩
    exact hfragments f ((Definitions.mem_values_tableOf hdistinct.fragmentNames).2 hf)
  · rintro ⟨hnamed, hdistinct, hfragments, hacyclic, hoperations⟩
    obtain ⟨c, h⟩ := (@exists_ofDefinitions_iff s ⟨_, _⟩).2
      ⟨fun f hf => hfragments f ((Definitions.mem_values_tableOf hdistinct.fragmentNames).1 hf),
        hacyclic, hoperations⟩
    exact ⟨c, _, ⟨hnamed, hdistinct, rfl⟩, h⟩

/-- A field of a sample type. -/
def sampleField (name type : String) : Field :=
  ⟨name, .named type, [], none⟩

/-- An object type of a sample schema. -/
def sampleObject (name : String) (interfaces : List String) (fields : List Field) : SchemaType :=
  { SchemaType.bare name .object none with fields, interfaces }

/-- The interface of a sample schema. -/
def sampleNode : SchemaType :=
  { SchemaType.bare "Node" .interface none with fields := [sampleField "id" "ID"] }

/-- The types of a sample schema in which users and groups are nodes. -/
def sampleTypes : List SchemaType :=
  [.bare "ID" .scalar none, sampleNode,
    sampleObject "User" ["Node"] [sampleField "id" "ID", sampleField "group" "Group"],
    sampleObject "Group" ["Node"] [sampleField "id" "ID"],
    sampleObject "Query" [] [sampleField "node" "Node"]]

/-- The schema of some types, with the type `Query` as its only root. -/
def schemaOf (types : List SchemaType) : Schema where
  types := .ofList (types.map fun t => (t.name, t))
  queryRoot := some "Query"
  mutationRoot := none
  subscriptionRoot := none

/-- A type with a name of its own is found under it. -/
lemma get?_schemaOf_eq_some_iff {types : List SchemaType} (h : (types.map (·.name)).Nodup)
    {n : String} {t : SchemaType} : (schemaOf types).get? n = some t ↔ t ∈ types ∧ t.name = n := by
  have hkeys : ((types.map fun t => (t.name, t)).map (·.1)).Nodup := by rwa [List.map_map]
  rw [Schema.get?, schemaOf, Table.get?_ofList_eq_some_iff hkeys]
  simp

/-- The schema of the sample types. -/
def sampleSchema : Schema := schemaOf sampleTypes

/-- A document whose fragment narrows a node to a user. -/
def sampleDocument : SourceDocument where
  path := "a.graphql"
  source :=
    "query q \x7b node \x7b id ...F \x7d \x7d fragment F on User \x7b group \x7b id \x7d \x7d"

/-- The definitions of the sample document. -/
def sampleDefinitions : List Document.Definition :=
  [.operation ⟨.query, some "q", [], [],
    [.field none "node" [] [] [.field none "id" [] [] [], .spread "F" []]]⟩,
    .fragment ⟨"F", "User", [], [.field none "group" [] [] [.field none "id" [] [] []]]⟩]

lemma read?_sampleDocument : Document.read? sampleDocument.source = some sampleDefinitions := by
  cbv

/-- A document is accepted if its definitions are. -/
lemma ofDocuments_singleton {root : Option Path} {doc : SourceDocument}
    {defs : List Document.Definition} (hread : Document.read? doc.source = some defs) :
    ofDocuments s root [doc] =
      defs.foldlM (Definitions.add (reportedPath doc.path root)) .empty >>= ofDefinitions s := by
  have hadd : ∀ ds, Definitions.addDocument root ds doc =
      defs.foldlM (Definitions.add (reportedPath doc.path root)) ds := by
    intro ds
    simp only [Definitions.addDocument, hread]
  rw [ofDocuments, Definitions.ofDocuments, List.foldlM_cons, hadd]
  simp only [List.foldlM_nil, bind_pure]

lemma ofDocuments_sample :
    ofDocuments sampleSchema none [sampleDocument] =
      sampleDefinitions.foldlM (Definitions.add sampleDocument.path) .empty >>=
      ofDefinitions sampleSchema :=
  ofDocuments_singleton read?_sampleDocument

lemma exists_ofDocuments_sample : ∃ c, ofDocuments sampleSchema none [sampleDocument] = .ok c := by
  have hok : (ofDocuments sampleSchema none [sampleDocument]).toBool = true := by
    rw [ofDocuments_sample]
    cbv
  cases hc : ofDocuments sampleSchema none [sampleDocument] with
  | ok c => exact ⟨c, rfl⟩
  | error e => simp [hc, Except.toBool] at hok

theorem acceptable_sample :
    (∀ doc ∈ [sampleDocument], (Document.read? doc.source).isSome) ∧
      Acceptable sampleSchema none [sampleDocument] := by
  have hparse : ∀ doc ∈ [sampleDocument], (Document.read? doc.source).isSome := by
    simp [read?_sampleDocument]
  exact ⟨hparse, (exists_ofDocuments_iff hparse).1 exists_ofDocuments_sample⟩

/-! ## Catalogues of accepted documents -/

/-- The fragments of a catalogue as they are written. -/
def written (c : Catalogue) : Table WrittenFragment :=
  c.fragments.map fun _ f => f.toWrittenFragment

lemma get?_written (c : Catalogue) (n : String) :
    c.written.get? n = (c.fragments.get? n).map (·.toWrittenFragment) :=
  Table.get?_map _ _ _

/-- Tells that a catalogue fits a schema: its fragments and operations do, and no fragment leads
back to itself. -/
structure FitsSchema (s : Schema) (c : Catalogue) : Prop where
  fragments {name : String} {f : WrittenFragment} : c.written.get? name = some f →
    Validity.FragmentFits s c.written f
  acyclic : Cycles.IsAcyclic c.written
  operations {op : Operation} : op ∈ c.operations →
    Validity.OperationFits s c.written op.toWrittenOperation op.rootType

/-- What documents define stands in their catalogue as it is written. -/
lemma written_map_fragmentOf (operations : List Operation) (fragments : Table WrittenFragment) :
    written ⟨operations, fragments.map fun _ f => fragmentOf s fragments f⟩ = fragments := by
  apply Table.ext
  show (fragments.entries.map _).map _ = fragments.entries
  rw [List.map_map]
  exact List.map_id _

/-- Accepted documents make a catalogue that fits the schema. -/
lemma fitsSchema_of_ofDocuments {root : Option Path} {docs : List SourceDocument} {c : Catalogue}
    (h : ofDocuments s root docs = .ok c) : c.FitsSchema s := by
  obtain ⟨ds, -, h⟩ := bind_eq_ok.1 h
  obtain ⟨hfragments, hacyclic, operations, hoperations, rfl⟩ := ofDefinitions_eq_ok_iff.1 h
  refine ⟨fun {name f} hf => ?_, by rwa [written_map_fragmentOf], fun {op} hop => ?_⟩
  · rw [written_map_fragmentOf] at hf ⊢
    exact hfragments f (Table.mem_values_iff.2 ⟨name, hf⟩)
  · rw [written_map_fragmentOf]
    obtain ⟨w, -, hw⟩ := exists_of_mem_of_mapM_ok hoperations (List.mem_mergeSort.1 hop)
    obtain ⟨hfits, rfl, -⟩ := operationOf_eq_ok_iff.1 hw
    exact hfits

end Catalogue

end OperationGate
