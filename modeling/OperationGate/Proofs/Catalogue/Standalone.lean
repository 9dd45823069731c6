import OperationGate.Proofs.Catalogue.Agreement

/-!
# Documents that stand alone

The document of an operation is what is printed of the operation, followed by what is printed of the
fragments that its selections lead to, each once and in ascending order (`IsDocument`). If it is
read as what was printed, then it is accepted by itself, and it gives the same operation and the
same fragments: `exists_document_of_mem_operations`.
-/

namespace OperationGate

/-! ## What a catalogue lists -/

namespace Definitions

variable {ps : List (String × Document.Definition)}

/-- A definition of an operation. -/
lemma spec_of_operation?_eq_some {file : String} {d : Document.Definition} {op : WrittenOperation}
    (h : operation? file d = some op) :
    op.file = file ∧ op.source = d.print ∧ fragment? file d = none ∧ ¬IsAnonymous d := by
  cases d with
  | operation o =>
    obtain ⟨name, hname, rfl⟩ := Option.map_eq_some_iff.1 h
    exact ⟨rfl, rfl, rfl, by simp [IsAnonymous, hname]⟩
  | bare => cases h
  | fragment => cases h

/-- A definition of a fragment, which defines the fragment in any file. -/
lemma spec_of_fragment?_eq_some {file : String} {d : Document.Definition} {f : WrittenFragment}
    (h : fragment? file d = some f) :
    f.file = file ∧ f.source = d.print ∧ ¬IsAnonymous d ∧
      ∀ other, operation? other d = none ∧ fragment? other d = some (f.movedTo other) := by
  cases d with
  | fragment g =>
    cases h
    exact ⟨rfl, rfl, id, fun _ => ⟨rfl, rfl⟩⟩
  | bare => cases h
  | operation => cases h

/-- An operation among definitions is that of a definition. -/
lemma exists_of_mem_operationsAmong {op : WrittenOperation} (h : op ∈ operationsAmong ps) :
    ∃ d, (op.file, d) ∈ ps ∧ operation? op.file d = some op := by
  obtain ⟨⟨file, d⟩, hp, hd⟩ := List.mem_filterMap.1 h
  obtain ⟨rfl, -⟩ := spec_of_operation?_eq_some hd
  exact ⟨d, hp, hd⟩

/-- A fragment among definitions is that of a definition. -/
lemma exists_of_mem_fragmentsAmong {f : WrittenFragment} (h : f ∈ fragmentsAmong ps) :
    ∃ d, (f.file, d) ∈ ps ∧ fragment? f.file d = some f := by
  obtain ⟨⟨file, d⟩, hp, hd⟩ := List.mem_filterMap.1 h
  obtain ⟨rfl, -⟩ := spec_of_fragment?_eq_some hd
  exact ⟨d, hp, hd⟩

/-- A definition among those of documents was read from a text. -/
lemma exists_read_of_mem_written {root : Option Path} {docs : List SourceDocument} {file : String}
    {d : Document.Definition} (h : (file, d) ∈ written root docs) :
    ∃ source definitions, Document.read? source = some definitions ∧ d ∈ definitions := by
  obtain ⟨doc, -, hpair⟩ := List.mem_flatMap.1 h
  obtain ⟨d', hmem, he⟩ := List.mem_map.1 hpair
  obtain rfl : d' = d := congrArg Prod.snd he
  cases hread : Document.read? doc.source with
  | none =>
    rw [hread] at hmem
    cases hmem
  | some definitions =>
    rw [hread] at hmem
    exact ⟨doc.source, definitions, hread, hmem⟩

/-- Documents that define something parse. -/
lemma isSome_read_of_ofDocuments {root : Option Path} {docs : List SourceDocument}
    {ds : Definitions} (h : ofDocuments root docs = .ok ds) :
    ∀ doc ∈ docs, (Document.read? doc.source).isSome := by
  rw [ofDocuments] at h
  generalize empty = start at h
  induction docs generalizing start with
  | nil => exact fun _ hdoc => absurd hdoc List.not_mem_nil
  | cons doc rest ih =>
    rw [List.foldlM_cons, bind_eq_ok] at h
    obtain ⟨next, hnext, hrest⟩ := h
    refine List.forall_mem_cons.2 ⟨?_, ih _ hrest⟩
    simp only [addDocument] at hnext
    cases hread : Document.read? doc.source with
    | some defs => rfl
    | none =>
      rw [hread] at hnext
      cases hnext

end Definitions

namespace Catalogue

variable {s : Schema}

/-- A catalogue lists what definitions say, each operation and fragment with what it depends on. -/
structure Lists (s : Schema) (ps : List (String × Document.Definition)) (c : Catalogue) : Prop where
  distinct : Definitions.Distinct (Definitions.operationsAmong ps) (Definitions.fragmentsAmong ps)
  written_eq : c.written = Definitions.tableOf (Definitions.fragmentsAmong ps)
  operation {op : Operation} : op ∈ c.operations →
    op.toWrittenOperation ∈ Definitions.operationsAmong ps ∧
      operationOf s c.written op.toWrittenOperation = .ok op
  fragment {name : String} {f : Fragment} : c.fragments.get? name = some f →
    f.toWrittenFragment ∈ Definitions.fragmentsAmong ps ∧ f.name = name ∧
      fragmentOf s c.written f.toWrittenFragment = f

lemma lists_of_ofDocuments {root : Option Path} {docs : List SourceDocument} {c : Catalogue}
    (h : ofDocuments s root docs = .ok c) : c.Lists s (Definitions.written root docs) := by
  obtain ⟨ds, hds, h⟩ := bind_eq_ok.1 h
  have hparse := Definitions.isSome_read_of_ofDocuments hds
  obtain ⟨-, hdistinct, rfl⟩ := (Definitions.ofDocuments_eq_ok_iff hparse).1 hds
  obtain ⟨-, -, operations, hoperations, rfl⟩ := ofDefinitions_eq_ok_iff.1 h
  refine ⟨hdistinct, written_map_fragmentOf _ _, fun {op} hop => ?_, fun {name f} hf => ?_⟩
  · rw [written_map_fragmentOf]
    obtain ⟨w, hw, hmade⟩ := exists_of_mem_of_mapM_ok hoperations (List.mem_mergeSort.1 hop)
    obtain ⟨-, rfl, -⟩ := operationOf_eq_ok_iff.1 hmade
    exact ⟨hw, hmade⟩
  · rw [written_map_fragmentOf]
    rw [Table.get?_map, Option.map_eq_some_iff] at hf
    obtain ⟨w, hw, rfl⟩ := hf
    obtain ⟨hmem, hname⟩ := (Definitions.get?_tableOf_eq_some_iff hdistinct.fragmentNames).1 hw
    exact ⟨hmem, hname, rfl⟩

/-- What a catalogue is made of: the operations of the documents by kind and name, and their
fragments. -/
lemma spec_of_ofDocuments {root : Option Path} {docs : List SourceDocument} {c : Catalogue}
    (h : ofDocuments s root docs = .ok c) :
    (∃ operations,
      (Definitions.operationsAmong (Definitions.written root docs)).mapM (operationOf s c.written) =
        .ok operations ∧ c.operations = operations.mergeSort Operation.before) ∧
      c.fragments = c.written.map fun _ f => fragmentOf s c.written f := by
  obtain ⟨ds, hds, hc⟩ := bind_eq_ok.1 h
  have hparse := Definitions.isSome_read_of_ofDocuments hds
  obtain ⟨-, -, rfl⟩ := (Definitions.ofDocuments_eq_ok_iff hparse).1 hds
  obtain ⟨-, -, operations, hoperations, rfl⟩ := ofDefinitions_eq_ok_iff.1 hc
  rw [written_map_fragmentOf]
  exact ⟨⟨operations, hoperations, rfl⟩, rfl⟩

/-- A catalogue has the operations that are written, in another order. -/
lemma operations_perm {root : Option Path} {docs : List SourceDocument} {c : Catalogue}
    (h : ofDocuments s root docs = .ok c) :
    (c.operations.map (·.toWrittenOperation)).Perm
      (Definitions.operationsAmong (Definitions.written root docs)) := by
  obtain ⟨⟨operations, hoperations, hsorted⟩, -⟩ := spec_of_ofDocuments h
  have hwritten : operations.map (·.toWrittenOperation) =
      Definitions.operationsAmong (Definitions.written root docs) :=
    map_eq_of_mapM_ok hoperations fun _ _ hmade => (operationOf_eq_ok_iff.1 hmade).2.1
  rw [hsorted, ← hwritten]
  exact (List.mergeSort_perm _ _).map _

/-! ## The document of an operation -/

/-- The parts of the document of an operation: the definition of the operation, and the fragments
that its selections lead to with their definitions. -/
structure IsDocument (ps : List (String × Document.Definition)) (c : Catalogue) (op : Operation)
    (d : Document.Definition) (fs : List Fragment) (ds : List Document.Definition) : Prop where
  operation : (op.file, d) ∈ ps ∧ Definitions.operation? op.file d = some op.toWrittenOperation
  fragments : List.Forall₂
    (fun f e => (f.file, e) ∈ ps ∧ Definitions.fragment? f.file e = some f.toWrittenFragment) fs ds
  /-- They are fragments of the catalogue. -/
  known : ∀ f ∈ fs, c.fragments.get? f.name = some f
  /-- They are those that the selections lead to. -/
  reached : ∀ n, n ∈ fs.map (·.name) ↔ Cycles.LeadTo c.written op.selections n
  ascending : (fs.map (·.name)).Pairwise (· < ·)
  names : fs.map (·.name) = op.dependencies.fragments
  /-- The document is what is printed of the definitions, with a blank line between any two. -/
  document : op.document = Text.joinWith "\n\n" ((d :: ds).map (·.print))

/-- The fragments that an operation depends on are those that its selections lead to. -/
lemma mem_dependencies_iff {c : Catalogue} (hfits : c.FitsSchema s)
    {ps : List (String × Document.Definition)} (hlists : c.Lists s ps) {op : Operation}
    (hop : op ∈ c.operations) {n : String} :
    n ∈ op.dependencies.fragments ↔ Cycles.LeadTo c.written op.selections n := by
  obtain ⟨-, hmade⟩ := hlists.operation hop
  obtain ⟨⟨-, -, hselections⟩, -, hdependencies, -⟩ := operationOf_eq_ok_iff.1 hmade
  rw [hdependencies, ← Dependencies.mem_fragmentsOf_iff
    (fun _ _ hf => hfits.fragments hf) hselections]
  exact Table.mem_sortedNames

/-- An operation depends on fragments of its catalogue. -/
lemma exists_of_mem_dependencies {c : Catalogue} {ps : List (String × Document.Definition)}
    (hlists : c.Lists s ps) {op : Operation} (hop : op ∈ c.operations) {n : String}
    (hn : n ∈ op.dependencies.fragments) : ∃ f, c.fragments.get? n = some f ∧ f.name = n := by
  obtain ⟨-, hmade⟩ := hlists.operation hop
  obtain ⟨-, -, hdependencies, -⟩ := operationOf_eq_ok_iff.1 hmade
  rw [hdependencies] at hn
  have hkey : n ∈ c.written.keys := (Reach.mem_gather_iff.1 (Table.mem_sortedNames.1 hn)).mem_domain
  obtain ⟨w, hw⟩ := Table.mem_keys_iff.1 hkey
  rw [get?_written, Option.map_eq_some_iff] at hw
  obtain ⟨f, hf, -⟩ := hw
  exact ⟨f, hf, (hlists.fragment hf).2.1⟩

/-- The definitions of fragments print as what the fragments have as their source. -/
lemma map_print_eq {ps : List (String × Document.Definition)} {fs : List Fragment}
    {ds : List Document.Definition}
    (h : List.Forall₂ (fun f e =>
      (f.file, e) ∈ ps ∧ Definitions.fragment? f.file e = some f.toWrittenFragment) fs ds) :
    ds.map (·.print) = fs.map (·.source) := by
  induction h with
  | nil => rfl
  | cons he _ ih => rw [List.map_cons, List.map_cons, ih,
      (Definitions.spec_of_fragment?_eq_some he.2).2.1]

/-- Every operation of accepted documents has its document. -/
lemma exists_isDocument {root : Option Path} {docs : List SourceDocument} {c : Catalogue}
    (h : ofDocuments s root docs = .ok c) {op : Operation} (hop : op ∈ c.operations) :
    ∃ d fs ds, IsDocument (Definitions.written root docs) c op d fs ds := by
  have hlists := lists_of_ofDocuments h
  have hfits := fitsSchema_of_ofDocuments h
  obtain ⟨hwritten, hmade⟩ := hlists.operation hop
  obtain ⟨-, -, hdependencies, hdocument⟩ := operationOf_eq_ok_iff.1 hmade
  obtain ⟨d, hd, hoperation⟩ := Definitions.exists_of_mem_operationsAmong hwritten
  let fs := op.dependencies.fragments.filterMap c.fragments.get?
  have hnames : fs.map (·.name) = op.dependencies.fragments :=
    map_filterMap_eq_self fun n hn => exists_of_mem_dependencies hlists hop hn
  have hknown : ∀ f ∈ fs, c.fragments.get? f.name = some f := by
    intro f hf
    obtain ⟨n, -, hn⟩ := List.mem_filterMap.1 hf
    rw [(hlists.fragment hn).2.1, hn]
  have hdefined : ∀ f ∈ fs, ∃ e, (f.file, e) ∈ Definitions.written root docs ∧
      Definitions.fragment? f.file e = some f.toWrittenFragment := by
    intro f hf
    exact Definitions.exists_of_mem_fragmentsAmong (hlists.fragment (hknown f hf)).1
  obtain ⟨ds, hds⟩ := exists_forall₂_iff.2 hdefined
  refine ⟨d, fs, ds, ⟨hd, hoperation⟩, hds, hknown, fun n => ?_, ?_, hnames, ?_⟩
  · rw [hnames]
    exact mem_dependencies_iff hfits hlists hop
  · rw [hnames, hdependencies]
    exact Table.ascending_keys _
  · have hsources : (op.dependencies.fragments.filterMap c.written.get?).map (·.source) =
        fs.map (·.source) := by
      rw [List.map_filterMap, List.map_filterMap]
      apply List.filterMap_congr
      intro n _
      rw [get?_written, Option.map_map]
      rfl
    rw [hdocument, documentOf, hsources, ← map_print_eq hds, List.map_cons,
      (Definitions.spec_of_operation?_eq_some hoperation).2.1]

/-! ## The document by itself -/

/-- The table of some fragments, all in one file. -/
def excerpt (fs : List Fragment) (file : String) : Table WrittenFragment :=
  Definitions.tableOf (fs.map fun f => f.toWrittenFragment.movedTo file)

section Excerpt

variable {ps : List (String × Document.Definition)} {c : Catalogue} {op : Operation}
  {d : Document.Definition} {fs : List Fragment} {ds : List Document.Definition}

lemma get?_excerpt_eq_some_iff (h : (fs.map (·.name)).Pairwise (· < ·)) {file n : String}
    {w : WrittenFragment} :
    (excerpt fs file).get? n = some w ↔ ∃ f ∈ fs, f.toWrittenFragment.movedTo file = w ∧
      f.name = n := by
  have hnames : ((fs.map fun f => f.toWrittenFragment.movedTo file).map (·.name)).Nodup := by
    rw [List.map_map]
    exact h.nodup
  rw [excerpt, Definitions.get?_tableOf_eq_some_iff hnames, List.mem_map]
  constructor
  · rintro ⟨⟨f, hf, rfl⟩, hn⟩
    exact ⟨f, hf, rfl, hn⟩
  · rintro ⟨f, hf, rfl, hn⟩
    exact ⟨⟨f, hf, rfl⟩, hn⟩

lemma IsDocument.get?_written (h : IsDocument ps c op d fs ds) {f : Fragment} (hf : f ∈ fs) :
    c.written.get? f.name = some f.toWrittenFragment := by
  rw [Catalogue.get?_written, h.known f hf, Option.map_some]

/-- What a fragment of the document spreads is in the document too. -/
lemma IsDocument.closed (h : IsDocument ps c op d fs ds) {f : Fragment} (hf : f ∈ fs) :
    ∀ n ∈ Selection.allSpreads f.selections, n ∈ op.dependencies.fragments := by
  intro n hn
  obtain ⟨m, hm, hlead⟩ := (h.reached f.name).1 (List.mem_map_of_mem hf)
  rw [← h.names, h.reached]
  exact ⟨m, hm, hlead.tail (Cycles.spreads_iff.2 ⟨_, h.get?_written hf, hn⟩)⟩

/-- The fragments that an operation needs agree with those of the catalogue. -/
lemma IsDocument.agreeOn (h : IsDocument ps c op d fs ds) (file : String) :
    AgreeOn op.dependencies.fragments c.written (excerpt fs file) where
  known := by
    intro n hn w hw
    rw [← h.names, List.mem_map] at hn
    obtain ⟨f, hf, rfl⟩ := hn
    obtain rfl := Option.some.inj ((h.get?_written hf).symm.trans hw)
    exact ⟨file, (get?_excerpt_eq_some_iff h.ascending).2 ⟨f, hf, rfl, rfl⟩⟩
  known' := by
    intro n _ w hw
    obtain ⟨f, hf, rfl, rfl⟩ := (get?_excerpt_eq_some_iff h.ascending).1 hw
    exact ⟨f.file, h.get?_written hf⟩
  closed := by
    intro n hn w hw
    rw [← h.names, List.mem_map] at hn
    obtain ⟨f, hf, rfl⟩ := hn
    obtain rfl := Option.some.inj ((h.get?_written hf).symm.trans hw)
    exact h.closed hf

/-- The document defines the operation and the fragments by itself. -/
lemma IsDocument.among_eq (h : IsDocument ps c op d fs ds) :
    Definitions.operationsAmong ((d :: ds).map fun e => (op.file, e)) = [op.toWrittenOperation] ∧
      Definitions.fragmentsAmong ((d :: ds).map fun e => (op.file, e)) =
        fs.map fun f => f.toWrittenFragment.movedTo op.file := by
  have hrest : Definitions.operationsAmong (ds.map fun e => (op.file, e)) = [] ∧
      Definitions.fragmentsAmong (ds.map fun e => (op.file, e)) =
        fs.map fun f => f.toWrittenFragment.movedTo op.file := by
    have hfragments := h.fragments
    clear h
    induction hfragments with
    | nil => exact ⟨rfl, rfl⟩
    | cons he _ ih =>
      obtain ⟨-, -, -, hmoved⟩ := Definitions.spec_of_fragment?_eq_some he.2
      obtain ⟨hoperation, hfragment⟩ := hmoved op.file
      rw [Definitions.operationsAmong, Definitions.fragmentsAmong] at ih ⊢
      simp [hoperation, hfragment, ih]
  obtain ⟨-, hoperation⟩ := h.operation
  obtain ⟨-, -, hfragment, -⟩ := Definitions.spec_of_operation?_eq_some hoperation
  rw [Definitions.operationsAmong, Definitions.fragmentsAmong] at hrest ⊢
  simp [hoperation, hfragment, hrest]

lemma IsDocument.not_isAnonymous (h : IsDocument ps c op d fs ds) :
    ∀ e ∈ d :: ds, ¬Definitions.IsAnonymous e := by
  refine List.forall_mem_cons.2 ⟨(Definitions.spec_of_operation?_eq_some h.operation.2).2.2.2, ?_⟩
  intro e he
  obtain ⟨f, -, hfragment⟩ := exists_forall₂_iff.1 ⟨fs, h.fragments.flip⟩ e he
  exact (Definitions.spec_of_fragment?_eq_some hfragment).2.2.1

/-- The names in the document are distinct. -/
lemma IsDocument.distinct (h : IsDocument ps c op d fs ds) (hlists : c.Lists s ps) (file : String) :
    Definitions.Distinct [op.toWrittenOperation]
      (fs.map fun f => f.toWrittenFragment.movedTo file) where
  operationNames := List.nodup_singleton _
  operationTypes := List.nodup_singleton _
  fragmentNames := by
    rw [List.map_map]
    exact h.ascending.nodup
  fragmentTypes := by
    rw [List.map_map]
    apply List.Nodup.map_on _ (List.Nodup.of_map _ h.ascending.nodup)
    intro f hf g hg htype
    have hwritten : f.toWrittenFragment = g.toWrittenFragment :=
      List.inj_on_of_nodup_map hlists.distinct.fragmentTypes (hlists.fragment (h.known f hf)).1
        (hlists.fragment (h.known g hg)).1 htype
    exact Option.some.inj ((h.known f hf).symm.trans (hwritten ▸ h.known g hg))

lemma entries_excerpt (h : (fs.map (·.name)).Pairwise (· < ·)) (file : String) :
    (excerpt fs file).entries = fs.map fun f => (f.name, f.toWrittenFragment.movedTo file) := by
  rw [excerpt, Definitions.tableOf, List.map_map]
  apply Table.entries_ofList
  exact List.pairwise_map.2 (List.pairwise_map.1 h)

/-- The document by itself defines the operation and the fragments if it is read as what was
printed. -/
lemma IsDocument.ofDocuments_eq (h : IsDocument ps c op d fs ds) (hlists : c.Lists s ps)
    (hread : Document.read? op.document = some (d :: ds)) :
    Definitions.ofDocuments none [⟨op.file, op.document⟩] =
    .ok ⟨[op.toWrittenOperation], excerpt fs op.file⟩ := by
  have hwritten : Definitions.written none [⟨op.file, op.document⟩] = (d :: ds).map fun e =>
    (op.file, e) := by
    simp [Definitions.written, hread, reportedPath]
  have hparse : ∀ doc ∈ [(⟨op.file, op.document⟩ : SourceDocument)],
      (Document.read? doc.source).isSome := by
    simp [hread]
  obtain ⟨hoperations, hfragments⟩ := h.among_eq
  rw [Definitions.ofDocuments_eq_ok_iff hparse, hwritten, hoperations, hfragments]
  refine ⟨?_, h.distinct hlists op.file, rfl⟩
  intro p hp
  obtain ⟨e, he, rfl⟩ := List.mem_map.1 hp
  exact h.not_isAnonymous e he

/-- What the document defines fits the schema, with the fragments of the document as with all of
them. -/
lemma IsDocument.ofDefinitions_eq (h : IsDocument ps c op d fs ds) (hlists : c.Lists s ps)
    (hfits : c.FitsSchema s) (hop : op ∈ c.operations) :
    ofDefinitions s ⟨[op.toWrittenOperation], excerpt fs op.file⟩ =
      .ok ⟨[op], (excerpt fs op.file).map fun _ w => fragmentOf s (excerpt fs op.file) w⟩ := by
  have hagree := h.agreeOn op.file
  have hfragments : ∀ w ∈ (excerpt fs op.file).values, Validity.FragmentFits s
      (excerpt fs op.file) w := by
    intro w hw
    obtain ⟨n, hn⟩ := Table.mem_values_iff.1 hw
    obtain ⟨f, hf, rfl, rfl⟩ := (get?_excerpt_eq_some_iff h.ascending).1 hn
    exact hagree.fragmentFits (h.closed hf) (hfits.fragments (h.get?_written hf)) op.file
  have hacyclic : Cycles.IsAcyclic (excerpt fs op.file) := by
    refine hagree.isAcyclic (fun n w hw => ?_) hfits.acyclic
    obtain ⟨f, hf, -, rfl⟩ := (get?_excerpt_eq_some_iff h.ascending).1 hw
    exact h.names ▸ List.mem_map_of_mem hf
  have hmade : [op.toWrittenOperation].mapM (operationOf s (excerpt fs op.file)) = .ok [op] := by
    have hnames : ∀ n ∈ Selection.allSpreads op.selections, n ∈ op.dependencies.fragments := by
      intro n hn
      rw [← h.names, h.reached]
      exact ⟨n, hn, .refl⟩
    exact mapM_eq_ok_iff.2 (.cons (hagree.operationOf hnames (hlists.operation hop).2) .nil)
  refine ofDefinitions_eq_ok_iff.2 ⟨hfragments, hacyclic, [op], hmade, ?_⟩
  rw [List.mergeSort_singleton]

/-- The fragments of the document depend on the same as in the catalogue. -/
lemma IsDocument.fragmentOf_eq (h : IsDocument ps c op d fs ds) (hlists : c.Lists s ps)
    {f : Fragment} (hf : f ∈ fs) (file : String) :
    fragmentOf s (excerpt fs file) (f.toWrittenFragment.movedTo file) = { f with file } := by
  have hmade : fragmentOf s c.written f.toWrittenFragment = f :=
    (hlists.fragment (h.known f hf)).2.2
  rw [(h.agreeOn file).fragmentOf_movedTo (h.closed hf) file, hmade]

end Excerpt

/-- The document of an operation holds what is printed of the operation and of the fragments that
its selections lead to. If it is read as what was printed, it is accepted by itself: it gives the
operation as it is, and these fragments as they are, in the file of the operation. -/
theorem exists_document_of_mem_operations {root : Option Path} {docs : List SourceDocument}
    {c : Catalogue} (h : ofDocuments s root docs = .ok c) {op : Operation}
    (hop : op ∈ c.operations) :
    ∃ d fs ds, IsDocument (Definitions.written root docs) c op d fs ds ∧
      (Document.read? op.document = some (d :: ds) →
        ∃ c', ofDocuments s none [⟨op.file, op.document⟩] = .ok c' ∧ c'.operations = [op] ∧
          c'.fragments.entries = fs.map fun f => (f.name, { f with file := op.file })) := by
  obtain ⟨d, fs, ds, hdocument⟩ := exists_isDocument h hop
  have hlists := lists_of_ofDocuments h
  have hfits := fitsSchema_of_ofDocuments h
  refine ⟨d, fs, ds, hdocument, fun hread => ?_⟩
  have hdefined := hdocument.ofDocuments_eq hlists hread
  have hmade := hdocument.ofDefinitions_eq hlists hfits hop
  refine ⟨_, bind_eq_ok.2 ⟨_, hdefined, hmade⟩, rfl, ?_⟩
  show (excerpt fs op.file).entries.map _ = _
  rw [entries_excerpt hdocument.ascending, List.map_map]
  apply List.map_congr_left
  intro f hf
  exact congrArg (Prod.mk f.name) (hdocument.fragmentOf_eq hlists hf op.file)

/-- The document of the sample operation. -/
def sampleText : String :=
  "query q \x7b\n  node \x7b\n    id\n    ...F\n  \x7d\n\x7d\n\nfragment F on User \x7b\n  group \x7b\n    id\n  \x7d\n\x7d"

lemma documents_sample :
    (ofDocuments sampleSchema none [sampleDocument]).map
      (fun c => c.operations.map fun op => (op.document, op.dependencies.fragments)) =
      .ok [(sampleText, ["F"])] := by
  rw [ofDocuments_sample]
  cbv

lemma read?_sampleText : Document.read? sampleText = some sampleDefinitions := by
  cbv

theorem exists_document_of_mem_operations_sample :
    ∃ c op d f e c', ofDocuments sampleSchema none [sampleDocument] = .ok c ∧ op ∈ c.operations ∧
      IsDocument (Definitions.written none [sampleDocument]) c op d [f] [e] ∧
      Document.read? op.document = some [d, e] ∧
      ofDocuments sampleSchema none [⟨op.file, op.document⟩] = .ok c' ∧ c'.operations = [op] ∧
      c'.fragments.entries = [(f.name, { f with file := op.file })] := by
  obtain ⟨c, hc⟩ := exists_ofDocuments_sample
  have hdocuments := documents_sample
  rw [hc] at hdocuments
  have hmap : c.operations.map (fun op => (op.document, op.dependencies.fragments)) =
      [(sampleText, ["F"])] :=
    Except.ok.inj hdocuments
  obtain ⟨op, hops, hop⟩ := List.map_eq_singleton_iff.1 hmap
  have hmem : op ∈ c.operations := hops ▸ List.mem_singleton.2 rfl
  obtain ⟨htext, hneeded⟩ := Prod.mk.inj hop
  obtain ⟨d, fs, ds, hdocument, halone⟩ := exists_document_of_mem_operations hc hmem
  obtain ⟨o, g, hdefinitions⟩ : ∃ o g, sampleDefinitions = [.operation o, .fragment g] :=
    ⟨_, _, rfl⟩
  have hwritten : Definitions.written none [sampleDocument] =
      [(sampleDocument.path, .operation o), (sampleDocument.path, .fragment g)] := by
    rw [Definitions.written, List.flatMap_singleton, read?_sampleDocument, hdefinitions]
    rfl
  -- The operation is the first definition, and the only fragment that it needs is the second.
  obtain rfl : d = .operation o := by
    obtain ⟨hd, hoperation⟩ := hdocument.operation
    rw [hwritten] at hd
    simp only [List.mem_cons, Prod.mk.injEq, List.not_mem_nil, or_false] at hd
    rcases hd with ⟨-, rfl⟩ | ⟨-, rfl⟩
    · rfl
    · cases hoperation
  obtain ⟨f, rfl, -⟩ := List.map_eq_singleton_iff.1 (hdocument.names.trans hneeded)
  obtain ⟨e, rfl⟩ : ∃ e, ds = [e] := List.length_eq_one_iff.1 hdocument.fragments.length_eq.symm
  obtain rfl : e = .fragment g := by
    obtain ⟨he, hfragment⟩ := (List.forall₂_cons.1 hdocument.fragments).1
    rw [hwritten] at he
    simp only [List.mem_cons, Prod.mk.injEq, List.not_mem_nil, or_false] at he
    rcases he with ⟨-, rfl⟩ | ⟨-, rfl⟩
    · cases hfragment
    · rfl
  have hreread : Document.read? op.document = some [.operation o, .fragment g] := by
    rw [htext, read?_sampleText, hdefinitions]
  obtain ⟨c', hc', hoperations, hfragments⟩ := halone hreread
  exact ⟨c, op, _, f, _, c', hc, hmem, hdocument, hreread, hc', hoperations, hfragments⟩

end Catalogue

end OperationGate
