import Mathlib
import OperationGate.Artifact.Basic
import OperationGate.Proofs.Catalogue.Standalone

/-!
# Documents in another order

What is made of documents depends on which definitions they hold, not on the order in which
documents are listed or definitions are written. The conditions under which documents are accepted
are symmetric (`Acceptable.of_perm`), and an accepted catalogue is determined by what is in it:
fragments stand under their names, and operations ascend strictly by kind and then by name
(`pairwise_precedes`). So the catalogue is the same (`ofDocuments_of_reordered`), and with it every
file (`renderAll_of_reordered`).
-/

namespace OperationGate

/-! ## Orders of documents -/

/-- Tells that two documents under one path have the same definitions in some order, or are both
unreadable. -/
structure SourceDocument.SameDefinitions (doc doc' : SourceDocument) : Prop where
  path : doc.path = doc'.path
  definitions : Option.Rel List.Perm (Document.read? doc.source) (Document.read? doc'.source)

/-- Tells that two lists hold the same documents, up to the order of the documents and of the
definitions in each. -/
def Reordered (docs docs' : List SourceDocument) : Prop :=
  ∃ listed, docs.Perm listed ∧ List.Forall₂ SourceDocument.SameDefinitions listed docs'

namespace SourceDocument

variable {doc doc' : SourceDocument}

lemma SameDefinitions.symm (h : doc.SameDefinitions doc') : doc'.SameDefinitions doc := by
  refine ⟨h.path.symm, ?_⟩
  have hdefinitions := h.definitions
  generalize Document.read? doc.source = defs at hdefinitions
  generalize Document.read? doc'.source = defs' at hdefinitions
  cases hdefinitions with
  | some hperm => exact .some hperm.symm
  | none => exact .none

lemma SameDefinitions.isSome_read (h : doc.SameDefinitions doc')
    (hread : (Document.read? doc.source).isSome) : (Document.read? doc'.source).isSome := by
  have hdefinitions := h.definitions
  obtain ⟨defs, hdefs⟩ := Option.isSome_iff_exists.1 hread
  rw [hdefs] at hdefinitions
  generalize Document.read? doc'.source = defs' at hdefinitions
  cases hdefinitions with
  | some => rfl

/-- The definitions of the documents are written with the same path. -/
lemma SameDefinitions.written_perm (h : doc.SameDefinitions doc') (root : Option Path) :
    (((Document.read? doc.source).getD []).map fun d => (reportedPath doc.path root, d)).Perm
      (((Document.read? doc'.source).getD []).map fun d => (reportedPath doc'.path root, d)) := by
  have hdefinitions := h.definitions
  generalize Document.read? doc.source = defs at hdefinitions
  generalize Document.read? doc'.source = defs' at hdefinitions
  rw [h.path]
  cases hdefinitions with
  | some hperm => exact hperm.map _
  | none => exact .nil

end SourceDocument

section Orders

variable {root : Option Path} {docs docs' : List SourceDocument}

lemma Reordered.symm (h : Reordered docs docs') : Reordered docs' docs := by
  obtain ⟨listed, hperm, hsame⟩ := h
  have hback : List.Forall₂ SourceDocument.SameDefinitions docs' listed :=
    .flip (hsame.imp fun _ _ h => h.symm)
  have hcomp : Relation.Comp (List.Forall₂ SourceDocument.SameDefinitions) List.Perm docs' docs :=
    ⟨listed, hback, hperm.symm⟩
  rw [List.forall₂_comp_perm_eq_perm_comp_forall₂] at hcomp
  exact hcomp

/-- Reordered documents parse together. -/
lemma Reordered.isSome_read (h : Reordered docs docs')
    (hparse : ∀ doc ∈ docs, (Document.read? doc.source).isSome) :
    ∀ doc ∈ docs', (Document.read? doc.source).isSome := by
  obtain ⟨listed, hperm, hsame⟩ := h
  have hlisted : ∀ doc ∈ listed, (Document.read? doc.source).isSome :=
    fun doc hdoc => hparse doc (hperm.mem_iff.2 hdoc)
  clear hperm hparse
  induction hsame with
  | nil => exact hlisted
  | cons hdoc _ ih =>
    rw [List.forall_mem_cons] at hlisted ⊢
    exact ⟨hdoc.isSome_read hlisted.1, ih hlisted.2⟩

/-- Reordered documents hold the same definitions under the same paths. -/
lemma Reordered.written_perm (h : Reordered docs docs') :
    (Definitions.written root docs).Perm (Definitions.written root docs') := by
  obtain ⟨listed, hperm, hsame⟩ := h
  refine (hperm.flatMap_right _).trans ?_
  clear hperm
  induction hsame with
  | nil => exact .nil
  | cons hdoc _ ih =>
    rw [List.flatMap_cons, Definitions.written, List.flatMap_cons]
    exact (hdoc.written_perm root).append ih

end Orders

/-! ## The order of operations -/

lemma OperationKind.eq_of_rank_eq {a b : OperationKind} (h : a.rank = b.rank) : a = b := by
  cases a <;> cases b <;> first | rfl | cases h

namespace Operation

/-- Tells that an operation stands before another: its kind comes first, or its name among its
kind. -/
def Precedes (a b : Operation) : Prop :=
  a.kind.rank < b.kind.rank ∨ a.kind = b.kind ∧ a.name < b.name

lemma Precedes.asymm {a b : Operation} (h : a.Precedes b) : ¬b.Precedes a := by
  rintro (h' | ⟨hkind', hname'⟩)
  · rcases h with h | ⟨hkind, -⟩
    · exact Nat.lt_asymm h h'
    · exact Nat.lt_irrefl _ (hkind ▸ h')
  · rcases h with h | ⟨-, hname⟩
    · exact Nat.lt_irrefl _ (hkind' ▸ h)
    · exact String.lt_asymm hname hname'

instance : Std.Antisymm Precedes where
  antisymm _ _ h h' := absurd h' h.asymm

instance : Std.Irrefl Precedes where
  irrefl _ h := h.asymm h

lemma before_iff {a b : Operation} :
    a.before b ↔ a.kind.rank < b.kind.rank ∨ a.kind = b.kind ∧ a.name ≤ b.name := by
  simp [before]

lemma before_trans {a b c : Operation} (h : a.before b) (h' : b.before c) : a.before c := by
  rw [before_iff] at h h' ⊢
  rcases h with h | ⟨hkind, hname⟩
  · rcases h' with h' | ⟨hkind', -⟩
    · exact .inl (Nat.lt_trans h h')
    · exact .inl (hkind' ▸ h)
  · rcases h' with h' | ⟨hkind', hname'⟩
    · exact .inl (hkind ▸ h')
    · exact .inr ⟨hkind.trans hkind', String.le_trans hname hname'⟩

lemma before_total (a b : Operation) : a.before b || b.before a := by
  rw [Bool.or_eq_true, before_iff, before_iff]
  rcases Nat.lt_trichotomy a.kind.rank b.kind.rank with h | h | h
  · exact .inl (.inl h)
  · have hkind : a.kind = b.kind := OperationKind.eq_of_rank_eq h
    rcases String.le_total a.name b.name with hname | hname
    · exact .inl (.inr ⟨hkind, hname⟩)
    · exact .inr (.inr ⟨hkind.symm, hname⟩)
  · exact .inr (.inl h)

/-- An operation that stands before another, and does not have its kind and name, precedes it. -/
lemma precedes_of_before {a b : Operation} (h : a.before b)
    (hne : (a.kind, a.name) ≠ (b.kind, b.name)) : a.Precedes b := by
  rcases before_iff.1 h with h | ⟨hkind, hname⟩
  · exact .inl h
  · refine .inr ⟨hkind, Std.lt_of_le_of_ne hname fun he => hne ?_⟩
    rw [hkind, he]

section Kinds

variable {ops : List Operation}

/-- Operations in order are those of each kind in the order of the kinds. -/
lemma flatMap_filter_kind (h : ops.Pairwise Precedes) :
    (OperationKind.all.flatMap fun kind => ops.filter fun op => op.kind = kind) = ops := by
  refine List.Pairwise.eq_of_mem_iff (r := Precedes)
    (List.pairwise_flatMap.2 ⟨fun kind _ => h.filter _, ?_⟩) h ?_
  · have hranks : OperationKind.all.Pairwise fun a b => a.rank < b.rank := by decide
    refine hranks.imp fun {a b} hrank op hop op' hop' => .inl ?_
    rw [of_decide_eq_true (List.mem_filter.1 hop).2, of_decide_eq_true (List.mem_filter.1 hop').2]
    exact hrank
  · intro op
    simp only [List.mem_flatMap, List.mem_filter, decide_eq_true_eq]
    refine ⟨fun ⟨_, _, hop, _⟩ => hop, fun hop => ⟨op.kind, ?_, hop, rfl⟩⟩
    cases op.kind <;> decide

/-- The names of operations of one kind ascend. -/
lemma pairwise_filter_kind (h : ops.Pairwise Precedes) (kind : OperationKind) :
    (ops.filter fun op => op.kind = kind).Pairwise fun a b => a.name < b.name := by
  refine (h.filter _).imp_of_mem fun {a b} ha hb hab => ?_
  have hkind : a.kind = b.kind :=
    (of_decide_eq_true (List.mem_filter.1 ha).2).trans
      (of_decide_eq_true (List.mem_filter.1 hb).2).symm
  rcases hab with hab | ⟨-, hab⟩
  · exact absurd hab (hkind ▸ Nat.lt_irrefl _)
  · exact hab

end Kinds

end Operation

/-! ## What accepted documents determine -/

section Perm

open Definitions

variable {ps ps' : List (String × Document.Definition)}

lemma Definitions.Distinct.of_perm {operations operations' : List WrittenOperation}
    {fragments fragments' : List WrittenFragment} (h : Distinct operations fragments)
    (hops : operations.Perm operations') (hfs : fragments.Perm fragments') :
    Distinct operations' fragments' where
  operationNames := (hops.map _).nodup_iff.1 h.operationNames
  operationTypes := (hops.map _).nodup_iff.1 h.operationTypes
  fragmentNames := (hfs.map _).nodup_iff.1 h.fragmentNames
  fragmentTypes := (hfs.map _).nodup_iff.1 h.fragmentTypes

/-- Fragments with distinct names have one table, whatever their order. -/
lemma Definitions.tableOf_of_perm {fragments fragments' : List WrittenFragment}
    (h : (fragments.map (·.name)).Nodup) (hperm : fragments.Perm fragments') :
    tableOf fragments = tableOf fragments' := by
  apply Table.eq_of_get?_eq
  intro name
  apply Option.ext
  intro f
  rw [get?_tableOf_eq_some_iff h, get?_tableOf_eq_some_iff ((hperm.map _).nodup_iff.1 h),
    hperm.mem_iff]

end Perm

namespace Catalogue

variable {s : Schema} {root : Option Path} {docs docs' : List SourceDocument} {c c' : Catalogue}

/-- Whether documents are acceptable does not depend on the order of what they define. -/
theorem Acceptable.of_perm (h : Acceptable s root docs)
    (hperm : (Definitions.written root docs).Perm (Definitions.written root docs')) :
    Acceptable s root docs' := by
  have hops : (Definitions.operationsAmong (Definitions.written root docs)).Perm
      (Definitions.operationsAmong (Definitions.written root docs')) := hperm.filterMap _
  have hfs : (Definitions.fragmentsAmong (Definitions.written root docs)).Perm
      (Definitions.fragmentsAmong (Definitions.written root docs')) := hperm.filterMap _
  have htable := Definitions.tableOf_of_perm h.distinct.fragmentNames hfs
  refine ⟨fun p hp => h.named p (hperm.mem_iff.2 hp), h.distinct.of_perm hops hfs,
    fun f hf => ?_, ?_, fun op hop => ?_⟩
  · rw [← htable]
    exact h.fragments f (hfs.mem_iff.2 hf)
  · rw [← htable]
    exact h.acyclic
  · rw [← htable]
    exact h.operations op (hops.mem_iff.2 hop)

/-- The operations of a catalogue are those that are written, each with what it depends on. -/
lemma mem_operations_iff (h : ofDocuments s root docs = .ok c) {op : Operation} :
    op ∈ c.operations ↔
      ∃ w ∈ Definitions.operationsAmong (Definitions.written root docs), operationOf s c.written w =
        .ok op := by
  obtain ⟨⟨operations, hoperations, hsorted⟩, -⟩ := spec_of_ofDocuments h
  rw [hsorted, List.mem_mergeSort, mem_iff_of_mapM_ok hoperations]

/-- The operations of a catalogue ascend strictly, by kind and then by name. -/
theorem pairwise_precedes (h : ofDocuments s root docs = .ok c) :
    c.operations.Pairwise Operation.Precedes := by
  obtain ⟨⟨operations, -, hsorted⟩, -⟩ := spec_of_ofDocuments h
  have hnames : (c.operations.map fun op => (op.kind, op.name)).Nodup := by
    have hdistinct := (lists_of_ofDocuments h).distinct.operationNames
    rw [← ((operations_perm h).map _).nodup_iff, List.map_map] at hdistinct
    exact hdistinct
  have hbefore : c.operations.Pairwise fun a b => a.before b := by
    rw [hsorted]
    refine List.pairwise_mergeSort ?_ ?_ _
    · exact fun _ _ _ => Operation.before_trans
    · exact Operation.before_total
  exact (hbefore.and (List.pairwise_map.1 hnames)).imp fun ⟨hbefore, hne⟩ =>
    Operation.precedes_of_before hbefore hne

/-- Accepted documents that are reordered make the same catalogue. -/
theorem ofDocuments_of_reordered (h : Reordered docs docs') (hc : ofDocuments s root docs = .ok c) :
    ofDocuments s root docs' = .ok c := by
  have hperm : (Definitions.written root docs).Perm (Definitions.written root docs') :=
    h.written_perm
  have hparse : ∀ doc ∈ docs, (Document.read? doc.source).isSome := by
    obtain ⟨ds, hds, -⟩ := bind_eq_ok.1 hc
    exact Definitions.isSome_read_of_ofDocuments hds
  obtain ⟨c', hc'⟩ : ∃ c', ofDocuments s root docs' = .ok c' := by
    rw [exists_ofDocuments_iff (h.isSome_read hparse)]
    exact ((exists_ofDocuments_iff hparse).1 ⟨c, hc⟩).of_perm hperm
  have hlists := lists_of_ofDocuments hc
  have hlists' := lists_of_ofDocuments hc'
  have hwritten : c.written = c'.written := by
    rw [hlists.written_eq, hlists'.written_eq]
    exact Definitions.tableOf_of_perm hlists.distinct.fragmentNames (hperm.filterMap _)
  have hoperations : c.operations = c'.operations := by
    apply List.Pairwise.eq_of_mem_iff (pairwise_precedes hc) (pairwise_precedes hc')
    intro op
    rw [mem_operations_iff hc, mem_operations_iff hc', hwritten]
    simp only [(hperm.filterMap _).mem_iff, Definitions.operationsAmong]
  have hfragments : c.fragments = c'.fragments := by
    rw [(spec_of_ofDocuments hc).2, (spec_of_ofDocuments hc').2, hwritten]
  obtain rfl : c = c' := by
    cases c
    cases c'
    cases hoperations
    cases hfragments
    rfl
  exact hc'

/-- Documents that are reordered are accepted together. They make the same catalogue, whose
operations ascend strictly, and so the same declarations and the same files. -/
theorem renderAll_of_reordered (h : Reordered docs docs') :
    (∀ c, ofDocuments s root docs = .ok c ↔ ofDocuments s root docs' = .ok c) ∧
      (∀ c, ofDocuments s root docs = .ok c → c.operations.Pairwise Operation.Precedes) ∧
      (∀ scalars lib, TypeLibrary.ofDocuments s scalars root docs = .ok lib ↔
        TypeLibrary.ofDocuments s scalars root docs' = .ok lib) ∧
      ∀ scalars artifacts l files,
        (TypeLibrary.ofDocuments s scalars root docs >>= fun lib =>
          Artifact.renderAll artifacts lib l) = .ok files ↔
          (TypeLibrary.ofDocuments s scalars root docs' >>= fun lib =>
            Artifact.renderAll artifacts lib l) = .ok files := by
  have hcatalogue : ∀ c, ofDocuments s root docs = .ok c ↔ ofDocuments s root docs' = .ok c :=
    fun c => ⟨ofDocuments_of_reordered h, ofDocuments_of_reordered h.symm⟩
  have hlibrary : ∀ scalars lib, TypeLibrary.ofDocuments s scalars root docs = .ok lib ↔
      TypeLibrary.ofDocuments s scalars root docs' = .ok lib := by
    intro scalars lib
    rw [TypeLibrary.ofDocuments, TypeLibrary.ofDocuments, bind_eq_ok, bind_eq_ok]
    simp only [hcatalogue]
  refine ⟨hcatalogue, fun c hc => pairwise_precedes hc, hlibrary,
    fun scalars artifacts l files => ?_⟩
  rw [bind_eq_ok, bind_eq_ok]
  simp only [hlibrary]

/-- A document with an operation that spreads the fragment of the sample document. -/
def spreadingDocument : SourceDocument where
  path := "b.graphql"
  source := "query p \x7b node \x7b ...F \x7d \x7d"

/-- The sample document with its definitions in the other order. -/
def turnedDocument : SourceDocument where
  path := "a.graphql"
  source :=
    "fragment F on User \x7b group \x7b id \x7d \x7d query q \x7b node \x7b id ...F \x7d \x7d"

/-- The definitions of the document that spreads. -/
def spreadingDefinitions : List Document.Definition :=
  [.operation ⟨.query, some "p", [], [], [.field none "node" [] [] [.spread "F" []]]⟩]

lemma read?_spreadingDocument :
    Document.read? spreadingDocument.source = some spreadingDefinitions := by
  cbv

lemma read?_turnedDocument :
    Document.read? turnedDocument.source = some sampleDefinitions.reverse := by
  cbv

lemma reordered_sample :
    Reordered [sampleDocument, spreadingDocument] [spreadingDocument, turnedDocument] := by
  refine ⟨[spreadingDocument, sampleDocument], .swap _ _ _, .cons ⟨rfl, ?_⟩ (.cons ⟨rfl, ?_⟩ .nil)⟩
  · rw [read?_spreadingDocument]
    exact .some (.refl _)
  · rw [read?_sampleDocument, read?_turnedDocument]
    exact .some (List.reverse_perm _).symm

set_option maxRecDepth 2000 in
lemma map_name_sample :
    (ofDocuments sampleSchema none [sampleDocument, spreadingDocument]).map
      (fun c => c.operations.map (·.name)) = .ok ["p", "q"] := by
  have hfold : Definitions.ofDocuments none [sampleDocument, spreadingDocument] =
      sampleDefinitions.foldlM (Definitions.add sampleDocument.path) .empty >>=
        fun ds => spreadingDefinitions.foldlM (Definitions.add spreadingDocument.path) ds := by
    simp only [Definitions.ofDocuments, List.foldlM_cons, List.foldlM_nil, Definitions.addDocument,
      read?_sampleDocument, read?_spreadingDocument, bind_pure]
    rfl
  rw [ofDocuments, hfold]
  cbv

theorem renderAll_of_reordered_sample :
    Reordered [sampleDocument, spreadingDocument] [spreadingDocument, turnedDocument] ∧
      ∃ c, ofDocuments sampleSchema none [sampleDocument, spreadingDocument] = .ok c ∧
        ofDocuments sampleSchema none [spreadingDocument, turnedDocument] = .ok c ∧
        c.operations.map (·.name) = ["p", "q"] := by
  refine ⟨reordered_sample, ?_⟩
  obtain ⟨c, hc, hnames⟩ := map_eq_ok.1 map_name_sample
  exact ⟨c, hc, ((renderAll_of_reordered reordered_sample).1 c).1 hc, hnames⟩

end Catalogue

end OperationGate
