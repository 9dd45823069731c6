import OperationGate.Gateway.Documents
import OperationGate.Proofs.Catalogue.Reordering
import OperationGate.Proofs.Json.LaidOut

/-!
# Stored documents, written and read

A data file of documents is read as the documents that were written, whatever texts they are
(`read?_write`). Of operations in order, as a catalogue lists them, every document is stored under
its kind and name and no other document is (`get?_ofOperations`, `size_ofOperations`).
-/

namespace OperationGate.StoredDocuments

open Json

/-! ## The data file -/

lemma everyNumber_tableToJson (p : JsonNumber → Prop) (t : Table String) :
    EveryNumber p (tableToJson t) := by
  refine .record fun m hm => ?_
  obtain ⟨e, -, rfl⟩ := List.mem_map.1 hm
  exact .text e.2

lemma everyNumber_toJson (p : JsonNumber → Prop) (d : StoredDocuments) :
    EveryNumber p d.toJson := by
  refine .record fun m hm => ?_
  obtain ⟨kind, -, rfl⟩ := List.mem_map.1 hm
  exact everyNumber_tableToJson p (d.ofKind kind)

lemma tableOf?_tableToJson (t : Table String) : tableOf? (some (tableToJson t)) = some t := by
  have htexts : (t.entries.map fun e => (e.1, Json.text e.2)).mapM
      (fun m => m.2.text?.map fun s => (m.1, s)) = some t.entries := mapM_map_eq_self fun _ _ => rfl
  rw [tableToJson, tableOf?, htexts]
  exact congrArg some (Table.ofList_entries t)

/-- The kinds of documents are listed by name once they are read. -/
lemma object_kinds (query mutation subscription : Json) :
    Json.object [("query", query), ("mutation", mutation), ("subscription", subscription)] =
      .record [("mutation", mutation), ("query", query), ("subscription", subscription)] := by
  have hmutation : "mutation" < "query" := by decide
  have hquery : ¬"subscription" < "mutation" := by decide
  have hlast : ¬"subscription" < "query" := by decide
  simp [Json.object, Table.ofList, Table.insert, Table.insertEntry, Table.empty,
    hmutation, hquery, hlast]

/-- What a reader of data files takes from the value of one. -/
lemma readAs?_toJson (d : StoredDocuments) :
    (Source.ofJson d.toJson).readAs? maxDepth shape =
      some (.record [("mutation", tableToJson d.mutation), ("query", tableToJson d.query),
        ("subscription", tableToJson d.subscription)]) := by
  have hfields : Source.readFields? (maxDepth - 1)
      [("query", .map .text), ("mutation", .map .text), ("subscription", .map .text)]
      [("query", .ofJson (tableToJson d.query)), ("mutation", .ofJson (tableToJson d.mutation)),
        ("subscription", .ofJson (tableToJson d.subscription))] =
      some [("query", tableToJson d.query), ("mutation", tableToJson d.mutation),
        ("subscription", tableToJson d.subscription)] := by
    have htable : ∀ t, Source.readAs? (maxDepth - 1) (.map .text) (.ofJson (tableToJson t)) =
        some (tableToJson t) :=
      Source.readAs?_texts 125
    simp [Source.readFields?, Table.find?, htable]
  rw [← object_kinds, toJson, Source.ofJson, shape, maxDepth, Source.readAs?,
    Source.namedMembers?_ofMembers]
  simp only [Option.bind_eq_bind, Option.bind_some]
  rw [if_neg (by simp [OperationKind.all, OperationKind.word, Source.repeats])]
  exact congrArg (fun o => o.bind fun ms => some (Json.object ms)) hfields

/-- A data file is read as the documents that were written, also with blanks behind it. -/
lemma read?_write_append (d : StoredDocuments) {gap : String}
    (hgap : ∀ c ∈ gap.toList, Source.isGap c) : read? (d.write ++ gap) = some d := by
  rw [read?, write, readAs?_pretty (everyNumber_toJson _ d) shape hgap, readAs?_toJson,
    Option.bind_some]
  simp [ofJson?, fields?, Table.find?, tableOf?_tableToJson]

theorem read?_write (d : StoredDocuments) : read? d.write = some d := by
  have hread : read? (d.write ++ "") = some d := read?_write_append d (List.forall_mem_nil _)
  rwa [String.append_empty] at hread

/-! ## Documents of operations -/

/-- The documents of operations. -/
def ofOperations (ops : List Operation) : StoredDocuments :=
  ops.foldl (fun d op => d.insert op.kind op.name op.document) empty

lemma ofKind_insert (d : StoredDocuments) (kind kind' : OperationKind) (name document : String) :
    (d.insert kind' name document).ofKind kind =
      if kind' = kind then (d.ofKind kind).insert name document else d.ofKind kind := by
  cases kind <;> cases kind' <;> rfl

/-- The documents of a kind are those of its operations. -/
lemma ofKind_ofOperations (ops : List Operation) (kind : OperationKind) :
    (ofOperations ops).ofKind kind =
      Table.ofList ((ops.filter fun op => op.kind = kind).map fun op =>
        (op.name, op.document)) := by
  have hfold : ∀ d : StoredDocuments,
      (ops.foldl (fun d op => d.insert op.kind op.name op.document) d).ofKind kind =
      ((ops.filter fun op => op.kind = kind).map fun op => (op.name, op.document)).foldl
        (fun t e => t.insert e.1 e.2) (d.ofKind kind) := by
    induction ops with
    | nil => exact fun _ => rfl
    | cons op ops ih =>
      intro d
      rw [List.foldl_cons, ih, ofKind_insert]
      by_cases hkind : op.kind = kind
      · rw [if_pos hkind, List.filter_cons_of_pos (by simpa using hkind)]
        rfl
      · rw [if_neg hkind, List.filter_cons_of_neg (by simpa using hkind)]
  rw [ofOperations, hfold]
  cases kind <;> rfl

section Ordered

variable {ops : List Operation}

lemma entries_ofOperations (h : ops.Pairwise Operation.Precedes) (kind : OperationKind) :
    ((ofOperations ops).ofKind kind).entries =
      (ops.filter fun op => op.kind = kind).map fun op => (op.name, op.document) := by
  rw [ofKind_ofOperations]
  exact Table.entries_ofList (List.pairwise_map.2 (Operation.pairwise_filter_kind h kind))

/-- As many documents are stored as there are operations. -/
theorem size_ofOperations (h : ops.Pairwise Operation.Precedes) :
    (ofOperations ops).size = ops.length := by
  have hsize : ∀ kind, ((ofOperations ops).ofKind kind).size =
      (ops.filter fun op => op.kind = kind).length := by
    intro kind
    rw [Table.size, entries_ofOperations h, List.length_map]
  have hquery : (ofOperations ops).query.size = _ := hsize .query
  have hmutation : (ofOperations ops).mutation.size = _ := hsize .mutation
  have hsubscription : (ofOperations ops).subscription.size = _ := hsize .subscription
  rw [size, hquery, hmutation,
    hsubscription, ← congrArg List.length (Operation.flatMap_filter_kind h)]
  simp [OperationKind.all, Nat.add_assoc]

/-- The document of an operation is stored under its kind and name. -/
theorem get?_ofOperations (h : ops.Pairwise Operation.Precedes) {op : Operation} (hop : op ∈ ops) :
    (ofOperations ops).get? op.kind op.name = some op.document := by
  rw [get?, Table.get?_eq_some_iff, entries_ofOperations h]
  exact List.mem_map.2 ⟨op, List.mem_filter.2 ⟨hop, decide_eq_true rfl⟩, rfl⟩

end Ordered

end OperationGate.StoredDocuments
