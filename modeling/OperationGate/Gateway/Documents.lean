import OperationGate.Json.Shape
import OperationGate.Json.Writer
import OperationGate.Operation.Kind

/-!
# Stored documents

The executable document of every operation, by its kind and name, and its form as a data file.
-/

namespace OperationGate

/-- Documents of operations by kind and name. -/
structure StoredDocuments where
  query : Table String
  mutation : Table String
  subscription : Table String
  deriving Inhabited

namespace StoredDocuments

/-- No documents. -/
def empty : StoredDocuments := ⟨.empty, .empty, .empty⟩

/-- The documents of one kind. -/
def ofKind (d : StoredDocuments) : OperationKind → Table String
  | .query => d.query
  | .mutation => d.mutation
  | .subscription => d.subscription

/-- The document of an operation. -/
def get? (d : StoredDocuments) (kind : OperationKind) (name : String) : Option String :=
  (d.ofKind kind).get? name

/-- Stores the document of an operation, replacing an older one. -/
def insert (d : StoredDocuments) (kind : OperationKind) (name document : String) :
    StoredDocuments :=
  match kind with
  | .query => { d with query := d.query.insert name document }
  | .mutation => { d with mutation := d.mutation.insert name document }
  | .subscription => { d with subscription := d.subscription.insert name document }

/-- The number of documents. -/
def size (d : StoredDocuments) : Nat :=
  d.query.size + d.mutation.size + d.subscription.size

/-- The shape of the data file: a record of three records of texts. -/
def shape : Json.Shape :=
  .closed [("query", .map .text), ("mutation", .map .text), ("subscription", .map .text)]

/-- Takes texts by name from a value; a missing value holds none. -/
def tableOf? : Option Json → Option (Table String)
  | none => some .empty
  | some (.record members) => do
    let texts ← members.mapM fun m => m.2.text?.map fun s => (m.1, s)
    return Table.ofList texts
  | some _ => none

/-- Takes documents from a value. -/
def ofJson? (v : Json) : Option StoredDocuments := do
  match ← v.fields?
      [("query", .defaulted), ("mutation", .defaulted), ("subscription", .defaulted)] with
  | [query, mutation, subscription] =>
    return ⟨← tableOf? query, ← tableOf? mutation, ← tableOf? subscription⟩
  | _ => none

/-- Reads a data file. -/
def read? (s : String) : Option StoredDocuments :=
  (Json.readAs? shape s).bind ofJson?

/-- The value of a table of texts. -/
def tableToJson (t : Table String) : Json :=
  .record (t.entries.map fun e => (e.1, .text e.2))

/-- The value of a data file, kinds in their order. -/
def toJson (d : StoredDocuments) : Json :=
  .record (OperationKind.all.map fun k => (k.word, tableToJson (d.ofKind k)))

/-- The text of a data file. -/
def write (d : StoredDocuments) : String :=
  d.toJson.pretty

end StoredDocuments

end OperationGate
