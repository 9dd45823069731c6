import OperationGate.Proofs.Artifact.Lines
import OperationGate.Proofs.Catalogue.Reordering

/-!
# Tables of operations, read back

The forms in which artifacts list operations, and what is read of them: the operations of the
library, in their order and under their kinds and names (`read?_operationTypes`, `read?_endpoints`,
`read?_sources`), and the names of the types that are imported (`imports_operationTypes`,
`imports_responseTypes`).
-/

namespace OperationGate.Artifact

open Text

/-! ## Forms of tables -/

/-- The table of operation types: for each operation its variables, whether they must be given, and
its result. -/
def typeForm : TableForm OperationKind ((OperationKind × String) × String × Bool × String) where
  opens line := OperationKind.all.find? fun kind =>
    line = "export type " ++ kind.typeSuffix ++ " = \x7b"
  closes line := line = "\x7d;"
  row? kind line := do
    let row ← afterFront? "  " line
    let (name, row) ← cut? ':' row
    let row ← afterFront? " [" row
    let row ← beforeTail? "];" row
    let (taken, row) ← cut? ',' row
    let row ← afterFront? " " row
    let (needed, row) ← cut? ',' row
    let result ← afterFront? " " row
    return ((kind, name), taken, ← flag? needed, result)

/-- The table of endpoints: for each operation the path of its endpoint. -/
def endpointForm : TableForm OperationKind ((OperationKind × String) × String) where
  opens line := OperationKind.all.find? fun kind => line = "  " ++ kind.word ++ ": \x7b"
  closes line := line = "  \x7d,"
  row? kind line := do
    let row ← afterFront? "    " line
    let (name, row) ← cut? ':' row
    let row ← afterFront? " " row
    let (path, row) ← literal? row
    if row = "," then return ((kind, name), path) else none

/-- The table of sources: for each operation, under its kind and name in one literal, the file it
comes from. -/
def sourceForm : TableForm Unit ((OperationKind × String) × String) where
  opens line := if line = "export const operationSources = \x7b" then some () else none
  closes line := line = "\x7d;"
  row? _ line := do
    let row ← afterFront? "  " line
    let (key, row) ← literal? row
    let row ← afterFront? ": " row
    let (file, row) ← literal? row
    let (word, name) ← cut? ':' key
    if row = "," then return ((← OperationKind.ofWord? word, name), file) else none

/-- An import of types: their names. -/
def importForm : TableForm Unit String where
  opens line := if line = "import type \x7b" then some () else none
  closes line := (afterFront? "\x7d from " line).isSome
  row? _ line := (afterFront? "  " line).bind (beforeTail? ",")

/-! ## Rows -/

lemma row?_typeLine {op : Operation} (h : IsNamedPlainly op) :
    typeForm.row? op.kind (typeLine op) =
      some ((op.kind, op.name), op.variablesTypeName, op.needsVariables, op.typeName) := by
  have hname : ": [" = String.singleton ':' ++ " [" := rfl
  have hcomma : ", " = String.singleton ',' ++ " " := rfl
  have hflag : ',' ∉ (Shown.flag op.needsVariables).toList := by cases op.needsVariables <;> decide
  have hline : typeLine op =
      "  " ++ (op.name ++ (String.singleton ':' ++ (" [" ++ ((op.variablesTypeName ++
      (String.singleton ',' ++ (" " ++ (Shown.flag op.needsVariables ++ (String.singleton ',' ++
        (" " ++ op.typeName)))))) ++ "];")))) := by
    simp only [typeLine, hname, hcomma, String.append_assoc]
  rw [hline]
  simp only [typeForm, afterFront?_append, cut?_append h.name.no_colon, beforeTail?_append_self,
    cut?_append h.variablesTypeName.no_comma, cut?_append hflag, flag?_flag, Option.bind_eq_bind,
    Option.bind_some]
  rfl

lemma row?_endpointLine (l : Layout) {op : Operation} (h : IsNamedPlainly op) :
    endpointForm.row? op.kind (endpointLine l op) =
      some ((op.kind, op.name), endpointPath l.route op.kind op.name) := by
  have hname : ": " = String.singleton ':' ++ " " := rfl
  have hline : endpointLine l op = "    " ++ (op.name ++ (String.singleton ':' ++ (" " ++
      (Literal.quote (endpointPath l.route op.kind op.name) ++ ",")))) := by
    simp only [endpointLine, hname, String.append_assoc]
  rw [hline]
  simp only [endpointForm, afterFront?_append, cut?_append h.name.no_colon, literal?_quote_append,
    Option.bind_eq_bind, Option.bind_some]
  rfl

lemma row?_sourceLine (op : Operation) :
    sourceForm.row? () (sourceLine op) = some ((op.kind, op.name), op.file) := by
  have hword : ':' ∉ op.kind.word.toList := by cases op.kind <;> decide
  have hkey : op.kind.word ++ ":" ++ op.name = op.kind.word ++ (String.singleton ':' ++ op.name) :=
    String.append_assoc
  have hline : sourceLine op =
      "  " ++ (Literal.quote (op.kind.word ++ (String.singleton ':' ++ op.name)) ++ (": " ++
      (Literal.quote op.file ++ ","))) := by
    simp only [sourceLine, hkey, String.append_assoc]
  rw [hline]
  simp only [sourceForm, afterFront?_append, literal?_quote_append, cut?_append hword,
    OperationKind.ofWord?_word, Option.bind_eq_bind, Option.bind_some]
  rfl

lemma row?_import (n : String) : importForm.row? () ("  " ++ n ++ ",") = some n := by
  simp only [importForm, String.append_assoc, afterFront?_append, Option.bind_some,
    beforeTail?_append_self]

/-! ## Lines that open or close a table -/

lemma typeForm_opens_eq_none {line : String} (h : line.toList.head? ≠ some 'e') :
    typeForm.opens line = none := by
  refine List.find?_eq_none.2 fun kind _ hline => h ?_
  rw [of_decide_eq_true hline]
  cases kind <;> rfl

lemma importForm_opens_eq_none {line : String} (h : line.toList.head? ≠ some 'i') :
    importForm.opens line = none := by
  refine if_neg ?_
  rintro rfl
  exact h rfl

lemma closes_import (s : String) : importForm.closes ("\x7d from " ++ s) = true :=
  congrArg Option.isSome (afterFront?_append _ s)

lemma not_closes_import (s : String) : importForm.closes ("  " ++ s) = false := by
  have hhead : ("  " ++ s).toList.head? ≠ some '\x7d' := by
    rw [head?_append (c := ' ') rfl]
    decide
  exact congrArg Option.isSome (afterFront?_eq_none rfl hhead)

lemma opens_typeForm (kind : OperationKind) :
    typeForm.opens ("export type " ++ kind.typeSuffix ++ " = \x7b") = some kind := by
  cases kind <;> decide

lemma opens_typeForm_empty (kind : OperationKind) :
    typeForm.opens ("export type " ++ kind.typeSuffix ++ " = \x7b\x7d;") = none := by
  cases kind <;> decide

lemma opens_endpointForm (kind : OperationKind) :
    endpointForm.opens ("  " ++ kind.word ++ ": \x7b") = some kind := by
  cases kind <;> decide

lemma opens_endpointForm_empty (kind : OperationKind) :
    endpointForm.opens ("  " ++ kind.word ++ ": \x7b\x7d,") = none := by
  cases kind <;> decide

/-- No row of operation types closes their table. -/
lemma closes_typeLine (op : Operation) : typeForm.closes (typeLine op) = false := by
  have hne : typeLine op ≠ "\x7d;" := by
    intro hline
    have hhead := congrArg (fun s => s.toList.head?) hline
    simp [typeLine] at hhead
  exact decide_eq_false hne

lemma closes_endpointLine (l : Layout) (op : Operation) :
    endpointForm.closes (endpointLine l op) = false := by
  have hne : endpointLine l op ≠ "  \x7d," := by
    -- A row starts with four blanks, the line that closes the table with two.
    intro hline
    have hthird := congrArg (fun s => s.toList[2]?) hline
    simp [endpointLine] at hthird
  exact decide_eq_false hne

lemma closes_sourceLine (op : Operation) : sourceForm.closes (sourceLine op) = false := by
  have hne : sourceLine op ≠ "\x7d;" := by
    intro hline
    have hhead := congrArg (fun s => s.toList.head?) hline
    simp [sourceLine] at hhead
  exact decide_eq_false hne

/-! ## Tables -/

/-- The names of an import are read in ascending order. -/
lemma lists_importLines (l : Layout) (source : String) (names : List String) :
    importForm.Lists (importLines l source names) (sortedNames names) := by
  rw [importLines]
  cases sortedNames names with
  | nil => exact TableForm.lists_skipped (by simp)
  | cons n names =>
    have hfirst : importForm.Lists [""] [] := TableForm.lists_skipped (by simp [importForm])
    have hrows : importForm.Lists
        ("import type \x7b" :: (n :: names).map (fun n => "  " ++ n ++ ",")
          ++ ["\x7d from " ++ Literal.quote (l.importOf source (l.place declarationsPath)) ++ ";"])
        ((n :: names).map id) := by
      refine TableForm.lists_table (by simp [importForm]) (fun n _ => ⟨?_, row?_import n⟩) ?_
      · rw [String.append_assoc]
        exact not_closes_import _
      · rw [String.append_assoc]
        exact closes_import _
    rw [List.map_id] at hrows
    exact hfirst.append hrows

section Tables

variable (lib : TypeLibrary) (l : Layout) (kind : OperationKind)

lemma lists_typeTableLines (h : IsPlainLibrary lib) :
    typeForm.Lists (typeTableLines lib kind) ((lib.operationsOf kind).map fun op =>
      ((op.kind, op.name), op.variablesTypeName, op.needsVariables, op.typeName)) := by
  have hfirst : typeForm.Lists [""] [] := TableForm.lists_skipped (by decide)
  have hops : ∀ op ∈ lib.operationsOf kind, op.kind = kind ∧ IsNamedPlainly op := fun op hop =>
    ⟨of_decide_eq_true (List.mem_filter.1 hop).2, h op (List.mem_filter.1 hop).1⟩
  rw [typeTableLines]
  cases hlisted : lib.operationsOf kind with
  | nil =>
    exact TableForm.lists_skipped
      (List.forall_mem_cons.2 ⟨by decide, by simpa using opens_typeForm_empty kind⟩)
  | cons op ops =>
    rw [hlisted] at hops
    have hrows : typeForm.Lists
        (("export type " ++ kind.typeSuffix ++ " = \x7b") :: (op :: ops).map typeLine ++ ["\x7d;"])
        ((op :: ops).map fun op =>
          ((op.kind, op.name), op.variablesTypeName, op.needsVariables, op.typeName)) := by
      refine TableForm.lists_table (opens_typeForm kind)
        (fun op hop => ⟨closes_typeLine op, ?_⟩) (by decide)
      rw [← (hops op hop).1]
      exact row?_typeLine (hops op hop).2
    exact hfirst.append hrows

lemma lists_endpointTableLines (h : IsPlainLibrary lib) :
    endpointForm.Lists (endpointTableLines lib l kind) ((lib.operationsOf kind).map fun op =>
      ((op.kind, op.name), endpointPath l.route op.kind op.name)) := by
  have hops : ∀ op ∈ lib.operationsOf kind, op.kind = kind ∧ IsNamedPlainly op := fun op hop =>
    ⟨of_decide_eq_true (List.mem_filter.1 hop).2, h op (List.mem_filter.1 hop).1⟩
  rw [endpointTableLines]
  cases hlisted : lib.operationsOf kind with
  | nil =>
    exact TableForm.lists_skipped (List.forall_mem_singleton.2 (opens_endpointForm_empty kind))
  | cons op ops =>
    rw [hlisted] at hops
    refine TableForm.lists_table (opens_endpointForm kind)
      (fun op hop => ⟨closes_endpointLine l op, ?_⟩) (by decide)
    rw [← (hops op hop).1]
    exact row?_endpointLine l (hops op hop).2

/-- A table of operation types imports nothing. -/
lemma lists_typeTableLines_import : importForm.Lists (typeTableLines lib kind) [] := by
  have hopen : ∀ s, ("export type " ++ kind.typeSuffix ++ s).toList.head? ≠ some 'i' := by
    intro s
    rw [String.append_assoc, head?_append (c := 'e') rfl]
    decide
  refine TableForm.lists_skipped fun line hline => importForm_opens_eq_none ?_
  rw [typeTableLines] at hline
  cases hlisted : lib.operationsOf kind with
  | nil =>
    rw [hlisted] at hline
    rcases List.mem_pair.1 hline with rfl | rfl
    · decide
    · exact hopen _
  | cons op ops =>
    rw [hlisted] at hline
    rcases List.mem_cons.1 hline with rfl | hline
    · decide
    · rcases List.mem_append.1 hline with hline | hline
      · rcases List.mem_cons.1 hline with rfl | hline
        · exact hopen _
        · obtain ⟨op, -, rfl⟩ := List.mem_map.1 hline
          simp [typeLine]
      · rw [List.mem_singleton.1 hline]
        decide

lemma lists_sourceTableLines :
    sourceForm.Lists (sourceTableLines lib)
      (lib.operations.map fun op => ((op.kind, op.name), op.file)) := by
  rw [sourceTableLines]
  cases lib.operations with
  | nil => exact TableForm.lists_skipped (by decide)
  | cons op ops =>
    exact TableForm.lists_table (by decide) (fun op _ => ⟨closes_sourceLine op, row?_sourceLine op⟩)
      (by decide)

/-- An import of types is no table of operation types. -/
lemma lists_importLines_types (source : String) (names : List String) :
    typeForm.Lists (importLines l source names) [] := by
  refine TableForm.lists_skipped fun line hline => typeForm_opens_eq_none ?_
  rw [importLines] at hline
  cases hsorted : sortedNames names with
  | nil =>
    rw [hsorted] at hline
    cases hline
  | cons n names =>
    rw [hsorted] at hline
    rcases List.mem_cons.1 hline with rfl | hline
    · decide
    · rcases List.mem_append.1 hline with hline | hline
      · rcases List.mem_cons.1 hline with rfl | hline
        · decide
        · obtain ⟨n, -, rfl⟩ := List.mem_map.1 hline
          simp
      · rw [List.mem_singleton.1 hline]
        simp

end Tables

/-! ## Artifacts -/

section Read

variable {lib : TypeLibrary} (l : Layout)

/-- The rows of the operations of all kinds are those of the operations. -/
lemma flatMap_map_operationsOf {β : Type} (h : lib.operations.Pairwise Operation.Precedes)
    (row : Operation → β) :
    (OperationKind.all.flatMap fun kind => (lib.operationsOf kind).map row) =
    lib.operations.map row := by
  rw [← List.map_flatMap]
  exact congrArg (List.map row) (Operation.flatMap_filter_kind h)

theorem read?_operationTypes (h : IsPlainLibrary lib)
    (hordered : lib.operations.Pairwise Operation.Precedes) :
    typeForm.read? (operationTypes lib l) =
      some (lib.operations.map fun op =>
        ((op.kind, op.name), op.variablesTypeName, op.needsVariables, op.typeName)) := by
  have hheader : typeForm.Lists [headerLine] [] := TableForm.lists_skipped (by decide)
  have htables := TableForm.Lists.flatMap fun kind (_ : kind ∈ OperationKind.all) =>
    lists_typeTableLines lib kind h
  rw [flatMap_map_operationsOf hordered] at htables
  have hlists := hheader.append ((lists_importLines_types l operationTypesPath
    (lib.operations.flatMap fun op => [op.typeName, op.variablesTypeName])).append htables)
  rw [operationTypes_eq]
  exact hlists.read?_unlines (isLine_operationTypesLines l h) rfl

/-- What the table of operation types imports. -/
theorem imports_operationTypes (h : IsPlainLibrary lib) :
    importForm.read? (operationTypes lib l) =
      some (sortedNames (lib.operations.flatMap fun op =>
        [op.typeName, op.variablesTypeName])) := by
  have hheader : importForm.Lists [headerLine] [] := TableForm.lists_skipped (by decide)
  have htables := TableForm.Lists.flatMap fun kind (_ : kind ∈ OperationKind.all) =>
    lists_typeTableLines_import lib kind
  have hlists := hheader.append ((lists_importLines l operationTypesPath
    (lib.operations.flatMap fun op => [op.typeName, op.variablesTypeName])).append htables)
  have hnil : (OperationKind.all.flatMap fun _ => ([] : List String)) = [] := rfl
  rw [hnil, List.append_nil, List.nil_append] at hlists
  rw [operationTypes_eq]
  exact hlists.read?_unlines (isLine_operationTypesLines l h) rfl

theorem read?_endpoints (h : IsPlainLibrary lib)
    (hordered : lib.operations.Pairwise Operation.Precedes) :
    endpointForm.read? (endpoints lib l) =
      some (lib.operations.map fun op =>
        ((op.kind, op.name), endpointPath l.route op.kind op.name)) := by
  have hheader : endpointForm.Lists [headerLine, "", "export const endpoints = \x7b"] [] :=
    TableForm.lists_skipped (by decide)
  have hlast : endpointForm.Lists ["\x7d;"] [] := TableForm.lists_skipped (by decide)
  have htables := TableForm.Lists.flatMap fun kind (_ : kind ∈ OperationKind.all) =>
    lists_endpointTableLines lib l kind h
  rw [flatMap_map_operationsOf hordered] at htables
  have hlists := (hheader.append htables).append hlast
  rw [List.nil_append, List.append_nil] at hlists
  rw [endpoints_eq]
  exact hlists.read?_unlines (isLine_endpointsLines l h) rfl

theorem read?_sources (lib : TypeLibrary) :
    sourceForm.read? (sources lib) =
    some (lib.operations.map fun op => ((op.kind, op.name), op.file)) := by
  have hheader : sourceForm.Lists [headerLine, ""] [] := TableForm.lists_skipped (by decide)
  rw [sources_eq]
  refine (hheader.append (lists_sourceTableLines lib)).read?_unlines ?_ rfl
  exact List.forall_mem_append.2 ⟨by decide, isLine_sourceTableLines lib⟩

/-- What the types of answers import. -/
theorem imports_responseTypes (h : IsPlainLibrary lib) :
    importForm.read? (responseTypes lib l) =
    some (sortedNames (lib.operations.map (·.typeName))) := by
  have hheader : importForm.Lists [headerLine] [] := TableForm.lists_skipped (by decide)
  have hshapes : importForm.Lists responseShapeLines [] := TableForm.lists_skipped (by decide)
  have hlast : ∀ s, importForm.Lists ["", "export type OperationResponse = " ++ s] [] := by
    intro s
    refine TableForm.lists_skipped (List.forall_mem_cons.2 ⟨rfl, List.forall_mem_singleton.2 ?_⟩)
    exact importForm_opens_eq_none (by rw [head?_append (c := 'e') rfl]; decide)
  have hlists := hheader.append
    (((lists_importLines l responsePath (lib.operations.map (·.typeName))).append
    hshapes).append (hlast ((if (lib.operations.map (·.typeName)).isEmpty then "never" else
      joinWith " | " (lib.operations.map (·.typeName))) ++ ";")))
  rw [List.append_nil, List.append_nil, List.nil_append, ← String.append_assoc] at hlists
  rw [responseTypes_eq]
  exact hlists.read?_unlines (isLine_responseLines l h) rfl

end Read

end OperationGate.Artifact
