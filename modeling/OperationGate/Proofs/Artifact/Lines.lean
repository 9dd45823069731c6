import OperationGate.Artifact.Registry
import OperationGate.Proofs.Document.Names
import OperationGate.Proofs.Table
import OperationGate.Proofs.Text.Lines

/-!
# Lines of tables

The artifacts that list operations, line by line. Their texts are the texts of these lines
(`operationTypes_eq`, `endpoints_eq`, `sources_eq`, `responseTypes_eq`), and no line holds the end
of one, since names hold letters, digits and underscores only and all other texts are quoted.
-/

namespace OperationGate.Artifact

open Text

/-! ## Lines -/

/-- The line that opens every module. -/
def headerLine : String := "// generated by graphql-middleware, do not edit"

/-- The lines of an import of types. -/
def importLines (l : Layout) (source : String) (names : List String) : List String :=
  match sortedNames names with
  | [] => []
  | names =>
    "" :: ("import type \x7b" :: names.map (fun n => "  " ++ n ++ ",")
      ++ ["\x7d from " ++ Literal.quote (l.importOf source (l.place declarationsPath)) ++ ";"])

/-- The line of an operation in the table of operation types. -/
def typeLine (op : Operation) : String :=
  "  " ++ op.name ++ ": [" ++ op.variablesTypeName ++ ", " ++ Shown.flag op.needsVariables ++
    ", " ++ op.typeName ++ "];"

/-- The lines of the table of the operations of one kind. -/
def typeTableLines (lib : TypeLibrary) (kind : OperationKind) : List String :=
  match lib.operationsOf kind with
  | [] => ["", "export type " ++ kind.typeSuffix ++ " = \x7b\x7d;"]
  | ops => "" :: (("export type " ++ kind.typeSuffix ++ " = \x7b") :: ops.map typeLine ++ ["\x7d;"])

/-- The line of an operation in the table of endpoints. -/
def endpointLine (l : Layout) (op : Operation) : String :=
  "    " ++ op.name ++ ": " ++ Literal.quote (endpointPath l.route op.kind op.name) ++ ","

/-- The lines of the endpoints of the operations of one kind. -/
def endpointTableLines (lib : TypeLibrary) (l : Layout) (kind : OperationKind) : List String :=
  match lib.operationsOf kind with
  | [] => ["  " ++ kind.word ++ ": \x7b\x7d,"]
  | ops => ("  " ++ kind.word ++ ": \x7b") :: ops.map (endpointLine l) ++ ["  \x7d,"]

/-- The line of an operation in the table of sources. -/
def sourceLine (op : Operation) : String :=
  "  " ++ Literal.quote (op.kind.word ++ ":" ++ op.name) ++ ": " ++ Literal.quote op.file ++ ","

/-- The lines of the table of sources. -/
def sourceTableLines (lib : TypeLibrary) : List String :=
  match lib.operations with
  | [] => ["export const operationSources = \x7b\x7d;"]
  | ops => "export const operationSources = \x7b" :: ops.map sourceLine ++ ["\x7d;"]

/-- The lines of the tables of operation types. -/
def operationTypesLines (lib : TypeLibrary) (l : Layout) : List String :=
  headerLine
    :: (importLines l operationTypesPath (lib.operations.flatMap fun op =>
      [op.typeName, op.variablesTypeName]) ++ OperationKind.all.flatMap (typeTableLines lib))

/-- The lines of the table of endpoints. -/
def endpointsLines (lib : TypeLibrary) (l : Layout) : List String :=
  [headerLine, "", "export const endpoints = \x7b"]
    ++ OperationKind.all.flatMap (endpointTableLines lib l) ++ ["\x7d;"]

/-- The lines of the types of answers before their union. -/
def responseShapeLines : List String :=
  ["", "export type GraphqlResponseError = \x7b", "  message: string;",
    "  locations?: Array<\x7b line: number; column: number \x7d>;",
    "  path?: Array<string | number>;",
    "  extensions?: Record<string, unknown>;", "\x7d;", "",
    "export type GraphqlResponse<T> = \x7b", "  data: T;",
    "  errors?: Array<GraphqlResponseError>;", "  [key: string]: unknown;", "\x7d;"]

/-- The lines of the types of answers. -/
def responseLines (lib : TypeLibrary) (l : Layout) : List String :=
  let names := lib.operations.map (·.typeName)
  headerLine
    :: (importLines l responsePath names ++ responseShapeLines
      ++ ["", "export type OperationResponse = " ++
        (if names.isEmpty then "never" else joinWith " | " names) ++ ";"])

/-! ## Texts -/

lemma typeImport_eq (l : Layout) (source : String) (names : List String) :
    typeImport l source names = unlines (importLines l source names) := by
  rw [typeImport, importLines]
  cases sortedNames names with
  | nil => rfl
  | cons n names =>
    have hopen : "\nimport type \x7b\n" = "\n" ++ ("import type \x7b" ++ "\n") := rfl
    have hrow : ",\n" = "," ++ "\n" := rfl
    have hlast : ";\n" = ";" ++ "\n" := rfl
    simp only [unlines_cons, unlines_table, String.append_assoc, String.empty_append,
      hopen, hrow, hlast]

lemma operationTypeTable_eq (lib : TypeLibrary) (kind : OperationKind) :
    operationTypeTable lib kind = unlines (typeTableLines lib kind) := by
  have hopen : "\nexport type " = "\n" ++ "export type " := rfl
  rw [operationTypeTable, typeTableLines]
  cases lib.operationsOf kind with
  | nil =>
    have hempty : " = \x7b\x7d;\n" = " = \x7b\x7d;" ++ "\n" := rfl
    simp only [unlines_cons, unlines_nil, String.append_assoc, String.empty_append,
      String.append_empty, hopen, hempty]
  | cons op ops =>
    have hhead : " = \x7b\n" = " = \x7b" ++ "\n" := rfl
    have hlast : "\x7d;\n" = "\x7d;" ++ "\n" := rfl
    have hrow : operationTypeRow = fun op => typeLine op ++ "\n" := by
      have hend : "];\n" = "];" ++ "\n" := rfl
      funext op
      simp only [operationTypeRow, typeLine, String.append_assoc, hend]
    simp only [unlines_cons, unlines_table, String.append_assoc, String.empty_append, hopen,
      hhead, hlast, hrow]

lemma endpointTable_eq (lib : TypeLibrary) (l : Layout) (kind : OperationKind) :
    endpointTable lib l kind = unlines (endpointTableLines lib l kind) := by
  rw [endpointTable, endpointTableLines]
  cases lib.operationsOf kind with
  | nil =>
    have hempty : ": \x7b\x7d,\n" = ": \x7b\x7d," ++ "\n" := rfl
    simp only [unlines_cons, unlines_nil, String.append_assoc, String.append_empty, hempty]
  | cons op ops =>
    have hhead : ": \x7b\n" = ": \x7b" ++ "\n" := rfl
    have hlast : "  \x7d,\n" = "  \x7d," ++ "\n" := rfl
    have hrow : endpointRow l = fun op => endpointLine l op ++ "\n" := by
      have hend : ",\n" = "," ++ "\n" := rfl
      funext op
      simp only [endpointRow, endpointLine, String.append_assoc, hend]
    simp only [unlines_table, String.append_assoc, hhead, hlast, hrow]

theorem operationTypes_eq (lib : TypeLibrary) (l : Layout) :
    operationTypes lib l = unlines (operationTypesLines lib l) := by
  have hheader : header = headerLine ++ "\n" := rfl
  have htables : operationTypeTable lib = fun kind => unlines (typeTableLines lib kind) :=
    funext (operationTypeTable_eq lib)
  rw [operationTypes, operationTypesLines, unlines_cons, unlines_append, unlines_flatMap,
    typeImport_eq, hheader, htables, String.append_assoc]

theorem endpoints_eq (lib : TypeLibrary) (l : Layout) :
    endpoints lib l = unlines (endpointsLines lib l) := by
  have hheader : header = headerLine ++ "\n" := rfl
  have hopen : "\nexport const endpoints = \x7b\n" =
      "\n" ++ ("export const endpoints = \x7b" ++ "\n") := rfl
  have hlast : "\x7d;\n" = "\x7d;" ++ "\n" := rfl
  have htables : endpointTable lib l = fun kind => unlines (endpointTableLines lib l kind) :=
    funext (endpointTable_eq lib l)
  simp only [endpoints, endpointsLines, unlines_append, unlines_cons, unlines_nil,
    unlines_flatMap, hheader, hopen, hlast, htables, String.append_assoc, String.empty_append,
    String.append_empty]

theorem sources_eq (lib : TypeLibrary) :
    sources lib = unlines (headerLine :: "" :: sourceTableLines lib) := by
  have hheader : header = headerLine ++ "\n" := rfl
  rw [sources, sourceTableLines]
  cases lib.operations with
  | nil => rfl
  | cons op ops =>
    have hopen : "\nexport const operationSources = \x7b\n" =
      "\n" ++ ("export const operationSources = \x7b" ++ "\n") := rfl
    have hlast : "\x7d;\n" = "\x7d;" ++ "\n" := rfl
    have hrow : sourceRow = fun op => sourceLine op ++ "\n" := by
      have hend : ",\n" = "," ++ "\n" := rfl
      funext op
      simp only [sourceRow, sourceLine, String.append_assoc, hend]
    simp only [unlines_cons, unlines_table, hheader, hopen, hlast, hrow, String.append_assoc,
      String.empty_append]

set_option maxRecDepth 4000 in
lemma responseShapes_eq : responseShapes = unlines responseShapeLines := rfl

theorem responseTypes_eq (lib : TypeLibrary) (l : Layout) :
    responseTypes lib l = unlines (responseLines lib l) := by
  have hheader : header = headerLine ++ "\n" := rfl
  have hopen : "\nexport type OperationResponse = " = "\n" ++ "export type OperationResponse = " :=
    rfl
  have hlast : ";\n" = ";" ++ "\n" := rfl
  simp only [responseTypes, responseLines, typeImport_eq, unlines_append, unlines_cons,
    unlines_nil, hheader, responseShapes_eq, hopen, hlast, String.append_assoc, String.empty_append,
    String.append_empty]

/-! ## Whole lines -/

/-- Tells that a text can be the name in a row: it holds none of the characters that end one. -/
structure IsPlain (s : String) : Prop where
  isLine : IsLine s
  no_colon : ':' ∉ s.toList
  no_comma : ',' ∉ s.toList

lemma isPlain_of_isNameRest {s : String} (h : ∀ c ∈ s.toList, Token.isNameRest c) : IsPlain s := by
  have hnot : ∀ c, ¬Token.isNameRest c → c ∉ s.toList := fun c hc hmem => hc (h c hmem)
  exact ⟨hnot _ (by decide), hnot _ (by decide), hnot _ (by decide)⟩

/-- Tells that the names that an operation has in tables can be read there. -/
structure IsNamedPlainly (op : Operation) : Prop where
  name : IsPlain op.name
  typeName : IsPlain op.typeName
  variablesTypeName : IsPlain op.variablesTypeName

lemma isNamedPlainly_of_isName {op : Operation} (h : IsName op.name) : IsNamedPlainly op where
  name := isPlain_of_isNameRest h.isNameRest
  typeName := isPlain_of_isNameRest (isNameRest_resultTypeName h op.kind)
  variablesTypeName := isPlain_of_isNameRest (isNameRest_variablesTypeName h op.kind)

/-- Tells that the names of all operations can be read in tables. -/
def IsPlainLibrary (lib : TypeLibrary) : Prop :=
  ∀ op ∈ lib.operations, IsNamedPlainly op

lemma isLine_importLines (l : Layout) (source : String) {names : List String}
    (h : ∀ n ∈ names, IsLine n) : ∀ line ∈ importLines l source names, IsLine line := by
  have hnames : ∀ n ∈ sortedNames names, IsLine n := fun n hn => h n (Table.mem_sortedNames.1 hn)
  rw [importLines]
  cases hsorted : sortedNames names with
  | nil => simp
  | cons n names =>
    rw [hsorted] at hnames
    refine List.forall_mem_cons.2 ⟨by decide, isLine_table (by decide) (fun n hn => ?_) ?_⟩
    · exact (IsLine.append (by decide) (hnames n hn)).append (by decide)
    · exact (IsLine.append (by decide) (isLine_quote _)).append (by decide)

lemma isLine_typeLine {op : Operation} (h : IsNamedPlainly op) : IsLine (typeLine op) := by
  have hflag : IsLine (Shown.flag op.needsVariables) := by cases op.needsVariables <;> decide
  exact (((((((IsLine.append (by decide) h.name.isLine).append (by decide)).append
    h.variablesTypeName.isLine).append
    (by decide)).append hflag).append (by decide)).append h.typeName.isLine).append (by decide)

lemma isLine_endpointLine (l : Layout) {op : Operation} (h : IsNamedPlainly op) :
    IsLine (endpointLine l op) :=
  (((IsLine.append (by decide) h.name.isLine).append (by decide)).append (isLine_quote _)).append
    (by decide)

lemma isLine_sourceLine (op : Operation) : IsLine (sourceLine op) :=
  (((IsLine.append (by decide) (isLine_quote _)).append (by decide)).append (isLine_quote _)).append
    (by decide)

section Whole

variable {lib : TypeLibrary} (l : Layout) (kind : OperationKind)

lemma isLine_typeTableLines (h : IsPlainLibrary lib) :
    ∀ line ∈ typeTableLines lib kind, IsLine line := by
  have hops : ∀ op ∈ lib.operationsOf kind, IsNamedPlainly op :=
    fun op hop => h op (List.mem_filter.1 hop).1
  have hsuffix : IsLine kind.typeSuffix := by cases kind <;> decide
  rw [typeTableLines]
  cases hlisted : lib.operationsOf kind with
  | nil =>
    refine List.forall_mem_cons.2 ⟨by decide, List.forall_mem_singleton.2 ?_⟩
    exact (IsLine.append (by decide) hsuffix).append (by decide)
  | cons op ops =>
    rw [hlisted] at hops
    refine List.forall_mem_cons.2
      ⟨by decide, isLine_table ?_ (fun op hop => isLine_typeLine (hops op hop)) (by decide)⟩
    exact (IsLine.append (by decide) hsuffix).append (by decide)

lemma isLine_endpointTableLines (h : IsPlainLibrary lib) :
    ∀ line ∈ endpointTableLines lib l kind, IsLine line := by
  have hops : ∀ op ∈ lib.operationsOf kind, IsNamedPlainly op :=
    fun op hop => h op (List.mem_filter.1 hop).1
  have hword : IsLine kind.word := by cases kind <;> decide
  rw [endpointTableLines]
  cases hlisted : lib.operationsOf kind with
  | nil => exact List.forall_mem_singleton.2 ((IsLine.append (by decide) hword).append (by decide))
  | cons op ops =>
    rw [hlisted] at hops
    refine isLine_table ?_ (fun op hop => isLine_endpointLine l (hops op hop)) (by decide)
    exact (IsLine.append (by decide) hword).append (by decide)

lemma isLine_sourceTableLines (lib : TypeLibrary) : ∀ line ∈ sourceTableLines lib, IsLine line := by
  rw [sourceTableLines]
  cases lib.operations with
  | nil => decide
  | cons op ops => exact isLine_table (by decide) (fun op _ => isLine_sourceLine op) (by decide)

lemma isLine_operationTypesLines (h : IsPlainLibrary lib) :
    ∀ line ∈ operationTypesLines lib l, IsLine line := by
  have hnames : ∀ n ∈ lib.operations.flatMap fun op => [op.typeName, op.variablesTypeName],
      IsLine n := by
    intro n hn
    obtain ⟨op, hop, hn⟩ := List.mem_flatMap.1 hn
    rcases List.mem_pair.1 hn with rfl | rfl
    · exact (h op hop).typeName.isLine
    · exact (h op hop).variablesTypeName.isLine
  refine List.forall_mem_cons.2
    ⟨by decide, List.forall_mem_append.2 ⟨isLine_importLines l _ hnames, ?_⟩⟩
  intro line hline
  obtain ⟨kind, -, hline⟩ := List.mem_flatMap.1 hline
  exact isLine_typeTableLines kind h line hline

lemma isLine_endpointsLines (h : IsPlainLibrary lib) :
    ∀ line ∈ endpointsLines lib l, IsLine line := by
  refine List.forall_mem_append.2
    ⟨List.forall_mem_append.2 ⟨by decide, fun line hline => ?_⟩, by decide⟩
  obtain ⟨kind, -, hline⟩ := List.mem_flatMap.1 hline
  exact isLine_endpointTableLines l kind h line hline

lemma isLine_responseLines (h : IsPlainLibrary lib) :
    ∀ line ∈ responseLines lib l, IsLine line := by
  have hnames : ∀ n ∈ lib.operations.map (·.typeName), IsLine n := by
    intro n hn
    obtain ⟨op, hop, rfl⟩ := List.mem_map.1 hn
    exact (h op hop).typeName.isLine
  have hunion : IsLine (joinWith " | " (lib.operations.map (·.typeName))) := by
    rw [IsLine, toList_joinWith]
    intro hmem
    rcases mem_intercalate hmem with hmem | ⟨part, hpart, hmem⟩
    · revert hmem
      decide
    · obtain ⟨n, hn, rfl⟩ := List.mem_map.1 hpart
      exact hnames n hn hmem
  have hfront :
      ∀ line ∈ importLines l responsePath (lib.operations.map (·.typeName)) ++ responseShapeLines,
      IsLine line := List.forall_mem_append.2 ⟨isLine_importLines l _ hnames, by decide⟩
  have hlast : IsLine
      ("export type OperationResponse = " ++
        (if (lib.operations.map (·.typeName)).isEmpty then "never"
      else joinWith " | " (lib.operations.map (·.typeName))) ++ ";") := by
    refine (IsLine.append (by decide) ?_).append (by decide)
    split
    · decide
    · exact hunion
  refine List.forall_mem_cons.2 ⟨by decide, List.forall_mem_append.2 ⟨hfront, ?_⟩⟩
  exact List.forall_mem_cons.2 ⟨by decide, List.forall_mem_singleton.2 hlast⟩

end Whole

end OperationGate.Artifact
