import OperationGate.Proofs.Artifact.Agreement
import OperationGate.Proofs.Declaration.Names
import OperationGate.Proofs.Text.Script

/-!
# Literals of artifacts

The modules of a build hold paths, routes and values as literals, and no quote stands in the rest of
their texts: names are letters, digits and underscores, and so are the values of enums. So a reader
of scripts finds these literals and no others in them (`LiteralsStand`,
`literalsStand_of_ofDocuments`). Main statement: `spec_quote`.
-/

namespace OperationGate

open Text Literal

/-! ## Names -/

lemma isUnquoted_of_isNameRest {s : String} (h : ∀ c ∈ s.toList, Token.isNameRest c) :
    IsUnquoted s :=
  fun hquote => absurd (h _ hquote) (by decide)

/-- Tells that the names that an enum gives are names. -/
structure EnumValues.IsNamed (e : EnumValues) : Prop where
  name : IsName e.name
  value {v : String} : v ∈ e.values → IsName v

/-- Tells that the names that a library has in tables are names. -/
structure TypeLibrary.IsNamed (lib : TypeLibrary) : Prop where
  operation {op : Operation} : op ∈ lib.operations → IsName op.name
  enum {e : EnumValues} : e ∈ lib.enums → e.IsNamed

lemma isUnquoted_word (kind : OperationKind) : IsUnquoted kind.word := by
  cases kind <;> decide

lemma isUnquoted_typeSuffix (kind : OperationKind) : IsUnquoted kind.typeSuffix := by
  cases kind <;> decide

section Operations

variable {op : Operation}

lemma isUnquoted_name (h : IsName op.name) : IsUnquoted op.name :=
  isUnquoted_of_isNameRest h.isNameRest

lemma isUnquoted_typeName (h : IsName op.name) : IsUnquoted op.typeName :=
  isUnquoted_of_isNameRest (isNameRest_resultTypeName h op.kind)

lemma isUnquoted_variablesTypeName (h : IsName op.name) : IsUnquoted op.variablesTypeName :=
  isUnquoted_of_isNameRest (isNameRest_variablesTypeName h op.kind)

end Operations

/-! ## Enums -/

namespace EnumValues

variable {e : EnumValues}

/-- The rows of the values of an enum, each with the name of the value and its literal. -/
lemma hasLiterals_rows (h : e.IsNamed) {before between after : List Char} (hbefore : '\'' ∉ before)
    (hbetween : '\'' ∉ between) (hafter : '\'' ∉ after) :
    HasLiterals (String.join (e.values.map fun v =>
      String.ofList before ++ v ++ String.ofList between ++ quote v ++ String.ofList after))
        e.values := by
  have hrows := hasLiterals_join fun v hv =>
    HasLiterals.between
      ((isUnquoted_of_isNameRest (h.value hv).isNameRest).between hbefore hbetween)
      (hasLiterals_quote v) hafter
  rwa [List.flatMap_singleton'] at hrows

lemma hasLiterals_definition (h : e.IsNamed) : HasLiterals e.definition e.values := by
  have hname : IsUnquoted e.name := isUnquoted_of_isNameRest h.name.isNameRest
  exact (hasLiterals_rows h (by decide) (by decide) (by decide)).between
    (hname.between (by decide) (by decide)) (by decide)

lemma hasLiterals_declaration (h : e.IsNamed) : HasLiterals e.declaration e.values := by
  have hname : IsUnquoted e.name := isUnquoted_of_isNameRest h.name.isNameRest
  exact (hasLiterals_rows h (by decide) (by decide) (by decide)).between
    (hname.between (by decide) (by decide)) (by decide)

end EnumValues

namespace TypeExpr

lemma writeAll_eq_map (depth : Nat) (ts : List TypeExpr) :
    writeAll depth ts = ts.map (write depth) := by
  induction ts with
  | nil => rfl
  | cons t ts ih => rw [writeAll, ih, List.map_cons]

lemma hasLiterals_literals (depth : Nat) (values : List String) :
    HasLiterals (write depth (.oneOf (values.map .literal))) values := by
  have halternatives : HasLiterals (joinWith " | " (values.map quote)) (values.flatMap ([·])) :=
    hasLiterals_joinWith (by decide) fun v _ => hasLiterals_quote v
  rw [List.flatMap_singleton'] at halternatives
  rw [write, writeAll_eq_map, List.map_map]
  simpa only [Function.comp_def, write] using halternatives

end TypeExpr

lemma Declaration.hasLiterals_ofEnum {t : SchemaType} (h : IsName t.name) :
    HasLiterals (ofEnum t).source t.enumValues := by
  have hname : IsUnquoted t.name := isUnquoted_of_isNameRest h.isNameRest
  exact (TypeExpr.hasLiterals_literals 0 t.enumValues).between
    (hname.between (by decide) (by decide)) (by decide)

namespace TypeLibrary

lemma hasLiterals_blocks {α : Type} {text : α → String} {values : α → List String} {as : List α}
    (h : ∀ a ∈ as, HasLiterals (text a) (values a)) :
    HasLiterals (blocks (as.map text)) (as.flatMap values) := by
  cases as with
  | nil => exact hasLiterals_ofList List.not_mem_nil
  | cons a as =>
    have hlast : HasLiterals "\n" [] := hasLiterals_ofList (by decide)
    have hjoined : HasLiterals (joinWith "\n\n" ((a :: as).map text)) ((a :: as).flatMap values) :=
      hasLiterals_joinWith (by decide) h
    have hall := hjoined.append hlast
    rwa [List.append_nil] at hall

end TypeLibrary

/-! ## Modules -/

namespace Artifact

lemma isUnquoted_header : IsUnquoted header :=
  .ofList (by decide)

lemma isUnquoted_header_append {cs : List Char} (h : '\'' ∉ cs) :
    IsUnquoted (header ++ String.ofList cs) :=
  isUnquoted_header.append (.ofList h)

lemma moduleOf_singleton {block : String} (h : block ≠ "") :
    moduleOf [block] = header ++ ("\n" ++ block) := by
  rw [moduleOf, List.filter_cons_of_pos (by simpa using h), List.filter_nil]
  simp only [List.map_cons, List.map_nil, String.join_cons, String.join_nil, String.append_empty]

/-- Rows without literals have none together. -/
lemma hasLiterals_join_nil {α : Type} {text : α → String} {as : List α}
    (h : ∀ a ∈ as, HasLiterals (text a) []) : HasLiterals (String.join (as.map text)) [] := by
  have hrows := hasLiterals_join h
  rwa [List.flatMap_eq_nil_iff.2 fun _ _ => rfl] at hrows

section Library

variable {lib : TypeLibrary} (l : Layout)

lemma hasLiterals_sourceRow (op : Operation) :
    HasLiterals (sourceRow op) [op.kind.word ++ ":" ++ op.name, op.file] := by
  have hkey : HasLiterals ("  " ++ quote (op.kind.word ++ ":" ++ op.name) ++ ": ")
      [op.kind.word ++ ":" ++ op.name] :=
    (hasLiterals_quote _).between (.ofList (by decide)) (by decide)
  exact (hkey.append (hasLiterals_quote op.file)).append (hasLiterals_ofList (by decide))

lemma hasLiterals_sources (lib : TypeLibrary) :
    HasLiterals (sources lib) (lib.operations.flatMap fun op =>
      [op.kind.word ++ ":" ++ op.name, op.file]) := by
  rw [sources]
  cases lib.operations with
  | nil => exact hasLiterals_unquoted (isUnquoted_header_append (by decide))
  | cons op ops =>
    have hrows := hasLiterals_join fun op' (_ : op' ∈ op :: ops) => hasLiterals_sourceRow op'
    exact hrows.between (isUnquoted_header_append (by decide)) (by decide)

lemma hasLiterals_endpointTable (h : lib.IsNamed) (kind : OperationKind) :
    HasLiterals (endpointTable lib l kind)
      ((lib.operationsOf kind).map fun op => endpointPath l.route op.kind op.name) := by
  have hrow : ∀ op ∈ lib.operationsOf kind, HasLiterals (endpointRow l op)
      [endpointPath l.route op.kind op.name] := by
    intro op hop
    have hname := isUnquoted_name (h.operation (List.mem_filter.1 hop).1)
    exact (hasLiterals_quote _).between (hname.between (by decide) (by decide)) (by decide)
  have hkind := isUnquoted_word kind
  rw [endpointTable]
  cases hlisted : lib.operationsOf kind with
  | nil => exact hasLiterals_unquoted (hkind.between (by decide) (by decide))
  | cons op ops =>
    have hrows := hasLiterals_join (hlisted ▸ hrow)
    rw [← List.map_eq_flatMap] at hrows
    exact hrows.between (hkind.between (by decide) (by decide)) (by decide)

lemma hasLiterals_endpoints (h : lib.IsNamed)
    (hordered : lib.operations.Pairwise Operation.Precedes) :
    HasLiterals (endpoints lib l)
      (lib.operations.map fun op => endpointPath l.route op.kind op.name) := by
  have htables := hasLiterals_join fun kind (_ : kind ∈ OperationKind.all) =>
    hasLiterals_endpointTable l h kind
  rw [flatMap_map_operationsOf hordered] at htables
  exact htables.between (isUnquoted_header_append (by decide)) (by decide)

lemma hasLiterals_enumObjects (h : lib.IsNamed) :
    HasLiterals (enumObjects lib) (lib.enums.flatMap (·.values)) := by
  have hdefinition : ∀ e ∈ lib.enums, HasLiterals e.definition e.values :=
    fun e he => EnumValues.hasLiterals_definition (h.enum he)
  rw [enumObjects, TypeLibrary.writeEnumDefinitions]
  cases hlisted : lib.enums with
  | nil =>
    have hempty : IsUnquoted (header ++ "\nexport \x7b\x7d;\n") :=
      isUnquoted_header_append (by decide)
    exact hasLiterals_unquoted hempty
  | cons e es =>
    have hblocks := TypeLibrary.hasLiterals_blocks (hlisted ▸ hdefinition)
    have hfront : HasLiterals (header ++ "\n") [] :=
      hasLiterals_unquoted (isUnquoted_header_append (by decide))
    rw [moduleOf_singleton, ← String.append_assoc]
    · exact hfront.append hblocks
    · simp [TypeLibrary.blocks]

lemma hasLiterals_typeImport (source : String) {names : List String}
    (h : ∀ n ∈ names, IsUnquoted n) :
    HasLiterals (typeImport l source names)
      (if names = [] then [] else [l.importOf source (l.place declarationsPath)]) := by
  have hrow : ∀ n ∈ sortedNames names, HasLiterals ("  " ++ n ++ ",\n") [] := fun n hn =>
    hasLiterals_unquoted ((h n (Table.mem_sortedNames.1 hn)).between (by decide) (by decide))
  split
  next hnone =>
    rw [hnone]
    exact hasLiterals_ofList List.not_mem_nil
  next hsome =>
    obtain ⟨n, hn⟩ := List.exists_mem_of_ne_nil names hsome
    have hmem : n ∈ sortedNames names := Table.mem_sortedNames.2 hn
    rw [typeImport]
    cases hlisted : sortedNames names with
    | nil =>
      rw [hlisted] at hmem
      cases hmem
    | cons m ms =>
      have hnames : HasLiterals
          ("\nimport type \x7b\n" ++ String.join ((m :: ms).map fun n => "  " ++ n ++ ",\n")
          ++ "\x7d from ") [] :=
        (hasLiterals_join_nil (hlisted ▸ hrow)).between (.ofList (by decide)) (by decide)
      exact (hnames.append
        (hasLiterals_quote (l.importOf source (l.place declarationsPath)))).append
        (hasLiterals_ofList (by decide))

lemma hasLiterals_options (source : String) {name : List Char} (h : '\'' ∉ name)
    (target : Option Path) :
    HasLiterals (options l source (String.ofList name) target)
      (target.map (l.importOf source)).toList := by
  have hname : IsUnquoted (String.ofList name) := .ofList h
  cases target with
  | none =>
    have hfront : IsUnquoted (header ++ "\nexport const " ++ String.ofList name) :=
      (isUnquoted_header_append (by decide)).append hname
    exact hasLiterals_unquoted (hfront.append (.ofList (by decide)))
  | some target =>
    have hfront : IsUnquoted (header ++ "\nimport " ++ String.ofList name ++ " from ") :=
      ((isUnquoted_header_append (by decide)).append hname).append (.ofList (by decide))
    have himport : HasLiterals (header ++ "\nimport " ++ String.ofList name ++ " from " ++
        quote (l.importOf source target) ++ ";\n\nexport \x7b ") [l.importOf source target] :=
      (hasLiterals_quote _).between hfront (by decide)
    exact (himport.append (hasLiterals_unquoted hname)).append (hasLiterals_ofList (by decide))

/-- No literal stands in the row of an operation in the table of operation types. -/
lemma isUnquoted_operationTypeRow {op : Operation} (h : IsName op.name) :
    IsUnquoted (operationTypeRow op) := by
  have hflag : IsUnquoted (Shown.flag op.needsVariables) := by
    cases op.needsVariables <;> exact .ofList (by decide)
  have hkey : IsUnquoted ("  " ++ op.name ++ ": [") :=
    (isUnquoted_name h).between (by decide) (by decide)
  have hvariables : IsUnquoted ("  " ++ op.name ++ ": [" ++ op.variablesTypeName ++ ", ") :=
    (hkey.append (isUnquoted_variablesTypeName h)).append (.ofList (by decide))
  have hneeded : IsUnquoted
      ("  " ++ op.name ++ ": [" ++ op.variablesTypeName ++ ", " ++ Shown.flag op.needsVariables
      ++ ", ") :=
    (hvariables.append hflag).append (.ofList (by decide))
  exact (hneeded.append (isUnquoted_typeName h)).append (.ofList (by decide))

lemma hasLiterals_operationTypeTable (h : lib.IsNamed) (kind : OperationKind) :
    HasLiterals (operationTypeTable lib kind) [] := by
  have hrow : ∀ op ∈ lib.operationsOf kind, HasLiterals (operationTypeRow op) [] := fun op hop =>
    hasLiterals_unquoted (isUnquoted_operationTypeRow (h.operation (List.mem_filter.1 hop).1))
  have hsuffix := isUnquoted_typeSuffix kind
  rw [operationTypeTable]
  cases hlisted : lib.operationsOf kind with
  | nil => exact hasLiterals_unquoted (hsuffix.between (by decide) (by decide))
  | cons op ops =>
    exact (hasLiterals_join_nil (hlisted ▸ hrow)).between
      (hsuffix.between (by decide) (by decide)) (by decide)

lemma hasLiterals_operationTypes (h : lib.IsNamed) :
    HasLiterals (operationTypes lib l)
      (if lib.operations = [] then []
        else [l.importOf operationTypesPath (l.place declarationsPath)]) := by
  have hnames : ∀ n ∈ lib.operations.flatMap fun op => [op.typeName, op.variablesTypeName],
      IsUnquoted n := by
    intro n hn
    obtain ⟨op, hop, hn⟩ := List.mem_flatMap.1 hn
    rcases List.mem_pair.1 hn with rfl | rfl
    · exact isUnquoted_typeName (h.operation hop)
    · exact isUnquoted_variablesTypeName (h.operation hop)
  have hnone : (lib.operations.flatMap fun op => [op.typeName, op.variablesTypeName]) = [] ↔
      lib.operations = [] := by
    cases lib.operations <;> simp
  have himport := hasLiterals_typeImport l operationTypesPath hnames
  simp only [hnone] at himport
  have htables := hasLiterals_join_nil fun kind (_ : kind ∈ OperationKind.all) =>
    hasLiterals_operationTypeTable h kind
  have hall := ((hasLiterals_unquoted isUnquoted_header).append himport).append htables
  rwa [List.nil_append, List.append_nil] at hall

lemma isUnquoted_responseShapes : IsUnquoted responseShapes := by
  unfold responseShapes
  iterate 10 refine IsUnquoted.append ?_ (.ofList (by decide))
  exact .ofList (by decide)

lemma hasLiterals_responseTypes (h : lib.IsNamed) :
    HasLiterals (responseTypes lib l)
      (if lib.operations = [] then []
        else [l.importOf responsePath (l.place declarationsPath)]) := by
  have hnames : ∀ n ∈ lib.operations.map (·.typeName), IsUnquoted n := by
    intro n hn
    obtain ⟨op, hop, rfl⟩ := List.mem_map.1 hn
    exact isUnquoted_typeName (h.operation hop)
  have himport := hasLiterals_typeImport l responsePath hnames
  simp only [List.map_eq_nil_iff] at himport
  have hanswers : HasLiterals (if (lib.operations.map (·.typeName)).isEmpty then "never" else
      joinWith " | " (lib.operations.map (·.typeName))) [] := by
    split
    · exact hasLiterals_ofList (by decide)
    · have hjoined : HasLiterals (joinWith " | " (lib.operations.map (·.typeName)))
          (lib.operations.flatMap fun _ => []) :=
        hasLiterals_joinWith (by decide) fun op hop =>
          hasLiterals_unquoted (isUnquoted_typeName (h.operation hop))
      rwa [List.flatMap_eq_nil_iff.2 fun _ _ => rfl] at hjoined
  have hopen : HasLiterals "\nexport type OperationResponse = " [] := hasLiterals_ofList (by decide)
  have hlast : HasLiterals ";\n" [] := hasLiterals_ofList (by decide)
  have hfront := ((hasLiterals_unquoted isUnquoted_header).append himport).append
    (hasLiterals_unquoted isUnquoted_responseShapes)
  have hall := ((hfront.append hopen).append hanswers).append hlast
  rwa [List.nil_append, List.append_nil, List.append_nil, List.append_nil, List.append_nil] at hall

lemma hasLiterals_helpers : HasLiterals (helpers l) [dropEndChar '/' l.route] := by
  have hprefix : HasLiterals
      (header ++ "\nexport const serverApiPrefix = " ++ quote (dropEndChar '/' l.route) ++
      ";\n\nexport function getEndpoint(operation, operationName) \x7b\n")
        [dropEndChar '/' l.route] :=
    (hasLiterals_quote _).between (isUnquoted_header_append (by decide)) (by decide)
  exact hprefix.append (hasLiterals_ofList (by decide))

end Library

/-- Tells which literals stand in the modules of a build and in the declarations of enums: all other
text between them is free of quotes. -/
structure LiteralsStand (lib : TypeLibrary) (l : Layout) : Prop where
  sources : HasLiterals (sources lib) (lib.operations.flatMap fun op =>
    [op.kind.word ++ ":" ++ op.name, op.file])
  endpoints : HasLiterals (endpoints lib l)
    (lib.operations.map fun op => endpointPath l.route op.kind op.name)
  enumObjects : HasLiterals (enumObjects lib) (lib.enums.flatMap (·.values))
  enumDeclarations : HasLiterals lib.writeEnumDeclarations (lib.enums.flatMap (·.values))
  enumTypes {d : Declaration} : d ∈ lib.declarations → d.kind = .enum →
    ∃ e ∈ lib.enums, e.name = d.name ∧ HasLiterals d.source e.values
  operationTypes : HasLiterals (operationTypes lib l)
    (if lib.operations = [] then [] else [l.importOf operationTypesPath (l.place declarationsPath)])
  responseTypes : HasLiterals (responseTypes lib l)
    (if lib.operations = [] then [] else [l.importOf responsePath (l.place declarationsPath)])
  clientOptions : HasLiterals (options l clientOptionsPath "clientOptions" l.clientOptions)
    (l.clientOptions.map (l.importOf clientOptionsPath)).toList
  serverOptions : HasLiterals (options l serverOptionsPath "serverOptions" l.serverOptions)
    (l.serverOptions.map (l.importOf serverOptionsPath)).toList
  helpers : HasLiterals (helpers l) [dropEndChar '/' l.route]

theorem literalsStand_of_ofDocuments {text : String} {s : Schema} {scalars : Shape.Scalars}
    {root : Option Path} {docs : List SourceDocument} {lib : TypeLibrary}
    (hs : Schema.parse text = .ok s) (hlib : TypeLibrary.ofDocuments s scalars root docs = .ok lib)
    (l : Layout) : LiteralsStand lib l := by
  obtain ⟨c, hc, hlib⟩ := bind_eq_ok.1 hlib
  cases hlib
  have henum : ∀ t ∈ c.enums.filterMap s.get?, IsName t.name ∧ ∀ v ∈ t.enumValues, IsName v := by
    intro t ht
    obtain ⟨n, -, ht⟩ := List.mem_filterMap.1 ht
    exact ⟨Schema.name_of_parse hs n t ht ▸ Schema.isName_of_parse hs ht,
      Schema.isName_of_mem_enumValues hs ht⟩
  have hnamed : (TypeLibrary.ofCatalogue s scalars c).IsNamed := by
    refine ⟨Catalogue.isName_of_mem_operations hc, fun he => ?_⟩
    obtain ⟨t, ht, rfl⟩ := List.mem_map.1 he
    exact ⟨(henum t ht).1, (henum t ht).2 _⟩
  refine {
    sources := hasLiterals_sources _
    endpoints := hasLiterals_endpoints l hnamed (Catalogue.pairwise_precedes hc)
    enumObjects := hasLiterals_enumObjects hnamed
    enumDeclarations := TypeLibrary.hasLiterals_blocks fun e he =>
      EnumValues.hasLiterals_declaration (hnamed.enum he)
    enumTypes := fun {d} hd hkind => ?_
    operationTypes := hasLiterals_operationTypes l hnamed
    responseTypes := hasLiterals_responseTypes l hnamed
    clientOptions := hasLiterals_options l _ (by decide) _
    serverOptions := hasLiterals_options l _ (by decide) _
    helpers := hasLiterals_helpers l }
  rcases TypeLibrary.mem_declarations_iff.1 hd with ⟨t, ht, rfl⟩ | ⟨t, -, rfl⟩ | ⟨f, -,
    rfl⟩ | ⟨op, -, rfl | rfl⟩
  · exact ⟨_, List.mem_map_of_mem ht, rfl, Declaration.hasLiterals_ofEnum (henum t ht).1⟩
  · cases hkind
  · cases hkind
  · cases hkind
  · cases hkind

/-- Literals are safe. Between its quotes a literal is enclosed: no line ends in it, and a backslash
is left for each quote in it and none at its end. A script evaluates it to the text that was quoted,
and texts with the same units are the same, so literals of different texts differ. Texts with
literals between them are taken apart where these stand, and the modules of a build are such texts,
whatever the paths and the routes are. -/
theorem spec_quote :
    (∀ s, ∃ inside, quote s = String.ofList ('\'' :: inside ++ ['\'']) ∧ IsEnclosed inside) ∧
      (∀ s, value? (quote s) = some (units s.toList)) ∧
        (∀ s t : String, units s.toList = units t.toList → s = t) ∧ Function.Injective quote ∧
          (∀ pieces tail, (∀ p ∈ pieces, IsUnquoted p.1) → IsUnquoted tail →
            split? (written pieces tail).toList =
              some (pieces.map fun p => (p.1.toList, units p.2.toList), tail.toList)) ∧
            ∀ text s scalars root docs lib l, Schema.parse text = .ok s →
              TypeLibrary.ofDocuments s scalars root docs = .ok lib → LiteralsStand lib l := by
  have hunits : ∀ s t : String, units s.toList = units t.toList → s = t :=
    fun s t h => String.toList_inj.1 (units_inj.1 h)
  refine ⟨fun s => ⟨body s.toList, rfl, isEnclosed_body _⟩, value?_quote, hunits, fun s t h => ?_,
    fun pieces tail => split?_written, fun text s scalars root docs lib l hs hlib => ?_⟩
  · have hvalues := congrArg value? h
    rw [value?_quote, value?_quote] at hvalues
    exact hunits s t (Option.some.inj hvalues)
  · exact literalsStand_of_ofDocuments hs hlib l

/-- A document at a path with a quote, a backslash and the end of a line. -/
def quotedDocument : SourceDocument where
  path := "it's\\here\n.graphql"
  source := TypeLibrary.queryDocument.source

lemma read?_quotedDocument :
    Document.read? quotedDocument.source = some TypeLibrary.queryDefinitions :=
  TypeLibrary.read?_queryDocument

set_option maxRecDepth 4000 in
lemma map_operations_quotedDocument :
    (TypeLibrary.ofDocuments (Catalogue.schemaOf (TypeLibrary.enumTypes "Role")) .empty none
      [quotedDocument]).map
      (fun lib => lib.operations.flatMap fun op => [op.kind.word ++ ":" ++ op.name, op.file]) =
        .ok ["query:q", quotedDocument.path] := by
  rw [TypeLibrary.ofDocuments, Catalogue.ofDocuments_singleton read?_quotedDocument]
  cbv

theorem spec_quote_sample :
    ∃ s lib, Schema.parse (TypeLibrary.enumText "Role") = .ok s ∧
      TypeLibrary.ofDocuments s .empty none [quotedDocument] = .ok lib ∧
        HasLiterals (sources lib) ["query:q", "it's\\here\n.graphql"] ∧
          quote "it's\\here\n.graphql" = "'it\\'s\\\\here\\n.graphql'" ∧
            split? (written [("from ", "it's\\here\n.graphql")] ";").toList =
              some ([("from ".toList, units "it's\\here\n.graphql".toList)], ";".toList) := by
  obtain ⟨lib, hlib, hliterals⟩ := map_eq_ok.1 map_operations_quotedDocument
  obtain ⟨-, -, -, -, hsplit, hstand⟩ := spec_quote
  have hstands := hstand _ _ _ _ _ lib sampleLayout TypeLibrary.parse_enumText hlib
  refine ⟨_, lib, TypeLibrary.parse_enumText, hlib, hliterals ▸ hstands.sources, by decide, ?_⟩
  exact hsplit [("from ", "it's\\here\n.graphql")] ";"
    (List.forall_mem_singleton.2 (by decide)) (by decide)

end Artifact

end OperationGate
