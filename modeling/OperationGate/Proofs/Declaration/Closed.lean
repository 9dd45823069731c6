import Mathlib
import OperationGate.Proofs.Declaration.Names
import OperationGate.Proofs.Declaration.Printed

/-!
# Declarations are closed

A declaration refers to the names that stand in its type (`Declaration.references`). What a
catalogue declares is closed: every name that is referred to is declared once, as an enum or an
input object (`TypeLibrary.countP_declarations_of_mem_references`).

For the result of an operation or a fragment this takes the two ways in which a field is looked up
together. A printed type refers to the types of fields of the object types that values have; a
catalogue depends on the types of fields of the types that selections are written for. In a valid
schema an enum is its only subtype (`Schema.IsClosed.eq_of_isSubtype`), so the two name the same
enum.
-/

namespace OperationGate

/-! ## Schemas -/

namespace Schema

/-- What a schema promises about kinds: it is valid, only objects and interfaces implement
interfaces, and the fields of input objects have types that a caller can give. -/
structure IsClosed (s : Schema) : Prop extends s.IsValid where
  implementerKind {n i : String} {t : SchemaType} : s.get? n = some t → i ∈ t.interfaces →
    t.kind = .object ∨ t.kind = .interface
  inputField {n : String} {t : SchemaType} {f : InputField} : s.get? n = some t →
    t.kind = .inputObject → f ∈ t.inputFields → ∃ u, s.get? f.type.base = some u ∧ u.isInput

/-- An enum is a subtype of itself only. -/
theorem IsClosed.eq_of_isSubtype {s : Schema} (hs : s.IsClosed) {a b : String} (h : s.IsSubtype a b)
    (ha : s.kind? a = some .enum) : a = b := by
  cases h with
  | refl => rfl
  | implements ht hi =>
    rw [kind?_eq_of_get? ht, Option.some.injEq] at ha
    rcases hs.implementerKind ht hi with hkind | hkind
    · cases ha.symm.trans hkind
    · cases ha.symm.trans hkind
  | member ht hunion hm => cases (hs.member ht hunion hm).symm.trans ha

end Schema

/-! ## References -/

namespace TypeExpr

mutual

/-- The names of declared types that stand in a type. Types that need no declaration are none of
them. -/
def references : TypeExpr → List String
  | .named name => [name]
  | .basic _ => []
  | .literal _ => []
  | .nullable t => references t
  | .array item => references item
  | .record members => memberReferences members
  | .oneOf options => allReferences options

/-- The names that stand in the types of members. -/
def memberReferences : List (String × TypeExpr) → List String
  | [] => []
  | (_, t) :: rest => references t ++ memberReferences rest

/-- The names that stand in several types. -/
def allReferences : List TypeExpr → List String
  | [] => []
  | t :: rest => references t ++ allReferences rest

end

variable {n : String}

lemma mem_memberReferences {ms : List (String × TypeExpr)} :
    n ∈ memberReferences ms ↔ ∃ m ∈ ms, n ∈ m.2.references := by
  induction ms with
  | nil => simp [memberReferences]
  | cons m rest ih => rw [memberReferences, List.mem_append, ih, List.exists_mem_cons_iff]

lemma mem_allReferences {ts : List TypeExpr} :
    n ∈ allReferences ts ↔ ∃ t ∈ ts, n ∈ t.references := by
  induction ts with
  | nil => simp [allReferences]
  | cons t rest ih => rw [allReferences, List.mem_append, ih, List.exists_mem_cons_iff]

/-- Alternatives of texts refer to nothing. -/
@[simp]
lemma references_literals (names : List String) : (oneOf (names.map .literal)).references = [] := by
  rw [references, List.eq_nil_iff_forall_not_mem]
  intro n hn
  obtain ⟨t, ht, hn⟩ := mem_allReferences.1 hn
  obtain ⟨name, -, rfl⟩ := List.mem_map.1 ht
  rw [references] at hn
  cases hn

mutual

/-- What is printed around a type refers to nothing else. -/
@[simp]
lemma references_ofRef (u : TypeExpr) (t : TypeRef) : (ofRef u t).references = u.references := by
  cases t with
  | named n => rw [ofRef, references]
  | list t => rw [ofRef, references, references, references_ofRef u t]
  | nonNull t => rw [ofRef, references_ofMarked u t]

@[simp]
lemma references_ofMarked (u : TypeExpr) (t : TypeRef) :
    (ofMarked u t).references = u.references := by
  cases t with
  | named n => rw [ofMarked]
  | list t => rw [ofMarked, references, references_ofRef u t]
  | nonNull t => rw [ofMarked, references_ofMarked u t]

end

mutual

lemma sizeOf_le_ofRef (u : TypeExpr) (t : TypeRef) : sizeOf u ≤ sizeOf (ofRef u t) := by
  cases t with
  | named n => simp [ofRef]
  | list t =>
    have := sizeOf_le_ofRef u t
    simp only [ofRef, nullable.sizeOf_spec, array.sizeOf_spec]
    omega
  | nonNull t => exact sizeOf_le_ofMarked u t

lemma sizeOf_le_ofMarked (u : TypeExpr) (t : TypeRef) : sizeOf u ≤ sizeOf (ofMarked u t) := by
  cases t with
  | named n => exact Nat.le_refl _
  | list t =>
    have := sizeOf_le_ofRef u t
    simp only [ofMarked, array.sizeOf_spec]
    omega
  | nonNull t => exact sizeOf_le_ofMarked u t

end

lemma sizeOf_lt_record {ms : List (String × TypeExpr)} {m : String × TypeExpr} (h : m ∈ ms) :
    sizeOf m.2 < sizeOf (record ms) := by
  have hm := List.sizeOf_lt_of_mem h
  have hpair : sizeOf m = 1 + sizeOf m.1 + sizeOf m.2 := Prod.mk.sizeOf_spec m.1 m.2
  rw [record.sizeOf_spec]
  omega

lemma sizeOf_lt_oneOf {ts : List TypeExpr} {t : TypeExpr} (h : t ∈ ts) :
    sizeOf t < sizeOf (oneOf ts) := by
  have ht := List.sizeOf_lt_of_mem h
  rw [oneOf.sizeOf_spec]
  omega

end TypeExpr

/-- The names of declared types that a declaration refers to. -/
def Declaration.references (d : Declaration) : List String :=
  match d.body with
  | .type t => t.references
  | .members ms => ms.flatMap (·.type.references)

/-! ## What shapes refer to -/

namespace Shape

open Collected

variable {s : Schema} {scalars : Scalars} {c : Catalogue} {n : String}

@[simp]
lemma references_scalar (scalars : Scalars) (name : String) :
    (scalar scalars name).references = [] := by
  rw [scalar]
  split
  next => rw [TypeExpr.references]
  next => simp only [apply_ite TypeExpr.references, TypeExpr.references, ite_self]

@[simp]
lemma references_typename (s : Schema) (type : String) : (typename s type).references = [] := by
  rw [typename]
  split
  next => rw [TypeExpr.references]
  next => rw [TypeExpr.references_literals]

/-- What a caller gives refers to the type that it is declared with, unless that is a scalar. -/
lemma mem_references_input {t : TypeRef} (h : n ∈ (input s scalars t).references) :
    n = t.base ∧ ∃ kind, s.kind? n = some kind ∧ kind ≠ .scalar := by
  rw [input, TypeExpr.references_ofRef, inputLeaf] at h
  split at h
  next => simp at h
  next => simp at h
  next kind hne hkind =>
    rw [TypeExpr.references, List.mem_singleton] at h
    subst h
    exact ⟨rfl, kind, hkind, fun he => hne (he ▸ rfl)⟩

/-- What a field without selections yields refers to its type, if that is an enum. -/
lemma mem_references_leaf {type : String} (hcomposite : ¬(s.get? type).any (·.isComposite))
    {bs : List Branch} (h : n ∈ (leaf s scalars type bs).references) :
    n = type ∧ s.kind? type = some .enum := by
  rw [leaf, Schema.kind?] at h
  rw [Schema.kind?]
  cases ht : s.get? type with
  | none => simp [ht] at h
  | some t =>
    rw [ht, Option.any_some] at hcomposite
    cases hkind : t.kind <;> simp_all [SchemaType.isComposite, SchemaType.isLeaf,
      TypeExpr.references]

/-- What a shape refers to stands in the type of a member. -/
lemma exists_isMember_of_mem_references {type : String} {bs : List Branch}
    (h : n ∈ (selection s scalars type bs).references) :
    ∃ concrete ms m, IsMember s type (selection s scalars type bs) concrete ms ∧ m ∈ ms ∧
      n ∈ m.2.references := by
  by_cases hsplits : Splits s type bs
  · rw [selection_of_splits hsplits] at h ⊢
    rw [TypeExpr.references, TypeExpr.mem_allReferences] at h
    obtain ⟨t, ht, hn⟩ := h
    obtain ⟨concrete, hconcrete, rfl⟩ := List.mem_map.1 ht
    rw [object_eq, TypeExpr.references, TypeExpr.mem_memberReferences] at hn
    obtain ⟨m, hm, hn⟩ := hn
    refine ⟨concrete, _, m, .alternative ?_, hm, hn⟩
    rw [← List.map_prod_left_eq_zip]
    exact List.mem_map.2 ⟨concrete, hconcrete, by rw [object_eq]⟩
  · rw [selection_of_not_splits _ hsplits, object_eq] at h ⊢
    rw [TypeExpr.references, TypeExpr.mem_memberReferences] at h
    obtain ⟨m, hm, hn⟩ := h
    exact ⟨type, _, m, .whole _, hm, hn⟩

lemma IsMember.sizeOf_lt {type concrete : String} {t : TypeExpr} {ms : List (String × TypeExpr)}
    (h : IsMember s type t concrete ms) {m : String × TypeExpr} (hm : m ∈ ms) :
    sizeOf m.2 < sizeOf t := by
  have hrecord := TypeExpr.sizeOf_lt_record hm
  cases h with
  | whole => exact hrecord
  | alternative h => exact hrecord.trans (TypeExpr.sizeOf_lt_oneOf (List.of_mem_zip h).2)

/-! ## What printed types refer to -/

section Prints

variable {root : Option Path} {docs : List SourceDocument} {type : String} {t : TypeExpr}
  {parts : List (String × List Selection)}

/-- What a gathered field names, one of the selection sets names. -/
lemma exists_names_of_gathers (hfits : c.FitsSchema s) (h : SuitsAll s c type parts)
    {concrete : String} {fss : List (List Collected)}
    (hfss : Gathers s c.written concrete parts fss) {f : Collected} (hf : f ∈ fss.flatten) :
    Validity.Fits s c.written f.parent f.selection ∧
      ∀ n, Dependencies.Names s c.written n f.parent [f.selection] →
        ∃ p ∈ parts, Dependencies.Names s c.written n p.1 p.2 := by
  obtain ⟨p, hp, fs, hfs, hf⟩ := hfss.exists_collects hf
  obtain ⟨-, hset⟩ := h p hp
  refine ⟨hfs.fits_selection (fun _ _ => hfits.fragments) (fun _ => hset.fits) hf, fun n hn => ?_⟩
  exact ⟨p, hp, Dependencies.names_of_collects hfs hf hn⟩

/-- A catalogue has the enums that the selections of a printed type name. -/
lemma mem_enums_of_prints (hs : s.IsValid) (hc : Catalogue.ofDocuments s root docs = .ok c)
    (hkeys : KeysAgree s scalars c) (h : Prints s scalars c t type parts) :
    ∀ p ∈ parts, ∀ n, Dependencies.Names s c.written n p.1 p.2 → n ∈ c.enums := by
  have hfits := Catalogue.fitsSchema_of_ofDocuments hc
  induction h with
  | operation hop _ =>
    intro p hp n hn
    obtain rfl := List.mem_singleton.1 hp
    exact Catalogue.mem_enums_of_operation hc hop hn
  | fragment hf _ =>
    intro p hp n hn
    obtain rfl := List.mem_singleton.1 hp
    exact Catalogue.mem_enums_of_fragment hc hf hn
  | field hprints hmember hfss _ _ _ _ _ ih =>
    intro p hp n hn
    obtain ⟨f, hf, rfl⟩ := List.mem_map.1 hp
    obtain ⟨-, hsuits⟩ := spec_of_prints hs hfits hkeys hprints
    obtain ⟨hselection, hnames⟩ :=
      exists_names_of_gathers hfits hsuits hfss (List.mem_filter.1 hf).1
    obtain ⟨q, hq, hn⟩ := hnames n (Dependencies.names_of_part hselection hn)
    exact ih q hq n hn

/-- A printed type refers to enums of the catalogue. -/
lemma spec_of_mem_references (hs : s.IsClosed) (hc : Catalogue.ofDocuments s root docs = .ok c)
    (hkeys : KeysAgree s scalars c) (h : Prints s scalars c t type parts) (hn : n ∈ t.references) :
    s.kind? n = some .enum ∧ n ∈ c.enums := by
  have hfits := Catalogue.fitsSchema_of_ofDocuments hc
  -- The induction is on the size of the printed type: the types of members are smaller.
  induction hsize : sizeOf t using Nat.strong_induction_on generalizing t type parts with
  | _ size ih =>
    obtain ⟨rfl, hsuits⟩ := spec_of_prints hs.toIsValid hfits hkeys h
    obtain ⟨concrete, ms, m, hmember, hm, hn⟩ := exists_isMember_of_mem_references hn
    obtain ⟨hobject, -⟩ := isMember_selection hmember
    have hsub := isSubtype_of_isMember hs.toIsValid hmember
    obtain ⟨fss, hfss⟩ := exists_gathers (s := s) hfits.acyclic concrete parts
    obtain ⟨f, hf, hkey, htype⟩ := (object_branchesOf hfits.acyclic hfss hobject).2 m hm
    by_cases hname : f.name = "__typename"
    · rw [htype, memberType, if_pos hname, references_typename] at hn
      cases hn
    · obtain ⟨g, hg, hbase, -⟩ := hsuits.exists_field hs.toIsValid hfits hsub hfss hf hname
      rw [memberType, if_neg hname] at htype
      simp only [hg] at htype
      rw [htype, TypeExpr.references_ofRef] at hn
      by_cases hcomposite : (s.get? g.type.base).any (·.isComposite)
      · have hsmaller := (TypeExpr.sizeOf_le_ofRef _ _).trans_lt (htype ▸ hmember.sizeOf_lt hm)
        refine ih _ (hsize ▸ hsmaller) (.field h hmember hfss hf hname hg hcomposite ?_) hn rfl
        rw [← htype, hkey]
        exact hm
      · obtain ⟨rfl, hkind⟩ := mem_references_leaf hcomposite hn
        refine ⟨hkind, ?_⟩
        -- What is looked up in the type that the field is written for is the same enum.
        have hsame := hs.eq_of_isSubtype hbase hkind
        rw [hsame] at hkind ⊢
        obtain ⟨hselection, hnames⟩ := exists_names_of_gathers hfits hsuits hfss hf
        obtain ⟨p, hp, hn⟩ := hnames _ (Dependencies.names_of_enum hselection hname hkind)
        exact mem_enums_of_prints hs.toIsValid hc hkeys h p hp _ hn

end Prints

end Shape

/-! ## What a catalogue declares -/

namespace TypeLibrary

variable {s : Schema} {scalars : Shape.Scalars} {root : Option Path}
  {docs : List SourceDocument} {c : Catalogue} {d : Declaration} {n : String}

lemma mem_declarations_iff :
    d ∈ (ofCatalogue s scalars c).declarations ↔
      (∃ t ∈ c.enums.filterMap s.get?, d = .ofEnum t) ∨
        (∃ t ∈ c.inputs.filterMap s.get?, d = .ofInput s scalars t) ∨
          (∃ f ∈ c.fragments.values, d = .ofFragment s scalars c f) ∨
            ∃ op ∈ c.operations,
              d = .ofOperation s scalars c op ∨ d = .ofVariables s scalars op := by
  simp only [ofCatalogue, List.mem_append, List.mem_map, List.mem_flatMap, List.mem_cons,
    List.not_mem_nil, or_false, or_assoc, eq_comm]

/-- Tells that a declaration is that of an enum or an input object with a name. -/
def IsTypeNamed (n : String) (d : Declaration) : Bool :=
  d.kind.isGiven && d.name = n

/-- As many declarations of types have a name as the enums and input objects of the catalogue. -/
lemma countP_declarations (hs : s.IsValid) (hc : Catalogue.ofDocuments s root docs = .ok c)
    (n : String) :
    (ofCatalogue s scalars c).declarations.countP (IsTypeNamed n) = c.givenNames.count n := by
  obtain ⟨given, made, hdeclarations, hgiven, hmade, hnames, -⟩ :=
    @exists_declarations s scalars root docs c (fun _ _ => hs.named) hc
  have hgivenCount : given.countP (IsTypeNamed n) = c.givenNames.count n := by
    rw [← hnames, List.count, List.countP_map]
    refine List.countP_congr fun d hd => ?_
    simp [IsTypeNamed, hgiven d hd]
  have hmadeCount : made.countP (IsTypeNamed n) = 0 := by
    refine List.countP_eq_zero.2 fun d hd h => ?_
    exact hmade d hd (Bool.and_eq_true_iff.1 h).1
  rw [hdeclarations, List.countP_append, hgivenCount, hmadeCount, Nat.add_zero]

/-- Tells that a name is that of an enum or an input object of a catalogue. -/
def Lists (s : Schema) (c : Catalogue) (n : String) : Prop :=
  (s.kind? n = some .enum ∧ n ∈ c.enums) ∨ (s.kind? n = some .inputObject ∧ n ∈ c.inputs)

/-- What a catalogue lists is declared once. -/
lemma countP_declarations_of_lists (hs : s.IsValid) (hc : Catalogue.ofDocuments s root docs = .ok c)
    (h : Lists s c n) : (ofCatalogue s scalars c).declarations.countP (IsTypeNamed n) = 1 := by
  have hmem : n ∈ c.givenNames := by
    rcases h with ⟨-, hn⟩ | ⟨-, hn⟩
    · exact List.mem_append_left _ hn
    · exact List.mem_append_right _ hn
  rw [countP_declarations hs hc, List.count_eq_one_of_mem (Catalogue.nodup_givenNames hc) hmem]

/-- A catalogue lists what the type of a variable or of a field of an input object refers to. -/
lemma lists_of_mem_references_input (hc : Catalogue.ofDocuments s root docs = .ok c) {r : TypeRef}
    {u : SchemaType} (hu : s.get? r.base = some u) (hinput : u.isInput)
    (hgiven : Catalogue.GivenType s c r.base) (hn : n ∈ (Shape.input s scalars r).references) :
    Lists s c n := by
  obtain ⟨rfl, kind, hkind, hne⟩ := Shape.mem_references_input hn
  obtain ⟨henums, hinputs⟩ := hgiven.spec hc
  rw [Schema.kind?_eq_of_get? hu, Option.some.injEq] at hkind
  subst hkind
  simp only [SchemaType.isInput, Bool.or_eq_true, decide_eq_true_eq] at hinput
  rcases hinput with (hscalar | henum) | hobject
  · exact absurd hscalar hne
  · have hkind : s.kind? r.base = some .enum := by rw [Schema.kind?_eq_of_get? hu, henum]
    exact .inl ⟨hkind, henums hkind⟩
  · have hkind : s.kind? r.base = some .inputObject := by rw [Schema.kind?_eq_of_get? hu, hobject]
    exact .inr ⟨hkind, hinputs hkind⟩

/-- A catalogue lists every name that its declarations refer to. -/
lemma lists_of_mem_references (hs : s.IsClosed) (hc : Catalogue.ofDocuments s root docs = .ok c)
    (hkeys : Shape.KeysAgree s scalars c) (hd : d ∈ (ofCatalogue s scalars c).declarations)
    (hn : n ∈ d.references) : Lists s c n := by
  rcases mem_declarations_iff.1 hd with ⟨t, -, rfl⟩ | ⟨t, ht, rfl⟩ | ⟨f, hf,
    rfl⟩ | ⟨op, hop, rfl | rfl⟩
  · have hnone : (Declaration.ofEnum t).references = [] := TypeExpr.references_literals _
    rw [hnone] at hn
    cases hn
  · obtain ⟨name, hname, ht⟩ := List.mem_filterMap.1 ht
    obtain ⟨hgiven, hkind⟩ := Catalogue.givenType_of_mem_inputs hc hname
    rw [Schema.kind?_eq_of_get? ht, Option.some.injEq] at hkind
    obtain ⟨m, hm, hn⟩ := List.mem_flatMap.1 hn
    obtain ⟨f, hf, rfl⟩ := List.mem_map.1 hm
    obtain ⟨u, hu, hinput⟩ := hs.inputField ht hkind hf
    exact lists_of_mem_references_input hc hu hinput (hgiven.inputField ht hkind hf hu) hn
  · obtain ⟨name, hf⟩ := Table.mem_values_iff.1 hf
    exact .inl (Shape.spec_of_mem_references hs hc hkeys (.fragment hf rfl) hn)
  · exact .inl (Shape.spec_of_mem_references hs hc hkeys (.operation hop rfl) hn)
  · obtain ⟨-, ⟨-, htypes⟩, -⟩ := (Catalogue.fitsSchema_of_ofDocuments hc).operations hop
    rw [Declaration.references, Declaration.ofVariables] at hn
    split at hn
    next t htype =>
      split at htype
      next => cases htype
      next =>
        cases htype
        cases hn
    next ms hmembers =>
      split at hmembers
      next =>
        cases hmembers
        obtain ⟨m, hm, hn⟩ := List.mem_flatMap.1 hn
        obtain ⟨v, hv, rfl⟩ := List.mem_map.1 hm
        obtain ⟨u, hu, hinput⟩ := htypes v hv
        exact lists_of_mem_references_input hc hu hinput
          (Catalogue.givenType_of_parameter hop hv hu) hn
      next => cases hmembers

/-- Every name that a declaration refers to is the name of an enum or of an input object, and it is
declared once as one of these, however the declaration comes to refer to it. -/
theorem countP_declarations_of_mem_references (hs : s.IsClosed)
    (hc : Catalogue.ofDocuments s root docs = .ok c) (hkeys : Shape.KeysAgree s scalars c)
    (hd : d ∈ (ofCatalogue s scalars c).declarations) (hn : n ∈ d.references) :
    (s.kind? n = some .enum ∨ s.kind? n = some .inputObject) ∧
      (ofCatalogue s scalars c).declarations.countP (IsTypeNamed n) = 1 := by
  have hlists := lists_of_mem_references hs hc hkeys hd hn
  refine ⟨?_, countP_declarations_of_lists hs.toIsValid hc hlists⟩
  rcases hlists with ⟨hkind, -⟩ | ⟨hkind, -⟩
  · exact .inl hkind
  · exact .inr hkind

/-- The types of a schema in which users have roles and can be filtered by them. -/
def roleTypes : List SchemaType :=
  [{ SchemaType.bare "Role" .enum none with enumValues := ["ADMIN", "MEMBER"] },
    { SchemaType.bare "Filter" .inputObject none with
      inputFields := [⟨"role", .named "Role", false, none⟩,
        ⟨"not", .list (.named "Filter"), false, none⟩] },
    Catalogue.sampleObject "User" [] [Catalogue.sampleField "role" "Role"],
    Catalogue.sampleObject "Query" [] [Catalogue.sampleField "user" "User"]]

/-- The schema of roles. -/
def roleSchema : Schema := Catalogue.schemaOf roleTypes

/-- A document that asks for a role through a fragment and takes a filter. -/
def roleDocument : SourceDocument where
  path := "a.graphql"
  source := "query q($f: Filter) \x7b user \x7b ...F \x7d \x7d fragment F on User \x7b role \x7d"

lemma get?_roleSchema_eq_some_iff {n : String} {t : SchemaType} :
    roleSchema.get? n = some t ↔ t ∈ roleTypes ∧ t.name = n :=
  Catalogue.get?_schemaOf_eq_some_iff (by decide)

/-- In the schema of roles nothing implements an interface, and there are no unions. -/
lemma isClosed_roleSchema : roleSchema.IsClosed := by
  have hinterfaces : ∀ t ∈ roleTypes, t.interfaces = [] := by decide
  have hunion : ∀ t ∈ roleTypes, t.kind ≠ .union := by decide
  have hroot : ∀ t ∈ roleTypes, t.name = "Query" → t.kind = .object := by decide
  have hnot : ∀ {n i : String} {t : SchemaType}, roleSchema.get? n = some t → i ∉ t.interfaces := by
    intro n i t ht
    rw [hinterfaces t (get?_roleSchema_eq_some_iff.1 ht).1]
    exact List.not_mem_nil
  have hinput : ∀ t ∈ roleTypes, ∀ f ∈ t.inputFields, ∃ u ∈ roleTypes, u.name = f.type.base ∧
      u.isInput := by decide
  refine ⟨⟨?_, ?_, ?_, ?_, ?_, ?_, ?_, ?_⟩, ?_, ?_⟩
  · exact fun ht => (get?_roleSchema_eq_some_iff.1 ht).2
  · intro kind t ht
    cases kind with
    | query =>
      have ht : roleSchema.get? "Query" = some t := ht
      exact hroot t (get?_roleSchema_eq_some_iff.1 ht).1 (get?_roleSchema_eq_some_iff.1 ht).2
    | mutation => cases ht
    | subscription => cases ht
  · exact fun ht hi => absurd hi (hnot ht)
  · exact fun ht hi => absurd hi (hnot ht)
  · exact fun ht hi => absurd hi (hnot ht)
  · exact fun ht h => absurd h (hunion _ (get?_roleSchema_eq_some_iff.1 ht).1)
  · exact fun ht h => absurd h (hunion _ (get?_roleSchema_eq_some_iff.1 ht).1)
  · exact fun ht hi => absurd hi (hnot ht)
  · exact fun ht hi => absurd hi (hnot ht)
  · intro n t f ht _ hf
    obtain ⟨u, hu, hname, hisInput⟩ := hinput t (get?_roleSchema_eq_some_iff.1 ht).1 f hf
    exact ⟨u, get?_roleSchema_eq_some_iff.2 ⟨hu, hname⟩, hisInput⟩

/-- The definitions of the document that asks for a role. -/
def roleDefinitions : List Document.Definition :=
  [.operation ⟨.query, some "q", [⟨"f", .named "Filter", none⟩], [],
      [.field none "user" [] [] [.spread "F" []]]⟩,
    .fragment ⟨"F", "User", [], [.field none "role" [] [] []]⟩]

lemma read?_roleDocument : Document.read? roleDocument.source = some roleDefinitions := by
  cbv

set_option maxRecDepth 4000 in
lemma references_roleDocument :
    (Catalogue.ofDocuments roleSchema none [roleDocument]).map (fun c =>
      (c.operations.all (fun op => Shape.areAllPlain op.selections) &&
        c.written.values.all (fun f => Shape.areAllPlain f.selections),
      (ofCatalogue roleSchema .empty c).declarations.map fun d => (d.name, d.references))) =
      .ok (true, [("Role", []), ("Filter", ["Role", "Filter"]), ("FFragment", ["Role"]),
        ("QQuery", ["Role"]), ("QQueryVariables", ["Filter"])]) := by
  rw [Catalogue.ofDocuments_singleton read?_roleDocument]
  cbv

theorem countP_declarations_of_mem_references_sample :
    ∃ c d, roleSchema.IsClosed ∧ Catalogue.ofDocuments roleSchema none [roleDocument] = .ok c ∧
      Shape.KeysAgree roleSchema .empty c ∧ d ∈ (ofCatalogue roleSchema .empty c).declarations ∧
      d.name = "QQuery" ∧
      "Role" ∈ d.references ∧
      (ofCatalogue roleSchema .empty c).declarations.countP (IsTypeNamed "Role") = 1 := by
  obtain ⟨c, hc, hpair⟩ := map_eq_ok.1 references_roleDocument
  obtain ⟨hplain, hlist⟩ := Prod.mk.inj hpair
  rw [Bool.and_eq_true, List.all_eq_true, List.all_eq_true] at hplain
  have hkeys : Shape.KeysAgree roleSchema .empty c :=
    Shape.keysAgree_of_isPlainCatalogue
      ⟨hplain.1, fun n f hf => hplain.2 f (Table.mem_values_iff.2 ⟨n, hf⟩)⟩
  have hmem : ("QQuery", ["Role"]) ∈ (ofCatalogue roleSchema .empty c).declarations.map
      fun d => (d.name, d.references) := by
    rw [hlist]
    decide
  obtain ⟨d, hd, he⟩ := List.mem_map.1 hmem
  obtain ⟨hname, hrefs⟩ := Prod.mk.inj he
  have hrole : "Role" ∈ d.references := by
    rw [hrefs]
    exact List.mem_cons_self
  obtain ⟨-, hcount⟩ := countP_declarations_of_mem_references isClosed_roleSchema hc hkeys hd hrole
  exact ⟨c, d, isClosed_roleSchema, hc, hkeys, hd, hname, hrole, hcount⟩

end TypeLibrary

end OperationGate
