import Mathlib
import OperationGate.Proofs.Schema.Named

/-!
# Extensions

What stands in a schema for a name is what the last definition of the name says, with all that
extensions of the name add to it, in their order: `get?_extendedTypes`. So it does not matter where
the members of a type are written. A part of what a definition lists may be cut off and put into
extensions anywhere in the text, as long as members of one sort stay in order, and the text gives
the same schema: `exists_parse_of_placed`.

The interfaces that an extension of an interface lists are left out (`TypeBody.added`), so they
cannot be cut off a definition: `exists_lost_interface`.
-/

namespace OperationGate

/-- Members of every sort. -/
@[ext]
structure Members where
  fields : List Field
  inputFields : List InputField
  interfaces : List String
  options : List String
  values : List String
  deriving DecidableEq

namespace Members

/-- No members. -/
def none : Members := ⟨[], [], [], [], []⟩

/-- The members of one list after those of another, sort by sort. -/
def append (a b : Members) : Members where
  fields := a.fields ++ b.fields
  inputFields := a.inputFields ++ b.inputFields
  interfaces := a.interfaces ++ b.interfaces
  options := a.options ++ b.options
  values := a.values ++ b.values

instance : Append Members := ⟨append⟩

variable (a b c : Members)

@[simp]
lemma fields_append : (a ++ b).fields = a.fields ++ b.fields := rfl

@[simp]
lemma inputFields_append : (a ++ b).inputFields = a.inputFields ++ b.inputFields := rfl

@[simp]
lemma interfaces_append : (a ++ b).interfaces = a.interfaces ++ b.interfaces := rfl

@[simp]
lemma options_append : (a ++ b).options = a.options ++ b.options := rfl

@[simp]
lemma values_append : (a ++ b).values = a.values ++ b.values := rfl

@[simp]
lemma none_append : none ++ a = a := rfl

@[simp]
lemma append_none : a ++ none = a := by
  ext1 <;> simp [none]

lemma append_assoc : a ++ b ++ c = a ++ (b ++ c) := by
  ext1 <;> simp

/-- The members of several lists, one after another. -/
def sum : List Members → Members
  | [] => none
  | a :: rest => a ++ sum rest

variable {a b c}

lemma sum_append (as bs : List Members) : sum (as ++ bs) = sum as ++ sum bs := by
  induction as with
  | nil => rfl
  | cons a rest ih => rw [List.cons_append, sum, ih, sum, append_assoc]

/-- Members that may change places with each of several lists may change places with all. -/
lemma append_sum_comm {as : List Members} (h : ∀ a ∈ as, b ++ a = a ++ b) :
    b ++ sum as = sum as ++ b := by
  induction as with
  | nil => rw [sum, append_none, none_append]
  | cons a rest ih =>
    rw [List.forall_mem_cons] at h
    rw [sum, ← append_assoc, h.1, append_assoc, ih h.2, append_assoc]

end Members

/-- The members of a type. -/
def SchemaType.listed (t : SchemaType) : Members :=
  ⟨t.fields, t.inputFields, t.interfaces, t.members, t.enumValues⟩

namespace TypeBody

/-- The kind of a definition. -/
def kind : TypeBody → TypeKind
  | .scalar => .scalar
  | .object .. => .object
  | .interface .. => .interface
  | .union _ => .union
  | .enum _ => .enum
  | .input _ => .inputObject

/-- The members that a definition or an extension lists. -/
def listed : TypeBody → Members
  | .scalar => .none
  | .object interfaces fields => { Members.none with interfaces := interfaces, fields := fields }
  | .interface interfaces fields => { Members.none with interfaces := interfaces, fields := fields }
  | .union options => { Members.none with options := options }
  | .enum values => { Members.none with values := values }
  | .input fields => { Members.none with inputFields := fields }

/-- The members that an extension adds: all that it lists, but no interfaces to an interface. -/
def added (b : TypeBody) : Members :=
  { b.listed with interfaces := if b.kind = .interface then [] else b.listed.interfaces }

/-- Extensions whose members stay in order in whichever order they come may come in either. -/
lemma added_append_comm {a b : TypeBody} (h : a.listed ++ b.listed = b.listed ++ a.listed) :
    a.added ++ b.added = b.added ++ a.added := by
  obtain ⟨hfields, hinputFields, hinterfaces, hoptions, hvalues⟩ := Members.ext_iff.1 h
  have hadded : (a.added ++ b.added).interfaces = (b.added ++ a.added).interfaces := by
    simp only [Members.interfaces_append, added] at hinterfaces ⊢
    split <;> split <;> simp [hinterfaces]
  exact Members.ext_iff.2 ⟨hfields, hinputFields, hadded, hoptions, hvalues⟩

/-- An extension adds all that it lists, if it is not an interface that lists interfaces. -/
lemma added_eq_listed {b : TypeBody} (h : b.kind = .interface → b.listed.interfaces = []) :
    b.added = b.listed := by
  rw [added]
  split
  next hkind => rw [← h hkind]
  next => rfl

/-- Tells that a definition is cut into a part that is kept and pieces, all of its kind: what they
list, one after another, is what it lists. -/
structure IsCut (whole kept : TypeBody) (pieces : List TypeBody) : Prop where
  kind_kept : kept.kind = whole.kind
  kind_piece {p : TypeBody} : p ∈ pieces → p.kind = whole.kind
  listed : kept.listed ++ Members.sum (pieces.map listed) = whole.listed

end TypeBody

namespace Schema

/-! ## Types with their extensions -/

lemma typeOf_eq (name : String) (description : Option String) (body : TypeBody) :
    typeOf name description body =
    ⟨name, body.kind, description, body.listed.fields, body.listed.inputFields,
      body.listed.interfaces, body.listed.options, body.listed.values⟩ := by
  cases body <;> rfl

lemma extended_eq (t : SchemaType) (body : TypeBody) :
    extended t body = ⟨t.name, t.kind, t.description, t.fields ++ body.added.fields,
      t.inputFields ++ body.added.inputFields, t.interfaces ++ body.added.interfaces,
      t.members ++ body.added.options, t.enumValues ++ body.added.values⟩ := by
  cases body <;> simp [extended, TypeBody.added, TypeBody.listed, TypeBody.kind, Members.none]

/-- What extensions make of a type depends on what they add together. -/
lemma foldl_extended (t : SchemaType) (bodies : List TypeBody) :
    bodies.foldl extended t = ⟨t.name, t.kind, t.description,
      t.fields ++ (Members.sum (bodies.map TypeBody.added)).fields,
      t.inputFields ++ (Members.sum (bodies.map TypeBody.added)).inputFields,
      t.interfaces ++ (Members.sum (bodies.map TypeBody.added)).interfaces,
      t.members ++ (Members.sum (bodies.map TypeBody.added)).options,
      t.enumValues ++ (Members.sum (bodies.map TypeBody.added)).values⟩ := by
  induction bodies generalizing t with
  | nil => simp [Members.sum, Members.none]
  | cons b rest ih => simp [ih, extended_eq, Members.sum]

/-- What a definition adds to a type of a name. -/
def extensionOf? (n : String) : SchemaDefinition → Option TypeBody
  | .extension m body => if m = n then some body else none
  | _ => none

/-- The extensions of a type that definitions hold. -/
def extensionsOf (n : String) (ds : List SchemaDefinition) : List TypeBody :=
  ds.filterMap (extensionOf? n)

lemma extensionsOf_cons (n : String) (d : SchemaDefinition) (ds : List SchemaDefinition) :
    extensionsOf n (d :: ds) = (extensionOf? n d).toList ++ extensionsOf n ds := by
  rw [extensionsOf, List.filterMap_cons]
  cases extensionOf? n d <;> rfl

/-- The type that a definition describes, under its name. -/
def declared? : SchemaDefinition → Option (String × SchemaType)
  | .type name description body => some (name, typeOf name description body)
  | _ => none

lemma declaredTypes_eq (ds : List SchemaDefinition) :
    declaredTypes ds = .ofList (ds.filterMap declared?) := by
  rw [declaredTypes, Table.ofList, List.foldl_filterMap]
  congr 1
  funext types d
  cases d <;> rfl

/-- The root types that a definition names. -/
def roots? : SchemaDefinition → Option (Option String × Option String × Option String)
  | .roots q m s => some (q, m, s)
  | _ => none

lemma declaredRoots?_eq (ds : List SchemaDefinition) :
    declaredRoots? ds = (ds.filterMap roots?).foldl (fun _ r => some r) none := by
  rw [declaredRoots?, List.foldl_filterMap]
  congr 1
  funext r d
  cases d <;> rfl

/-- A type with its extensions: what was declared, with what all extensions of the name add in their
order. -/
theorem get?_extendedTypes (ds : List SchemaDefinition) (types : Table SchemaType) (n : String) :
    (extendedTypes ds types).get? n = (types.get? n).map ((extensionsOf n ds).foldl extended) := by
  induction ds generalizing types with
  | nil => simp [extendedTypes, extensionsOf]
  | cons d rest ih =>
    cases d with
    | extension m body =>
      have hstep : extendedTypes (.extension m body :: rest) types =
          extendedTypes rest (types.modify m fun t => extended t body) := rfl
      rw [hstep, ih, Table.modify, Table.get?_map, Option.map_map, extensionsOf_cons, extensionOf?]
      by_cases hm : m = n
      · simp [hm, Function.comp_def]
      · simp [hm, Ne.symm hm, Function.comp_def]
    | roots q m s => exact ih types
    | type name description body => exact ih types
    | directive name => exact ih types

/-- Schemas with the same roots and, name by name, the same types are the same. -/
lemma ofDefinitions_congr {ds ds' : List SchemaDefinition}
    (hroots : declaredRoots? ds = declaredRoots? ds')
    (htypes : ∀ n, (extendedTypes ds (declaredTypes ds)).get? n =
      (extendedTypes ds' (declaredTypes ds')).get? n) :
    ofDefinitions ds = ofDefinitions ds' := by
  rw [ofDefinitions, ofDefinitions, Table.eq_of_get?_eq htypes, hroots]

/-! ## Extensions that are put into a text -/

/-- Tells that extensions of a type are put between the definitions of a text, in their order. One
that comes behind another extension of the type leaves the members of each sort in order. -/
inductive Placed (n : String) :
    List TypeBody → List SchemaDefinition → List SchemaDefinition → Prop where
  | nil : Placed n [] [] []
  | keep {pieces : List TypeBody} {ds ds' : List SchemaDefinition} (d : SchemaDefinition) :
    (∀ b, d = .extension n b → ∀ p ∈ pieces, p.listed ++ b.listed = b.listed ++ p.listed) →
      Placed n pieces ds ds' → Placed n pieces (d :: ds) (d :: ds')
  | place {pieces : List TypeBody} {ds ds' : List SchemaDefinition} (p : TypeBody) :
    Placed n pieces ds ds' → Placed n (p :: pieces) ds (.extension n p :: ds')

namespace Placed

variable {n : String} {pieces : List TypeBody} {ds ds' : List SchemaDefinition}

/-- Whatever does not read extensions of the type reads the same. -/
lemma filterMap_eq {α : Type} (h : Placed n pieces ds ds') {f : SchemaDefinition → Option α}
    (hf : ∀ b, f (.extension n b) = none) : ds'.filterMap f = ds.filterMap f := by
  induction h with
  | nil => rfl
  | keep d _ _ ih => rw [List.filterMap_cons, List.filterMap_cons, ih]
  | place p _ ih => rw [List.filterMap_cons_none (hf p), ih]

/-- All extensions of the type add what the pieces add and then what was added before. -/
lemma sum_added (h : Placed n pieces ds ds') :
    Members.sum ((extensionsOf n ds').map TypeBody.added) =
      Members.sum (pieces.map TypeBody.added) ++
      Members.sum ((extensionsOf n ds).map TypeBody.added) := by
  induction h with
  | nil => rfl
  | @keep pieces ds ds' d hd _ ih =>
    rw [extensionsOf_cons, extensionsOf_cons, List.map_append, List.map_append, Members.sum_append,
      Members.sum_append, ih, ← Members.append_assoc, ← Members.append_assoc]
    congr 1
    cases hb : extensionOf? n d with
    | none => exact (Members.append_none _).symm
    | some b =>
      have he : d = .extension n b := by
        cases d <;> simp_all [extensionOf?]
      have hcomm : ∀ a ∈ pieces.map TypeBody.added, b.added ++ a = a ++ b.added := by
        intro a ha
        obtain ⟨p, hp, rfl⟩ := List.mem_map.1 ha
        exact (TypeBody.added_append_comm (hd b he p hp)).symm
      simpa [Members.sum] using Members.append_sum_comm hcomm
  | place p _ ih =>
    have hself : extensionOf? n (.extension n p) = some p := if_pos rfl
    rw [extensionsOf_cons, hself, Option.toList_some, List.map_append, Members.sum_append, ih]
    simp [Members.sum, Members.append_assoc]

end Placed

/-! ## Definitions that are cut -/

section Cut

variable {name : String} {description : Option String} {whole kept : TypeBody}
  {pieces : List TypeBody}

/-- The pieces make the part that is kept the whole again, if they are not interfaces that list
interfaces. -/
lemma foldl_extended_kept (name : String) (description : Option String)
    (hcut : whole.IsCut kept pieces)
    (hinterfaces : whole.kind = .interface → ∀ p ∈ pieces, p.listed.interfaces = []) :
    pieces.foldl extended (typeOf name description kept) = typeOf name description whole := by
  have hadded : pieces.map TypeBody.added = pieces.map TypeBody.listed :=
    List.map_congr_left fun p hp => TypeBody.added_eq_listed fun hkind =>
      hinterfaces ((hcut.kind_piece hp).symm.trans hkind) p hp
  rw [foldl_extended, hadded, typeOf_eq, typeOf_eq, ← hcut.listed, hcut.kind_kept]
  rfl

variable {before after : List SchemaDefinition}

lemma declaredTypes_append_type (body : TypeBody) :
    declaredTypes (before ++ .type name description body :: after) =
      (after.filterMap declared?).foldl (fun t e => t.insert e.1 e.2)
        ((declaredTypes before).insert name (typeOf name description body)) := by
  rw [declaredTypes_eq, declaredTypes_eq, List.filterMap_append, Table.ofList, List.foldl_append]
  rfl

/-- The type of a definition that no later one replaces. -/
lemma get?_declaredTypes_self (hlast : ∀ d b, .type name d b ∉ after) :
    (declaredTypes (before ++ .type name description whole :: after)).get? name =
      some (typeOf name description whole) := by
  have hnot : name ∉ (after.filterMap declared?).map (·.1) := by
    intro hmem
    obtain ⟨e, he, rfl⟩ := List.mem_map.1 hmem
    obtain ⟨d, hd, he⟩ := List.mem_filterMap.1 he
    cases d with
    | type n description body =>
      cases he
      exact hlast _ _ hd
    | roots => cases he
    | extension => cases he
    | directive => cases he
  rw [declaredTypes_append_type, Table.get?_foldl_insert_of_not_mem hnot,
    Table.get?_insert, if_pos rfl]

/-- What a definition says does not matter to other names. -/
lemma get?_declaredTypes_of_ne {n : String} (hne : name ≠ n) (body : TypeBody) :
    (declaredTypes (before ++ .type name description whole :: after)).get? n =
      (declaredTypes (before ++ .type name description body :: after)).get? n := by
  rw [declaredTypes_append_type, declaredTypes_append_type]
  exact Table.get?_foldl_insert_congr
    (by rw [Table.get?_insert, Table.get?_insert, if_neg hne, if_neg hne])

/-- A definition may be cut, and the pieces put into extensions of the type. -/
lemma ofDefinitions_of_placed {ds : List SchemaDefinition} (hcut : whole.IsCut kept pieces)
    (hplaced : Placed name pieces (before ++ .type name description kept :: after) ds)
    (hlast : ∀ d b, .type name d b ∉ after)
    (hinterfaces : whole.kind = .interface → ∀ p ∈ pieces, p.listed.interfaces = []) :
    ofDefinitions (before ++ .type name description whole :: after) = ofDefinitions ds := by
  have hentries : declaredTypes ds =
      declaredTypes (before ++ .type name description kept :: after) := by
    rw [declaredTypes_eq, declaredTypes_eq, hplaced.filterMap_eq fun _ => rfl]
  have hextensions : ∀ m, extensionsOf m (before ++ .type name description whole :: after) =
      extensionsOf m (before ++ .type name description kept :: after) := by
    intro m
    rw [extensionsOf, extensionsOf, List.filterMap_append, List.filterMap_append,
      List.filterMap_cons_none rfl, List.filterMap_cons_none rfl]
  refine ofDefinitions_congr ?_ fun n => ?_
  · rw [declaredRoots?_eq, declaredRoots?_eq, hplaced.filterMap_eq fun _ => rfl,
      List.filterMap_append, List.filterMap_append, List.filterMap_cons_none rfl,
      List.filterMap_cons_none rfl]
  · rw [get?_extendedTypes, get?_extendedTypes, hentries, hextensions]
    by_cases hn : name = n
    · subst hn
      rw [get?_declaredTypes_self hlast, get?_declaredTypes_self hlast, Option.map_some,
        Option.map_some, ← foldl_extended_kept name description hcut hinterfaces,
        ← List.foldl_append, foldl_extended, foldl_extended,
        List.map_append, Members.sum_append, hplaced.sum_added]
    · have hother : ∀ b, extensionOf? n (.extension name b) = none := fun _ => if_neg hn
      rw [get?_declaredTypes_of_ne hn kept, extensionsOf, extensionsOf, hplaced.filterMap_eq hother]

/-- Of a text and one in which a type that it defines is cut, with the pieces put into extensions
anywhere, both are schemas, and the same. -/
theorem exists_parse_of_placed {text text' : String} {ds : List SchemaDefinition}
    (hread : Parser.read? text = some (before ++ .type name description whole :: after))
    (hread' : Parser.read? text' = some ds)
    (hcut : whole.IsCut kept pieces)
    (hplaced : Placed name pieces (before ++ .type name description kept :: after) ds)
    (hlast : ∀ d b, .type name d b ∉ after)
    (hinterfaces : whole.kind = .interface → ∀ p ∈ pieces, p.listed.interfaces = []) :
    ∃ s, parse text = .ok s ∧ parse text' = .ok s := by
  refine ⟨ofDefinitions ds, ?_, ?_⟩
  · rw [parse, hread, ← ofDefinitions_of_placed hcut hplaced hlast hinterfaces]
  · rw [parse, hread']

end Cut

/-- A field of integers. -/
def sampleField (name : String) : Field :=
  ⟨name, .named "Int", [], none⟩

/-- The definition of an interface with a field. -/
def sampleNode : SchemaDefinition :=
  .type "N" none (.interface [] [sampleField "a"])

lemma placed_sample (kept piece : TypeBody) :
    Placed "A" [piece] ([sampleNode] ++ .type "A" none kept :: [])
      [sampleNode, .extension "A" piece, .type "A" none kept] :=
  .keep _ (by simp [sampleNode]) (.place _ (.keep _ (by simp) .nil))

/-- The interface and a field that are cut off an object type may stand in front of it. -/
theorem exists_parse_of_placed_sample :
    ∃ s, parse "interface N { a: Int } type A implements N { a: Int b: Int }" = .ok s ∧
      parse "interface N { a: Int } extend type A implements N { b: Int } type A { a: Int }" =
        .ok s := by
  have hread : Parser.read? "interface N { a: Int } type A implements N { a: Int b: Int }" =
      some ([sampleNode] ++
        .type "A" none (.object ["N"] [sampleField "a", sampleField "b"]) :: []) := by cbv
  have hread' : Parser.read?
      "interface N { a: Int } extend type A implements N { b: Int } type A { a: Int }" =
      some [sampleNode, .extension "A" (.object ["N"] [sampleField "b"]),
        .type "A" none (.object [] [sampleField "a"])] := by cbv
  have hcut : (TypeBody.object ["N"] [sampleField "a", sampleField "b"]).IsCut
      (.object [] [sampleField "a"])
      [.object ["N"] [sampleField "b"]] := ⟨rfl, by simp [TypeBody.kind], rfl⟩
  exact exists_parse_of_placed hread hread' hcut (placed_sample _ _) (by simp)
    (by simp [TypeBody.kind])

/-- The interface that is cut off an interface is lost. -/
theorem exists_lost_interface :
    ∃ (text text' : String) (whole kept piece : TypeBody) (ds : List SchemaDefinition),
      Parser.read? text = some ([sampleNode] ++ .type "A" none whole :: []) ∧
      Parser.read? text' = some ds ∧
      whole.IsCut kept [piece] ∧ Placed "A" [piece] ([sampleNode] ++ .type "A" none kept :: []) ds ∧
      ∃ s s', parse text = .ok s ∧ parse text' = .ok s' ∧
        (s.get? "A").map (·.interfaces) = some ["N"] ∧
        (s'.get? "A").map (·.interfaces) = some [] := by
  have hread : Parser.read? "interface N { a: Int } interface A implements N { a: Int b: Int }" =
      some ([sampleNode] ++
        .type "A" none (.interface ["N"] [sampleField "a", sampleField "b"]) :: []) := by cbv
  have hread' : Parser.read?
      "interface N { a: Int } extend interface A implements N { b: Int } interface A { a: Int }" =
      some [sampleNode, .extension "A" (.interface ["N"] [sampleField "b"]),
        .type "A" none (.interface [] [sampleField "a"])] := by cbv
  have hcut : (TypeBody.interface ["N"] [sampleField "a", sampleField "b"]).IsCut
      (.interface [] [sampleField "a"])
      [.interface ["N"] [sampleField "b"]] := ⟨rfl, by simp [TypeBody.kind], rfl⟩
  refine ⟨_, _, _, _, _, _, hread, hread', hcut, placed_sample _ _, _, _, by rw [parse, hread],
    by rw [parse, hread'], ?_, ?_⟩
  · decide
  · decide

end Schema

end OperationGate
