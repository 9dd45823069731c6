import OperationGate.Declaration.Basic
import OperationGate.Proofs.Declaration.Branches
import OperationGate.Proofs.Schema.Subtype
import OperationGate.Proofs.Selection.Once

/-!
# Printed shapes describe what is collected

The type that is printed for an operation or a fragment has a member for every object type that a
value can have, and so has the type of every field inside (`Shape.Prints`). In a valid schema, and
where no key stands for two fields, that member has just the keys of the fields that are collected
for the object type, in the order in which they are first met, and the type of each key is that of
the field: `Shape.exists_member_of_prints`.
-/

namespace OperationGate

namespace TypeExpr

mutual

/-- What is printed around a type tells which type it is around. -/
lemma ofRef_injective {u v : TypeExpr} {t : TypeRef} (h : ofRef u t = ofRef v t) : u = v := by
  cases t with
  | named n =>
    rw [ofRef, ofRef, nullable.injEq] at h
    exact h
  | list t =>
    rw [ofRef, ofRef, nullable.injEq, array.injEq] at h
    exact ofRef_injective h
  | nonNull t =>
    rw [ofRef, ofRef] at h
    exact ofMarked_injective h

lemma ofMarked_injective {u v : TypeExpr} {t : TypeRef} (h : ofMarked u t = ofMarked v t) :
    u = v := by
  cases t with
  | named n => exact h
  | list t =>
    rw [ofMarked, ofMarked, array.injEq] at h
    exact ofRef_injective h
  | nonNull t =>
    rw [ofMarked, ofMarked] at h
    exact ofMarked_injective h

end

end TypeExpr

namespace Shape

variable {s : Schema} {scalars : Scalars} {c : Catalogue}

/-! ## Shapes of branches -/

/-- The type of a member: that of a field with branches inside it. -/
def memberType (s : Schema) (scalars : Scalars) (concrete : String) (e : Branch.Entry) : TypeExpr :=
  if e.name = "__typename" then typename s concrete
  else match s.field? concrete e.name with
    | none => .basic "unknown"
    | some f => .ofRef (leaf s scalars f.type.base e.inside) f.type

lemma object_eq (concrete : String) (bs : List Branch) :
    object s scalars concrete bs =
      .record ((Branch.entries (fun c => s.applies c concrete) bs).map fun e =>
        (e.key, memberType s scalars concrete e)) := by
  rw [object]
  exact congrArg TypeExpr.record
    (@List.attach_map_val _ _ _ fun e : Branch.Entry => (e.key, memberType s scalars concrete e))

/-- Tells that a shape has one alternative for each possible type. -/
def Splits (s : Schema) (type : String) (bs : List Branch) : Prop :=
  (s.get? type).any (·.isAbstract) ∧ bs.any (narrows type)

lemma selection_of_splits {type : String} {bs : List Branch} (h : Splits s type bs) :
    selection s scalars type bs =
    .oneOf ((s.possibleTypes type).map fun c => object s scalars c bs) := by
  rw [selection, if_pos (by simpa [Splits] using h)]

lemma selection_of_not_splits (scalars : Scalars) {type : String} {bs : List Branch}
    (h : ¬Splits s type bs) : selection s scalars type bs = object s scalars type bs := by
  rw [selection, if_neg (by simpa [Splits] using h)]

/-- What a field of a composite type yields is the shape of its selections. -/
lemma leaf_of_isComposite {type : String} {bs : List Branch}
    (h : (s.get? type).any (·.isComposite)) :
    leaf s scalars type bs = selection s scalars type bs := by
  rw [leaf, Schema.kind?]
  cases ht : s.get? type with
  | none => simp [ht] at h
  | some t =>
    rw [ht, Option.any_some] at h
    cases hkind : t.kind <;> simp_all [SchemaType.isComposite, SchemaType.isLeaf]

/-- What a field of any other type yields has nothing inside. -/
lemma leaf_of_not_isComposite {type : String} {bs : List Branch}
    (h : ¬(s.get? type).any (·.isComposite)) : leaf s scalars type bs = leaf s scalars type [] := by
  rw [leaf, leaf, Schema.kind?]
  cases ht : s.get? type with
  | none => rfl
  | some t =>
    rw [ht, Option.any_some] at h
    cases hkind : t.kind <;> simp_all [SchemaType.isComposite, SchemaType.isLeaf]

lemma narrows_within (type : String) (condition : Option String) (inside : List Branch) :
    narrows type (.within condition inside) =
    (condition.any (· ≠ type) || inside.any (narrows type)) := by
  rw [narrows]
  simp

/-! ## Members -/

/-- The member of a printed type that is for values of a type: one of several alternatives, which
stand in the order of the possible types, or the whole of a type that has none. -/
inductive IsMember (s : Schema) (type : String) :
    TypeExpr → String → List (String × TypeExpr) → Prop where
  | whole (ms : List (String × TypeExpr)) : IsMember s type (.record ms) type ms
  | alternative {ts : List TypeExpr} {concrete : String} {ms : List (String × TypeExpr)} :
    (concrete, .record ms) ∈ (s.possibleTypes type).zip ts → IsMember s type (.oneOf ts) concrete ms

/-- The member of a shape for a type is the record that the branches yield for it. -/
lemma isMember_selection {type concrete : String} {bs : List Branch} {ms : List (String × TypeExpr)}
    (h : IsMember s type (selection s scalars type bs) concrete ms) :
    object s scalars concrete bs = .record ms ∧
      (concrete ∈ s.possibleTypes type ∨ concrete = type) := by
  by_cases hsplits : Splits s type bs
  · rw [selection_of_splits hsplits] at h
    obtain _ | h := h
    rw [← List.map_prod_left_eq_zip] at h
    obtain ⟨c, hc, he⟩ := List.mem_map.1 h
    obtain ⟨hconcrete, hobject⟩ := Prod.mk.inj he
    subst hconcrete
    exact ⟨hobject, .inl hc⟩
  · rw [selection_of_not_splits _ hsplits] at h
    generalize ht : object s scalars type bs = t at h
    obtain _ | _ := h
    · exact ⟨ht, .inr rfl⟩
    · rw [object_eq] at ht
      cases ht

/-- The member of a shape for a type is for values that the type of the shape has. -/
lemma isSubtype_of_isMember (hs : s.IsValid) {type concrete : String} {bs : List Branch}
    {ms : List (String × TypeExpr)}
    (h : IsMember s type (selection s scalars type bs) concrete ms) :
    s.IsSubtype concrete type := by
  rcases (isMember_selection h).2 with hpossible | rfl
  · exact ((Schema.mem_possibleTypes_iff hs).1 hpossible).2
  · exact .refl _

/-! ## Printed types -/

open Collected

/-- The branches of selection sets that are put together. -/
def branchesOf (c : Catalogue) (parts : List (String × List Selection)) : List Branch :=
  Branch.ofSelections c.fragments (parts.flatMap (·.2))

/-- A type is printed for selection sets that are put together, each with the type that it is
written for: for the selection set of an operation or of a fragment, and inside a member of a
printed type for all that is selected under one key. -/
inductive Prints (s : Schema) (scalars : Scalars) (c : Catalogue) :
    TypeExpr → String → List (String × List Selection) → Prop where
  | operation {op : Operation} {t : TypeExpr} :
    op ∈ c.operations → (Declaration.ofOperation s scalars c op).body = .type t →
      Prints s scalars c t op.rootType [(op.rootType, op.selections)]
  | fragment {name : String} {f : Fragment} {t : TypeExpr} :
    c.fragments.get? name = some f → (Declaration.ofFragment s scalars c f).body = .type t →
      Prints s scalars c t f.condition [(f.condition, f.selections)]
  | field {t u : TypeExpr} {type concrete : String} {parts : List (String × List Selection)}
    {ms : List (String × TypeExpr)} {fss : List (List Collected)} {f : Collected} {g : Field} :
    Prints s scalars c t type parts → IsMember s type t concrete ms →
      Gathers s c.written concrete parts fss →
      f ∈ fss.flatten → f.name ≠ "__typename" → s.field? concrete f.name = some g →
      (s.get? g.type.base).any (·.isComposite) → (f.key, .ofRef u g.type) ∈ ms →
      Prints s scalars c u g.type.base ((fss.flatten.filter fun f' => f'.key = f.key).map (part s))

/-- Tells that no key of a member stands for two fields. -/
def KeysAgree (s : Schema) (scalars : Scalars) (c : Catalogue) : Prop :=
  ∀ t type parts concrete ms fss, Prints s scalars c t type parts → IsMember s type t concrete ms →
    Gathers s c.written concrete parts fss → ∀ f ∈ fss.flatten, ∀ g ∈ fss.flatten, f.key = g.key →
      f.name = g.name

/-- The fields of the branches are those that are gathered from the selection sets. -/
lemma allFields_branchesOf (hacyclic : Cycles.IsAcyclic c.written) {concrete : String}
    {parts : List (String × List Selection)} {fss : List (List Collected)}
    (h : Gathers s c.written concrete parts fss) :
    Branch.allFields (fun condition => s.applies condition concrete) (branchesOf c parts) =
      fss.flatten.map (Branch.entryOf c.fragments) := by
  induction h with
  | nil => rfl
  | @cons p fs parts fss hp _ ih =>
    rw [branchesOf] at ih
    rw [branchesOf, List.flatMap_cons, Branch.ofSelections_append, Branch.allFields_append, ih,
      Branch.allFields_ofSelections hacyclic hp, List.flatten_cons, List.map_append]

/-- What the members of a record are, field by field. -/
lemma object_branchesOf (hacyclic : Cycles.IsAcyclic c.written) {concrete : String}
    {parts : List (String × List Selection)} {fss : List (List Collected)}
    (h : Gathers s c.written concrete parts fss) {ms : List (String × TypeExpr)}
    (hms : object s scalars concrete (branchesOf c parts) = .record ms) :
    ms.map (·.1) = (fss.flatten.map (·.key)).eraseDups ∧
      ∀ m ∈ ms, ∃ f ∈ fss.flatten, f.key = m.1 ∧
        m.2 = memberType s scalars concrete
          ⟨f.key, f.name, branchesOf c
            ((fss.flatten.filter fun f' => f'.key = f.key).map (part s))⟩ := by
  rw [object_eq, TypeExpr.record.injEq] at hms
  have hentries : Branch.entries (fun c => s.applies c concrete) (branchesOf c parts) =
      Branch.gathered (fss.flatten.map (Branch.entryOf c.fragments)) := by
    rw [Branch.entries, allFields_branchesOf hacyclic h]
    rfl
  rw [hentries] at hms
  subst hms
  constructor
  · rw [List.map_map]
    show (Branch.gathered _).map (·.key) = _
    rw [Branch.map_key_gathered, List.map_map]
    rfl
  · intro m hm
    obtain ⟨e, he, rfl⟩ := List.mem_map.1 hm
    obtain ⟨hinside, first, hfirst, hname⟩ := Branch.spec_of_mem_gathered he
    obtain ⟨f, hf, rfl⟩ := List.mem_map.1 (List.mem_of_find?_eq_some hfirst)
    have hfound := List.find?_some hfirst
    have hkey : f.key = e.key := of_decide_eq_true hfound
    have hbranches : e.inside =
        branchesOf c ((fss.flatten.filter fun f' => f'.key = f.key).map (part s)) := by
      rw [hinside, hkey, branchesOf, List.flatMap_map, List.filter_map, List.flatMap_map]
      exact List.flatMap_assoc.symm
    have hname : f.name = e.name := hname.symm
    refine ⟨f, hf, hkey, ?_⟩
    rw [← hbranches, hkey, hname]

/-! ## What is inside a printed type -/

/-- Tells that selection sets are written for types that values of a type have, and fit them. -/
def SuitsAll (s : Schema) (c : Catalogue) (type : String) (parts : List (String × List Selection)) :
    Prop :=
  ∀ p ∈ parts, s.IsSubtype type p.1 ∧ Validity.FitsSet s c.written p.1 p.2

/-- A field that is gathered is selected on a type that the values have, and fits it. -/
lemma SuitsAll.of_gathers (hs : s.IsValid) (hc : c.FitsSchema s) {type concrete : String}
    {parts : List (String × List Selection)} (h : SuitsAll s c type parts)
    (hsub : s.IsSubtype concrete type) {fss : List (List Collected)}
    (hfss : Gathers s c.written concrete parts fss) {f : Collected} (hf : f ∈ fss.flatten) :
    s.IsSubtype concrete f.parent ∧ f.Fits s c.written := by
  obtain ⟨p, hp, fs, hfs, hf⟩ := hfss.exists_collects hf
  obtain ⟨hpart, hfits⟩ := h p hp
  refine ⟨?_, hfs.fits (fun _ _ => hc.fragments) (fun _ => hfits.fits) hf⟩
  rcases hfs.parent_eq_or_applies hf with hparent | happlies
  · exact hparent ▸ hsub.trans hs hpart
  · exact Schema.isSubtype_of_applies hs happlies

/-- A field that is gathered is a field of the type whose values it is gathered for, and its
selections are written for types that the values of the field have. -/
lemma SuitsAll.exists_field (hs : s.IsValid) (hc : c.FitsSchema s) {type concrete : String}
    {parts : List (String × List Selection)} (h : SuitsAll s c type parts)
    (hsub : s.IsSubtype concrete type) {fss : List (List Collected)}
    (hfss : Gathers s c.written concrete parts fss) {f : Collected} (hf : f ∈ fss.flatten)
    (hname : f.name ≠ "__typename") :
    ∃ g, s.field? concrete f.name = some g ∧ s.IsSubtype g.type.base (part s f).1 ∧
      Validity.FitsSet s c.written (part s f).1 (part s f).2 := by
  obtain ⟨hparent, hfits⟩ := h.of_gathers hs hc hsub hfss hf
  obtain ⟨hname', -⟩ | ⟨-, g', hg', hset⟩ := hfits
  · exact absurd hname' hname
  · obtain ⟨g, hg, hcovariant⟩ := Schema.exists_field_of_isSubtype hs hparent hg'
    have hpart : part s f = (g'.type.base, f.selections) := by rw [part, hg', Option.elim_some]
    exact ⟨g, hg, by rw [hpart]; exact hcovariant.base, by rw [hpart]; exact hset⟩

/-- A printed type is the shape of its branches, and its selection sets suit its type. -/
lemma spec_of_prints (hs : s.IsValid) (hc : c.FitsSchema s) (hkeys : KeysAgree s scalars c)
    {t : TypeExpr} {type : String} {parts : List (String × List Selection)}
    (h : Prints s scalars c t type parts) :
    t = selection s scalars type (branchesOf c parts) ∧ SuitsAll s c type parts := by
  induction h with
  | @operation op t hop hbody =>
    obtain ⟨⟨r, hr, hname⟩, -, hfits⟩ := hc.operations hop
    have hobject := hs.root hr
    have hget : s.get? op.rootType = some r := by
      obtain ⟨n, -, hn⟩ := Option.bind_eq_some_iff.1 hr
      rw [← hname, hs.named hn, hn]
    have hsplits : ¬Splits s op.rootType (branchesOf c [(op.rootType, op.selections)]) := by
      simp [Splits, hget, SchemaType.isAbstract, hobject]
    refine ⟨?_, by simpa [SuitsAll] using ⟨.refl _, hfits⟩⟩
    rw [selection_of_not_splits _ hsplits, branchesOf, List.flatMap_singleton]
    exact (DeclarationBody.type.inj hbody).symm
  | @fragment name f t hf hbody =>
    have hfits := hc.fragments (f := f.toWrittenFragment)
      (by rw [Catalogue.get?_written, hf, Option.map_some])
    refine ⟨?_, by simpa [SuitsAll] using ⟨.refl _, hfits.selections⟩⟩
    rw [branchesOf, List.flatMap_singleton]
    exact (DeclarationBody.type.inj hbody).symm
  | @field t u type concrete parts ms fss f g hprints hmember hfss hf hname hg hcomposite hms ih =>
    obtain ⟨rfl, hsuits⟩ := ih
    obtain ⟨hobject, -⟩ := isMember_selection hmember
    have hsub := isSubtype_of_isMember hs hmember
    have hagree := hkeys _ _ _ _ _ _ hprints hmember hfss
    constructor
    · obtain ⟨f', hf', hkey, htype⟩ := (object_branchesOf hc.acyclic hfss hobject).2 _ hms
      have hname' : f'.name = f.name := hagree f' hf' f hf hkey
      rw [memberType, hname', if_neg hname, hg, hkey] at htype
      rw [TypeExpr.ofRef_injective htype, leaf_of_isComposite hcomposite]
    · intro p hp
      obtain ⟨f', hf', rfl⟩ := List.mem_map.1 hp
      obtain ⟨hf', hkey⟩ := List.mem_filter.1 hf'
      have hname' : f'.name = f.name := hagree f' hf' f hf (of_decide_eq_true hkey)
      obtain ⟨g', hg', h⟩ := hsuits.exists_field hs hc hsub hfss hf' (hname' ▸ hname)
      rw [hname', hg, Option.some.injEq] at hg'
      exact hg' ▸ h

/-! ## Shapes that are not split -/

/-- A condition on a type itself applies to all possible types. -/
lemma applies_of_mem_possibleTypes {type concrete : String} (h : concrete ∈ s.possibleTypes type) :
    s.applies type concrete := by
  simp [Schema.applies, h]

/-- A type that is not abstract is its only possible type. -/
lemma eq_of_mem_possibleTypes (hs : s.IsValid) {type concrete : String}
    (habstract : ¬(s.get? type).any (·.isAbstract)) (h : concrete ∈ s.possibleTypes type) :
    concrete = type := by
  rw [Schema.possibleTypes] at h
  cases ht : s.get? type with
  | none => simp [ht] at h
  | some t =>
    rw [ht, Option.any_some, SchemaType.isAbstract] at habstract
    rw [ht] at h
    cases hkind : t.kind <;> simp_all [hs.named ht]

/-- Where selections do not narrow a type, the same fields are collected for the type and for each
of the possible types. -/
lemma collects_of_not_narrows (hacyclic : Cycles.IsAcyclic c.written)
    {type concrete parent : String} (hconcrete : concrete ∈ s.possibleTypes type)
    {selections : List Selection} {fs : List Collected}
    (h : Collects s c.written type parent selections fs)
    (hnarrows : ∀ b ∈ Branch.ofSelections c.fragments selections, ¬narrows type b) :
    Collects s c.written concrete parent selections fs := by
  have hself : s.applies type type := by simp [Schema.applies]
  induction h with
  | nil => exact .nil _
  | field aliasName name inside _ ih =>
    rw [Branch.ofSelections_cons, List.forall_mem_append] at hnarrows
    exact .field aliasName name inside (ih hnarrows.2)
  | @inline _ condition inside _ _ _ _ _ _ ihinside ih =>
    rw [Branch.ofSelections_cons, List.forall_mem_append, Branch.ofSelection_inline] at hnarrows
    have hhere := hnarrows.1 _ List.mem_cons_self
    rw [narrows_within, Bool.or_eq_true, not_or, List.any_eq_true] at hhere
    refine .inline (fun d hd => ?_) (ihinside fun b hb h => hhere.2 ⟨b, hb, h⟩) (ih hnarrows.2)
    obtain rfl : d = type := by
      by_contra hne
      exact hhere.1 (by simp [Option.mem_def.1 hd, hne])
    exact applies_of_mem_possibleTypes hconcrete
  | @inlineSkipped _ condition _ _ inside hnot _ ih =>
    rw [Branch.ofSelections_cons, List.forall_mem_append, Branch.ofSelection_inline] at hnarrows
    have hhere := hnarrows.1 _ List.mem_cons_self
    rw [narrows_within, Bool.or_eq_true, not_or] at hhere
    obtain rfl : condition = type := by simpa using hhere.1
    exact absurd hself hnot
  | @spread _ name f _ _ _ hf _ _ _ ihinside ih =>
    obtain ⟨g, hg, rfl⟩ := Option.map_eq_some_iff.1 (Catalogue.get?_written c name ▸ hf)
    rw [Branch.ofSelections_cons, List.forall_mem_append,
      Branch.ofSelection_spread hacyclic hg] at hnarrows
    have hhere := hnarrows.1 _ List.mem_cons_self
    rw [narrows_within, Bool.or_eq_true, not_or, List.any_eq_true] at hhere
    have hcondition : g.condition = type := by simpa using hhere.1
    refine .spread hf ?_ (ihinside fun b hb h => hhere.2 ⟨b, hb, h⟩) (ih hnarrows.2)
    rw [hcondition]
    exact applies_of_mem_possibleTypes hconcrete
  | @spreadSkipped _ name _ _ hnot _ ih =>
    rw [Branch.ofSelections_cons, List.forall_mem_append] at hnarrows
    refine .spreadSkipped (fun f hf => ?_) (ih hnarrows.2)
    obtain ⟨g, hg, rfl⟩ := Option.map_eq_some_iff.1 (Catalogue.get?_written c name ▸ hf)
    rw [Branch.ofSelection_spread hacyclic hg] at hnarrows
    have hhere := hnarrows.1 _ List.mem_cons_self
    rw [narrows_within, Bool.or_eq_true, not_or] at hhere
    have hcondition : g.condition = type := by simpa using hhere.1
    exact absurd (hcondition ▸ hself) (hnot _ hf)

/-- Some member of a shape is for a given possible type, and the fields of its branches are those
that are gathered for the type. -/
lemma exists_member (scalars : Scalars) (hs : s.IsValid) (hacyclic : Cycles.IsAcyclic c.written)
    {type concrete : String} (parts : List (String × List Selection))
    (hconcrete : concrete ∈ s.possibleTypes type) :
    ∃ described ms fss, IsMember s type
      (selection s scalars type (branchesOf c parts)) described ms ∧
      object s scalars described (branchesOf c parts) = .record ms ∧
      (described = concrete ∨
        described = type ∧ selection s scalars type (branchesOf c parts) = .record ms) ∧
      Gathers s c.written concrete parts fss ∧ Gathers s c.written described parts fss := by
  by_cases hsplits : Splits s type (branchesOf c parts)
  · obtain ⟨fss, hfss⟩ := exists_gathers (s := s) hacyclic concrete parts
    refine ⟨concrete, _, fss, ?_, object_eq _ _, .inl rfl, hfss, hfss⟩
    rw [selection_of_splits hsplits]
    refine .alternative ?_
    rw [← List.map_prod_left_eq_zip]
    exact List.mem_map.2 ⟨concrete, hconcrete, by rw [object_eq]⟩
  · obtain ⟨fss, hfss⟩ := exists_gathers (s := s) hacyclic type parts
    have hwhole := selection_of_not_splits scalars hsplits
    refine ⟨type, _, fss, ?_, object_eq _ _, .inr ⟨rfl, by rw [hwhole, object_eq]⟩, ?_, hfss⟩
    · rw [hwhole, object_eq]
      exact .whole _
    · by_cases habstract : (s.get? type).any (·.isAbstract)
      · have hnarrows : ∀ b ∈ branchesOf c parts, ¬narrows type b := fun b hb h =>
          hsplits ⟨habstract, List.any_eq_true.2 ⟨b, hb, h⟩⟩
        clear hsplits hwhole
        induction hfss with
        | nil => exact .nil
        | @cons p fs parts fss hp _ ih =>
          rw [branchesOf, List.flatMap_cons, Branch.ofSelections_append,
            List.forall_mem_append] at hnarrows
          exact .cons (collects_of_not_narrows hacyclic hconcrete hp hnarrows.1) (ih hnarrows.2)
      · obtain rfl := eq_of_mem_possibleTypes hs habstract hconcrete
        exact hfss

/-! ## Selections without aliases -/

mutual

/-- Tells that a selection gives no field another key. -/
def isPlain : Selection → Bool
  | .field aliasName _ selections => aliasName.isNone && areAllPlain selections
  | .spread _ => true
  | .inline _ selections => areAllPlain selections

/-- Tells that no selection gives a field another key. -/
def areAllPlain : List Selection → Bool
  | [] => true
  | x :: rest => isPlain x && areAllPlain rest

end

/-- What is collected from plain selections is answered under its name, and has plain selections. -/
lemma key_eq_name_of_collects {fragments : Table WrittenFragment}
    (hfragments : ∀ n f, fragments.get? n = some f → areAllPlain f.selections)
    {concrete parent : String} {selections : List Selection} {fs : List Collected}
    (h : Collects s fragments concrete parent selections fs) (hplain : areAllPlain selections) :
    ∀ f ∈ fs, f.key = f.name ∧ areAllPlain f.selections := by
  induction h with
  | nil => simp
  | field aliasName name inside _ ih =>
    simp only [areAllPlain, isPlain, Bool.and_eq_true, Option.isNone_iff_eq_none] at hplain
    obtain ⟨⟨rfl, hinside⟩, hrest⟩ := hplain
    exact List.forall_mem_cons.2 ⟨⟨rfl, hinside⟩, ih hrest⟩
  | inline _ _ _ ihinside ih =>
    simp only [areAllPlain, isPlain, Bool.and_eq_true] at hplain
    exact List.forall_mem_append.2 ⟨ihinside hplain.1, ih hplain.2⟩
  | inlineSkipped _ _ _ ih =>
    simp only [areAllPlain, Bool.and_eq_true] at hplain
    exact ih hplain.2
  | spread hf _ _ _ ihinside ih =>
    simp only [areAllPlain, Bool.and_eq_true] at hplain
    exact List.forall_mem_append.2 ⟨ihinside (hfragments _ _ hf), ih hplain.2⟩
  | spreadSkipped _ _ ih =>
    simp only [areAllPlain, Bool.and_eq_true] at hplain
    exact ih hplain.2

/-- Tells that the operations and fragments of a catalogue give no field another key. -/
def IsPlainCatalogue (c : Catalogue) : Prop :=
  (∀ op ∈ c.operations, areAllPlain op.selections) ∧ ∀ n f, c.written.get? n = some f →
    areAllPlain f.selections

lemma areAllPlain_of_prints (hplain : IsPlainCatalogue c) {t : TypeExpr} {type : String}
    {parts : List (String × List Selection)} (h : Prints s scalars c t type parts) :
    ∀ p ∈ parts, areAllPlain p.2 := by
  induction h with
  | operation hop _ => simpa using hplain.1 _ hop
  | @fragment name f t hf _ =>
    simpa using hplain.2 name f.toWrittenFragment
      (by rw [Catalogue.get?_written, hf, Option.map_some])
  | field _ _ hfss _ _ _ _ _ ih =>
    intro p hp
    obtain ⟨f, hf, rfl⟩ := List.mem_map.1 hp
    obtain ⟨p, hp, fs, hfs, hf⟩ := hfss.exists_collects (List.mem_filter.1 hf).1
    exact (key_eq_name_of_collects hplain.2 hfs (ih p hp) _ hf).2

/-- Where no field is given another key, no key stands for two fields. -/
lemma keysAgree_of_isPlainCatalogue (hplain : IsPlainCatalogue c) : KeysAgree s scalars c := by
  intro t type parts concrete ms fss hprints _ hfss f hf g hg hkey
  have hname : ∀ f ∈ fss.flatten, f.key = f.name := by
    intro f hf
    obtain ⟨p, hp, fs, hfs, hf⟩ := hfss.exists_collects hf
    exact (key_eq_name_of_collects hplain.2 hfs (areAllPlain_of_prints hplain hprints p hp) f hf).1
  rw [← hname f hf, hkey, hname g hg]

/-! ## Members for possible types -/

/-- For every possible type of a printed type, the member that describes it (its own, or the whole
of a type that is not split) has the keys of the fields that are collected for it, each where it is
first met, and these are the same if a fragment counts only where it is spread first. All fields of
a key are one field, and the type of the key is that of the field: the name of the type for
`__typename`, and for a field with selections the type that is printed for all that is selected
under the key. -/
theorem exists_member_of_prints (hs : s.IsValid) {root : Option Path} {docs : List SourceDocument}
    (hc : Catalogue.ofDocuments s root docs = .ok c) (hkeys : KeysAgree s scalars c) {t : TypeExpr}
    {type : String} {parts : List (String × List Selection)} (h : Prints s scalars c t type parts)
    {concrete : String} (hconcrete : concrete ∈ s.possibleTypes type) :
    ∃ described ms fss,
      IsMember s type t described ms ∧ (described = concrete ∨ described = type ∧ t = .record ms) ∧
      Gathers s c.written concrete parts fss ∧
      ms.map (·.1) = (fss.flatten.map (·.key)).eraseDups ∧
      (∃ gss spread, GathersOnce s c.written concrete [] parts gss spread ∧
        ms.map (·.1) = (gss.flatten.map (·.key)).eraseDups) ∧
      ∀ m ∈ ms, ∃ f ∈ fss.flatten, f.key = m.1 ∧
        (∀ f' ∈ fss.flatten, f'.key = m.1 → f'.name = f.name) ∧
        (f.name = "__typename" → m.2 = typename s described) ∧
        (f.name ≠ "__typename" → ∃ g u, s.field? described f.name = some g ∧ m.2 = .ofRef u g.type ∧
          ((s.get? g.type.base).any (·.isComposite) →
            Prints s scalars c u g.type.base
              ((fss.flatten.filter fun f' => f'.key = m.1).map (part s))) ∧
          (¬(s.get? g.type.base).any (·.isComposite) → u = leaf s scalars g.type.base [])) := by
  have hfits := Catalogue.fitsSchema_of_ofDocuments hc
  obtain ⟨rfl, hsuits⟩ := spec_of_prints hs hfits hkeys h
  obtain ⟨described, ms, fss, hmember, hobject, hdescribed, hgathers, hfss⟩ :=
    exists_member scalars hs hfits.acyclic parts hconcrete
  obtain ⟨hnames, hms⟩ := object_branchesOf hfits.acyclic hfss hobject
  have hsub : s.IsSubtype described type := by
    rcases (isMember_selection hmember).2 with h | rfl
    · exact ((Schema.mem_possibleTypes_iff hs).1 h).2
    · exact .refl _
  have hagree := hkeys _ _ _ _ _ _ h hmember hfss
  obtain ⟨gss, spread, hgss⟩ := exists_gathersOnce (s := s) hfits.acyclic concrete [] parts
  refine ⟨described, ms, fss, hmember, hdescribed, hgathers, hnames,
    ⟨gss, spread, hgss, hnames.trans (hgss.eraseDups_keys hfits.acyclic hgathers)⟩, fun m hm => ?_⟩
  obtain ⟨f, hf, hkey, htype⟩ := hms m hm
  refine ⟨f, hf, hkey, fun f' hf' hkey' => hagree f' hf' f hf (hkey'.trans hkey.symm),
    fun hname => ?_, fun hname => ?_⟩
  · rw [htype, memberType, if_pos hname]
  · obtain ⟨g, hg, -⟩ := hsuits.exists_field hs hfits hsub hfss hf hname
    rw [memberType, if_neg hname] at htype
    simp only [hg] at htype
    refine ⟨g, _, hg, htype, fun hcomposite => ?_, leaf_of_not_isComposite⟩
    rw [← hkey]
    refine .field h hmember hfss hf hname hg hcomposite ?_
    rw [← htype, hkey]
    exact hm

lemma get?_sampleSchema_eq_some_iff {n : String} {t : SchemaType} :
    Catalogue.sampleSchema.get? n = some t ↔ t ∈ Catalogue.sampleTypes ∧ t.name = n :=
  Catalogue.get?_schemaOf_eq_some_iff (by decide)

/-- The sample schema is valid: users and groups have the field of a node. -/
lemma isValid_sampleSchema : Catalogue.sampleSchema.IsValid := by
  have hinterfaces : ∀ t ∈ Catalogue.sampleTypes, ∀ i ∈ t.interfaces, i = "Node" ∧
      t.kind = .object ∧ t.field? "id" = some (Catalogue.sampleField "id" "ID") := by decide
  have hunion : ∀ t ∈ Catalogue.sampleTypes, t.kind ≠ .union := by decide
  have hroot : ∀ t ∈ Catalogue.sampleTypes, t.name = "Query" → t.kind = .object := by decide
  have hnode : Catalogue.sampleSchema.get? "Node" = some Catalogue.sampleNode :=
    get?_sampleSchema_eq_some_iff.2 ⟨by decide, rfl⟩
  refine ⟨?_, ?_, ?_, ?_, ?_, ?_, ?_, ?_⟩
  · exact fun ht => (get?_sampleSchema_eq_some_iff.1 ht).2
  · intro kind t ht
    cases kind with
    | query =>
      have ht : Catalogue.sampleSchema.get? "Query" = some t := ht
      exact hroot t (get?_sampleSchema_eq_some_iff.1 ht).1 (get?_sampleSchema_eq_some_iff.1 ht).2
    | mutation => cases ht
    | subscription => cases ht
  · intro n i t ht hi
    obtain ⟨rfl, -, -⟩ := hinterfaces t (get?_sampleSchema_eq_some_iff.1 ht).1 i hi
    exact Schema.kind?_eq_of_get? hnode
  · exact fun ht _ => hunion _ (get?_sampleSchema_eq_some_iff.1 ht).1
  · intro n i j t u ht hi hu hj
    obtain ⟨rfl, -, -⟩ := hinterfaces t (get?_sampleSchema_eq_some_iff.1 ht).1 i hi
    cases hnode.symm.trans hu
    cases hj
  · exact fun ht h => absurd h (hunion _ (get?_sampleSchema_eq_some_iff.1 ht).1)
  · exact fun ht h => absurd h (hunion _ (get?_sampleSchema_eq_some_iff.1 ht).1)
  · intro n i name t g ht hi hg
    obtain ⟨rfl, -, hid⟩ := hinterfaces t (get?_sampleSchema_eq_some_iff.1 ht).1 i hi
    rw [Schema.field?, hnode, Option.bind_some, SchemaType.field?] at hg
    have hfound := List.find?_some hg
    obtain ⟨hmem, hname⟩ : g ∈ Catalogue.sampleNode.fields ∧ g.name = name :=
      ⟨List.mem_of_find?_eq_some hg, of_decide_eq_true hfound⟩
    obtain rfl : g = Catalogue.sampleField "id" "ID" := List.mem_singleton.1 hmem
    subst hname
    exact ⟨_, by rw [Schema.field?, ht]; exact hid, .refl _⟩

/-- What the sample document selects of a node: the field of every node, and a fragment on users. -/
def sampleInside : List Selection :=
  [.field none "id" [], .spread "F"]

/-- What the sample document selects. -/
def sampleSelections : List Selection :=
  [.field none "node" sampleInside]

/-- The sample document makes a catalogue of one operation and one fragment on users, for which a
node is split. -/
lemma exists_catalogue_sample :
    ∃ c, Catalogue.ofDocuments Catalogue.sampleSchema none [Catalogue.sampleDocument] = .ok c ∧
      (c.operations.map fun op => (op.rootType, op.selections)) = [("Query", sampleSelections)] ∧
      (c.written.entries.map fun e => (e.1, e.2.condition, e.2.selections)) =
        [("F", "User", [.field none "group" [.field none "id" []]])] ∧
      (branchesOf c [("Node", sampleInside)]).any (narrows "Node") = true := by
  have hok :
      (Catalogue.ofDocuments Catalogue.sampleSchema none [Catalogue.sampleDocument]).toOption.map
        (fun c => (c.operations.map fun op => (op.rootType, op.selections),
          c.written.entries.map fun e => (e.1, e.2.condition, e.2.selections),
          (branchesOf c [("Node", sampleInside)]).any (narrows "Node"))) =
      some ([("Query", sampleSelections)],
        [("F", "User", [.field none "group" [.field none "id" []]])], true) := by
    rw [Catalogue.ofDocuments_sample]
    cbv
  cases hc : Catalogue.ofDocuments Catalogue.sampleSchema none [Catalogue.sampleDocument] with
  | error e => simp [hc, Except.toOption] at hok
  | ok c =>
    simp only [hc, Except.toOption, Option.map_some, Option.some.injEq, Prod.mk.injEq] at hok
    exact ⟨c, rfl, hok⟩

/-- A catalogue of these selections gives no field another key. -/
lemma isPlainCatalogue_sample
    (hoperations : (c.operations.map fun op => (op.rootType, op.selections)) =
      [("Query", sampleSelections)])
    (hfragments : (c.written.entries.map fun e => (e.1, e.2.condition, e.2.selections)) =
      [("F", "User", [.field none "group" [.field none "id" []]])]) :
    IsPlainCatalogue c := by
  constructor
  · intro op hop
    have hmem : (op.rootType, op.selections) ∈ [("Query", sampleSelections)] :=
      hoperations ▸ List.mem_map.2 ⟨op, hop, rfl⟩
    rw [(Prod.mk.inj (List.mem_singleton.1 hmem)).2]
    rfl
  · intro n f hf
    have hmem : (n, f.condition, f.selections) ∈
        [("F", "User", [Selection.field none "group" [.field none "id" []]])] :=
      hfragments ▸ List.mem_map.2 ⟨(n, f), Table.get?_eq_some_iff.1 hf, rfl⟩
    rw [(Prod.mk.inj (Prod.mk.inj (List.mem_singleton.1 hmem)).2).2]
    rfl

/-- What is collected of a node for users: the field of every node, and that of the fragment. -/
lemma collects_sampleInside
    (hfragments : (c.written.entries.map fun e => (e.1, e.2.condition, e.2.selections)) =
      [("F", "User", [.field none "group" [.field none "id" []]])]) :
    Collects Catalogue.sampleSchema c.written "User" "Node" sampleInside
      [⟨"id", "id", "Node", []⟩, ⟨"group", "group", "User", [.field none "id" []]⟩] := by
  obtain ⟨e, he, hwritten⟩ : ∃ e ∈ c.written.entries, (e.1, e.2.condition, e.2.selections) =
      ("F", "User", [Selection.field none "group" [.field none "id" []]]) :=
    List.mem_map.1 (hfragments ▸ List.mem_singleton.2 rfl)
  obtain ⟨hname, hwritten⟩ := Prod.mk.inj hwritten
  obtain ⟨hcondition, hselections⟩ := Prod.mk.inj hwritten
  have happlies : Catalogue.sampleSchema.applies e.2.condition "User" := by
    rw [hcondition]
    cbv
  have hinside : Collects Catalogue.sampleSchema c.written "User" e.2.condition e.2.selections
      [⟨"group", "group", "User", [.field none "id" []]⟩] := by
    rw [hcondition, hselections]
    exact .field none "group" _ (.nil _)
  exact .field none "id" []
    (.spread (Table.get?_eq_some_iff.2 (hname ▸ he)) happlies hinside (.nil _))

/-- The type of the field of the sample document is split, and its member for users has the key of
every node and that of the fragment. -/
theorem exists_member_of_prints_sample :
    ∃ c t u, Catalogue.sampleSchema.IsValid ∧
      Catalogue.ofDocuments Catalogue.sampleSchema none [Catalogue.sampleDocument] = .ok c ∧
      KeysAgree Catalogue.sampleSchema .empty c ∧
      Prints Catalogue.sampleSchema .empty c t "Query" [("Query", sampleSelections)] ∧
      (∃ ms fss, IsMember Catalogue.sampleSchema "Query" t "Query" ms ∧
        Gathers Catalogue.sampleSchema c.written "Query" [("Query", sampleSelections)] fss ∧
        ms.map (·.1) = (fss.flatten.map (·.key)).eraseDups) ∧
      Prints Catalogue.sampleSchema .empty c u "Node" [("Node", sampleInside)] ∧
      Splits Catalogue.sampleSchema "Node" (branchesOf c [("Node", sampleInside)]) ∧
      ∃ ms, IsMember Catalogue.sampleSchema "Node" u "User" ms ∧
        ms.map (·.1) = ["id", "group"] := by
  obtain ⟨c, hc, hoperations, hfragments, hnarrows⟩ := exists_catalogue_sample
  have hfits := Catalogue.fitsSchema_of_ofDocuments hc
  have hkeys : KeysAgree Catalogue.sampleSchema .empty c :=
    keysAgree_of_isPlainCatalogue (isPlainCatalogue_sample hoperations hfragments)
  obtain ⟨op, hop, hselected⟩ : ∃ op ∈ c.operations, (op.rootType, op.selections) =
      ("Query", sampleSelections) :=
    List.mem_map.1 (hoperations ▸ List.mem_singleton.2 rfl)
  obtain ⟨hroot, hselections⟩ := Prod.mk.inj hselected
  -- At the root there is one member, with one key.
  have hprints : Prints Catalogue.sampleSchema .empty c _ op.rootType
      [(op.rootType, op.selections)] :=
    .operation hop rfl
  rw [hroot, hselections] at hprints
  have hquery : "Query" ∈ Catalogue.sampleSchema.possibleTypes "Query" :=
    (Schema.mem_possibleTypes_iff isValid_sampleSchema).2 ⟨by cbv, .refl _⟩
  obtain ⟨described, ms, fss, hmember, hdescribed, hfss, hnames, -, hms⟩ :=
    exists_member_of_prints isValid_sampleSchema hc hkeys hprints hquery
  obtain rfl : described = "Query" := hdescribed.elim id And.left
  obtain rfl : fss = [[⟨"node", "node", "Query", sampleInside⟩]] :=
    hfss.unique (.cons (.field none "node" _ (.nil _)) .nil)
  obtain ⟨m, hm, hkey⟩ : ∃ m ∈ ms, m.1 = "node" := List.mem_map.1 (by rw [hnames]; decide)
  obtain ⟨f, hf, -, -, -, htype⟩ := hms m hm
  obtain rfl : f = ⟨"node", "node", "Query", sampleInside⟩ := by simpa using hf
  -- Its type is printed for nodes, and it is split.
  have hfield : Catalogue.sampleSchema.field? "Query" "node" =
      some (Catalogue.sampleField "node" "Node") := by cbv
  obtain ⟨g, u, hg, -, hinside, -⟩ := htype (by decide)
  obtain rfl : Catalogue.sampleField "node" "Node" = g := Option.some.inj (hfield.symm.trans hg)
  have hcomposite : (Catalogue.sampleSchema.get? "Node").any (·.isComposite) := by cbv
  have hnode : Prints Catalogue.sampleSchema .empty c u "Node" [("Node", sampleInside)] := by
    have hprinted := hinside hcomposite
    simpa [hkey, part, hfield, Catalogue.sampleField, TypeRef.base] using hprinted
  have hsplits : Splits Catalogue.sampleSchema "Node" (branchesOf c [("Node", sampleInside)]) :=
    ⟨by cbv, hnarrows⟩
  -- So there is a member for users alone.
  have huser : "User" ∈ Catalogue.sampleSchema.possibleTypes "Node" := by
    have hpossible : Catalogue.sampleSchema.possibleTypes "Node" = ["Group", "User"] := by cbv
    simp [hpossible]
  obtain ⟨described, ns, gss, hmember', hdescribed', hgss, hnames', -⟩ :=
    exists_member_of_prints isValid_sampleSchema hc hkeys hnode huser
  obtain rfl : described = "User" := by
    rcases hdescribed' with h | ⟨-, hwhole⟩
    · exact h
    · rw [(spec_of_prints isValid_sampleSchema hfits hkeys hnode).1,
        selection_of_splits hsplits] at hwhole
      cases hwhole
  obtain rfl := hgss.unique (.cons (collects_sampleInside hfragments) .nil)
  exact ⟨c, _, u, isValid_sampleSchema, hc, hkeys, hprints, ⟨ms, _, hmember, hfss, hnames⟩, hnode,
    hsplits, ns, hmember', hnames'.trans (by decide)⟩

end Shape

end OperationGate
