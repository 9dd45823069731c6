import OperationGate.Proofs.Table
import OperationGate.Schema.Basic

/-!
# Subtypes

A type is a subtype of the interfaces that it implements and of the unions that it is a member of.
In a valid schema this is transitive, the possible types of a type are the object types below it
(`mem_possibleTypes_iff`), and a subtype has the fields of the types above it, with types that are
no wider (`exists_field_of_isSubtype`).
-/

namespace OperationGate

namespace Schema

/-- Every value of the first type is one of the second. -/
inductive IsSubtype (s : Schema) : String → String → Prop where
  | refl (n : String) : IsSubtype s n n
  | implements {n i : String} {t : SchemaType} : s.get? n = some t → i ∈ t.interfaces →
    IsSubtype s n i
  | member {n m : String} {t : SchemaType} : s.get? n = some t → t.kind = .union → m ∈ t.members →
    IsSubtype s m n

/-- A field of the first type can stand where one of the second is expected. -/
inductive IsCovariant (s : Schema) : TypeRef → TypeRef → Prop where
  | named {a b : String} : s.IsSubtype a b → IsCovariant s (.named a) (.named b)
  | list {a b : TypeRef} : IsCovariant s a b → IsCovariant s (.list a) (.list b)
  | nonNull {a b : TypeRef} : IsCovariant s a b → IsCovariant s (.nonNull a) (.nonNull b)
  | dropNull {a b : TypeRef} : IsCovariant s a b → IsCovariant s (.nonNull a) b

/-- What a schema promises: types are found under their names, roots and members of unions are
object types, interfaces are listed with those that they implement, and their fields are there with
types that are no wider. -/
structure IsValid (s : Schema) : Prop where
  named {n : String} {t : SchemaType} : s.get? n = some t → t.name = n
  root {kind : OperationKind} {t : SchemaType} : s.root? kind = some t → t.kind = .object
  interface {n i : String} {t : SchemaType} : s.get? n = some t → i ∈ t.interfaces →
    s.kind? i = some .interface
  implementer {n i : String} {t : SchemaType} : s.get? n = some t → i ∈ t.interfaces →
    t.kind ≠ .union
  inherited {n i j : String} {t u : SchemaType} : s.get? n = some t → i ∈ t.interfaces →
    s.get? i = some u → j ∈ u.interfaces → j ∈ t.interfaces
  member {n m : String} {t : SchemaType} : s.get? n = some t → t.kind = .union → m ∈ t.members →
    s.kind? m = some .object
  fieldless {n : String} {t : SchemaType} : s.get? n = some t → t.kind = .union → t.fields = []
  field {n i name : String} {t : SchemaType} {g : Field} : s.get? n = some t → i ∈ t.interfaces →
    s.field? i name = some g → ∃ f, s.field? n name = some f ∧ s.IsCovariant f.type g.type

variable {s : Schema}

lemma IsCovariant.refl (t : TypeRef) : s.IsCovariant t t := by
  induction t with
  | named n => exact .named (.refl n)
  | list t ih => exact .list ih
  | nonNull t ih => exact .nonNull ih

/-- The named types of covariant fields are subtypes. -/
lemma IsCovariant.base {a b : TypeRef} (h : s.IsCovariant a b) : s.IsSubtype a.base b.base := by
  induction h with
  | named h => exact h
  | list _ ih => exact ih
  | nonNull _ ih => exact ih
  | dropNull _ ih => exact ih

lemma kind?_eq_of_get? {n : String} {t : SchemaType} (h : s.get? n = some t) :
    s.kind? n = some t.kind := by
  rw [kind?, h, Option.map_some]

lemma IsSubtype.trans (hs : s.IsValid) {a b c : String} (hab : s.IsSubtype a b)
    (hbc : s.IsSubtype b c) : s.IsSubtype a c := by
  cases hab with
  | refl => exact hbc
  | @implements _ _ t ht hi =>
    have hb := hs.interface ht hi
    cases hbc with
    | refl => exact .implements ht hi
    | implements hu hj => exact .implements ht (hs.inherited ht hi hu hj)
    | member hu hunion hm =>
      have := hs.member hu hunion hm
      simp [hb] at this
  | @member _ _ t ht hunion hm =>
    cases hbc with
    | refl => exact .member ht hunion hm
    | implements hu hj =>
      rw [ht] at hu
      cases hu
      exact absurd hunion (hs.implementer ht hj)
    | member hu hunion' hm' =>
      have := hs.member hu hunion' hm'
      simp [kind?_eq_of_get? ht, hunion] at this

/-- The possible types of a type are the object types below it. -/
theorem mem_possibleTypes_iff (hs : s.IsValid) {c n : String} :
    c ∈ s.possibleTypes n ↔ s.kind? c = some .object ∧ s.IsSubtype c n := by
  constructor
  · intro h
    unfold possibleTypes at h
    split at h
    next => cases h
    next t ht =>
      split at h
      next hobject =>
        obtain rfl : c = n := (List.mem_singleton.1 h).trans (hs.named ht)
        exact ⟨by rw [kind?_eq_of_get? ht, hobject], .refl c⟩
      next hunion =>
        have hm := Table.mem_sortedNames.1 h
        exact ⟨hs.member ht hunion hm, .member ht hunion hm⟩
      next hinterface =>
        obtain ⟨u, hu, rfl⟩ := List.mem_map.1 h
        obtain ⟨hu, hfilter⟩ := List.mem_filter.1 hu
        obtain ⟨k, hk⟩ := Table.mem_values_iff.1 hu
        have hk : s.get? k = some u := hk
        have hname := hs.named hk
        subst hname
        simp only [Bool.and_eq_true, decide_eq_true_eq, List.contains_eq_mem] at hfilter
        exact ⟨by rw [kind?_eq_of_get? hk, hfilter.1], .implements hk hfilter.2⟩
      next => cases h
  · rintro ⟨hobject, h⟩
    cases h with
    | refl =>
      obtain ⟨t, ht, hkind⟩ := Option.map_eq_some_iff.1 hobject
      rw [possibleTypes, ht]
      simp [hkind, hs.named ht]
    | @implements _ _ t ht hi =>
      obtain ⟨u, hu, hkind⟩ := Option.map_eq_some_iff.1 (hs.interface ht hi)
      have hobject : t.kind = .object := by
        rw [kind?_eq_of_get? ht] at hobject
        exact Option.some.inj hobject
      rw [possibleTypes, hu]
      simp only [hkind]
      refine List.mem_map.2 ⟨t, List.mem_filter.2 ⟨Table.mem_values_iff.2 ⟨c, ht⟩, ?_⟩, hs.named ht⟩
      simp [hobject, hi]
    | @member _ _ t ht hunion hm =>
      rw [possibleTypes, ht]
      simp only [hunion]
      exact Table.mem_sortedNames.2 hm

/-- A condition applies to the types below it. -/
lemma isSubtype_of_applies (hs : s.IsValid) {condition concrete : String}
    (h : s.applies condition concrete) : s.IsSubtype concrete condition := by
  simp only [applies, Bool.or_eq_true, decide_eq_true_eq, List.contains_eq_mem] at h
  rcases h with rfl | h
  · exact .refl _
  · exact ((mem_possibleTypes_iff hs).1 h).2

/-- A type has the fields of the types above it, with types that are no wider. -/
theorem exists_field_of_isSubtype (hs : s.IsValid) {a b name : String} (h : s.IsSubtype a b)
    {g : Field} (hg : s.field? b name = some g) :
    ∃ f, s.field? a name = some f ∧ s.IsCovariant f.type g.type := by
  cases h with
  | refl => exact ⟨g, hg, .refl _⟩
  | implements ht hi => exact hs.field ht hi hg
  | member ht hunion hm =>
    rw [field?, ht, Option.bind_some, SchemaType.field?, hs.fieldless ht hunion] at hg
    cases hg

end Schema

end OperationGate
