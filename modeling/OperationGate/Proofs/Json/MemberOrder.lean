import OperationGate.Client.Cache
import OperationGate.Proofs.Json.Distinct

/-!
# Values up to the order of members

Two values are the same up to the order of members if one comes from the other by permuting the
members of records, anywhere inside (`SameUpToOrder`). The canonical form of a value stands for all
of these: values have one canonical form just if they are the same up to the order of members
(`canonical_eq_iff`).
-/

namespace OperationGate.Json

/-- Tells that no record in a value names a member twice, and that its numbers are ones that data
values have. -/
inductive IsProper : Json → Prop where
  | null : IsProper .null
  | bool (b : Bool) : IsProper (.bool b)
  | number {n : JsonNumber} (h : n.IsNormal) : IsProper (.number n)
  | text (s : String) : IsProper (.text s)
  | list {items : List Json} (h : ∀ v ∈ items, IsProper v) : IsProper (.list items)
  | record {members : List (String × Json)} (distinct : (members.map (·.1)).Nodup)
    (h : ∀ m ∈ members, IsProper m.2) : IsProper (.record members)

/-- Tells that two values are the same up to the order of members: it is the least equivalence under
which the members of a record may be permuted, and a value inside another be replaced by an
equivalent one. -/
inductive SameUpToOrder : Json → Json → Prop where
  | refl (v : Json) : SameUpToOrder v v
  | trans {u v w : Json} (h : SameUpToOrder u v) (h' : SameUpToOrder v w) : SameUpToOrder u w
  | permuted {members members' : List (String × Json)} (h : members.Perm members') :
    SameUpToOrder (.record members) (.record members')
  | item {front rest : List Json} {v w : Json} (h : SameUpToOrder v w) :
    SameUpToOrder (.list (front ++ v :: rest)) (.list (front ++ w :: rest))
  | member {front rest : List (String × Json)} {k : String} {v w : Json} (h : SameUpToOrder v w) :
    SameUpToOrder (.record (front ++ (k, v) :: rest)) (.record (front ++ (k, w) :: rest))

variable {v w : Json}

lemma SameUpToOrder.symm (h : SameUpToOrder v w) : SameUpToOrder w v := by
  induction h with
  | refl v => exact .refl v
  | trans _ _ ih ih' => exact ih'.trans ih
  | permuted h => exact .permuted h.symm
  | item _ ih => exact .item ih
  | member _ ih => exact .member ih

lemma IsProper.everyNumber (h : v.IsProper) : EveryNumber JsonNumber.IsNormal v := by
  induction h with
  | null => exact .null
  | bool b => exact .bool b
  | number h => exact .number h
  | text s => exact .text s
  | list _ ih => exact .list ih
  | record _ _ ih => exact .record ih

/-! ## The canonical form -/

lemma canonicalItems_eq (items : List Json) : canonicalItems items = items.map canonical := by
  induction items with
  | nil => rfl
  | cons v rest ih => rw [canonicalItems, ih, List.map_cons]

lemma canonicalMembers_eq (members : List (String × Json)) :
    canonicalMembers members = members.map fun m => (m.1, m.2.canonical) := by
  induction members with
  | nil => rfl
  | cons m rest ih => rw [canonicalMembers, ih, List.map_cons]

lemma canonical_list (items : List Json) :
    (list items).canonical = .list (items.map canonical) := by
  rw [canonical, canonicalItems_eq]

lemma canonical_record (members : List (String × Json)) :
    (record members).canonical = .object (members.map fun m => (m.1, m.2.canonical)) := by
  rw [canonical, canonicalMembers_eq]

lemma map_fst_canonicalMembers (members : List (String × Json)) :
    (members.map fun m => (m.1, m.2.canonical)).map (·.1) = members.map (·.1) := by
  rw [List.map_map]
  rfl

/-- Items may be replaced one after the other. -/
lemma SameUpToOrder.list_map {f : Json → Json} (front : List Json) {items : List Json}
    (h : ∀ v ∈ items, SameUpToOrder v (f v)) :
    SameUpToOrder (.list (front ++ items)) (.list (front ++ items.map f)) := by
  induction items generalizing front with
  | nil => exact .refl _
  | cons v rest ih =>
    rw [List.forall_mem_cons] at h
    have hrest := ih (front ++ [f v]) h.2
    rw [List.append_assoc, List.append_assoc] at hrest
    exact (SameUpToOrder.item h.1).trans hrest

lemma SameUpToOrder.record_map {f : Json → Json} (front : List (String × Json))
    {members : List (String × Json)} (h : ∀ m ∈ members, SameUpToOrder m.2 (f m.2)) :
    SameUpToOrder (.record (front ++ members))
      (.record (front ++ members.map fun m => (m.1, f m.2))) := by
  induction members generalizing front with
  | nil => exact .refl _
  | cons m rest ih =>
    rw [List.forall_mem_cons] at h
    have hrest := ih (front ++ [(m.1, f m.2)]) h.2
    rw [List.append_assoc, List.append_assoc] at hrest
    exact (SameUpToOrder.member h.1).trans hrest

/-- A value is the same as its canonical form, up to the order of members. -/
lemma sameUpToOrder_canonical (h : v.IsProper) : SameUpToOrder v v.canonical := by
  induction h with
  | null => exact .refl _
  | bool b => exact .refl _
  | number h => exact .refl _
  | text s => exact .refl _
  | list _ ih =>
    rw [canonical_list]
    exact .list_map [] ih
  | @record members distinct _ ih =>
    rw [canonical_record, object]
    rw [← map_fst_canonicalMembers] at distinct
    exact (SameUpToOrder.record_map [] ih).trans
      (.permuted (Table.perm_entries_ofList distinct).symm)

/-- What is the same up to the order of members as a proper value is proper and has its canonical
form. -/
lemma SameUpToOrder.spec (h : SameUpToOrder v w) (hv : v.IsProper) :
    w.IsProper ∧ v.canonical = w.canonical := by
  induction h with
  | refl v => exact ⟨hv, rfl⟩
  | trans _ _ ih ih' =>
    obtain ⟨hu, hcanonical⟩ := ih hv
    obtain ⟨hw, hcanonical'⟩ := ih' hu
    exact ⟨hw, hcanonical.trans hcanonical'⟩
  | permuted hperm =>
    cases hv with
    | record distinct hmembers =>
      refine ⟨.record ((hperm.map _).nodup_iff.1 distinct) fun m hm =>
        hmembers m (hperm.mem_iff.2 hm), ?_⟩
      rw [← map_fst_canonicalMembers] at distinct
      rw [canonical_record, canonical_record, object, object,
        Table.ofList_of_perm distinct (hperm.map _)]
  | item _ ih =>
    cases hv with
    | list hitems =>
      simp only [List.forall_mem_append, List.forall_mem_cons] at hitems
      obtain ⟨hw, hcanonical⟩ := ih hitems.2.1
      refine ⟨.list ?_, ?_⟩
      · simp only [List.forall_mem_append, List.forall_mem_cons]
        exact ⟨hitems.1, hw, hitems.2.2⟩
      · simp only [canonical_list, List.map_append, List.map_cons, hcanonical]
  | member _ ih =>
    cases hv with
    | record distinct hmembers =>
      simp only [List.forall_mem_append, List.forall_mem_cons] at hmembers
      obtain ⟨hw, hcanonical⟩ := ih hmembers.2.1
      refine ⟨.record ?_ ?_, ?_⟩
      · simpa only [List.map_append, List.map_cons] using distinct
      · simp only [List.forall_mem_append, List.forall_mem_cons]
        exact ⟨hmembers.1, hw, hmembers.2.2⟩
      · simp only [canonical_record, List.map_append, List.map_cons, hcanonical]

/-- Values have one canonical form just if they are the same up to the order of members. -/
theorem canonical_eq_iff (hv : v.IsProper) (hw : w.IsProper) :
    v.canonical = w.canonical ↔ SameUpToOrder v w := by
  constructor
  · intro h
    have hback : SameUpToOrder v.canonical w := h ▸ (sameUpToOrder_canonical hw).symm
    exact (sameUpToOrder_canonical hv).trans hback
  · exact fun h => (h.spec hv).2

/-- Canonical forms are written alike only if they are the same. -/
lemma compact_canonical_eq_iff (hv : v.IsProper) (hw : w.IsProper) :
    v.canonical.compact = w.canonical.compact ↔ SameUpToOrder v w := by
  rw [← canonical_eq_iff hv hw]
  refine ⟨eq_of_compact_eq ?_ ?_, congrArg compact⟩
  · exact ((sameUpToOrder_canonical hv).spec hv).1.everyNumber
  · exact ((sameUpToOrder_canonical hw).spec hw).1.everyNumber

end OperationGate.Json
