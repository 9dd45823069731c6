import Mathlib
import OperationGate.Proofs.Declaration.Printed
import OperationGate.Proofs.Declaration.Reading
import OperationGate.Proofs.Document.Keys
import OperationGate.Proofs.Schema.Named

/-!
# Null and arrays in printed types

A reference to a type admits null where it is not marked, lists where it is a list, and elsewhere
the values of the type that it names (`TypeRef.Conforms`). The texts that are printed for it, be it
for what a caller gives or for what a selection yields, read as types that admit just these
(`Shape.exists_mirrors`). Both are the text for the named type with the same text around it.

A shape of several records is written as their union. If there are no records, because an interface
that is narrowed has no object types, nothing is written, and the text is no type unless null is
added to it (`TypeExpr.HasVoid`, `Shape.not_isType_void`).

Texts are read as types only where names in them are names. Those of a schema and of documents that
are read from texts are, so all that is printed for accepted documents mirrors the references:
`Shape.mirrors_of_ofDocuments`.
-/

namespace OperationGate

open TypeText

namespace TypeRef

/-- A type without the marks around it. -/
def unmarked : TypeRef → TypeRef
  | nonNull t => t.unmarked
  | t => t

/-- Tells that a value is one of a reference, where `leaf` tells which are the values of the type
that it names: null unless the reference is marked, lists if it is a list, and values of the named
type if it is none. -/
inductive Conforms (leaf : Json → Prop) : TypeRef → Json → Prop where
  | null {t : TypeRef} (h : t.isNonNull = false) : Conforms leaf t .null
  | list {t item : TypeRef} {vs : List Json} (h : t.unmarked = .list item)
    (hvs : ∀ v ∈ vs, Conforms leaf item v) : Conforms leaf t (.list vs)
  | named {t : TypeRef} {n : String} {v : Json} (h : t.unmarked = .named n) (hv : leaf v) :
    Conforms leaf t v

variable {leaf : Json → Prop} {t : TypeRef} {n : String} {v : Json}

lemma conforms_named_iff : Conforms leaf (.named n) v ↔ leaf v ∨ v = .null := by
  constructor
  · intro h
    cases h with
    | null => exact .inr rfl
    | list h => cases h
    | named h hv => exact .inl hv
  · rintro (hv | rfl)
    · exact .named rfl hv
    · exact .null rfl

lemma conforms_list_iff :
    Conforms leaf (.list t) v ↔ (∃ vs, v = .list vs ∧ ∀ x ∈ vs, Conforms leaf t x) ∨ v = .null := by
  constructor
  · intro h
    cases h with
    | null => exact .inr rfl
    | list h hvs =>
      cases h
      exact .inl ⟨_, rfl, hvs⟩
    | named h => cases h
  · rintro (⟨vs, rfl, hvs⟩ | rfl)
    · exact .list rfl hvs
    · exact .null rfl

lemma conforms_nonNull_named_iff : Conforms leaf (.nonNull (.named n)) v ↔ leaf v := by
  constructor
  · intro h
    cases h with
    | null h => cases h
    | list h => cases h
    | named h hv => exact hv
  · exact fun hv => .named rfl hv

lemma conforms_nonNull_list_iff :
    Conforms leaf (.nonNull (.list t)) v ↔ ∃ vs, v = .list vs ∧ ∀ x ∈ vs, Conforms leaf t x := by
  constructor
  · intro h
    cases h with
    | null h => cases h
    | list h hvs =>
      cases h
      exact ⟨_, rfl, hvs⟩
    | named h => cases h
  · rintro ⟨vs, rfl, hvs⟩
    exact .list rfl hvs

/-- A second mark changes nothing. -/
lemma conforms_nonNull_nonNull_iff :
    Conforms leaf (.nonNull (.nonNull t)) v ↔ Conforms leaf (.nonNull t) v := by
  constructor <;> intro h
  · cases h with
    | null h => cases h
    | list h hvs => exact .list h hvs
    | named h hv => exact .named h hv
  · cases h with
    | null h => cases h
    | list h hvs => exact .list h hvs
    | named h hv => exact .named h hv

/-- If null is no value of the named type, it is a value of a reference just if there is no mark
around it. -/
lemma conforms_null_iff (h : ¬leaf .null) : Conforms leaf t .null ↔ t.isNonNull = false := by
  constructor
  · intro hnull
    cases hnull with
    | null hmark => exact hmark
    | named _ hv => exact absurd hv h
  · exact .null

end TypeRef

namespace TypeExpr

/-! ## The text around a named type -/

lemma toList_write_nullable (depth : Nat) (t : TypeExpr) :
    ((nullable t).write depth).toList = (t.write depth).toList ++ (" | ".toList ++ nullText) := by
  rw [write, String.toList_append]
  rfl

lemma toList_write_array (depth : Nat) (t : TypeExpr) :
    ((array t).write depth).toList = arrayText (t.write depth).toList := by
  rw [write, String.toList_append, String.toList_append]
  rfl

mutual

/-- The text of a reference is that of its named type with a text around it that depends on the
reference only. -/
lemma exists_around_ofRef (t : TypeRef) :
    ∃ front back : String, ∀ u depth, (ofRef u t).write depth = front ++ u.write depth ++ back := by
  cases t with
  | named n => exact ⟨"", " | null", fun u depth => by simp [ofRef, write]⟩
  | list t =>
    obtain ⟨front, back, h⟩ := exists_around_ofRef t
    exact ⟨"Array<" ++ front, back ++ ">" ++ " | null",
      fun u depth => by simp [ofRef, write, h, String.append_assoc]⟩
  | nonNull t =>
    obtain ⟨front, back, h⟩ := exists_around_ofMarked t
    exact ⟨front, back, fun u depth => by rw [ofRef, h]⟩

lemma exists_around_ofMarked (t : TypeRef) :
    ∃ front back : String, ∀ u depth, (ofMarked u t).write depth =
      front ++ u.write depth ++ back := by
  cases t with
  | named n => exact ⟨"", "", fun u depth => by simp [ofMarked]⟩
  | list t =>
    obtain ⟨front, back, h⟩ := exists_around_ofRef t
    exact ⟨"Array<" ++ front, back ++ ">",
      fun u depth => by simp [ofMarked, write, h, String.append_assoc]⟩
  | nonNull t =>
    obtain ⟨front, back, h⟩ := exists_around_ofMarked t
    exact ⟨front, back, fun u depth => by rw [ofMarked, h]⟩

end

/-! ## The values of a reference -/

variable {u : TypeExpr} {depth : Nat}

lemma isPiece_write_nullable (h : IsPiece ';' (u.write depth).toList) :
    IsPiece ';' ((nullable u).write depth).toList := by
  have hbar : IsPiece ';' " | ".toList := by decide
  rw [toList_write_nullable]
  exact h.append (hbar.append isType_null.isPiece)

lemma isPiece_write_array (h : IsPiece ';' (u.write depth).toList) :
    IsPiece ';' ((array u).write depth).toList := by
  rw [toList_write_array]
  exact h.array

variable {M : List Char → Json → Prop} {v : Json}

lemma inhabits_nullable_iff (h : IsPiece ';' (u.write depth).toList) :
    Inhabits M ((nullable u).write depth).toList v ↔
    Inhabits M (u.write depth).toList v ∨ v = .null := by
  obtain ⟨ps, hps⟩ := exists_alternatives? h
  rw [toList_write_nullable, inhabits_or_iff hps alternatives?_null, inhabits_null_iff]

lemma inhabits_write_array_iff (h : IsPiece ';' (u.write depth).toList) :
    Inhabits M ((array u).write depth).toList v ↔
      ∃ vs, v = .list vs ∧ ∀ x ∈ vs, Inhabits M (u.write depth).toList x := by
  rw [toList_write_array, inhabits_array_iff h]

mutual

lemma isPiece_ofRef (h : IsPiece ';' (u.write depth).toList) (t : TypeRef) :
    IsPiece ';' ((ofRef u t).write depth).toList := by
  cases t with
  | named n => exact isPiece_write_nullable h
  | list t => exact isPiece_write_nullable (isPiece_write_array (isPiece_ofRef h t))
  | nonNull t => exact isPiece_ofMarked h t

lemma isPiece_ofMarked (h : IsPiece ';' (u.write depth).toList) (t : TypeRef) :
    IsPiece ';' ((ofMarked u t).write depth).toList := by
  cases t with
  | named n => exact h
  | list t => exact isPiece_write_array (isPiece_ofRef h t)
  | nonNull t => exact isPiece_ofMarked h t

end

mutual

/-- The values of the printed text of a reference are those of the reference. -/
lemma inhabits_ofRef_iff (h : IsPiece ';' (u.write depth).toList) (t : TypeRef) (v : Json) :
    Inhabits M ((ofRef u t).write depth).toList v ↔
    t.Conforms (Inhabits M (u.write depth).toList) v := by
  cases t with
  | named n => rw [ofRef, inhabits_nullable_iff h, TypeRef.conforms_named_iff]
  | list t =>
    have hitem := isPiece_ofRef h t
    rw [ofRef, inhabits_nullable_iff (isPiece_write_array hitem), inhabits_write_array_iff hitem,
      TypeRef.conforms_list_iff]
    simp only [inhabits_ofRef_iff h t]
  | nonNull t => exact inhabits_ofMarked_iff h t v

lemma inhabits_ofMarked_iff (h : IsPiece ';' (u.write depth).toList) (t : TypeRef) (v : Json) :
    Inhabits M ((ofMarked u t).write depth).toList v ↔
      (TypeRef.nonNull t).Conforms (Inhabits M (u.write depth).toList) v := by
  cases t with
  | named n => rw [ofMarked, TypeRef.conforms_nonNull_named_iff]
  | list t =>
    have hitem := isPiece_ofRef h t
    rw [ofMarked, inhabits_write_array_iff hitem, TypeRef.conforms_nonNull_list_iff]
    simp only [inhabits_ofRef_iff h t]
  | nonNull t => rw [ofMarked, inhabits_ofMarked_iff h t, TypeRef.conforms_nonNull_nonNull_iff]

end

/-! ## Texts that are types -/

/-- Tells that a type has one alternative when it is written: a literal or a record. -/
def isAlone : TypeExpr → Bool
  | literal _ => true
  | record _ => true
  | _ => false

/-- Tells that a type is made of names and types as they are written, and that its unions are of
literals and records. -/
inductive IsFormed : TypeExpr → Prop where
  | named {n : String} (h : IsName n) : IsFormed (.named n)
  | basic {text : String} (h : IsType text.toList) : IsFormed (.basic text)
  | literal (s : String) : IsFormed (.literal s)
  | nullable {t : TypeExpr} (h : IsFormed t) : IsFormed (.nullable t)
  | array {t : TypeExpr} (h : IsFormed t) : IsFormed (.array t)
  | record {ms : List (String × TypeExpr)} (hnames : ∀ m ∈ ms, IsName m.1)
    (h : ∀ m ∈ ms, IsFormed m.2) : IsFormed (.record ms)
  | oneOf {ts : List TypeExpr} (halone : ∀ t ∈ ts, t.isAlone) (h : ∀ t ∈ ts, IsFormed t) :
    IsFormed (.oneOf ts)

/-- Tells that a union of no types stands somewhere in a type without null beside it. -/
inductive HasVoid : TypeExpr → Prop where
  | here : HasVoid (.oneOf [])
  | nullable {t : TypeExpr} (h : HasVoid t) (hne : t ≠ .oneOf []) : HasVoid (.nullable t)
  | array {t : TypeExpr} (h : HasVoid t) : HasVoid (.array t)
  | record {ms : List (String × TypeExpr)} {m : String × TypeExpr} (hm : m ∈ ms) (h : HasVoid m.2) :
    HasVoid (.record ms)
  | oneOf {ts : List TypeExpr} {t : TypeExpr} (ht : t ∈ ts) (h : HasVoid t) : HasVoid (.oneOf ts)

lemma writeAll_eq (depth : Nat) (ts : List TypeExpr) :
    writeAll depth ts = ts.map (write depth) := by
  induction ts with
  | nil => rfl
  | cons t ts ih => rw [writeAll, ih, List.map_cons]

lemma eq_of_mem_indent {c : Char} (h : c ∈ (indent depth).toList) : c = ' ' := by
  unfold indent at h
  induction depth with
  | zero => cases h
  | succ depth ih =>
    rw [Text.repeated, String.toList_append] at h
    rcases List.mem_append.1 h with h | h
    · simpa using h
    · exact ih h

/-- A line break and indentation are blank, and a piece of their own. -/
lemma spec_of_mem_newline {c : Char} (h : c ∈ '\n' :: (indent depth).toList) :
    Text.isBlank c = true ∧ IsPlain c ∧ c ≠ ';' := by
  rcases List.mem_cons.1 h with rfl | h
  · decide
  · obtain rfl := eq_of_mem_indent h
    decide

/-- The inside of a record is cut into its members. -/
lemma exists_pieces?_members {ms : List (String × TypeExpr)} (hnames : ∀ m ∈ ms, IsName m.1)
    (h : ∀ m ∈ ms, IsPiece ';' (m.2.write (depth + 1)).toList) :
    ∃ ps last, pieces? ';' [] ('\n' :: ((writeMembers depth ms).toList ++ (indent depth).toList)) =
      some (ps ++ [last]) ∧ Text.trim last = [] ∧
      ps.mapM member? = some (ms.map fun m => (m.1, ' ' :: (m.2.write (depth + 1)).toList)) := by
  induction ms with
  | nil =>
    refine ⟨[], '\n' :: (indent depth).toList, isPiece_of_isPlain fun c hc =>
      (spec_of_mem_newline hc).2, ?_, rfl⟩
    have hblank : ∀ c ∈ '\n' :: (indent depth).toList, Text.isBlank c = true :=
      fun c hc => (spec_of_mem_newline hc).1
    have htrim := Text.trim_append_of_forall_isBlank hblank []
    rwa [List.append_nil] at htrim
  | cons m ms ih =>
    obtain ⟨name, t⟩ := m
    rw [List.forall_mem_cons] at hnames h
    obtain ⟨ps, last, hps, hlast, hms⟩ := ih hnames.2 h.2
    let line := ('\n' :: (indent (depth + 1)).toList) ++
      (name.toList ++ ':' :: ' ' :: (t.write (depth + 1)).toList)
    have htext : '\n' :: ((writeMembers depth ((name, t) :: ms)).toList ++ (indent depth).toList) =
        line ++ ';' :: '\n' :: ((writeMembers depth ms).toList ++ (indent depth).toList) := by
      simp [writeMembers, line]
    have hline : IsPiece ';' line := by
      have hspace : IsPiece ';' [':', ' '] := by decide
      refine (isPiece_of_isPlain fun c hc => (spec_of_mem_newline hc).2).append ?_
      exact (isPiece_of_isName hnames.1 (by decide)).append (hspace.append h.1)
    refine ⟨line :: ps, last, ?_, hlast, ?_⟩
    · have hfirst : pieces? ';' [] line = some ([] ++ [line]) := hline
      have hrest : pieces? ';' []
          (';' :: '\n' :: ((writeMembers depth ms).toList ++ (indent depth).toList)) =
          some ([] :: (ps ++ [last])) := by
        rw [pieces?_cons_self, hps, Option.map_some]
      rw [htext, pieces?_append hfirst hrest, List.append_nil]
      rfl
    · have hmember : member? line = some (name, ' ' :: (t.write (depth + 1)).toList) :=
        member?_eq (fun c hc => (spec_of_mem_newline hc).1) hnames.1 _
      rw [List.mapM_cons, hmember, hms]
      rfl

lemma toList_write_record (m : String × TypeExpr) (ms : List (String × TypeExpr)) (depth : Nat) :
    ((record (m :: ms)).write depth).toList =
      recordText ('\n' :: ((writeMembers depth (m :: ms)).toList ++ (indent depth).toList)) := by
  rw [write, String.toList_append, String.toList_append, String.toList_append]
  simp [recordText]

/-- A record is written as the text of a record with its members inside. -/
lemma exists_write_record {ms : List (String × TypeExpr)} (hnames : ∀ m ∈ ms, IsName m.1)
    (h : ∀ m ∈ ms, IsPiece ';' (m.2.write (depth + 1)).toList) :
    ∃ inside ps last, ((record ms).write depth).toList = recordText inside ∧
      pieces? ';' [] inside = some (ps ++ [last]) ∧ Text.trim last = [] ∧
      ps.mapM member? = some (ms.map fun m => (m.1, ' ' :: (m.2.write (depth + 1)).toList)) := by
  cases ms with
  | nil => exact ⟨[], [], [], by rw [write]; rfl, rfl, rfl, rfl⟩
  | cons m ms =>
    obtain ⟨ps, last, hps, hlast, hms⟩ := exists_pieces?_members hnames h
    exact ⟨_, ps, last, toList_write_record m ms depth, hps, hlast, hms⟩

/-- What is well formed closes what it opens, and holds semicolons only inside. -/
lemma IsFormed.isPiece {t : TypeExpr} (h : IsFormed t) (depth : Nat) :
    IsPiece ';' (t.write depth).toList := by
  induction h generalizing depth with
  | named h => exact isPiece_of_isName h (by decide)
  | basic h => exact h.isPiece
  | literal s => exact isPiece_quote s (by decide)
  | nullable _ ih => exact isPiece_write_nullable (ih depth)
  | array _ ih => exact isPiece_write_array (ih depth)
  | record hnames _ ih =>
    obtain ⟨inside, ps, last, htext, hps, -⟩ :=
      exists_write_record hnames fun m hm => ih m hm (depth + 1)
    rw [htext]
    exact isPiece_recordText hps (by decide)
  | oneOf _ _ ih =>
    rw [write, writeAll_eq]
    refine isPiece_joinWith fun text htext => ?_
    obtain ⟨t, ht, rfl⟩ := List.mem_map.1 htext
    exact ih t ht depth

lemma alternatives?_of_isAlone {t : TypeExpr} (h : IsFormed t) (halone : t.isAlone) (depth : Nat) :
    alternatives? (t.write depth).toList = some [(t.write depth).toList] := by
  cases h with
  | literal s => exact alternatives?_quote s
  | record hnames h =>
    obtain ⟨inside, ps, last, htext, hps, -⟩ :=
      exists_write_record hnames fun m hm => (h m hm).isPiece (depth + 1)
    rw [htext]
    exact alternatives?_recordText hps
  | _ => cases halone

/-- What is well formed is written as a type, unless a union of no types stands in it. -/
lemma IsFormed.isType {t : TypeExpr} (h : IsFormed t) (hvoid : ¬t.HasVoid) (depth : Nat) :
    IsType (t.write depth).toList := by
  induction h generalizing depth with
  | named h => exact isType_of_isName h
  | basic h => exact h
  | literal s => exact isType_quote s
  | @nullable t _ ih =>
    rw [toList_write_nullable]
    by_cases hempty : t = .oneOf []
    · -- The bar that stands in front then is allowed there.
      subst hempty
      have hwrite : (write depth (.oneOf [])).toList = [] := by rw [write]; rfl
      rw [hwrite]
      exact isType_bar_null
    · exact (ih (fun h => hvoid (.nullable h hempty)) depth).or isType_null
        alternatives?_null (by decide)
  | array _ ih =>
    rw [toList_write_array]
    exact (ih (fun h => hvoid (.array h)) depth).array
  | record hnames hformed ih =>
    obtain ⟨inside, ps, last, htext, hps, hlast, hms⟩ :=
      exists_write_record hnames fun m hm => (hformed m hm).isPiece (depth + 1)
    rw [htext]
    refine isType_recordText hps hlast hms fun _ hmember => ?_
    obtain ⟨m, hm, rfl⟩ := List.mem_map.1 hmember
    exact (ih m hm (fun h => hvoid (.record hm h)) (depth + 1)).cons_blank
  | @oneOf ts halone hformed ih =>
    rw [write, writeAll_eq]
    refine isType_joinWith ?_ fun text htext => ?_
    · rintro hnil
      obtain rfl := List.map_eq_nil_iff.1 hnil
      exact hvoid .here
    · obtain ⟨t, ht, rfl⟩ := List.mem_map.1 htext
      exact ⟨ih t ht (fun h => hvoid (.oneOf ht h)) depth,
        alternatives?_of_isAlone (hformed t ht) (halone t ht) depth⟩

mutual

lemma IsFormed.ofRef {u : TypeExpr} (h : IsFormed u) (t : TypeRef) :
    IsFormed (TypeExpr.ofRef u t) := by
  cases t with
  | named n => exact .nullable h
  | list t => exact .nullable (.array (h.ofRef t))
  | nonNull t => exact h.ofMarked t

lemma IsFormed.ofMarked {u : TypeExpr} (h : IsFormed u) (t : TypeRef) :
    IsFormed (TypeExpr.ofMarked u t) := by
  cases t with
  | named n => exact h
  | list t => exact .array (h.ofRef t)
  | nonNull t => exact h.ofMarked t

end

mutual

/-- A reference has no empty union but those of its named type. -/
lemma HasVoid.of_ofRef {u : TypeExpr} {t : TypeRef} (h : HasVoid (TypeExpr.ofRef u t)) :
    HasVoid u := by
  cases t with
  | named n =>
    rw [TypeExpr.ofRef] at h
    cases h with
    | nullable h => exact h
  | list t =>
    rw [TypeExpr.ofRef] at h
    cases h with
    | nullable h =>
      cases h with
      | array h => exact HasVoid.of_ofRef h
  | nonNull t =>
    rw [TypeExpr.ofRef] at h
    exact HasVoid.of_ofMarked h

lemma HasVoid.of_ofMarked {u : TypeExpr} {t : TypeRef} (h : HasVoid (TypeExpr.ofMarked u t)) :
    HasVoid u := by
  cases t with
  | named n =>
    rw [TypeExpr.ofMarked] at h
    exact h
  | list t =>
    rw [TypeExpr.ofMarked] at h
    cases h with
    | array h => exact HasVoid.of_ofRef h
  | nonNull t =>
    rw [TypeExpr.ofMarked] at h
    exact HasVoid.of_ofMarked h

end

end TypeExpr

namespace Branch

mutual

/-- The keys of the fields of a branch, however deep. -/
def keys : Branch → List String
  | .field key _ inside => key :: allKeys inside
  | .within _ inside => allKeys inside

/-- The keys of the fields of several branches. -/
def allKeys : List Branch → List String
  | [] => []
  | b :: rest => keys b ++ allKeys rest

end

lemma allKeys_append (as bs : List Branch) : allKeys (as ++ bs) = allKeys as ++ allKeys bs := by
  induction as with
  | nil => rfl
  | cons a as ih => rw [List.cons_append, allKeys, allKeys, ih, List.append_assoc]

lemma mem_allKeys_flatMap {α : Type} {k : String} {as : List α} {f : α → List Branch}
    (h : k ∈ allKeys (as.flatMap f)) : ∃ a ∈ as, k ∈ allKeys (f a) := by
  induction as with
  | nil => cases h
  | cons a as ih =>
    rw [List.flatMap_cons, allKeys_append] at h
    rcases List.mem_append.1 h with h | h
    · exact ⟨a, List.mem_cons_self, h⟩
    · obtain ⟨b, hb, h⟩ := ih h
      exact ⟨b, List.mem_cons_of_mem _ hb, h⟩

variable {counts : String → Bool}

mutual

/-- The keys of fields that count, and those inside them, are keys of the branches. -/
lemma mem_keys_of_mem_fields {b : Branch} {e : Entry} (h : e ∈ fields counts b) :
    ∀ k ∈ e.key :: allKeys e.inside, k ∈ keys b := by
  cases b with
  | field key name inside =>
    obtain rfl := List.mem_singleton.1 h
    exact fun k hk => hk
  | within condition inside =>
    cases condition with
    | none => exact mem_allKeys_of_mem_allFields h
    | some c =>
      rw [fields] at h
      split at h
      · exact mem_allKeys_of_mem_allFields h
      · cases h

lemma mem_allKeys_of_mem_allFields {bs : List Branch} {e : Entry} (h : e ∈ allFields counts bs) :
    ∀ k ∈ e.key :: allKeys e.inside, k ∈ allKeys bs := by
  cases bs with
  | nil => cases h
  | cons b rest =>
    intro k hk
    rw [allKeys, List.mem_append]
    rw [allFields] at h
    rcases List.mem_append.1 h with h | h
    · exact .inl (mem_keys_of_mem_fields h k hk)
    · exact .inr (mem_allKeys_of_mem_allFields h k hk)

end

/-- The keys of entries, and those inside them, are keys of the branches. -/
lemma mem_allKeys_of_mem_entries {bs : List Branch} {e : Entry} (h : e ∈ entries counts bs) :
    ∀ k ∈ e.key :: allKeys e.inside, k ∈ allKeys bs := by
  intro k hk
  obtain ⟨hinside, first, hfirst, -⟩ := spec_of_mem_gathered h
  rcases List.mem_cons.1 hk with rfl | hk
  · have hkey : first.key = e.key := by simpa using List.find?_some hfirst
    rw [← hkey]
    exact mem_allKeys_of_mem_allFields (List.mem_of_find?_eq_some hfirst) _ List.mem_cons_self
  · rw [hinside] at hk
    obtain ⟨f, hf, hk⟩ := mem_allKeys_flatMap hk
    exact mem_allKeys_of_mem_allFields (List.mem_of_mem_filter hf) k (List.mem_cons_of_mem _ hk)

section Selections

variable {fragments : Table Fragment} {IsKey : String → Prop}

/-- Branches have the keys of the selections that they are made of, and of the fragments. -/
lemma mem_allKeys_ofSelection
    (hfragments : ∀ n f, fragments.get? n = some f → ∀ k ∈ Selection.allKeys f.selections, IsKey k)
    {remaining : List String} {x : Selection} (hx : ∀ k ∈ x.keys, IsKey k) :
    ∀ k ∈ allKeys (ofSelection fragments remaining x), IsKey k := by
  have hbelow : ∀ {selections : List Selection} {remaining : List String},
      (∀ k ∈ Selection.allKeys selections, IsKey k) →
      (∀ x ∈ selections, (∀ k ∈ x.keys, IsKey k) →
        ∀ k ∈ allKeys (ofSelection fragments remaining x), IsKey k) →
      ∀ k ∈ allKeys (selections.flatMap (ofSelection fragments remaining)), IsKey k := by
    intro selections remaining hkeys ih k hk
    obtain ⟨x, hx, hk⟩ := mem_allKeys_flatMap hk
    exact ih x hx (fun k hk => hkeys k (Selection.mem_allKeys_of_mem hx hk)) k hk
  fun_induction ofSelection fragments remaining x with
  | case1 remaining aliasName name selections ih =>
    rw [Selection.keys, List.forall_mem_cons] at hx
    simp only [List.flatMap_subtype, List.unattach_attach, allKeys, keys, List.append_nil,
      List.forall_mem_cons]
    exact ⟨hx.1, hbelow hx.2 ih⟩
  | case2 remaining condition selections ih =>
    simp only [List.flatMap_subtype, List.unattach_attach, allKeys, keys, List.append_nil]
    exact hbelow hx ih
  | case3 remaining n hn f hf ih =>
    simp only [allKeys, keys, List.append_nil]
    exact hbelow (hfragments n f hf) fun x _ => ih x
  | case4 => exact fun _ hk => absurd hk List.not_mem_nil
  | case5 => exact fun _ hk => absurd hk List.not_mem_nil

end Selections

end Branch

namespace Catalogue

variable {s : Schema} {root : Option Path} {docs : List SourceDocument} {c : Catalogue}

/-- What a catalogue selects has keys that are names, in operations and in fragments. -/
lemma isName_of_mem_allKeys (h : ofDocuments s root docs = .ok c) {selections : List Selection}
    (hselections : (∃ op ∈ c.operations, op.selections = selections) ∨
      ∃ n f, c.fragments.get? n = some f ∧ f.selections = selections) :
    ∀ k ∈ Branch.allKeys (Branch.ofSelections c.fragments selections), IsName k := by
  have hkeys : ∀ k ∈ Selection.allKeys selections, IsName k := by
    rcases hselections with ⟨op, hop, rfl⟩ | ⟨n, f, hf, rfl⟩
    · exact isName_of_mem_operation h hop
    · exact isName_of_mem_fragment h hf
  intro k hk
  obtain ⟨x, hx, hk⟩ := Branch.mem_allKeys_flatMap hk
  exact Branch.mem_allKeys_ofSelection (fun n f hf => isName_of_mem_fragment h hf)
    (fun k hk => hkeys k (Selection.mem_allKeys_of_mem hx hk)) k hk

end Catalogue

namespace Shape

variable {s : Schema} {scalars : Scalars} {bs : List Branch}

/-- Tells that the types of a schema have names, and that what stands for scalars are types. -/
structure IsWritable (s : Schema) (scalars : Scalars) : Prop where
  name {n : String} {kind : TypeKind} (h : s.kind? n = some kind) : IsName n
  scalar {n text : String} (h : scalars.get? n = some text) : IsType text.toList

/-- The types of a schema that is read from a text have names. -/
lemma isWritable_of_parse {text : String} (h : Schema.parse text = .ok s)
    (hscalars : ∀ {n text}, scalars.get? n = some text → IsType text.toList) :
    IsWritable s scalars where
  name hkind := by
    obtain ⟨t, ht, -⟩ := Option.map_eq_some_iff.1 hkind
    exact Schema.isName_of_parse h ht
  scalar := hscalars

lemma IsWritable.isFormed_scalar (h : IsWritable s scalars) (n : String) :
    (Shape.scalar scalars n).IsFormed := by
  have hword : ∀ word ∈ ["string", "number", "boolean", "any"], (TypeExpr.basic word).IsFormed := by
    intro word hword
    have hnames : ∀ word ∈ ["string", "number", "boolean", "any"], IsName word := by decide
    exact .basic (isType_of_isName (hnames word hword))
  unfold Shape.scalar
  split
  next text htext => exact .basic (h.scalar htext)
  next =>
    split
    · exact hword _ (by simp)
    · split
      · exact hword _ (by simp)
      · split
        · exact hword _ (by simp)
        · exact hword _ (by simp)

lemma IsWritable.isFormed_inputLeaf (h : IsWritable s scalars) (n : String) :
    (inputLeaf s scalars n).IsFormed := by
  unfold inputLeaf
  split
  next => exact h.isFormed_scalar n
  next => exact h.isFormed_scalar n
  next hkind => exact .named (h.name hkind)

lemma isFormed_typename (s : Schema) (type : String) : (typename s type).IsFormed := by
  unfold typename
  split
  · exact .basic (isType_of_isName (by decide))
  · refine .oneOf ?_ ?_ <;> intro t ht
    · obtain ⟨n, -, rfl⟩ := List.mem_map.1 ht
      rfl
    · obtain ⟨n, -, rfl⟩ := List.mem_map.1 ht
      exact .literal n

/-- What a selection yields is well formed. -/
lemma IsWritable.isFormed_leaf (h : IsWritable s scalars) (bs : List Branch)
    (hkeys : ∀ k ∈ Branch.allKeys bs, IsName k) (type : String) :
    (leaf s scalars type bs).IsFormed := by
  have hobject (concrete : String) : (object s scalars concrete bs).IsFormed := by
    rw [object_eq]
    refine .record ?_ ?_ <;> intro m hm <;> obtain ⟨e, he, rfl⟩ := List.mem_map.1 hm
    · exact hkeys _ (Branch.mem_allKeys_of_mem_entries he _ List.mem_cons_self)
    · have hinside := fun k hk =>
        hkeys k (Branch.mem_allKeys_of_mem_entries he k (List.mem_cons_of_mem _ hk))
      dsimp only
      unfold memberType
      split
      · exact isFormed_typename s concrete
      · split
        · exact .basic (isType_of_isName (by decide))
        next f _ => exact (h.isFormed_leaf e.inside hinside f.type.base).ofRef f.type
  have hselection : (selection s scalars type bs).IsFormed := by
    by_cases hsplits : Splits s type bs
    · rw [selection_of_splits hsplits]
      refine .oneOf ?_ ?_ <;> intro t ht <;> obtain ⟨c, -, rfl⟩ := List.mem_map.1 ht
      · rw [object_eq]
        rfl
      · exact hobject c
    · rw [selection_of_not_splits _ hsplits]
      exact hobject type
  rw [leaf]
  split
  next hkind => exact .named (h.name hkind)
  next => exact hselection
  next => exact hselection
  next => exact hselection
  next => exact h.isFormed_scalar type
  next => exact h.isFormed_scalar type
  next => exact h.isFormed_scalar type
termination_by Branch.totalWeight bs
decreasing_by exact Branch.totalWeight_inside_lt he

/-! ## Unions of no types -/

lemma not_hasVoid_scalar (scalars : Scalars) (n : String) : ¬(Shape.scalar scalars n).HasVoid := by
  unfold Shape.scalar
  split
  · nofun
  · split
    · nofun
    · split
      · nofun
      · split <;> nofun

lemma not_hasVoid_inputLeaf (s : Schema) (scalars : Scalars) (n : String) :
    ¬(inputLeaf s scalars n).HasVoid := by
  unfold inputLeaf
  split
  · exact not_hasVoid_scalar scalars n
  · exact not_hasVoid_scalar scalars n
  · nofun

lemma not_hasVoid_typename (s : Schema) (type : String) : ¬(typename s type).HasVoid := by
  unfold typename
  split
  · nofun
  next hnames =>
    intro h
    generalize hts : (s.possibleTypes type).map TypeExpr.literal = ts at h
    cases h with
    | here => exact hnames (List.map_eq_nil_iff.1 hts)
    | oneOf ht h =>
      subst hts
      obtain ⟨n, -, rfl⟩ := List.mem_map.1 ht
      cases h

/-- Where every interface and union has an object type, nothing that a selection yields is a union
of no types. -/
lemma not_hasVoid_leaf (h : ∀ n, (s.get? n).any (·.isAbstract) → s.possibleTypes n ≠ [])
    (scalars : Scalars) (bs : List Branch) (type : String) : ¬(leaf s scalars type bs).HasVoid := by
  have hobject (concrete : String) : ¬(object s scalars concrete bs).HasVoid := by
    rw [object_eq]
    intro hvoid
    cases hvoid with
    | record hm hvoid =>
      obtain ⟨e, he, rfl⟩ := List.mem_map.1 hm
      dsimp only at hvoid
      unfold memberType at hvoid
      split at hvoid
      · exact not_hasVoid_typename s concrete hvoid
      · split at hvoid
        · cases hvoid
        · exact not_hasVoid_leaf h scalars e.inside _ hvoid.of_ofRef
  have hselection : ¬(selection s scalars type bs).HasVoid := by
    by_cases hsplits : Splits s type bs
    · rw [selection_of_splits hsplits]
      intro hvoid
      generalize hts : ((s.possibleTypes type).map fun c => object s scalars c bs) = ts at hvoid
      cases hvoid with
      | here => exact h type hsplits.1 (List.map_eq_nil_iff.1 hts)
      | oneOf ht hvoid =>
        subst hts
        obtain ⟨c, -, rfl⟩ := List.mem_map.1 ht
        exact hobject c hvoid
    · rw [selection_of_not_splits _ hsplits]
      exact hobject type
  rw [leaf]
  split
  next => rintro ⟨⟩
  next => exact hselection
  next => exact hselection
  next => exact hselection
  next => exact not_hasVoid_scalar scalars type
  next => exact not_hasVoid_scalar scalars type
  next => exact not_hasVoid_scalar scalars type
termination_by Branch.totalWeight bs
decreasing_by exact Branch.totalWeight_inside_lt he

/-! ## Printed references -/

/-- What a field of a type yields, with branches inside it. -/
def output (s : Schema) (scalars : Scalars) (t : TypeRef) (bs : List Branch) : TypeExpr :=
  .ofRef (leaf s scalars t.base bs) t

/-- Tells that a text is a type that admits what a reference does, where another text stands for the
type that it names. -/
structure Mirrors (t : TypeRef) (leaf text : String) : Prop where
  isType : IsType text.toList
  inhabits_iff (M : List Char → Json → Prop) (v : Json) :
    Inhabits M text.toList v ↔ t.Conforms (Inhabits M leaf.toList) v
  /-- If null is no value of the named type, it is one of the reference just if there is no mark
  around it. -/
  inhabits_null_iff {M : List Char → Json → Prop} (h : ¬Inhabits M leaf.toList .null) :
    Inhabits M text.toList .null ↔ t.isNonNull = false

lemma mirrors_ofRef {u : TypeExpr} (hu : u.IsFormed) {t : TypeRef}
    (hvoid : ¬(TypeExpr.ofRef u t).HasVoid) (depth : Nat) :
    Mirrors t (u.write depth) ((TypeExpr.ofRef u t).write depth) where
  isType := (hu.ofRef t).isType hvoid depth
  inhabits_iff _ v := TypeExpr.inhabits_ofRef_iff (hu.isPiece depth) t v
  inhabits_null_iff h :=
    (TypeExpr.inhabits_ofRef_iff (hu.isPiece depth) t .null).trans (TypeRef.conforms_null_iff h)

/-- What is printed for a reference that is given is a type that mirrors it. -/
lemma IsWritable.mirrors_input (h : IsWritable s scalars) (t : TypeRef) (depth : Nat) :
    Mirrors t ((inputLeaf s scalars t.base).write depth) ((input s scalars t).write depth) := by
  have hvoid : ¬(input s scalars t).HasVoid :=
    fun hvoid => not_hasVoid_inputLeaf s scalars t.base hvoid.of_ofRef
  exact mirrors_ofRef (h.isFormed_inputLeaf t.base) hvoid depth

/-- So is what is printed for one that is yielded, unless a union of no types stands in it. -/
lemma IsWritable.mirrors_output (h : IsWritable s scalars) {bs : List Branch}
    (hkeys : ∀ k ∈ Branch.allKeys bs, IsName k) {t : TypeRef}
    (hvoid : ¬(output s scalars t bs).HasVoid) (depth : Nat) :
    Mirrors t ((leaf s scalars t.base bs).write depth) ((output s scalars t bs).write depth) :=
  mirrors_ofRef (h.isFormed_leaf bs hkeys t.base) hvoid depth

/-- Where every interface and union has an object type, no union of no types stands in a
reference. -/
lemma not_hasVoid_output (h : ∀ n, (s.get? n).any (·.isAbstract) → s.possibleTypes n ≠ [])
    (scalars : Scalars) (bs : List Branch) (t : TypeRef) : ¬(output s scalars t bs).HasVoid :=
  fun hvoid => not_hasVoid_leaf h scalars bs t.base hvoid.of_ofRef

/-- What is printed for a reference, to be given or to be yielded, is a type that admits null where
the reference is not marked, lists where it is a list, and else the values of what is printed for
the type that it names, unless a union of no types stands in it. Around the type that it names both
are printed with the same text. -/
theorem exists_mirrors (t : TypeRef) :
    ∃ front back : String, ∀ (s : Schema) (scalars : Scalars) (depth : Nat),
    (input s scalars t).write depth = front ++ (inputLeaf s scalars t.base).write depth ++ back ∧
    (∀ bs, (output s scalars t bs).write depth =
      front ++ (leaf s scalars t.base bs).write depth ++ back) ∧
    (IsWritable s scalars →
      Mirrors t ((inputLeaf s scalars t.base).write depth) ((input s scalars t).write depth) ∧
      ∀ bs, (∀ k ∈ Branch.allKeys bs, IsName k) → ¬(output s scalars t bs).HasVoid →
        Mirrors t ((leaf s scalars t.base bs).write depth)
          ((output s scalars t bs).write depth)) := by
  obtain ⟨front, back, haround⟩ := TypeExpr.exists_around_ofRef t
  exact ⟨front, back, fun s scalars depth => ⟨haround _ depth, fun bs => haround _ depth, fun h =>
    ⟨h.mirrors_input t depth, fun bs hkeys hvoid => h.mirrors_output hkeys hvoid depth⟩⟩⟩

/-- A branch that narrows a node to a user. -/
def userBranch : Branch :=
  .within (some "User") [.field "id" "id" []]

lemma isWritable_sampleSchema : IsWritable Catalogue.sampleSchema .empty := by
  refine ⟨fun h => ?_, fun h => by simp at h⟩
  have hnames : ∀ t ∈ Catalogue.sampleTypes, IsName t.name := by decide
  obtain ⟨t, ht, -⟩ := Option.map_eq_some_iff.1 h
  obtain ⟨hmem, rfl⟩ := get?_sampleSchema_eq_some_iff.1 ht
  exact hnames t hmem

lemma possibleTypes_sampleSchema (n : String)
    (h : (Catalogue.sampleSchema.get? n).any (·.isAbstract)) :
    Catalogue.sampleSchema.possibleTypes n ≠ [] := by
  cases ht : Catalogue.sampleSchema.get? n with
  | none => simp [ht] at h
  | some t =>
    rw [ht, Option.any_some] at h
    have hnode : ∀ t ∈ Catalogue.sampleTypes, t.isAbstract → t.name = "Node" := by decide
    obtain ⟨hmem, rfl⟩ := get?_sampleSchema_eq_some_iff.1 ht
    have hnodes : Catalogue.sampleSchema.possibleTypes "Node" = ["Group", "User"] := by cbv
    rw [hnode t hmem h, hnodes]
    exact List.cons_ne_nil _ _

theorem exists_mirrors_sample :
    IsWritable Catalogue.sampleSchema .empty ∧ (∀ k ∈ Branch.allKeys [userBranch], IsName k) ∧
      ¬(output Catalogue.sampleSchema .empty (.list (.nonNull (.named "Node")))
        [userBranch]).HasVoid ∧
        Mirrors (.list (.nonNull (.named "Node")))
          ((leaf Catalogue.sampleSchema .empty "Node" [userBranch]).write 0)
          ((output Catalogue.sampleSchema .empty (.list (.nonNull (.named "Node")))
            [userBranch]).write 0) := by
  have hkeys : ∀ k ∈ Branch.allKeys [userBranch], IsName k := by decide
  have hvoid :
      ¬(output Catalogue.sampleSchema .empty (.list (.nonNull (.named "Node")))
        [userBranch]).HasVoid :=
    not_hasVoid_output possibleTypes_sampleSchema .empty [userBranch] _
  obtain ⟨front, back, h⟩ := exists_mirrors (.list (.nonNull (.named "Node")))
  obtain ⟨-, -, h⟩ := h Catalogue.sampleSchema .empty 0
  exact ⟨isWritable_sampleSchema, hkeys, hvoid,
    (h isWritable_sampleSchema).2 [userBranch] hkeys hvoid⟩

/-! ## Printed references of accepted documents -/

/-- Branches stand somewhere in the declarations of a catalogue: they are those of an operation or
of a fragment, or those that are put together for a field of a type. -/
inductive IsSelected (s : Schema) (c : Catalogue) : List Branch → Prop where
  | operation {op : Operation} : op ∈ c.operations →
    IsSelected s c (Branch.ofSelections c.fragments op.selections)
  | fragment {name : String} {f : Fragment} : c.fragments.get? name = some f →
    IsSelected s c (Branch.ofSelections c.fragments f.selections)
  | field {bs : List Branch} {concrete : String} {e : Branch.Entry} : IsSelected s c bs →
    e ∈ Branch.entries (fun n => s.applies n concrete) bs → IsSelected s c e.inside

/-- The keys of accepted documents are names, however deep. -/
lemma IsSelected.isName {root : Option Path} {docs : List SourceDocument} {c : Catalogue}
    (hc : Catalogue.ofDocuments s root docs = .ok c) (h : IsSelected s c bs) :
    ∀ k ∈ Branch.allKeys bs, IsName k := by
  induction h with
  | operation hop => exact Catalogue.isName_of_mem_allKeys hc (.inl ⟨_, hop, rfl⟩)
  | fragment hf => exact Catalogue.isName_of_mem_allKeys hc (.inr ⟨_, _, hf, rfl⟩)
  | field _ he ih =>
    exact fun k hk => ih k (Branch.mem_allKeys_of_mem_entries he k (List.mem_cons_of_mem _ hk))

/-- In a schema that is read from a text, and for documents that are accepted, what is printed for a
reference is a type that mirrors it, wherever the reference stands, unless a union of no types
stands in it: and none does where every interface and union has an object type. -/
theorem mirrors_of_ofDocuments {text : String} (hs : Schema.parse text = .ok s)
    (hscalars : ∀ {n text}, scalars.get? n = some text → IsType text.toList) {root : Option Path}
    {docs : List SourceDocument} {c : Catalogue} (hc : Catalogue.ofDocuments s root docs = .ok c)
    (t : TypeRef) (depth : Nat) :
    Mirrors t ((inputLeaf s scalars t.base).write depth) ((input s scalars t).write depth) ∧
      ∀ bs, IsSelected s c bs →
        (¬(output s scalars t bs).HasVoid ∨ ∀ n, (s.get? n).any (·.isAbstract) →
          s.possibleTypes n ≠ []) →
          Mirrors t ((leaf s scalars t.base bs).write depth)
            ((output s scalars t bs).write depth) := by
  have hwritable : IsWritable s scalars := isWritable_of_parse hs hscalars
  refine ⟨hwritable.mirrors_input t depth, fun bs hbs hvoid => ?_⟩
  have hnone : ¬(output s scalars t bs).HasVoid :=
    hvoid.elim id fun h => not_hasVoid_output h scalars bs t
  exact hwritable.mirrors_output (hbs.isName hc) hnone depth

/-! ## An interface without object types -/

/-- The types of a schema in which a field of an interface with an object type is of one without any
where it is read. -/
def voidTypes : List SchemaType :=
  [.bare "ID" .scalar none, .bare "String" .scalar none, Catalogue.sampleNode,
    Catalogue.sampleObject "Leaf" ["Node"]
      [Catalogue.sampleField "id" "ID", Catalogue.sampleField "name" "String"],
    { SchemaType.bare "Inner" .interface none with
      fields := [Catalogue.sampleField "id" "ID"], interfaces := ["Node"] },
    { SchemaType.bare "Root" .interface none with fields := [Catalogue.sampleField "node" "Node"] },
    Catalogue.sampleObject "Tree" ["Root"] [⟨"node", .nonNull (.named "Inner"), [], none⟩],
    Catalogue.sampleObject "Query" [] [Catalogue.sampleField "tree" "Tree"]]

/-- The schema of these types. -/
def voidSchema : Schema :=
  Catalogue.schemaOf voidTypes

/-- A document that narrows the field. -/
def voidDocument : SourceDocument where
  path := "q.graphql"
  source :=
    "query q \x7b tree \x7b ... on Root \x7b node \x7b ... on Leaf \x7b name \x7d \x7d \x7d \x7d \x7d"

/-- The text of the type of the document's operation. -/
def voidText : String :=
  "\x7b\n  tree: \x7b\n    node: ;\n  \x7d | null;\n\x7d"

lemma read?_voidDocument :
    Document.read? voidDocument.source = some [.operation ⟨.query, some "q", [], [],
    [.field none "tree" [] [] [.inline (some "Root") [] [.field none "node" [] []
      [.inline (some "Leaf") [] [.field none "name" [] [] []]]]]]⟩] := by
  cbv

lemma write_voidDocument : (Catalogue.ofDocuments voidSchema none [voidDocument]).map (fun c =>
    c.operations.map fun op =>
      (object voidSchema .empty op.rootType
        (Branch.ofSelections c.fragments op.selections)).write 0) = .ok [voidText] := by
  rw [Catalogue.ofDocuments_singleton read?_voidDocument]
  cbv

/-- A narrowed interface without object types is printed as nothing, so a member of that type has
none. -/
theorem not_isType_void :
    (Catalogue.ofDocuments voidSchema none [voidDocument]).map (fun c =>
      c.operations.map fun op =>
        (object voidSchema .empty op.rootType
          (Branch.ofSelections c.fragments op.selections)).write 0) = .ok [voidText] ∧
      ¬IsType voidText.toList ∧
      (output voidSchema .empty (.nonNull (.named "Inner"))
        [.within (some "Leaf") [.field "name" "name" []]]).write 2 = "" ∧
      ¬IsType "".toList := by
  have hblank : ¬IsType " ".toList := not_isType_of_blank (by decide)
  have hnode : ¬IsType " \x7b\n    node: ;\n  \x7d | null".toList := by
    have halternatives : alternatives? " \x7b\n    node: ;\n  \x7d | null".toList =
        some [recordText "\n    node: ;\n  ".toList, nullText] := by decide +kernel
    have hmembers : members? "\n    node: ;\n  ".toList = some [("node", " ".toList)] := by
      decide +kernel
    exact not_isType_of_member halternatives List.mem_cons_self hmembers List.mem_cons_self hblank
  have htree : ¬IsType voidText.toList := by
    have halternatives : alternatives? voidText.toList =
        some [recordText "\n  tree: \x7b\n    node: ;\n  \x7d | null;\n".toList] := by
          decide +kernel
    have hmembers : members? "\n  tree: \x7b\n    node: ;\n  \x7d | null;\n".toList =
        some [("tree", " \x7b\n    node: ;\n  \x7d | null".toList)] := by decide +kernel
    exact not_isType_of_member halternatives List.mem_cons_self hmembers List.mem_cons_self hnode
  exact ⟨write_voidDocument, htree, by cbv, not_isType_of_blank rfl⟩

end Shape

end OperationGate
