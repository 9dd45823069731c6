import Mathlib
import OperationGate.Proofs.Json.MemberOrder
import OperationGate.Proofs.Table
import OperationGate.Proofs.Text.Parts
import OperationGate.Response

/-!
# The decoding of responses

A response is decoded from a record whose errors, if there are any, are written as lists of the
required shapes (`Json.IsResponse`). Errors and their locations may be written by name or as lists
of their fields in order, so the fields of both are looked up in one way (`Json.part?`), and what
decoding them comes to is said once for all records with known fields (`Json.fields?_eq_some_iff`).

Encoding is not the inverse of decoding as texts go: empty parts and null extensions are left out,
fields that are not known are dropped, and data that is missing is written as null. What is left is
stable: a decoded response is encoded and decoded as itself, and nothing is lost on the way
(`Response.spec_ofJson?`).
-/

namespace OperationGate

open Json

/-! ## Fields -/

namespace Json

/-- The field of a value: the member under its name, or the item at its place. -/
def part? (v : Json) (name : String) (i : Nat) : Option Json :=
  match v with
  | .record members => Table.find? name members
  | .list items => items[i]?
  | _ => none

/-- Tells that a value is a record of some number of fields, by name or in order. -/
inductive IsRecordOf (n : Nat) : Json → Prop where
  | named (members : List (String × Json)) : IsRecordOf n (.record members)
  | listed {items : List Json} (h : items.length ≤ n) : IsRecordOf n (.list items)

/-- Tells that a field must be there. Only a field that has a default may be missing in a list. -/
def Presence.Holds (v : Json) : Presence → Prop
  | .required => True
  | .nullable => ∃ items, v = .list items
  | .defaulted => False

/-- The fields of a value are found by their names or places. -/
theorem fields?_eq_some_iff {fields : List (String × Presence)} {v : Json}
    {parts : List (Option Json)} :
    v.fields? fields = some parts ↔ v.IsRecordOf fields.length ∧
      List.Forall₂ (fun f part => v.part? f.1.1 f.2 = part ∧ (f.1.2.Holds v → part.isSome))
        fields.zipIdx parts := by
  have hnone : ∀ {v : Json}, (∀ members, v ≠ .record members) → (∀ items, v ≠ .list items) →
      ¬v.IsRecordOf fields.length := by
    rintro v hrecord hlist (members | hitems)
    · exact hrecord _ rfl
    · exact hlist _ rfl
  cases v with
  | record members =>
    rw [fields?, mapM_eq_some_iff, and_iff_right (.named members)]
    conv_lhs => rw [← List.zipIdx_map_fst 0 fields, List.forall₂_map_left_iff]
    refine forall₂_congr_of_iff ?_
    rintro ⟨⟨name, presence⟩, i⟩ part
    dsimp only [part?]
    cases Table.find? name members <;> cases presence <;> cases part <;> simp [Presence.Holds]
  | list items =>
    rw [fields?]
    split
    next hlong =>
      refine iff_of_false nofun ?_
      rintro ⟨hform | hform, -⟩
      omega
    next hfits =>
      rw [mapM_eq_some_iff, and_iff_right (.listed (Nat.not_lt.1 hfits))]
      refine forall₂_congr_of_iff ?_
      rintro ⟨⟨name, presence⟩, i⟩ part
      dsimp only [part?]
      cases items[i]? <;> cases presence <;> cases part <;> simp [Presence.Holds]
  | null => simp [fields?, hnone]
  | bool b => simp [fields?, hnone]
  | number n => simp [fields?, hnone]
  | text s => simp [fields?, hnone]

/-- The items of a list that may be missing. -/
def itemsOf (v : Option Json) : List Json :=
  (v.bind items?).getD []

/-- Tells that a value is a list, if it is there, and that its items are as required. -/
def IsListOf (IsItem : Json → Prop) (v : Option Json) : Prop :=
  ∀ w ∈ v, ∃ items, w = .list items ∧ ∀ item ∈ items, IsItem item

/-! ## What a value tells -/

/-- Tells that a value is a location: a line and a column, whole numbers of 64 bits. -/
structure IsLocation (v : Json) : Prop where
  form : v.IsRecordOf 2
  line : ∃ n, v.part? "line" 0 = some (.number (.integer n)) ∧ NumberSource.isWord n
  column : ∃ n, v.part? "column" 1 = some (.number (.integer n)) ∧ NumberSource.isWord n

/-- Tells that a value is an error: a message, and lists of locations and of steps of a path. -/
structure IsError (v : Json) : Prop where
  form : v.IsRecordOf 4
  message : ∃ s, v.part? "message" 0 = some (.text s)
  locations : IsListOf IsLocation (v.part? "locations" 1)
  path : IsListOf (fun _ => True) (v.part? "path" 2)

/-- Tells that a value is a response: a record whose errors, if there are any, are a list of
errors. -/
def IsResponse (v : Json) : Prop :=
  ∃ members, v = .record members ∧ IsListOf IsError (Table.find? "errors" members)

/-- Tells that a value has the line and the column of a location. -/
structure TellsLocation (v : Json) (l : Location) : Prop where
  line : v.part? "line" 0 = some (.number (.integer l.line))
  column : v.part? "column" 1 = some (.number (.integer l.column))

/-- Tells that a value has the message, the locations, the path and the extensions of an error. Null
is no extension. -/
structure TellsError (v : Json) (e : ResponseError) : Prop where
  message : v.part? "message" 0 = some (.text e.message)
  locations : List.Forall₂ TellsLocation (itemsOf (v.part? "locations" 1)) e.locations
  path : itemsOf (v.part? "path" 2) = e.path
  extensions : ∀ w, e.extensions = some w ↔ v.part? "extensions" 3 = some w ∧ w ≠ .null

end Json

/-- Tells that the numbers of a location have 64 bits. -/
structure Location.IsNormal (l : Location) : Prop where
  line : NumberSource.isWord l.line
  column : NumberSource.isWord l.column

/-- Tells that the locations of an error are normal, and that its extensions are not null. -/
structure ResponseError.IsNormal (e : ResponseError) : Prop where
  locations : ∀ l ∈ e.locations, l.IsNormal
  extensions : e.extensions ≠ some .null

/-! ## Lists -/

namespace ResponseError

lemma listOf?_eq_some_iff_forall₂ {α : Type} {f : Json → Option α} {v : Option Json} {as : List α} :
    listOf? f v = some as ↔
    IsListOf (fun _ => True) v ∧ List.Forall₂ (fun item a => f item = some a) (itemsOf v) as := by
  cases v with
  | none => simp [listOf?, IsListOf, itemsOf, eq_comm]
  | some w => cases w <;> simp [listOf?, IsListOf, itemsOf, items?, mapM_eq_some_iff]

/-- A list that may be missing is decoded item by item. -/
lemma listOf?_eq_some_iff {α : Type} {f : Json → Option α} {IsItem : Json → Prop}
    {Tells : Json → α → Prop} {IsNormal : α → Prop}
    (h : ∀ v a, f v = some a ↔ IsItem v ∧ Tells v a ∧ IsNormal a) {v : Option Json} {as : List α} :
    listOf? f v = some as ↔
    IsListOf IsItem v ∧ List.Forall₂ Tells (itemsOf v) as ∧ ∀ a ∈ as, IsNormal a := by
  have hitems : ∀ {vs : List Json} {as : List α}, List.Forall₂
      (fun item a => f item = some a) vs as ↔
      (∀ v ∈ vs, IsItem v) ∧ List.Forall₂ Tells vs as ∧ ∀ a ∈ as, IsNormal a := by
    intro vs as
    rw [forall₂_congr_of_iff h, List.forall₂_and_left]
    refine and_congr_right' ⟨fun hboth => ?_, fun hboth => ?_⟩
    · induction hboth with
      | nil => exact ⟨.nil, nofun⟩
      | cons hhead _ ih => exact ⟨.cons hhead.1 ih.1, List.forall_mem_cons.2 ⟨hhead.2, ih.2⟩⟩
    · obtain ⟨htells, hnormal⟩ := hboth
      induction htells with
      | nil => exact .nil
      | cons hhead _ ih =>
        rw [List.forall_mem_cons] at hnormal
        exact .cons ⟨hhead, hnormal.1⟩ (ih hnormal.2)
  rw [listOf?_eq_some_iff_forall₂, hitems, ← and_assoc]
  refine and_congr_left fun _ => ?_
  cases v with
  | none => simp [IsListOf, itemsOf]
  | some w => cases w <;> simp [IsListOf, itemsOf, items?]

lemma exists_listOf?_iff {α : Type} {f : Json → Option α} {IsItem : Json → Prop}
    (h : ∀ v, (∃ a, f v = some a) ↔ IsItem v) {v : Option Json} :
    (∃ as, listOf? f v = some as) ↔ IsListOf IsItem v := by
  simp only [listOf?_eq_some_iff_forall₂, exists_and_left, exists_forall₂_iff, h]
  cases v with
  | none => simp [IsListOf, itemsOf]
  | some w => cases w <;> simp [IsListOf, itemsOf, items?]

/-- A list is decoded from the list of what its items are decoded from. -/
lemma listOf?_map {α : Type} {f : Json → Option α} {g : α → Json} {as : List α}
    (h : ∀ a ∈ as, f (g a) = some a) : listOf? f (some (.list (as.map g))) = some as :=
  mapM_map_eq_self h

lemma optional_eq_some_iff {v : Option Json} {w : Json} :
    optional v = some w ↔ v = some w ∧ w ≠ .null := by
  cases v with
  | none => simp [optional]
  | some u => cases u <;> simp [optional] <;> rintro rfl <;> simp

lemma text?_eq_some_iff {v : Json} {s : String} : v.text? = some s ↔ v = .text s := by
  cases v <;> simp [text?]

end ResponseError

/-! ## Locations -/

namespace Location

lemma word?_eq_some_iff {v : Json} {n : Int} :
    word? v = some n ↔ v = .number (.integer n) ∧ NumberSource.isWord n := by
  unfold word?
  constructor
  · intro h
    obtain ⟨m, hm, hword⟩ := Option.bind_eq_some_iff.1 h
    split at hword
    next hm' =>
      cases hword
      cases v with
      | number k =>
        cases k with
        | integer k =>
          cases hm
          exact ⟨rfl, hm'⟩
        | double d => cases hm
      | _ => cases hm
    next => cases hword
  · rintro ⟨rfl, h⟩
    simp [integer?, h]

/-- A location is decoded from its line and its column. -/
lemma ofJson?_eq_some_iff (v : Json) (l : Location) :
    ofJson? v = some l ↔ v.IsLocation ∧ TellsLocation v l ∧ l.IsNormal := by
  unfold ofJson?
  rw [Option.bind_eq_bind, Option.bind_eq_some_iff]
  simp only [fields?_eq_some_iff, List.zipIdx_cons, List.zipIdx_nil, List.forall₂_cons_left_iff,
    List.forall₂_nil_left_iff, Presence.Holds]
  constructor
  · rintro ⟨_, ⟨hform, _, _, ⟨rfl, hline⟩, ⟨_, _, ⟨rfl, hcolumn⟩, rfl, rfl⟩, rfl⟩, h⟩
    obtain ⟨line, hline⟩ := Option.isSome_iff_exists.1 (hline trivial)
    obtain ⟨column, hcolumn⟩ := Option.isSome_iff_exists.1 (hcolumn trivial)
    simp only [hline, hcolumn, Option.bind_eq_bind, Option.bind_eq_some_iff, word?_eq_some_iff] at h
    obtain ⟨m, ⟨rfl, hm⟩, n, ⟨rfl, hn⟩, he⟩ := h
    cases he
    exact ⟨⟨hform, ⟨m, hline, hm⟩, ⟨n, hcolumn, hn⟩⟩, ⟨hline, hcolumn⟩, hm, hn⟩
  · rintro ⟨⟨hform, -, -⟩, ⟨hline, hcolumn⟩, hm, hn⟩
    refine ⟨_, ⟨hform, _, _, ⟨rfl, ?_⟩, ⟨_, _, ⟨rfl, ?_⟩, rfl, rfl⟩, rfl⟩, ?_⟩
    · simp [hline]
    · simp [hcolumn]
    · simp [hline, hcolumn, word?, integer?, hm, hn]

lemma exists_ofJson?_iff {v : Json} : (∃ l, ofJson? v = some l) ↔ v.IsLocation := by
  constructor
  · rintro ⟨l, hl⟩
    exact ((ofJson?_eq_some_iff v l).1 hl).1
  · intro h
    obtain ⟨line, hline, hword⟩ := h.line
    obtain ⟨column, hcolumn, hword'⟩ := h.column
    exact ⟨⟨line, column⟩, (ofJson?_eq_some_iff v _).2 ⟨h, ⟨hline, hcolumn⟩, hword, hword'⟩⟩

lemma ofJson?_toJson {l : Location} (h : l.IsNormal) : ofJson? l.toJson = some l := by
  have hline : l.toJson.part? "line" 0 = some (.number (.integer l.line)) := rfl
  have hcolumn : l.toJson.part? "column" 1 = some (.number (.integer l.column)) := rfl
  exact (ofJson?_eq_some_iff _ _).2 ⟨⟨.named _, ⟨_, hline, h.line⟩, ⟨_, hcolumn, h.column⟩⟩,
    ⟨hline, hcolumn⟩, h⟩

end Location

/-! ## Errors -/

namespace ResponseError

/-- An error is decoded from its message, its locations, its path and its extensions. -/
lemma ofJson?_eq_some_iff (v : Json) (e : ResponseError) :
    ofJson? v = some e ↔ v.IsError ∧ TellsError v e ∧ e.IsNormal := by
  have hpath : ∀ {w : Option Json} {path : List Json},
      listOf? some w = some path ↔ IsListOf (fun _ => True) w ∧ itemsOf w = path := by
    intro w path
    have hitem : ∀ v w : Json, some v = some w ↔ True ∧ v = w ∧ True := by simp
    rw [listOf?_eq_some_iff hitem, List.forall₂_eq_eq_eq]
    simp
  unfold ofJson?
  rw [Option.bind_eq_bind, Option.bind_eq_some_iff]
  simp only [fields?_eq_some_iff, List.zipIdx_cons, List.zipIdx_nil, List.forall₂_cons_left_iff,
    List.forall₂_nil_left_iff, Presence.Holds]
  constructor
  · rintro ⟨_, ⟨hform, _, _, ⟨rfl, hmessage⟩,
      ⟨_, _, ⟨rfl, -⟩, ⟨_, _, ⟨rfl, -⟩, ⟨_, _, ⟨rfl, -⟩, rfl, rfl⟩, rfl⟩, rfl⟩, rfl⟩, h⟩
    obtain ⟨message, hmessage⟩ := Option.isSome_iff_exists.1 (hmessage trivial)
    simp only [hmessage, Option.bind_eq_bind, Option.bind_eq_some_iff, text?_eq_some_iff,
      listOf?_eq_some_iff Location.ofJson?_eq_some_iff, hpath] at h
    obtain ⟨s, rfl, locations, ⟨hlist, hlocations, hnormal⟩, path, ⟨hlist', hpath'⟩, he⟩ := h
    cases he
    have hextensions := fun w => optional_eq_some_iff (v := v.part? "extensions" 3) (w := w)
    exact ⟨⟨hform, ⟨s, hmessage⟩, hlist, hlist'⟩,
      ⟨hmessage, hlocations, hpath', hextensions⟩, hnormal, fun hnull =>
      ((hextensions _).1 hnull).2 rfl⟩
  · rintro ⟨⟨hform, -, hlist, hlist'⟩, ⟨hmessage, hlocations, hpath', hextensions⟩, hnormal, -⟩
    refine ⟨_, ⟨hform, _, _, ⟨rfl, ?_⟩,
      ⟨_, _, ⟨rfl, nofun⟩, ⟨_, _, ⟨rfl, nofun⟩, ⟨_, _, ⟨rfl, nofun⟩, rfl, rfl⟩, rfl⟩, rfl⟩, rfl⟩,
      ?_⟩
    · simp [hmessage]
    · have hoptional : optional (v.part? "extensions" 3) = e.extensions :=
        Option.ext fun w => optional_eq_some_iff.trans (hextensions w).symm
      have hlocations' : listOf? Location.ofJson? (v.part? "locations" 1) = some e.locations :=
        (listOf?_eq_some_iff Location.ofJson?_eq_some_iff).2 ⟨hlist, hlocations, hnormal⟩
      have hpath'' : listOf? some (v.part? "path" 2) = some e.path := hpath.2 ⟨hlist', hpath'⟩
      simp [hmessage, text?, hlocations', hpath'', hoptional]

lemma exists_ofJson?_iff {v : Json} : (∃ e, ofJson? v = some e) ↔ v.IsError := by
  constructor
  · rintro ⟨e, he⟩
    exact ((ofJson?_eq_some_iff v e).1 he).1
  · intro h
    obtain ⟨s, hmessage⟩ := h.message
    obtain ⟨locations, hlocations⟩ :=
      (exists_listOf?_iff fun _ => Location.exists_ofJson?_iff).2 h.locations
    obtain ⟨-, htells, hnormal⟩ := (listOf?_eq_some_iff Location.ofJson?_eq_some_iff).1 hlocations
    have hextensions := fun w => optional_eq_some_iff (v := v.part? "extensions" 3) (w := w)
    refine ⟨⟨s, locations, itemsOf (v.part? "path" 2), optional (v.part? "extensions" 3)⟩, ?_⟩
    exact (ofJson?_eq_some_iff v _).2 ⟨h, ⟨hmessage, htells, rfl, hextensions⟩, hnormal,
      fun hnull => ((hextensions _).1 hnull).2 rfl⟩

/-- A field is found in a written error unless it is left out. -/
lemma part?_toJson (e : ResponseError) :
    e.toJson.part? "message" 0 = some (.text e.message) ∧
      e.toJson.part? "locations" 1 =
        (if e.locations = [] then none else some (.list (e.locations.map Location.toJson))) ∧
        e.toJson.part? "path" 2 = (if e.path = [] then none else some (.list e.path)) ∧
          e.toJson.part? "extensions" 3 = e.extensions := by
  obtain ⟨message, locations, path, extensions⟩ := e
  cases locations <;> cases path <;> cases extensions <;> simp [toJson, part?, Table.find?]

lemma ofJson?_toJson {e : ResponseError} (h : e.IsNormal) : ofJson? e.toJson = some e := by
  obtain ⟨hmessage, hlocations, hpath, hextensions⟩ := part?_toJson e
  have hlisted : listOf? Location.ofJson? (e.toJson.part? "locations" 1) = some e.locations := by
    rw [hlocations]
    split
    next hempty =>
      rw [hempty]
      rfl
    next => exact listOf?_map fun l hl => Location.ofJson?_toJson (h.locations l hl)
  obtain ⟨hlist, htells, -⟩ := (listOf?_eq_some_iff Location.ofJson?_eq_some_iff).1 hlisted
  have hsteps : IsListOf (fun _ => True) (e.toJson.part? "path" 2) ∧
      itemsOf (e.toJson.part? "path" 2) = e.path := by
    rw [hpath]
    split
    next hempty => simp [IsListOf, itemsOf, hempty]
    next => simp [IsListOf, itemsOf, items?]
  refine (ofJson?_eq_some_iff _ e).2 ⟨⟨.named _, ⟨_, hmessage⟩, hlist, hsteps.1⟩,
    ⟨hmessage, htells, hsteps.2, ?_⟩, h⟩
  intro w
  rw [hextensions]
  refine ⟨fun hw => ⟨hw, ?_⟩, And.left⟩
  rintro rfl
  exact h.extensions hw

end ResponseError

/-! ## Responses -/

namespace Response

lemma dataOf?_some (v : Option Json) : dataOf? some v = some (ResponseError.optional v) := by
  cases v with
  | none => rfl
  | some w => cases w <;> rfl

/-- A response is decoded from its data, its errors and its other members. -/
lemma ofJson?_eq_some_iff {v : Json} {r : Response Json} :
    ofJson? some v = some r ↔ ∃ members, v = .record members ∧
      r.data = ResponseError.optional (Table.find? "data" members) ∧
      ResponseError.listOf? ResponseError.ofJson? (Table.find? "errors" members) = some r.errors ∧
        r.extra = Table.ofList (members.filter fun m => m.1 != "data" && m.1 != "errors") := by
  obtain ⟨data, errors, extra⟩ := r
  constructor
  · intro h
    cases v with
    | record members =>
      simp only [ofJson?, dataOf?_some, Option.bind_eq_bind, Option.bind_some,
        Option.bind_eq_some_iff] at h
      obtain ⟨errors, herrors, he⟩ := h
      cases he
      exact ⟨members, rfl, rfl, herrors, rfl⟩
    | _ => cases h
  · rintro ⟨members, rfl, hdata, herrors, hextra⟩
    dsimp only at hdata herrors hextra
    simp [ofJson?, dataOf?_some, herrors, hdata, hextra]

lemma exists_ofJson?_iff {v : Json} : (∃ r, ofJson? some v = some r) ↔ v.IsResponse := by
  constructor
  · rintro ⟨r, hr⟩
    obtain ⟨members, rfl, -, herrors, -⟩ := ofJson?_eq_some_iff.1 hr
    exact ⟨members, rfl,
      (ResponseError.exists_listOf?_iff fun _ => ResponseError.exists_ofJson?_iff).1 ⟨_, herrors⟩⟩
  · rintro ⟨members, rfl, hlist⟩
    obtain ⟨errors, herrors⟩ :=
      (ResponseError.exists_listOf?_iff fun _ => ResponseError.exists_ofJson?_iff).2 hlist
    exact ⟨⟨_, errors, _⟩, ofJson?_eq_some_iff.2 ⟨members, rfl, rfl, herrors, rfl⟩⟩

/-- Tells that data and extensions are not null, that numbers of locations have 64 bits, and that
data and errors are not among the other members. -/
structure IsNormal (r : Response Json) : Prop where
  data : r.data ≠ some .null
  errors : ∀ e ∈ r.errors, e.IsNormal
  extra : ∀ m ∈ r.extra.entries, m.1 ≠ "data" ∧ m.1 ≠ "errors"

lemma isNormal_of_ofJson? {v : Json} {r : Response Json} (h : ofJson? some v = some r) :
    r.IsNormal := by
  obtain ⟨members, rfl, hdata, herrors, hextra⟩ := ofJson?_eq_some_iff.1 h
  refine ⟨fun hnull => ?_, ?_, fun m hm => ?_⟩
  · rw [hdata] at hnull
    exact (ResponseError.optional_eq_some_iff.1 hnull).2 rfl
  · exact ((ResponseError.listOf?_eq_some_iff ResponseError.ofJson?_eq_some_iff).1 herrors).2.2
  · rw [hextra] at hm
    simpa using (List.mem_filter.1 (Table.mem_of_mem_ofList hm)).2

/-! ### Written responses -/

/-- The other members of a response do not stand under the names of data and errors. -/
lemma IsNormal.get?_extra {r : Response Json} (h : r.IsNormal) :
    r.extra.get? "data" = none ∧ r.extra.get? "errors" = none := by
  have hkeys : ∀ k, k ∈ r.extra.keys → k ≠ "data" ∧ k ≠ "errors" := by
    intro k hk
    obtain ⟨m, hm, rfl⟩ := List.mem_map.1 hk
    exact h.extra m hm
  exact ⟨Table.get?_eq_none_of_not_mem_keys fun hk => (hkeys _ hk).1 rfl,
    Table.get?_eq_none_of_not_mem_keys fun hk => (hkeys _ hk).2 rfl⟩

/-- What is found in a written response. -/
lemma member?_toJson {r : Response Json} (h : r.IsNormal) (k : String) :
    (r.toJson id).member? k =
      if k = "data" then some (r.data.getD .null)
      else if k = "errors" then
        (if r.errors = [] then none else some (.list (r.errors.map ResponseError.toJson)))
      else r.extra.get? k := by
  have herrors : Table.find? k
      (if r.errors.isEmpty then [] else [("errors", list (r.errors.map ResponseError.toJson))]) =
      if k = "errors" ∧ r.errors ≠ [] then some (.list (r.errors.map ResponseError.toJson))
      else none := by
    cases r.errors <;> simp [Table.find?, eq_comm]
  have hdata : Table.find? k [("data", (r.data.map id).getD null)] =
      if k = "data" then some (r.data.getD .null) else none := by
    simp [Table.find?, eq_comm]
  rw [toJson, member?, Table.find?_append, Table.find?_append, herrors, hdata]
  by_cases hk : k = "data"
  · simp [hk]
  · by_cases hk' : k = "errors"
    · have hextra : Table.find? "errors" r.extra.entries = none := h.get?_extra.2
      subst hk'
      cases r.errors <;> simp [hextra]
    · simp [hk, hk', Table.get?]

/-- The other members of a written response are those that are not data and errors. -/
lemma filter_members {r : Response Json} (h : r.IsNormal) {members : List (String × Json)}
    (hmembers : r.toJson id = .record members) :
    members.filter (fun m => m.1 != "data" && m.1 != "errors") = r.extra.entries := by
  rw [toJson, Json.record.injEq] at hmembers
  have herrors : (if r.errors.isEmpty then []
      else [("errors", list (r.errors.map ResponseError.toJson))]).filter
      (fun m => m.1 != "data" && m.1 != "errors") = [] := by
    cases r.errors <;> simp
  have hextra : r.extra.entries.filter (fun m => m.1 != "data" && m.1 != "errors") =
      r.extra.entries := by
    refine List.filter_eq_self.2 fun m hm => ?_
    obtain ⟨hdata, herrors⟩ := h.extra m hm
    simp [hdata, herrors]
  rw [← hmembers, List.filter_append, List.filter_append, herrors, hextra]
  simp

/-- A normal response is written and decoded as itself. -/
lemma ofJson?_toJson {r : Response Json} (h : r.IsNormal) :
    ofJson? some (r.toJson id) = some r := by
  refine ofJson?_eq_some_iff.2 ⟨_, rfl, ?_, ?_, ?_⟩
  · change r.data = ResponseError.optional ((r.toJson id).member? "data")
    rw [member?_toJson h, if_pos rfl]
    cases hdata : r.data with
    | none => rfl
    | some w =>
      exact (ResponseError.optional_eq_some_iff.2 ⟨rfl, fun hw => h.data (hw ▸ hdata)⟩).symm
  · change ResponseError.listOf? ResponseError.ofJson? ((r.toJson id).member? "errors") = _
    rw [member?_toJson h, if_neg (by decide), if_pos rfl]
    split
    next hempty =>
      rw [hempty]
      rfl
    next => exact ResponseError.listOf?_map fun e he => ResponseError.ofJson?_toJson (h.errors e he)
  · rw [filter_members h rfl, Table.ofList_entries]

lemma nodup_toJson {r : Response Json} (h : r.IsNormal) {members : List (String × Json)}
    (hmembers : r.toJson id = .record members) : (members.map (·.1)).Nodup := by
  rw [toJson, Json.record.injEq] at hmembers
  have hextra : ∀ k ∈ r.extra.entries.map (·.1), k ≠ "data" ∧ k ≠ "errors" := by
    intro k hk
    obtain ⟨m, hm, rfl⟩ := List.mem_map.1 hk
    exact h.extra m hm
  have hkeys : (r.extra.entries.map (·.1)).Nodup := (Table.ascending_keys r.extra).nodup
  subst hmembers
  cases r.errors <;> grind

/-- What a decoded response keeps of a value, and how it is written again. -/
structure IsKept (v : Json) (r : Response Json) : Prop where
  /-- Data is what the value has, unless it is null. -/
  data : ∀ w, r.data = some w ↔ v.member? "data" = some w ∧ w ≠ .null
  /-- The errors are those of the value, one by one. -/
  errors : List.Forall₂ TellsError (itemsOf (v.member? "errors")) r.errors
  /-- Data and errors are none of the other members. -/
  extra : r.extra.get? "data" = none ∧ r.extra.get? "errors" = none
  /-- Each member is written once. -/
  once : ∀ members, r.toJson id = .record members → (members.map (·.1)).Nodup
  /-- Data is always written. -/
  writtenData : (r.toJson id).member? "data" = some ((v.member? "data").getD .null)
  /-- Errors are written if there are any. -/
  hasErrors : ((r.toJson id).member? "errors").isSome ↔ r.hasErrors
  /-- The written errors tell the same as those of the value. -/
  writtenErrors : List.Forall₂ TellsError (itemsOf ((r.toJson id).member? "errors")) r.errors
  /-- All other members are written as they were, and no others. -/
  others : ∀ k, k ≠ "data" → k ≠ "errors" → (r.toJson id).member? k = v.member? k

lemma isKept_of_ofJson? {v : Json} (hv : v.IsProper) {r : Response Json}
    (h : ofJson? some v = some r) : IsKept v r := by
  have hnormal := isNormal_of_ofJson? h
  have hback := ofJson?_eq_some_iff.1 (ofJson?_toJson hnormal)
  obtain ⟨members, rfl, hdata, herrors, hextra⟩ := ofJson?_eq_some_iff.1 h
  obtain ⟨members', hmembers', -, herrors', -⟩ := hback
  have htold : ∀ {w : Option Json}, ResponseError.listOf? ResponseError.ofJson? w = some r.errors →
      List.Forall₂ TellsError (itemsOf w) r.errors :=
    fun hw => ((ResponseError.listOf?_eq_some_iff ResponseError.ofJson?_eq_some_iff).1 hw).2.1
  constructor
  case data =>
    intro w
    rw [hdata]
    exact ResponseError.optional_eq_some_iff
  case errors => exact htold herrors
  case extra => exact hnormal.get?_extra
  case once => exact fun _ => nodup_toJson hnormal
  case writtenData =>
    rw [member?_toJson hnormal, if_pos rfl, hdata, member?]
    cases Table.find? "data" members with
    | none => rfl
    | some w => cases w <;> rfl
  case hasErrors =>
    rw [member?_toJson hnormal, if_neg (by decide), if_pos rfl, hasErrors]
    cases r.errors <;> simp
  case writtenErrors =>
    rw [hmembers']
    exact htold herrors'
  case others =>
    intro k hk hk'
    cases hv with
    | record distinct _ =>
      rw [member?_toJson hnormal, if_neg hk, if_neg hk', hextra, member?]
      have hkept : ((members.filter fun m => m.1 != "data" && m.1 != "errors").map (·.1)).Nodup :=
        distinct.sublist (List.filter_sublist.map _)
      ext w
      rw [Table.get?_ofList_eq_some_iff hkept, List.mem_filter]
      constructor
      · exact fun hw => Table.find?_eq_some_of_mem distinct hw.1
      · exact fun hw => ⟨Table.mem_of_find?_eq_some hw, by simp [hk, hk']⟩

/-- A response is decoded from every value that is one and from no other; what is decoded keeps the
value's data, errors and other members, and is written and decoded as itself. -/
theorem spec_ofJson? {v : Json} (hv : v.IsProper) :
    (ofJson? some v = none ↔ ¬v.IsResponse) ∧
      ∀ r, ofJson? some v = some r → ofJson? some (r.toJson id) = some r ∧ IsKept v r := by
  refine ⟨?_, fun r hr => ⟨ofJson?_toJson (isNormal_of_ofJson? hr), isKept_of_ofJson? hv hr⟩⟩
  rw [← exists_ofJson?_iff, not_exists, Option.eq_none_iff_forall_ne_some]

/-- A response without data: one error, which is written as a list with a location that is written
as a list, and one more member. -/
def sampleValue : Json :=
  .record
    [("errors", .list [.list
      [.text "gone", .list [.list [.number (.integer 3), .number (.integer 7)]]]]),
    ("tags", .list [.text "user:1"])]

/-- The response that the sample is. -/
def sampleResponse : Response Json :=
  ⟨none, [⟨"gone", [⟨3, 7⟩], [], none⟩], .ofList [("tags", .list [.text "user:1"])]⟩

lemma isProper_sampleValue : sampleValue.IsProper := by
  have hlocation : (Json.list [.number (.integer 3), .number (.integer 7)]).IsProper := by
    refine .list ?_
    simp only [List.forall_mem_cons, List.not_mem_nil, false_imp_iff, implies_true, and_true]
    exact ⟨.number trivial, .number trivial⟩
  have herror :
      (Json.list [.text "gone",
        .list [.list [.number (.integer 3), .number (.integer 7)]]]).IsProper := by
    refine .list ?_
    simp only [List.forall_mem_cons, List.not_mem_nil, false_imp_iff, implies_true, and_true]
    exact ⟨.text _, .list (List.forall_mem_singleton.2 hlocation)⟩
  refine .record (by decide) ?_
  simp only [List.forall_mem_cons, List.not_mem_nil, false_imp_iff, implies_true, and_true]
  exact ⟨.list (List.forall_mem_singleton.2 herror), .list (List.forall_mem_singleton.2 (.text _))⟩

/-- The sample is decoded with its error, and written and decoded as itself; null is no response. -/
theorem spec_ofJson?_sample :
    ofJson? some sampleValue = some sampleResponse ∧
      ofJson? some (sampleResponse.toJson id) = some sampleResponse ∧
      IsKept sampleValue sampleResponse ∧ ¬Json.null.IsResponse := by
  have hdecoded : ofJson? some sampleValue = some sampleResponse := rfl
  obtain ⟨hback, hkept⟩ := (spec_ofJson? isProper_sampleValue).2 _ hdecoded
  exact ⟨hdecoded, hback, hkept, (spec_ofJson? .null).1.1 rfl⟩

end Response

end OperationGate
