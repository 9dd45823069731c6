import OperationGate.Proofs.Declaration.Printed
import OperationGate.Proofs.Selection.Extent

/-!
# The printing of types comes to an end

Types are printed by functions that call each other: a shape asks whether its selections narrow the
type, a record collects its fields, prints the type of each field and goes on inside with all that
is selected under its key, wherever that is written. `Printing` says which call is under way and
`Printing.Calls` which further calls it makes, on selections as they are written, with every spread
followed to its fragment.

Nothing keeps track of the fragments on the way, and what is gathered from several fragments is no
part of what a call was given. Yet every call is smaller than the one that makes it
(`Printing.Calls.measure_lt`): either the extent of the selections gets less, by the height of the
fragments that are spread or by their depth, or the selections stay and the call is at a later step
for them. The functions of `WrittenShape` follow these calls by recursion on that measure, and print
the same types as the shapes of branches do (`WrittenShape.object_eq`, `WrittenShape.selection_eq`).
-/

namespace OperationGate

/-- How many lists and marks are around the base of a type. -/
def TypeRef.wraps : TypeRef → ℕ
  | .named _ => 0
  | .list t => t.wraps + 1
  | .nonNull t => t.wraps + 1

namespace Collected

/-- Adds a field to others: the first field of a key stands for all, and what is selected inside
them is joined. -/
def addTo (f : Collected) : List Collected → List Collected
  | [] => [f]
  | g :: rest =>
    if g.key = f.key then { g with selections := g.selections ++ f.selections } :: rest
    else g :: addTo f rest

/-- Fields put together by their keys. -/
def gather (fs : List Collected) : List Collected :=
  fs.foldl (fun gs f => f.addTo gs) []

lemma exists_mem_of_mem_addTo {f g : Collected} {gs : List Collected} (h : g ∈ f.addTo gs)
    {x : Selection} (hx : x ∈ g.selections) : x ∈ f.selections ∨ ∃ d ∈ gs, x ∈ d.selections := by
  induction gs with
  | nil =>
    rw [addTo, List.mem_singleton] at h
    exact .inl (h ▸ hx)
  | cons d rest ih =>
    rw [addTo] at h
    split at h
    next =>
      rcases List.mem_cons.1 h with rfl | h
      · rcases List.mem_append.1 hx with hx | hx
        · exact .inr ⟨d, List.mem_cons_self, hx⟩
        · exact .inl hx
      · exact .inr ⟨g, List.mem_cons_of_mem _ h, hx⟩
    next =>
      rcases List.mem_cons.1 h with rfl | h
      · exact .inr ⟨g, List.mem_cons_self, hx⟩
      · rcases ih h with hx | ⟨e, he, hx⟩
        · exact .inl hx
        · exact .inr ⟨e, List.mem_cons_of_mem _ he, hx⟩

/-- What is selected under a key is selected in one of the fields. -/
lemma exists_mem_of_mem_gather {fs : List Collected} {g : Collected} (h : g ∈ gather fs)
    {x : Selection} (hx : x ∈ g.selections) : ∃ f ∈ fs, x ∈ f.selections := by
  induction fs using List.reverseRecOn generalizing g with
  | nil => cases h
  | append_singleton fs f ih =>
    rw [gather, List.foldl_append] at h
    rcases exists_mem_of_mem_addTo h hx with hx | ⟨d, hd, hx⟩
    · exact ⟨f, by simp, hx⟩
    · obtain ⟨e, he, hx⟩ := ih hd hx
      exact ⟨e, List.mem_append_left _ he, hx⟩

lemma ne_nil_of_mem_gather {fs : List Collected} {g : Collected} (h : g ∈ gather fs) : fs ≠ [] := by
  rintro rfl
  cases h

/-- The entries of fields that are put together are those that the branches of the fields are put
into. -/
lemma map_entryOf_addTo (fragments : Table Fragment) (f : Collected) (gs : List Collected) :
    (f.addTo gs).map (Branch.entryOf fragments) =
      Branch.addEntry (Branch.entryOf fragments f) (gs.map (Branch.entryOf fragments)) := by
  induction gs with
  | nil => rfl
  | cons g rest ih =>
    rw [addTo, List.map_cons, Branch.addEntry]
    by_cases hkey : g.key = f.key
    · simp [hkey, Branch.entryOf, Branch.ofSelections_append]
    · have hentry : ¬(Branch.entryOf fragments g).key = (Branch.entryOf fragments f).key := hkey
      rw [if_neg hkey, if_neg hentry, List.map_cons, ih]

lemma map_entryOf_gather (fragments : Table Fragment) (fs : List Collected) :
    (gather fs).map (Branch.entryOf fragments) =
    Branch.gathered (fs.map (Branch.entryOf fragments)) := by
  induction fs using List.reverseRecOn with
  | nil => rfl
  | append_singleton fs f ih =>
    rw [List.map_append, List.map_singleton,
      Branch.gathered_append_singleton, ← ih, ← map_entryOf_addTo, gather, gather,
      List.foldl_append]
    rfl

end Collected

/-! ## Calls -/

/-- A call of one of the functions that print types, on selections as they are written. -/
inductive Printing where
  /-- Tells whether selections depend on the object type of a value. -/
  | narrows (parent : String) (selections : List Selection)
  /-- The fields of selections for values of a type. -/
  | collect (concrete : String) (selections : List Selection)
  /-- The record of selections for values of a type. -/
  | object (concrete : String) (selections : List Selection)
  /-- The shape of selections on a type. -/
  | selection (parent : String) (selections : List Selection)
  /-- The type of a field with selections inside. -/
  | output (type : TypeRef) (selections : List Selection)
  /-- The type of a field without null. -/
  | marked (type : TypeRef) (selections : List Selection)

namespace Printing

/-- The calls that a call makes. -/
inductive Calls (s : Schema) (fragments : Table WrittenFragment) : Printing → Printing → Prop where
  | narrowsSpread {parent n : String} {selections : List Selection} {f : WrittenFragment} :
    .spread n ∈ selections → fragments.get? n = some f → f.condition = parent →
      Calls s fragments (.narrows parent selections) (.narrows parent f.selections)
  | narrowsInline {parent : String} {condition : Option String}
    {inside selections : List Selection} :
    .inline condition inside ∈ selections → (∀ c ∈ condition, c = parent) →
      Calls s fragments (.narrows parent selections) (.narrows parent inside)
  | collectSpread {concrete n : String} {selections : List Selection} {f : WrittenFragment} :
    .spread n ∈ selections → fragments.get? n = some f → s.applies f.condition concrete →
      Calls s fragments (.collect concrete selections) (.collect concrete f.selections)
  | collectInline {concrete : String} {condition : Option String}
    {inside selections : List Selection} :
    .inline condition inside ∈ selections → (∀ c ∈ condition, s.applies c concrete) →
      Calls s fragments (.collect concrete selections) (.collect concrete inside)
  | objectCollect {concrete : String} {selections : List Selection} :
    Calls s fragments (.object concrete selections) (.collect concrete selections)
  | objectOutput {concrete : String} {selections : List Selection} {fs : List Collected}
    {g : Collected} {f : Field} :
    Collected.Collects s fragments concrete concrete selections fs → g ∈ Collected.gather fs →
      g.name ≠ "__typename" → s.field? concrete g.name = some f →
      Calls s fragments (.object concrete selections) (.output f.type g.selections)
  | selectionNarrows {parent : String} {selections : List Selection} :
    (s.get? parent).any (·.isAbstract) →
      Calls s fragments (.selection parent selections) (.narrows parent selections)
  | selectionObject {parent concrete : String} {selections : List Selection} :
    concrete = parent ∨ concrete ∈ s.possibleTypes parent →
      Calls s fragments (.selection parent selections) (.object concrete selections)
  | outputNonNull {t : TypeRef} {selections : List Selection} :
    Calls s fragments (.output (.nonNull t) selections) (.marked t selections)
  | outputNullable {t : TypeRef} {selections : List Selection} :
    t.isNonNull = false → Calls s fragments (.output t selections) (.marked t selections)
  | markedNonNull {t : TypeRef} {selections : List Selection} :
    Calls s fragments (.marked (.nonNull t) selections) (.marked t selections)
  | markedList {t : TypeRef} {selections : List Selection} :
    Calls s fragments (.marked (.list t) selections) (.output t selections)
  | markedNamed {n : String} {kind : TypeKind} {selections : List Selection} :
    s.kind? n = some kind → kind ∈ [.object, .interface, .union] →
      Calls s fragments (.marked (.named n) selections) (.selection n selections)

/-- The selections that a call is given. -/
def selections : Printing → List Selection
  | .narrows _ selections => selections
  | .collect _ selections => selections
  | .object _ selections => selections
  | .selection _ selections => selections
  | .output _ selections => selections
  | .marked _ selections => selections

/-- How many steps are left at most before the selections are taken apart. -/
def stepsLeft : Printing → ℕ
  | .narrows .. => 0
  | .collect .. => 0
  | .object .. => 1
  | .selection .. => 2
  | .marked t _ => 2 * t.wraps + 3
  | .output t _ => 2 * t.wraps + 4

/-- The measure of a call: the extent of its selections, and then the steps that are left for
them. -/
def measure (height : String → ℕ) (p : Printing) : (ℕ ×ₗ ℕ) ×ₗ ℕ :=
  toLex (Selection.maxExtent height p.selections, p.stepsLeft)

variable {s : Schema} {fragments : Table WrittenFragment} {height : String → ℕ} {p q : Printing}

lemma measure_lt_of_maxExtent_lt
    (h : Selection.maxExtent height q.selections < Selection.maxExtent height p.selections) :
    q.measure height < p.measure height :=
  Prod.Lex.toLex_lt_toLex.2 (.inl h)

lemma measure_lt_of_stepsLeft_lt (hselections : q.selections = p.selections)
    (h : q.stepsLeft < p.stepsLeft) : q.measure height < p.measure height :=
  Prod.Lex.toLex_lt_toLex.2 (.inr ⟨by rw [hselections], h⟩)

/-- What is gathered under a key has a smaller extent than the selections that it is collected
from. -/
lemma maxExtent_gather_lt (hheight : Cycles.IsHeight fragments height) {concrete parent : String}
    {selections : List Selection} {fs : List Collected} {g : Collected}
    (hfs : Collected.Collects s fragments concrete parent selections fs)
    (hg : g ∈ Collected.gather fs) :
    Selection.maxExtent height g.selections < Selection.maxExtent height selections := by
  have hpos : ⊥ < Selection.maxExtent height selections := by
    cases selections with
    | nil =>
      cases hfs
      exact absurd rfl (Collected.ne_nil_of_mem_gather hg)
    | cons x rest =>
      exact x.bot_lt_extent.trans_le (Selection.extent_le_maxExtent List.mem_cons_self)
  refine Selection.maxExtent_lt hpos fun y hy => ?_
  obtain ⟨f, hf, hy⟩ := Collected.exists_mem_of_mem_gather hg hy
  exact hfs.extent_lt hheight hf hy

/-- Every call is smaller than the call that makes it. -/
theorem Calls.measure_lt (hheight : Cycles.IsHeight fragments height) (h : Calls s fragments p q) :
    q.measure height < p.measure height := by
  cases h with
  | narrowsSpread hx hf _ =>
    exact measure_lt_of_maxExtent_lt
      (Selection.maxExtent_lt_of_below hheight hx fun y hy => .spread hf hy)
  | narrowsInline hx _ =>
    exact measure_lt_of_maxExtent_lt
      (Selection.maxExtent_lt_of_below hheight hx fun y hy => .inline hy)
  | collectSpread hx hf _ =>
    exact measure_lt_of_maxExtent_lt
      (Selection.maxExtent_lt_of_below hheight hx fun y hy => .spread hf hy)
  | collectInline hx _ =>
    exact measure_lt_of_maxExtent_lt
      (Selection.maxExtent_lt_of_below hheight hx fun y hy => .inline hy)
  | objectOutput hfs hg _ _ => exact measure_lt_of_maxExtent_lt (maxExtent_gather_lt hheight hfs hg)
  | objectCollect => exact measure_lt_of_stepsLeft_lt rfl (by simp [stepsLeft])
  | selectionNarrows _ => exact measure_lt_of_stepsLeft_lt rfl (by simp [stepsLeft])
  | selectionObject _ => exact measure_lt_of_stepsLeft_lt rfl (by simp [stepsLeft])
  | outputNonNull =>
    exact measure_lt_of_stepsLeft_lt rfl (by simp only [stepsLeft, TypeRef.wraps]; omega)
  | outputNullable _ => exact measure_lt_of_stepsLeft_lt rfl (by simp [stepsLeft])
  | markedNonNull =>
    exact measure_lt_of_stepsLeft_lt rfl (by simp only [stepsLeft, TypeRef.wraps]; omega)
  | markedList =>
    exact measure_lt_of_stepsLeft_lt rfl (by simp only [stepsLeft, TypeRef.wraps]; omega)
  | markedNamed _ _ => exact measure_lt_of_stepsLeft_lt rfl (by simp only [stepsLeft]; omega)

end Printing

/-! ## Shapes of selections as they are written -/

namespace WrittenShape

open Collected Shape

variable {fragments : Table WrittenFragment} {height : String → ℕ}

/-- Tells whether what selections yield depends on the object type of a value of the parent type. -/
def narrows (hheight : Cycles.IsHeight fragments height) (parent : String)
    (selections : List Selection) : Bool :=
  selections.attach.any fun ⟨x, _⟩ =>
    match x with
    | .field .. => false
    | .spread n =>
      match _ : fragments.get? n with
      | none => false
      | some f => if _ : f.condition = parent then narrows hheight parent f.selections else true
    | .inline condition inside =>
      if _ : ∀ c ∈ condition, c = parent then narrows hheight parent inside else true
termination_by (Printing.narrows parent selections).measure height
decreasing_by
  · exact (Printing.Calls.narrowsSpread (s := default) ‹_› ‹_› ‹_›).measure_lt hheight
  · exact (Printing.Calls.narrowsInline (s := default) ‹_› ‹_›).measure_lt hheight

/-- The fields of selections on a parent type that count for values of a type. -/
def collect (s : Schema) (hheight : Cycles.IsHeight fragments height) (concrete parent : String)
    (selections : List Selection) : List Collected :=
  selections.attach.flatMap fun ⟨x, _⟩ =>
    match x with
    | .field aliasName name inside => [⟨aliasName.getD name, name, parent, inside⟩]
    | .spread n =>
      match _ : fragments.get? n with
      | none => []
      | some f =>
        if _ : s.applies f.condition concrete then
          collect s hheight concrete f.condition f.selections else []
    | .inline condition inside =>
      if _ : ∀ c ∈ condition, s.applies c concrete then
        collect s hheight concrete (condition.getD parent) inside
      else []
termination_by (Printing.collect concrete selections).measure height
decreasing_by
  · exact (Printing.Calls.collectSpread ‹_› ‹_› ‹_›).measure_lt hheight
  · exact (Printing.Calls.collectInline ‹_› ‹_›).measure_lt hheight

variable {s : Schema} {scalars : Scalars}

/-- Selections narrow a type if one of them does. -/
lemma narrows_eq (hheight : Cycles.IsHeight fragments height) (parent : String)
    (selections : List Selection) :
    narrows hheight parent selections = selections.any fun x => match x with
      | .field .. => false
      | .spread n => (fragments.get? n).any fun f =>
          f.condition ≠ parent || narrows hheight parent f.selections
      | .inline condition inside => condition.any (· ≠ parent) ||
          narrows hheight parent inside := by
  rw [narrows]
  conv_rhs => rw [← List.attach_map_subtype_val selections, List.any_map]
  congr 1
  funext x
  obtain ⟨x, hx⟩ := x
  cases x with
  | field => rfl
  | spread n =>
    dsimp only [Function.comp_apply]
    split
    next hf => rw [hf, Option.any_none]
    next f hf =>
      rw [hf, Option.any_some]
      by_cases hparent : f.condition = parent <;> simp [hparent]
  | inline condition inside =>
    cases condition with
    | none => simp
    | some c => by_cases hparent : c = parent <;> simp [hparent]

/-- The fields of selections are those of one after another. -/
lemma collect_eq (hheight : Cycles.IsHeight fragments height) (concrete parent : String)
    (selections : List Selection) :
    collect s hheight concrete parent selections = selections.flatMap fun x =>
      match x with
      | .field aliasName name inside => [⟨aliasName.getD name, name, parent, inside⟩]
      | .spread n => (fragments.get? n).elim [] fun f =>
        if s.applies f.condition concrete then collect s hheight concrete f.condition f.selections
          else []
      | .inline condition inside =>
        if ∀ c ∈ condition, s.applies c concrete then
          collect s hheight concrete (condition.getD parent) inside
        else [] := by
  rw [collect]
  conv_rhs => rw [← List.attach_map_subtype_val selections, List.flatMap_map]
  refine List.flatMap_congr fun ⟨x, hx⟩ _ => ?_
  cases x with
  | field => rfl
  | spread n =>
    dsimp only
    split
    next hf => rw [hf, Option.elim_none]
    next f hf => rw [hf, Option.elim_some, dite_eq_ite]
  | inline condition inside => exact dite_eq_ite

/-- The fields that are collected are those that count. -/
lemma collects_collect (hheight : Cycles.IsHeight fragments height) (concrete parent : String)
    (selections : List Selection) :
    Collects s fragments concrete parent selections
      (collect s hheight concrete parent selections) := by
  -- Into fragments and inline fragments the recursion goes; along a selection set it is an
  -- induction on the list.
  have hrest : ∀ rest : List Selection, (∀ x ∈ rest, x ∈ selections) →
      Collects s fragments concrete parent rest (collect s hheight concrete parent rest) := by
    intro rest hsub
    induction rest with
    | nil =>
      rw [collect_eq]
      exact .nil parent
    | cons x rest ih =>
      rw [List.forall_mem_cons] at hsub
      have hgs := ih hsub.2
      rw [collect_eq, List.flatMap_cons, ← collect_eq]
      cases x with
      | field aliasName name inside => exact .field aliasName name inside hgs
      | spread n =>
        dsimp only
        cases hf : fragments.get? n with
        | none => exact .spreadSkipped (by simp [hf]) hgs
        | some f =>
          rw [Option.elim_some]
          split
          next happlies =>
            exact .spread hf happlies
              (collects_collect hheight concrete f.condition f.selections) hgs
          next hnot => exact .spreadSkipped (by simpa [hf] using hnot) hgs
      | inline condition inside =>
        dsimp only
        split
        next happlies =>
          exact .inline happlies
            (collects_collect hheight concrete (condition.getD parent) inside) hgs
        next hnot =>
          cases condition with
          | none => exact absurd (by simp) hnot
          | some c => exact .inlineSkipped inside (by simpa using hnot) hgs
  exact hrest selections fun _ hx => hx
termination_by (Printing.collect concrete selections).measure height
decreasing_by
  · exact (Printing.Calls.collectSpread hsub.1 ‹_› ‹_›).measure_lt hheight
  · exact (Printing.Calls.collectInline hsub.1 ‹_›).measure_lt hheight

mutual

/-- The record that selections yield for values of one type. -/
def object (s : Schema) (scalars : Scalars) (hheight : Cycles.IsHeight fragments height)
    (concrete : String) (selections : List Selection) : TypeExpr :=
  .record <| (gather (collect s hheight concrete concrete selections)).attach.map fun ⟨g, _⟩ =>
    (g.key,
      if _ : g.name = "__typename" then typename s concrete
      else match _ : s.field? concrete g.name with
        | none => .basic "unknown"
        | some f => output s scalars hheight f.type g.selections)
termination_by (Printing.object concrete selections).measure height
decreasing_by
  exact (Printing.Calls.objectOutput (collects_collect hheight concrete concrete selections) ‹_›
    ‹_› ‹_›).measure_lt hheight

/-- What selections yield for values of a type with fields. -/
def selection (s : Schema) (scalars : Scalars) (hheight : Cycles.IsHeight fragments height)
    (parent : String) (selections : List Selection) : TypeExpr :=
  if (s.get? parent).any (·.isAbstract) && narrows hheight parent selections then
    .oneOf ((s.possibleTypes parent).attach.map fun ⟨c, _⟩ => object s scalars hheight c selections)
  else object s scalars hheight parent selections
termination_by (Printing.selection parent selections).measure height
decreasing_by
  · exact (Printing.Calls.selectionObject (s := s) (.inr ‹_›)).measure_lt hheight
  · exact (Printing.Calls.selectionObject (s := s) (.inl rfl)).measure_lt hheight

/-- What a field of a type yields, with selections inside it. -/
def output (s : Schema) (scalars : Scalars) (hheight : Cycles.IsHeight fragments height)
    (t : TypeRef) (selections : List Selection) : TypeExpr :=
  match t with
  | .nonNull t => marked s scalars hheight t selections
  | .named n => .nullable (marked s scalars hheight (.named n) selections)
  | .list t => .nullable (marked s scalars hheight (.list t) selections)
termination_by (Printing.output t selections).measure height
decreasing_by
  · exact (Printing.Calls.outputNonNull (s := default)).measure_lt hheight
  · exact (Printing.Calls.outputNullable (s := default) rfl).measure_lt hheight
  · exact (Printing.Calls.outputNullable (s := default) rfl).measure_lt hheight

/-- What a field of a type yields other than null. -/
def marked (s : Schema) (scalars : Scalars) (hheight : Cycles.IsHeight fragments height)
    (t : TypeRef) (selections : List Selection) : TypeExpr :=
  match t with
  | .nonNull t => marked s scalars hheight t selections
  | .list t => .array (output s scalars hheight t selections)
  | .named n =>
    match _ : s.kind? n with
    | some .enum => .named n
    | some .object | some .interface | some .union => selection s scalars hheight n selections
    | none | some .scalar | some .inputObject => scalar scalars n
termination_by (Printing.marked t selections).measure height
decreasing_by
  · exact (Printing.Calls.markedNonNull (s := default)).measure_lt hheight
  · exact (Printing.Calls.markedList (s := default)).measure_lt hheight
  · exact (Printing.Calls.markedNamed ‹_› (by decide)).measure_lt hheight
  · exact (Printing.Calls.markedNamed ‹_› (by decide)).measure_lt hheight
  · exact (Printing.Calls.markedNamed ‹_› (by decide)).measure_lt hheight

end

/-! ## The same shapes as those of branches -/

variable {c : Catalogue}

/-- Selections narrow a type if their branches do. -/
lemma narrows_ofSelections (hheight : Cycles.IsHeight c.written height) (parent : String)
    (selections : List Selection) :
    narrows hheight parent selections =
    (Branch.ofSelections c.fragments selections).any (Shape.narrows parent) := by
  rw [narrows_eq, Branch.ofSelections, List.any_flatMap, Bool.eq_iff_iff, List.any_eq_true,
    List.any_eq_true]
  refine exists_congr fun x => and_congr_right fun hx => ?_
  rw [← Bool.eq_iff_iff]
  cases x with
  | field => simp [Shape.narrows]
  | spread n =>
    dsimp only
    cases hf : c.fragments.get? n with
    | none =>
      rw [Catalogue.get?_written, hf, Branch.ofSelection_spread_of_none hf]
      rfl
    | some f =>
      have hget : c.written.get? n = some f.toWrittenFragment := by rw [Catalogue.get?_written, hf,
        Option.map_some]
      rw [hget, Option.any_some, Branch.ofSelection_spread hheight.isAcyclic hf,
        List.any_cons, List.any_nil, Bool.or_false, narrows_within, Option.any_some]
      by_cases hparent : f.condition = parent
      · rw [narrows_ofSelections hheight parent f.selections]
      · simp [hparent]
  | inline condition inside =>
    dsimp only
    rw [Branch.ofSelection_inline, List.any_cons, List.any_nil, Bool.or_false, narrows_within]
    by_cases hparent : ∀ c ∈ condition, c = parent
    · rw [narrows_ofSelections hheight parent inside]
      rfl
    · have hany : condition.any (· ≠ parent) = true := by
        cases condition <;> simp_all
      rw [hany, Bool.true_or, Bool.true_or]
termination_by (Printing.narrows parent selections).measure height
decreasing_by
  · exact (Printing.Calls.narrowsSpread (s := default) hx hget hparent).measure_lt hheight
  · exact (Printing.Calls.narrowsInline (s := default) hx hparent).measure_lt hheight

/-- The entries that selections are gathered into are those that their branches are gathered
into. -/
lemma map_entryOf_gather_collect (hheight : Cycles.IsHeight c.written height) (concrete : String)
    (selections : List Selection) :
    (gather (collect s hheight concrete concrete selections)).map (Branch.entryOf c.fragments) =
      Branch.entries (fun condition => s.applies condition concrete)
        (Branch.ofSelections c.fragments selections) := by
  have hfields := Branch.allFields_ofSelections hheight.isAcyclic
    (collects_collect (s := s) hheight concrete concrete selections)
  rw [map_entryOf_gather, Branch.entries, hfields]
  rfl

mutual

/-- The record of selections is that of their branches. -/
theorem object_eq (hheight : Cycles.IsHeight c.written height) (concrete : String)
    (selections : List Selection) :
    object s scalars hheight concrete selections =
      Shape.object s scalars concrete (Branch.ofSelections c.fragments selections) := by
  rw [object, Shape.object_eq, ← map_entryOf_gather_collect hheight, List.map_map]
  conv_rhs => rw [← List.attach_map_subtype_val (gather _), List.map_map]
  refine congrArg TypeExpr.record (List.map_congr_left fun ⟨g, hg⟩ _ => congrArg (Prod.mk g.key) ?_)
  have hmember : memberType s scalars concrete (Branch.entryOf c.fragments g) =
      if g.name = "__typename" then typename s concrete
      else match s.field? concrete g.name with
        | none => .basic "unknown"
        | some f =>
          .ofRef (leaf s scalars f.type.base (Branch.ofSelections c.fragments g.selections))
            f.type := rfl
  rw [hmember]
  by_cases hname : g.name = "__typename"
  · rw [dif_pos hname, if_pos hname]
  · rw [dif_neg hname, if_neg hname]
    split
    next hf => rw [hf]
    next f hf =>
      rw [hf]
      exact output_eq hheight f.type g.selections
termination_by (Printing.object concrete selections).measure height
decreasing_by
  exact (Printing.Calls.objectOutput (collects_collect hheight concrete concrete selections) hg
    hname ‹_›).measure_lt hheight

/-- What selections on a type yield is what their branches yield. -/
theorem selection_eq (hheight : Cycles.IsHeight c.written height) (parent : String)
    (selections : List Selection) :
    selection s scalars hheight parent selections =
      Shape.selection s scalars parent (Branch.ofSelections c.fragments selections) := by
  have hobjects : (s.possibleTypes parent).attach.map
      (fun ⟨n, _⟩ => object s scalars hheight n selections) = (s.possibleTypes parent).map fun n =>
        Shape.object s scalars n (Branch.ofSelections c.fragments selections) := by
    conv_rhs => rw [← List.attach_map_subtype_val (s.possibleTypes parent), List.map_map]
    exact List.map_congr_left fun ⟨n, hn⟩ _ => object_eq hheight n selections
  rw [selection, Shape.selection, narrows_ofSelections, hobjects,
    object_eq hheight parent selections]
termination_by (Printing.selection parent selections).measure height
decreasing_by
  · exact (Printing.Calls.selectionObject (s := s) (.inr hn)).measure_lt hheight
  · exact (Printing.Calls.selectionObject (s := s) (.inl rfl)).measure_lt hheight

/-- What a field yields with selections inside is what it yields with their branches inside. -/
lemma output_eq (hheight : Cycles.IsHeight c.written height) (t : TypeRef)
    (selections : List Selection) :
    output s scalars hheight t selections =
      .ofRef (leaf s scalars t.base (Branch.ofSelections c.fragments selections)) t := by
  cases t with
  | named n => rw [output, marked_eq hheight (.named n) selections, TypeExpr.ofRef,
      TypeExpr.ofMarked]
  | list t => rw [output, marked_eq hheight (.list t) selections, TypeExpr.ofRef, TypeExpr.ofMarked]
  | nonNull t => rw [output, marked_eq hheight t selections, TypeExpr.ofRef, TypeRef.base]
termination_by (Printing.output t selections).measure height
decreasing_by
  · exact (Printing.Calls.outputNullable (s := default) rfl).measure_lt hheight
  · exact (Printing.Calls.outputNullable (s := default) rfl).measure_lt hheight
  · exact (Printing.Calls.outputNonNull (s := default)).measure_lt hheight

lemma marked_eq (hheight : Cycles.IsHeight c.written height) (t : TypeRef)
    (selections : List Selection) :
    marked s scalars hheight t selections =
      .ofMarked (leaf s scalars t.base (Branch.ofSelections c.fragments selections)) t := by
  cases t with
  | named n =>
    rw [marked, TypeExpr.ofMarked, TypeRef.base, leaf]
    split
    next hkind => rw [hkind]
    next hkind =>
      rw [hkind]
      exact selection_eq hheight n selections
    next hkind =>
      rw [hkind]
      exact selection_eq hheight n selections
    next hkind =>
      rw [hkind]
      exact selection_eq hheight n selections
    next hkind => rw [hkind]
    next hkind => rw [hkind]
    next hkind => rw [hkind]
  | list t => rw [marked, output_eq hheight t selections, TypeExpr.ofMarked, TypeRef.base]
  | nonNull t => rw [marked, marked_eq hheight t selections, TypeExpr.ofMarked, TypeRef.base]
termination_by (Printing.marked t selections).measure height
decreasing_by
  · exact (Printing.Calls.markedNamed ‹_› (by decide)).measure_lt hheight
  · exact (Printing.Calls.markedNamed ‹_› (by decide)).measure_lt hheight
  · exact (Printing.Calls.markedNamed ‹_› (by decide)).measure_lt hheight
  · exact (Printing.Calls.markedList (s := default)).measure_lt hheight
  · exact (Printing.Calls.markedNonNull (s := default)).measure_lt hheight

end

end WrittenShape

/-! ## The printing of a catalogue's types -/

namespace Printing

/-- Heights of fragments bound the printing of the types of a catalogue: they are the heights in the
graph of spreads, every call is smaller by them than the call that makes it, and the declarations of
operations and fragments are what the recursion on this measure gives. -/
structure IsBoundedBy (s : Schema) (scalars : Shape.Scalars) (c : Catalogue) (height : String → ℕ) :
    Prop where
  isHeight : Cycles.IsHeight c.written height
  measure_lt {p q : Printing} : Calls s c.written p q → q.measure height < p.measure height
  operation (op : Operation) : Declaration.ofOperation s scalars c op =
    ⟨.operation, op.typeName,
      .type (WrittenShape.object s scalars isHeight op.rootType op.selections)⟩
  fragment (f : Fragment) : Declaration.ofFragment s scalars c f =
    ⟨.fragment, f.typeName,
      .type (WrittenShape.selection s scalars isHeight f.condition f.selections)⟩

/-- The types of a catalogue that documents give are printed by calls that come to an end, whatever
the schema. -/
theorem exists_isBoundedBy {s : Schema} (scalars : Shape.Scalars) {root : Option Path}
    {docs : List SourceDocument} {c : Catalogue} (hc : Catalogue.ofDocuments s root docs = .ok c) :
    (∃ height, IsBoundedBy s scalars c height) ∧ WellFounded fun q p => Calls s c.written p q := by
  obtain ⟨height, hheight⟩ :=
    Cycles.exists_isHeight (Catalogue.fitsSchema_of_ofDocuments hc).acyclic
  have hoperation : ∀ op, Declaration.ofOperation s scalars c op =
      ⟨.operation, op.typeName,
        .type (WrittenShape.object s scalars hheight op.rootType op.selections)⟩ := by
    intro op
    rw [WrittenShape.object_eq]
    rfl
  have hfragment : ∀ f, Declaration.ofFragment s scalars c f =
      ⟨.fragment, f.typeName,
        .type (WrittenShape.selection s scalars hheight f.condition f.selections)⟩ := by
    intro f
    rw [WrittenShape.selection_eq]
    rfl
  have hmeasure : WellFounded fun q p : Printing => q.measure height < p.measure height :=
    InvImage.wf (Printing.measure height) wellFounded_lt
  have hcalls : ∀ {p q}, Calls s c.written p q → q.measure height < p.measure height :=
    fun h => h.measure_lt hheight
  exact ⟨⟨height, hheight, hcalls, hoperation, hfragment⟩, Subrelation.wf hcalls hmeasure⟩

/-- The types of the sample document, which spreads a fragment, are printed by calls that come to an
end. -/
theorem exists_isBoundedBy_sample :
    ∃ c, Catalogue.ofDocuments Catalogue.sampleSchema none [Catalogue.sampleDocument] = .ok c ∧
      (∃ height, IsBoundedBy Catalogue.sampleSchema Table.empty c height) ∧
        WellFounded fun q p => Calls Catalogue.sampleSchema c.written p q := by
  obtain ⟨c, hc⟩ := Catalogue.exists_ofDocuments_sample
  exact ⟨c, hc, exists_isBoundedBy Table.empty hc⟩

end Printing

end OperationGate
