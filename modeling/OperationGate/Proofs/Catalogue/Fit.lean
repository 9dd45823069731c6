import OperationGate.Catalogue.Validity
import OperationGate.Proofs.Catalogue.Keys
import OperationGate.Proofs.Text.Parts

/-!
# Selections that fit a schema

`Fits` says without any order what it means for a selection to fit its parent type, and `FitsSet`
the same of a whole selection set, whose fields must not clash. The checks succeed just for these:
`checkSelections_eq_ok_iff`, `checkFragment_eq_ok_iff` and `checkOperation_eq_ok_iff`.
-/

namespace OperationGate.Validity

mutual

/-- A selection fits a parent type. -/
inductive Fits (s : Schema) (fragments : Table WrittenFragment) : String → Selection → Prop where
  /-- Every type has the name of its values' type. -/
  | typename (parent : String) (aliasName : Option String) :
    Fits s fragments parent (.field aliasName "__typename" [])
  /-- A field without fields of its own. -/
  | leaf {parent name : String} {f : Field} {t : SchemaType} (aliasName : Option String) :
    name ≠ "__typename" → s.field? parent name = some f → s.get? f.type.base = some t → t.isLeaf →
      Fits s fragments parent (.field aliasName name [])
  /-- A field with selections that fit its type. -/
  | composite {parent name : String} {f : Field} {t : SchemaType} {inside : List Selection}
    (aliasName : Option String) :
    name ≠ "__typename" → s.field? parent name = some f → s.get? f.type.base = some t → ¬t.isLeaf →
      inside ≠ [] → FitsSet s fragments f.type.base inside →
      Fits s fragments parent (.field aliasName name inside)
  /-- A known fragment that can apply. -/
  | spread {parent name : String} {f : WrittenFragment} :
    fragments.get? name = some f → s.overlap parent f.condition →
    Fits s fragments parent (.spread name)
  /-- An inline fragment on a type with fields that can apply; without a condition it is on the
  parent type. -/
  | inline {parent : String} {condition : Option String} {t : SchemaType}
    {inside : List Selection} :
    s.get? (condition.getD parent) = some t → t.isComposite →
      s.overlap parent (condition.getD parent) →
      FitsSet s fragments (condition.getD parent) inside →
      Fits s fragments parent (.inline condition inside)

/-- A selection set fits a parent type: each of its members does, and no two fields that are met in
it clash. -/
inductive FitsSet (s : Schema) (fragments : Table WrittenFragment) :
    String → List Selection → Prop where
  | intro {parent : String} {selections : List Selection} :
    (∀ x ∈ selections, Fits s fragments parent x) →
      (∀ u v, KeyUse.Met fragments u parent selections → KeyUse.Met fragments v parent selections →
        ¬KeyUse.clashes s u v) →
      FitsSet s fragments parent selections

end

variable {s : Schema} {fragments : Table WrittenFragment} {parent : String}

lemma FitsSet.fits {selections : List Selection} (h : FitsSet s fragments parent selections)
    {x : Selection} (hx : x ∈ selections) : Fits s fragments parent x := by
  cases h with
  | intro h _ => exact h x hx

lemma FitsSet.not_clashes {selections : List Selection} (h : FitsSet s fragments parent selections)
    {u v : KeyUse} (hu : KeyUse.Met fragments u parent selections)
    (hv : KeyUse.Met fragments v parent selections) : ¬KeyUse.clashes s u v := by
  cases h with
  | intro _ h => exact h u v hu hv

/-- Nothing is selected where there is nothing to fit. -/
lemma fitsSet_nil : FitsSet s fragments parent [] := by
  refine .intro (by simp) fun u v hu => ?_
  cases hu <;> contradiction

/-! ## The checks -/

lemma checkKeys_eq_ok_iff {selections : List Selection} :
    checkKeys s fragments parent selections = .ok () ↔
      ∀ u v, KeyUse.Met fragments u parent selections → KeyUse.Met fragments v parent selections →
        ¬KeyUse.clashes s u v := by
  rw [← KeyUse.conflict?_keysOf_eq_none_iff]
  unfold checkKeys refuse
  cases KeyUse.conflict? s [] (KeyUse.keysOf fragments parent selections) <;> simp

lemma fieldType_eq_ok_iff {name base : String} {inside : List Selection} :
    fieldType s parent name inside = .ok base ↔
      ∃ f t, s.field? parent name = some f ∧ s.get? f.type.base = some t ∧ f.type.base = base ∧
        (t.isLeaf ↔ inside = []) := by
  unfold fieldType
  cases s.field? parent name with
  | none => simp
  | some f =>
    cases ht : s.get? f.type.base with
    | none => simp [ht]
    | some t => cases inside <;> cases hleaf : t.isLeaf <;> simp [ht, hleaf]

lemma checkSpread_eq_ok_iff {name : String} :
    checkSpread s fragments parent name = .ok () ↔
      ∃ f, fragments.get? name = some f ∧ s.overlap parent f.condition := by
  unfold checkSpread
  cases fragments.get? name <;> simp

lemma checkTarget_eq_ok_iff {target : String} :
    checkTarget s parent target = .ok () ↔
      (∃ t, s.get? target = some t ∧ t.isComposite) ∧ s.overlap parent target := by
  unfold checkTarget
  cases s.get? target with
  | none => simp
  | some t => cases hcomposite : t.isComposite <;> simp [hcomposite]

mutual

/-- The check of a selection succeeds just if it fits. -/
lemma checkSelection_eq_ok_iff {parent : String} {x : Selection} :
    checkSelection s fragments parent x = .ok () ↔ Fits s fragments parent x := by
  cases x with
  | field aliasName name inside =>
    rw [checkSelection]
    split
    next hname =>
      subst hname
      cases inside with
      | nil => simp [Fits.typename]
      | cons y rest =>
        simp only [List.isEmpty_cons, Bool.false_eq_true, if_false, reduceCtorEq, false_iff]
        intro h
        cases h
        contradiction
    next hname =>
      rw [bind_eq_ok]
      simp only [check_bind_eq_ok, fieldType_eq_ok_iff, checkMembers_eq_ok_iff, checkKeys_eq_ok_iff]
      constructor
      · rintro ⟨base, ⟨f, t, hf, ht, rfl, hleaf⟩, hmembers, hkeys⟩
        by_cases hinside : inside = []
        · subst hinside
          exact .leaf aliasName hname hf ht (hleaf.2 rfl)
        · exact .composite aliasName hname hf ht (fun h => hinside (hleaf.1 h)) hinside
            (.intro hmembers hkeys)
      · intro h
        cases h with
        | typename => exact absurd rfl hname
        | leaf _ _ hf ht hleaf =>
          obtain ⟨hmembers, hkeys⟩ := fitsSet_nil
          exact ⟨_, ⟨_, _, hf, ht, rfl, by simpa using hleaf⟩, hmembers, hkeys⟩
        | composite _ _ hf ht hleaf hinside h =>
          obtain ⟨hmembers, hkeys⟩ := h
          exact ⟨_, ⟨_, _, hf, ht, rfl, by simp [hleaf, hinside]⟩, hmembers, hkeys⟩
  | spread name =>
    rw [checkSelection, checkSpread_eq_ok_iff]
    constructor
    · rintro ⟨f, hf, hoverlap⟩
      exact .spread hf hoverlap
    · rintro ⟨⟩
      exact ⟨_, ‹_›, ‹_›⟩
  | inline condition inside =>
    rw [checkSelection]
    simp only [check_bind_eq_ok, checkTarget_eq_ok_iff, checkMembers_eq_ok_iff, checkKeys_eq_ok_iff]
    constructor
    · rintro ⟨⟨⟨t, ht, hcomposite⟩, hoverlap⟩, hmembers, hkeys⟩
      exact .inline ht hcomposite hoverlap (.intro hmembers hkeys)
    · intro h
      cases h with
      | inline ht hcomposite hoverlap h =>
        obtain ⟨hmembers, hkeys⟩ := h
        exact ⟨⟨⟨_, ht, hcomposite⟩, hoverlap⟩, hmembers, hkeys⟩

/-- The check of several selections succeeds just if all of them fit. -/
lemma checkMembers_eq_ok_iff {parent : String} {selections : List Selection} :
    checkMembers s fragments parent selections = .ok () ↔ ∀ x ∈ selections,
    Fits s fragments parent x := by
  cases selections with
  | nil => simp [checkMembers]
  | cons x rest =>
    simp only [checkMembers, check_bind_eq_ok, checkSelection_eq_ok_iff, checkMembers_eq_ok_iff,
      List.forall_mem_cons]

end

/-- The check of a selection set succeeds just if it fits. -/
theorem checkSelections_eq_ok_iff {selections : List Selection} :
    checkSelections s fragments parent selections = .ok () ↔
    FitsSet s fragments parent selections := by
  simp only [checkSelections, check_bind_eq_ok, checkMembers_eq_ok_iff, checkKeys_eq_ok_iff]
  constructor
  · rintro ⟨hmembers, hkeys⟩
    exact .intro hmembers hkeys
  · rintro ⟨hmembers, hkeys⟩
    exact ⟨hmembers, hkeys⟩

/-- A fragment fits a schema: it is on a type with fields, and its selection set fits the type. -/
structure FragmentFits (s : Schema) (fragments : Table WrittenFragment) (f : WrittenFragment) :
    Prop where
  condition : ∃ t, s.get? f.condition = some t ∧ t.isComposite
  selections : FitsSet s fragments f.condition f.selections

theorem checkFragment_eq_ok_iff {f : WrittenFragment} :
    checkFragment s fragments f = .ok () ↔ FragmentFits s fragments f := by
  have hiff : FragmentFits s fragments f ↔
      (∃ t, s.get? f.condition = some t ∧ t.isComposite) ∧
      FitsSet s fragments f.condition f.selections :=
    ⟨fun h => ⟨h.condition, h.selections⟩, fun h => ⟨h.1, h.2⟩⟩
  rw [hiff, checkFragment]
  cases s.get? f.condition with
  | none => simp
  | some t =>
    by_cases hcomposite : t.isComposite <;> simp [hcomposite, checkSelections_eq_ok_iff]

/-- Tells that variables have distinct names and types whose values can be given. -/
structure VariablesFit (s : Schema) (vs : List OperationVariable) : Prop where
  names : (vs.map (·.name)).Nodup
  types : ∀ v ∈ vs, ∃ t, s.get? v.type.base = some t ∧ t.isInput

lemma checkVariables_eq_ok_iff {operation : String} {seen : List String}
    {vs : List OperationVariable} :
    checkVariables s operation seen vs = .ok () ↔
      (∀ v ∈ vs, v.name ∉ seen) ∧ VariablesFit s vs := by
  induction vs generalizing seen with
  | nil => simp [checkVariables, VariablesFit.mk]
  | cons v rest ih =>
    have hiff : VariablesFit s (v :: rest) ↔
        (∀ w ∈ rest, w.name ≠ v.name) ∧ (∃ t, s.get? v.type.base = some t ∧ t.isInput) ∧
        VariablesFit s rest := by
      constructor
      · rintro ⟨hnames, htypes⟩
        rw [List.map_cons, List.nodup_cons] at hnames
        exact ⟨fun w hw h => hnames.1 (h ▸ List.mem_map_of_mem hw), htypes v List.mem_cons_self,
          hnames.2, fun w hw => htypes w (List.mem_cons_of_mem _ hw)⟩
      · rintro ⟨hfresh, hv, hrest⟩
        refine ⟨List.nodup_cons.2 ⟨fun h => ?_, hrest.names⟩,
          List.forall_mem_cons.2 ⟨hv, hrest.types⟩⟩
        obtain ⟨w, hw, hname⟩ := List.mem_map.1 h
        exact hfresh w hw hname
    rw [checkVariables, hiff, List.forall_mem_cons]
    by_cases hseen : v.name ∈ seen
    · simp [hseen]
    · rw [if_neg hseen]
      cases s.get? v.type.base with
      | none => simp
      | some t =>
        by_cases hinput : t.isInput
        · simp only [hinput, if_true, ih, List.mem_cons, not_or, Option.some.injEq,
            exists_eq_left', hseen, not_false_eq_true, true_and, forall_and]
          tauto
        · simp [hinput]

/-- An operation fits a schema: its kind has a root type, its variables fit, and its selection set
fits the root type. -/
def OperationFits (s : Schema) (fragments : Table WrittenFragment) (op : WrittenOperation)
    (root : String) : Prop :=
  (∃ t, s.root? op.kind = some t ∧ t.name = root) ∧ VariablesFit s op.parameters ∧
    FitsSet s fragments root op.selections

theorem checkOperation_eq_ok_iff {op : WrittenOperation} {root : String} :
    checkOperation s fragments op = .ok root ↔ OperationFits s fragments op root := by
  unfold checkOperation OperationFits
  cases s.root? op.kind with
  | none => simp
  | some t =>
    simp only [check_bind_eq_ok, checkVariables_eq_ok_iff, checkSelections_eq_ok_iff]
    constructor
    · rintro ⟨⟨-, hvariables⟩, hselections, h⟩
      cases h
      exact ⟨⟨t, rfl, rfl⟩, hvariables, hselections⟩
    · rintro ⟨⟨t', ht, rfl⟩, hvariables, hselections⟩
      cases ht
      exact ⟨⟨by simp, hvariables⟩, hselections, rfl⟩

end OperationGate.Validity
