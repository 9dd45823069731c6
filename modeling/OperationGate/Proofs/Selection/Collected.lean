import OperationGate.Proofs.Catalogue.Fit

/-!
# Fields that are collected

For a value of some type, the fields of a selection set are collected: those that are selected
directly, and those inside of inline fragments and spreads whose condition applies to the type, at
any depth. `Collects` says which fields these are, in their order. Without cycles of fragments there
is just one answer (`Collects.unique`, `exists_collects`).

What is collected keeps the type it was selected on, and fits it if the selection set fits its own
parent (`Collects.fits`).
-/

namespace OperationGate

/-- A field that is collected. -/
structure Collected where
  /-- The key under which it is answered. -/
  key : String
  name : String
  /-- The type that it is selected on. -/
  parent : String
  selections : List Selection

namespace Collected

/-- The fields that a selection set on a parent type gives for values of a type. -/
inductive Collects (s : Schema) (fragments : Table WrittenFragment) (concrete : String) :
    String → List Selection → List Collected → Prop where
  | nil (parent : String) : Collects s fragments concrete parent [] []
  | field {parent : String} {rest : List Selection} {fs : List Collected}
    (aliasName : Option String) (name : String) (inside : List Selection) :
    Collects s fragments concrete parent rest fs →
      Collects s fragments concrete parent (.field aliasName name inside :: rest)
        (⟨aliasName.getD name, name, parent, inside⟩ :: fs)
  | inline {parent : String} {condition : Option String} {inside rest : List Selection}
    {fs gs : List Collected} : (∀ c ∈ condition, s.applies c concrete) →
      Collects s fragments concrete (condition.getD parent) inside fs →
      Collects s fragments concrete parent rest gs →
        Collects s fragments concrete parent (.inline condition inside :: rest) (fs ++ gs)
  | inlineSkipped {parent condition : String} {rest : List Selection} {gs : List Collected}
    (inside : List Selection) :
    ¬s.applies condition concrete → Collects s fragments concrete parent rest gs →
      Collects s fragments concrete parent (.inline (some condition) inside :: rest) gs
  | spread {parent name : String} {f : WrittenFragment} {rest : List Selection}
    {fs gs : List Collected} : fragments.get? name = some f → s.applies f.condition concrete →
      Collects s fragments concrete f.condition f.selections fs →
        Collects s fragments concrete parent rest gs →
        Collects s fragments concrete parent (.spread name :: rest) (fs ++ gs)
  | spreadSkipped {parent name : String} {rest : List Selection} {gs : List Collected} :
    (∀ f, fragments.get? name = some f → ¬s.applies f.condition concrete) →
      Collects s fragments concrete parent rest gs →
        Collects s fragments concrete parent (.spread name :: rest) gs

variable {s : Schema} {fragments : Table WrittenFragment} {concrete parent : String}
  {selections : List Selection} {fs : List Collected}

/-- No selection set gives two answers. -/
theorem Collects.unique {gs : List Collected}
    (h : Collects s fragments concrete parent selections fs)
    (h' : Collects s fragments concrete parent selections gs) : fs = gs := by
  induction h generalizing gs with
  | nil => cases h'; rfl
  | field _ _ _ _ ih =>
    cases h' with
    | field _ _ _ hrest => rw [ih hrest]
  | inline hc _ _ ihinside ih =>
    cases h' with
    | inline _ hinside hrest => rw [ihinside hinside, ih hrest]
    | inlineSkipped _ hnot _ => exact absurd (hc _ rfl) hnot
  | inlineSkipped _ hnot _ ih =>
    cases h' with
    | inline hc _ _ => exact absurd (hc _ rfl) hnot
    | inlineSkipped _ _ hrest => exact ih hrest
  | spread hf happlies _ _ ihinside ih =>
    cases h' with
    | spread hf' _ hinside hrest =>
      cases hf.symm.trans hf'
      rw [ihinside hinside, ih hrest]
    | spreadSkipped hnot _ => exact absurd happlies (hnot _ hf)
  | spreadSkipped hnot _ ih =>
    cases h' with
    | spread hf happlies _ _ => exact absurd happlies (hnot _ hf)
    | spreadSkipped _ hrest => exact ih hrest

/-- Selections have an answer if the fragments that they spread have. -/
lemma exists_collects_of_spreads (parent : String) (selections : List Selection)
    (h : ∀ n ∈ Selection.allSpreads selections, ∀ f, fragments.get? n = some f →
      ∃ fs, Collects s fragments concrete f.condition f.selections fs) :
    ∃ fs, Collects s fragments concrete parent selections fs := by
  match selections with
  | [] => exact ⟨[], .nil parent⟩
  | x :: rest =>
    have hrest : ∀ n ∈ Selection.allSpreads rest, ∀ f, fragments.get? n = some f →
        ∃ fs, Collects s fragments concrete f.condition f.selections fs :=
      fun n hn => h n (List.mem_append_right _ hn)
    obtain ⟨gs, hgs⟩ := exists_collects_of_spreads parent rest hrest
    match x with
    | .field aliasName name inside => exact ⟨_, .field aliasName name inside hgs⟩
    | .inline condition inside =>
      have hinside : ∀ n ∈ Selection.allSpreads inside, ∀ f, fragments.get? n = some f →
          ∃ fs, Collects s fragments concrete f.condition f.selections fs :=
        fun n hn => h n (List.mem_append_left _ (by rwa [Selection.spreads]))
      obtain ⟨fs, hfs⟩ := exists_collects_of_spreads (condition.getD parent) inside hinside
      by_cases hc : ∀ c ∈ condition, s.applies c concrete
      · exact ⟨_, .inline hc hfs hgs⟩
      · cases condition with
        | none => exact absurd (by simp) hc
        | some c => exact ⟨_, .inlineSkipped inside (by simpa using hc) hgs⟩
    | .spread name =>
      by_cases hf : ∃ f, fragments.get? name = some f ∧ s.applies f.condition concrete
      · obtain ⟨f, hf, happlies⟩ := hf
        have hname : name ∈ Selection.allSpreads (.spread name :: rest) :=
          List.mem_append_left _ (List.mem_singleton.2 rfl)
        obtain ⟨fs, hfs⟩ := h name hname f hf
        exact ⟨_, .spread hf happlies hfs hgs⟩
      · exact ⟨_, .spreadSkipped (fun f hget happlies => hf ⟨f, hget, happlies⟩) hgs⟩
termination_by sizeOf selections

/-- Without cycles, every selection set has an answer. -/
theorem exists_collects (hacyclic : Cycles.IsAcyclic fragments) (concrete parent : String)
    (selections : List Selection) : ∃ fs, Collects s fragments concrete parent selections fs := by
  have hfragment : ∀ n f, fragments.get? n = some f →
      ∃ fs, Collects s fragments concrete f.condition f.selections fs := by
    intro n
    induction n using (Cycles.wellFounded_of_isAcyclic hacyclic).induction with
    | _ n ih =>
      intro f hf
      exact exists_collects_of_spreads _ _ fun m hm g hg => ih m
        (Cycles.spreads_iff.2 ⟨f, hf, hm⟩) g hg
  exact exists_collects_of_spreads _ _ fun n _ f hf => hfragment n f hf

/-- A field is selected on the parent, or on a condition that applies. -/
lemma Collects.parent_eq_or_applies (h : Collects s fragments concrete parent selections fs)
    {f : Collected} (hf : f ∈ fs) : f.parent = parent ∨ s.applies f.parent concrete := by
  induction h with
  | nil => cases hf
  | field _ _ _ _ ih =>
    rcases List.mem_cons.1 hf with rfl | hf
    · exact .inl rfl
    · exact ih hf
  | @inline _ condition _ _ _ _ hc _ _ ihinside ih =>
    rcases List.mem_append.1 hf with hf | hf
    · rcases ihinside hf with hp | hp
      · cases condition with
        | none => exact .inl hp
        | some c => exact .inr (hp ▸ hc c rfl)
      · exact .inr hp
    · exact ih hf
  | inlineSkipped _ _ _ ih => exact ih hf
  | spread _ happlies _ _ ihinside ih =>
    rcases List.mem_append.1 hf with hf | hf
    · rcases ihinside hf with hp | hp
      · exact .inr (hp ▸ happlies)
      · exact .inr hp
    · exact ih hf
  | spreadSkipped _ _ ih => exact ih hf

/-- A field that is collected is met in the selection set. -/
lemma Collects.met (h : Collects s fragments concrete parent selections fs) {f : Collected}
    (hf : f ∈ fs) : KeyUse.Met fragments ⟨f.key, f.name, f.parent⟩ parent selections := by
  induction h with
  | nil => cases hf
  | field _ _ _ _ ih =>
    rcases List.mem_cons.1 hf with rfl | hf
    · exact .field List.mem_cons_self rfl
    · exact (ih hf).mono fun _ hx => List.mem_cons_of_mem _ hx
  | inline _ _ _ ihinside ih =>
    rcases List.mem_append.1 hf with hf | hf
    · exact .inline List.mem_cons_self (ihinside hf)
    · exact (ih hf).mono fun _ hx => List.mem_cons_of_mem _ hx
  | inlineSkipped _ _ _ ih => exact (ih hf).mono fun _ hx => List.mem_cons_of_mem _ hx
  | spread hget _ _ _ ihinside ih =>
    rcases List.mem_append.1 hf with hf | hf
    · exact .spread List.mem_cons_self hget (ihinside hf)
    · exact (ih hf).mono fun _ hx => List.mem_cons_of_mem _ hx
  | spreadSkipped _ _ ih => exact (ih hf).mono fun _ hx => List.mem_cons_of_mem _ hx

/-- Tells that a field fits the type that it is selected on: it is the name of the value's type, or
a field of the type whose selections fit it. -/
def Fits (s : Schema) (fragments : Table WrittenFragment) (f : Collected) : Prop :=
  (f.name = "__typename" ∧ f.selections = []) ∨
    f.name ≠ "__typename" ∧ ∃ g, s.field? f.parent f.name = some g ∧
      Validity.FitsSet s fragments g.type.base f.selections

/-- The selection of a field under its key. -/
def selection (f : Collected) : Selection :=
  .field (some f.key) f.name f.selections

/-- The selections of fields that are collected fit if the selections and the fragments do. -/
lemma Collects.fits_selection
    (hfragments : ∀ n f, fragments.get? n = some f → Validity.FragmentFits s fragments f)
    (h : Collects s fragments concrete parent selections fs)
    (hfits : ∀ x ∈ selections, Validity.Fits s fragments parent x) {f : Collected} (hf : f ∈ fs) :
    Validity.Fits s fragments f.parent f.selection := by
  induction h with
  | nil => cases hf
  | field _ _ _ _ ih =>
    rw [List.forall_mem_cons] at hfits
    rcases List.mem_cons.1 hf with rfl | hf
    · cases hfits.1 with
      | typename => exact .typename _ _
      | leaf _ hname hg ht hleaf => exact .leaf _ hname hg ht hleaf
      | composite _ hname hg ht hleaf hinside h => exact .composite _ hname hg ht hleaf hinside h
    · exact ih hfits.2 hf
  | inline _ _ _ ihinside ih =>
    rw [List.forall_mem_cons] at hfits
    rcases List.mem_append.1 hf with hf | hf
    · cases hfits.1 with
      | inline _ _ _ h => exact ihinside (fun _ => h.fits) hf
    · exact ih hfits.2 hf
  | inlineSkipped _ _ _ ih => exact ih (List.forall_mem_cons.1 hfits).2 hf
  | spread hget _ _ _ ihinside ih =>
    rcases List.mem_append.1 hf with hf | hf
    · exact ihinside (fun _ => (hfragments _ _ hget).selections.fits) hf
    · exact ih (List.forall_mem_cons.1 hfits).2 hf
  | spreadSkipped _ _ ih => exact ih (List.forall_mem_cons.1 hfits).2 hf

/-- Fields that are collected fit if the selections and the fragments do. -/
theorem Collects.fits
    (hfragments : ∀ n f, fragments.get? n = some f → Validity.FragmentFits s fragments f)
    (h : Collects s fragments concrete parent selections fs)
    (hfits : ∀ x ∈ selections, Validity.Fits s fragments parent x) {f : Collected} (hf : f ∈ fs) :
    f.Fits s fragments := by
  have hselection := h.fits_selection hfragments hfits hf
  obtain ⟨key, name, parent, inside⟩ := f
  cases hselection with
  | typename => exact .inl ⟨rfl, rfl⟩
  | leaf _ hname hg _ _ => exact .inr ⟨hname, _, hg, Validity.fitsSet_nil⟩
  | composite _ hname hg _ _ _ h => exact .inr ⟨hname, _, hg, h⟩

/-! ## Selection sets that are put together -/

/-- Several selection sets, each with the type it is written for, give fields for values of a
type. -/
def Gathers (s : Schema) (fragments : Table WrittenFragment) (concrete : String)
    (parts : List (String × List Selection)) (fss : List (List Collected)) : Prop :=
  List.Forall₂ (fun p fs => Collects s fragments concrete p.1 p.2 fs) parts fss

variable {parts : List (String × List Selection)} {fss : List (List Collected)}

lemma Gathers.unique {gss : List (List Collected)} (h : Gathers s fragments concrete parts fss)
    (h' : Gathers s fragments concrete parts gss) : fss = gss := by
  induction h generalizing gss with
  | nil => cases h'; rfl
  | cons hp _ ih =>
    obtain _ | ⟨hp', hrest⟩ := h'
    rw [hp.unique hp', ih hrest]

/-- Without cycles, every list of selection sets has an answer. -/
lemma exists_gathers (hacyclic : Cycles.IsAcyclic fragments) (concrete : String)
    (parts : List (String × List Selection)) : ∃ fss, Gathers s fragments concrete parts fss := by
  induction parts with
  | nil => exact ⟨[], .nil⟩
  | cons p rest ih =>
    obtain ⟨fs, hfs⟩ := exists_collects hacyclic concrete p.1 p.2
    obtain ⟨fss, hfss⟩ := ih
    exact ⟨fs :: fss, .cons hfs hfss⟩

/-- A field comes from one of the selection sets. -/
theorem Gathers.exists_collects (h : Gathers s fragments concrete parts fss) {f : Collected}
    (hf : f ∈ fss.flatten) :
    ∃ p ∈ parts, ∃ fs, Collects s fragments concrete p.1 p.2 fs ∧ f ∈ fs := by
  induction h with
  | nil => cases hf
  | @cons p fs _ _ hp _ ih =>
    rcases List.mem_append.1 hf with hf | hf
    · exact ⟨p, List.mem_cons_self, fs, hp, hf⟩
    · obtain ⟨p, hp, h⟩ := ih hf
      exact ⟨p, List.mem_cons_of_mem _ hp, h⟩

/-- The selection set of a field with the type it is written for: the type of the field. -/
def part (s : Schema) (f : Collected) : String × List Selection :=
  ((s.field? f.parent f.name).elim f.parent (·.type.base), f.selections)

end Collected

end OperationGate
