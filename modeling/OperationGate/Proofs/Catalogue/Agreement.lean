import OperationGate.Proofs.Catalogue.Acceptance
import OperationGate.Proofs.Catalogue.Dependencies

/-!
# Fragments that agree

Two tables of fragments agree on names if they have the same fragments under them, whatever files
these stand in, and the fragments spread only fragments with such names. Selections that spread none
but these fit the schema for both tables if they do for one, and depend on the same (`AgreeOn.fits`,
`AgreeOn.of_eq`). So an operation that is made with one table is made with the other:
`AgreeOn.operationOf`.
-/

namespace OperationGate

/-- The same fragment in another file. -/
def WrittenFragment.movedTo (f : WrittenFragment) (file : String) : WrittenFragment :=
  { f with file }

namespace Catalogue

/-- Two tables have the same fragments under some names, except for their files, and these fragments
spread only fragments with such names. -/
structure AgreeOn (names : List String) (fragments fragments' : Table WrittenFragment) : Prop where
  known : ∀ n ∈ names, ∀ f, fragments.get? n = some f → ∃ file, fragments'.get? n =
    some (f.movedTo file)
  known' : ∀ n ∈ names, ∀ f, fragments'.get? n = some f → ∃ file, fragments.get? n =
    some (f.movedTo file)
  closed : ∀ n ∈ names, ∀ f, fragments.get? n =
    some f → ∀ m ∈ Selection.allSpreads f.selections, m ∈ names

namespace AgreeOn

variable {s : Schema} {names : List String} {fragments fragments' : Table WrittenFragment}

lemma symm (h : AgreeOn names fragments fragments') : AgreeOn names fragments' fragments where
  known := h.known'
  known' := h.known
  closed := by
    intro n hn f hf m hm
    obtain ⟨file, hf'⟩ := h.known' n hn f hf
    exact h.closed n hn _ hf' m hm

/-! ## Selections that fit -/

/-- A field that is met with the fragments of one table is met with those of the other. -/
lemma met (h : AgreeOn names fragments fragments') {u : KeyUse} {parent : String}
    {selections : List Selection} (hnames : ∀ n ∈ Selection.allSpreads selections, n ∈ names)
    (hmet : KeyUse.Met fragments u parent selections) :
    KeyUse.Met fragments' u parent selections := by
  induction hmet with
  | field hx hu => exact .field hx hu
  | @inline parent selections inside condition hx _ ih =>
    have hinside : ∀ n ∈ Selection.allSpreads inside, n ∈ names := by
      intro n hn
      exact hnames n (Selection.mem_allSpreads_iff.2 ⟨_, hx, by rwa [Selection.spreads]⟩)
    exact .inline hx (ih hinside)
  | @spread parent selections name f hx hf _ ih =>
    have hname : name ∈ names :=
      hnames name (Selection.mem_allSpreads_iff.2 ⟨_, hx, List.mem_singleton.2 rfl⟩)
    obtain ⟨file, hf'⟩ := h.known name hname f hf
    exact .spread hx hf' (ih (h.closed name hname f hf))

/-- Fields that do not clash with the fragments of one table do not clash with those of the
other. -/
lemma not_clashes (h : AgreeOn names fragments fragments') {parent : String}
    {selections : List Selection} (hnames : ∀ n ∈ Selection.allSpreads selections, n ∈ names)
    (hkeys : ∀ u v, KeyUse.Met fragments u parent selections →
      KeyUse.Met fragments v parent selections → ¬KeyUse.clashes s u v) :
    ∀ u v, KeyUse.Met fragments' u parent selections → KeyUse.Met fragments' v parent selections →
      ¬KeyUse.clashes s u v := by
  intro u v hu hv
  exact hkeys u v (h.symm.met hnames hu) (h.symm.met hnames hv)

mutual

/-- A selection that fits with the fragments of one table fits with those of the other. -/
theorem fits (h : AgreeOn names fragments fragments') {parent : String} {x : Selection}
    (hnames : ∀ n ∈ x.spreads, n ∈ names) (hfits : Validity.Fits s fragments parent x) :
    Validity.Fits s fragments' parent x := by
  cases x with
  | field aliasName name inside =>
    rw [Selection.spreads] at hnames
    cases hfits with
    | typename => exact .typename parent aliasName
    | leaf _ hname hf ht hleaf => exact .leaf aliasName hname hf ht hleaf
    | composite _ hname hf ht hleaf hne hinside =>
      obtain ⟨hmembers, hkeys⟩ := hinside
      exact .composite aliasName hname hf ht hleaf hne
        (.intro (h.forall_fits hnames hmembers) (h.not_clashes hnames hkeys))
  | spread name =>
    cases hfits with
    | spread hf hoverlap =>
      obtain ⟨file, hf'⟩ := h.known name (hnames name (List.mem_singleton.2 rfl)) _ hf
      exact .spread hf' hoverlap
  | inline condition inside =>
    rw [Selection.spreads] at hnames
    cases hfits with
    | inline ht hcomposite hoverlap hinside =>
      obtain ⟨hmembers, hkeys⟩ := hinside
      exact .inline ht hcomposite hoverlap
        (.intro (h.forall_fits hnames hmembers) (h.not_clashes hnames hkeys))

lemma forall_fits (h : AgreeOn names fragments fragments') {parent : String}
    {selections : List Selection} (hnames : ∀ n ∈ Selection.allSpreads selections, n ∈ names)
    (hfits : ∀ x ∈ selections, Validity.Fits s fragments parent x) :
    ∀ x ∈ selections, Validity.Fits s fragments' parent x := by
  cases selections with
  | nil => exact fun _ hx => absurd hx List.not_mem_nil
  | cons x rest =>
    rw [List.forall_mem_cons] at hfits ⊢
    have hx : ∀ n ∈ x.spreads, n ∈ names := fun n hn => hnames n (List.mem_append_left _ hn)
    have hrest : ∀ n ∈ Selection.allSpreads rest, n ∈ names :=
      fun n hn => hnames n (List.mem_append_right _ hn)
    exact ⟨h.fits hx hfits.1, h.forall_fits hrest hfits.2⟩

end

lemma fitsSet (h : AgreeOn names fragments fragments') {parent : String}
    {selections : List Selection} (hnames : ∀ n ∈ Selection.allSpreads selections, n ∈ names)
    (hfits : Validity.FitsSet s fragments parent selections) :
    Validity.FitsSet s fragments' parent selections := by
  obtain ⟨hmembers, hkeys⟩ := hfits
  exact .intro (h.forall_fits hnames hmembers) (h.not_clashes hnames hkeys)

/-- A table with no other fragments than those of a table without cycles has none. -/
lemma isAcyclic (h : AgreeOn names fragments fragments')
    (hall : ∀ n f, fragments'.get? n = some f → n ∈ names) (hacyclic : Cycles.IsAcyclic fragments) :
    Cycles.IsAcyclic fragments' := by
  have hspreads : ∀ a b, Cycles.Spreads fragments' a b → Cycles.Spreads fragments a b := by
    intro a b hab
    obtain ⟨f, hf, hb⟩ := Cycles.spreads_iff.1 hab
    obtain ⟨file, hf'⟩ := h.known' a (hall a f hf) f hf
    exact Cycles.spreads_iff.2 ⟨_, hf', hb⟩
  intro n hn
  exact hacyclic n (Relation.TransGen.mono hspreads n n hn)

/-! ## What selections depend on -/

/-- What does not depend on the file of a fragment is the same for both tables. -/
lemma map_get?_eq {α : Type} (h : AgreeOn names fragments fragments') {g : WrittenFragment → α}
    (hg : ∀ f file, g (f.movedTo file) = g f) {n : String} (hn : n ∈ names) :
    (fragments.get? n).map g = (fragments'.get? n).map g := by
  cases hf : fragments.get? n with
  | some f =>
    obtain ⟨file, hf'⟩ := h.known n hn f hf
    rw [hf', Option.map_some, Option.map_some, hg]
  | none =>
    cases hf' : fragments'.get? n with
    | none => rfl
    | some f' =>
      obtain ⟨file, hf''⟩ := h.known' n hn f' hf'
      rw [hf] at hf''
      cases hf''

lemma namedBy_eq (h : AgreeOn names fragments fragments') {n : String} (hn : n ∈ names) :
    Dependencies.namedBy s fragments n = Dependencies.namedBy s fragments' n := by
  have hnamed : ∀ fragments : Table WrittenFragment, Dependencies.namedBy s fragments n =
      ((fragments.get? n).map fun f => Dependencies.allNamed s f.condition f.selections).getD
        [] := by
    intro fragments
    rw [Dependencies.namedBy]
    cases fragments.get? n <;> rfl
  rw [hnamed, hnamed, h.map_get?_eq (fun _ _ => rfl) hn]

/-- What is found with the fragments of one table has one of the names, and is found with those of
the other. -/
lemma mem_fragmentsOf (h : AgreeOn names fragments fragments') {parent : String}
    {selections : List Selection} (hnames : ∀ n ∈ Selection.allSpreads selections, n ∈ names)
    {n : String} (hn : n ∈ Dependencies.fragmentsOf s fragments parent selections) :
    n ∈ names ∧ n ∈ Dependencies.fragmentsOf s fragments' parent selections := by
  have hkeys : ∀ n ∈ names, n ∈ fragments.keys → n ∈ fragments'.keys := by
    intro n hn hkey
    obtain ⟨f, hf⟩ := Table.mem_keys_iff.1 hkey
    obtain ⟨file, hf'⟩ := h.known n hn f hf
    exact Table.mem_keys_iff.2 ⟨_, hf'⟩
  rw [Dependencies.fragmentsOf, Reach.mem_gather_iff] at hn
  rw [Dependencies.fragmentsOf, Reach.mem_gather_iff]
  induction hn with
  | @start n hkey hstart =>
    have hn : n ∈ names :=
      hnames n (Dependencies.mem_allSpreads_of_mem_allNamed
        (Dependencies.mem_fragmentsAmong.1 hstart))
    exact ⟨hn, .start (hkeys n hn hkey) hstart⟩
  | @step m n _ hkey hstep ih =>
    obtain ⟨hm, hlead⟩ := ih
    have hspreads : Cycles.Spreads fragments m n :=
      Dependencies.spreads_of_mem_namedBy (Dependencies.mem_fragmentsAmong.1 hstep)
    obtain ⟨f, hf, hmem⟩ := Cycles.spreads_iff.1 hspreads
    have hn : n ∈ names := h.closed m hm f hf n hmem
    rw [h.namedBy_eq hm] at hstep
    exact ⟨hn, .step hlead (hkeys n hn hkey) hstep⟩

/-- Selections depend on the same with the fragments of both tables. -/
theorem of_eq (h : AgreeOn names fragments fragments') {parent : String}
    {selections : List Selection} (hnames : ∀ n ∈ Selection.allSpreads selections, n ∈ names)
    (types : List String) :
    Dependencies.of s fragments parent selections types =
    .of s fragments' parent selections types := by
  have hspread : ∀ n, n ∈ Dependencies.fragmentsOf s fragments parent selections ↔
      n ∈ Dependencies.fragmentsOf s fragments' parent selections := by
    intro n
    exact ⟨fun hn => (h.mem_fragmentsOf hnames hn).2,
      fun hn => (h.symm.mem_fragmentsOf hnames hn).2⟩
  have henums : ∀ n,
      n ∈ (Dependencies.fragmentsOf s fragments parent selections).flatMap
          (fun m => Dependencies.enumsAmong (Dependencies.namedBy s fragments m)) ↔
        n ∈ (Dependencies.fragmentsOf s fragments' parent selections).flatMap
          (fun m => Dependencies.enumsAmong (Dependencies.namedBy s fragments' m)) := by
    intro n
    rw [List.mem_flatMap, List.mem_flatMap]
    constructor
    · rintro ⟨m, hm, hn⟩
      rw [h.namedBy_eq (h.mem_fragmentsOf hnames hm).1] at hn
      exact ⟨m, (hspread m).1 hm, hn⟩
    · rintro ⟨m, hm, hn⟩
      rw [h.symm.namedBy_eq (h.symm.mem_fragmentsOf hnames hm).1] at hn
      exact ⟨m, (hspread m).2 hm, hn⟩
  rw [Dependencies.of, Dependencies.of, Dependencies.mk.injEq]
  refine ⟨Table.sortedNames_congr hspread, Table.sortedNames_congr fun n => ?_, rfl⟩
  rw [List.mem_append, List.mem_append, List.mem_append, List.mem_append, henums]

/-! ## Operations and fragments -/

lemma documentOf_eq (h : AgreeOn names fragments fragments') (source : String)
    {needed : List String} (hneeded : ∀ n ∈ needed, n ∈ names) :
    documentOf fragments source needed = documentOf fragments' source needed := by
  have hsources : (needed.filterMap fragments.get?).map (·.source) =
      (needed.filterMap fragments'.get?).map (·.source) := by
    rw [List.map_filterMap, List.map_filterMap]
    apply List.filterMap_congr
    intro n hn
    exact h.map_get?_eq (fun _ _ => rfl) (hneeded n hn)
  rw [documentOf, documentOf, hsources]

/-- An operation that is made with the fragments of one table is made with those of the other. -/
theorem operationOf (h : AgreeOn names fragments fragments') {op : WrittenOperation} {o : Operation}
    (hnames : ∀ n ∈ Selection.allSpreads op.selections, n ∈ names)
    (ho : Catalogue.operationOf s fragments op = .ok o) :
    Catalogue.operationOf s fragments' op = .ok o := by
  obtain ⟨⟨hroot, hvariables, hselections⟩, hwritten, hdependencies, hdocument⟩ :=
    operationOf_eq_ok_iff.1 ho
  have hneeded : ∀ n ∈ o.dependencies.fragments, n ∈ names := by
    intro n hn
    rw [hdependencies] at hn
    exact (h.mem_fragmentsOf hnames (Table.mem_sortedNames.1 hn)).1
  have hfits : Validity.OperationFits s fragments' op o.rootType :=
    ⟨hroot, hvariables, h.fitsSet hnames hselections⟩
  refine operationOf_eq_ok_iff.2 ⟨hfits, hwritten, ?_, ?_⟩
  · rw [hdependencies, h.of_eq hnames]
  · rw [hdocument, h.documentOf_eq op.source hneeded]

/-- A fragment that fits with the fragments of one table fits with those of the other, in any
file. -/
lemma fragmentFits (h : AgreeOn names fragments fragments') {f : WrittenFragment}
    (hnames : ∀ n ∈ Selection.allSpreads f.selections, n ∈ names)
    (hfits : Validity.FragmentFits s fragments f) (file : String) :
    Validity.FragmentFits s fragments' (f.movedTo file) where
  condition := hfits.condition
  selections := h.fitsSet hnames hfits.selections

lemma fragmentOf_movedTo (h : AgreeOn names fragments fragments') {f : WrittenFragment}
    (hnames : ∀ n ∈ Selection.allSpreads f.selections, n ∈ names) (file : String) :
    fragmentOf s fragments' (f.movedTo file) = { fragmentOf s fragments f with file } := by
  have hdependencies : Dependencies.of s fragments f.condition f.selections [] =
      .of s fragments' f.condition f.selections [] := h.of_eq hnames []
  rw [fragmentOf, fragmentOf, hdependencies]
  rfl

end AgreeOn

end Catalogue

end OperationGate
