import Mathlib.Logic.Relation
import Mathlib.Order.WellFounded
import OperationGate.Catalogue.Cycles
import OperationGate.Proofs.Table

/-!
# Cycles are found

The search for cycles goes down from every fragment and stops at a fragment that it is inside of. It
finds one just when some fragment leads back to itself: `repeated?_eq_none_iff`. Without cycles the
fragments are well founded, so statements about them go by induction on what they spread
(`wellFounded_of_isAcyclic`).
-/

namespace OperationGate.Selection

lemma mem_allSpreads_iff {selections : List Selection} {n : String} :
    n ∈ allSpreads selections ↔ ∃ x ∈ selections, n ∈ x.spreads := by
  induction selections with
  | nil => simp [allSpreads]
  | cons x rest ih => simp [allSpreads, ih]

/-- A selection stands among others, inside whatever fields and inline fragments. -/
inductive Within (x : Selection) : List Selection → Prop where
  | here {selections : List Selection} : x ∈ selections → Within x selections
  | field {aliasName : Option String} {name : String} {inside selections : List Selection} :
    .field aliasName name inside ∈ selections → Within x inside → Within x selections
  | inline {condition : Option String} {inside selections : List Selection} :
    .inline condition inside ∈ selections → Within x inside → Within x selections

lemma Within.cons {x y : Selection} {selections : List Selection} (h : Within x selections) :
    Within x (y :: selections) := by
  cases h with
  | here hx => exact .here (List.mem_cons_of_mem _ hx)
  | field hy h => exact .field (List.mem_cons_of_mem _ hy) h
  | inline hy h => exact .inline (List.mem_cons_of_mem _ hy) h

mutual

lemma within_of_mem_spreads {x : Selection} {n : String} (h : n ∈ x.spreads) :
    Within (.spread n) [x] := by
  cases x with
  | field aliasName name inside =>
    rw [spreads] at h
    exact .field List.mem_cons_self (within_of_mem_allSpreads h)
  | spread name =>
    rw [spreads, List.mem_singleton] at h
    exact .here (h ▸ List.mem_cons_self)
  | inline condition inside =>
    rw [spreads] at h
    exact .inline List.mem_cons_self (within_of_mem_allSpreads h)

lemma within_of_mem_allSpreads {selections : List Selection} {n : String}
    (h : n ∈ allSpreads selections) : Within (.spread n) selections := by
  cases selections with
  | nil => cases h
  | cons x rest =>
    rcases List.mem_append.1 h with h | h
    · cases within_of_mem_spreads h with
      | here hx => exact .here (List.mem_cons.2 (.inl (List.mem_singleton.1 hx)))
      | field hx h => exact .field (List.mem_cons.2 (.inl (List.mem_singleton.1 hx))) h
      | inline hx h => exact .inline (List.mem_cons.2 (.inl (List.mem_singleton.1 hx))) h
    · exact (within_of_mem_allSpreads h).cons

end

/-- The spreads that are listed are those that stand among the selections. -/
lemma mem_allSpreads_iff_within {selections : List Selection} {n : String} :
    n ∈ allSpreads selections ↔ Within (.spread n) selections := by
  refine ⟨within_of_mem_allSpreads, fun h => ?_⟩
  induction h with
  | here hx => exact mem_allSpreads_iff.2 ⟨_, hx, by simp [spreads]⟩
  | field hy _ ih => exact mem_allSpreads_iff.2 ⟨_, hy, by rwa [spreads]⟩
  | inline hy _ ih => exact mem_allSpreads_iff.2 ⟨_, hy, by rwa [spreads]⟩

end OperationGate.Selection

namespace OperationGate.Cycles

open Relation

section Descent

variable {next : String → List String} {free trail done names : List String}

/-- A search that ends without a cycle has been everywhere below its names: every name that is done
or was to be searched has only finite descents. -/
lemma acc_of_descend {visited : List String} (h : descend next free trail done names = .ok visited)
    (hknown : ∀ n, n ∉ free → n ∉ trail → next n = [])
    (hdone : ∀ n ∈ done, Acc (fun b a => b ∈ next a) n) :
    (∀ n ∈ visited, Acc (fun b a => b ∈ next a) n) ∧ ∀ n ∈ names,
    Acc (fun b a => b ∈ next a) n := by
  fun_induction descend next free trail done names generalizing visited with
  | case1 free trail done =>
    cases h
    exact ⟨hdone, by simp⟩
  | case2 free trail done n rest hn ih =>
    obtain ⟨hvisited, hrest⟩ := ih h hknown hdone
    exact ⟨hvisited, List.forall_mem_cons.2 ⟨hdone n hn, hrest⟩⟩
  | case3 free trail done n rest hn hfree e hbelow => cases h
  | case4 free trail done n rest hn hfree below hbelow ihbelow ih =>
    have hknown' : ∀ m, m ∉ free.erase n → m ∉ n :: trail → next m = [] := by
      intro m hm htrail
      rw [List.mem_cons, not_or] at htrail
      exact hknown m (fun h => hm ((List.mem_erase_of_ne htrail.1).2 h)) htrail.2
    obtain ⟨hbelow', hnext⟩ := ihbelow hbelow hknown' hdone
    have hn : Acc (fun b a => b ∈ next a) n := .intro n hnext
    obtain ⟨hvisited, hrest⟩ := ih h hknown (List.forall_mem_cons.2 ⟨hn, hbelow'⟩)
    exact ⟨hvisited, List.forall_mem_cons.2 ⟨hn, hrest⟩⟩
  | case5 free trail done n rest hn hfree htrail => cases h
  | case6 free trail done n rest hn hfree htrail ih =>
    obtain ⟨hvisited, hrest⟩ := ih h hknown hdone
    -- Nothing is known under such a name, so it leads nowhere.
    have hn : Acc (fun b a => b ∈ next a) n := by
      refine .intro n fun m hm => ?_
      rw [hknown n hfree htrail] at hm
      cases hm
    exact ⟨hvisited, List.forall_mem_cons.2 ⟨hn, hrest⟩⟩

/-- A search that stops has come back to the name that it stops with. The trail leads to every name
that is searched. -/
lemma transGen_of_descend {e : String} (h : descend next free trail done names = .error e)
    (htrail : ∀ t ∈ trail, ∀ n ∈ names, TransGen (fun a b => b ∈ next a) t n) :
    TransGen (fun a b => b ∈ next a) e e := by
  fun_induction descend next free trail done names with
  | case1 free trail done => cases h
  | case2 free trail done n rest hn ih =>
    exact ih h fun t ht m hm => htrail t ht m (List.mem_cons_of_mem n hm)
  | case3 free trail done n rest hn hfree e hbelow ihbelow =>
    cases h
    refine ihbelow hbelow fun t ht m hm => ?_
    rcases List.mem_cons.1 ht with rfl | ht
    · exact .single hm
    · exact .tail (htrail t ht n List.mem_cons_self) hm
  | case4 free trail done n rest hn hfree below hbelow ihbelow ih =>
    exact ih h fun t ht m hm => htrail t ht m (List.mem_cons_of_mem n hm)
  | case5 free trail done n rest hn hfree hback =>
    cases h
    exact htrail e hback e List.mem_cons_self
  | case6 free trail done n rest hn hfree hback ih =>
    exact ih h fun t ht m hm => htrail t ht m (List.mem_cons_of_mem n hm)

end Descent

variable {fragments : Table WrittenFragment}

/-- Tells that a fragment spreads another, at any depth of its selections. -/
def Spreads (fragments : Table WrittenFragment) (a b : String) : Prop :=
  b ∈ spreadsOf fragments a

/-- Tells that no fragment leads back to itself. -/
def IsAcyclic (fragments : Table WrittenFragment) : Prop :=
  ∀ n, ¬TransGen (Spreads fragments) n n

lemma spreads_iff {a b : String} :
    Spreads fragments a b ↔ ∃ f, fragments.get? a =
      some f ∧ b ∈ Selection.allSpreads f.selections := by
  rw [Spreads, spreadsOf]
  cases fragments.get? a <;> simp

lemma spreadsOf_eq_nil {n : String} (h : n ∉ fragments.keys) : spreadsOf fragments n = [] := by
  rw [spreadsOf, Table.get?_eq_none_of_not_mem_keys h]

/-- The fragments spread by a fragment come before it if the search finds nothing. -/
lemma wellFounded_of_repeated? (h : repeated? fragments = none) :
    WellFounded fun b a => Spreads fragments a b := by
  unfold repeated? at h
  split at h
  next => cases h
  next visited hvisited =>
    obtain ⟨-, hkeys⟩ := acc_of_descend hvisited (fun n hn _ => spreadsOf_eq_nil hn) (by simp)
    refine ⟨fun n => ?_⟩
    by_cases hn : n ∈ fragments.keys
    · exact hkeys n hn
    · refine .intro n fun m hm => ?_
      rw [Spreads, spreadsOf_eq_nil hn] at hm
      cases hm

/-- The search finds nothing just when no fragment leads back to itself. -/
theorem repeated?_eq_none_iff : repeated? fragments = none ↔ IsAcyclic fragments := by
  constructor
  · intro h n hn
    have hwf : WellFounded fun b a => TransGen (Spreads fragments) a b :=
      Subrelation.wf (fun hab => transGen_swap.2 hab) (wellFounded_of_repeated? h).transGen
    exact hwf.asymmetric n n hn hn
  · intro h
    unfold repeated?
    split
    next n hn => exact absurd (transGen_of_descend hn (by simp)) (h n)
    next => rfl

/-- Without cycles, the fragments spread by a fragment come before it. -/
theorem wellFounded_of_isAcyclic (h : IsAcyclic fragments) :
    WellFounded fun b a => Spreads fragments a b :=
  wellFounded_of_repeated? (repeated?_eq_none_iff.2 h)

/-! ## What selections lead to -/

/-- Selections lead to a fragment: they spread it, or a fragment that leads to it. -/
def LeadTo (fragments : Table WrittenFragment) (selections : List Selection) (n : String) : Prop :=
  ∃ m ∈ Selection.allSpreads selections, ReflTransGen (Spreads fragments) m n

lemma LeadTo.tail {x : Selection} {rest : List Selection} {n : String}
    (h : LeadTo fragments rest n) : LeadTo fragments (x :: rest) n := by
  obtain ⟨m, hm, hn⟩ := h
  exact ⟨m, List.mem_append_right _ hm, hn⟩

lemma LeadTo.inside {condition : Option String} {inside rest : List Selection} {n : String}
    (h : LeadTo fragments inside n) : LeadTo fragments (.inline condition inside :: rest) n := by
  obtain ⟨m, hm, hn⟩ := h
  exact ⟨m, List.mem_append_left _ (by rwa [Selection.spreads]), hn⟩

/-- What the selections of a fragment lead to, a spread of the fragment leads to, but not to
itself. -/
lemma LeadTo.of_fragment (hacyclic : IsAcyclic fragments) {name : String} {f : WrittenFragment}
    (hf : fragments.get? name = some f) {n : String} (h : LeadTo fragments f.selections n)
    (rest : List Selection) : LeadTo fragments (.spread name :: rest) n ∧ n ≠ name := by
  obtain ⟨m, hm, hn⟩ := h
  have hname : Spreads fragments name m := spreads_iff.2 ⟨f, hf, hm⟩
  refine ⟨⟨name, List.mem_append_left _ (List.mem_singleton.2 rfl), .head hname hn⟩, ?_⟩
  rintro rfl
  exact hacyclic n (TransGen.head' hname hn)

end OperationGate.Cycles
