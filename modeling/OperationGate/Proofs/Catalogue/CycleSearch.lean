import OperationGate.Catalogue.Build
import OperationGate.Proofs.Catalogue.Cycles
import OperationGate.Proofs.Reach

/-!
# The search for cycles is exact

The search knows two things, the trail that it is inside of and what is done. `Descends` says how it
goes on from there, with nothing that would bound it: it may be gone wherever fragments lead, round
and round. On every table it ends, and in one way only (`descends_descend`, `Descends.unique`). It
fails just if a fragment spreads itself, directly or through others, and the fragment that it names
is one that does (`Catalogue.checkCycles_eq_error_iff`).
-/

namespace OperationGate

namespace Cycles

open Relation

variable {fragments : Table WrittenFragment} {trail done names : List String}

/-- How the search goes down from several names, below a trail and after what is done: it stops with
a name that it meets again on the trail, or it ends with all that is done. -/
inductive Descends (fragments : Table WrittenFragment) :
    List String → List String → List String → Except String (List String) → Prop where
  | nil {trail done : List String} : Descends fragments trail done [] (.ok done)
  | known {trail done rest : List String} {n : String} {r : Except String (List String)} :
    n ∈ done → Descends fragments trail done rest r → Descends fragments trail done (n :: rest) r
  | missing {trail done rest : List String} {n : String} {r : Except String (List String)} :
    n ∉ done → fragments.get? n = none → Descends fragments trail done rest r →
      Descends fragments trail done (n :: rest) r
  | back {trail done rest : List String} {n : String} {f : WrittenFragment} :
    n ∉ done → fragments.get? n = some f → n ∈ trail →
    Descends fragments trail done (n :: rest) (.error n)
  | failed {trail done rest : List String} {n e : String} {f : WrittenFragment} :
    n ∉ done → fragments.get? n = some f → n ∉ trail →
      Descends fragments (n :: trail) done (Selection.allSpreads f.selections) (.error e) →
        Descends fragments trail done (n :: rest) (.error e)
  | passed {trail done below rest : List String} {n : String} {f : WrittenFragment}
    {r : Except String (List String)} :
    n ∉ done → fragments.get? n = some f → n ∉ trail →
      Descends fragments (n :: trail) done (Selection.allSpreads f.selections) (.ok below) →
        Descends fragments trail (n :: below) rest r → Descends fragments trail done (n :: rest) r

/-- The search goes on in one way only. -/
theorem Descends.unique {r r' : Except String (List String)}
    (h : Descends fragments trail done names r) (h' : Descends fragments trail done names r') :
    r = r' := by
  induction h generalizing r' with
  | nil => cases h'; rfl
  | known hn _ ih =>
    cases h' with
    | known _ h' => exact ih h'
    | missing hnot _ _ => exact absurd hn hnot
    | back hnot _ _ => exact absurd hn hnot
    | failed hnot _ _ _ => exact absurd hn hnot
    | passed hnot _ _ _ _ => exact absurd hn hnot
  | missing hn hnone _ ih =>
    cases h' with
    | known hdone _ => exact absurd hdone hn
    | missing _ _ h' => exact ih h'
    | back _ hf _ => cases hnone.symm.trans hf
    | failed _ hf _ _ => cases hnone.symm.trans hf
    | passed _ hf _ _ _ => cases hnone.symm.trans hf
  | back hn hf hback =>
    cases h' with
    | known hdone _ => exact absurd hdone hn
    | missing _ hnone _ => cases hnone.symm.trans hf
    | back _ _ _ => rfl
    | failed _ _ hnot _ => exact absurd hback hnot
    | passed _ _ hnot _ _ => exact absurd hback hnot
  | failed hn hf hnot _ ih =>
    cases h' with
    | known hdone _ => exact absurd hdone hn
    | missing _ hnone _ => cases hnone.symm.trans hf
    | back _ _ hback => exact absurd hback hnot
    | failed _ hf' _ h' =>
      cases hf.symm.trans hf'
      exact Except.error.inj (ih h') ▸ rfl
    | passed _ hf' _ h' _ =>
      cases hf.symm.trans hf'
      cases ih h'
  | passed hn hf hnot _ _ ihbelow ih =>
    cases h' with
    | known hdone _ => exact absurd hdone hn
    | missing _ hnone _ => cases hnone.symm.trans hf
    | back _ _ hback => exact absurd hback hnot
    | failed _ hf' _ h' =>
      cases hf.symm.trans hf'
      cases ihbelow h'
    | passed _ hf' _ hbelow h' =>
      cases hf.symm.trans hf'
      cases ihbelow hbelow
      exact ih h'

/-- The search ends: it goes down from free names only, and there is one less each time. -/
theorem descends_descend {free : List String} (h : Reach.Remains fragments.keys trail free) :
    Descends fragments trail done names (descend (spreadsOf fragments) free trail done names) := by
  fun_induction descend (spreadsOf fragments) free trail done names with
  | case1 free trail done => exact .nil
  | case2 free trail done n rest hn ih => exact .known hn (ih h)
  | case3 free trail done n rest hn hfree e hbelow ih =>
    obtain ⟨f, hf⟩ := Table.mem_keys_iff.1 ((h.mem_iff n).2 (.inl hfree))
    have hdown := ih (h.visit hfree)
    rw [hbelow, spreadsOf, hf] at hdown
    exact .failed hn hf (h.apart n hfree) hdown
  | case4 free trail done n rest hn hfree below hbelow ihbelow ih =>
    obtain ⟨f, hf⟩ := Table.mem_keys_iff.1 ((h.mem_iff n).2 (.inl hfree))
    have hdown := ihbelow (h.visit hfree)
    rw [hbelow, spreadsOf, hf] at hdown
    exact .passed hn hf (h.apart n hfree) hdown (ih h)
  | case5 free trail done n rest hn hfree hback =>
    obtain ⟨f, hf⟩ := Table.mem_keys_iff.1 ((h.mem_iff n).2 (.inr hback))
    exact .back hn hf hback
  | case6 free trail done n rest hn hfree hback ih =>
    have hnone : fragments.get? n = none :=
      Table.get?_eq_none_of_not_mem_keys fun hkey => ((h.mem_iff n).1 hkey).elim hfree hback
    exact .missing hn hnone (ih h)

/-- A fragment has a spread of another among its selections, at any depth. -/
def Mentions (fragments : Table WrittenFragment) (a b : String) : Prop :=
  ∃ f, fragments.get? a = some f ∧ Selection.Within (.spread b) f.selections

lemma mentions_eq_spreads (fragments : Table WrittenFragment) :
    Mentions fragments = Spreads fragments := by
  funext a b
  rw [eq_iff_iff, spreads_iff, Mentions]
  simp only [Selection.mem_allSpreads_iff_within]

/-- All names of a table are free at first. -/
lemma remains_keys (fragments : Table WrittenFragment) :
    Reach.Remains fragments.keys [] fragments.keys :=
  Reach.remains_nil (Table.ascending_keys fragments).nodup

/-- The search stops with a name just if it is the one that is found to be repeated. -/
lemma descends_error_iff {n : String} :
    Descends fragments [] [] fragments.keys (.error n) ↔ repeated? fragments = some n := by
  have hends := @descends_descend fragments [] [] fragments.keys _ (remains_keys fragments)
  unfold repeated?
  constructor
  · intro h
    rw [hends.unique h]
  · intro h
    split at h
    next m hm =>
      rw [hm, Option.some.inj h] at hends
      exact hends
    next => cases h

end Cycles

namespace Catalogue

open Relation Cycles

/-- On every table the search for cycles ends, in one way. It fails just if some fragment leads back
to itself, and then it names a fragment of the table that does, with its file. -/
theorem checkCycles_eq_error_iff (fragments : Table WrittenFragment) :
    (∃! r, Descends fragments [] [] fragments.keys r) ∧
      ((∃ e, checkCycles fragments = .error e) ↔ ∃ n, TransGen (Mentions fragments) n n) ∧
      ∀ e, checkCycles fragments = .error e → ∃ n f, Descends fragments []
        [] fragments.keys (.error n) ∧
        fragments.get? n = some f ∧ e = .validation f.file (.fragmentCycle n) ∧
          TransGen (Mentions fragments) n n := by
  rw [mentions_eq_spreads]
  have hnamed : ∀ n, repeated? fragments = some n → TransGen (Spreads fragments) n n := by
    intro n h
    unfold repeated? at h
    split at h
    next m hm =>
      cases h
      exact transGen_of_descend hm (by simp)
    next => cases h
  refine ⟨⟨_, descends_descend (remains_keys fragments), fun r h =>
    h.unique (descends_descend (remains_keys fragments))⟩, ⟨?_, ?_⟩, ?_⟩
  · rintro ⟨e, he⟩
    rw [checkCycles] at he
    cases hrepeated : repeated? fragments with
    | none =>
      rw [hrepeated] at he
      cases he
    | some n => exact ⟨n, hnamed n hrepeated⟩
  · rintro ⟨n, hn⟩
    cases hrepeated : repeated? fragments with
    | none => exact absurd hn (repeated?_eq_none_iff.1 hrepeated n)
    | some m => exact ⟨_, by rw [checkCycles, hrepeated]⟩
  · intro e he
    rw [checkCycles] at he
    cases hrepeated : repeated? fragments with
    | none =>
      rw [hrepeated] at he
      cases he
    | some n =>
      rw [hrepeated] at he
      have hcycle := hnamed n hrepeated
      -- A fragment that leads anywhere is one of the table.
      obtain ⟨m, hm, -⟩ := TransGen.head'_iff.1 hcycle
      obtain ⟨f, hf, -⟩ := spreads_iff.1 hm
      cases he
      exact ⟨n, f, descends_error_iff.2 hrepeated, hf, by rw [hf]; rfl, hcycle⟩

end Catalogue

end OperationGate
