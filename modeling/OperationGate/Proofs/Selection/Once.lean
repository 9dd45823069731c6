import OperationGate.Proofs.Selection.Collected

/-!
# Fragments that are spread once

When an operation is executed, a fragment counts once in a selection set, however often it is spread
there. `CollectsOnce` collects fields in this way. The fields that are left out have keys that came
before, so the keys are the same in the same order: `GathersOnce.eraseDups_keys`.
-/

namespace OperationGate

namespace Collected

open Relation

/-- The fields that a selection set gives for values of a type if the fragments `seen` were spread
before. With them stand the fragments that were spread then. -/
inductive CollectsOnce (s : Schema) (fragments : Table WrittenFragment) (concrete : String) :
    List String → String → List Selection → List Collected → List String → Prop where
  | nil (seen : List String) (parent : String) :
    CollectsOnce s fragments concrete seen parent [] [] seen
  | field {seen seen' : List String} {parent : String} {rest : List Selection}
    {fs : List Collected} (aliasName : Option String) (name : String) (inside : List Selection) :
    CollectsOnce s fragments concrete seen parent rest fs seen' →
      CollectsOnce s fragments concrete seen parent (.field aliasName name inside :: rest)
        (⟨aliasName.getD name, name, parent, inside⟩ :: fs) seen'
  | inline {seen seen' seen'' : List String} {parent : String} {condition : Option String}
    {inside rest : List Selection} {fs gs : List Collected} :
    (∀ c ∈ condition, s.applies c concrete) →
      CollectsOnce s fragments concrete seen (condition.getD parent) inside fs seen' →
        CollectsOnce s fragments concrete seen' parent rest gs seen'' →
          CollectsOnce s fragments concrete seen parent (.inline condition inside :: rest)
            (fs ++ gs) seen''
  | inlineSkipped {seen seen' : List String} {parent condition : String} {rest : List Selection}
    {gs : List Collected} (inside : List Selection) :
    ¬s.applies condition concrete → CollectsOnce s fragments concrete seen parent rest gs seen' →
      CollectsOnce s fragments concrete seen parent
        (.inline (some condition) inside :: rest) gs seen'
  | spread {seen seen' seen'' : List String} {parent name : String} {f : WrittenFragment}
    {rest : List Selection} {fs gs : List Collected} :
    name ∉ seen → fragments.get? name = some f → s.applies f.condition concrete →
      CollectsOnce s fragments concrete (name :: seen) f.condition f.selections fs seen' →
        CollectsOnce s fragments concrete seen' parent rest gs seen'' →
          CollectsOnce s fragments concrete seen parent (.spread name :: rest) (fs ++ gs) seen''
  | spreadSkipped {seen seen' : List String} {parent name : String} {rest : List Selection}
    {gs : List Collected} :
    name ∉ seen → (∀ f, fragments.get? name = some f → ¬s.applies f.condition concrete) →
      CollectsOnce s fragments concrete (name :: seen) parent rest gs seen' →
        CollectsOnce s fragments concrete seen parent (.spread name :: rest) gs seen'
  | spreadSeen {seen seen' : List String} {parent name : String} {rest : List Selection}
    {gs : List Collected} :
    name ∈ seen → CollectsOnce s fragments concrete seen parent rest gs seen' →
      CollectsOnce s fragments concrete seen parent (.spread name :: rest) gs seen'

variable {s : Schema} {fragments : Table WrittenFragment} {concrete parent : String}
  {selections : List Selection} {seen seen' : List String} {fs gs : List Collected}

/-- Tells that all keys that a fragment gives are among those of a list. -/
def Covered (s : Schema) (fragments : Table WrittenFragment) (concrete : String)
    (keys : List String) (n : String) : Prop :=
  ∀ f, fragments.get? n = some f → s.applies f.condition concrete →
    ∀ fs, Collects s fragments concrete f.condition f.selections fs → ∀ x ∈ fs, x.key ∈ keys

lemma Covered.mono {keys more : List String} {n : String} (h : Covered s fragments concrete keys n)
    (hmore : ∀ k ∈ keys, k ∈ more) : Covered s fragments concrete more n :=
  fun f hf happlies fs hfs x hx => hmore _ (h f hf happlies fs hfs x hx)

/-- What comes after lists that agree but for repeated keys does not tell them apart. -/
lemma eraseDups_append_congr {as bs : List String} (h : as.eraseDups = bs.eraseDups)
    (cs : List String) : (as ++ cs).eraseDups = (bs ++ cs).eraseDups := by
  have hmem : ∀ k, k ∈ as ↔ k ∈ bs := fun k => by rw [← List.mem_eraseDups, h, List.mem_eraseDups]
  have hremove : cs.removeAll as = cs.removeAll bs := by
    simp only [List.removeAll, List.elem_eq_mem, hmem]
  rw [List.eraseDups_append, List.eraseDups_append, h, hremove]

/-- Keys that came before are not kept. -/
lemma eraseDups_append_of_forall_mem {as bs : List String} (h : ∀ k ∈ bs, k ∈ as)
    (cs : List String) : (as ++ (bs ++ cs)).eraseDups = (as ++ cs).eraseDups := by
  have hremove : bs.removeAll as = [] := by
    simpa [List.removeAll, List.filter_eq_nil_iff] using h
  rw [← List.append_assoc]
  refine eraseDups_append_congr ?_ cs
  rw [List.eraseDups_append, hremove]
  simp

/-- Tells that after some keys, fields of which some are left out have the same keys as all of them,
and that each fragment that was spread for them gave all its keys. -/
structure SameKeys (s : Schema) (fragments : Table WrittenFragment) (concrete : String)
    (keys : List String) (fs gs : List Collected) (seen seen' : List String) : Prop where
  agree : (keys ++ fs.map (·.key)).eraseDups = (keys ++ gs.map (·.key)).eraseDups
  covered : ∀ n ∈ seen', n ∉ seen → Covered s fragments concrete (keys ++ gs.map (·.key)) n

lemma SameKeys.append {keys : List String} {fs' gs' : List Collected} {seen'' : List String}
    (h : SameKeys s fragments concrete keys fs gs seen seen')
    (h' : SameKeys s fragments concrete (keys ++ gs.map (·.key)) fs' gs' seen' seen'') :
    SameKeys s fragments concrete keys (fs ++ fs') (gs ++ gs') seen seen'' where
  agree := by
    rw [List.map_append, List.map_append, ← List.append_assoc, ← List.append_assoc, ← h'.agree]
    exact eraseDups_append_congr h.agree _
  covered := by
    intro n hn hnot
    rw [List.map_append, ← List.append_assoc]
    by_cases hseen : n ∈ seen'
    · exact (h.covered n hseen hnot).mono fun k hk => List.mem_append_left _ hk
    · exact h'.covered n hn hseen

/-- What is needed of fragments that were spread before stays true of the selections that come
next. -/
lemma SameKeys.covered_next {keys : List String} {x : Selection} {rest : List Selection}
    (h : SameKeys s fragments concrete keys fs gs seen seen')
    (hkeys : ∀ n ∈ seen, Cycles.LeadTo fragments (x :: rest) n →
      Covered s fragments concrete keys n) :
    ∀ n ∈ seen', Cycles.LeadTo fragments rest n →
      Covered s fragments concrete (keys ++ gs.map (·.key)) n := by
  intro n hn hlead
  by_cases hseen : n ∈ seen
  · exact (hkeys n hseen hlead.tail).mono fun k hk => List.mem_append_left _ hk
  · exact h.covered n hn hseen

/-- A fragment that gave all its keys may count among those that were spread. -/
lemma SameKeys.forget {keys : List String} {n : String}
    (hn : Covered s fragments concrete (keys ++ gs.map (·.key)) n)
    (h : SameKeys s fragments concrete keys fs gs (n :: seen) seen') :
    SameKeys s fragments concrete keys fs gs seen seen' := by
  refine ⟨h.agree, fun m hm hnot => ?_⟩
  by_cases hmn : m = n
  · exact hmn ▸ hn
  · exact h.covered m hm (by simp [hmn, hnot])

/-- A fragment whose fields were collected gave all its keys. -/
lemma SameKeys.covered_fragment {keys : List String} {n : String} {f : WrittenFragment}
    (h : SameKeys s fragments concrete keys fs gs seen seen') (hf : fragments.get? n = some f)
    (hfs : Collects s fragments concrete f.condition f.selections fs) :
    Covered s fragments concrete (keys ++ gs.map (·.key)) n := by
  intro g hg _ fs' hfs' x hx
  cases hf.symm.trans hg
  cases hfs.unique hfs'
  have hkey : x.key ∈ (keys ++ fs.map (·.key)).eraseDups :=
    List.mem_eraseDups.2 (List.mem_append_right _ (List.mem_map_of_mem hx))
  rw [h.agree] at hkey
  exact List.mem_eraseDups.1 hkey

/-- Fields of a fragment that gave all its keys before may be left out. -/
lemma SameKeys.leave_out {keys : List String} {n : String} {f : WrittenFragment}
    {fs' : List Collected} (hn : Covered s fragments concrete keys n)
    (hf : fragments.get? n = some f) (happlies : s.applies f.condition concrete)
    (hfs' : Collects s fragments concrete f.condition f.selections fs')
    (h : SameKeys s fragments concrete keys fs gs seen seen') :
    SameKeys s fragments concrete keys (fs' ++ fs) gs seen seen' := by
  have hold : ∀ k ∈ fs'.map (·.key), k ∈ keys := by
    intro k hk
    obtain ⟨x, hx, rfl⟩ := List.mem_map.1 hk
    exact hn f hf happlies fs' hfs' x hx
  refine ⟨?_, h.covered⟩
  rw [List.map_append, eraseDups_append_of_forall_mem hold]
  exact h.agree

/-- Collecting with every fragment spread once gives the same keys. The fragments that were spread
before are of no concern unless the selections lead to them. -/
lemma CollectsOnce.sameKeys (hacyclic : Cycles.IsAcyclic fragments)
    (h : CollectsOnce s fragments concrete seen parent selections gs seen')
    (hfs : Collects s fragments concrete parent selections fs) (keys : List String)
    (hkeys : ∀ n ∈ seen, Cycles.LeadTo fragments selections n →
      Covered s fragments concrete keys n) :
    SameKeys s fragments concrete keys fs gs seen seen' := by
  induction h generalizing fs keys with
  | nil seen parent =>
    cases hfs
    exact ⟨rfl, fun n hn hnot => absurd hn hnot⟩
  | @field seen seen' parent rest gs aliasName name inside _ ih =>
    cases hfs with
    | field _ _ _ hrest =>
      have hrest := ih hrest (keys ++ [aliasName.getD name]) fun n hn hlead =>
        (hkeys n hn hlead.tail).mono fun k hk => List.mem_append_left _ hk
      exact ⟨by simpa using hrest.agree, by simpa using hrest.covered⟩
  | inline hc _ _ ihinside ih =>
    cases hfs with
    | inline _ hinside hrest =>
      have hinside := ihinside hinside keys fun n hn hlead => hkeys n hn hlead.inside
      exact hinside.append (ih hrest _ (hinside.covered_next hkeys))
    | inlineSkipped _ hnot _ => exact absurd (hc _ rfl) hnot
  | inlineSkipped inside hnot _ ih =>
    cases hfs with
    | inline hc _ _ => exact absurd (hc _ rfl) hnot
    | inlineSkipped _ _ hrest => exact ih hrest keys fun n hn hlead => hkeys n hn hlead.tail
  | @spread seen seen' seen'' parent name f rest gs gs' hname hf happlies _ _ ihinside ih =>
    cases hfs with
    | @spread _ _ _ _ fs fs' hf' _ hinside hrest =>
      cases hf.symm.trans hf'
      have hall := ihinside hinside keys fun n hn hlead => by
        obtain ⟨hlead, hne⟩ := hlead.of_fragment hacyclic hf rest
        exact hkeys n ((List.mem_cons.1 hn).resolve_left hne) hlead
      have hinside := hall.forget (hall.covered_fragment hf hinside)
      exact hinside.append (ih hrest _ (hinside.covered_next hkeys))
    | spreadSkipped hnot _ => exact absurd happlies (hnot _ hf)
  | @spreadSkipped seen seen' parent name rest gs hname hnot _ ih =>
    cases hfs with
    | spread hf happlies _ _ => exact absurd happlies (hnot _ hf)
    | spreadSkipped _ hrest =>
      have hskipped : ∀ {more}, Covered s fragments concrete more name := fun f hf happlies =>
        absurd happlies (hnot f hf)
      refine (ih hrest keys fun n hn hlead => ?_).forget hskipped
      rcases List.mem_cons.1 hn with rfl | hn
      · exact hskipped
      · exact hkeys n hn hlead.tail
  | @spreadSeen seen seen' parent name rest gs hname _ ih =>
    have hlead : Cycles.LeadTo fragments (.spread name :: rest) name :=
      ⟨name, List.mem_append_left _ (List.mem_singleton.2 rfl), .refl⟩
    have hrest : ∀ {fs}, Collects s fragments concrete parent rest fs →
        SameKeys s fragments concrete keys fs gs seen seen' := fun hrest =>
      ih hrest keys fun n hn hlead => hkeys n hn hlead.tail
    cases hfs with
    | spread hf happlies hinside hfs =>
      exact (hrest hfs).leave_out (hkeys name hname hlead) hf happlies hinside
    | spreadSkipped _ hfs => exact hrest hfs

/-- Selections can be collected with every fragment spread once if the fragments that they spread
can. -/
lemma exists_collectsOnce_of_spreads (parent : String) (selections : List Selection)
    (h : ∀ n ∈ Selection.allSpreads selections, ∀ f, fragments.get? n = some f → ∀ seen, ∃ fs seen',
      CollectsOnce s fragments concrete seen f.condition f.selections fs seen')
    (seen : List String) :
    ∃ fs seen', CollectsOnce s fragments concrete seen parent selections fs seen' := by
  match selections with
  | [] => exact ⟨[], seen, .nil seen parent⟩
  | x :: rest =>
    have hrest := exists_collectsOnce_of_spreads parent rest fun n hn => h n
      (List.mem_append_right _ hn)
    match x with
    | .field aliasName name inside =>
      obtain ⟨gs, seen', hgs⟩ := hrest seen
      exact ⟨_, _, .field aliasName name inside hgs⟩
    | .inline condition inside =>
      by_cases hc : ∀ c ∈ condition, s.applies c concrete
      · obtain ⟨fs, seen', hfs⟩ := exists_collectsOnce_of_spreads (condition.getD parent) inside
          (fun n hn => h n (List.mem_append_left _ (by rwa [Selection.spreads]))) seen
        obtain ⟨gs, seen'', hgs⟩ := hrest seen'
        exact ⟨_, _, .inline hc hfs hgs⟩
      · obtain ⟨gs, seen', hgs⟩ := hrest seen
        cases condition with
        | none => exact absurd (by simp) hc
        | some c => exact ⟨_, _, .inlineSkipped inside (by simpa using hc) hgs⟩
    | .spread name =>
      by_cases hname : name ∈ seen
      · obtain ⟨gs, seen', hgs⟩ := hrest seen
        exact ⟨_, _, .spreadSeen hname hgs⟩
      by_cases hf : ∃ f, fragments.get? name = some f ∧ s.applies f.condition concrete
      · obtain ⟨f, hf, happlies⟩ := hf
        have hmem : name ∈ Selection.allSpreads (.spread name :: rest) :=
          List.mem_append_left _ (List.mem_singleton.2 rfl)
        obtain ⟨fs, seen', hfs⟩ := h name hmem f hf (name :: seen)
        obtain ⟨gs, seen'', hgs⟩ := hrest seen'
        exact ⟨_, _, .spread hname hf happlies hfs hgs⟩
      · obtain ⟨gs, seen', hgs⟩ := hrest (name :: seen)
        exact ⟨_, _, .spreadSkipped hname (fun f hget happlies => hf ⟨f, hget, happlies⟩) hgs⟩
termination_by sizeOf selections

/-- Without cycles, every selection set can be collected with every fragment spread once. -/
lemma exists_collectsOnce (hacyclic : Cycles.IsAcyclic fragments) (concrete : String)
    (seen : List String) (parent : String) (selections : List Selection) :
    ∃ fs seen', CollectsOnce s fragments concrete seen parent selections fs seen' := by
  have hfragment : ∀ n f, fragments.get? n = some f →
      ∀ seen, ∃ fs seen', CollectsOnce s fragments concrete seen f.condition
        f.selections fs seen' := by
    intro n
    induction n using (Cycles.wellFounded_of_isAcyclic hacyclic).induction with
    | _ n ih =>
      intro f hf
      exact exists_collectsOnce_of_spreads _ _ fun m hm g hg => ih m
        (Cycles.spreads_iff.2 ⟨f, hf, hm⟩) g hg
  exact exists_collectsOnce_of_spreads _ _ (fun n _ f hf => hfragment n f hf) seen

/-- Several selection sets give fields for values of a type, where a fragment that was spread in one
of them is not spread again. -/
inductive GathersOnce (s : Schema) (fragments : Table WrittenFragment) (concrete : String) :
    List String → List (String × List Selection) → List (List Collected) → List String → Prop where
  | nil (seen : List String) : GathersOnce s fragments concrete seen [] [] seen
  | cons {seen seen' seen'' : List String} {p : String × List Selection}
    {parts : List (String × List Selection)} {fs : List Collected} {fss : List (List Collected)} :
    CollectsOnce s fragments concrete seen p.1 p.2 fs seen' →
      GathersOnce s fragments concrete seen' parts fss seen'' →
        GathersOnce s fragments concrete seen (p :: parts) (fs :: fss) seen''

lemma exists_gathersOnce (hacyclic : Cycles.IsAcyclic fragments) (concrete : String)
    (seen : List String) (parts : List (String × List Selection)) :
    ∃ fss seen', GathersOnce s fragments concrete seen parts fss seen' := by
  induction parts generalizing seen with
  | nil => exact ⟨[], seen, .nil seen⟩
  | cons p rest ih =>
    obtain ⟨fs, seen', hfs⟩ := exists_collectsOnce hacyclic concrete seen p.1 p.2
    obtain ⟨fss, seen'', hfss⟩ := ih seen'
    exact ⟨_, _, .cons hfs hfss⟩

lemma GathersOnce.sameKeys (hacyclic : Cycles.IsAcyclic fragments)
    {parts : List (String × List Selection)} {fss gss : List (List Collected)}
    (h : GathersOnce s fragments concrete seen parts gss seen')
    (hfss : Gathers s fragments concrete parts fss) (keys : List String)
    (hkeys : ∀ n ∈ seen, Covered s fragments concrete keys n) :
    SameKeys s fragments concrete keys fss.flatten gss.flatten seen seen' := by
  induction h generalizing fss keys with
  | nil seen =>
    cases hfss
    exact ⟨rfl, fun n hn hnot => absurd hn hnot⟩
  | @cons seen seen' seen'' p parts gs gss hp _ ih =>
    obtain _ | ⟨hp', hrest⟩ := hfss
    have hfirst := hp.sameKeys hacyclic hp' keys fun n hn _ => hkeys n hn
    refine hfirst.append (ih hrest _ fun n hn => ?_)
    by_cases hseen : n ∈ seen
    · exact (hkeys n hseen).mono fun k hk => List.mem_append_left _ hk
    · exact hfirst.covered n hn hseen

/-- The keys are the same, in the same order, whether a fragment counts each time that it is spread
or once. -/
theorem GathersOnce.eraseDups_keys (hacyclic : Cycles.IsAcyclic fragments)
    {parts : List (String × List Selection)} {fss gss : List (List Collected)}
    (h : GathersOnce s fragments concrete [] parts gss seen')
    (hfss : Gathers s fragments concrete parts fss) :
    (fss.flatten.map (·.key)).eraseDups = (gss.flatten.map (·.key)).eraseDups :=
  (h.sameKeys hacyclic hfss [] (by simp)).agree

end Collected

end OperationGate
