import OperationGate.Proofs.Catalogue.Acceptance
import OperationGate.Proofs.Selection.Collected

/-!
# Levels of a result

The selection set of an operation or of a fragment is a level of its result, and so is all that is
selected inside one key of a level, put together from every place where the key is met. In what one
selection set gives for values of a type, a key stands for one field: `Collected.name_eq_of_key_eq`.
What is put together from several places is not compared, so a level can give one key to two fields
(`Collected.exists_level_with_shared_key`).
-/

namespace OperationGate.Collected

variable {s : Schema} {c : Catalogue}

/-- Selection sets that make up one level of the result of an operation or of a fragment, each with
the type that it is written for. -/
inductive IsLevel (s : Schema) (c : Catalogue) : List (String × List Selection) → Prop where
  | operation {op : Operation} : op ∈ c.operations → IsLevel s c [(op.rootType, op.selections)]
  | fragment {name : String} {f : WrittenFragment} :
    c.written.get? name = some f → IsLevel s c [(f.condition, f.selections)]
  | inside {concrete : String} {parts : List (String × List Selection)}
    {fss : List (List Collected)} {f : Collected} :
    IsLevel s c parts → Gathers s c.written concrete parts fss → f ∈ fss.flatten →
      IsLevel s c ((fss.flatten.filter fun f' => f'.key = f.key).map (part s))

/-- A field that fits has a selection set that fits. -/
lemma Fits.part {f : Collected} {fragments : Table WrittenFragment} (h : f.Fits s fragments) :
    Validity.FitsSet s fragments (part s f).1 (part s f).2 := by
  obtain ⟨-, hnone⟩ | ⟨-, g, hg, hset⟩ := h
  · rw [Collected.part, hnone]
    exact Validity.fitsSet_nil
  · rw [Collected.part, hg, Option.elim_some]
    exact hset

/-- The selection sets of a level fit the types that they are written for. -/
lemma IsLevel.fits (hc : c.FitsSchema s) {parts : List (String × List Selection)}
    (h : IsLevel s c parts) : ∀ p ∈ parts, Validity.FitsSet s c.written p.1 p.2 := by
  induction h with
  | operation hop => simpa using (hc.operations hop).2.2
  | fragment hf => simpa using (hc.fragments hf).selections
  | inside _ hfss _ ih =>
    intro p hp
    obtain ⟨f, hf, rfl⟩ := List.mem_map.1 hp
    obtain ⟨p, hp, fs, hfs, hf⟩ := hfss.exists_collects (List.mem_filter.1 hf).1
    exact (hfs.fits (fun _ _ => hc.fragments) (fun _ => (ih p hp).fits) hf).part

/-- A condition on an object type applies to that type only. -/
lemma eq_of_applies_of_object (hnamed : ∀ n t, s.get? n = some t → t.name = n)
    {condition concrete : String} (h : s.applies condition concrete)
    (hobject : s.kind? condition = some .object) : condition = concrete := by
  obtain ⟨t, ht, hkind⟩ := Option.map_eq_some_iff.1 hobject
  simp only [Schema.applies, Schema.possibleTypes, ht, hkind, hnamed condition t ht,
    Bool.or_eq_true, decide_eq_true_eq, List.contains_eq_mem, List.mem_singleton] at h
  exact h.elim id Eq.symm

/-- Two fields that are collected for values of one type belong to no two object types. -/
lemma Collects.not_exclusive (hnamed : ∀ n t, s.get? n = some t → t.name = n)
    {fragments : Table WrittenFragment} {concrete parent : String} {selections : List Selection}
    {fs : List Collected} (h : Collects s fragments concrete parent selections fs)
    (happlies : s.applies parent concrete) {f g : Collected} (hf : f ∈ fs) (hg : g ∈ fs) :
    ¬KeyUse.exclusive s ⟨f.key, f.name, f.parent⟩ ⟨g.key, g.name, g.parent⟩ := by
  have hparent : ∀ x ∈ fs, s.kind? x.parent = some .object → x.parent = concrete := by
    intro x hx hobject
    refine eq_of_applies_of_object hnamed ?_ hobject
    rcases h.parent_eq_or_applies hx with hp | hp
    · exact hp ▸ happlies
    · exact hp
  intro hexclusive
  simp only [KeyUse.exclusive, Bool.and_eq_true, decide_eq_true_eq] at hexclusive
  obtain ⟨⟨hne, hfo⟩, hgo⟩ := hexclusive
  exact hne ((hparent f hf hfo).trans (hparent g hg hgo).symm)

/-- In what one selection set of a level gives for values of a type, a key stands for one field. -/
theorem name_eq_of_key_eq (hnamed : ∀ n t, s.get? n = some t → t.name = n) {root : Option Path}
    {docs : List SourceDocument} (hc : Catalogue.ofDocuments s root docs = .ok c)
    {parts : List (String × List Selection)} (hparts : IsLevel s c parts)
    {p : String × List Selection} (hp : p ∈ parts) {concrete : String}
    (happlies : s.applies p.1 concrete) {fs : List Collected}
    (hfs : Collects s c.written concrete p.1 p.2 fs) {f g : Collected} (hf : f ∈ fs) (hg : g ∈ fs)
    (hkey : f.key = g.key) : f.name = g.name := by
  have hfits := hparts.fits (Catalogue.fitsSchema_of_ofDocuments hc) p hp
  have hclash := hfits.not_clashes (hfs.met hf) (hfs.met hg)
  have hexclusive := hfs.not_exclusive hnamed happlies hf hg
  by_contra hname
  refine hclash ?_
  simp only [KeyUse.clashes, Bool.and_eq_true, decide_eq_true_eq]
  exact ⟨⟨hkey, hname⟩, by simpa using hexclusive⟩

/-- A schema with one object type below the root. -/
def sampleSchema : Schema :=
  Catalogue.schemaOf
    [.bare "String" .scalar none,
      Catalogue.sampleObject "A" [] [Catalogue.sampleField "b" "String",
        Catalogue.sampleField "c" "String"],
      Catalogue.sampleObject "Query" [] [Catalogue.sampleField "a" "A"]]

lemma named_sampleSchema {n : String} {t : SchemaType} (h : sampleSchema.get? n = some t) :
    t.name = n :=
  ((Catalogue.get?_schemaOf_eq_some_iff (by decide)).1 h).2

/-- A document that gives one key to two fields, inside two fields of one key. -/
def sampleDocument : SourceDocument where
  path := "q.graphql"
  source := "query q \x7b a \x7b x: b \x7d a \x7b x: c \x7d \x7d"

/-- A selection set of the sample document: a field under the key `x`. -/
def sampleInside (name : String) : List Selection :=
  [.field (some "x") name []]

/-- The selections of the sample document. -/
def sampleSelections : List Selection :=
  [.field none "a" (sampleInside "b"), .field none "a" (sampleInside "c")]

lemma exists_sample : ∃ c, Catalogue.ofDocuments sampleSchema none [sampleDocument] = .ok c ∧
    IsLevel sampleSchema c [("Query", sampleSelections)] := by
  have hok : (Catalogue.ofDocuments sampleSchema none [sampleDocument]).toOption.map (fun c =>
      c.operations.map fun op => (op.rootType, op.selections)) =
        some [("Query", sampleSelections)] := by cbv
  cases hc : Catalogue.ofDocuments sampleSchema none [sampleDocument] with
  | error e => simp [hc, Except.toOption] at hok
  | ok c =>
    simp only [hc, Except.toOption, Option.map_some, Option.some.injEq] at hok
    have hmem : ("Query", sampleSelections) ∈ c.operations.map fun op =>
      (op.rootType, op.selections) := by
      rw [hok]
      exact List.mem_singleton.2 rfl
    obtain ⟨op, hop, he⟩ := List.mem_map.1 hmem
    obtain ⟨hroot, hselections⟩ := Prod.mk.inj he
    exact ⟨c, rfl, hroot ▸ hselections ▸ .operation hop⟩

/-- A field of the root of the sample document. -/
def sampleRootField (inside : String) : Collected :=
  ⟨"a", "a", "Query", sampleInside inside⟩

lemma collects_sample (fragments : Table WrittenFragment) :
    Collects sampleSchema fragments "Query" "Query" sampleSelections [sampleRootField "b",
      sampleRootField "c"] :=
  .field none "a" _ (.field none "a" _ (.nil _))

/-- At the root of the sample document, a key stands for one field. -/
theorem name_eq_of_key_eq_sample : ∃ c, (∀ n t, sampleSchema.get? n = some t → t.name = n) ∧
    Catalogue.ofDocuments sampleSchema none [sampleDocument] = .ok c ∧
    IsLevel sampleSchema c [("Query", sampleSelections)] ∧ sampleSchema.applies "Query" "Query" ∧
    Collects sampleSchema c.written "Query" "Query" sampleSelections [sampleRootField "b",
      sampleRootField "c"] ∧
    (sampleRootField "b").name = (sampleRootField "c").name := by
  obtain ⟨c, hc, hlevel⟩ := exists_sample
  have happlies : sampleSchema.applies "Query" "Query" := by simp [Schema.applies]
  have hcollects := collects_sample c.written
  exact ⟨c, fun _ _ => named_sampleSchema, hc, hlevel, happlies, hcollects,
    name_eq_of_key_eq (fun _ _ => named_sampleSchema) hc hlevel
      (List.mem_singleton.2 rfl) happlies hcollects (by simp) (by simp) rfl⟩

/-- Inside the key of the sample document, one key stands for two fields, and yet the document is
accepted. -/
theorem exists_level_with_shared_key : ∃ c parts fss,
    Catalogue.ofDocuments sampleSchema none [sampleDocument] = .ok c ∧
      IsLevel sampleSchema c parts ∧ Gathers sampleSchema c.written "A" parts fss ∧
        ∃ f ∈ fss.flatten, ∃ g ∈ fss.flatten, f.key = g.key ∧ f.name ≠ g.name := by
  obtain ⟨c, hc, hlevel⟩ := exists_sample
  have hroot : Gathers sampleSchema c.written "Query" [("Query", sampleSelections)]
      [[sampleRootField "b", sampleRootField "c"]] := .cons (collects_sample _) .nil
  have htype : sampleSchema.field? "Query" "a" = some (Catalogue.sampleField "a" "A") := by cbv
  have hinside : IsLevel sampleSchema c [("A", sampleInside "b"), ("A", sampleInside "c")] := by
    have hfield : sampleRootField "b" ∈ [[sampleRootField "b", sampleRootField "c"]].flatten := by
      simp
    simpa [sampleRootField, part, htype, Catalogue.sampleField,
      TypeRef.base] using hlevel.inside hroot hfield
  have hfields : Gathers sampleSchema c.written "A" [("A", sampleInside "b"),
      ("A", sampleInside "c")] [[⟨"x", "b", "A", []⟩], [⟨"x", "c", "A", []⟩]] :=
    .cons (.field (some "x") "b" [] (.nil _)) (.cons (.field (some "x") "c" [] (.nil _)) .nil)
  exact ⟨c, _, _, hc, hinside, hfields, ⟨"x", "b", "A", []⟩, by simp,
    ⟨"x", "c", "A", []⟩, by simp, rfl, by simp⟩

end OperationGate.Collected
