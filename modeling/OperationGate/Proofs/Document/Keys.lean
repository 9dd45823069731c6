import OperationGate.Proofs.Catalogue.Standalone
import OperationGate.Proofs.Document.Names

/-!
# Keys of selected fields

A field is selected under its alias, or else under its name, and either is the first name of the
field as it is written (`Document.Parser.key_of_aliased`). So the keys of selections are names of
their text, at any depth, and the selections of a catalogue have keys that are names:
`Catalogue.isName_of_mem_operation` and `Catalogue.isName_of_mem_fragment`.
-/

namespace OperationGate

open Grammar

namespace Selection

mutual

/-- The keys of the fields that a selection asks for itself, at any depth. -/
def keys : Selection → List String
  | .field aliasName name selections => aliasName.getD name :: allKeys selections
  | .spread _ => []
  | .inline _ selections => allKeys selections

/-- The keys of the fields that several selections ask for. -/
def allKeys : List Selection → List String
  | [] => []
  | x :: rest => x.keys ++ allKeys rest

end

lemma mem_allKeys_of_mem {selections : List Selection} {x : Selection} (hx : x ∈ selections)
    {k : String} (hk : k ∈ x.keys) : k ∈ allKeys selections := by
  induction hx with
  | head => exact List.mem_append_left _ hk
  | tail _ _ ih => exact List.mem_append_right _ ih

end Selection

/-! ## Selections as they are read -/

namespace Document.Parser

variable {ts r : List Token}

/-- A field has the key that its first name is, whether that is an alias or not. -/
theorem key_of_aliased {first : String} {as : Option String × String}
    (h : Reads (aliased first) ts as r) : as.1.getD as.2 = first := by
  obtain ⟨skipped, _, -, h⟩ := reads_bind.1 h
  split at h
  next =>
    obtain ⟨_, _, -, h⟩ := reads_bind.1 h
    obtain ⟨rfl, -⟩ := reads_pure.1 h
    rfl
  next =>
    obtain ⟨rfl, -⟩ := reads_pure.1 h
    rfl

/-- The keys of a selection are its first name and the keys of what stands in its braces. -/
lemma exists_inside {n : Node} {h : IsRest r ts} (hread : selection ts = some ⟨(n, r), h⟩) :
    ∃ inside, (inside = [] ∨ ∃ b e h, IsRest b ts ∧ selections b = some ⟨(inside, e), h⟩) ∧
      ∀ k ∈ n.outline.keys, .name k ∈ ts ∨ k ∈ Selection.allKeys (outlines inside) := by
  unfold selection at hread
  split at hread
  next m rest =>
    split at hread
    next => cases hread
    next aliasName name r₁ h₁ haliased =>
      have hkey (as : Arguments) (ds : List Directive) (inside : List Node) :
          ∀ k ∈ (Node.field aliasName name as ds inside).outline.keys,
            .name k ∈ Token.name m :: rest ∨ k ∈ Selection.allKeys (outlines inside) := by
        intro k hk
        rw [Node.outline, Selection.keys, key_of_aliased ⟨h₁, haliased⟩] at hk
        rcases List.mem_cons.1 hk with rfl | hk
        · exact .inl List.mem_cons_self
        · exact .inr hk
      split at hread
      next => cases hread
      next as r₂ h₂ _ =>
        split at hread
        next => cases hread
        next ds r₃ h₃ _ =>
          split at hread
          next =>
            cases hread
            exact ⟨[], .inl rfl, hkey as ds []⟩
          next b h₄ _ =>
            split at hread
            next => cases hread
            next inside e h₅ hinside =>
              cases hread
              exact ⟨inside, .inr
                ⟨b, _, h₅, .cons (h₄.suffix.trans ((h₃.trans h₂).trans h₁)), hinside⟩,
                hkey as ds inside⟩
  next rest =>
    split at hread
    next => cases hread
    next =>
      split at hread
      next => cases hread
      next =>
        cases hread
        exact ⟨[], .inl rfl, fun _ hk => absurd hk List.not_mem_nil⟩
    next condition r₁ h₁ _ =>
      split at hread
      next => cases hread
      next ds r₂ h₂ _ =>
        split at hread
        next => cases hread
        next b h₃ _ =>
          split at hread
          next => cases hread
          next inside e h₄ hinside =>
            cases hread
            exact ⟨inside, .inr ⟨b, _, h₄, .cons (h₃.suffix.trans (h₂.trans h₁)), hinside⟩,
              fun _ => .inr⟩
  next => cases hread

mutual

/-- The keys of a selection are names of its text. -/
lemma mem_of_mem_keys {ts r : List Token} {n : Node} {h : IsRest r ts}
    (hread : selection ts = some ⟨(n, r), h⟩) : ∀ k ∈ n.outline.keys, .name k ∈ ts := by
  obtain ⟨inside, hinside, hkeys⟩ := exists_inside hread
  intro k hk
  rcases hkeys k hk with hk | hk
  · exact hk
  · rcases hinside with rfl | ⟨b, e, _, hb, hinside⟩
    · cases hk
    · exact hb.suffix.subset (mem_of_mem_allKeys hinside k hk)
termination_by (ts.length, 0)
decreasing_by exact .left _ _ hb.length_lt

/-- The keys of several selections are names of their text. -/
lemma mem_of_mem_allKeys {ts r : List Token} {ns : List Node} {h : IsRest r ts}
    (hread : selections ts = some ⟨(ns, r), h⟩) :
    ∀ k ∈ Selection.allKeys (outlines ns), .name k ∈ ts := by
  unfold selections at hread
  split at hread
  next => cases hread
  next n r' h' hselection =>
    have hfirst := mem_of_mem_keys hselection
    split at hread
    next =>
      cases hread
      simpa [outlines, Selection.allKeys] using hfirst
    next =>
      split at hread
      next => cases hread
      next ns' r'' h'' hrest =>
        cases hread
        intro k hk
        rcases List.mem_append.1 hk with hk | hk
        · exact hfirst k hk
        · exact h'.suffix.subset (mem_of_mem_allKeys hrest k hk)
termination_by (ts.length, 1)
decreasing_by
  · exact .right _ Nat.one_pos
  · exact .left _ _ (by assumption : IsRest _ _).length_lt

end

lemma mem_of_reads_block {ns : List Node} (h : Reads block ts ns r) :
    ∀ k ∈ Selection.allKeys (outlines ns), .name k ∈ ts := by
  obtain ⟨_, _, hpunct, _, h⟩ := reads_bind.1 h
  obtain ⟨⟨⟨_, _⟩, hrest⟩, hread, he⟩ := Option.map_eq_some_iff.1 h
  cases he
  exact fun k hk => hpunct.suffix.subset (mem_of_mem_allKeys hread k hk)

end Document.Parser

namespace Document

/-- The selections of a definition. -/
def Definition.selections : Definition → List Node
  | .bare selections => selections
  | .operation op => op.selections
  | .fragment f => f.selections

/-- The keys of a definition are names of its text. -/
lemma mem_of_reads_definition {ts r : List Token} {d : Definition}
    (h : Reads Parser.definition ts d r) :
    ∀ k ∈ Selection.allKeys (outlines d.selections), .name k ∈ ts := by
  rcases cases_of_reads_definition h with ⟨ns, rfl, hblock⟩ | ⟨kind, op, rest, rfl, hrest,
    hop⟩ | ⟨f, rest, rfl, hrest, hf⟩
  · exact Parser.mem_of_reads_block hblock
  · obtain ⟨-, ts', hts', hblock⟩ := spec_of_reads_operation hop
    exact fun k hk => hrest.subset (hts'.subset (Parser.mem_of_reads_block hblock k hk))
  · obtain ⟨_, _, hname, hf⟩ := reads_bind.1 hf
    obtain ⟨_, _, hon, hf⟩ := reads_bind.1 hf
    obtain ⟨_, _, hcondition, hf⟩ := reads_bind.1 hf
    obtain ⟨_, _, hdirectives, hf⟩ := reads_bind.1 hf
    obtain ⟨_, _, hblock, hf⟩ := reads_bind.1 hf
    obtain ⟨rfl, -⟩ := reads_pure.1 hf
    have hsuffix := ((hdirectives.suffix.trans hcondition.suffix).trans hon.suffix).trans
      (hname.suffix.trans hrest)
    exact fun k hk => hsuffix.subset (Parser.mem_of_reads_block hblock k hk)

/-- The fields of a document have keys that are names. -/
lemma isName_of_mem_keys {s : String} {definitions : List Definition}
    (h : read? s = some definitions) {d : Definition} (hd : d ∈ definitions) :
    ∀ k ∈ Selection.allKeys (outlines d.selections), IsName k := by
  obtain ⟨ts, hts, hread⟩ := Option.bind_eq_some_iff.1 h
  obtain ⟨ts', r, hsuffix, hd⟩ := exists_reads_of_mem_toEnd hread hd
  exact fun k hk => Token.isName_of_ofText? hts k (hsuffix.subset (mem_of_reads_definition hd k hk))

end Document

/-! ## Selections of catalogues -/

namespace Catalogue

variable {s : Schema} {root : Option Path} {docs : List SourceDocument} {c : Catalogue}

/-- The fields of the operations of a catalogue have keys that are names. -/
theorem isName_of_mem_operation (h : ofDocuments s root docs = .ok c) {op : Operation}
    (hop : op ∈ c.operations) : ∀ k ∈ Selection.allKeys op.selections, IsName k := by
  obtain ⟨hwritten, -⟩ := (lists_of_ofDocuments h).operation hop
  obtain ⟨d, hd, hoperation⟩ := Definitions.exists_of_mem_operationsAmong hwritten
  obtain ⟨_, definitions, hread, hmem⟩ := Definitions.exists_read_of_mem_written hd
  cases d with
  | bare => cases hoperation
  | fragment => cases hoperation
  | operation written =>
    obtain ⟨_, _, he⟩ := Option.map_eq_some_iff.1 hoperation
    have hselections : Document.outlines written.selections = op.selections :=
      congrArg WrittenOperation.selections he
    exact hselections ▸ Document.isName_of_mem_keys hread hmem

/-- The fields of the fragments of a catalogue have keys that are names. -/
theorem isName_of_mem_fragment (h : ofDocuments s root docs = .ok c) {name : String} {f : Fragment}
    (hf : c.fragments.get? name = some f) : ∀ k ∈ Selection.allKeys f.selections, IsName k := by
  obtain ⟨hwritten, -⟩ := (lists_of_ofDocuments h).fragment hf
  obtain ⟨d, hd, hfragment⟩ := Definitions.exists_of_mem_fragmentsAmong hwritten
  obtain ⟨_, definitions, hread, hmem⟩ := Definitions.exists_read_of_mem_written hd
  cases d with
  | bare => cases hfragment
  | operation => cases hfragment
  | fragment written =>
    have hselections : Document.outlines written.selections = f.selections :=
      congrArg WrittenFragment.selections (Option.some.inj hfragment)
    exact hselections ▸ Document.isName_of_mem_keys hread hmem

end Catalogue

end OperationGate
